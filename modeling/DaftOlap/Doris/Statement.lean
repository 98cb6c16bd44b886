/-
Doris statements as data.

A trusted fragment is read as a list of tokens, which `fragmentLoop` writes one
after the other; a SELECT is read as a `Statement`, whose parts are the names, the
fragment, the predicate and the numbers that went into it.  `buildSelect_eq_ok`
says that what `build_select` returns is the template of the statement, written in
the style of the transport.
-/
import DaftOlap.Doris.Sql

namespace DaftOlap
namespace Doris

open Python

/-! ## The tokens of a fragment -/

/-- A token of a trusted fragment. -/
inductive FragmentToken
  | raw (character : PyChar)
  | marker (name : Text)
deriving DecidableEq, Repr

/-- The tokens of the rest of a fragment, and the quote open at its end. -/
def fragmentTokens : (skip : Nat) → (previous quote : Option PyChar) → Text →
    List FragmentToken × Option PyChar
  | _, _, quote, [] => ([], quote)
  | skip + 1, _, quote, character :: rest => fragmentTokens skip (some character) quote rest
  | 0, _, some quote, character :: rest =>
    if character = '\\' ∧ quote ≠ '`' ∧ rest ≠ [] then
      let (tokens, last) := fragmentTokens 1 (some character) (some quote) rest
      (.raw character :: .raw (rest.headD ' ') :: tokens, last)
    else if character = quote then
      if rest.head? = some quote then
        let (tokens, last) := fragmentTokens 1 (some character) (some quote) rest
        (.raw character :: .raw quote :: tokens, last)
      else
        let (tokens, last) := fragmentTokens 0 (some character) none rest
        (.raw character :: tokens, last)
    else
      let (tokens, last) := fragmentTokens 0 (some character) (some quote) rest
      (.raw character :: tokens, last)
  | 0, previous, none, character :: rest =>
    if isQuote character then
      let (tokens, last) := fragmentTokens 0 (some character) (some character) rest
      (.raw character :: tokens, last)
    else
      match markerName? previous character rest with
      | some name =>
        let (tokens, last) := fragmentTokens name.length (some character) none rest
        (.marker name :: tokens, last)
      | none =>
        let (tokens, last) := fragmentTokens 0 (some character) none rest
        (.raw character :: tokens, last)

/-- What the loop does with one token. -/
def FragmentState.append (style : ParameterStyle) (bindRequired : Bool)
    (valuesByName : List (Text × PyValue)) (state : FragmentState) :
    FragmentToken → Except PyException FragmentState
  | .raw character => .ok (state.appendRaw style bindRequired character)
  | .marker name => state.appendMarker style valuesByName name

/-- The loop appends the tokens of the fragment one by one. -/
theorem fragmentLoop_eq (style : ParameterStyle) (bindRequired : Bool)
    (valuesByName : List (Text × PyValue)) (skip : Nat) (previous quote : Option PyChar)
    (state : FragmentState) (t : Text) :
    fragmentLoop style bindRequired valuesByName skip previous quote state t = (do
      let final ← (fragmentTokens skip previous quote t).1.foldlM
        (FragmentState.append style bindRequired valuesByName) state
      return (final, (fragmentTokens skip previous quote t).2)) := by
  induction t generalizing skip previous quote state with
  | nil => cases skip <;> cases quote <;> rfl
  | cons character rest ih =>
    cases skip with
    | succ skip => exact ih skip (some character) quote state
    | zero =>
      cases quote with
      | some quote =>
        rw [fragmentLoop, fragmentTokens]
        split
        · rw [ih]
          rfl
        · split
          · split
            · rw [ih]
              rfl
            · rw [ih]
              rfl
          · rw [ih]
            rfl
      | none =>
        rw [fragmentLoop, fragmentTokens]
        split
        · rw [ih]
          rfl
        · cases hmarker : markerName? previous character rest with
          | some name =>
            simp only [ih, List.foldlM_cons, bind_assoc]
            rfl
          | none =>
            simp only [ih]
            rfl

/-- The names of the markers, in order. -/
def markerNames (tokens : List FragmentToken) : List Text :=
  tokens.filterMap fun
    | .raw _ => none
    | .marker name => some name

/-- The text of a fragment around its markers, each with its value. -/
def tokensTemplate (valuesByName : List (Text × PyValue)) (tokens : List FragmentToken) :
    Template PyValue :=
  tokens.map fun
    | .raw character => if character = '%' then .percent else .text [character]
    | .marker name => .hole ((valuesByName.lookup name).getD .none)

theorem clean_tokensTemplate (valuesByName : List (Text × PyValue))
    (tokens : List FragmentToken) : ∀ p ∈ tokensTemplate valuesByName tokens, p.Clean := by
  intro p hp
  obtain ⟨token, -, rfl⟩ := List.mem_map.mp hp
  cases token with
  | raw character =>
    by_cases hc : character = PyChar.scalar '%'
    · simp [hc]
    · simpa [hc] using Ne.symm hc
  | marker name => simp

theorem holes_tokensTemplate (valuesByName : List (Text × PyValue))
    (tokens : List FragmentToken) :
    (tokensTemplate valuesByName tokens).holes =
      (markerNames tokens).map fun name => (valuesByName.lookup name).getD .none := by
  induction tokens with
  | nil => rfl
  | cons token tokens ih =>
    cases token with
    | raw character =>
      by_cases hc : character = PyChar.scalar '%'
      · simpa [tokensTemplate, markerNames, hc] using ih
      · simpa [tokensTemplate, markerNames, hc] using ih
    | marker name => simpa [tokensTemplate, markerNames] using ih

theorem exists_lookup_of_mem {valuesByName : List (Text × PyValue)} {name : Text}
    (h : name ∈ valuesByName.map Prod.fst) : ∃ value, valuesByName.lookup name = some value := by
  cases hlookup : valuesByName.lookup name with
  | some value => exact ⟨value, rfl⟩
  | none =>
    obtain ⟨entry, hentry, rfl⟩ := List.mem_map.mp h
    simpa using List.lookup_eq_none_iff.mp hlookup entry hentry

/-- Appending tokens whose names all have a value writes their template. -/
theorem foldlM_append (style : ParameterStyle) (bindRequired : Bool)
    (valuesByName : List (Text × PyValue)) {tokens : List FragmentToken}
    (h : ∀ name ∈ markerNames tokens, name ∈ valuesByName.map Prod.fst) (state : FragmentState) :
    tokens.foldlM (FragmentState.append style bindRequired valuesByName) state = (do
      let (rendered, values) ← Template.write (writeLiteral style)
        (rawText style bindRequired '%') state.values (tokensTemplate valuesByName tokens)
      return { rendered := state.rendered ++ rendered, values,
               used := state.used ++ markerNames tokens }) := by
  induction tokens generalizing state with
  | nil => simp [tokensTemplate, Template.write, markerNames]
  | cons token tokens ih =>
    rw [List.foldlM_cons]
    cases token with
    | raw character =>
      have ih := ih h
      by_cases hc : character = PyChar.scalar '%'
      · subst hc
        simp [FragmentState.append, FragmentState.appendRaw, ih, tokensTemplate, Template.write,
          markerNames]
      · simp [FragmentState.append, FragmentState.appendRaw, ih, tokensTemplate, Template.write,
          markerNames, hc, rawText]
    | marker name =>
      simp only [markerNames, List.filterMap_cons, List.forall_mem_cons] at h
      have ih := ih h.2
      obtain ⟨value, hvalue⟩ := exists_lookup_of_mem h.1
      have hname : FragmentState.append style bindRequired valuesByName state (.marker name) =
          (do
            let (replacement, values) ← writeLiteral style state.values value
            return { rendered := state.rendered ++ replacement, values,
                     used := state.used ++ [name] }) := by
        simp only [FragmentState.append, FragmentState.appendMarker, hvalue]
        cases style with
        | mysql => rfl
        | flight => simp only [writeLiteral, bind_assoc]; rfl
      simp only [hname, bind_assoc, pure_eq_ok, ok_bind, ih]
      simp [tokensTemplate, Template.write, hvalue, markerNames]

/-- A fragment is rendered only when each of its markers has a value. -/
theorem markerNames_of_foldlM {style : ParameterStyle} {bindRequired : Bool}
    {valuesByName : List (Text × PyValue)} {tokens : List FragmentToken}
    {state final : FragmentState}
    (h : tokens.foldlM (FragmentState.append style bindRequired valuesByName) state = .ok final) :
    ∀ name ∈ markerNames tokens, name ∈ valuesByName.map Prod.fst := by
  induction tokens generalizing state with
  | nil => simp [markerNames]
  | cons token tokens ih =>
    rw [List.foldlM_cons] at h
    obtain ⟨next, hnext, hrest⟩ := bind_eq_ok.mp h
    cases token with
    | raw character => exact ih hrest
    | marker name =>
      simp only [markerNames, List.filterMap_cons, List.forall_mem_cons]
      refine ⟨?_, ih hrest⟩
      simp only [FragmentState.append, FragmentState.appendMarker] at hnext
      split at hnext
      · cases hnext
      · next value hvalue =>
        obtain ⟨before, after, hsplit, -⟩ := List.lookup_eq_some_iff.mp hvalue
        rw [hsplit]
        simp

/-- A fragment is rendered exactly when no parameter has two values, no quote is left open
and the names of its markers are those of the parameters; then the template of its tokens is
written in the style. -/
theorem renderUnsafeFragment_eq_ok_iff {fragment : Text} {queryParameters : List (Text × PyValue)}
    {style : ParameterStyle} {bindRequired : Bool} {r : Text × List PyValue} :
    renderUnsafeFragment fragment queryParameters style bindRequired = .ok r ↔
      (queryParameters.map Prod.fst).Nodup ∧ (fragmentTokens 0 none none fragment).2 = none ∧
      (∀ name, name ∈ queryParameters.map Prod.fst ↔
        name ∈ markerNames (fragmentTokens 0 none none fragment).1) ∧
      Template.write (writeLiteral style) (rawText style bindRequired '%') []
        (tokensTemplate queryParameters (fragmentTokens 0 none none fragment).1) = .ok r := by
  unfold renderUnsafeFragment
  by_cases hnodup : (queryParameters.map Prod.fst).Nodup
  · simp only [hnodup, not_true_eq_false, if_false, true_and]
    rw [fragmentLoop_eq, bind_assoc]
    constructor
    · intro h
      obtain ⟨final, hfinal, h⟩ := bind_eq_ok.mp h
      have hnames := markerNames_of_foldlM hfinal
      rw [foldlM_append _ _ _ hnames] at hfinal
      obtain ⟨⟨rendered, values⟩, hwrite, hfinal⟩ := bind_eq_ok.mp hfinal
      obtain rfl := Except.ok.inj hfinal
      simp only [pure_eq_ok, ok_bind, List.nil_append] at h
      split at h
      · cases h
      · next hquote =>
        split at h
        · cases h
        · next hunused =>
          rw [not_not] at hquote hunused
          refine ⟨hquote, fun name => ⟨fun hname => ?_, hnames name⟩,
            by rw [hwrite, ← Except.ok.inj h]⟩
          simpa using List.filter_eq_nil_iff.mp hunused name hname
    · intro h
      obtain ⟨hquote, hnames, hwrite⟩ := h
      rw [foldlM_append _ _ _ fun name hname => (hnames name).mpr hname, hwrite]
      have hunused : (queryParameters.map Prod.fst).filter
          (· ∉ markerNames (fragmentTokens 0 none none fragment).1) = [] := by
        rw [List.filter_eq_nil_iff]
        intro name hname
        simpa using (hnames name).mp hname
      simp only [ok_bind, pure_eq_ok, hquote, List.nil_append, hunused, ne_eq, not_true_eq_false,
        if_false]
  · simp only [hnodup, not_false_eq_true, if_true, false_and]
    exact iff_of_false (fun h => by cases h) id

/-- What a rendered fragment is: the template of its tokens, written in the style.
The names of its markers are exactly those of the parameters. -/
theorem renderUnsafeFragment_eq_ok {fragment : Text} {queryParameters : List (Text × PyValue)}
    {style : ParameterStyle} {bindRequired : Bool} {r : Text × List PyValue}
    (h : renderUnsafeFragment fragment queryParameters style bindRequired = .ok r) :
    Template.write (writeLiteral style) (rawText style bindRequired '%') []
        (tokensTemplate queryParameters (fragmentTokens 0 none none fragment).1) = .ok r ∧
      ∀ name, name ∈ queryParameters.map Prod.fst ↔
        name ∈ markerNames (fragmentTokens 0 none none fragment).1 := by
  obtain ⟨-, -, hnames, hwrite⟩ := renderUnsafeFragment_eq_ok_iff.mp h
  exact ⟨hwrite, hnames⟩

/-! ## What the two styles write -/

@[simp] theorem writeLiteral_mysql (params : List PyValue) (v : PyValue) :
    writeLiteral .mysql params v = .ok (str "%s", params ++ [v]) := rfl

theorem writeLiteral_flight (params : List PyValue) (v : PyValue) :
    writeLiteral .flight params v = (do return (← renderFlightLiteral v, params)) := rfl

theorem write_mysql (percent : Text) (params : List PyValue) (T : Template PyValue) :
    Template.write (writeLiteral .mysql) percent params T =
      .ok (T.render percent (fun _ => str "%s"), params ++ T.holes) := by
  induction T generalizing params with
  | nil => simp [Template.write]
  | cons p T ih =>
    cases p with
    | text t => simp [Template.write, ih]
    | percent => simp [Template.write, ih]
    | hole v => simp [Template.write, ih]

/-- The Flight literal of a value that has one. -/
def flightText (v : PyValue) : Text := ((renderFlightLiteral v).toOption).getD []

theorem renderFlightLiteral_eq_ok {v : PyValue} {t : Text} (h : renderFlightLiteral v = .ok t) :
    renderFlightLiteral v = .ok (flightText v) := by
  rw [flightText, h]
  rfl

theorem write_flight_eq_ok_iff {percent : Text} {params : List PyValue} {T : Template PyValue}
    {r : Text × List PyValue} :
    Template.write (writeLiteral .flight) percent params T = .ok r ↔
      (∀ v ∈ T.holes, renderFlightLiteral v = .ok (flightText v)) ∧
        r = (T.render percent flightText, params) := by
  induction T generalizing r with
  | nil => simp [Template.write, eq_comm]
  | cons p T ih =>
    cases p with
    | text t =>
      simp only [Template.write, bind_eq_ok, ih]
      simp [eq_comm]
    | percent =>
      simp only [Template.write, bind_eq_ok, ih]
      simp [eq_comm]
    | hole v =>
      simp only [Template.write, writeLiteral_flight, bind_assoc, bind_eq_ok, pure_eq_ok, ok_bind, ih,
        Template.holes_hole, List.forall_mem_cons]
      constructor
      · rintro ⟨t, ht, -, ⟨hrest, rfl⟩, hr⟩
        have hv := renderFlightLiteral_eq_ok ht
        rw [hv, Except.ok.injEq] at ht
        exact ⟨⟨hv, hrest⟩, by rw [← Except.ok.inj hr, ← ht]; rfl⟩
      · rintro ⟨⟨hv, hrest⟩, rfl⟩
        exact ⟨flightText v, hv, _, ⟨hrest, rfl⟩, rfl⟩

/-! ## Statements -/

inductive Projection
  | columns (names : List Text)
  | count (name : Text)

namespace Projection

def text : Projection → Text
  | columns names => Text.join (str ", ") (names.map quoted)
  | count name => str "count(*) AS " ++ quoted name

def identifiers : Projection → List Text
  | columns names => names
  | count name => [name]

end Projection

/-- A SELECT statement. -/
structure Statement where
  projection : Projection
  table : QualifiedTable
  tablets : Option (List Int)
  fragment : Option (Template PyValue)
  predicate : Option Predicate
  limit : Option Int

namespace Statement

/-- The conjuncts of the WHERE clause. -/
def clauses (s : Statement) : List (Template PyValue) :=
  (s.fragment.map fun T => .text (str "(") :: (T ++ [.text (str ")")])).toList ++
    (s.predicate.map Predicate.template).toList

def tabletsText : Option (List Int) → Text
  | none => []
  | some ids => str " TABLET(" ++ Text.join (str ", ") (ids.map intText) ++ str ")"

def whereTemplate (clauses : List (Template PyValue)) : Template PyValue :=
  if clauses = [] then [] else .text (str " WHERE ") :: Template.join (str " AND ") clauses

/-- The text of a statement around its values. -/
def template (s : Statement) : Template PyValue :=
  [.text (str "SELECT "), .text s.projection.text, .text (str " FROM "), .text s.table.sql,
    .text (tabletsText s.tablets)] ++ whereTemplate s.clauses ++ [.text (limitText s.limit)]

/-- Every name the statement quotes. -/
def identifiers (s : Statement) : List Text :=
  s.projection.identifiers ++ [s.table.database, s.table.table] ++
    (s.predicate.map Predicate.referencedColumns).getD []

end Statement

/-- The statement `build_select` builds, whichever the style. -/
def SelectArguments.statement (a : SelectArguments) : Statement where
  projection := match a.countOutputName with
    | some name => .count name
    | none => .columns a.columns
  table := a.table
  tablets := a.tabletIds.map (·.filterMap tabletId?)
  fragment := a.unsafeWhereSql.map fun fragment =>
    tokensTemplate a.queryParameters (fragmentTokens 0 none none fragment).1
  predicate := a.predicate
  limit := effectiveLimit a.countOutputName a.limit

/-- `T`, written in a style from an empty parameter list, is `r`. -/
def Written (style : ParameterStyle) (percent : Text) (T : Template PyValue)
    (r : Text × List PyValue) : Prop :=
  Template.write (writeLiteral style) percent [] T = .ok r

theorem write_params (style : ParameterStyle) (percent : Text) (params : List PyValue)
    (T : Template PyValue) :
    Template.write (writeLiteral style) percent params T =
      (Template.write (writeLiteral style) percent [] T).map fun r => (r.1, params ++ r.2) := by
  induction T generalizing params with
  | nil => simp [Template.write, Except.map]
  | cons p T ih =>
    cases p with
    | text t =>
      rw [Template.write, Template.write, ih]
      cases Template.write (writeLiteral style) percent [] T <;> rfl
    | percent =>
      rw [Template.write, Template.write, ih]
      cases Template.write (writeLiteral style) percent [] T <;> rfl
    | hole v =>
      rw [Template.write, Template.write]
      cases style with
      | mysql =>
        simp only [writeLiteral_mysql, ok_bind, ih (params ++ [v]), ih ([] ++ [v])]
        cases Template.write (writeLiteral .mysql) percent [] T <;> simp [Except.map]
      | flight =>
        simp only [writeLiteral_flight]
        cases renderFlightLiteral v with
        | error e => rfl
        | ok t =>
          simp only [ok_bind, pure_eq_ok, ih params]
          cases Template.write (writeLiteral .flight) percent [] T <;> rfl

theorem Written.append {style : ParameterStyle} {percent : Text} {S T : Template PyValue}
    {r q : Text × List PyValue} (hS : Written style percent S r) (hT : Written style percent T q) :
    Written style percent (S ++ T) (r.1 ++ q.1, r.2 ++ q.2) := by
  obtain ⟨s, params⟩ := r
  unfold Written at hS hT ⊢
  rw [Template.write_append, hS, ok_bind]
  simp only [write_params style percent params T, hT]
  rfl

theorem Written.text (style : ParameterStyle) (percent t : Text) :
    Written style percent [.text t] (t, []) := by
  simp [Written, Template.write]

theorem Written.nil (style : ParameterStyle) (percent : Text) : Written style percent [] ([], []) :=
  rfl

theorem Written.join {style : ParameterStyle} {percent : Text} (sep : Text)
    {Ts : List (Template PyValue)} {rs : List (Text × List PyValue)}
    (h : List.Forall₂ (Written style percent) Ts rs) :
    Written style percent (Template.join sep Ts)
      (Text.join sep (rs.map Prod.fst), rs.flatMap Prod.snd) := by
  induction h with
  | nil => exact Written.nil style percent
  | cons hT hrest ih =>
    cases hrest with
    | nil => simpa [Template.join] using hT
    | cons hU hrest =>
      have hsep := (hT.append (Written.text style percent sep)).append ih
      simpa [Template.join] using hsep

theorem Written.whereTemplate {style : ParameterStyle} {percent : Text}
    {Ts : List (Template PyValue)} {rs : List (Text × List PyValue)}
    (h : List.Forall₂ (Written style percent) Ts rs) :
    Written style percent (Statement.whereTemplate Ts)
      (renderWhere (rs.map Prod.fst), rs.flatMap Prod.snd) := by
  cases h with
  | nil => exact Written.nil style percent
  | cons hT hrest =>
    exact (Written.text style percent (str " WHERE ")).append
      (Written.join (str " AND ") (List.Forall₂.cons hT hrest))

/-! ## What `build_select` returns -/

theorem renderProjection_eq_ok {a : SelectArguments} {t : Text} (h : renderProjection a = .ok t) :
    t = a.statement.projection.text := by
  unfold renderProjection at h
  unfold SelectArguments.statement
  cases hcount : a.countOutputName with
  | some name =>
    simp only [hcount] at h
    obtain ⟨q, hq, h⟩ := bind_eq_ok.mp h
    rw [← Except.ok.inj h, (quoteIdentifier_eq_ok hq).2]
    rfl
  | none =>
    simp only [hcount] at h
    exact (quoteColumns_eq_ok_iff.mp h).2

theorem renderTablets_eq_ok {tabletIds : Option (List PyValue)} {t : Text}
    (h : renderTablets tabletIds = .ok t) :
    t = Statement.tabletsText (tabletIds.map (·.filterMap tabletId?)) := by
  cases tabletIds with
  | none => exact (Except.ok.inj h).symm
  | some ids =>
    simp only [renderTablets] at h
    split at h
    · cases h
    · obtain ⟨checked, hchecked, h⟩ := bind_eq_ok.mp h
      obtain ⟨texts, htexts, h⟩ := bind_eq_ok.mp h
      have hids : ids.filterMap tabletId? = checked := by
        refine filterMap_of_mapM_eq_ok (fun id z hid => ?_) hchecked
        unfold checkTabletId at hid
        split at hid
        · next y hy => rw [hy, Except.ok.inj hid]
        · cases hid
      rw [← Except.ok.inj h, eq_map_of_mapM_eq_ok (fun z t hz => strInt_eq_ok hz) htexts]
      simp only [Option.map_some, hids, Statement.tabletsText]

theorem renderFragment_eq_ok {a : SelectArguments} {bindRequired : Bool}
    {fragment : Option (Text × List PyValue)} (h : renderFragment a bindRequired = .ok fragment) :
    List.Forall₂ (Written a.style (rawText a.style bindRequired '%'))
        (a.statement.fragment.map fun T => .text (str "(") :: (T ++ [.text (str ")")])).toList
        (fragment.map fun r => (str "(" ++ r.1 ++ str ")", r.2)).toList ∧
      (a.queryParameters = [] ↔ ∀ T ∈ a.statement.fragment, T.holes = []) := by
  unfold renderFragment at h
  unfold SelectArguments.statement
  cases hfragment : a.unsafeWhereSql with
  | none =>
    simp only [hfragment] at h
    split at h
    · cases h
    · next hparameters =>
      rw [← Except.ok.inj h]
      simpa using not_not.mp hparameters
  | some text =>
    simp only [hfragment] at h
    obtain ⟨r, hr, h⟩ := bind_eq_ok.mp h
    rw [← Except.ok.inj h]
    obtain ⟨hwrite, hnames⟩ := renderUnsafeFragment_eq_ok hr
    constructor
    · refine List.Forall₂.cons ?_ List.Forall₂.nil
      have hopen := Written.text a.style (rawText a.style bindRequired '%') (str "(")
      have hclose := Written.text a.style (rawText a.style bindRequired '%') (str ")")
      simpa using hopen.append (Written.append hwrite hclose)
    · have hempty : a.queryParameters.map Prod.fst = [] ↔
          markerNames (fragmentTokens 0 none none text).1 = [] := by
        simp only [List.eq_nil_iff_forall_not_mem, hnames]
      simp only [Option.map_some, Option.mem_some_iff, forall_eq', holes_tokensTemplate,
        List.map_eq_nil_iff, ← hempty]

/-- The predicate part of `build_select`. -/
theorem predicate_eq_ok {a : SelectArguments} (percent : Text)
    {predicate : Option (Text × List PyValue)}
    (h : a.predicate.mapM (renderPredicate · a.style) = .ok predicate) :
    List.Forall₂ (Written a.style percent)
      (a.predicate.map Predicate.template).toList predicate.toList := by
  cases hp : a.predicate with
  | none =>
    rw [hp] at h
    rw [← Except.ok.inj h]
    exact List.Forall₂.nil
  | some p =>
    rw [hp] at h
    obtain ⟨r, hr, h⟩ := bind_eq_ok.mp h
    rw [← Except.ok.inj h]
    exact List.Forall₂.cons ((renderWith_eq_ok_iff percent).mp hr).2 List.Forall₂.nil

theorem Written.mysql_eq {percent : Text} {T : Template PyValue} {r : Text × List PyValue}
    (h : Written .mysql percent T r) : r = (T.render percent (fun _ => str "%s"), T.holes) := by
  unfold Written at h
  rw [write_mysql] at h
  exact (Except.ok.inj h).symm

/-- The values of a statement: those of its fragment, then those of its predicate. -/
theorem Statement.holes_template (s : Statement) :
    s.template.holes = (s.fragment.map Template.holes).getD [] ++
      (s.predicate.map Predicate.literals).getD [] := by
  have hwhere : ∀ Ts : List (Template PyValue),
      (whereTemplate Ts).holes = Ts.flatMap Template.holes := by
    intro Ts
    unfold whereTemplate
    split
    · next h => rw [h]; rfl
    · rw [Template.holes_text, Template.holes_join]
  simp only [template, List.cons_append, List.nil_append, Template.holes_text,
    Template.holes_append, hwhere, clauses, List.flatMap_append, Template.holes_nil,
    List.append_nil]
  congr 1
  · cases s.fragment <;> simp
  · cases s.predicate <;> simp [Predicate.holes_template]

/-- `bind_required` says that the statement has a value to bind. -/
theorem rawText_bindRequired {a : SelectArguments} {predicate : Option (Text × List PyValue)}
    (hpredicate : List.Forall₂ (Written a.style (str "%"))
      (a.predicate.map Predicate.template).toList predicate.toList)
    (hfragment : a.queryParameters = [] ↔ ∀ T ∈ a.statement.fragment, T.holes = []) :
    rawText a.style (a.style = .mysql ∧
        (a.queryParameters ≠ [] ∨ (predicate.map Prod.snd).getD [] ≠ [])) '%' =
      rawText a.style (a.statement.template.holes ≠ []) '%' := by
  cases hstyle : a.style with
  | flight => rfl
  | mysql =>
    have hliterals : (predicate.map Prod.snd).getD [] =
        (a.statement.predicate.map Predicate.literals).getD [] := by
      show _ = (a.predicate.map Predicate.literals).getD []
      rw [hstyle] at hpredicate
      cases hp : a.predicate with
      | none =>
        rw [hp] at hpredicate
        cases predicate with
        | none => rfl
        | some r => cases hpredicate
      | some p =>
        rw [hp] at hpredicate
        cases predicate with
        | none => cases hpredicate
        | some r =>
          obtain ⟨hr, -⟩ := List.forall₂_cons.mp hpredicate
          rw [hr.mysql_eq]
          simp [Predicate.holes_template]
    have hbind : (a.queryParameters ≠ [] ∨ (predicate.map Prod.snd).getD [] ≠ []) ↔
        a.statement.template.holes ≠ [] := by
      rw [Statement.holes_template, ne_eq (_ ++ _), List.append_eq_nil_iff, not_and_or, hliterals,
        ne_eq, hfragment]
      cases a.statement.fragment <;> simp
    simp [hbind]

/-- What `build_select` returns is the template of the statement, written in the
style; percent signs of the fragment are doubled when a value is bound. -/
theorem buildSelect_eq_ok {a : SelectArguments} {r : Text × List PyValue}
    (h : buildSelect a = .ok r) :
    Written a.style (rawText a.style (a.statement.template.holes ≠ []) '%')
      a.statement.template r := by
  unfold buildSelect at h
  obtain ⟨projection, hprojection, h⟩ := bind_eq_ok.mp h
  obtain ⟨tablets, htablets, h⟩ := bind_eq_ok.mp h
  obtain ⟨predicate, hpredicate, h⟩ := bind_eq_ok.mp h
  obtain ⟨fragment, hfragment, h⟩ := bind_eq_ok.mp h
  obtain ⟨limit, hlimit, h⟩ := bind_eq_ok.mp h
  obtain ⟨hfragment, hbound⟩ := renderFragment_eq_ok hfragment
  rw [rawText_bindRequired (predicate_eq_ok _ hpredicate) hbound] at hfragment
  have hclauses := Written.whereTemplate
    (List.rel_append hfragment (predicate_eq_ok _ hpredicate))
  have htexts : Written a.style (rawText a.style (a.statement.template.holes ≠ []) '%')
      [.text (str "SELECT "), .text projection, .text (str " FROM "), .text a.table.sql,
        .text tablets]
      (str "SELECT " ++ projection ++ str " FROM " ++ a.table.sql ++ tablets, []) := by
    simp [Written, Template.write]
  have hall := (htexts.append hclauses).append
    (Written.text a.style (rawText a.style (a.statement.template.holes ≠ []) '%') limit)
  rw [renderProjection_eq_ok hprojection, renderTablets_eq_ok htablets,
    renderLimit_eq_ok hlimit] at hall
  rw [← Except.ok.inj h]
  have htext : (((fragment.map fun r => (str "(" ++ r.1 ++ str ")", r.2)).toList ++
      predicate.toList).map Prod.fst) =
        (fragment.map fun r => str "(" ++ r.1 ++ str ")").toList ++
          (predicate.map Prod.fst).toList := by
    cases fragment <;> cases predicate <;> rfl
  have hvalues : (((fragment.map fun r => (str "(" ++ r.1 ++ str ")", r.2)).toList ++
      predicate.toList).flatMap Prod.snd) =
        (fragment.map Prod.snd).getD [] ++ (predicate.map Prod.snd).getD [] := by
    cases fragment <;> cases predicate <;> simp
  rw [htext, hvalues] at hall
  rw [renderProjection_eq_ok hprojection, renderTablets_eq_ok htablets, renderLimit_eq_ok hlimit]
  simp only [List.append_nil, List.nil_append] at hall
  exact hall

end Doris
end DaftOlap
