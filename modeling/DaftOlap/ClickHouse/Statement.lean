/-
ClickHouse statements as data.

A SELECT is read as a `Statement`, and a statement as parts whose values carry their
parameter names.  `buildSelect_eq_ok` says that `build_select` returns the text of
the parts, each value as its placeholder, together with a dict that holds exactly
the values of the parts.
-/
import DaftOlap.ClickHouse.Sql
import Mathlib.Data.List.Nodup

namespace DaftOlap
namespace ClickHouse

open Python

/-! ## Numbered values -/

/-- The parts with each value named by its number, from `n` on. -/
def numberHoles (name : Nat → Text) : Nat → List (SqlPart PyValue) →
    List (SqlPart (Text × PyValue))
  | _, [] => []
  | n, .raw t :: parts => .raw t :: numberHoles name n parts
  | n, .percent :: parts => .percent :: numberHoles name n parts
  | n, .hole v :: parts => .hole (name n, v) :: numberHoles name (n + 1) parts
  | n, .name t :: parts => .name t :: numberHoles name n parts

/-- The values of a list of parts. -/
def partHoles {κ : Type} (parts : List (SqlPart κ)) : List κ := (partsTemplate parts).holes

theorem partNames_numberHoles (name : Nat → Text) (n : Nat) (parts : List (SqlPart PyValue)) :
    partNames (numberHoles name n parts) = partNames parts := by
  induction parts generalizing n with
  | nil => rfl
  | cons p parts ih => cases p <;> simp [numberHoles, ih]

theorem cleanRaw_numberHoles (name : Nat → Text) (n : Nat) (parts : List (SqlPart PyValue)) :
    CleanRaw (numberHoles name n parts) ↔ CleanRaw parts := by
  induction parts generalizing n with
  | nil => rfl
  | cons p parts ih => cases p <;> simp [numberHoles, CleanRaw, ih]

theorem follows_numberHoles {name : Nat → Text} {n : Nat} {parts : List (SqlPart PyValue)}
    (h : Follows parts) : Follows (numberHoles name n parts) := by
  cases parts with
  | nil => trivial
  | cons p parts =>
    cases p with
    | raw t =>
      cases t with
      | nil => cases h
      | cons c t => exact h
    | percent => cases h
    | hole k => cases h
    | name n => cases h

theorem separated_numberHoles {name : Nat → Text} {n : Nat} {parts : List (SqlPart PyValue)}
    (h : Separated parts) : Separated (numberHoles name n parts) := by
  induction parts generalizing n with
  | nil => trivial
  | cons p parts ih =>
    cases p with
    | name m => exact ⟨follows_numberHoles h.1, ih h.2⟩
    | raw t => exact ih h
    | percent => exact ih h
    | hole k => exact ih h

/-- The values of numbered parts are those of the parts, under consecutive names. -/
theorem partHoles_numberHoles (name : Nat → Text) (n : Nat) (parts : List (SqlPart PyValue)) :
    partHoles (numberHoles name n parts) =
      ((partHoles parts).zipIdx n).map fun p => (name p.2, p.1) := by
  induction parts generalizing n with
  | nil => rfl
  | cons p parts ih =>
    have ih := fun n => ih n
    simp only [partHoles] at ih ⊢
    cases p <;> simp [numberHoles, SqlPart.piece, ih]

/-- Rendering a template appends its numbered values to the parameters. -/
theorem write_writeLiteral (percent : Text) (params : List (Text × PyValue))
    (parts : List (SqlPart PyValue)) :
    Template.write writeLiteral percent params (partsTemplate parts) =
      .ok (partsText percent (fun h => namedPlaceholder h.1)
          (numberHoles literalName params.length parts),
        params ++ partHoles (numberHoles literalName params.length parts)) := by
  induction parts generalizing params with
  | nil => simp [Template.write, numberHoles, partHoles]
  | cons p parts ih =>
    cases p with
    | raw t => simp [Template.write, SqlPart.piece, ih, numberHoles, partHoles]
    | percent => simp [Template.write, SqlPart.piece, ih, numberHoles, partHoles]
    | name n => simp [Template.write, SqlPart.piece, ih, numberHoles, partHoles]
    | hole v =>
      have ih := ih (params ++ [(literalName params.length, v)])
      rw [List.length_append, List.length_singleton] at ih
      simp only [partsTemplate_cons, SqlPart.piece, Template.write, writeLiteral, ok_bind, ih]
      simp [numberHoles, partHoles, SqlPart.piece]

/-! ## The tokens of a fragment -/

/-- The parts of the rest of a trusted fragment: a declared marker is a value under
its own name, and any other percent sign is literal. -/
def fragmentParts (valuesByName : List (Text × PyValue)) : (skip : Nat) → Text →
    List (SqlPart (Text × PyValue))
  | _, [] => []
  | skip + 1, _ :: rest => fragmentParts valuesByName skip rest
  | 0, c :: rest =>
    if c ≠ '%' then .raw [c] :: fragmentParts valuesByName 0 rest
    else
      match markerName? rest with
      | some name =>
        .hole (name, (valuesByName.lookup name).getD .none) ::
          fragmentParts valuesByName (name.length + 3) rest
      | none => .percent :: fragmentParts valuesByName 0 rest

theorem partNames_fragmentParts (valuesByName : List (Text × PyValue)) (skip : Nat) (t : Text) :
    partNames (fragmentParts valuesByName skip t) = [] := by
  induction t generalizing skip with
  | nil => cases skip <;> rfl
  | cons c rest ih =>
    cases skip with
    | succ skip => exact ih skip
    | zero =>
      rw [fragmentParts]
      split
      · exact ih 0
      · split
        · exact ih _
        · exact ih 0

theorem cleanRaw_fragmentParts (valuesByName : List (Text × PyValue)) (skip : Nat) (t : Text) :
    CleanRaw (fragmentParts valuesByName skip t) := by
  induction t generalizing skip with
  | nil => cases skip <;> trivial
  | cons c rest ih =>
    cases skip with
    | succ skip => exact ih skip
    | zero =>
      rw [fragmentParts]
      split
      · next hc => exact ⟨by simpa using Ne.symm hc, ih 0⟩
      · split
        · exact ih _
        · exact ih 0

theorem separated_fragmentParts (valuesByName : List (Text × PyValue)) (skip : Nat) (t : Text) :
    Separated (fragmentParts valuesByName skip t) := by
  induction t generalizing skip with
  | nil => cases skip <;> trivial
  | cons c rest ih =>
    cases skip with
    | succ skip => exact ih skip
    | zero =>
      rw [fragmentParts]
      split
      · exact ih 0
      · split
        · exact ih _
        · exact ih 0

/-- What the loop returns: the text of the parts, and the names of their markers,
all of which are declared. -/
theorem fragmentLoop_eq_ok {valuesByName : List (Text × PyValue)} {bindRequired : Bool}
    {skip : Nat} {rendered : Text} {used : List Text} {t : Text} {r : Text × List Text}
    (h : fragmentLoop valuesByName bindRequired skip rendered used t = .ok r) :
    r = (rendered ++ partsText (if bindRequired then str "%%" else str "%")
          (fun h => namedPlaceholder h.1) (fragmentParts valuesByName skip t),
        used ++ (partHoles (fragmentParts valuesByName skip t)).map Prod.fst) ∧
      ∀ hole ∈ partHoles (fragmentParts valuesByName skip t),
        hole.1 ∈ valuesByName.map Prod.fst ∧
          hole.2 = (valuesByName.lookup hole.1).getD .none := by
  induction t generalizing skip rendered used with
  | nil =>
    cases skip <;>
    · rw [fragmentLoop] at h
      rw [← Except.ok.inj h]
      simp [fragmentParts, partHoles]
  | cons c rest ih =>
    cases skip with
    | succ skip =>
      rw [fragmentLoop] at h
      exact ih h
    | zero =>
      rw [fragmentLoop] at h
      rw [fragmentParts]
      split at h
      · next hc =>
        rw [if_pos hc]
        obtain ⟨rfl, hholes⟩ := ih h
        simp only [partHoles] at hholes ⊢
        exact ⟨by simp [SqlPart.piece], by simpa [SqlPart.piece] using hholes⟩
      · next hc =>
        rw [if_neg hc]
        cases hmarker : markerName? rest with
        | some name =>
          simp only [hmarker] at h
          split at h
          · cases h
          · next hname =>
            obtain ⟨rfl, hholes⟩ := ih h
            simp only [partHoles] at hholes ⊢
            refine ⟨by simp [SqlPart.piece], ?_⟩
            simp only [partsTemplate_cons, SqlPart.piece, Template.holes_hole,
              List.forall_mem_cons]
            exact ⟨⟨not_not.mp hname, trivial⟩, hholes⟩
        | none =>
          simp only [hmarker] at h
          obtain ⟨rfl, hholes⟩ := ih h
          simp only [partHoles] at hholes ⊢
          exact ⟨by simp [SqlPart.piece], by simpa [SqlPart.piece] using hholes⟩

theorem lookup_of_mem {β : Type} {entries : List (Text × β)} (hnodup : (entries.map Prod.fst).Nodup)
    {entry : Text × β} (h : entry ∈ entries) :
    entries.lookup entry.1 = some entry.2 := by
  induction entries with
  | nil => cases h
  | cons e entries ih =>
    rw [List.map_cons, List.nodup_cons] at hnodup
    rw [List.lookup_cons]
    rcases List.mem_cons.mp h with rfl | h
    · simp
    · have hne : entry.1 ≠ e.1 := fun heq => hnodup.1 (heq ▸ List.mem_map_of_mem h)
      rw [beq_false_of_ne hne]
      exact ih hnodup.2 h

/-- What a rendered fragment is: the text of its parts.  The names of its markers are
exactly those of the parameters. -/
theorem renderUnsafeFragment_eq_ok {fragment : Text} {queryParameters : List (Text × PyValue)}
    {bindRequired : Bool} {rendered : Text}
    (h : renderUnsafeFragment fragment queryParameters bindRequired = .ok rendered) :
    rendered = partsText (if bindRequired then str "%%" else str "%")
        (fun h => namedPlaceholder h.1) (fragmentParts queryParameters 0 fragment) ∧
      ∀ entry, entry ∈ queryParameters ↔
        entry ∈ partHoles (fragmentParts queryParameters 0 fragment) := by
  unfold renderUnsafeFragment at h
  simp only [ite_not] at h
  split at h
  · next hnodup =>
    obtain ⟨⟨text, used⟩, hloop, h⟩ := bind_eq_ok.mp h
    obtain ⟨hr, hholes⟩ := fragmentLoop_eq_ok hloop
    obtain ⟨rfl, rfl⟩ := Prod.mk.inj hr
    simp only [List.nil_append] at h
    split at h
    · next hunused =>
      refine ⟨(Except.ok.inj h).symm, fun entry => ⟨fun hentry => ?_, fun hentry => ?_⟩⟩
      · have hused := List.filter_eq_nil_iff.mp hunused entry.1 (List.mem_map_of_mem hentry)
        simp only [decide_eq_true_eq, not_not] at hused
        obtain ⟨hole, hhole, hname⟩ := List.mem_map.mp hused
        have hvalue : hole = entry := by
          refine Prod.ext hname ?_
          rw [(hholes hole hhole).2, hname, lookup_of_mem hnodup hentry]
          rfl
        rwa [hvalue] at hhole
      · obtain ⟨hname, hvalue⟩ := hholes entry hentry
        obtain ⟨found, hfound, hsame⟩ := List.mem_map.mp hname
        have hentry : found = entry := by
          refine Prod.ext hsame ?_
          rw [hvalue, ← hsame, lookup_of_mem hnodup hfound]
          rfl
        rwa [← hentry]
    · cases h
  · cases h

/-! ## Statements -/

inductive Projection
  /-- Columns, each with the type it is cast to. -/
  | columns (entries : List (Text × Option Text))
  | count (name : Text)

/-- One column of a projection. -/
def castParts {κ : Type} (entry : Text × Option Text) : List (SqlPart κ) :=
  match entry.2 with
  | none => [.name entry.1]
  | some type =>
    [.raw (str "CAST("), .name entry.1, .raw (str " AS " ++ type ++ str ") AS "), .name entry.1]

def Projection.parts {κ : Type} : Projection → List (SqlPart κ)
  | columns entries => joinParts (str ", ") (entries.map castParts)
  | count name => [.raw (str "count() AS "), .name name]

/-- The types a projection casts to. -/
def Projection.castTypes : Projection → List Text
  | columns entries => entries.filterMap Prod.snd
  | count _ => []

def Projection.names : Projection → List Text
  | columns entries => entries.map Prod.fst
  | count name => [name]

/-- A SELECT statement. -/
structure Statement where
  projection : Projection
  table : QualifiedTable
  fragment : Option (List (SqlPart (Text × PyValue)))
  predicate : Option Predicate
  partitionIds : Option (List Text)
  limit : Option Int

def partitionParts (ids : List Text) : List (SqlPart (Text × PyValue)) :=
  .raw (str "(_partition_id IN (") ::
    (joinParts (str ", ") ((namedPartitions 0 ids).map fun p => [.hole p]) ++ [.raw (str "))")])

def limitParts {κ : Type} : Option Int → List (SqlPart κ)
  | none => []
  | some n => [.raw (limitText (some n))]

namespace Statement

/-- The conjuncts of the WHERE clause. -/
def clauses (s : Statement) : List (List (SqlPart (Text × PyValue))) :=
  (s.fragment.map fun f => .raw (str "(") :: (f ++ [.raw (str ")")])).toList ++
    (s.predicate.map fun p => numberHoles literalName 0 p.parts).toList ++
    (s.partitionIds.map partitionParts).toList

def parts (s : Statement) : List (SqlPart (Text × PyValue)) :=
  .raw (str "SELECT ") :: (s.projection.parts ++ .raw (str " FROM ") :: .name s.table.database ::
    .raw (str ".") :: .name s.table.table :: (whereParts s.clauses ++ limitParts s.limit))

end Statement

/-- The statement `build_select` builds. -/
def SelectArguments.statement (a : SelectArguments) : Statement where
  projection := match a.countOutputName with
    | some name => .count name
    | none => .columns (a.projection.getD (a.columns.map fun name => (name, none)))
  table := a.table
  fragment := a.unsafeWhereSql.map fun fragment => fragmentParts a.queryParameters 0 fragment
  predicate := a.predicate
  partitionIds := a.partitionIds
  limit := effectiveLimit a.countOutputName a.limit

/-! ## Parameter names -/

theorem dictUpdate_eq_append {d items : List (Text × PyValue)}
    (h : ((d ++ items).map Prod.fst).Nodup) : dictUpdate d items = d ++ items := by
  have hset : ∀ {d : List (Text × PyValue)} {key : Text} {value : PyValue},
      key ∉ d.map Prod.fst → dictSet key value d = d ++ [(key, value)] := by
    intro d key value hkey
    induction d with
    | nil => rfl
    | cons e d ih =>
      rw [List.map_cons, List.mem_cons, not_or] at hkey
      rw [dictSet, if_neg (Ne.symm hkey.1), ih hkey.2, List.cons_append]
  induction items generalizing d with
  | nil => simp [dictUpdate]
  | cons item items ih =>
    have hfresh : item.1 ∉ d.map Prod.fst := by
      intro hmem
      rw [List.map_append, List.nodup_append] at h
      exact h.2.2 _ hmem _ List.mem_cons_self rfl
    have hrest := ih (d := d ++ [item]) (by simpa using h)
    rw [dictUpdate, List.foldl_cons, hset hfresh]
    rw [dictUpdate] at hrest
    rw [hrest, List.append_assoc, List.singleton_append]

theorem literalName_injective : Function.Injective literalName := fun _ _ h =>
  natText_injective (List.append_cancel_left h)

theorem partitionName_injective : Function.Injective partitionName := fun _ _ h =>
  natText_injective (List.append_cancel_left h)

/-- The literals and the partitions have names of their own. -/
theorem literalName_ne_partitionName (m n : Nat) : literalName m ≠ partitionName n := by
  intro h
  unfold literalName partitionName at h
  rw [List.append_assoc] at h
  have htext := List.append_cancel_left h
  have hp : PyChar.scalar 'p' ∈ natText m := by
    rw [htext]
    exact List.mem_append_left _ (by decide)
  have hdigit := isAsciiDigit_of_mem_natText hp
  exact absurd hdigit (by decide)

theorem parameterPrefix_literalName (n : Nat) : parameterPrefix <+: literalName n :=
  List.prefix_append _ _

theorem parameterPrefix_partitionName (n : Nat) : parameterPrefix <+: partitionName n := by
  unfold partitionName
  rw [List.append_assoc]
  exact List.prefix_append _ _

theorem namedPartitions_eq (n : Nat) (ids : List Text) :
    namedPartitions n ids = (ids.zipIdx n).map fun p => (partitionName p.2, .str p.1) := by
  induction ids generalizing n with
  | nil => rfl
  | cons id ids ih => rw [namedPartitions, ih, List.zipIdx_cons, List.map_cons]

/-- Consecutive numbers give pairwise distinct names. -/
theorem nodup_numbered {α β : Type} {name : Nat → Text} (hname : Function.Injective name)
    (f : α → β) (n : Nat) (l : List α) :
    (((l.zipIdx n).map fun p => (name p.2, f p.1)).map Prod.fst).Nodup := by
  have hfst : ((l.zipIdx n).map fun p => (name p.2, f p.1)).map Prod.fst =
      ((l.zipIdx n).map Prod.snd).map name := by
    rw [List.map_map, List.map_map]
    rfl
  rw [hfst, List.zipIdx_map_snd]
  exact List.Nodup.map hname List.nodup_range'

theorem mem_numbered {α β : Type} {name : Nat → Text} {f : α → β} {n : Nat} {l : List α} {t : Text}
    (h : t ∈ ((l.zipIdx n).map fun p => (name p.2, f p.1)).map Prod.fst) : ∃ i, t = name i := by
  simp only [List.map_map, List.mem_map] at h
  obtain ⟨p, -, rfl⟩ := h
  exact ⟨p.2, rfl⟩

/-- The values a predicate binds. -/
def predicateParameters (p : Predicate) : List (Text × PyValue) :=
  partHoles (numberHoles literalName 0 p.parts)

theorem predicateParameters_eq (p : Predicate) :
    predicateParameters p = (p.literals.zipIdx 0).map fun q => (literalName q.2, q.1) := by
  rw [predicateParameters, partHoles_numberHoles, partHoles, Predicate.partsTemplate_parts,
    Predicate.holes_template]

/-- The parameters of `build_select`: the caller's, the predicate's and the
partitions'. -/
def allParameters (queryParameters : List (Text × PyValue)) (predicate : Option Predicate)
    (partitionIds : Option (List Text)) : List (Text × PyValue) :=
  queryParameters ++ (predicate.map predicateParameters).getD [] ++
    (partitionIds.map (namedPartitions 0)).getD []

/-- The three sources never share a name. -/
theorem allParameters_nodup {queryParameters : List (Text × PyValue)}
    (h : checkParameterNames queryParameters = .ok ()) (predicate : Option Predicate)
    (partitionIds : Option (List Text)) :
    ((allParameters queryParameters predicate partitionIds).map Prod.fst).Nodup := by
  obtain ⟨hnodup, hfree⟩ : (queryParameters.map Prod.fst).Nodup ∧
      ∀ name ∈ queryParameters.map Prod.fst, ¬ parameterPrefix <+: name := by
    unfold checkParameterNames at h
    simp only at h
    split at h
    · cases h
    · next hnodup =>
      split at h
      · cases h
      · next hfree =>
        refine ⟨not_not.mp hnodup, fun name hname hp => hfree ⟨name, hname, hp⟩⟩
  have hpredicate : (((predicate.map predicateParameters).getD []).map Prod.fst).Nodup ∧
      ∀ t ∈ ((predicate.map predicateParameters).getD []).map Prod.fst, ∃ i, t = literalName i := by
    cases predicate with
    | none => simp
    | some p =>
      rw [Option.map_some, Option.getD_some, predicateParameters_eq]
      exact ⟨nodup_numbered literalName_injective (fun v => v) 0 p.literals,
        fun t ht => mem_numbered (f := fun v => v) ht⟩
  have hpartitions : (((partitionIds.map (namedPartitions 0)).getD []).map Prod.fst).Nodup ∧
      ∀ t ∈ ((partitionIds.map (namedPartitions 0)).getD []).map Prod.fst,
        ∃ i, t = partitionName i := by
    cases partitionIds with
    | none => simp
    | some ids =>
      rw [Option.map_some, Option.getD_some, namedPartitions_eq]
      exact ⟨nodup_numbered partitionName_injective PyValue.str 0 ids, fun t ht => mem_numbered ht⟩
  unfold allParameters
  rw [List.map_append, List.map_append]
  refine List.nodup_append.mpr ⟨List.nodup_append.mpr ⟨hnodup, hpredicate.1, ?_⟩,
    hpartitions.1, ?_⟩
  · rintro t ht _ hlit rfl
    obtain ⟨i, rfl⟩ := hpredicate.2 t hlit
    exact hfree _ ht (parameterPrefix_literalName i)
  · rintro t ht _ hpart rfl
    obtain ⟨i, rfl⟩ := hpartitions.2 t hpart
    rcases List.mem_append.mp ht with ht | ht
    · exact hfree _ ht (parameterPrefix_partitionName i)
    · obtain ⟨j, hj⟩ := hpredicate.2 _ ht
      exact literalName_ne_partitionName j i hj.symm

/-! ## What `build_select` returns -/

/-- The text of the parts with each value as its placeholder. -/
def boundText (percent : Text) (parts : List (SqlPart (Text × PyValue))) : Text :=
  partsText percent (fun h => namedPlaceholder h.1) parts

theorem castParts_text {κ : Type} {percent : Text} {hole : κ → Text} {name : Text}
    {castType : Option Text} {t : Text} (h : renderCast name castType = .ok t) :
    t = partsText percent hole (castParts (name, castType)) := by
  obtain ⟨identifier, hidentifier, h⟩ := bind_eq_ok.mp h
  obtain ⟨-, rfl⟩ := quoteIdentifier_eq_ok hidentifier
  unfold castParts
  split at h
  · rw [← Except.ok.inj h]
    simp
  · rw [← Except.ok.inj h]
    simp

theorem renderProjection_eq_ok {a : SelectArguments} (percent : Text) {t : Text}
    (h : renderProjection a.columns a.countOutputName a.projection = .ok t) :
    t = boundText percent a.statement.projection.parts := by
  unfold renderProjection at h
  unfold SelectArguments.statement
  cases hcount : a.countOutputName with
  | some name =>
    simp only [hcount] at h
    obtain ⟨q, hq, h⟩ := bind_eq_ok.mp h
    rw [← Except.ok.inj h, (quoteIdentifier_eq_ok hq).2]
    simp [Projection.parts, boundText]
  | none =>
    cases hprojection : a.projection with
    | none =>
      simp only [hcount, hprojection] at h
      rw [(quoteColumns_eq_ok_iff.mp h).2]
      simp only [Option.getD_none, Projection.parts, boundText, partsText_joinParts, List.map_map]
      congr 1
      refine List.map_congr_left fun name _ => ?_
      simp [castParts]
    | some projection =>
      simp only [hcount, hprojection] at h
      split at h
      · cases h
      · obtain ⟨expressions, hexpressions, h⟩ := bind_eq_ok.mp h
        have hmap := eq_map_of_mapM_eq_ok
          (g := fun entry => boundText percent (castParts entry)) (fun entry t ht => by
            obtain ⟨expression, hexpression, ht⟩ := bind_eq_ok.mp ht
            obtain ⟨-, -, ht⟩ := bind_eq_ok.mp ht
            rw [← Except.ok.inj ht]
            exact castParts_text hexpression) hexpressions
        rw [← Except.ok.inj h, hmap]
        simp only [Option.getD_some, Projection.parts, boundText, partsText_joinParts, List.map_map]
        rfl

theorem renderPredicate_eq_ok {p : Predicate} (percent : Text)
    {r : Text × List (Text × PyValue)} (h : renderPredicate p = .ok r) :
    r = (boundText percent (numberHoles literalName 0 p.parts), predicateParameters p) := by
  have hwrite := ((renderWith_eq_ok_iff percent).mp h).2
  rw [← Predicate.partsTemplate_parts, write_writeLiteral] at hwrite
  rw [← Except.ok.inj hwrite]
  rfl

theorem partition_text (percent : Text) (ids : List Text) :
    str "(_partition_id IN (" ++
        Text.join (str ", ") ((namedPartitions 0 ids).map fun p => namedPlaceholder p.1) ++
        str "))" = boundText percent (partitionParts ids) := by
  simp only [partitionParts, boundText, partsText_raw, partsText_append, partsText_joinParts,
    List.map_map, partsText_nil, List.append_nil, List.append_assoc]
  congr 3
  refine List.map_congr_left fun p _ => ?_
  simp

theorem renderFragment_eq_ok {a : SelectArguments} {bindRequired : Bool} {fragment : Option Text}
    (h : renderFragment a bindRequired = .ok fragment) :
    fragment = a.statement.fragment.map
        (boundText (if bindRequired then str "%%" else str "%")) ∧
      ∀ entry, entry ∈ a.queryParameters ↔
        entry ∈ (a.statement.fragment.map partHoles).getD [] := by
  unfold renderFragment at h
  unfold SelectArguments.statement
  cases hfragment : a.unsafeWhereSql with
  | none =>
    simp only [hfragment] at h
    split at h
    · cases h
    · next hparameters =>
      rw [← Except.ok.inj h]
      simp [not_not.mp hparameters]
  | some text =>
    simp only [hfragment] at h
    obtain ⟨rendered, hrendered, h⟩ := bind_eq_ok.mp h
    obtain ⟨htext, hentries⟩ := renderUnsafeFragment_eq_ok hrendered
    rw [← Except.ok.inj h, htext]
    exact ⟨rfl, hentries⟩

@[simp] theorem partHoles_append {κ : Type} (parts rest : List (SqlPart κ)) :
    partHoles (parts ++ rest) = partHoles parts ++ partHoles rest := by
  simp [partHoles]

theorem partHoles_joinParts {κ : Type} (sep : Text) (groups : List (List (SqlPart κ))) :
    partHoles (joinParts sep groups) = groups.flatMap partHoles := by
  rw [partHoles, partsTemplate_joinParts, Template.holes_join, List.flatMap_map]
  rfl

theorem partHoles_cons_other {κ : Type} {p : SqlPart κ} (hp : p.piece.hole? = none)
    (parts : List (SqlPart κ)) : partHoles (p :: parts) = partHoles parts := by
  unfold partHoles Template.holes
  rw [partsTemplate_cons, List.filterMap_cons_none hp]

theorem partHoles_projection (projection : Projection) :
    partHoles (projection.parts : List (SqlPart (Text × PyValue))) = [] := by
  cases projection with
  | count name => rfl
  | columns entries =>
    rw [Projection.parts, partHoles_joinParts, List.flatMap_map, List.flatMap_eq_nil_iff]
    intro entry _
    unfold castParts
    split <;> rfl

theorem partHoles_partitionParts (ids : List Text) :
    partHoles (partitionParts ids) = namedPartitions 0 ids := by
  rw [partitionParts, partHoles_cons_other rfl, partHoles_append, partHoles_joinParts,
    List.flatMap_map]
  have hhole : ∀ p : Text × PyValue, partHoles [.hole p] = [p] := fun p => rfl
  simp only [hhole]
  rw [← List.map_eq_flatMap, List.map_id']
  exact List.append_nil _

/-- The values of a statement come from its clauses, in order. -/
theorem Statement.partHoles_parts (s : Statement) :
    partHoles s.parts = (s.fragment.map partHoles).getD [] ++
      (s.predicate.map predicateParameters).getD [] ++
      (s.partitionIds.map (namedPartitions 0)).getD [] := by
  have hwhere : ∀ clauses : List (List (SqlPart (Text × PyValue))),
      partHoles (whereParts clauses) = clauses.flatMap partHoles := by
    intro clauses
    unfold whereParts
    split
    · next h => rw [h]; rfl
    · rw [partHoles_cons_other rfl, partHoles_joinParts]
  have hlimit : partHoles (limitParts s.limit : List (SqlPart (Text × PyValue))) = [] := by
    cases s.limit <;> rfl
  rw [parts, partHoles_cons_other rfl, partHoles_append, partHoles_projection,
    partHoles_cons_other rfl, partHoles_cons_other rfl, partHoles_cons_other rfl,
    partHoles_cons_other rfl, partHoles_append, hwhere, hlimit, clauses, List.flatMap_append,
    List.flatMap_append, List.nil_append, List.append_nil]
  congr 1
  · congr 1
    · cases s.fragment with
      | none => rfl
      | some f =>
        simp only [Option.map_some, Option.toList_some, List.flatMap_singleton, Option.getD_some]
        rw [partHoles_cons_other rfl, partHoles_append]
        exact List.append_nil _
    · cases s.predicate with
      | none => rfl
      | some p => simp [predicateParameters]
  · cases s.partitionIds with
    | none => rfl
    | some ids => simp [partHoles_partitionParts]

theorem predicate_eq_ok (percent : Text) {predicate : Option Predicate}
    {r : Option (Text × List (Text × PyValue))} (h : predicate.mapM renderPredicate = .ok r) :
    r = predicate.map fun p =>
      (boundText percent (numberHoles literalName 0 p.parts), predicateParameters p) := by
  cases predicate with
  | none => exact (Except.ok.inj h).symm
  | some p =>
    obtain ⟨t, ht, h⟩ := bind_eq_ok.mp h
    rw [← Except.ok.inj h, renderPredicate_eq_ok percent ht]
    rfl

theorem renderPartitionClause_eq_ok (percent : Text) {queryParameters : List (Text × PyValue)}
    (hnames : checkParameterNames queryParameters = .ok ()) {predicate : Option Predicate}
    {partitionIds : Option (List Text)} {r : Option Text × List (Text × PyValue)}
    (h : renderPartitionClause partitionIds
      (dictUpdate queryParameters ((predicate.map predicateParameters).getD [])) = .ok r) :
    r = (partitionIds.map fun ids => boundText percent (partitionParts ids),
      allParameters queryParameters predicate partitionIds) := by
  have hnodup := allParameters_nodup hnames predicate partitionIds
  have hpredicate : dictUpdate queryParameters ((predicate.map predicateParameters).getD []) =
      queryParameters ++ (predicate.map predicateParameters).getD [] := by
    refine dictUpdate_eq_append ?_
    rw [allParameters, List.map_append] at hnodup
    exact (List.nodup_append.mp hnodup).1
  rw [hpredicate] at h
  cases partitionIds with
  | none =>
    rw [← Except.ok.inj h]
    simp [allParameters]
  | some ids =>
    simp only [renderPartitionClause] at h
    split at h
    · cases h
    · have happend : dictUpdate
          (queryParameters ++ (predicate.map predicateParameters).getD [])
          (namedPartitions 0 ids) = _ := dictUpdate_eq_append hnodup
      rw [← Except.ok.inj h, partition_text percent, happend]
      rfl

/-- What `build_select` returns: the text of the statement's parts with every value as
its placeholder, and a dict of pairwise distinct names that holds exactly the values
of the statement.  Percent signs of the fragment are doubled when the dict is not
empty. -/
theorem buildSelect_eq_ok {a : SelectArguments} {r : Text × List (Text × PyValue)}
    (h : buildSelect a = .ok r) :
    r.1 = boundText (if r.2 ≠ [] then str "%%" else str "%") a.statement.parts ∧
      (r.2.map Prod.fst).Nodup ∧
      ∀ entry, entry ∈ r.2 ↔ entry ∈ partHoles a.statement.parts := by
  obtain ⟨_, hnames, h⟩ := bind_eq_ok.mp h
  obtain ⟨projection, hprojection, h⟩ := bind_eq_ok.mp h
  obtain ⟨predicate, hpredicate, h⟩ := bind_eq_ok.mp h
  obtain ⟨⟨partitionClause, parameters⟩, hpartition, h⟩ := bind_eq_ok.mp h
  obtain ⟨fragment, hfragment, h⟩ := bind_eq_ok.mp h
  obtain ⟨limit, hlimit, h⟩ := bind_eq_ok.mp h
  obtain rfl := Except.ok.inj h
  simp only at hfragment ⊢
  obtain ⟨hfragment, hentries⟩ := renderFragment_eq_ok hfragment
  simp only [decide_eq_true_eq] at hfragment
  have hprojection := renderProjection_eq_ok (if parameters ≠ [] then str "%%" else str "%")
    hprojection
  have hpredicate := predicate_eq_ok (if parameters ≠ [] then str "%%" else str "%") hpredicate
  rw [hpredicate, Option.map_map] at hpartition
  have hpartition := renderPartitionClause_eq_ok (if parameters ≠ [] then str "%%" else str "%")
    hnames hpartition
  obtain ⟨hclause, hparameters⟩ := Prod.mk.inj hpartition
  refine ⟨?_, hparameters ▸ allParameters_nodup hnames a.predicate a.partitionIds, ?_⟩
  · generalize (if parameters ≠ [] then str "%%" else str "%") = percent at *
    have hlimit : limit = boundText percent (limitParts a.statement.limit) := by
      rw [renderLimit_eq_ok hlimit]
      show limitText a.statement.limit = _
      cases a.statement.limit <;> simp [limitParts, boundText, limitText]
    have hclauses : (fragment.map fun t => str "(" ++ t ++ str ")").toList ++
        (predicate.map Prod.fst).toList ++ partitionClause.toList =
          a.statement.clauses.map (boundText percent) := by
      rw [hfragment, hpredicate, hclause]
      unfold Statement.clauses
      simp only [List.map_append, Option.toList_map, List.map_map]
      congr 1
      congr 1
      refine List.map_congr_left fun f _ => ?_
      simp [boundText]
    rw [hprojection, hclauses, hlimit]
    simp only [boundText, Statement.parts, partsText_raw, partsText_append, partsText_name,
      partsText_whereParts, QualifiedTable.sql, List.append_assoc]
    rfl
  · intro entry
    rw [Statement.partHoles_parts, hparameters, allParameters, List.mem_append, List.mem_append,
      List.mem_append, List.mem_append, hentries]
    rfl

end ClickHouse
end DaftOlap
