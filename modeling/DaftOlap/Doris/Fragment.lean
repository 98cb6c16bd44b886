/-
What the scanner of trusted fragments reads.

`Reads` is the reading of a fragment as tokens: quoted texts, markers and single
characters.  The scanner agrees with every reading (`fragmentTokens_of_reads`), and a
fragment it leaves with no open quote has one (`exists_reads`), so a fragment is
rendered exactly when it has a reading whose markers are the parameters.
-/
import DaftOlap.Doris.Statement

namespace DaftOlap
namespace Doris

open Python

/-! ## Readings -/

/-- A token of a reading. -/
inductive SourceToken
  /-- A closed quoted text. -/
  | quoted (quote : PyChar) (body : Text)
  /-- A marker, without its colon. -/
  | marker (name : Text)
  | other (character : PyChar)
deriving DecidableEq

/-- The inside of a text in quotes of one kind: a backslash escapes the next character
except between backticks, and a doubled quote stands for itself. -/
inductive QuotedBody (quote : PyChar) : Text → Prop
  | nil : QuotedBody quote []
  | plain {c : PyChar} {body : Text} (hquote : c ≠ quote) (hescape : c ≠ '\\' ∨ quote = '`')
      (hbody : QuotedBody quote body) : QuotedBody quote (c :: body)
  | escaped {c : PyChar} {body : Text} (hquote : quote ≠ '`') (hbody : QuotedBody quote body) :
      QuotedBody quote ('\\' :: c :: body)
  | doubled {body : Text} (hbody : QuotedBody quote body) :
      QuotedBody quote (quote :: quote :: body)

/-- `[A-Za-z_][A-Za-z0-9_]*`. -/
def IsParameterName (name : Text) : Prop :=
  name.head?.any PyChar.isNameStart = true ∧ ∀ c ∈ name, c.isNameChar = true

/-- A colon that starts a marker, after `previous` and before `rest`. -/
def StartsMarker (previous : Option PyChar) (c : PyChar) (rest : Text) : Prop :=
  c = ':' ∧ previous ≠ some (PyChar.scalar ':') ∧ rest.head?.any PyChar.isNameStart = true

/-- The tokens of a text that comes after `previous`. -/
inductive Reads : Option PyChar → Text → List SourceToken → Prop
  | done {previous : Option PyChar} : Reads previous [] []
  | quoted {previous : Option PyChar} {quote : PyChar} {body rest : Text}
      {tokens : List SourceToken} (hquote : isQuote quote = true) (hbody : QuotedBody quote body)
      (hclosed : rest.head? ≠ some quote) (hrest : Reads (some quote) rest tokens) :
      Reads previous (quote :: (body ++ quote :: rest)) (.quoted quote body :: tokens)
  | marker {previous : Option PyChar} {name rest : Text} {tokens : List SourceToken}
      (hcolon : previous ≠ some (PyChar.scalar ':')) (hname : IsParameterName name)
      (hlongest : ∀ c, rest.head? = some c → c.isNameChar = false)
      (hrest : Reads name.getLast? rest tokens) :
      Reads previous (':' :: (name ++ rest)) (.marker name :: tokens)
  | other {previous : Option PyChar} {c : PyChar} {rest : Text} {tokens : List SourceToken}
      (hquote : isQuote c = false) (hmarker : ¬ StartsMarker previous c rest)
      (hrest : Reads (some c) rest tokens) : Reads previous (c :: rest) (.other c :: tokens)

/-- The names of the markers, in order. -/
def sourceNames (tokens : List SourceToken) : List Text :=
  tokens.filterMap fun
    | .marker name => some name
    | _ => none

/-- A token in the scanner's terms. -/
def SourceToken.fragment : SourceToken → List FragmentToken
  | .quoted quote body => (quote :: (body ++ [quote])).map .raw
  | .marker name => [.marker name]
  | .other c => [.raw c]

/-- What is written for a token. -/
def SourceToken.output (style : ParameterStyle) (bindRequired : Bool)
    (queryParameters : List (Text × PyValue)) : SourceToken → Text
  | .quoted quote body => (quote :: (body ++ [quote])).flatMap (rawText style bindRequired)
  | .marker name =>
    match style with
    | .mysql => str "%s"
    | .flight => flightText ((queryParameters.lookup name).getD .none)
  | .other c => rawText style bindRequired c

/-! ## The scanner on a reading -/

theorem ne_backslash_of_isQuote {quote : PyChar} (h : isQuote quote = true) : quote ≠ '\\' := by
  intro he
  rw [he] at h
  cases h

theorem fragmentTokens_quoted {quote : PyChar} (hquote : isQuote quote = true) {body : Text}
    (hbody : QuotedBody quote body) {rest : Text} (hclosed : rest.head? ≠ some quote)
    (previous : Option PyChar) :
    fragmentTokens 0 previous (some quote) (body ++ quote :: rest) =
      ((body ++ [quote]).map .raw ++ (fragmentTokens 0 (some quote) none rest).1,
        (fragmentTokens 0 (some quote) none rest).2) := by
  have hbackslash := ne_backslash_of_isQuote hquote
  induction hbody generalizing previous with
  | nil =>
    rw [List.nil_append, fragmentTokens, if_neg (fun h => hbackslash h.1), if_pos rfl, if_neg hclosed]
    rfl
  | @plain c body hc hescape hbody ih =>
    have hplain : ¬ (c = '\\' ∧ quote ≠ '`' ∧ body ++ quote :: rest ≠ []) := by
      intro h
      rcases hescape with hne | he
      · exact hne h.1
      · exact h.2.1 he
    rw [List.cons_append, fragmentTokens, if_neg hplain, if_neg hc, ih]
    rfl
  | @escaped c body hbacktick hbody ih =>
    rw [List.cons_append, List.cons_append, fragmentTokens,
      if_pos ⟨rfl, hbacktick, List.cons_ne_nil _ _⟩, fragmentTokens, ih]
    rfl
  | @doubled body hbody ih =>
    rw [List.cons_append, List.cons_append, fragmentTokens, if_neg (fun h => hbackslash h.1),
      if_pos rfl, if_pos List.head?_cons, fragmentTokens, ih]
    rfl

theorem parameterName?_append {name rest : Text} (hname : IsParameterName name)
    (hlongest : ∀ c, rest.head? = some c → c.isNameChar = false) :
    Text.parameterName? (name ++ rest) = some name := by
  obtain ⟨hstart, hchars⟩ := hname
  cases name with
  | nil => cases hstart
  | cons c name =>
    have hc : c.isNameStart = true := hstart
    rw [List.cons_append, Text.parameterName?, if_pos hc,
      List.takeWhile_append_of_pos fun d hd => hchars d (List.mem_cons_of_mem _ hd)]
    cases rest with
    | nil => rw [List.takeWhile_nil, List.append_nil]
    | cons d rest =>
      rw [List.takeWhile_cons_of_neg (by rw [hlongest d rfl]; exact Bool.false_ne_true),
        List.append_nil]

theorem parameterName?_eq_none {rest : Text} (h : rest.head?.any PyChar.isNameStart = false) :
    Text.parameterName? rest = none := by
  cases rest with
  | nil => rfl
  | cons c rest =>
    have hc : c.isNameStart = false := h
    rw [Text.parameterName?, if_neg (by rw [hc]; exact Bool.false_ne_true)]

theorem markerName?_eq_none {previous : Option PyChar} {c : PyChar} {rest : Text}
    (h : ¬ StartsMarker previous c rest) : markerName? previous c rest = none := by
  unfold markerName?
  by_cases hfirst : c ≠ ':' ∨ previous = some (PyChar.scalar ':')
  · exact if_pos hfirst
  · rw [if_neg hfirst]
    rw [not_or, not_not] at hfirst
    apply parameterName?_eq_none
    rw [Bool.eq_false_iff]
    intro hstart
    exact h ⟨hfirst.1, hfirst.2, hstart⟩

/-- Characters the scanner skips do not change what it reads after them. -/
theorem fragmentTokens_skip (skipped rest : Text) (previous quote : Option PyChar) :
    fragmentTokens skipped.length previous quote (skipped ++ rest) =
      fragmentTokens 0 (if skipped = [] then previous else skipped.getLast?) quote rest := by
  induction skipped generalizing previous with
  | nil => rfl
  | cons c skipped ih =>
    rw [List.length_cons, List.cons_append, fragmentTokens, ih, if_neg (List.cons_ne_nil _ _)]
    cases skipped with
    | nil => rfl
    | cons d skipped => rw [if_neg (List.cons_ne_nil _ _), List.getLast?_cons_cons]

theorem fragmentTokens_of_reads {previous : Option PyChar} {t : Text} {tokens : List SourceToken}
    (h : Reads previous t tokens) :
    fragmentTokens 0 previous none t = (tokens.flatMap SourceToken.fragment, none) := by
  induction h with
  | done => rfl
  | @quoted previous quote body rest tokens hquote hbody hclosed hrest ih =>
    rw [fragmentTokens, if_pos hquote, fragmentTokens_quoted hquote hbody hclosed, ih]
    rfl
  | @marker previous name rest tokens hcolon hname hlongest hrest ih =>
    have hmarker : markerName? previous ':' (name ++ rest) = some name := by
      rw [markerName?, if_neg (by rintro (h | h); exact h rfl; exact hcolon h)]
      exact parameterName?_append hname hlongest
    have hne : name ≠ [] := by
      rintro rfl
      cases hname.1
    rw [fragmentTokens, if_neg (by decide), hmarker]
    simp only [fragmentTokens_skip, if_neg hne, ih]
    rfl
  | @other previous c rest tokens hquote hmarker hrest ih =>
    rw [fragmentTokens, if_neg (by rw [hquote]; exact Bool.false_ne_true),
      markerName?_eq_none hmarker]
    simp only [ih]
    rfl

/-! ## A reading of what the scanner accepts -/

/-- The scanner leaves a quoted text only at its closing quote. -/
theorem exists_quotedBody {quote : PyChar} (n : Nat) {t : Text} (hn : t.length ≤ n)
    {previous : Option PyChar} (h : (fragmentTokens 0 previous (some quote) t).2 = none) :
    ∃ body rest, t = body ++ quote :: rest ∧ QuotedBody quote body ∧ rest.head? ≠ some quote ∧
      (fragmentTokens 0 (some quote) none rest).2 = none := by
  induction n generalizing t previous with
  | zero =>
    rw [List.length_eq_zero_iff.mp (Nat.le_zero.mp hn), fragmentTokens] at h
    cases h
  | succ n ih =>
    cases t with
    | nil =>
      rw [fragmentTokens] at h
      cases h
    | cons c rest =>
      have hlength : rest.length ≤ n := Nat.le_of_succ_le_succ hn
      rw [fragmentTokens] at h
      by_cases hescape : c = '\\' ∧ quote ≠ '`' ∧ rest ≠ []
      · rw [if_pos hescape] at h
        obtain ⟨rfl, hbacktick, hne⟩ := hescape
        obtain ⟨d, rest, rfl⟩ := List.exists_cons_of_ne_nil hne
        rw [fragmentTokens] at h
        obtain ⟨body, after, rfl, hbody, hafter⟩ := ih (by simp at hlength; omega) h
        exact ⟨'\\' :: d :: body, after, rfl, .escaped hbacktick hbody, hafter⟩
      · rw [if_neg hescape] at h
        by_cases hclose : c = quote
        · rw [if_pos hclose] at h
          subst hclose
          by_cases hdouble : rest.head? = some c
          · rw [if_pos hdouble] at h
            obtain ⟨d, rest, rfl⟩ : ∃ d rest', rest = d :: rest' := by
              cases rest with
              | nil => cases hdouble
              | cons d rest => exact ⟨d, rest, rfl⟩
            obtain rfl := Option.some.inj hdouble
            rw [fragmentTokens] at h
            obtain ⟨body, after, rfl, hbody, hafter⟩ := ih (by simp at hlength; omega) h
            exact ⟨d :: d :: body, after, rfl, .doubled hbody, hafter⟩
          · rw [if_neg hdouble] at h
            exact ⟨[], rest, rfl, .nil, hdouble, h⟩
        · rw [if_neg hclose] at h
          obtain ⟨body, after, rfl, hbody, hafter⟩ := ih hlength h
          refine ⟨c :: body, after, rfl, .plain hclose ?_ hbody, hafter⟩
          by_cases hc : c = '\\'
          · right
            by_contra hbacktick
            exact hescape ⟨hc, hbacktick, by simp⟩
          · exact Or.inl hc

theorem parameterName?_eq_some {t name : Text} (h : Text.parameterName? t = some name) :
    ∃ rest, t = name ++ rest ∧ IsParameterName name ∧
      ∀ c, rest.head? = some c → c.isNameChar = false := by
  cases t with
  | nil => cases h
  | cons c t =>
    rw [Text.parameterName?] at h
    split at h
    · next hstart =>
      obtain rfl := Option.some.inj h
      refine ⟨t.dropWhile PyChar.isNameChar, ?_, ⟨hstart, ?_⟩, ?_⟩
      · rw [List.cons_append, List.takeWhile_append_dropWhile]
      · intro d hd
        rcases List.mem_cons.mp hd with rfl | hd
        · exact PyChar.isNameChar_of_isNameStart hstart
        · exact List.mem_takeWhile_imp hd
      · intro d hd
        have := List.head?_dropWhile_not PyChar.isNameChar t
        rw [hd] at this
        simpa using this
    · cases h

theorem exists_reads (n : Nat) {t : Text} (hn : t.length ≤ n) {previous : Option PyChar}
    (h : (fragmentTokens 0 previous none t).2 = none) : ∃ tokens, Reads previous t tokens := by
  induction n generalizing t previous with
  | zero =>
    rw [List.length_eq_zero_iff.mp (Nat.le_zero.mp hn)]
    exact ⟨[], .done⟩
  | succ n ih =>
    cases t with
    | nil => exact ⟨[], .done⟩
    | cons c rest =>
      have hlength : rest.length ≤ n := Nat.le_of_succ_le_succ hn
      rw [fragmentTokens] at h
      by_cases hquote : isQuote c = true
      · rw [if_pos hquote] at h
        obtain ⟨body, after, rfl, hbody, hclosed, hafter⟩ := exists_quotedBody n hlength h
        have hshort : after.length ≤ n := by
          simp only [List.length_append, List.length_cons] at hlength
          omega
        obtain ⟨tokens, htokens⟩ := ih hshort hafter
        exact ⟨_, .quoted hquote hbody hclosed htokens⟩
      · rw [if_neg hquote] at h
        cases hmarker : markerName? previous c rest with
        | some name =>
          simp only [hmarker] at h
          unfold markerName? at hmarker
          split at hmarker
          · cases hmarker
          · next hcolon =>
            rw [not_or, not_not] at hcolon
            obtain ⟨after, rfl, hname, hlongest⟩ := parameterName?_eq_some hmarker
            have hne : name ≠ [] := by
              rintro rfl
              cases hname.1
            rw [fragmentTokens_skip, if_neg hne] at h
            rw [List.length_append] at hlength
            obtain ⟨tokens, htokens⟩ := ih (show after.length ≤ n by omega) h
            rw [hcolon.1]
            exact ⟨_, .marker hcolon.2 hname hlongest htokens⟩
        | none =>
          simp only [hmarker] at h
          obtain ⟨tokens, htokens⟩ := ih hlength h
          refine ⟨_, .other (Bool.eq_false_iff.mpr hquote) ?_ htokens⟩
          intro hstarts
          obtain ⟨hc, hprevious, hstart⟩ := hstarts
          rw [markerName?, if_neg (by rintro (hne | he); exact hne hc; exact hprevious he)] at hmarker
          cases rest with
          | nil => cases hstart
          | cons d rest =>
            rw [Text.parameterName?, if_pos (show d.isNameStart = true from hstart)] at hmarker
            cases hmarker

/-! ## Rendering a reading -/

theorem markerNames_fragment (tokens : List SourceToken) :
    markerNames (tokens.flatMap SourceToken.fragment) = sourceNames tokens := by
  have hraw : ∀ t : Text, markerNames (t.map .raw) = [] := by
    intro t
    simp [markerNames]
  induction tokens with
  | nil => rfl
  | cons token tokens ih =>
    rw [List.flatMap_cons, markerNames, List.filterMap_append, ← markerNames, ← markerNames, ih]
    cases token with
    | quoted quote body => rw [SourceToken.fragment, hraw]; rfl
    | marker name => rfl
    | other c => rfl

/-- The text a style writes for a value. -/
def placeholder : ParameterStyle → PyValue → Text
  | .mysql => fun _ => str "%s"
  | .flight => flightText

theorem render_raw (style : ParameterStyle) (bindRequired : Bool)
    (queryParameters : List (Text × PyValue)) (hole : PyValue → Text) (t : Text) :
    (tokensTemplate queryParameters (t.map .raw)).render (rawText style bindRequired '%') hole =
      t.flatMap (rawText style bindRequired) := by
  induction t with
  | nil => rfl
  | cons c t ih =>
    rw [List.map_cons, tokensTemplate, List.map_cons, ← tokensTemplate, Template.render,
      List.flatMap_cons, ← Template.render, ih, List.flatMap_cons]
    congr 1
    by_cases hc : c = PyChar.scalar '%'
    · subst hc
      rfl
    · have hplain : rawText style bindRequired c = [c] := if_neg fun h => hc h.1
      simp only [if_neg hc, hplain]
      rfl

theorem render_fragment (style : ParameterStyle) (bindRequired : Bool)
    (queryParameters : List (Text × PyValue)) (tokens : List SourceToken) :
    (tokensTemplate queryParameters (tokens.flatMap SourceToken.fragment)).render
        (rawText style bindRequired '%') (placeholder style) =
      tokens.flatMap (SourceToken.output style bindRequired queryParameters) := by
  induction tokens with
  | nil => rfl
  | cons token tokens ih =>
    rw [List.flatMap_cons, tokensTemplate, List.map_append, ← tokensTemplate, ← tokensTemplate,
      Template.render, List.flatMap_append, ← Template.render, ← Template.render, ih,
      List.flatMap_cons]
    congr 1
    cases token with
    | quoted quote body => exact render_raw style bindRequired queryParameters _ _
    | marker name =>
      cases style with
      | mysql => rfl
      | flight => exact List.append_nil _
    | other c =>
      have hraw := render_raw style bindRequired queryParameters (placeholder style) [c]
      rwa [List.flatMap_singleton] at hraw

/-- The values the markers of a reading stand for, in order. -/
def usedValues (queryParameters : List (Text × PyValue)) (tokens : List SourceToken) :
    List PyValue :=
  (sourceNames tokens).map fun name => (queryParameters.lookup name).getD .none

/-- The bound values: in one style the values used, in the other none. -/
def boundValues (style : ParameterStyle) (values : List PyValue) : List PyValue :=
  match style with
  | .mysql => values
  | .flight => []

/-- A fragment with a reading is rendered exactly when the parameters have distinct names,
these are the names of its markers, and every value used has a literal where one is needed;
then its tokens are written one after the other.  A fragment without a reading, one that
leaves a quote open, is not rendered. -/
theorem renderUnsafeFragment_reads (fragment : Text) (queryParameters : List (Text × PyValue))
    (style : ParameterStyle) (bindRequired : Bool) :
    (∀ tokens, Reads none fragment tokens → ∀ r,
      (renderUnsafeFragment fragment queryParameters style bindRequired = .ok r ↔
        (queryParameters.map Prod.fst).Nodup ∧
        (∀ name, name ∈ sourceNames tokens ↔ name ∈ queryParameters.map Prod.fst) ∧
        (style = .flight → ∀ v ∈ usedValues queryParameters tokens,
          ∃ t, renderFlightLiteral v = .ok t) ∧
        r = (tokens.flatMap (SourceToken.output style bindRequired queryParameters),
          boundValues style (usedValues queryParameters tokens)))) ∧
    ((¬ ∃ tokens, Reads none fragment tokens) →
      ∀ r, renderUnsafeFragment fragment queryParameters style bindRequired ≠ .ok r) := by
  constructor
  · intro tokens hreads r
    have htokens := fragmentTokens_of_reads hreads
    have hholes : (tokensTemplate queryParameters (tokens.flatMap SourceToken.fragment)).holes =
        usedValues queryParameters tokens := by
      rw [holes_tokensTemplate, markerNames_fragment, usedValues]
    rw [renderUnsafeFragment_eq_ok_iff, htokens, markerNames_fragment]
    simp only [true_and]
    refine and_congr_right fun _ => and_congr (forall_congr' fun name => Iff.comm) ?_
    have hrender := render_fragment style bindRequired queryParameters tokens
    cases style with
    | mysql =>
      rw [write_mysql, hholes, Except.ok.injEq, List.nil_append, eq_comm]
      simp only [reduceCtorEq, false_implies, true_and]
      rw [← hrender]
      rfl
    | flight =>
      rw [write_flight_eq_ok_iff, hholes, ← hrender]
      simp only [true_implies]
      refine and_congr (forall_congr' fun v => forall_congr' fun _ => ?_) Iff.rfl
      constructor
      · intro hv
        exact ⟨_, hv⟩
      · intro hv
        obtain ⟨t, ht⟩ := hv
        exact renderFlightLiteral_eq_ok ht
  · intro hnone r h
    obtain ⟨-, hquote, -⟩ := renderUnsafeFragment_eq_ok_iff.mp h
    exact hnone (exists_reads fragment.length (Nat.le_refl _) hquote)

/-- A colon between quotes starts no marker, and its percent sign is doubled. -/
theorem renderUnsafeFragment_quotedColon :
    Reads none (str "':%'=:x") [.quoted '\'' (str ":%"), .other '=', .marker (str "x")] ∧
    renderUnsafeFragment (str "':%'=:x") [(str "x", .int 1)] .mysql true =
      .ok (str "':%%'=%s", [.int 1]) := by
  have hbody : QuotedBody '\'' (str ":%") :=
    .plain (by decide) (Or.inl (by decide)) (.plain (by decide) (Or.inl (by decide)) .nil)
  have hname : IsParameterName (str "x") := ⟨rfl, by decide⟩
  have hcolon : some (PyChar.scalar '=') ≠ some (PyChar.scalar ':') := by decide
  have hmarker : Reads (some '=') (':' :: (str "x" ++ [])) [.marker (str "x")] :=
    .marker hcolon hname (fun c hc => by cases hc) .done
  have hreads : Reads none (str "':%'=:x") [.quoted '\'' (str ":%"), .other '=', .marker (str "x")] :=
    .quoted rfl hbody (by decide) (.other rfl (fun h => absurd h.1 (by decide)) hmarker)
  refine ⟨hreads, ((renderUnsafeFragment_reads _ _ _ _).1 _ hreads _).mpr ⟨by decide, ?_, ?_, by decide⟩⟩
  · intro name
    rfl
  · intro hflight
    cases hflight

end Doris
end DaftOlap
