/-
What `splitTypeArguments` accepts.

Its loop reads as a scanner of quotations, brackets and separators does, and cuts a
text exactly into closed pieces.
-/
import DaftOlap.ClickHouse.TypeText
import DaftOlap.Logic.Delimited
import DaftOlap.Python.Digits

namespace DaftOlap
namespace ClickHouse

open Python Logic

/-! ## Characters -/

def delimiters : Delimiters PyChar where
  quotes := [PyChar.scalar '\'', PyChar.scalar '"', PyChar.scalar '`']
  escape := PyChar.scalar '\\'
  opening := PyChar.scalar '('
  closing := PyChar.scalar ')'
  separator := PyChar.scalar ','
  distinct := by decide

/-- All quotes of a type are closed, its brackets are balanced and it has no comma
outside of them. -/
abbrev Closed (t : Text) : Prop := delimiters.Closed t

theorem plain_of_ne {c : PyChar} (h : c ∉ str "'\"`(),") : delimiters.Plain c := by
  have hsplit : str "'\"`()," =
      delimiters.quotes ++ [PyChar.scalar '(', PyChar.scalar ')', PyChar.scalar ','] := by decide
  rw [hsplit, List.mem_append, not_or] at h
  refine ⟨h.1, ?_, ?_, ?_⟩
  all_goals
    intro hc
    apply h.2
    rw [hc]
    decide

theorem plain_of_isSpace {c : PyChar} (h : c.isSpace = true) : delimiters.Plain c := by
  apply plain_of_ne
  intro hc
  have hnot : ∀ d ∈ str "'\"`(),", d.isSpace = false := by decide
  rw [hnot c hc] at h
  cases h

theorem plain_of_isNameChar {c : PyChar} (h : c.isNameChar = true) : delimiters.Plain c := by
  apply plain_of_ne
  intro hc
  have hnot : ∀ d ∈ str "'\"`(),", d.isNameChar = false := by decide
  rw [hnot c hc] at h
  cases h

theorem ord_of_isAsciiLetter {c : PyChar} (h : c.isAsciiLetter = true) :
    65 ≤ c.ord ∧ c.ord ≤ 122 := by
  cases c with
  | surrogate n => cases h
  | scalar c =>
    have hrange : c.isUpper = true ∨ c.isLower = true := (Bool.or_eq_true _ _).mp h
    rcases hrange with hupper | hlower
    · have hord : 65 ≤ (PyChar.scalar c).ord ∧ (PyChar.scalar c).ord ≤ 90 := ord_of_isUpper hupper
      omega
    · have hval := (Bool.and_eq_true _ _).mp hlower
      have hfirst : 97 ≤ (PyChar.scalar c).ord :=
        UInt32.le_iff_toNat_le.mp (of_decide_eq_true hval.1)
      have hlast : (PyChar.scalar c).ord ≤ 122 :=
        UInt32.le_iff_toNat_le.mp (of_decide_eq_true hval.2)
      omega

theorem isSpace_of_isNameChar {c : PyChar} (h : c.isNameChar = true) : c.isSpace = false := by
  rw [Bool.eq_false_iff]
  intro hspace
  have hord := ord_of_isSpace hspace
  simp only [PyChar.isNameChar, Bool.or_eq_true, beq_iff_eq] at h
  rcases h with (hletter | hdigit) | hunderscore
  · have := ord_of_isAsciiLetter hletter
    omega
  · have := ord_of_isAsciiDigit hdigit
    omega
  · rw [hunderscore] at hspace
    cases hspace

/-- What stripping leaves of a closed text is closed. -/
theorem closed_strip {t : Text} (h : Closed t) : Closed (Text.strip t) := by
  obtain ⟨before, after, hbefore, hafter, ht⟩ := Text.exists_pad t
  rw [ht] at h
  exact Delimiters.Closed.of_pad (fun c hc => plain_of_isSpace (hbefore c hc))
    (fun c hc => plain_of_isSpace (hafter c hc)) h

theorem mem_of_mem_strip {t : Text} {c : PyChar} (h : c ∈ Text.strip t) : c ∈ t := by
  obtain ⟨before, after, -, -, ht⟩ := Text.exists_pad t
  rw [ht]
  exact List.mem_append_left _ (List.mem_append_right _ h)

/-! ## The loop -/

def quoteOf : Delimiters.Place delimiters → Option PyChar
  | .outside => none
  | .inside quote _ => some quote.val

def escapedOf : Delimiters.Place delimiters → Bool
  | .outside => false
  | .inside _ escaped => escaped

/-- The variables of the loop at a position of the scanner. -/
def SplitState.atPosition (parts : List Text) (current : Text)
    (p : Delimiters.Position delimiters) : SplitState :=
  { parts, current, depth := p.depth, quote := quoteOf p.place, escaped := escapedOf p.place }

variable {value : Text} {parts : List Text} {current : Text}
  {p : Delimiters.Position delimiters}

/-- The loop follows the scanner. -/
theorem splitStep_of_advance {c : PyChar} {next : Delimiters.Position delimiters}
    (h : Delimiters.advance p c = some next) :
    splitStep value (.atPosition parts current p) c =
      .ok (.atPosition parts (current ++ [c]) next) := by
  obtain ⟨depth, place⟩ := p
  cases place with
  | inside quote escaped =>
    show splitStep value ⟨parts, current, depth, some quote.val, escaped⟩ c = _
    simp only [Delimiters.advance] at h
    simp only [splitStep]
    split at h
    · next hescaped =>
      rw [if_pos hescaped, ← Option.some.inj h]
      rfl
    · next hescaped =>
      rw [if_neg hescaped]
      split at h
      · next hescape =>
        rw [if_pos (show c = PyChar.scalar '\\' from hescape), ← Option.some.inj h]
        rfl
      · next hescape =>
        rw [if_neg (show c ≠ PyChar.scalar '\\' from hescape)]
        split at h
        · next hquote =>
          rw [if_pos hquote, ← Option.some.inj h]
          obtain rfl : escaped = false := by simpa using hescaped
          rfl
        · next hquote =>
          rw [if_neg hquote, ← Option.some.inj h]
          rfl
  | outside =>
    show splitStep value ⟨parts, current, depth, none, false⟩ c = _
    simp only [Delimiters.advance] at h
    simp only [splitStep]
    have hquotes : c ∈ delimiters.quotes ↔
        c = PyChar.scalar '\'' ∨ c = PyChar.scalar '"' ∨ c = PyChar.scalar '`' := by
      simp [delimiters]
    split at h
    · next hquote =>
      rw [if_pos (hquotes.mp hquote), ← Option.some.inj h]
      rfl
    · next hquote =>
      rw [if_neg fun hc => hquote (hquotes.mpr hc)]
      split at h
      · next hopening =>
        rw [if_pos (show c = PyChar.scalar '(' from hopening), ← Option.some.inj h]
        rfl
      · next hopening =>
        rw [if_neg (show c ≠ PyChar.scalar '(' from hopening)]
        split at h
        · next hclosing =>
          rw [if_pos (show c = PyChar.scalar ')' from hclosing)]
          split at h
          · cases h
          · next hdepth =>
            rw [if_neg hdepth, ← Option.some.inj h]
            rfl
        · next hclosing =>
          rw [if_neg (show c ≠ PyChar.scalar ')' from hclosing)]
          split at h
          · cases h
          · next hseparator =>
            rw [if_neg (show ¬ (c = PyChar.scalar ',' ∧ depth = 0) from hseparator),
              ← Option.some.inj h]
            rfl

/-- Outside of brackets a comma ends an argument. -/
theorem splitStep_comma : splitStep value (.atPosition parts current delimiters.start) ',' =
    if Text.strip current = [] then .error (emptyTypeArgument value)
    else .ok (.atPosition (parts ++ [Text.strip current]) [] delimiters.start) := rfl

theorem splitStep_closing : splitStep value (.atPosition parts current delimiters.start) ')' =
    .error (unbalancedType value) := rfl

theorem foldlM_splitStep_of_scan {t : Text} {next : Delimiters.Position delimiters}
    (h : Delimiters.scan p t = some next) :
    t.foldlM (splitStep value) (.atPosition parts current p) =
      .ok (.atPosition parts (current ++ t) next) := by
  induction t generalizing current p with
  | nil =>
    rw [← Option.some.inj h, List.append_nil]
    rfl
  | cons c t ih =>
    obtain ⟨middle, hmiddle, hrest⟩ := Option.bind_eq_some_iff.mp h
    rw [List.foldlM_cons, splitStep_of_advance hmiddle, ok_bind, ih hrest]
    simp

/-! ## Arguments -/

/-- What lies between the commas of a list of arguments. -/
structure Pieces (pieces : List Text) : Prop where
  nonempty : pieces ≠ []
  closed : ∀ piece ∈ pieces, Closed piece
  filled : ∀ piece ∈ pieces, Text.strip piece ≠ []

theorem foldlM_splitStep_join {pieces : List Text} (hne : pieces ≠ [])
    (hclosed : ∀ piece ∈ pieces, Closed piece) (hfilled : ∀ piece ∈ pieces, Text.strip piece ≠ []) :
    (Text.join (str ",") pieces).foldlM (splitStep value)
        (.atPosition parts [] delimiters.start) =
      .ok (.atPosition (parts ++ pieces.dropLast.map Text.strip) (pieces.getLast hne)
        delimiters.start) := by
  induction pieces generalizing parts with
  | nil => exact absurd rfl hne
  | cons piece rest ih =>
    have hpiece := hclosed piece List.mem_cons_self
    cases rest with
    | nil =>
      rw [Text.join_singleton, foldlM_splitStep_of_scan hpiece]
      simp
    | cons next rest =>
      have hrest : ∀ other ∈ next :: rest, Closed other ∧ Text.strip other ≠ [] := by
        intro other hother
        have hmem := List.mem_cons_of_mem piece hother
        exact ⟨hclosed other hmem, hfilled other hmem⟩
      rw [Text.join_cons_cons, List.foldlM_append, List.foldlM_append,
        foldlM_splitStep_of_scan hpiece, ok_bind]
      show (splitStep value (.atPosition parts ([] ++ piece) delimiters.start) ',' >>= pure) >>=
        _ = _
      rw [List.nil_append, splitStep_comma, if_neg (hfilled piece List.mem_cons_self), ok_bind,
        pure_eq_ok, ok_bind, ih (List.cons_ne_nil next rest) (fun other h => (hrest other h).1)
          fun other h => (hrest other h).2]
      simp

theorem splitTypeArguments_join {pieces : List Text} (h : Pieces pieces) :
    splitTypeArguments (Text.join (str ",") pieces) = .ok (pieces.map Text.strip) := by
  have hlast := h.filled _ (List.getLast_mem h.nonempty)
  have hfold : (Text.join (str ",") pieces).foldlM (splitStep (Text.join (str ",") pieces))
      (.atPosition [] [] delimiters.start) =
      .ok (.atPosition ([] ++ pieces.dropLast.map Text.strip) (pieces.getLast h.nonempty)
        delimiters.start) :=
    foldlM_splitStep_join h.nonempty h.closed h.filled
  have hend : ∀ state : SplitState, state = .atPosition ([] ++ pieces.dropLast.map Text.strip)
      (pieces.getLast h.nonempty) delimiters.start →
      ¬ (state.quote ≠ none ∨ state.depth ≠ 0) := by
    intro state hstate
    rw [hstate, not_or, not_not, not_not]
    exact ⟨rfl, rfl⟩
  rw [splitTypeArguments]
  show ((Text.join (str ",") pieces).foldlM (splitStep (Text.join (str ",") pieces))
    (.atPosition [] [] delimiters.start) >>= _) = _
  rw [hfold, ok_bind, if_neg (hend _ rfl)]
  show (if Text.strip (pieces.getLast h.nonempty) = [] then _ else Except.ok
    (([] ++ pieces.dropLast.map Text.strip) ++ [Text.strip (pieces.getLast h.nonempty)])) = _
  rw [if_neg hlast, List.nil_append, ← List.map_singleton, ← List.map_append,
    List.dropLast_append_getLast]

/-- What the loop has read from a position of the scanner on: it is cut at commas into
closed pieces, the last of which is still being read. -/
theorem pieces_of_foldlM {t : Text} {final : SplitState}
    (hcurrent : Delimiters.scan delimiters.start current = some p)
    (h : t.foldlM (splitStep value) (.atPosition parts current p) = .ok final)
    (hquote : final.quote = none) (hdepth : final.depth = 0) :
    ∃ pieces, pieces ≠ [] ∧ (∀ piece ∈ pieces, Closed piece) ∧
      Text.join (str ",") pieces = current ++ t ∧
      parts ++ pieces.map Text.strip = final.parts ++ [Text.strip final.current] ∧
      ∀ piece ∈ pieces, Text.strip piece = [] → Text.strip final.current = [] := by
  induction t generalizing parts current p with
  | nil =>
    obtain rfl := Except.ok.inj h
    obtain ⟨depth, place⟩ := p
    obtain rfl : depth = 0 := hdepth
    cases place with
    | inside quote escaped => cases hquote
    | outside =>
      refine ⟨[current], List.cons_ne_nil _ _, ?_, by simp, rfl, ?_⟩
      · intro piece hpiece
        rw [List.mem_singleton.mp hpiece]
        exact hcurrent
      · intro piece hpiece hempty
        rwa [List.mem_singleton.mp hpiece] at hempty
  | cons c t ih =>
    rw [List.foldlM_cons] at h
    obtain ⟨state, hstate, hrest⟩ := bind_eq_ok.mp h
    cases hadvance : Delimiters.advance p c with
    | some next =>
      rw [splitStep_of_advance hadvance] at hstate
      rw [← Except.ok.inj hstate] at hrest
      have hread : Delimiters.scan delimiters.start (current ++ [c]) = some next := by
        rw [Delimiters.scan_append, hcurrent, Option.bind_some, Delimiters.scan, hadvance]
        rfl
      obtain ⟨pieces, hne, hclosed, hjoin, hparts, hfilled⟩ := ih hread hrest
      exact ⟨pieces, hne, hclosed, by rw [hjoin]; simp, hparts, hfilled⟩
    | none =>
      obtain ⟨rfl, hc⟩ := Delimiters.advance_eq_none hadvance
      rcases hc with hclosing | hseparator
      · obtain rfl : c = PyChar.scalar ')' := hclosing
        rw [splitStep_closing] at hstate
        cases hstate
      · obtain rfl : c = PyChar.scalar ',' := hseparator
        rw [splitStep_comma] at hstate
        split at hstate
        · cases hstate
        · next hpart =>
          rw [← Except.ok.inj hstate] at hrest
          obtain ⟨pieces, hne, hclosed, hjoin, hparts, hfilled⟩ := ih rfl hrest
          cases pieces with
          | nil => exact absurd rfl hne
          | cons first rest =>
            refine ⟨current :: first :: rest, List.cons_ne_nil _ _, ?_, ?_, ?_, ?_⟩
            · intro piece hpiece
              rcases List.mem_cons.mp hpiece with rfl | hpiece
              · exact hcurrent
              · exact hclosed piece hpiece
            · rw [Text.join_cons_cons, hjoin]
              simp [str]
            · rw [List.map_cons, ← hparts]
              simp
            · intro piece hpiece hempty
              rcases List.mem_cons.mp hpiece with rfl | hpiece
              · exact absurd hempty hpart
              · exact hfilled piece hpiece hempty

theorem pieces_of_splitTypeArguments (h : splitTypeArguments value = .ok parts) :
    ∃ pieces, Pieces pieces ∧ Text.join (str ",") pieces = value ∧
      pieces.map Text.strip = parts := by
  obtain ⟨final, hfold, h⟩ := bind_eq_ok.mp h
  split at h
  · cases h
  · next hend =>
    rw [not_or, not_not, not_not] at hend
    simp only at h
    split at h
    · cases h
    · next hlast =>
      obtain ⟨pieces, hne, hclosed, hjoin, hparts, hfilled⟩ :=
        pieces_of_foldlM (show Delimiters.scan delimiters.start [] = some delimiters.start from rfl)
          hfold hend.1 hend.2
      refine ⟨pieces, ⟨hne, hclosed, ?_⟩, hjoin, ?_⟩
      · intro piece hpiece hempty
        exact hlast (hfilled piece hpiece hempty)
      · rw [← Except.ok.inj h, ← hparts]
        rfl

/-- A list of arguments is cut exactly into pieces. -/
theorem splitTypeArguments_eq_ok : splitTypeArguments value = .ok parts ↔
    ∃ pieces, Pieces pieces ∧ Text.join (str ",") pieces = value ∧
      pieces.map Text.strip = parts := by
  constructor
  · exact pieces_of_splitTypeArguments
  · intro h
    obtain ⟨pieces, hpieces, rfl, rfl⟩ := h
    exact splitTypeArguments_join hpieces

end ClickHouse
end DaftOlap
