/-
White space around a text.

A text is its stripped part between two runs of white space, and stripping removes
exactly these runs.
-/
import DaftOlap.Python.Text

namespace DaftOlap
namespace Python

def White (t : Text) : Prop := ∀ c ∈ t, c.isSpace = true

/-- Neither end is white space. -/
def Trimmed (t : Text) : Prop :=
  (∀ c, t.head? = some c → c.isSpace = false) ∧ ∀ c, t.getLast? = some c → c.isSpace = false

/-- White space lies in two short ranges of ASCII or outside it. -/
theorem ord_of_isSpace {c : PyChar} (h : c.isSpace = true) :
    (9 ≤ c.ord ∧ c.ord ≤ 13) ∨ (28 ≤ c.ord ∧ c.ord ≤ 32) ∨ 0x85 ≤ c.ord := by
  simp only [PyChar.isSpace, Bool.or_eq_true, Bool.and_eq_true, decide_eq_true_eq, beq_iff_eq] at h
  omega

namespace Text

variable {t before after : Text}

theorem rdropWhile_append_white (h : White after) (t : Text) :
    (t ++ after).rdropWhile PyChar.isSpace = t.rdropWhile PyChar.isSpace := by
  simp only [List.rdropWhile, List.reverse_append]
  rw [List.dropWhile_append_of_pos fun c hc => h c (List.mem_reverse.mp hc)]

theorem strip_white (h : White t) : strip t = [] := by
  rw [strip, List.dropWhile_eq_nil_iff.mpr h]
  rfl

/-- White space around a text does not count. -/
theorem strip_pad (hbefore : White before) (hafter : White after) (t : Text) :
    strip (before ++ t ++ after) = strip t := by
  rw [List.append_assoc, strip, List.dropWhile_append_of_pos hbefore, List.dropWhile_append]
  by_cases hempty : (t.dropWhile PyChar.isSpace).isEmpty = true
  · rw [if_pos hempty, List.dropWhile_eq_nil_iff.mpr hafter, strip, List.isEmpty_iff.mp hempty]
  · rw [if_neg hempty, rdropWhile_append_white hafter, strip]

theorem strip_of_trimmed (h : Trimmed t) : strip t = t := by
  have hfront : t.dropWhile PyChar.isSpace = t := by
    cases t with
    | nil => rfl
    | cons c rest => rw [List.dropWhile_cons_of_neg (by rw [h.1 c rfl]; exact Bool.false_ne_true)]
  rw [strip, hfront, List.rdropWhile_eq_self_iff]
  intro hne
  rw [h.2 _ (List.getLast?_eq_getLast_of_ne_nil hne)]
  exact Bool.false_ne_true

theorem trimmed_strip (t : Text) : Trimmed (strip t) := by
  have hfront : ∀ c, (t.dropWhile PyChar.isSpace).head? = some c → c.isSpace = false := by
    intro c hc
    have := List.head?_dropWhile_not PyChar.isSpace t
    rw [hc] at this
    simpa using this
  constructor
  · intro c hc
    obtain ⟨rest, hrest⟩ := List.rdropWhile_prefix (l := t.dropWhile PyChar.isSpace) PyChar.isSpace
    apply hfront
    rw [← hrest]
    cases hstrip : (t.dropWhile PyChar.isSpace).rdropWhile PyChar.isSpace with
    | nil =>
      rw [strip, hstrip] at hc
      cases hc
    | cons d ds =>
      rw [strip, hstrip] at hc
      exact hc
  · intro c hc
    by_cases hempty : strip t = []
    · rw [hempty] at hc
      cases hc
    · rw [List.getLast?_eq_getLast_of_ne_nil hempty] at hc
      rw [← Option.some.inj hc]
      have := List.rdropWhile_last_not PyChar.isSpace (t.dropWhile PyChar.isSpace) hempty
      simpa [strip] using this

theorem exists_pad (t : Text) :
    ∃ before after, White before ∧ White after ∧ t = before ++ strip t ++ after := by
  refine ⟨t.takeWhile PyChar.isSpace, (t.dropWhile PyChar.isSpace).rtakeWhile PyChar.isSpace,
    fun c hc => (List.mem_takeWhile_imp hc), fun c hc => List.mem_rtakeWhile_imp hc, ?_⟩
  rw [List.append_assoc, strip, List.rdropWhile_append_rtakeWhile, List.takeWhile_append_dropWhile]

end Text

end Python
end DaftOlap
