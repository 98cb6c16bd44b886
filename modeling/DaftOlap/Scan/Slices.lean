/-
Cutting a sequence into consecutive slices.

A slice is an offset and a length.  `Slices fits stop start slices` says that the
slices are consecutive, non-empty, fitting, and reach from `start` to `stop`.  When
every part of a fitting slice fits too, slices that are each as long as possible are
also as few as possible: after as many slices they are never behind another cut.
-/
import Mathlib.Algebra.GroupWithZero.Nat
import Mathlib.Algebra.Order.BigOperators.Group.Multiset
import Mathlib.Algebra.Order.Group.Multiset
import Mathlib.Data.List.TakeDrop

namespace DaftOlap
namespace Scan

inductive Slices (fits : Nat → Nat → Prop) (stop : Nat) : Nat → List (Nat × Nat) → Prop
  | done : Slices fits stop stop []
  | next {start length : Nat} {rest : List (Nat × Nat)} (hpos : 0 < length)
      (hfits : fits start length) (hrest : Slices fits stop (start + length) rest) :
      Slices fits stop start ((start, length) :: rest)

/-- No longer slice that starts where this one does fits. -/
def Maximal (fits : Nat → Nat → Prop) (stop : Nat) (slice : Nat × Nat) : Prop :=
  ∀ n, slice.2 < n → slice.1 + n ≤ stop → ¬ fits slice.1 n

namespace Slices

variable {fits : Nat → Nat → Prop} {stop start : Nat} {slices : List (Nat × Nat)}

theorem start_le (h : Slices fits stop start slices) : start ≤ stop := by
  induction h with
  | done => exact Nat.le_refl _
  | next hpos hfits hrest ih => omega

theorem of_mem (h : Slices fits stop start slices) {slice : Nat × Nat} (hmem : slice ∈ slices) :
    0 < slice.2 ∧ fits slice.1 slice.2 ∧ slice.1 + slice.2 ≤ stop := by
  induction h with
  | done => exact absurd hmem List.not_mem_nil
  | next hpos hfits hrest ih =>
    rcases List.mem_cons.mp hmem with hhead | htail
    · subst hhead
      exact ⟨hpos, hfits, hrest.start_le⟩
    · exact ih htail

/-- The slices of a list, one after another, are the list. -/
theorem flatten {α : Type} {xs : List α} (h : Slices fits xs.length start slices) :
    (slices.map fun s => (xs.drop s.1).take s.2).flatten = xs.drop start := by
  generalize hstop : xs.length = stop at h
  induction h with
  | done => simp [← hstop]
  | @next start length rest hpos hfits hrest ih =>
    rw [List.map_cons, List.flatten_cons, ih, ← List.drop_drop, List.take_append_drop]

/-- The induction is on the other cut.  A maximal slice that starts inside a slice of
the other cut reaches at least the end of that slice. -/
theorem length_le {start' : Nat} {others : List (Nat × Nat)}
    (hpart : ∀ o n o' n', fits o n → o + n ≤ stop → o ≤ o' → o' + n' ≤ o + n → 0 < n' → fits o' n')
    (hothers : Slices fits stop start' others) (hslices : Slices fits stop start slices)
    (hmax : ∀ s ∈ slices, Maximal fits stop s) (hahead : start' ≤ start) :
    slices.length ≤ others.length := by
  induction hothers generalizing start slices with
  | done =>
    cases hslices with
    | done => exact Nat.le_refl _
    | next hpos hfits hrest =>
      have := hrest.start_le
      omega
  | @next start' n others hpos' hfits' hrest' ih =>
    by_cases hbehind : start' + n ≤ start
    · have := ih hslices hmax hbehind
      rw [List.length_cons]
      omega
    · have hstop := hrest'.start_le
      cases hslices with
      | done => omega
      | @next start length rest hpos hfits hrest =>
        have hreach : start' + n ≤ start + length := by
          by_contra hshort
          have hsub := hpart start' n start (start' + n - start) hfits' hstop hahead (by omega)
            (by omega)
          exact hmax (start, length) List.mem_cons_self (start' + n - start)
            (show length < _ by omega) (show start + _ ≤ stop by omega) hsub
        have := ih hrest (fun s hs => hmax s (List.mem_cons_of_mem _ hs)) hreach
        rw [List.length_cons, List.length_cons]
        omega

end Slices

end Scan
end DaftOlap
