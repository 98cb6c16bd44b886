/-
Delivering what tasks select.

A task delivers some of the rows that are available to it, and unless it fails as many as its
limit lets through.  If the tasks split a condition, what they deliver together is some of the
rows that meet it; and if none of them fails, a reader who keeps as many rows as the limit lets
through cannot tell it from all of them.
-/
import DaftOlap.Scan.Limit
import DaftOlap.Scan.Split

namespace DaftOlap
namespace Scan

variable {τ ρ σ δ : Type*}

/-- Some of the available rows are delivered, and unless there is a failure they give a reader
who keeps what the limit lets through what all of the available rows give. -/
structure Delivers (limit : Option Nat) (available : Multiset σ) (failed : Prop)
    (delivered : Multiset σ) : Prop where
  le : delivered ≤ available
  keeps : ¬ failed → ∀ result, Keeps limit delivered result → Keeps limit available result

variable {limit : Option Nat} {available answer delivered : Multiset σ} {failed : Prop}

/-- Without a limit nothing is left out unless there is a failure. -/
theorem Delivers.eq_of_no_limit (h : Delivers none available failed delivered) (hok : ¬ failed) :
    delivered = available :=
  (h.keeps hok delivered ⟨le_rfl, rfl⟩).eq_of_no_limit

/-- What is delivered of the answer to a query.  The answer has as many rows as the limit lets
through. -/
structure Answers (limit : Option Nat) (available answer : Multiset σ) (failed : Prop)
    (delivered : Multiset σ) : Prop where
  keeps : Keeps limit available answer
  le : delivered ≤ answer
  complete : ¬ failed → delivered = answer

theorem sum_map_encode (tasks : List τ) (rows : τ → Multiset ρ) (encode : ρ → σ) :
    (tasks.map fun t => (rows t).map encode).sum = (tasks.map rows).sum.map encode := by
  rw [← Multiset.coe_mapAddMonoidHom, map_list_sum, List.map_map]
  rfl

variable {deliveries : List δ} {rows answer given : δ → Multiset σ} {fails : δ → Prop}

/-- Tasks that answer a limited query each deliver together what their rows together give. -/
theorem delivers_sum
    (h : ∀ d ∈ deliveries, Answers limit (rows d) (answer d) (fails d) (given d)) :
    Delivers limit (deliveries.map rows).sum (∃ d ∈ deliveries, fails d)
      (deliveries.map given).sum where
  le := List.sum_le_sum fun d hd => (h d hd).le.trans (h d hd).keeps.1
  keeps := by
    intro hok result hresult
    have hall : ∀ m : Multiset σ, (m.filter fun _ => true) = m := fun m =>
      Multiset.filter_eq_self.mpr fun _ _ => rfl
    have hgiven : deliveries.map given = deliveries.map answer :=
      List.map_congr_left fun d hd => (h d hd).complete fun hfails => hok ⟨d, hd, hfails⟩
    have hreturned : List.Forall₂
        (fun part r => Keeps limit (part.filter fun row => (fun _ : σ => true) row) r)
        (deliveries.map rows) (deliveries.map answer) := by
      rw [List.forall₂_map_left_iff, List.forall₂_map_right_iff, List.forall₂_same]
      intro d hd
      rw [hall]
      exact (h d hd).keeps
    rw [hgiven] at hresult
    have hkept := keeps_of_pushed (fun _ _ _ => rfl) hreturned
      (show Keeps limit ((deliveries.map answer).sum.filter fun row => (fun _ => true) row) result by
        rwa [hall])
    rwa [hall] at hkept

/-- Tasks that split a condition deliver together what its selection gives. -/
theorem Splits.delivers {table : Multiset ρ} {tasks : List τ} {selects : τ → ρ → Bool}
    {base : ρ → Bool} (hsplits : Splits table tasks selects base) {encode : ρ → σ} {task : δ → τ}
    (htasks : deliveries.map task = tasks)
    (h : ∀ d ∈ deliveries, Answers limit ((table.filter fun row => selects (task d) row).map encode)
      (answer d) (fails d) (given d)) :
    Delivers limit ((table.filter fun row => base row).map encode) (∃ d ∈ deliveries, fails d)
      (deliveries.map given).sum := by
  rw [← hsplits.sum_filter, ← sum_map_encode, ← htasks, List.map_map]
  exact delivers_sum h

end Scan
end DaftOlap
