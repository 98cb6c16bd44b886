/-
Splitting a condition over tasks.

A list of tasks splits a condition on the rows of a table when every row that meets
the condition is selected by exactly one task, and every other row by none.  Then the
selections of the tasks, taken together, are the selection of the condition.  Tasks
made from groups of keys split a condition when the groups have no key twice and
cover the keys of the rows that meet it.
-/
import Mathlib.Algebra.GroupWithZero.Nat
import Mathlib.Algebra.Order.BigOperators.Group.Multiset
import Mathlib.Algebra.Order.Group.Multiset
import Mathlib.Data.List.Count
import Mathlib.Data.List.Nodup

namespace DaftOlap
namespace Scan

variable {τ ρ κ : Type*}

/-- Every row of the table that meets the condition is selected by exactly one of the
tasks, and every other row by none. -/
def Splits (table : Multiset ρ) (tasks : List τ) (selects : τ → ρ → Bool) (base : ρ → Bool) :
    Prop :=
  ∀ row ∈ table, (tasks.countP fun t => selects t row) = if base row then 1 else 0

variable {table : Multiset ρ} {tasks : List τ} {selects : τ → ρ → Bool} {base : ρ → Bool}

/-- A single task that selects by the condition splits it. -/
theorem Splits.single {t : τ} (h : ∀ row ∈ table, selects t row = base row) :
    Splits table [t] selects base := by
  intro row hrow
  rw [List.countP_singleton, h row hrow]

theorem countP_eq_of_forall₂ {σ : Type*} {sources : List σ} {p : σ → Bool} {q : τ → Bool}
    (h : List.Forall₂ (fun s t => q t = p s) sources tasks) : tasks.countP q = sources.countP p := by
  induction h with
  | nil => rfl
  | cons hst _ ih => rw [List.countP_cons, List.countP_cons, ih, hst]

/-- Tasks that select as their sources do split what the sources split. -/
theorem Splits.of_forall₂ {σ : Type*} {sources : List σ} {selects' : σ → ρ → Bool}
    (h : Splits table sources selects' base)
    (heq : List.Forall₂ (fun s t => ∀ row ∈ table, selects t row = selects' s row) sources tasks) :
    Splits table tasks selects base := by
  intro row hrow
  rw [← h row hrow]
  exact countP_eq_of_forall₂ (heq.imp fun _ _ hst => hst row hrow)

/-- In groups without repetition a key is in one group if it is in any. -/
theorem countP_mem_groups [DecidableEq κ] {groups : List (List κ)} (h : groups.flatten.Nodup)
    (k : κ) : (groups.countP fun g => decide (k ∈ g)) = if k ∈ groups.flatten then 1 else 0 := by
  induction groups with
  | nil => simp
  | cons g groups ih =>
    rw [List.flatten_cons, List.nodup_append] at h
    rw [List.countP_cons, ih h.2.1, List.flatten_cons]
    by_cases hg : k ∈ g
    · have hrest : k ∉ groups.flatten := fun hmem => h.2.2 k hg k hmem rfl
      simp [hg, hrest]
    · simp [hg]

/-- Tasks that add to a condition that the key of the row is in their group split the
condition, provided the groups cover the keys of the rows that meet it. -/
theorem Splits.of_groups [DecidableEq κ] (key : ρ → κ) {groups : List (List κ)}
    (hnodup : groups.flatten.Nodup)
    (hcover : ∀ row ∈ table, base row = true → key row ∈ groups.flatten) :
    Splits table groups (fun g row => base row && decide (key row ∈ g)) base := by
  intro row hrow
  by_cases hbase : base row = true
  · simp only [hbase, Bool.true_and, if_true]
    rw [countP_mem_groups hnodup, if_pos (hcover row hrow hbase)]
  · simp [hbase]

/-- The selections of the tasks, taken together, are the selection of the condition. -/
theorem Splits.sum_filter (h : Splits table tasks selects base) :
    (tasks.map fun t => table.filter fun row => selects t row).sum =
      table.filter fun row => base row := by
  induction table using Multiset.induction with
  | empty =>
    simp
  | cons row table ih =>
    have hcons : ∀ tasks : List τ,
        (tasks.map fun t => (row ::ₘ table).filter fun row => selects t row).sum =
          Multiset.replicate (tasks.countP fun t => selects t row) row +
            (tasks.map fun t => table.filter fun row => selects t row).sum := by
      intro tasks
      induction tasks with
      | nil => simp
      | cons t tasks ih =>
        rw [List.map_cons, List.sum_cons, ih, List.countP_cons, List.map_cons, List.sum_cons]
        cases hsel : selects t row with
        | false =>
          rw [Multiset.filter_cons_of_neg _ (by simp [hsel])]
          simp [add_left_comm]
        | true =>
          rw [Multiset.filter_cons_of_pos _ (by simp [hsel])]
          simp [Multiset.replicate_succ, add_left_comm, Multiset.cons_add]
    have hrow := h row (Multiset.mem_cons_self row table)
    rw [hcons, ih fun r hr => h r (Multiset.mem_cons_of_mem hr), hrow]
    cases hbase : base row with
    | false =>
      rw [Multiset.filter_cons_of_neg _ (by simp [hbase])]
      simp
    | true =>
      rw [Multiset.filter_cons_of_pos _ (by simp [hbase])]
      simp [Multiset.replicate_succ]

end Scan
end DaftOlap
