/-
Limits below a residual filter.

Every task returns some of the rows it matches, as many as its own limit lets
through.  The reader filters what it gets and keeps as many rows as the overall limit
lets through.  It keeps as many rows as a reader of the whole table would, if the
tasks match exactly the rows the filter keeps and share the overall limit, or if the
tasks have no limit.
-/
import Mathlib.Algebra.GroupWithZero.Nat
import Mathlib.Algebra.Order.BigOperators.Group.Multiset
import Mathlib.Algebra.Order.Group.Multiset

namespace DaftOlap
namespace Scan

variable {ρ : Type*}

/-- How many of `n` rows a limit lets through. -/
def capped (limit : Option Nat) (n : Nat) : Nat :=
  match limit with
  | none => n
  | some l => min l n

/-- `kept` is some of the available rows, as many as the limit lets through. -/
def Keeps (limit : Option Nat) (available kept : Multiset ρ) : Prop :=
  kept ≤ available ∧ kept.card = capped limit available.card

theorem Keeps.eq_of_no_limit {available kept : Multiset ρ} (h : Keeps none available kept) :
    kept = available :=
  Multiset.eq_of_le_of_card_le h.1 (Nat.le_of_eq h.2.symm)

theorem capped_add_capped (limit : Option Nat) (m n : Nat) :
    capped limit (capped limit m + n) = capped limit (m + n) := by
  cases limit with
  | none => rfl
  | some l =>
    simp only [capped]
    omega

/-- The limit of a sum does not change when the limit is applied to each term. -/
theorem capped_sum_capped (limit : Option Nat) (ns : List Nat) (m : Nat) :
    capped limit (m + (ns.map (capped limit)).sum) = capped limit (m + ns.sum) := by
  induction ns generalizing m with
  | nil => rfl
  | cons n ns ih =>
    have hswap : m + (capped limit n + (ns.map (capped limit)).sum) =
        capped limit n + (m + (ns.map (capped limit)).sum) := by omega
    have hback : n + (m + (ns.map (capped limit)).sum) =
        m + n + (ns.map (capped limit)).sum := by omega
    rw [List.map_cons, List.sum_cons, List.sum_cons, hswap, capped_add_capped, hback, ih,
      Nat.add_assoc]

variable {parts returned : List (Multiset ρ)} {limit : Option Nat} {matching : ρ → Bool}

/-- What all tasks return is among the rows they match. -/
theorem sum_returned_le
    (h : List.Forall₂ (fun part r => Keeps limit (part.filter fun row => matching row) r) parts
      returned) : returned.sum ≤ parts.sum.filter fun row => matching row := by
  induction h with
  | nil => simp
  | cons hkeeps _ ih =>
    rw [List.sum_cons, List.sum_cons, Multiset.filter_add]
    exact add_le_add hkeeps.1 ih

theorem capped_card_sum_returned
    (h : List.Forall₂ (fun part r => Keeps limit (part.filter fun row => matching row) r) parts
      returned) :
    capped limit returned.sum.card =
      capped limit (parts.sum.filter fun row => matching row).card := by
  have hcards : returned.map Multiset.card =
      (parts.map fun part => (part.filter fun row => matching row).card).map (capped limit) := by
    induction h with
    | nil => rfl
    | cons hkeeps _ ih => rw [List.map_cons, List.map_cons, List.map_cons, ih, hkeeps.2]
  have hsum : ∀ ms : List (Multiset ρ), ms.sum.card = (ms.map Multiset.card).sum := by
    intro ms
    induction ms with
    | nil => rfl
    | cons m ms ih => rw [List.sum_cons, Multiset.card_add, ih, List.map_cons, List.sum_cons]
  have hfilter : (parts.sum.filter fun row => matching row).card =
      (parts.map fun part => (part.filter fun row => matching row).card).sum := by
    clear h hcards
    induction parts with
    | nil => rfl
    | cons part parts ih =>
      rw [List.sum_cons, Multiset.filter_add, Multiset.card_add, ih, List.map_cons, List.sum_cons]
  have hcapped := capped_sum_capped limit
    (parts.map fun part => (part.filter fun row => matching row).card) 0
  rw [Nat.zero_add, Nat.zero_add] at hcapped
  rw [hsum, hcards, hcapped, hfilter]

/-- When the tasks match exactly what the filter keeps of the trusted rows, pushing the
limit into every task loses no answer. -/
theorem keeps_of_pushed {keep : ρ → Bool} {result : Multiset ρ}
    (hmatching : ∀ row ∈ parts.sum, matching row = true → keep row = true)
    (h : List.Forall₂ (fun part r => Keeps limit (part.filter fun row => matching row) r) parts
      returned)
    (hresult : Keeps limit (returned.sum.filter fun row => keep row) result) :
    Keeps limit (parts.sum.filter fun row => matching row) result := by
  have hle := sum_returned_le h
  have hkeep : (returned.sum.filter fun row => keep row) = returned.sum := by
    refine Multiset.filter_eq_self.mpr fun row hrow => ?_
    obtain ⟨hmem, hmatch⟩ := Multiset.mem_filter.mp (Multiset.mem_of_le hle hrow)
    exact hmatching row hmem hmatch
  rw [hkeep] at hresult
  exact ⟨hresult.1.trans hle, hresult.2.trans (capped_card_sum_returned h)⟩

/-- Tasks without a limit leave the filter and the limit to the reader. -/
theorem keeps_of_residual {keep : ρ → Bool} {result : Multiset ρ}
    (h : List.Forall₂ (fun part r => Keeps none (part.filter fun row => matching row) r) parts
      returned)
    (hresult : Keeps limit (returned.sum.filter fun row => keep row) result) :
    Keeps limit (parts.sum.filter fun row => matching row && keep row) result := by
  have hsum : returned.sum = parts.sum.filter fun row => matching row := by
    clear hresult
    induction h with
    | nil => rfl
    | cons hkeeps _ ih =>
      rw [List.sum_cons, List.sum_cons, Multiset.filter_add, hkeeps.eq_of_no_limit, ih]
  rw [hsum, Multiset.filter_filter] at hresult
  simpa [and_comm] using hresult

/-- A limit of zero is met by nothing, from whatever rows. -/
theorem Keeps.of_zero {available available' result : Multiset ρ}
    (h : Keeps (some 0) available result) : Keeps (some 0) available' result := by
  have hcard : result.card = 0 := h.2.trans (Nat.zero_min _)
  rw [Multiset.card_eq_zero.mp hcard]
  exact ⟨Multiset.zero_le _, (Nat.zero_min _).symm⟩

/-! ## Tasks that share a table -/

/-- A task, its part of the table, and what it returns of it. -/
structure Reading (τ ρ : Type*) where
  task : τ
  part : Multiset ρ
  returned : Multiset ρ

/-- The tasks share the table.  Each returns some of the rows of its part it matches, as
many as its own limit lets through; the reader filters what they return and keeps as many
rows as the overall limit lets through. -/
structure Reads {τ : Type*} (table : Multiset ρ) (tasks : List τ) (bound : τ → Option Nat)
    (selects : τ → ρ → Bool) (limit : Option Nat) (keep : ρ → Bool)
    (readings : List (Reading τ ρ)) (result : Multiset ρ) : Prop where
  tasks_eq : readings.map Reading.task = tasks
  parts_sum : (readings.map Reading.part).sum = table
  returns : ∀ r ∈ readings,
    Keeps (bound r.task) (r.part.filter fun row => selects r.task row) r.returned
  result_keeps : Keeps limit ((readings.map Reading.returned).sum.filter fun row => keep row) result

variable {τ : Type*} {table result : Multiset ρ} {tasks : List τ} {bound : τ → Option Nat}
  {selects : τ → ρ → Bool} {keep base : ρ → Bool} {readings : List (Reading τ ρ)}

theorem mem_sum_of_mem {ms : List (Multiset ρ)} {m : Multiset ρ} (hm : m ∈ ms) {row : ρ}
    (hrow : row ∈ m) : row ∈ ms.sum := by
  induction ms with
  | nil => cases hm
  | cons m' ms ih =>
    rw [List.sum_cons, Multiset.mem_add]
    rcases List.mem_cons.mp hm with rfl | hm
    · exact Or.inl hrow
    · exact Or.inr (ih hm)

namespace Reads

/-- Tasks that are alike up to their parts. -/
theorem uniform (h : Reads table tasks bound selects limit keep readings result)
    {shared : Option Nat} (hbound : ∀ t ∈ tasks, bound t = shared)
    (hselects : ∀ t ∈ tasks, ∀ row ∈ table, selects t row = matching row) :
    List.Forall₂ (fun part r => Keeps shared (part.filter fun row => matching row) r)
      (readings.map Reading.part) (readings.map Reading.returned) := by
  rw [List.forall₂_map_left_iff, List.forall₂_map_right_iff, List.forall₂_same]
  intro r hr
  have htask : r.task ∈ tasks := h.tasks_eq ▸ List.mem_map_of_mem hr
  have hpart : ∀ row ∈ r.part, row ∈ table := fun row hrow =>
    h.parts_sum ▸ mem_sum_of_mem (List.mem_map_of_mem hr) hrow
  have hreturns := h.returns r hr
  rw [hbound _ htask, Multiset.filter_congr fun row hrow => by
    rw [hselects _ htask row (hpart row hrow)]] at hreturns
  exact hreturns

/-- When the tasks match what the reader keeps, they may share its limit. -/
theorem keeps_of_pushed (h : Reads table tasks bound selects limit keep readings result)
    (hbound : ∀ t ∈ tasks, bound t = limit)
    (hselects : ∀ t ∈ tasks, ∀ row ∈ table, selects t row = (base row && keep row)) :
    Keeps limit (table.filter fun row => base row && keep row) result := by
  have hreturns := h.uniform hbound hselects
  rw [← h.parts_sum]
  refine Scan.keeps_of_pushed (fun row _ hrow => ?_) hreturns h.result_keeps
  exact (Bool.and_eq_true_iff.mp hrow).2

/-- When they match more, they may not have a limit. -/
theorem keeps_of_residual (h : Reads table tasks bound selects limit keep readings result)
    (hbound : ∀ t ∈ tasks, bound t = none)
    (hselects : ∀ t ∈ tasks, ∀ row ∈ table, selects t row = base row) :
    Keeps limit (table.filter fun row => base row && keep row) result := by
  have hreturns := h.uniform hbound hselects
  rw [← h.parts_sum]
  exact Scan.keeps_of_residual hreturns h.result_keeps

/-- When they match nothing, any limit will do. -/
theorem keeps_of_nothing (h : Reads table tasks bound selects limit keep readings result)
    (hselects : ∀ t ∈ tasks, ∀ row ∈ table, selects t row = false)
    (hbase : ∀ row ∈ table, (base row && keep row) = false) :
    Keeps limit (table.filter fun row => base row && keep row) result := by
  have hreturned : ∀ r ∈ readings, r.returned = 0 := by
    intro r hr
    have htask : r.task ∈ tasks := h.tasks_eq ▸ List.mem_map_of_mem hr
    have hnone : (r.part.filter fun row => selects r.task row) = 0 := by
      refine Multiset.filter_eq_nil.mpr fun row hrow => ?_
      rw [hselects _ htask row
        (h.parts_sum ▸ mem_sum_of_mem (List.mem_map_of_mem hr) hrow)]
      exact Bool.false_ne_true
    have hle := (h.returns r hr).1
    rw [hnone] at hle
    exact Multiset.le_zero.mp hle
  have hsum : (readings.map Reading.returned).sum = 0 :=
    List.sum_eq_zero fun m hm => by
      obtain ⟨r, hr, rfl⟩ := List.mem_map.mp hm
      exact hreturned r hr
  have hfilter : (table.filter fun row => base row && keep row) = 0 := by
    refine Multiset.filter_eq_nil.mpr fun row hrow => ?_
    rw [hbase row hrow]
    exact Bool.false_ne_true
  have hresult := h.result_keeps
  rw [hsum, Multiset.filter_zero] at hresult
  rw [hfilter]
  exact hresult

/-- One task reads the whole table, and all of it is matched and kept. -/
theorem single {t : τ} {returned : Multiset ρ} (hselects : ∀ row ∈ table, selects t row = true)
    (hkeep : ∀ row ∈ table, keep row = true) (hle : returned ≤ table)
    (hcard : returned.card = capped (bound t) table.card)
    (hlimit : returned.card = capped limit returned.card) :
    Reads table [t] bound selects limit keep [⟨t, table, returned⟩] returned where
  tasks_eq := rfl
  parts_sum := by rw [List.map_singleton, List.sum_singleton]
  returns := by
    intro r hr
    rw [List.mem_singleton.mp hr, Multiset.filter_eq_self.mpr hselects]
    exact ⟨hle, hcard⟩
  result_keeps := by
    have hall : ∀ row ∈ returned, keep row = true := fun row hrow =>
      hkeep row (Multiset.mem_of_le hle hrow)
    rw [List.map_singleton, List.sum_singleton, Multiset.filter_eq_self.mpr hall]
    exact ⟨le_rfl, hlimit⟩

end Reads

end Scan
end DaftOlap
