/-
Three-valued logic.

The truth values of SQL with Kleene's connectives.  A filter keeps a row when its
condition is `true`, so the lemmas here say when a compound condition is.
-/
import Mathlib.Algebra.GroupWithZero.Nat
import Mathlib.Algebra.Order.BigOperators.Group.Multiset
import Mathlib.Algebra.Order.Group.Multiset
import Mathlib.Data.List.Basic

namespace DaftOlap
namespace Logic

/-- A truth value; `null` is the unknown one. -/
inductive Truth
  | true
  | false
  | null
deriving DecidableEq, Repr

namespace Truth

def not : Truth → Truth
  | true => false
  | false => true
  | null => null

def and : Truth → Truth → Truth
  | true, b => b
  | false, _ => false
  | null, false => false
  | null, _ => null

def or : Truth → Truth → Truth
  | false, b => b
  | true, _ => true
  | null, true => true
  | null, _ => null

def ofBool (b : Bool) : Truth := if b then true else false

/-- The conjunction of a list. -/
def all (l : List Truth) : Truth := l.foldr and true

/-- The disjunction of a list. -/
def any (l : List Truth) : Truth := l.foldr or false

@[simp] theorem and_eq_true {a b : Truth} : a.and b = true ↔ a = true ∧ b = true := by
  cases a <;> cases b <;> decide

@[simp] theorem or_eq_true {a b : Truth} : a.or b = true ↔ a = true ∨ b = true := by
  cases a <;> cases b <;> decide

@[simp] theorem ofBool_eq_true {b : Bool} : ofBool b = true ↔ b = Bool.true := by
  cases b <;> decide

/-- A conjunction holds when every conjunct does. -/
theorem all_eq_true {l : List Truth} : all l = true ↔ ∀ t ∈ l, t = true := by
  induction l with
  | nil => simp [all]
  | cons t l ih =>
    rw [all, List.foldr_cons, and_eq_true, ← all, ih, List.forall_mem_cons]

/-- A disjunction holds when some disjunct does. -/
theorem any_eq_true {l : List Truth} : any l = true ↔ ∃ t ∈ l, t = true := by
  induction l with
  | nil => simp [any]
  | cons t l ih =>
    rw [any, List.foldr_cons, or_eq_true, ← any, ih, List.exists_mem_cons_iff]

end Truth
end Logic
end DaftOlap
