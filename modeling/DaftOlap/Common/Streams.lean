/-
Exceptions of asynchronous batch streams.

A stream is an asynchronous generator: it may fail on its own, and its consumer may
throw into it at a yield or cancel it at an await.  Its handlers tell control flow,
connector errors and all other exceptions apart; of the others they look only at the
structured attributes of a driver's exception.
-/
import DaftOlap.Common.BatchSlices

namespace DaftOlap

open Python

/-- `asyncio.CancelledError`, `GeneratorExit`, `KeyboardInterrupt` and `SystemExit`. -/
inductive ControlFlow
  | cancelledError
  | generatorExit
  | keyboardInterrupt
  | systemExit
deriving DecidableEq

/-- What the connectors read of a driver's exception; an attribute it does not have
is `none`. -/
structure DriverError where
  args : List PyValue := []
  vendorCode : PyValue := .none
  statusCode : PyValue := .none
  sqlstate : PyValue := .none
  code : PyValue := .none
  errorCode : PyValue := .none
  name : PyValue := .none
deriving DecidableEq

/-- An exception in a stream. -/
inductive Raised
  | control (exception : ControlFlow)
  | daftOlap (kind : ErrorKind) (message : Message)
  /-- Any other `Exception`. -/
  | driver (error : DriverError)
deriving DecidableEq

namespace Raised

/-- It is caught by `except Exception`. -/
def IsException : Raised → Prop
  | control _ => False
  | _ => True

def IsDaftOlapError : Raised → Prop
  | daftOlap _ _ => True
  | _ => False

/-- Control flow and connector errors unchanged, any other exception converted. -/
def converted (convert : DriverError → Raised) : Raised → Raised
  | driver e => convert e
  | e => e

end Raised

/-- An integer that is no `bool`. -/
def integerAttribute : PyValue → Option Int
  | .int z => some z
  | _ => none

variable {β : Type}

/-- The loop that yields: what it yields, and the exception that the consumer throws in
at one of the yields.  `thrown n` is what the consumer does at the yield number `n`. -/
def deliver (thrown : Nat → Option Raised) (count : Nat) : List β → List β × Option Raised
  | [] => ([], none)
  | item :: items =>
    match thrown count with
    | some e => ([item], some e)
    | none =>
      let (yielded, failure) := deliver thrown (count + 1) items
      (item :: yielded, failure)

/-- What is yielded is a prefix, and all of it when nothing is thrown in. -/
theorem deliver_spec (thrown : Nat → Option Raised) (count : Nat) (items : List β) :
    (deliver thrown count items).1 <+: items ∧
      ((deliver thrown count items).2 = none → (deliver thrown count items).1 = items) := by
  induction items generalizing count with
  | nil => exact ⟨List.prefix_refl _, fun _ => rfl⟩
  | cons item items ih =>
    rw [deliver]
    split
    · next e he =>
      refine ⟨⟨items, rfl⟩, fun h => ?_⟩
      cases h
    · obtain ⟨hpre, hall⟩ := ih (count + 1)
      exact ⟨List.cons_prefix_cons.mpr ⟨rfl, hpre⟩, fun h => congrArg (item :: ·) (hall h)⟩

/-- Nothing was thrown in at the yields before the last one, and at the last one what ended
the loop. -/
theorem deliver_thrown (thrown : Nat → Option Raised) (count : Nat) (items : List β) :
    (∀ e, (deliver thrown count items).2 = some e →
      ∃ k, k + 1 = (deliver thrown count items).1.length ∧ thrown (count + k) = some e) ∧
    ((deliver thrown count items).2 = none →
      ∀ k < (deliver thrown count items).1.length, thrown (count + k) = none) := by
  induction items generalizing count with
  | nil => exact ⟨fun e h => absurd h (Option.some_ne_none e).symm,
      fun _ k hk => absurd hk (Nat.not_lt_zero k)⟩
  | cons item items ih =>
    rw [deliver]
    split
    · next e he =>
      exact ⟨fun e' h => ⟨0, rfl, he.trans h⟩, fun h => absurd h (Option.some_ne_none e)⟩
    · next he =>
      obtain ⟨hsome, hnone⟩ := ih (count + 1)
      constructor
      · intro e h
        obtain ⟨k, hk, hthrown⟩ := hsome e h
        refine ⟨k + 1, congrArg (· + 1) hk, ?_⟩
        rw [← hthrown]
        exact congrArg thrown (by omega)
      · intro h k hk
        by_cases hzero : k = 0
        · rw [hzero]
          exact he
        · have hlater : k - 1 < (deliver thrown (count + 1) items).1.length := by
            have : k < (deliver thrown (count + 1) items).1.length + 1 := hk
            omega
          rw [← hnone h (k - 1) hlater]
          exact congrArg thrown (by omega)

/-- A delivery that was interrupted stopped at a yield. -/
theorem interrupted_of_deliver {thrown : Nat → Option Raised} {count : Nat}
    {items yielded : List β} {e : Raised} (h : deliver thrown count items = (yielded, some e)) :
    yielded <+: items ∧ ∃ k, k + 1 = yielded.length ∧ thrown (count + k) = some e := by
  have hpre := (deliver_spec thrown count items).1
  have hthrown := (deliver_thrown thrown count items).1
  rw [h] at hpre hthrown
  exact ⟨hpre, hthrown e rfl⟩

/-- A delivery that was not interrupted yielded everything. -/
theorem delivered_of_deliver {thrown : Nat → Option Raised} {count : Nat} {items yielded : List β}
    (h : deliver thrown count items = (yielded, none)) :
    yielded = items ∧ ∀ k < yielded.length, thrown (count + k) = none := by
  have hall := (deliver_spec thrown count items).2
  have hthrown := (deliver_thrown thrown count items).2
  rw [h] at hall hthrown
  exact ⟨hall rfl, hthrown rfl⟩

theorem deliver_of_none {thrown : Nat → Option Raised} (h : ∀ n, thrown n = none) (count : Nat)
    (items : List β) : deliver thrown count items = (items, none) := by
  induction items generalizing count with
  | nil => rfl
  | cons item items ih => rw [deliver, h, ih]

/-- What leaves a stream with such handlers.  The resources are closed last: an exception of
the close that is no control flow is reported only if nothing failed before. -/
def leaves (convert : DriverError → Raised) (closeFailed : Raised) (failure closed : Option Raised) :
    Option Raised :=
  match closed, failure with
  | some (.control c), _ => some (.control c)
  | some _, none => some closeFailed
  | none, none => none
  | _, some e => some (e.converted convert)

section Leaves

variable {convert : DriverError → Raised} {closeFailed : Raised} {failure closed : Option Raised}

theorem leaves_ordinary (hclosed : ∀ e, closed = some e → e.IsException) :
    leaves convert closeFailed failure closed =
      (failure.map (Raised.converted convert)).or (closed.map fun _ => closeFailed) := by
  cases closed with
  | none => cases failure <;> rfl
  | some e =>
    cases e with
    | control c => exact absurd (hclosed _ rfl) id
    | daftOlap kind message => cases failure <;> rfl
    | driver error => cases failure <;> rfl

theorem leaves_failure {e : Raised} (hclosed : ∀ c, closed ≠ some (.control c)) :
    leaves convert closeFailed (some e) closed = some (e.converted convert) := by
  unfold leaves
  split
  · next c => exact absurd rfl (hclosed c)
  · next h => cases h
  · next h => cases h
  · next h => rw [Option.some.inj h]

theorem leaves_closed {e : Raised} (h : e.IsException) :
    leaves convert closeFailed none (some e) = some closeFailed := by
  cases e with
  | control c => exact absurd h id
  | daftOlap kind message => rfl
  | driver error => rfl

theorem leaves_eq_none_iff :
    leaves convert closeFailed failure closed = none ↔ failure = none ∧ closed = none := by
  unfold leaves
  split <;> simp

end Leaves

end DaftOlap
