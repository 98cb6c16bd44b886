/-
Closing PyMySQL cursors (`doris/transports/_pymysql.py`).

Closing an `SSCursor` that is attached to its connection may read the rest of the
result.  The lifecycle knows the cursor, the connection and the result only by what their
attributes answer; every operation on them is logged, and an answer may depend on all
operations before it.
-/
import DaftOlap.Common.Errors
import DaftOlap.Logic.Logged

namespace DaftOlap
namespace Doris

open Python Logic

/-! ## The objects -/

/-- What an attribute holds: `None`, a boolean, or another object with its identity. -/
inductive Held (O : Type)
  | none
  | bool (b : Bool)
  | object (o : O)
deriving DecidableEq

/-- The object an operation is on. -/
inductive Role
  | cursor
  | connection
  | result
deriving DecidableEq

inductive Attribute
  /-- `_result`. -/
  | result
  | connection
  | unbufferedActive
deriving DecidableEq

/-- An operation with its outcome.  `E` is the type of ordinary exceptions. -/
inductive Event (O E : Type)
  | read (role : Role) (name : Attribute) (outcome : Except E (Held O))
  | assign (role : Role) (name : Attribute) (value : Held O) (failure : Option E)
  | close (role : Role) (failure : Option E)

variable {O E : Type}

/-- How the objects behave. -/
structure Driver (O E : Type) where
  read : List (Event O E) → Role → Attribute → Except E (Held O)
  assign : List (Event O E) → Role → Attribute → Held O → Option E
  close : List (Event O E) → Role → Option E
  /-- `type(value).__name__`. -/
  typeName : Held O → Text

/-- What the lifecycle raises: its own `CompatibilityError`, or an exception of the driver. -/
inductive LifecycleError (E : Type)
  | compatibility (message : Message)
  | driver (error : E)

/-! ## The lifecycle -/

def compatibilityMessage (capability : String) (valueType : MessagePart) : Message :=
  [.text ("installed PyMySQL SSCursor has incompatible " ++ capability ++ " capability ("),
    valueType, .text ")"]

/-- `_compatibility_error` for a value that is there. -/
def incompatible (driver : Driver O E) (capability : String) (value : Held O) : LifecycleError E :=
  .compatibility (compatibilityMessage capability (.plain (driver.typeName value)))

/-- `_compatibility_error` without a value. -/
def missing (capability : String) : LifecycleError E :=
  .compatibility (compatibilityMessage capability (.text "missing"))

/-- `_read_attribute`.  The owner is `None` once the lifecycle is closed. -/
def readAttribute (driver : Driver O E) (owner : Held O) (role : Role) (name : Attribute)
    (capability : String) : Failing (Event O E) (LifecycleError E) (Held O) :=
  match owner with
  | .none => throw (missing capability)
  | _ => ExceptT.mk do
    let outcome ← record (fun log => driver.read log role name) (.read role name)
    return outcome.mapError fun _ => missing capability

/-- `_record_failure`: `failure or exc`, an exception being true. -/
def recordFailure (failure : Option (LifecycleError E))
    (operation : Logged (Event O E) (Option E)) :
    Logged (Event O E) (Option (LifecycleError E)) := do
  let raised ← operation
  return failure.or (raised.map .driver)

/-- `_record_close_failure`. -/
def recordCloseFailure (driver : Driver O E) (failure : Option (LifecycleError E)) (role : Role) :
    Logged (Event O E) (Option (LifecycleError E)) :=
  recordFailure failure (record (fun log => driver.close log role) (.close role))

def assign (driver : Driver O E) (role : Role) (name : Attribute) (value : Held O) :
    Logged (Event O E) (Option E) :=
  record (fun log => driver.assign log role name value) (.assign role name value)

structure SSCursorLifecycle (O : Type) where
  cursor : Held O
  connection : Held O
  result : Held O := .none
  validatedCursor : Bool := false
  validatedResult : Bool := false
  closed : Bool := false

section Lifecycle

variable [DecidableEq O]

/-- Validate the cursor/connection references before executing SQL. -/
def validateCursor (driver : Driver O E) (self : SSCursorLifecycle O) :
    Failing (Event O E) (LifecycleError E) (SSCursorLifecycle O) := do
  let cursorConnection ←
    readAttribute driver self.cursor .cursor .connection "cursor.connection"
  if cursorConnection ≠ self.connection then
    throw (incompatible driver "cursor.connection identity" cursorConnection)
  let _ ← readAttribute driver self.cursor .cursor .result "cursor._result"
  let _ ← readAttribute driver self.connection .connection .result "connection._result"
  return { self with validatedCursor := true }

/-- Capture the unbuffered result after execute and validate its private shape. -/
def validateResult (driver : Driver O E) (self : SSCursorLifecycle O) :
    Failing (Event O E) (LifecycleError E) (SSCursorLifecycle O) := do
  let result ← readAttribute driver self.cursor .cursor .result "cursor._result"
  let connectionResult ←
    readAttribute driver self.connection .connection .result "connection._result"
  if result = .none ∨ result ≠ connectionResult then
    throw (incompatible driver "cursor/connection result identity" result)
  let active ← readAttribute driver result .result .unbufferedActive "result.unbuffered_active"
  match active with
  | .bool active =>
    let resultConnection ← readAttribute driver result .result .connection "result.connection"
    if resultConnection ≠ self.connection ∧ ¬ (active = false ∧ resultConnection = .none) then
      throw (incompatible driver "result.connection identity" resultConnection)
    return { self with result := result, validatedResult := true }
  | active => throw (incompatible driver "boolean result.unbuffered_active" active)

end Lifecycle

def closeInactive (driver : Driver O E) (failure : Option (LifecycleError E)) :
    Logged (Event O E) (Option (LifecycleError E)) := do
  let failure ← recordCloseFailure driver failure .cursor
  recordCloseFailure driver failure .connection

/-- The assignments to the captured result. -/
def releaseResult (driver : Driver O E) (self : SSCursorLifecycle O)
    (failure : Option (LifecycleError E)) : Logged (Event O E) (Option (LifecycleError E)) :=
  if self.validatedResult then do
    let failure ← recordFailure failure (assign driver .result .unbufferedActive (.bool false))
    recordFailure failure (assign driver .result .connection .none)
  else return failure

/-- The cursor is detached from its connection, and closed only if that worked. -/
def detachCursor (driver : Driver O E) (self : SSCursorLifecycle O)
    (failure : Option (LifecycleError E)) : Logged (Event O E) (Option (LifecycleError E)) :=
  if self.validatedCursor then do
    match ← assign driver .cursor .connection .none with
    | some e => return failure.or (some (.driver e))
    | none => recordCloseFailure driver failure .cursor
  else return failure

def abortActiveOrUnvalidated (driver : Driver O E) (self : SSCursorLifecycle O)
    (failure : Option (LifecycleError E)) : Logged (Event O E) (Option (LifecycleError E)) := do
  let failure ← recordCloseFailure driver failure .connection
  let failure ← releaseResult driver self failure
  detachCursor driver self failure

/-- Whether the result is known to be inactive, and what reading its state failed with. -/
def cleanupState (driver : Driver O E) (self : SSCursorLifecycle O) :
    Logged (Event O E) (Bool × Option (LifecycleError E)) :=
  if self.validatedResult then do
    match ← (readAttribute driver self.result .result .unbufferedActive
        "result.unbuffered_active cleanup").run with
    | .error e => return (false, some e)
    | .ok (.bool active) => return (!active, none)
    | .ok active =>
      return (false, some (incompatible driver "boolean result.unbuffered_active cleanup" active))
  else return (false, none)

/-- Close once, preserving the first failure while completing local cleanup. -/
def closeLifecycle (driver : Driver O E) (self : SSCursorLifecycle O) :
    Logged (Event O E) (SSCursorLifecycle O × Option (LifecycleError E)) :=
  if self.closed then return (self, none)
  else do
    let (inactive, failure) ← cleanupState driver self
    let failure ←
      if inactive then closeInactive driver failure
      else abortActiveOrUnvalidated driver self failure
    return ({ self with closed := true, result := .none, cursor := .none, connection := .none },
      failure)

/-! ## Calls -/

section Calls

inductive Call
  | validateCursor
  | validateResult
  | close
deriving DecidableEq

variable [DecidableEq O]

/-- One call, with what it raises. -/
def call (driver : Driver O E) (self : SSCursorLifecycle O) (c : Call) :
    Logged (Event O E) (SSCursorLifecycle O × Option (LifecycleError E)) :=
  match c with
  | .validateCursor => return outcome self (← (validateCursor driver self).run)
  | .validateResult => return outcome self (← (validateResult driver self).run)
  | .close => closeLifecycle driver self
where
  outcome (self : SSCursorLifecycle O) :
      Except (LifecycleError E) (SSCursorLifecycle O) →
        SSCursorLifecycle O × Option (LifecycleError E)
    | .ok self' => (self', none)
    | .error e => (self, some e)

/-- A new lifecycle of a cursor and its connection. -/
def lifecycle (cursor connection : O) : SSCursorLifecycle O :=
  { cursor := .object cursor, connection := .object connection }

/-- The lifecycle and the log after the calls. -/
def calls (driver : Driver O E) (self : SSCursorLifecycle O) (log : List (Event O E)) :
    List Call → SSCursorLifecycle O × List (Event O E)
  | [] => (self, log)
  | c :: cs =>
    calls driver ((call driver self c).run log).1.1 ((call driver self c).run log).2 cs

end Calls

/-! ## Validation only reads -/

def Event.IsRead : Event O E → Prop
  | .read _ _ _ => True
  | _ => False

section Validation

variable {driver : Driver O E} {self : SSCursorLifecycle O}

theorem readAttribute_run {owner : Held O} (h : owner ≠ .none) (role : Role) (name : Attribute)
    (capability : String) (log : List (Event O E)) :
    (readAttribute driver owner role name capability).run.run log =
      ((driver.read log role name).mapError fun _ => missing capability,
        log ++ [.read role name (driver.read log role name)]) := by
  unfold readAttribute
  split
  · exact absurd rfl h
  · rfl

/-- What is read belongs to an object that is still held. -/
theorem adds_readAttribute (owner : Held O) (role : Role) (name : Attribute)
    (capability : String) :
    Adds Event.IsRead (fun _ => owner ≠ .none) (readAttribute driver owner role name capability) := by
  by_cases h : owner = .none
  · rw [h]
    exact Adds.throw _
  · intro log
    rw [readAttribute_run h]
    refine ⟨[.read role name (driver.read log role name)], rfl, ?_, fun value _ => h⟩
    intro e he
    rw [List.mem_singleton.mp he]
    exact trivial

variable [DecidableEq O]

theorem adds_validateCursor :
    Adds Event.IsRead
      (fun self' => self.cursor ≠ .none ∧ self' = { self with validatedCursor := true })
      (validateCursor driver self) := by
  unfold validateCursor
  apply Adds.bind (adds_readAttribute _ _ _ _)
  intro cursorConnection hcursor
  split
  · exact Adds.throw_bind _ _
  · apply Adds.bind (adds_readAttribute _ _ _ _)
    intro _ _
    apply Adds.bind (adds_readAttribute _ _ _ _)
    intro _ _
    exact Adds.pure ⟨hcursor, rfl⟩

theorem adds_validateResult :
    Adds Event.IsRead
      (fun self' => self.cursor ≠ .none ∧ ∃ result, result ≠ .none ∧
        self' = { self with result := result, validatedResult := true })
      (validateResult driver self) := by
  unfold validateResult
  apply Adds.bind (adds_readAttribute _ _ _ _)
  intro result hcursor
  apply Adds.bind (adds_readAttribute _ _ _ _)
  intro connectionResult _
  split
  · exact Adds.throw_bind _ _
  · next hidentity =>
    apply Adds.bind (adds_readAttribute _ _ _ _)
    intro active _
    split
    · apply Adds.bind (adds_readAttribute _ _ _ _)
      intro resultConnection _
      split
      · exact Adds.throw_bind _ _
      · exact Adds.pure ⟨hcursor, result, fun h => hidentity (Or.inl h), rfl⟩
    · exact Adds.throw _

end Validation

/-! ## What closing does -/

section Close

variable {driver : Driver O E} {self : SSCursorLifecycle O}

/-- The operation is known to leave the cursor detached or drained. -/
def Event.AllowsCursorClose (e : Event O E) : Prop :=
  e = .read .result .unbufferedActive (.ok (.bool false)) ∨ e = .assign .cursor .connection .none none

/-- Every close of the cursor comes right after an operation that allows it. -/
def Guarded (log : List (Event O E)) : Prop :=
  ∀ before failure after, log = before ++ .close .cursor failure :: after →
    ∃ earlier e, before = earlier ++ [e] ∧ e.AllowsCursorClose

def Event.closes (role : Role) : Event O E → Bool
  | .close role' _ => role = role'
  | _ => false

/-- How an operation of a cleanup fails. -/
def Event.cleanupFailure (driver : Driver O E) : Event O E → Option (LifecycleError E)
  | .read _ _ (.error _) => some (missing "result.unbuffered_active cleanup")
  | .read _ _ (.ok (.bool _)) => none
  | .read _ _ (.ok active) =>
    some (incompatible driver "boolean result.unbuffered_active cleanup" active)
  | .assign _ _ _ failure => failure.map .driver
  | .close _ failure => failure.map .driver

/-- The state of a validated result is read first, and does not show it inactive. -/
def Checked (self : SSCursorLifecycle O) (events : List (Event O E)) : Prop :=
  if self.validatedResult then
    ∃ outcome, outcome ≠ .ok (.bool false) ∧ events = [.read .result .unbufferedActive outcome]
  else events = []

def Released (self : SSCursorLifecycle O) (events : List (Event O E)) : Prop :=
  if self.validatedResult then
    ∃ f g, events = [.assign .result .unbufferedActive (.bool false) f,
      .assign .result .connection .none g]
  else events = []

def Detached (self : SSCursorLifecycle O) (events : List (Event O E)) : Prop :=
  if self.validatedCursor then
    (∃ e, events = [.assign .cursor .connection .none (some e)]) ∨
      ∃ f, events = [.assign .cursor .connection .none none, .close .cursor f]
  else events = []

/-- The operations of a cleanup: all that are permitted, whatever fails. -/
inductive Cleanup (self : SSCursorLifecycle O) : List (Event O E) → Prop
  | inactive (f g : Option E) (hvalidated : self.validatedResult = true) :
      Cleanup self [.read .result .unbufferedActive (.ok (.bool false)), .close .cursor f,
        .close .connection g]
  | aborted {checked released detached : List (Event O E)} (f : Option E)
      (hchecked : Checked self checked) (hreleased : Released self released)
      (hdetached : Detached self detached) :
      Cleanup self (checked ++ .close .connection f :: (released ++ detached))

/-- A step that keeps an earlier failure, and otherwise returns the first of its own. -/
def Records (driver : Driver O E) (does : List (Event O E) → Prop)
    (step : Option (LifecycleError E) → Logged (Event O E) (Option (LifecycleError E))) : Prop :=
  ∀ failure log, ∃ events, does events ∧
    (step failure).run log =
      (failure.or (events.findSome? (Event.cleanupFailure driver)), log ++ events)

theorem Records.bind {does does' : List (Event O E) → Prop}
    {step step' : Option (LifecycleError E) → Logged (Event O E) (Option (LifecycleError E))}
    (h : Records driver does step) (h' : Records driver does' step') :
    Records driver (fun events => ∃ first later, events = first ++ later ∧ does first ∧ does' later)
      (fun failure => step failure >>= step') := by
  intro failure log
  obtain ⟨first, hfirst, hrun⟩ := h failure log
  obtain ⟨later, hlater, hrun'⟩ :=
    h' (failure.or (first.findSome? (Event.cleanupFailure driver))) (log ++ first)
  refine ⟨first ++ later, ⟨first, later, rfl, hfirst, hlater⟩, ?_⟩
  rw [StateT.run_bind, hrun]
  show (step' _).run (log ++ first) = _
  rw [hrun', List.findSome?_append, Option.or_assoc, List.append_assoc]

theorem Records.skip : Records driver (fun events => events = [])
    (fun failure => return failure) := by
  intro failure log
  refine ⟨[], rfl, ?_⟩
  rw [List.findSome?_nil, Option.or_none, List.append_nil]
  rfl

theorem records_close (role : Role) :
    Records driver (fun events => ∃ f, events = [.close role f])
      (fun failure => recordCloseFailure driver failure role) := by
  intro failure log
  refine ⟨_, ⟨driver.close log role, rfl⟩, ?_⟩
  rw [List.findSome?_singleton]
  rfl

theorem records_assign (role : Role) (name : Attribute) (value : Held O) :
    Records driver (fun events => ∃ f, events = [.assign role name value f])
      (fun failure => recordFailure failure (assign driver role name value)) := by
  intro failure log
  refine ⟨_, ⟨driver.assign log role name value, rfl⟩, ?_⟩
  rw [List.findSome?_singleton]
  rfl

theorem Records.imp {does does' : List (Event O E) → Prop}
    {step : Option (LifecycleError E) → Logged (Event O E) (Option (LifecycleError E))}
    (h : Records driver does step) (himp : ∀ events, does events → does' events) :
    Records driver does' step := by
  intro failure log
  obtain ⟨events, hdoes, hrun⟩ := h failure log
  exact ⟨events, himp events hdoes, hrun⟩

theorem records_closeInactive :
    Records driver (fun events => ∃ f g, events = [.close .cursor f, .close .connection g])
      (closeInactive driver) := by
  apply Records.imp ((records_close .cursor).bind (records_close .connection))
  intro events h
  obtain ⟨first, later, rfl, ⟨f, rfl⟩, g, rfl⟩ := h
  exact ⟨f, g, rfl⟩

theorem records_releaseResult :
    Records driver (Released self) (releaseResult driver self) := by
  unfold releaseResult Released
  by_cases hvalidated : self.validatedResult = true
  · simp only [hvalidated, if_true]
    apply Records.imp ((records_assign .result .unbufferedActive (.bool false)).bind
      (records_assign .result .connection .none))
    intro events h
    obtain ⟨first, later, rfl, ⟨f, rfl⟩, g, rfl⟩ := h
    exact ⟨f, g, rfl⟩
  · simp only [hvalidated]
    exact Records.skip

theorem assign_run (role : Role) (name : Attribute) (value : Held O) (log : List (Event O E)) :
    (assign driver role name value).run log =
      (driver.assign log role name value,
        log ++ [.assign role name value (driver.assign log role name value)]) := rfl

theorem records_detachCursor :
    Records driver (Detached self) (detachCursor driver self) := by
  unfold detachCursor Detached
  by_cases hvalidated : self.validatedCursor = true
  · simp only [hvalidated, if_true]
    intro failure log
    cases hassign : driver.assign log .cursor .connection .none with
    | some e =>
      refine ⟨[.assign .cursor .connection .none (some e)], Or.inl ⟨e, rfl⟩, ?_⟩
      rw [StateT.run_bind, assign_run, hassign]
      rfl
    | none =>
      refine ⟨[.assign .cursor .connection .none none, .close .cursor
        (driver.close (log ++ [.assign .cursor .connection .none none]) .cursor)],
        Or.inr ⟨_, rfl⟩, ?_⟩
      rw [StateT.run_bind, assign_run, hassign]
      show (failure.or (Option.map _ _), log ++ [_] ++ [_]) = _
      rw [List.append_assoc, List.findSome?_cons, List.findSome?_singleton]
      rfl
  · simp only [hvalidated]
    exact Records.skip

theorem records_abort :
    Records driver (fun events => ∃ f released detached, Released self released ∧
      Detached self detached ∧ events = .close .connection f :: (released ++ detached))
      (abortActiveOrUnvalidated driver self) := by
  apply Records.imp
    ((records_close .connection).bind (records_releaseResult.bind records_detachCursor))
  intro events h
  obtain ⟨first, later, rfl, ⟨f, rfl⟩, released, detached, rfl, hreleased, hdetached⟩ := h
  exact ⟨f, released, detached, hreleased, hdetached, rfl⟩

/-- The state is read only of a captured result. -/
theorem cleanupState_run (driver : Driver O E) (hresult : self.validatedResult = true → self.result ≠ .none)
    (log : List (Event O E)) :
    (self.validatedResult = true ∧ (cleanupState driver self).run log =
      ((true, none), log ++ [.read .result .unbufferedActive (.ok (.bool false))])) ∨
    ∃ events, Checked self events ∧ (cleanupState driver self).run log =
      ((false, events.findSome? (Event.cleanupFailure driver)), log ++ events) := by
  unfold cleanupState Checked
  by_cases hvalidated : self.validatedResult = true
  · simp only [hvalidated, if_true, true_and]
    rw [StateT.run_bind, readAttribute_run (hresult hvalidated)]
    by_cases hfalse : driver.read log .result .unbufferedActive = .ok (.bool false)
    · rw [hfalse]
      exact Or.inl rfl
    · refine Or.inr ⟨_, ⟨_, hfalse, rfl⟩, ?_⟩
      rw [List.findSome?_singleton]
      revert hfalse
      rcases driver.read log .result .unbufferedActive with e | active
      · exact fun _ => rfl
      · cases active with
        | none => exact fun _ => rfl
        | object o => exact fun _ => rfl
        | bool b =>
          cases b with
          | false => exact fun h => absurd rfl h
          | true => exact fun _ => rfl
  · simp only [hvalidated]
    exact Or.inr ⟨[], rfl, by rw [List.append_nil]; rfl⟩

def closedLifecycle (self : SSCursorLifecycle O) : SSCursorLifecycle O :=
  { self with closed := true, result := .none, cursor := .none, connection := .none }

/-- The first close makes all permitted operations and raises the first failure. -/
theorem closeLifecycle_run (driver : Driver O E) (hopen : self.closed = false)
    (hresult : self.validatedResult = true → self.result ≠ .none) (log : List (Event O E)) :
    ∃ events, Cleanup self events ∧ (closeLifecycle driver self).run log =
      ((closedLifecycle self, events.findSome? (Event.cleanupFailure driver)), log ++ events) := by
  unfold closeLifecycle
  rw [hopen]
  rcases cleanupState_run driver hresult log with ⟨hvalidated, hstate⟩ |
      ⟨checked, hchecked, hstate⟩
  · have hclose : Records driver _ (closeInactive driver) := records_closeInactive
    obtain ⟨events, ⟨f, g, rfl⟩, hrun⟩ := hclose none
      (log ++ [.read .result .unbufferedActive (.ok (.bool false))])
    refine ⟨_, .inactive f g hvalidated, ?_⟩
    rw [if_neg Bool.false_ne_true, StateT.run_bind, hstate]
    show StateT.run (closeInactive driver none >>= _) (log ++ _) = _
    rw [StateT.run_bind, hrun, List.append_assoc]
    rfl
  · have habort : Records driver _ (abortActiveOrUnvalidated driver self) := records_abort
    obtain ⟨events, ⟨f, released, detached, hreleased, hdetached, rfl⟩, hrun⟩ :=
      habort (checked.findSome? (Event.cleanupFailure driver)) (log ++ checked)
    refine ⟨_, .aborted f hchecked hreleased hdetached, ?_⟩
    rw [if_neg Bool.false_ne_true, StateT.run_bind, hstate]
    show StateT.run (abortActiveOrUnvalidated driver self _ >>= _) (log ++ _) = _
    rw [StateT.run_bind, hrun, List.findSome?_append, List.append_assoc]
    rfl

theorem guarded_append {log events : List (Event O E)} (hlog : Guarded log)
    (hevents : Guarded events) : Guarded (log ++ events) := by
  intro before failure after h
  rcases List.append_eq_append_iff.mp h with ⟨middle, hbefore, hmiddle⟩ | ⟨middle, hlog', hmiddle⟩
  · obtain ⟨earlier, e, rfl, hallows⟩ := hevents _ _ _ hmiddle
    exact ⟨log ++ earlier, e, by rw [hbefore, List.append_assoc], hallows⟩
  · cases middle with
    | nil =>
      obtain ⟨earlier, e, hnil, -⟩ := hevents [] failure after hmiddle.symm
      exact absurd hnil.symm (List.append_ne_nil_of_right_ne_nil _ (List.cons_ne_nil e []))
    | cons e middle =>
      obtain ⟨rfl, -⟩ := List.cons.inj hmiddle
      exact hlog _ _ _ hlog'

/-- Events without a close of the cursor. -/
theorem guarded_of_not_closes {events : List (Event O E)}
    (h : ∀ e ∈ events, e.closes .cursor = false) : Guarded events := by
  intro before failure after heq
  have := h (.close .cursor failure) (by rw [heq]; simp)
  cases this

/-- A close of the cursor after an operation that allows it. -/
theorem guarded_pair {e : Event O E} (f : Option E) (he : e.closes .cursor = false)
    (hallows : e.AllowsCursorClose) : Guarded [e, .close .cursor f] := by
  intro before failure after h
  cases before with
  | nil =>
    rw [(List.cons.inj h).1] at he
    cases he
  | cons x before =>
    obtain ⟨rfl, hrest⟩ := List.cons.inj h
    cases before with
    | nil => exact ⟨[], e, rfl, hallows⟩
    | cons y before =>
      have := congrArg List.length hrest
      simp at this

theorem Checked.not_closes {events : List (Event O E)} (h : Checked self events) (role : Role) :
    ∀ e ∈ events, e.closes role = false := by
  unfold Checked at h
  split at h
  · obtain ⟨outcome, -, rfl⟩ := h
    intro e he
    rw [List.mem_singleton.mp he]
    rfl
  · rw [h]
    exact fun e he => absurd he List.not_mem_nil

theorem Released.not_closes {events : List (Event O E)} (h : Released self events) (role : Role) :
    ∀ e ∈ events, e.closes role = false := by
  unfold Released at h
  split at h
  · obtain ⟨f, g, rfl⟩ := h
    simp [Event.closes]
  · rw [h]
    exact fun e he => absurd he List.not_mem_nil

theorem Detached.guarded {events : List (Event O E)} (h : Detached self events) :
    Guarded events ∧ events.countP (Event.closes .connection) = 0 ∧
      events.countP (Event.closes .cursor) ≤ 1 := by
  unfold Detached at h
  split at h
  · rcases h with ⟨e, rfl⟩ | ⟨f, rfl⟩
    · exact ⟨guarded_of_not_closes (by simp [Event.closes]), by simp [Event.closes]⟩
    · exact ⟨guarded_pair f rfl (Or.inr rfl), by simp [Event.closes]⟩
  · rw [h]
    exact ⟨guarded_of_not_closes (by simp), by simp⟩

theorem countP_of_not_closes {events : List (Event O E)} {role : Role}
    (h : ∀ e ∈ events, e.closes role = false) : events.countP (Event.closes role) = 0 := by
  rw [List.countP_eq_zero]
  intro e he
  rw [h e he]
  exact Bool.false_ne_true

/-- The connection is closed once, the cursor at most once and only where that is allowed. -/
theorem Cleanup.spec {events : List (Event O E)} (h : Cleanup self events) :
    Guarded events ∧ events.countP (Event.closes .connection) = 1 ∧
      events.countP (Event.closes .cursor) ≤ 1 := by
  cases h with
  | inactive f g hvalidated =>
    have hpair : Guarded [.read .result .unbufferedActive (.ok (.bool false)),
        Event.close (O := O) .cursor f] := guarded_pair f rfl (Or.inl rfl)
    have hlast : Guarded [Event.close (O := O) .connection g] :=
      guarded_of_not_closes (by simp [Event.closes])
    exact ⟨guarded_append hpair hlast, by simp [Event.closes]⟩
  | @aborted checked released detached f hchecked hreleased hdetached =>
    obtain ⟨hguarded, hconnection, hcursor⟩ := hdetached.guarded
    have hclose : Guarded [Event.close (O := O) .connection f] :=
      guarded_of_not_closes (by simp [Event.closes])
    refine ⟨?_, ?_, ?_⟩
    · exact guarded_append (guarded_of_not_closes (hchecked.not_closes .cursor))
        (guarded_append hclose
          (guarded_append (guarded_of_not_closes (hreleased.not_closes .cursor)) hguarded))
    · rw [List.countP_append, List.countP_cons, List.countP_append,
        countP_of_not_closes (hchecked.not_closes .connection),
        countP_of_not_closes (hreleased.not_closes .connection), hconnection]
      simp [Event.closes]
    · rw [List.countP_append, List.countP_cons, List.countP_append,
        countP_of_not_closes (hchecked.not_closes .cursor),
        countP_of_not_closes (hreleased.not_closes .cursor)]
      simpa [Event.closes] using hcursor

end Close

/-! ## Runs -/

section Run

variable {driver : Driver O E} {self : SSCursorLifecycle O}

def HoldsNothing (self : SSCursorLifecycle O) : Prop :=
  self.cursor = .none ∧ self.connection = .none ∧ self.result = .none

/-- What a validation keeps. -/
def Keeps (self self' : SSCursorLifecycle O) : Prop :=
  self'.connection = self.connection ∧ self'.closed = self.closed ∧
    ((self.validatedResult = true → self.result ≠ .none) →
      self'.validatedResult = true → self'.result ≠ .none)

theorem Keeps.trans {first second third : SSCursorLifecycle O} (h : Keeps first second)
    (h' : Keeps second third) : Keeps first third :=
  ⟨h'.1.trans h.1, h'.2.1.trans h.2.1, fun hcaptured => h'.2.2 (h.2.2 hcaptured)⟩

theorem keeps_outcome {result : Except (LifecycleError E) (SSCursorLifecycle O)}
    (h : ∀ self', result = .ok self' → Keeps self self') :
    Keeps self (call.outcome self result).1 := by
  cases result with
  | error e => exact ⟨rfl, rfl, fun h => h⟩
  | ok self' => exact h self' rfl

/-- What every call keeps. -/
structure LifecycleInvariant (s : SSCursorLifecycle O) (log : List (Event O E)) : Prop where
  guarded : Guarded log
  captured : s.closed = false → s.validatedResult = true → s.result ≠ .none
  released : s.closed = true → HoldsNothing s

theorem invariant_lifecycle (cursor connection : O) :
    LifecycleInvariant (lifecycle cursor connection) ([] : List (Event O E)) := by
  refine ⟨guarded_of_not_closes (fun e he => absurd he List.not_mem_nil), ?_, ?_⟩
  · intro _ h
    cases h
  · intro h
    cases h

theorem guarded_of_isRead {events : List (Event O E)} (h : ∀ e ∈ events, e.IsRead) :
    Guarded events := by
  apply guarded_of_not_closes
  intro e he
  have hread := h e he
  cases e with
  | read role name outcome => rfl
  | assign role name value failure => exact hread.elim
  | close role failure => exact hread.elim

/-- A validation leaves the lifecycle closed or open as it was. -/
theorem invariant_validation {x : Failing (Event O E) (LifecycleError E) (SSCursorLifecycle O)}
    (hx : Adds Event.IsRead (fun self' => self.cursor ≠ .none ∧ Keeps self self') x)
    {log : List (Event O E)} (h : LifecycleInvariant self log) :
    LifecycleInvariant (call.outcome self (x.run.run log).1).1 (x.run.run log).2 := by
  obtain ⟨events, hlog, hevents, hreturns⟩ := hx log
  have hguarded : Guarded (x.run.run log).2 := by
    rw [hlog]
    exact guarded_append h.guarded (guarded_of_isRead hevents)
  cases hrun : (x.run.run log).1 with
  | error e => exact ⟨hguarded, h.captured, h.released⟩
  | ok self' =>
    obtain ⟨hcursor, -, hclosed, hcaptured⟩ := hreturns self' hrun
    refine ⟨hguarded, ?_, ?_⟩
    · intro hopen
      exact hcaptured (h.captured (hclosed.symm.trans hopen))
    · intro hdone
      exact absurd (h.released (hclosed.symm.trans hdone)).1 hcursor

variable [DecidableEq O]

theorem adds_validateCursor_keeps (driver : Driver O E) :
    Adds Event.IsRead (fun self' => self.cursor ≠ .none ∧ Keeps self self')
      (validateCursor driver self) := by
  apply adds_validateCursor.imp
  intro self' hself
  obtain ⟨hcursor, rfl⟩ := hself
  exact ⟨hcursor, rfl, rfl, fun h => h⟩

theorem adds_validateResult_keeps (driver : Driver O E) :
    Adds Event.IsRead (fun self' => self.cursor ≠ .none ∧ Keeps self self')
      (validateResult driver self) := by
  apply adds_validateResult.imp
  intro self' hself
  obtain ⟨hcursor, result, hresult, rfl⟩ := hself
  exact ⟨hcursor, rfl, rfl, fun _ _ => hresult⟩

/-- A validation changes neither the connection nor whether the lifecycle is closed. -/
theorem call_keeps (driver : Driver O E) {c : Call} (hc : c ≠ .close) (log : List (Event O E)) :
    Keeps self ((call driver self c).run log).1.1 := by
  cases c with
  | close => exact absurd rfl hc
  | validateCursor =>
    exact keeps_outcome fun self' hrun => ((adds_validateCursor_keeps driver).returned hrun).2
  | validateResult =>
    exact keeps_outcome fun self' hrun => ((adds_validateResult_keeps driver).returned hrun).2

theorem call_validation (driver : Driver O E) {c : Call} (hc : c ≠ .close)
    {log : List (Event O E)} (h : LifecycleInvariant self log) :
    LifecycleInvariant ((call driver self c).run log).1.1 ((call driver self c).run log).2 := by
  cases c with
  | close => exact absurd rfl hc
  | validateCursor => exact invariant_validation (adds_validateCursor_keeps driver) h
  | validateResult => exact invariant_validation (adds_validateResult_keeps driver) h

theorem call_close_closed (driver : Driver O E) (hclosed : self.closed = true)
    (log : List (Event O E)) : (call driver self .close).run log = ((self, none), log) := by
  show (closeLifecycle driver self).run log = _
  unfold closeLifecycle
  rw [if_pos hclosed]
  rfl

theorem call_close (driver : Driver O E) {log : List (Event O E)} (h : LifecycleInvariant self log) :
    ((call driver self .close).run log).1.1.closed = true ∧
      LifecycleInvariant ((call driver self .close).run log).1.1 ((call driver self .close).run log).2 := by
  by_cases hclosed : self.closed = true
  · rw [call_close_closed driver hclosed]
    exact ⟨hclosed, h⟩
  · have hopen : self.closed = false := Bool.eq_false_iff.mpr hclosed
    have hrun := closeLifecycle_run driver hopen (h.captured hopen) log
    obtain ⟨events, hcleanup, hrun⟩ := hrun
    rw [show (call driver self .close).run log = _ from hrun]
    refine ⟨rfl, guarded_append h.guarded hcleanup.spec.1, ?_, fun _ => ⟨rfl, rfl, rfl⟩⟩
    intro hopen'
    cases hopen'

/-- The induction is on the calls: a lifecycle is closed once one of them was `close`. -/
theorem calls_invariant (driver : Driver O E) {log : List (Event O E)} (h : LifecycleInvariant self log)
    (cs : List Call) :
    ((calls driver self log cs).1.closed = true ↔ self.closed = true ∨ .close ∈ cs) ∧
      LifecycleInvariant (calls driver self log cs).1 (calls driver self log cs).2 := by
  induction cs generalizing self log with
  | nil => exact ⟨by simp [calls], h⟩
  | cons c cs ih =>
    rw [calls]
    by_cases hc : c = .close
    · subst hc
      obtain ⟨hclosed, hinv⟩ := call_close driver h
      obtain ⟨hiff, hfinal⟩ := ih hinv
      refine ⟨?_, hfinal⟩
      rw [hiff]
      simp [hclosed]
    · obtain ⟨hiff, hfinal⟩ := ih (call_validation driver hc h)
      refine ⟨?_, hfinal⟩
      rw [hiff, (call_keeps driver hc log).2.1, List.mem_cons]
      simp [Ne.symm hc]

/-- Whatever is called in whatever order, and however the objects behave: the cursor is closed
only where that cannot read the rest of the result, the first close makes all permitted
operations and raises the first failure, later ones do nothing, and the lifecycle holds
nothing after it. -/
theorem calls_close (driver : Driver O E) (cursor connection : O) (cs : List Call) :
    Guarded (calls driver (lifecycle cursor connection) [] cs).2 ∧
    (∀ earlier later self log, cs = earlier ++ .close :: later →
      calls driver (lifecycle cursor connection) [] earlier = (self, log) →
      (.close ∉ earlier → ∃ events, Cleanup self events ∧
        events.countP (Event.closes .connection) = 1 ∧
        events.countP (Event.closes .cursor) ≤ 1 ∧
        (call driver self .close).run log = ((closedLifecycle self,
          events.findSome? (Event.cleanupFailure driver)), log ++ events)) ∧
      (.close ∈ earlier → (call driver self .close).run log = ((self, none), log))) ∧
    (.close ∈ cs → HoldsNothing (calls driver (lifecycle cursor connection) [] cs).1) := by
  have hstart : LifecycleInvariant (lifecycle cursor connection) ([] : List (Event O E)) :=
    invariant_lifecycle cursor connection
  obtain ⟨hclosed, hinv⟩ := calls_invariant driver hstart cs
  refine ⟨hinv.guarded, ?_, fun h => hinv.released (hclosed.mpr (Or.inr h))⟩
  intro earlier later self log _ hearlier
  obtain ⟨hclosed', hinv'⟩ := calls_invariant driver hstart earlier
  rw [hearlier] at hclosed' hinv'
  constructor
  · intro hfirst
    have hopen : self.closed = false := by
      rw [Bool.eq_false_iff]
      intro h
      rcases hclosed'.mp h with h | h
      · cases h
      · exact hfirst h
    obtain ⟨events, hcleanup, hrun⟩ :=
      closeLifecycle_run driver hopen (hinv'.captured hopen) log
    exact ⟨events, hcleanup, hcleanup.spec.2.1, hcleanup.spec.2.2, hrun⟩
  · intro hlater
    exact call_close_closed driver (hclosed'.mpr (Or.inr hlater)) log

end Run

end Doris
end DaftOlap
