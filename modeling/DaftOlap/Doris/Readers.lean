/-
The readers of the Doris protocols (`doris/transports/mysql.py`, `flight.py`).

Only what concerns their resources is here: which fields an operation sets before it
fails, and what the close of a reader attempts.
-/
import DaftOlap.Doris.Lifecycle
import DaftOlap.Doris.TaskThread

namespace DaftOlap
namespace Doris

variable {O E : Type}

/-! ## MySQL -/

/-- The fields `_connection`, `_cursor` and `_cursor_lifecycle`. -/
structure MySqlFields (O : Type) where
  connection : Option O := none
  cursor : Option O := none
  lifecycle : Option (SSCursorLifecycle O) := none

/-- How the calls of `MySqlBatchReader._open` come out. -/
structure MySqlOpening (O E : Type) where
  /-- The import of the driver and the arguments of the connection. -/
  prepared : Option E
  factory : Except E O
  cursor : Except E O
  /-- How the objects answer the lifecycle, and what happened to them before. -/
  driver : Driver O E
  log : List (Event O E)
  executed : Option E
  /-- The description of the result, which must not be `None`. -/
  described : Option E

/-- What the close of a lifecycle does to its connection. -/
def closeEffects (self : SSCursorLifecycle O) (events : List (Event O E)) : List (Effect O) :=
  match self.connection with
  | .object connection =>
    (events.filter (Event.closes .connection)).map fun _ => .closeAttempted connection
  | _ => []

/-- `MySqlBatchReader._close`. -/
def closeMySql (driver : Driver O E) (log : List (Event O E)) (fields : MySqlFields O) :
    List (Effect O) × MySqlFields O :=
  match fields.lifecycle, fields.connection with
  | some self, _ => (closeEffects self (((closeLifecycle driver self).run log).2.drop log.length), {})
  | none, some connection => ([.closeAttempted connection], {})
  | none, none => ([], {})

/-- The lifecycle is of the connection, and not closed. -/
def MySqlFields.Valid (fields : MySqlFields O) : Prop :=
  ∀ self, fields.lifecycle = some self → self.closed = false ∧
    (self.validatedResult = true → self.result ≠ .none) ∧
    ∃ connection, fields.connection = some connection ∧ self.connection = .object connection

theorem valid_lifecycle {cursor connection : O} {self : SSCursorLifecycle O}
    (h : Keeps (lifecycle cursor connection) self) : MySqlFields.Valid
      { connection := some connection, cursor := some cursor, lifecycle := some self } := by
  intro self' hself
  obtain rfl := Option.some.inj hself
  obtain ⟨hconnection, hclosed, hcaptured⟩ := h
  refine ⟨hclosed, hcaptured ?_, connection, rfl, hconnection⟩
  intro h
  cases h

/-- The lifecycle attempts to close the connection, whatever fails before. -/
theorem closeEffects_closeLifecycle {self : SSCursorLifecycle O} {connection : O}
    (hconnection : self.connection = .object connection) (hopen : self.closed = false)
    (hresult : self.validatedResult = true → self.result ≠ .none) (driver : Driver O E)
    (log : List (Event O E)) :
    closeEffects self (((closeLifecycle driver self).run log).2.drop log.length) =
      [.closeAttempted connection] := by
  obtain ⟨events, hcleanup, hrun⟩ := closeLifecycle_run driver hopen hresult log
  have hone : (events.filter (Event.closes .connection)).length = 1 := by
    rw [← List.countP_eq_length_filter]
    exact hcleanup.spec.2.1
  obtain ⟨e, he⟩ := List.length_eq_one_iff.mp hone
  unfold closeEffects
  rw [hrun, hconnection]
  show ((log ++ events).drop log.length |>.filter _).map _ = _
  rw [List.drop_left, he]
  rfl

theorem closeMySql_closes {fields : MySqlFields O} (hvalid : fields.Valid) (driver : Driver O E)
    (log : List (Event O E)) : (closeMySql driver log fields).2.Valid ∧
      (closeMySql driver log fields).1 = (fields.connection.map .closeAttempted).toList := by
  have hnone : MySqlFields.Valid ({} : MySqlFields O) := fun self h => by cases h
  unfold closeMySql
  split
  · next self hlifecycle =>
    obtain ⟨hopen, hresult, connection, hconnection, hself⟩ := hvalid self hlifecycle
    refine ⟨hnone, ?_⟩
    rw [closeEffects_closeLifecycle hself hopen hresult, hconnection]
    rfl
  · next hlifecycle hconnection => exact ⟨hnone, by rw [hconnection]; rfl⟩
  · next hlifecycle hconnection => exact ⟨hnone, by rw [hconnection]; rfl⟩

theorem mem_connection_closeAttempted {held : Option O} {e : Effect O}
    (h : e ∈ (held.map Effect.closeAttempted).toList) :
    ∃ connection, held = some connection ∧ e = .closeAttempted connection := by
  cases held with
  | none => cases h
  | some connection => exact ⟨connection, rfl, List.mem_singleton.mp h⟩

section MySql

variable [DecidableEq O]

/-- `MySqlBatchReader._open`: whether it returns, its effects and the fields it leaves. -/
def openMySql (opening : MySqlOpening O E) (fields : MySqlFields O) :
    Bool × List (Effect O) × MySqlFields O :=
  match opening.prepared, opening.factory with
  | some _, _ => (false, [], fields)
  | none, .error _ => (false, [], fields)
  | none, .ok connection =>
    match opening.cursor with
    | .error _ => (false, [.connected connection], { fields with connection := connection })
    | .ok cursor =>
      let opened (self : SSCursorLifecycle O) : MySqlFields O :=
        { connection := connection, cursor := cursor, lifecycle := self }
      let validated :=
        (call opening.driver (lifecycle cursor connection) .validateCursor).run opening.log
      if validated.1.2.isSome ∨ opening.executed.isSome then
        (false, [.connected connection], opened validated.1.1)
      else
        let captured := (call opening.driver validated.1.1 .validateResult).run validated.2
        (captured.1.2.isNone && opening.described.isNone, [.connected connection],
          opened captured.1.1)

/-- `_fetch` reads from the cursor and sets none of these fields. -/
def mySqlBatchReader (O E : Type) [DecidableEq O] : BatchReader O (MySqlFields O) where
  initial := {}
  executes
    | .opening, before, ok, effects, after =>
      ∃ opening : MySqlOpening O E, openMySql opening before = (ok, effects, after)
    | .fetching, before, _, effects, after => effects = [] ∧ after = before
    | .closing, before, _, effects, after =>
      ∃ (driver : Driver O E) (log : List (Event O E)),
        closeMySql driver log before = (effects, after)

/-- However `_open` fails, a connection it got is in the field. -/
theorem openMySql_owns (opening : MySqlOpening O E) (fields : MySqlFields O)
    (hnone : fields.connection = none) (hvalid : fields.Valid) :
    (openMySql opening fields).2.2.Valid ∧
      (((openMySql opening fields).2.1 = [] ∧ (openMySql opening fields).2.2.connection = none) ∨
        ∃ connection, (openMySql opening fields).2.1 = [.connected connection] ∧
          (openMySql opening fields).2.2.connection = some connection) := by
  have hnoLifecycle : ∀ self, fields.lifecycle ≠ some self := by
    intro self hself
    obtain ⟨-, -, connection, hconnection, -⟩ := hvalid self hself
    rw [hnone] at hconnection
    cases hconnection
  unfold openMySql
  split
  · exact ⟨hvalid, Or.inl ⟨rfl, hnone⟩⟩
  · exact ⟨hvalid, Or.inl ⟨rfl, hnone⟩⟩
  · next connection hprepared hfactory =>
    split
    · next e hcursor =>
      exact ⟨fun self hself => absurd hself (hnoLifecycle self), Or.inr ⟨connection, rfl, rfl⟩⟩
    · next cursor hcursor =>
      have hvalidated : Keeps (lifecycle cursor connection) ((call opening.driver
          (lifecycle cursor connection) .validateCursor).run opening.log).1.1 :=
        call_keeps opening.driver (by decide) opening.log
      simp only
      split
      · exact ⟨valid_lifecycle hvalidated, Or.inr ⟨connection, rfl, rfl⟩⟩
      · have hcaptured := hvalidated.trans (call_keeps opening.driver
          (show Call.validateResult ≠ .close by decide) ((call opening.driver
            (lifecycle cursor connection) .validateCursor).run opening.log).2)
        exact ⟨valid_lifecycle hcaptured, Or.inr ⟨connection, rfl, rfl⟩⟩

def owningMySql : Owning (mySqlBatchReader O E) where
  owned := MySqlFields.connection
  valid := MySqlFields.Valid
  initial := ⟨rfl, fun self h => by cases h⟩
  opening := by
    intro before ok effects after hexecutes hnone hvalid
    obtain ⟨opening, hopening⟩ := hexecutes
    have howns := openMySql_owns opening before hnone hvalid
    rw [hopening] at howns
    exact howns
  fetching := by
    intro before ok effects after hexecutes hvalid
    obtain ⟨heffects, rfl⟩ := hexecutes
    exact ⟨hvalid, heffects, rfl⟩
  closing := by
    intro before ok effects after hexecutes hvalid
    obtain ⟨driver, log, hclose⟩ := hexecutes
    have hcloses := closeMySql_closes hvalid driver log
    rw [hclose] at hcloses
    obtain ⟨hafter, rfl⟩ := hcloses
    refine ⟨hafter, ?_, ?_⟩
    · intro connection hmem
      obtain ⟨c, -, he⟩ := mem_connection_closeAttempted hmem
      cases he
    · intro connection hconnection
      rw [hconnection]
      exact List.mem_singleton_self _

end MySql

/-! ## Flight -/

/-- The fields `_connection`, `_cursor` and `_reader`. -/
structure FlightFields (O : Type) where
  connection : Option O := none
  cursor : Option O := none
  reader : Option O := none

/-- How the calls of `FlightBatchReader._open` come out. -/
structure FlightOpening (O E : Type) where
  /-- The check of the parameters, the import of the driver and its options. -/
  prepared : Option E
  factory : Except E O
  cursor : Except E O
  /-- The settings of the cursor and its `execute`. -/
  executed : Option E
  reader : Except E O

/-- `FlightBatchReader._open`. -/
def openFlight (opening : FlightOpening O E) (fields : FlightFields O) :
    Bool × List (Effect O) × FlightFields O :=
  match opening.prepared, opening.factory with
  | some _, _ => (false, [], fields)
  | none, .error _ => (false, [], fields)
  | none, .ok connection =>
    let fields := { fields with connection := connection }
    match opening.cursor with
    | .error _ => (false, [.connected connection], fields)
    | .ok cursor =>
      let fields := { fields with cursor := cursor }
      match opening.executed, opening.reader with
      | none, .ok reader => (true, [.connected connection], { fields with reader := reader })
      | _, _ => (false, [.connected connection], fields)

/-- The exceptions of the three closes. -/
structure FlightClosing (E : Type) where
  reader : Option E
  cursor : Option E
  connection : Option E

/-- `FlightBatchReader._close`, a chain of `finally`: each close is attempted, and the last
exception leaves. -/
def closeFlight (closing : FlightClosing E) (fields : FlightFields O) :
    Option E × List (Effect O) :=
  let failure := fields.reader.bind fun _ => closing.reader
  let failure := (fields.cursor.bind fun _ => closing.cursor).or failure
  let failure := (fields.connection.bind fun _ => closing.connection).or failure
  (failure, (fields.connection.map .closeAttempted).toList)

def flightBatchReader (O E : Type) : BatchReader O (FlightFields O) where
  initial := {}
  executes
    | .opening, before, ok, effects, after =>
      ∃ opening : FlightOpening O E, openFlight opening before = (ok, effects, after)
    | .fetching, before, _, effects, after => effects = [] ∧ after = before
    | .closing, before, ok, effects, after =>
      after = before ∧ ∃ closing : FlightClosing E,
        ok = (closeFlight closing before).1.isNone ∧ effects = (closeFlight closing before).2

theorem openFlight_owns (opening : FlightOpening O E) (fields : FlightFields O)
    (hnone : fields.connection = none) :
    ((openFlight opening fields).2.1 = [] ∧ (openFlight opening fields).2.2.connection = none) ∨
      ∃ connection, (openFlight opening fields).2.1 = [.connected connection] ∧
        (openFlight opening fields).2.2.connection = some connection := by
  unfold openFlight
  split
  · exact Or.inl ⟨rfl, hnone⟩
  · exact Or.inl ⟨rfl, hnone⟩
  · next connection hprepared hfactory =>
    refine Or.inr ⟨connection, ?_⟩
    simp only
    split
    · exact ⟨rfl, rfl⟩
    · split
      · exact ⟨rfl, rfl⟩
      · exact ⟨rfl, rfl⟩

def owningFlight : Owning (flightBatchReader O E) where
  owned := FlightFields.connection
  valid _ := True
  initial := ⟨rfl, trivial⟩
  opening := by
    intro before ok effects after hexecutes hnone _
    obtain ⟨opening, hopening⟩ := hexecutes
    have howns := openFlight_owns opening before hnone
    rw [hopening] at howns
    exact ⟨trivial, howns⟩
  fetching := by
    intro before ok effects after hexecutes _
    obtain ⟨heffects, rfl⟩ := hexecutes
    exact ⟨trivial, heffects, rfl⟩
  closing := by
    intro before ok effects after hexecutes _
    obtain ⟨rfl, closing, -, rfl⟩ := hexecutes
    refine ⟨trivial, ?_, ?_⟩
    · intro connection hmem
      obtain ⟨c, -, he⟩ := mem_connection_closeAttempted hmem
      cases he
    · intro connection hconnection
      show _ ∈ (after.connection.map Effect.closeAttempted).toList
      rw [show after.connection = some connection from hconnection]
      exact List.mem_singleton_self _

/-! ## Every run -/

/-- However the coroutine is cancelled and the operations fail: one operation runs at a time,
the close is submitted once and nothing begins after it has begun, and when it is done, the
close of every connection has been attempted. -/
theorem readers_safe (O E : Type) [DecidableEq O] :
    (∀ task, Reachable (mySqlBatchReader O E) task → Safe task) ∧
      ∀ task, Reachable (flightBatchReader O E) task → Safe task := by
  constructor
  · intro task h
    exact (invariant_of_reachable owningMySql h).safe
  · intro task h
    exact (invariant_of_reachable owningFlight h).safe

end Doris
end DaftOlap
