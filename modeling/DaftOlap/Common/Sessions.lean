/-
What the database sessions of both connectors share.

A session raises what its own checks raise and whatever the driver raises; its handlers keep
some connector errors, translate what they know of the driver's exceptions, and replace
everything else that is no control flow.
-/
import DaftOlap.Common.Options
import DaftOlap.Common.Streams
import DaftOlap.Logic.Session

namespace DaftOlap

open Logic Python

/-! ## Timeouts -/

def maxTimeoutSeconds : Nat := 86400

/-- `n` seconds are at least `value` seconds; a float is its shortest decimal. -/
def atMostSeconds (value : PyValue) (n : Nat) : Bool :=
  match value with
  | .int z => z ≤ n
  | .float (.finite negative digits point _) =>
    let exponent := point - (natText digits).length
    negative || digits * 10 ^ exponent.toNat ≤ n * 10 ^ (-exponent).toNat
  | _ => false

/-- `0 < value`. -/
def isPositive : PyValue → Bool
  | .int z => 0 < z
  | .float (.finite negative digits _ _) => !negative && 0 < digits
  | _ => false

/-- Seconds between 0 and 86,400. -/
def TimeoutSeconds : Type :=
  { value : PyValue // isPositive value = true ∧ atMostSeconds value maxTimeoutSeconds = true }

/-- Return a validated timeout without exposing caller values in errors.  The limits keep the
value they were given; what is returned, the same number as a `float`, only bounds the exchange
with the planner. -/
def validateTimeoutSeconds (name : String) (value : PyValue) : Except PyException TimeoutSeconds :=
  if h : isPositive value = true ∧ atMostSeconds value maxTimeoutSeconds = true then .ok ⟨value, h⟩
  else .error (configurationError [.text name, .text " must be between 0 and 86,400 seconds"])

/-- The two timeouts of `ResourceLimits`. -/
structure Timeouts where
  connect : TimeoutSeconds
  query : TimeoutSeconds

/-- The defaults. -/
def exampleTimeouts : Timeouts := ⟨⟨.int 10, by decide⟩, ⟨.int 300, by decide⟩⟩

/-- The last two checks of `ResourceLimits(...)`. -/
def timeouts (connectTimeoutSeconds queryTimeoutSeconds : PyValue) :
    Except PyException Timeouts := do
  let connect ← validateTimeoutSeconds "connect_timeout_seconds" connectTimeoutSeconds
  let query ← validateTimeoutSeconds "query_timeout_seconds" queryTimeoutSeconds
  return ⟨connect, query⟩

/-- `math.ceil`, of what is not negative. -/
def ceilSeconds : PyValue → Nat
  | .int z => z.toNat
  | .float (.finite _ digits point _) =>
    let exponent := point - (natText digits).length
    (digits * 10 ^ exponent.toNat + (10 ^ (-exponent).toNat - 1)) / 10 ^ (-exponent).toNat
  | _ => 0

theorem div_ceil_spec {n d bound : Nat} (hd : 0 < d) (hn : 0 < n) (h : n ≤ bound * d) :
    n ≤ (n + (d - 1)) / d * d ∧ 1 ≤ (n + (d - 1)) / d ∧ (n + (d - 1)) / d ≤ bound := by
  have hdiv := Nat.div_add_mod (n + (d - 1)) d
  have hmod := Nat.mod_lt (n + (d - 1)) hd
  refine ⟨?_, (Nat.one_le_div_iff hd).mpr (by omega), ?_⟩
  · rw [Nat.mul_comm]
    omega
  · rw [Nat.div_le_iff_le_mul_add_pred hd, Nat.mul_comm]
    omega

/-- The seconds rounded up are at least the seconds, not zero, and within the largest bound. -/
theorem ceilSeconds_spec (t : TimeoutSeconds) :
    atMostSeconds t.val (ceilSeconds t.val) = true ∧ 1 ≤ ceilSeconds t.val ∧
      ceilSeconds t.val ≤ maxTimeoutSeconds := by
  obtain ⟨value, hpositive, hmost⟩ := t
  cases value with
  | int z =>
    have hpos : 0 < z := of_decide_eq_true hpositive
    have hle : z ≤ maxTimeoutSeconds := of_decide_eq_true hmost
    exact ⟨decide_eq_true (by simp only [ceilSeconds]; omega), by simp only [ceilSeconds]; omega,
      by simp only [ceilSeconds]; omega⟩
  | float f =>
    cases f with
    | finite negative digits point normal =>
      simp only [isPositive, Bool.and_eq_true, Bool.not_eq_true', decide_eq_true_eq] at hpositive
      obtain ⟨rfl, hdigits⟩ := hpositive
      obtain ⟨hat, hone, hbound⟩ := div_ceil_spec (Nat.pow_pos (by decide))
        (Nat.mul_pos hdigits (Nat.pow_pos (by decide))) (of_decide_eq_true hmost)
      exact ⟨decide_eq_true hat, hone, hbound⟩
    | infinite negative => cases hpositive
    | nan => cases hpositive
  | none => cases hpositive
  | bool b => cases hpositive
  | decimal d => cases hpositive
  | bytes b => cases hpositive
  | date d => cases hpositive
  | datetime d t => cases hpositive
  | time t => cases hpositive
  | str t => cases hpositive
  | uuid u => cases hpositive
  | other name => cases hpositive

/-! ## Exceptions and checks -/

/-- A check's exception as one of a session.  The handlers read no attribute of those that
are no connector errors. -/
def PyException.raised : PyException → Raised
  | .daftOlap kind message => .daftOlap kind message
  | _ => .driver {}

/-- A check in a session. -/
def check {Call ρ α : Type} {Reply : Call → Type} (x : Except PyException α) :
    Session Reply Raised ρ α :=
  compute (x.mapError PyException.raised)

/-- Resolve either a literal secret or a reference, which is looked up in the environment of
the current process. -/
def resolveSecret {Call ρ : Type} {Reply : Call → Type}
    (environ : Text → Session Reply Raised ρ (Option Text)) : Secret → Session Reply Raised ρ Text
  | .text t => pure t
  | .reference ref => do
    let value ← environ ref.environmentVariable
    check (ref.resolve value)

/-- The texts a secret may resolve to where `answers` are the values of the environment. -/
inductive Secret.Resolves (answers : Text → Option Text → Prop) : Secret → Text → Prop
  | text (t : Text) : Resolves answers (.text t) t
  | reference {ref : SecretRef} {value : Text} (h : answers ref.environmentVariable (some value)) :
      Resolves answers (.reference ref) value

/-- Caught by `except Exception`. -/
def Raised.isOrdinary : Raised → Bool
  | control _ => false
  | _ => true

/-- Fail during planning when the active Daft cannot consume a canonical Arrow type; `convert`
is the conversion of an empty batch of one field. -/
def validateDaftArrowSchema {Call ρ : Type} {Reply : Call → Type}
    (convert : ArrowField → Session Reply Raised ρ Unit) (arrowSchema : List ArrowField) :
    Session Reply Raised ρ Unit :=
  arrowSchema.forM fun field =>
    adapt
      (fun e =>
        if e.isOrdinary then
          .daftOlap .compatibility [.text "Daft cannot consume Arrow type ", .plain field.type,
            .text " for column ", .repr field.name]
        else e)
      (convert field)

/-- The handlers of a session.  A connector error that is not kept has none of the attributes
that are translated. -/
def handled (kept : ErrorKind → Bool) (translate : DriverError → Option Raised)
    (fallback : Raised) : Raised → Raised
  | .control c => .control c
  | .daftOlap kind message =>
    if kept kind then .daftOlap kind message else (translate {}).getD fallback
  | .driver error => (translate error).getD fallback

theorem mapError_eq_ok {ε ε' α : Type} {f : ε → ε'} {x : Except ε α} {a : α} :
    x.mapError f = .ok a ↔ x = .ok a := by
  cases x with
  | error e => exact iff_of_false (fun h => by cases h) fun h => by cases h
  | ok b => rw [Except.mapError, Except.ok.injEq, Except.ok.injEq]

section Orderly

variable {Call ρ α : Type} {Reply : Call → Type} {resources : Resources Call ρ}
  {asks : Turn Reply Raised → Prop}

theorem orderly_check {returns : α → Prop} {x : Except PyException α}
    (h : ∀ a, x = .ok a → returns a) :
    Orderly resources asks returns (check x : Session Reply Raised ρ α) :=
  Orderly.compute fun a ha => h a (mapError_eq_ok.mp ha)

theorem orderlyWith_check_bind {β : Type} {returns : List (Turn Reply Raised) → β → Prop}
    {x : Except PyException α} {f : α → Session Reply Raised ρ β}
    (h : ∀ a, x = .ok a → OrderlyWith resources asks returns (f a)) :
    OrderlyWith resources asks returns (check x >>= f) :=
  OrderlyWith.compute_bind fun a ha => h a (mapError_eq_ok.mp ha)

theorem orderly_resolveSecret {environ : Text → Session Reply Raised ρ (Option Text)}
    {answers : Text → Option Text → Prop} {secret : Secret}
    (h : ∀ ref, secret = .reference ref →
      Orderly resources asks (answers ref.environmentVariable) (environ ref.environmentVariable)) :
    Orderly resources asks (secret.Resolves answers) (resolveSecret environ secret) := by
  cases secret with
  | text t => exact Orderly.pure (.text t)
  | reference ref =>
    refine (h ref rfl).bind fun value hvalue => orderly_check fun t ht => ?_
    cases value with
    | none => cases ht
    | some value =>
      rw [← Except.ok.inj ht]
      exact .reference hvalue

theorem orderly_validateDaftArrowSchema {convert : ArrowField → Session Reply Raised ρ Unit}
    {arrowSchema : List ArrowField}
    (h : ∀ field ∈ arrowSchema, Orderly resources asks (fun _ => True) (convert field)) :
    Orderly resources asks (fun _ => True) (validateDaftArrowSchema convert arrowSchema) :=
  Orderly.forM fun field hfield => (h field hfield).adapt

end Orderly

/-- Control flow or a connector error. -/
def Raised.IsPublic : Raised → Prop
  | driver _ => False
  | _ => True

/-- No exception of a driver gets through the handlers. -/
theorem isPublic_handled {kept : ErrorKind → Bool} {translate : DriverError → Option Raised}
    {fallback : Raised} (htranslate : ∀ error e, translate error = some e → e.IsPublic)
    (hfallback : fallback.IsPublic) (e : Raised) :
    (handled kept translate fallback e).IsPublic := by
  have hgetD : ∀ error, ((translate error).getD fallback).IsPublic := by
    intro error
    cases h : translate error with
    | none => exact hfallback
    | some e => exact htranslate error e h
  cases e with
  | control c => exact trivial
  | daftOlap kind message =>
    rw [handled]
    split
    · exact trivial
    · exact hgetD _
  | driver error => exact hgetD error

/-! ## Runs -/

/-- Handlers that tell control flow from other exceptions and raise nothing of the driver's. -/
structure PublicHandlers (handlers : Handlers Raised) : Prop where
  ordinary : handlers.ordinary = Raised.isOrdinary
  handle : ∀ e, (handlers.handle e).IsPublic
  closeFailed : handlers.closeFailed.IsPublic

theorem publicHandlers_handled {kept : ErrorKind → Bool} {translate : DriverError → Option Raised}
    {fallback closeFailed : Raised}
    (htranslate : ∀ error e, translate error = some e → e.IsPublic)
    (hfallback : fallback.IsPublic) (hclose : closeFailed.IsPublic) :
    PublicHandlers ⟨Raised.isOrdinary, handled kept translate fallback, closeFailed⟩ :=
  ⟨rfl, isPublic_handled htranslate hfallback, hclose⟩

theorem isPublic_of_not_isOrdinary {e : Raised} (h : e.isOrdinary = false) : e.IsPublic := by
  cases e with
  | control c => exact trivial
  | daftOlap kind message => cases h
  | driver error => cases h

section Conversed

variable {Call ρ α : Type} {Reply : Call → Type} {resources : Resources Call ρ}
  {handlers : Handlers Raised} {asks : Turn Reply Raised → Prop}
  {returns : List (Turn Reply Raised) → α → Prop}

/-- A session of a connector that has `log` before it: it asks nothing but `asks`, closes what it
opened, the last one first, and once each; it raises the first failure, as its handlers turn it,
and a failed close only if nothing failed before; no exception of the driver leaves it. -/
structure Conversed (resources : Resources Call ρ) (partner : Partner Reply Raised)
    (handlers : Handlers Raised) (asks : Turn Reply Raised → Prop)
    (returns : List (Turn Reply Raised) → α → Prop) (session : Session Reply Raised ρ α)
    (log : List (Turn Reply Raised)) : Prop where
  ran : ∃ turns closing,
    ((runSession resources partner handlers session).run.run log).2 = log ++ (turns ++ closing) ∧
    Ran resources handlers asks returns log turns closing
      (session.run.run (⟨log, []⟩ : Scope Reply Raised ρ)).1
      ((runSession resources partner handlers session).run.run log).1
  isPublic : ∀ e, ((runSession resources partner handlers session).run.run log).1 = .error e →
    e.IsPublic
  tidy : Tidy resources handlers.ordinary log →
    Tidy resources handlers.ordinary ((runSession resources partner handlers session).run.run log).2

theorem conversed {partner : Partner Reply Raised} {session : Session Reply Raised ρ α}
    (hhandlers : PublicHandlers handlers) (h : OrderlyWith resources asks returns session)
    (log : List (Turn Reply Raised)) :
    Conversed resources partner handlers asks returns session log := by
  obtain ⟨turns, closing, hlog, hran⟩ :=
    @runSession_spec _ _ _ _ _ _ _ _ partner handlers _ h log
  refine ⟨⟨turns, closing, hlog, hran⟩, fun e he => ?_, Preserves.runSession h log⟩
  rcases hran.raised e he with hinterrupted | hhandled | hclose
  · have hordinary : e.isOrdinary = false := by
      rw [← hhandlers.ordinary]
      exact hinterrupted.1
    exact isPublic_of_not_isOrdinary hordinary
  · obtain ⟨e', -, rfl⟩ := hhandled
    exact hhandlers.handle e'
  · rw [hclose.2.1]
    exact hhandlers.closeFailed

end Conversed

/-! ## Planning with effects -/

section Effects

variable {Event Q A R α : Type}

/-- A check between effects. -/
def raising (x : Except PyException α) : Failing Event Raised α :=
  ExceptT.mk (pure (x.mapError PyException.raised))

/-- Where an `await` of a thread is cancelled: before the thread starts, or while it runs. -/
inductive Cancelled
  | waiting (exception : ControlFlow)
  | running (exception : ControlFlow)

/-- `await asyncio.to_thread(f)`: a thread that was started runs to its end. -/
def toThread (cancelled : List Event → Option Cancelled) (f : Failing Event Raised α) :
    Failing Event Raised α :=
  ExceptT.mk fun log =>
    match cancelled log with
    | none => f.run.run log
    | some (.waiting c) => (.error (.control c), log)
    | some (.running c) => (.error (.control c), (f.run.run log).2)

/-- The rest of planning after an answer with effects: it tells connector errors apart, and
what is none of them goes on. -/
def resume (next : Except PyException A → Except PyException R) : Except Raised A → Except Raised R
  | .ok a => (next (.ok a)).mapError PyException.raised
  | .error (.daftOlap kind message) =>
    (next (.error (.daftOlap kind message))).mapError PyException.raised
  | .error e => .error e

/-- Planning whose question is answered with effects. -/
def Planning.perform (answer : Q → Failing Event Raised A) :
    Planning Q (Except PyException A) (Except PyException R) → Failing Event Raised R
  | .done result => raising result
  | .ask question next => ExceptT.mk fun log =>
    (resume next ((answer question).run.run log).1, ((answer question).run.run log).2)

theorem raising_bind_eq_ok {x : Except PyException α} {f : α → Failing Event Raised R}
    {log : List Event} {r : R} :
    ((raising x >>= f).run.run log).1 = .ok r ↔ ∃ a, x = .ok a ∧ ((f a).run.run log).1 = .ok r := by
  rw [run_bind]
  cases x with
  | error e => exact iff_of_false (fun h => by cases h) fun h => by cases h.choose_spec.1
  | ok a =>
    constructor
    · exact fun h => ⟨a, rfl, h⟩
    · intro h
      obtain ⟨a', ha, h⟩ := h
      rwa [← Except.ok.inj ha] at h

theorem bind_raising_eq_ok {x : Failing Event Raised α} {f : α → Except PyException R}
    {log : List Event} {r : R} :
    ((x >>= fun a => raising (f a)).run.run log).1 = .ok r ↔
      ∃ a, (x.run.run log).1 = .ok a ∧ f a = .ok r := by
  rw [run_bind]
  cases hrun : x.run.run log with
  | mk outcome log' =>
    cases outcome with
    | error e => exact iff_of_false (fun h => by cases h) fun h => by cases h.choose_spec.1
    | ok a =>
      constructor
      · exact fun h => ⟨a, rfl, mapError_eq_ok.mp h⟩
      · intro h
        obtain ⟨a', ha, h⟩ := h
        rw [Except.ok.inj ha]
        exact mapError_eq_ok.mpr h

/-- What planning with effects comes to is what it comes to for the answer it got. -/
theorem Planning.perform_eq_ok {answer : Q → Failing Event Raised A}
    {planning : Planning Q (Except PyException A) (Except PyException R)} {log : List Event} {r : R}
    (h : ((planning.perform answer).run.run log).1 = .ok r) :
    ∃ reply : Q → Except PyException A, planning.run reply = .ok r ∧
      ∀ question a, reply question = .ok a → ((answer question).run.run log).1 = .ok a := by
  cases planning with
  | done result =>
    exact ⟨fun _ => .error .valueError, mapError_eq_ok.mp h, fun _ a ha => by cases ha⟩
  | ask question next =>
    have h : resume next ((answer question).run.run log).1 = .ok r := h
    cases houtcome : ((answer question).run.run log).1 with
    | ok a =>
      rw [houtcome] at h
      refine ⟨fun q => ((answer q).run.run log).1.mapError fun _ => .valueError, ?_,
        fun _ _ hb => mapError_eq_ok.mp hb⟩
      simp only [Planning.run, houtcome]
      exact mapError_eq_ok.mp h
    | error e =>
      rw [houtcome] at h
      cases e with
      | daftOlap kind message =>
        exact ⟨fun _ => .error (.daftOlap kind message), mapError_eq_ok.mp h,
          fun _ a ha => by cases ha⟩
      | control c => cases h
      | driver error => cases h

/-- An answer that planning without effects succeeds with is enough. -/
theorem Planning.perform_of_ok {answer : Q → Failing Event Raised A}
    {planning : Planning Q (Except PyException A) (Except PyException R)} {log : List Event} {r : R}
    {a : A} (hplanning : planning.run (fun _ => .ok a) = .ok r)
    (hanswer : ∀ question, planning.question? = some question →
      ((answer question).run.run log).1 = .ok a) :
    ((planning.perform answer).run.run log).1 = .ok r := by
  cases planning with
  | done result => exact mapError_eq_ok.mpr hplanning
  | ask question next =>
    show resume next ((answer question).run.run log).1 = .ok r
    rw [hanswer question rfl]
    exact mapError_eq_ok.mpr hplanning

/-- An await that was not cancelled has the result of its thread. -/
theorem run_of_toThread {cancelled : List Event → Option Cancelled} {f : Failing Event Raised α}
    {log : List Event} {a : α} (h : ((toThread cancelled f).run.run log).1 = .ok a) :
    (f.run.run log).1 = .ok a := by
  have h : (match cancelled log with
    | none => f.run.run log
    | some (.waiting c) => (.error (.control c), log)
    | some (.running c) => (.error (.control c), (f.run.run log).2)).1 = .ok a := h
  split at h
  · exact h
  · cases h
  · cases h

theorem addsWith_raising {adds : Event → Prop} {returns : List Event → α → Prop}
    {x : Except PyException α} (h : ∀ a, x = .ok a → returns [] a) :
    AddsWith adds returns (raising x) :=
  AddsWith.except fun a ha => h a (mapError_eq_ok.mp ha)

theorem addsWith_raising_bind {adds : Event → Prop} {returns : List Event → R → Prop}
    {x : Except PyException α} {f : α → Failing Event Raised R}
    (h : ∀ a, x = .ok a → AddsWith adds returns (f a)) : AddsWith adds returns (raising x >>= f) := by
  have hx : AddsWith adds (fun events a => events = [] ∧ x = .ok a) (raising x) :=
    addsWith_raising fun a ha => ⟨rfl, ha⟩
  refine hx.bind fun events a ha => ?_
  obtain ⟨rfl, ha⟩ := ha
  exact h a ha

theorem adds_raising {adds : Event → Prop} {returns : α → Prop} {x : Except PyException α}
    (h : ∀ a, x = .ok a → returns a) : Adds adds returns (raising x) :=
  addsWith_raising h

theorem throws_raising {raises : Raised → Prop} {x : Except PyException α}
    (h : ∀ e, x = .error e → raises e.raised) : Throws raises (raising x : Failing Event Raised α) :=
  Throws.except fun e he => by
    cases x with
    | ok a => cases he
    | error e' =>
      rw [← Except.error.inj he]
      exact h e' rfl

theorem addsWith_toThread {adds : Event → Prop} {returns : List Event → α → Prop}
    {cancelled : List Event → Option Cancelled} {f : Failing Event Raised α}
    (h : AddsWith adds returns f) : AddsWith adds returns (toThread cancelled f) := by
  intro log
  obtain ⟨events, hlog, hevents, hreturns⟩ := h log
  have hrun : (toThread cancelled f).run.run log =
      match cancelled log with
      | none => f.run.run log
      | some (.waiting c) => (.error (.control c), log)
      | some (.running c) => (.error (.control c), (f.run.run log).2) := rfl
  rw [hrun]
  split
  · exact ⟨events, hlog, hevents, hreturns⟩
  · exact ⟨[], (List.append_nil log).symm, fun _ he => absurd he List.not_mem_nil,
      fun a ha => by cases ha⟩
  · exact ⟨events, hlog, hevents, fun a ha => by cases ha⟩

/-- Planning knows what was answered to its question. -/
theorem addsWith_perform {adds : Event → Prop} {heard : Q → List Event → A → Prop}
    {answer : Q → Failing Event Raised A}
    {planning : Planning Q (Except PyException A) (Except PyException R)}
    (h : ∀ question, planning.question? = some question →
      AddsWith adds (heard question) (answer question)) :
    AddsWith adds (fun events r => ∃ reply, planning.run reply = .ok r ∧
      ∀ question a, planning.question? = some question → reply question = .ok a →
        heard question events a) (planning.perform answer) := by
  cases planning with
  | done result =>
    exact addsWith_raising fun r hr => ⟨fun _ => .error .valueError, hr, fun _ _ hnone => nomatch hnone⟩
  | ask question next =>
    intro log
    obtain ⟨events, hlog, hevents, hreturns⟩ := h question rfl log
    refine ⟨events, hlog, hevents, fun r hr => ?_⟩
    obtain ⟨reply, hrun, hanswer⟩ := Planning.perform_eq_ok hr
    refine ⟨reply, hrun, fun question' a hquestion ha => ?_⟩
    obtain rfl : question = question' := Option.some.inj hquestion
    exact hreturns a (hanswer question a ha)

variable {Call : Type} {Reply : Call → Type} {P : List (Turn Reply Raised) → Prop}

theorem preserves_raising (x : Except PyException α) : Preserves P (raising x) :=
  Preserves.except _

theorem preserves_raising_bind {x : Except PyException α}
    {f : α → Failing (Turn Reply Raised) Raised R} (h : ∀ a, x = .ok a → Preserves P (f a)) :
    Preserves P (raising x >>= f) := by
  intro log hlog
  rw [run_bind]
  cases x with
  | error e => exact hlog
  | ok a => exact h a rfl log hlog

theorem preserves_toThread {cancelled : List (Turn Reply Raised) → Option Cancelled}
    {f : Failing (Turn Reply Raised) Raised α} (h : Preserves P f) :
    Preserves P (toThread cancelled f) := by
  intro log hlog
  show P (match cancelled log with
    | none => f.run.run log
    | some (.waiting c) => (.error (.control c), log)
    | some (.running c) => (.error (.control c), (f.run.run log).2)).2
  split
  · exact h log hlog
  · exact hlog
  · exact h log hlog

theorem Planning.preserves_perform {answer : Q → Failing (Turn Reply Raised) Raised A}
    {planning : Planning Q (Except PyException A) (Except PyException R)}
    (h : ∀ question, planning.question? = some question → Preserves P (answer question)) :
    Preserves P (planning.perform answer) := by
  cases planning with
  | done result => exact preserves_raising result
  | ask question next => exact h question rfl

end Effects

end DaftOlap
