/-
The task thread of a Doris stream (`doris/transports/_thread.py`).

A consumer coroutine submits the operations of a reader to one worker thread, which
takes them in the order of submission.  The coroutine can be cancelled at every await;
the worker goes on with what it has begun.  What a reader's operations do to its
resources is a parameter here.
-/
import DaftOlap.Logic.Logged

namespace DaftOlap
namespace Doris

open Logic

/-! ## Readers -/

/-- The operations of a reader: `_open`, `_fetch` and `_close`. -/
inductive Operation
  | opening
  | fetching
  | closing
deriving DecidableEq

/-- What an operation does to connections. -/
inductive Effect (C : Type)
  /-- The driver's factory returned it. -/
  | connected (connection : C)
  | closeAttempted (connection : C)

/-- A reader by its fields and by what its operations can do: `executes operation before ok
effects after` if the operation can return (`ok`) or raise with these effects. -/
structure BatchReader (C F : Type) where
  initial : F
  executes : Operation → F → Bool → List (Effect C) → F → Prop

/-- The reader knows of a connection from the moment the factory returns it, and its close
attempts to close the connection. -/
structure Owning {C F : Type} (reader : BatchReader C F) where
  owned : F → Option C
  valid : F → Prop
  initial : owned reader.initial = none ∧ valid reader.initial
  opening : ∀ {before ok effects after}, reader.executes .opening before ok effects after →
    owned before = none → valid before → valid after ∧
      ((effects = [] ∧ owned after = none) ∨
        ∃ connection, effects = [.connected connection] ∧ owned after = some connection)
  fetching : ∀ {before ok effects after}, reader.executes .fetching before ok effects after →
    valid before → valid after ∧ effects = [] ∧ owned after = owned before
  closing : ∀ {before ok effects after}, reader.executes .closing before ok effects after →
    valid before → valid after ∧ (∀ connection, .connected connection ∉ effects) ∧
      ∀ connection, owned before = some connection → .closeAttempted connection ∈ effects

/-! ## Tasks -/

/-- An operation that was submitted. -/
structure Ticket where
  operation : Operation
  id : Nat
deriving DecidableEq

inductive TaskEvent (C : Type)
  /-- The coroutine called `close` of the reader and awaits it. -/
  | closeCalled
  | submitted (ticket : Ticket)
  /-- Removed from the queue by a cancellation. -/
  | removed (ticket : Ticket)
  | began (ticket : Ticket)
  | effect (effect : Effect C)
  | finished (ticket : Ticket) (ok : Bool)

inductive Consumer
  | fresh
  /-- At the await of `start` or `next_batch`. -/
  | awaiting (ticket : Ticket)
  /-- At a yield, or about to pull. -/
  | ready
  /-- In the `finally` block, or after it. -/
  | unwinding
  /-- At the await of `close`. -/
  | closing

/-- A state of a task. -/
structure StreamTask (C F : Type) where
  consumer : Consumer := .fresh
  queue : List Ticket := []
  running : Option Ticket := none
  /-- `_close_future` is set. -/
  closeSubmitted : Bool := false
  submitted : Nat := 0
  fields : F
  log : List (TaskEvent C) := []

variable {C F : Type}

namespace StreamTask

/-- `run_in_executor`. -/
def submit (task : StreamTask C F) (operation : Operation) : StreamTask C F :=
  { task with
    queue := task.queue ++ [⟨operation, task.submitted⟩]
    submitted := task.submitted + 1
    log := task.log ++ [.submitted ⟨operation, task.submitted⟩] }

/-- `TaskThread.close`, up to its await. -/
def close (task : StreamTask C F) : StreamTask C F :=
  if task.closeSubmitted then task
  else { task.submit .closing with closeSubmitted := true }

/-- What was submitted and is not finished, in the order of execution. -/
def pending (task : StreamTask C F) : List Ticket := task.running.toList ++ task.queue

end StreamTask

/-- The steps of a task. -/
inductive Step (reader : BatchReader C F) : StreamTask C F → StreamTask C F → Prop
  | start {task} (h : task.consumer = .fresh) :
    Step reader task
      { task.submit .opening with consumer := .awaiting ⟨.opening, task.submitted⟩ }
  | pull {task} (h : task.consumer = .ready) :
    Step reader task
      { task.submit .fetching with consumer := .awaiting ⟨.fetching, task.submitted⟩ }
  | resume {task ticket} (h : task.consumer = .awaiting ticket)
      (hfinished : .finished ticket true ∈ task.log) :
    Step reader task { task with consumer := .ready }
  | fail {task ticket} (h : task.consumer = .awaiting ticket)
      (hfinished : .finished ticket false ∈ task.log) :
    Step reader task { task with consumer := .unwinding }
  /-- The end of the stream, or an exception of the consumer. -/
  | leave {task} (h : task.consumer = .fresh ∨ task.consumer = .ready) :
    Step reader task { task with consumer := .unwinding }
  /-- A cancellation that leaves the operation where it is. -/
  | cancel {task ticket} (h : task.consumer = .awaiting ticket) :
    Step reader task { task with consumer := .unwinding }
  /-- A cancellation that removes the operation, which is still queued. -/
  | remove {task ticket} (h : task.consumer = .awaiting ticket) (hqueued : ticket ∈ task.queue) :
    Step reader task { task with
      consumer := .unwinding
      queue := task.queue.erase ticket
      log := task.log ++ [.removed ticket] }
  | close {task} (h : task.consumer = .unwinding) :
    Step reader task { task.close with
      consumer := .closing
      log := task.close.log ++ [.closeCalled] }
  /-- The close is finished, or its await is cancelled: the close itself is shielded. -/
  | closed {task} (h : task.consumer = .closing) :
    Step reader task { task with consumer := .unwinding }
  | begin {task ticket queue} (hidle : task.running = none) (h : task.queue = ticket :: queue) :
    Step reader task { task with
      running := some ticket
      queue := queue
      log := task.log ++ [.began ticket] }
  | finish {task ticket ok effects after} (h : task.running = some ticket)
      (hexecutes : reader.executes ticket.operation task.fields ok effects after) :
    Step reader task { task with
      running := none
      fields := after
      log := task.log ++ (effects.map .effect ++ [.finished ticket ok]) }

inductive Reachable (reader : BatchReader C F) : StreamTask C F → Prop
  | start : Reachable reader { fields := reader.initial }
  | next {task task'} (h : Reachable reader task) (hstep : Step reader task task') :
    Reachable reader task'

/-! ## Safety -/

def TaskEvent.began? : TaskEvent C → Option Ticket
  | .began ticket => some ticket
  | _ => none

def TaskEvent.finished? : TaskEvent C → Option Ticket
  | .finished ticket _ => some ticket
  | _ => none

def TaskEvent.connected? : TaskEvent C → Option C
  | .effect (.connected connection) => some connection
  | _ => none

def TaskEvent.closeAttempted? : TaskEvent C → Option C
  | .effect (.closeAttempted connection) => some connection
  | _ => none

/-- The operation has begun and is not finished. -/
def Unfinished (log : List (TaskEvent C)) (ticket : Ticket) : Prop :=
  Outstanding TaskEvent.began? TaskEvent.finished? log ticket

/-- The factory returned the connection, and no close of it was attempted since. -/
def Unclosed (log : List (TaskEvent C)) (connection : C) : Prop :=
  Outstanding TaskEvent.connected? TaskEvent.closeAttempted? log connection

def TaskEvent.isCloseSubmission : TaskEvent C → Bool
  | .submitted ticket => ticket.operation = .closing
  | _ => false

/-- What holds of a reachable state: one operation at a time, one close that nothing begins
after, and no connection whose close was not attempted once `close` was called and nothing is
left to do. -/
structure Safe (task : StreamTask C F) : Prop where
  serial : ∀ ticket ticket', Unfinished task.log ticket → Unfinished task.log ticket' →
    ticket = ticket'
  closeOnce : task.log.countP TaskEvent.isCloseSubmission ≤ 1
  closeLast : task.log.Pairwise fun e e' => ∀ ticket ticket', e = .began ticket →
    ticket.operation = .closing → e' ≠ .began ticket'
  closed : task.pending = [] → .closeCalled ∈ task.log →
    ∀ connection, ¬ Unclosed task.log connection

/-- The invariant.  The close is the last of the pending operations, and is pending for as long
as anything is once it was submitted. -/
structure TaskInvariant {reader : BatchReader C F} (owning : Owning reader) (task : StreamTask C F) :
    Prop where
  valid : owning.valid task.fields
  fresh : task.consumer = .fresh → task.pending = [] ∧ task.closeSubmitted = false ∧
    owning.owned task.fields = none
  awaiting : ∀ ticket, task.consumer = .awaiting ticket → ticket.operation ≠ .closing
  submitted : task.closeSubmitted = true → task.consumer = .unwinding ∨ task.consumer = .closing
  called : .closeCalled ∈ task.log → task.closeSubmitted = true
  last : ∀ before ticket after, task.pending = before ++ ticket :: after →
    ticket.operation = .closing → after = []
  pendingClose : ∀ ticket ∈ task.pending, ticket.operation = .closing → task.closeSubmitted = true
  owed : task.closeSubmitted = true → task.pending ≠ [] →
    ∃ ticket ∈ task.pending, ticket.operation = .closing
  openOnce : task.pending.countP (·.operation = .opening) ≤ 1
  unopened : ∀ ticket ∈ task.pending, ticket.operation = .opening →
    owning.owned task.fields = none
  begun : ∀ ticket, .began ticket ∈ task.log → ticket.operation = .closing →
    task.closeSubmitted = true ∧ task.queue = []
  closeOnce : task.log.countP TaskEvent.isCloseSubmission = if task.closeSubmitted then 1 else 0
  closeLast : task.log.Pairwise fun e e' => ∀ ticket ticket', e = .began ticket →
    ticket.operation = .closing → e' ≠ .began ticket'
  unfinished : ∀ ticket, Unfinished task.log ticket → task.running = some ticket
  unclosed : ∀ connection, Unclosed task.log connection →
    owning.owned task.fields = some connection ∧ (task.closeSubmitted = true → task.pending ≠ [])

section Run

variable {reader : BatchReader C F} {owning : Owning reader} {task : StreamTask C F}

theorem TaskInvariant.safe (h : TaskInvariant owning task) : Safe task := by
  refine ⟨?_, ?_, h.closeLast, ?_⟩
  · intro ticket ticket' hticket hticket'
    exact Option.some.inj ((h.unfinished ticket hticket).symm.trans (h.unfinished ticket' hticket'))
  · rw [h.closeOnce]
    split
    · exact Nat.le_refl 1
    · exact Nat.zero_le 1
  · intro hpending hcalled connection hconnection
    exact (h.unclosed connection hconnection).2 (h.called hcalled) hpending

theorem invariant_start : TaskInvariant owning { fields := reader.initial } := by
  have hquiet : ∀ {X : Type} (raises settles : TaskEvent C → Option X) x,
      ¬ Outstanding raises settles [] x :=
    fun raises settles x => not_outstanding_of_quiet fun e he => absurd he List.not_mem_nil
  refine ⟨owning.initial.2, fun _ => ⟨rfl, rfl, owning.initial.1⟩, ?_, ?_, ?_, ?_, ?_, ?_, ?_, ?_,
    ?_, rfl, .nil, ?_, ?_⟩
  · intro ticket h
    cases h
  · intro h
    cases h
  · exact fun h => absurd h List.not_mem_nil
  · intro before ticket after h
    exact absurd h.symm (List.append_ne_nil_of_right_ne_nil _ (List.cons_ne_nil _ _))
  · exact fun ticket h => absurd h List.not_mem_nil
  · intro h
    cases h
  · exact Nat.zero_le 1
  · exact fun ticket h => absurd h List.not_mem_nil
  · exact fun ticket h => absurd h List.not_mem_nil
  · exact fun ticket h => absurd h (hquiet _ _ ticket)
  · exact fun connection h => absurd h (hquiet _ _ connection)

/-- Steps of the coroutine that submit nothing. -/
theorem TaskInvariant.consumer (h : TaskInvariant owning task) {consumer : Consumer}
    (hconsumer : consumer = .unwinding ∨ consumer = .closing ∧ task.closeSubmitted = true ∨
      consumer = .ready ∧ task.closeSubmitted = false) :
    TaskInvariant owning { task with consumer := consumer } := by
  refine { h with fresh := ?_, awaiting := ?_, submitted := ?_ }
  · intro hfresh
    rcases hconsumer with hc | ⟨hc, -⟩ | ⟨hc, -⟩
    all_goals
      rw [show consumer = .fresh from hfresh] at hc
      cases hc
  · intro ticket hawaiting
    rcases hconsumer with hc | ⟨hc, -⟩ | ⟨hc, -⟩
    all_goals
      rw [show consumer = .awaiting ticket from hawaiting] at hc
      cases hc
  · intro hclose
    rcases hconsumer with hc | ⟨hc, -⟩ | ⟨-, hopen⟩
    · exact Or.inl hc
    · exact Or.inr hc
    · rw [show task.closeSubmitted = true from hclose] at hopen
      cases hopen

theorem mem_of_quiet {log events : List (TaskEvent C)} {e : TaskEvent C} (hquiet : e ∉ events)
    (h : e ∈ log ++ events) : e ∈ log :=
  (List.mem_append.mp h).resolve_right hquiet

theorem unfinished_quiet {log events : List (TaskEvent C)} (he : ∀ e ∈ events, e.began? = none)
    {ticket : Ticket} (h : Unfinished (log ++ events) ticket) :
    Unfinished log ticket ∧ ∀ e ∈ events, e.finished? ≠ some ticket := by
  rcases outstanding_append h with h | h
  · exact h
  · exact absurd h (not_outstanding_of_quiet he)

theorem unclosed_quiet {log events : List (TaskEvent C)} (he : ∀ e ∈ events, e.connected? = none)
    {connection : C} (h : Unclosed (log ++ events) connection) : Unclosed log connection := by
  rcases outstanding_append h with h | h
  · exact h.1
  · exact absurd h (not_outstanding_of_quiet he)

theorem closeLast_quiet {log events : List (TaskEvent C)} (he : ∀ e ∈ events, e.began? = none)
    (h : log.Pairwise fun e e' => ∀ ticket ticket', e = .began ticket →
      ticket.operation = .closing → e' ≠ .began ticket') :
    (log ++ events).Pairwise fun e e' => ∀ ticket ticket', e = .began ticket →
      ticket.operation = .closing → e' ≠ .began ticket' := by
  have hnot : ∀ e ∈ events, ∀ ticket, e ≠ .began ticket := by
    intro e hmem ticket hbegan
    have hnone := he e hmem
    rw [hbegan] at hnone
    cases hnone
  rw [List.pairwise_append]
  refine ⟨h, ?_, fun e _ e' he' _ ticket' _ _ => hnot e' he' ticket'⟩
  rw [List.pairwise_iff_forall_sublist]
  intro e e' hsub _ ticket' _ _
  exact hnot e' (hsub.subset (List.mem_cons_of_mem _ List.mem_cons_self)) ticket'

theorem pending_submit (operation : Operation) : (task.submit operation).pending =
    task.pending ++ [⟨operation, task.submitted⟩] := by
  show task.running.toList ++ (task.queue ++ _) = _
  rw [← List.append_assoc]
  rfl

theorem mem_pending_submit (task : StreamTask C F) (operation : Operation) {ticket : Ticket}
    (h : ticket ∈ (task.submit operation).pending) :
    ticket ∈ task.pending ∨ ticket = ⟨operation, task.submitted⟩ := by
  rw [pending_submit] at h
  rcases List.mem_append.mp h with hold | hnew
  · exact Or.inl hold
  · exact Or.inr (List.mem_singleton.mp hnew)

/-- The one element of a list that satisfies `p`, if it is the last, has none after it. -/
theorem eq_nil_of_append_singleton {α : Type*} {p : α → Prop} {xs before after : List α} {x y : α}
    (hxs : ∀ a ∈ xs, ¬ p a) (heq : xs ++ [x] = before ++ y :: after) (hy : p y) : after = [] := by
  rcases List.append_eq_append_iff.mp heq with ⟨middle, -, hmiddle⟩ | ⟨middle, hxs', hmiddle⟩
  · cases middle with
    | nil => exact (List.cons.inj hmiddle).2.symm
    | cons z middle =>
      have := congrArg List.length hmiddle
      simp at this
  · cases middle with
    | nil => exact (List.cons.inj hmiddle).2
    | cons z middle =>
      obtain ⟨rfl, -⟩ := List.cons.inj hmiddle
      have hmem : y ∈ xs := by
        rw [hxs']
        exact List.mem_append_right _ List.mem_cons_self
      exact absurd hy (hxs y hmem)

/-- Before the close is submitted it is neither queued nor begun. -/
theorem TaskInvariant.no_close (h : TaskInvariant owning task)
    (hopen : task.closeSubmitted = false) :
    (∀ ticket ∈ task.pending, ticket.operation ≠ .closing) ∧
    ∀ ticket, .began ticket ∈ task.log → ticket.operation ≠ .closing := by
  constructor
  · intro ticket hticket hclosing
    rw [h.pendingClose ticket hticket hclosing] at hopen
    cases hopen
  · intro ticket hticket hclosing
    rw [(h.begun ticket hticket hclosing).1] at hopen
    cases hopen

/-- An operation is submitted only while the close is not, an `_open` only at the start. -/
theorem TaskInvariant.submit (h : TaskInvariant owning task) (hopen : task.closeSubmitted = false)
    {operation : Operation} (hoperation : operation = .opening → task.consumer = .fresh)
    {consumer : Consumer} (hconsumer :
      consumer = .awaiting ⟨operation, task.submitted⟩ ∧ operation ≠ .closing ∨
      consumer = .closing ∧ operation = .closing) {closeSubmitted : Bool}
    (hsubmitted : closeSubmitted = decide (operation = .closing)) :
    TaskInvariant owning { task.submit operation with
      consumer := consumer
      closeSubmitted := closeSubmitted } := by
  subst hsubmitted
  obtain ⟨hnoClose, hnotBegun⟩ := h.no_close hopen
  have hfresh : ∀ {c : Consumer}, c = .fresh → consumer ≠ c := by
    rintro c rfl hc
    rcases hconsumer with ⟨hc', -⟩ | ⟨hc', -⟩
    all_goals
      rw [hc] at hc'
      cases hc'
  refine {
    valid := h.valid
    fresh := fun hc => absurd rfl (hfresh hc)
    awaiting := ?_
    submitted := ?_
    called := ?_
    last := fun before ticket after heq =>
      eq_nil_of_append_singleton hnoClose ((pending_submit operation).symm.trans heq)
    pendingClose := ?_
    owed := ?_
    openOnce := ?_
    unopened := ?_
    begun := ?_
    closeOnce := ?_
    closeLast := closeLast_quiet (by simp [TaskEvent.began?]) h.closeLast
    unfinished := fun ticket hticket =>
      h.unfinished ticket (unfinished_quiet (by simp [TaskEvent.began?]) hticket).1
    unclosed := ?_ }
  · intro ticket hticket
    rcases hconsumer with ⟨hc, hne⟩ | ⟨hc, -⟩
    · rw [hc] at hticket
      obtain rfl := Consumer.awaiting.inj hticket
      exact hne
    · rw [hc] at hticket
      cases hticket
  · intro hclose
    rcases hconsumer with ⟨-, hne⟩ | ⟨hc, -⟩
    · exact absurd (of_decide_eq_true hclose) hne
    · exact Or.inr hc
  · intro hcalled
    have hclose := h.called (mem_of_quiet (by simp) hcalled)
    rw [hopen] at hclose
    cases hclose
  · intro ticket hticket hclosing
    rcases mem_pending_submit task operation hticket with hold | hnew
    · exact absurd hclosing (hnoClose ticket hold)
    · rw [hnew] at hclosing
      exact decide_eq_true hclosing
  · intro hclose _
    refine ⟨⟨operation, task.submitted⟩, ?_, of_decide_eq_true hclose⟩
    show _ ∈ (task.submit operation).pending
    rw [pending_submit]
    exact List.mem_append_right _ (List.mem_singleton_self _)
  · show (task.submit operation).pending.countP _ ≤ 1
    rw [pending_submit, List.countP_append]
    by_cases hopening : operation = .opening
    · rw [(h.fresh (hoperation hopening)).1, List.countP_nil, Nat.zero_add]
      exact List.countP_le_length
    · have := h.openOnce
      simpa [hopening] using this
  · intro ticket hticket hopening
    rcases mem_pending_submit task operation hticket with hold | hnew
    · exact h.unopened ticket hold hopening
    · rw [hnew] at hopening
      exact (h.fresh (hoperation hopening)).2.2
  · intro ticket hticket hclosing
    rcases List.mem_append.mp hticket with hold | hnew
    · exact absurd hclosing (hnotBegun ticket hold)
    · cases List.mem_singleton.mp hnew
  · show (task.log ++ [_]).countP _ = _
    rw [List.countP_append, h.closeOnce, hopen]
    by_cases hclosing : operation = .closing
    · simp [TaskEvent.isCloseSubmission, hclosing]
    · simp [TaskEvent.isCloseSubmission, hclosing]
  · intro connection hconnection
    refine ⟨(h.unclosed connection (unclosed_quiet (by simp [TaskEvent.connected?]) hconnection)).1,
      fun _ => ?_⟩
    show (task.submit operation).pending ≠ []
    rw [pending_submit]
    exact List.append_ne_nil_of_right_ne_nil _ (List.cons_ne_nil _ _)

/-- A call of `close` is recorded when the close is submitted. -/
theorem TaskInvariant.callClose (h : TaskInvariant owning task) (hclose : task.closeSubmitted = true) :
    TaskInvariant owning { task with log := task.log ++ [.closeCalled] } := by
  refine { h with
    called := fun _ => hclose
    begun := fun ticket hticket => h.begun ticket (mem_of_quiet (by simp) hticket)
    closeOnce := ?_
    closeLast := closeLast_quiet (by simp [TaskEvent.began?]) h.closeLast
    unfinished := fun ticket hticket =>
      h.unfinished ticket (unfinished_quiet (by simp [TaskEvent.began?]) hticket).1
    unclosed := fun connection hconnection =>
      h.unclosed connection (unclosed_quiet (by simp [TaskEvent.connected?]) hconnection) }
  show (task.log ++ [_]).countP _ = _
  rw [List.countP_append, h.closeOnce]
  rfl

theorem TaskInvariant.remove (h : TaskInvariant owning task) {ticket : Ticket}
    (hawaiting : task.consumer = .awaiting ticket) :
    TaskInvariant owning { task with
      consumer := .unwinding
      queue := task.queue.erase ticket
      log := task.log ++ [.removed ticket] } := by
  have hopen : task.closeSubmitted = false := by
    rw [Bool.eq_false_iff]
    intro hclose
    rcases h.submitted hclose with hc | hc
    all_goals
      rw [hawaiting] at hc
      cases hc
  have hclose : task.closeSubmitted ≠ true := by
    rw [hopen]
    exact Bool.false_ne_true
  obtain ⟨hnoClose, hnotBegun⟩ := h.no_close hopen
  have hsub : (task.running.toList ++ task.queue.erase ticket).Sublist task.pending :=
    (List.Sublist.refl _).append List.erase_sublist
  refine {
    valid := h.valid
    fresh := fun hc => by cases hc
    awaiting := fun other hc => by cases hc
    submitted := fun _ => Or.inl rfl
    called := fun hcalled => h.called (mem_of_quiet (by simp) hcalled)
    last := ?_
    pendingClose := fun other hother => h.pendingClose other (hsub.subset hother)
    owed := fun hc => absurd hc hclose
    openOnce := Nat.le_trans hsub.countP_le h.openOnce
    unopened := fun other hother => h.unopened other (hsub.subset hother)
    begun := ?_
    closeOnce := ?_
    closeLast := closeLast_quiet (by simp [TaskEvent.began?]) h.closeLast
    unfinished := fun other hother =>
      h.unfinished other (unfinished_quiet (by simp [TaskEvent.began?]) hother).1
    unclosed := ?_ }
  · intro before other after heq hclosing
    have hother : other ∈ task.pending := by
      apply hsub.subset
      rw [show task.running.toList ++ task.queue.erase ticket = _ from heq]
      exact List.mem_append_right _ List.mem_cons_self
    exact absurd hclosing (hnoClose other hother)
  · intro other hother hclosing
    rcases List.mem_append.mp hother with hold | hnew
    · exact absurd hclosing (hnotBegun other hold)
    · cases List.mem_singleton.mp hnew
  · show (task.log ++ [_]).countP _ = _
    rw [List.countP_append, h.closeOnce]
    rfl
  · intro connection hconnection
    exact ⟨(h.unclosed connection (unclosed_quiet (by simp [TaskEvent.connected?]) hconnection)).1,
      fun hc => absurd hc hclose⟩

theorem TaskInvariant.begin (h : TaskInvariant owning task) {ticket : Ticket} {queue : List Ticket}
    (hidle : task.running = none) (hqueue : task.queue = ticket :: queue) :
    TaskInvariant owning { task with
      running := some ticket
      queue := queue
      log := task.log ++ [.began ticket] } := by
  have hpending : task.pending = ticket :: queue := by
    unfold StreamTask.pending
    rw [hidle, hqueue]
    rfl
  have hnotBegun : ∀ other, .began other ∈ task.log → other.operation ≠ .closing := by
    intro other hother hclosing
    have hnil := (h.begun other hother hclosing).2
    rw [hqueue] at hnil
    cases hnil
  refine {
    valid := h.valid
    fresh := ?_
    awaiting := h.awaiting
    submitted := h.submitted
    called := fun hcalled => h.called (mem_of_quiet (by simp) hcalled)
    last := fun before other after heq => h.last before other after (hpending.trans heq)
    pendingClose := fun other hother => h.pendingClose other (hpending ▸ hother)
    owed := ?_
    openOnce := ?_
    unopened := fun other hother => h.unopened other (hpending ▸ hother)
    begun := ?_
    closeOnce := ?_
    closeLast := ?_
    unfinished := ?_
    unclosed := ?_ }
  · intro hfresh
    have hnil := (h.fresh hfresh).1
    rw [hpending] at hnil
    cases hnil
  · have howed := h.owed
    rw [hpending] at howed
    exact howed
  · have hopenOnce := h.openOnce
    rw [hpending] at hopenOnce
    exact hopenOnce
  · intro other hother hclosing
    rcases List.mem_append.mp hother with hold | hnew
    · exact absurd hclosing (hnotBegun other hold)
    · obtain rfl := TaskEvent.began.inj (List.mem_singleton.mp hnew)
      refine ⟨h.pendingClose other ?_ hclosing, h.last [] other queue hpending hclosing⟩
      rw [hpending]
      exact List.mem_cons_self
  · show (task.log ++ [_]).countP _ = _
    rw [List.countP_append, h.closeOnce]
    rfl
  · show (task.log ++ [_]).Pairwise _
    rw [List.pairwise_append]
    refine ⟨h.closeLast, List.pairwise_singleton _ _, ?_⟩
    intro e he e' _ other _ hbegan hclosing
    rw [hbegan] at he
    exact absurd hclosing (hnotBegun other he)
  · intro other hother
    rcases outstanding_append hother with hold | hnew
    · have hrunning := h.unfinished other hold.1
      rw [hidle] at hrunning
      cases hrunning
    · have hbegan := outstanding_singleton hnew
      exact hbegan
  · intro connection hconnection
    have hold := h.unclosed connection
      (unclosed_quiet (by simp [TaskEvent.connected?]) hconnection)
    rw [hpending] at hold
    exact hold

theorem pending_of_running {ticket : Ticket} (hrunning : task.running = some ticket) :
    task.pending = ticket :: task.queue := by
  unfold StreamTask.pending
  rw [hrunning]
  rfl

/-- A connection that an operation leaves open is one that it connected. -/
theorem connected_of_outstanding {ticket : Ticket} {ok : Bool} {effects : List (Effect C)}
    {connection : C} (h : Outstanding TaskEvent.connected? TaskEvent.closeAttempted?
      (effects.map TaskEvent.effect ++ [TaskEvent.finished ticket ok]) connection) :
    .connected connection ∈ effects := by
  obtain ⟨before, e, rest, heq, he, -⟩ := h
  have hmem : e ∈ effects.map TaskEvent.effect ++ [TaskEvent.finished ticket ok] := by
    rw [heq]
    exact List.mem_append_right _ List.mem_cons_self
  rcases List.mem_append.mp hmem with heffect | hlast
  · obtain ⟨effect, hmember, rfl⟩ := List.mem_map.mp heffect
    cases effect with
    | connected c =>
      obtain rfl := Option.some.inj he
      exact hmember
    | closeAttempted c => cases he
  · rw [List.mem_singleton.mp hlast] at he
    cases he

/-- What the end of an operation leaves: the invariant of the connections is the part that
depends on the operation. -/
theorem unclosed_finish (h : TaskInvariant owning task) {ticket : Ticket} {ok : Bool}
    {effects : List (Effect C)} {after : F} (hpending : task.pending = ticket :: task.queue)
    (hexecutes : reader.executes ticket.operation task.fields ok effects after) :
    owning.valid after ∧
    (∀ other ∈ task.queue, other.operation = .opening → owning.owned after = none) ∧
    ∀ connection, Unclosed (task.log ++ (effects.map .effect ++ [.finished ticket ok])) connection →
      owning.owned after = some connection ∧ ticket.operation ≠ .closing := by
  have hhead : ticket ∈ task.pending := by
    rw [hpending]
    exact List.mem_cons_self
  have htail : ∀ {other : Ticket}, other ∈ task.queue → other ∈ task.pending := by
    intro other hother
    rw [hpending]
    exact List.mem_cons_of_mem _ hother
  cases hoperation : ticket.operation with
  | opening =>
    rw [hoperation] at hexecutes
    have hnone := h.unopened ticket hhead hoperation
    obtain ⟨hvalid, hresult⟩ := owning.opening hexecutes hnone h.valid
    have honly : ∀ other ∈ task.queue, other.operation ≠ .opening := by
      intro other hother hopening
      have hcount := h.openOnce
      have hpos : 0 < task.queue.countP (·.operation = .opening) :=
        List.countP_pos_iff.mpr ⟨other, hother, decide_eq_true hopening⟩
      rw [hpending, List.countP_cons, if_pos (decide_eq_true hoperation)] at hcount
      omega
    refine ⟨hvalid, fun other hother hopening => absurd hopening (honly other hother), ?_⟩
    intro connection hconnection
    refine ⟨?_, by simp⟩
    rcases outstanding_append hconnection with hold | hnew
    · have howned := (h.unclosed connection hold.1).1
      rw [hnone] at howned
      cases howned
    · have hmem := connected_of_outstanding hnew
      rcases hresult with ⟨hnil, -⟩ | ⟨c, hsingle, howned⟩
      · rw [hnil] at hmem
        cases hmem
      · rw [hsingle] at hmem
        rw [howned, Effect.connected.inj (List.mem_singleton.mp hmem)]
  | fetching =>
    rw [hoperation] at hexecutes
    obtain ⟨hvalid, hnil, howned⟩ := owning.fetching hexecutes h.valid
    refine ⟨hvalid, ?_, ?_⟩
    · intro other hother hopening
      rw [howned]
      exact h.unopened other (htail hother) hopening
    · intro connection hconnection
      refine ⟨?_, by simp⟩
      rcases outstanding_append hconnection with hold | hnew
      · rw [howned]
        exact (h.unclosed connection hold.1).1
      · have hmem := connected_of_outstanding hnew
        rw [hnil] at hmem
        cases hmem
  | closing =>
    rw [hoperation] at hexecutes
    obtain ⟨hvalid, hnone, hattempts⟩ := owning.closing hexecutes h.valid
    have hnil := h.last [] ticket task.queue hpending hoperation
    refine ⟨hvalid, ?_, ?_⟩
    · intro other hother
      rw [hnil] at hother
      cases hother
    · intro connection hconnection
      rcases outstanding_append hconnection with hold | hnew
      · have hattempt := hattempts connection (h.unclosed connection hold.1).1
        exact absurd rfl (hold.2 (.effect (.closeAttempted connection))
          (List.mem_append_left _ (List.mem_map_of_mem hattempt)))
      · exact absurd (connected_of_outstanding hnew) (hnone connection)

theorem TaskInvariant.finish (h : TaskInvariant owning task) {ticket : Ticket} {ok : Bool}
    {effects : List (Effect C)} {after : F} (hrunning : task.running = some ticket)
    (hexecutes : reader.executes ticket.operation task.fields ok effects after) :
    TaskInvariant owning { task with
      running := none
      fields := after
      log := task.log ++ (effects.map .effect ++ [.finished ticket ok]) } := by
  have hpending := pending_of_running hrunning
  have htail : ∀ {other : Ticket}, other ∈ task.queue → other ∈ task.pending := by
    intro other hother
    rw [hpending]
    exact List.mem_cons_of_mem _ hother
  have hquiet : ∀ e ∈ effects.map TaskEvent.effect ++ [TaskEvent.finished ticket ok],
      e.began? = none ∧ e.isCloseSubmission = false := by
    intro e he
    rcases List.mem_append.mp he with heffect | hlast
    · obtain ⟨effect, -, rfl⟩ := List.mem_map.mp heffect
      exact ⟨rfl, rfl⟩
    · rw [List.mem_singleton.mp hlast]
      exact ⟨rfl, rfl⟩
  -- a close that is owed is still queued unless it was this operation
  have howed : task.closeSubmitted = true → ticket.operation ≠ .closing →
      ∃ other ∈ task.queue, other.operation = .closing := by
    intro hclose hne
    obtain ⟨other, hother, hclosing⟩ := h.owed hclose (by rw [hpending]; exact List.cons_ne_nil _ _)
    rw [hpending] at hother
    rcases List.mem_cons.mp hother with hhead | hqueued
    · rw [hhead] at hclosing
      exact absurd hclosing hne
    · exact ⟨other, hqueued, hclosing⟩
  obtain ⟨hvalid, hunopened, hunclosed⟩ := unclosed_finish h hpending hexecutes
  refine {
    valid := hvalid
    fresh := ?_
    awaiting := h.awaiting
    submitted := h.submitted
    called := fun hcalled => h.called (mem_of_quiet (by simp) hcalled)
    last := ?_
    pendingClose := fun other hother => h.pendingClose other (htail hother)
    owed := ?_
    openOnce := ?_
    unopened := hunopened
    begun := ?_
    closeOnce := ?_
    closeLast := closeLast_quiet (fun e he => (hquiet e he).1) h.closeLast
    unfinished := ?_
    unclosed := ?_ }
  · intro hfresh
    have hnil := (h.fresh hfresh).1
    rw [hpending] at hnil
    cases hnil
  · intro before other rest heq
    apply h.last (ticket :: before) other rest
    rw [hpending]
    exact congrArg (ticket :: ·) heq
  · intro hclose hne
    apply howed hclose
    intro hclosing
    exact hne (h.last [] ticket task.queue hpending hclosing)
  · have hcount := h.openOnce
    rw [hpending] at hcount
    exact Nat.le_trans (List.sublist_cons_self _ _).countP_le hcount
  · intro other hother hclosing
    rcases List.mem_append.mp hother with hold | hnew
    · exact h.begun other hold hclosing
    · have hbegan := (hquiet _ hnew).1
      cases hbegan
  · show (task.log ++ (_ ++ _)).countP _ = _
    rw [List.countP_append, h.closeOnce, List.countP_eq_zero.mpr fun e he => by
      rw [(hquiet e he).2]
      exact Bool.false_ne_true]
    rfl
  · intro other hother
    obtain ⟨hold, hnot⟩ := unfinished_quiet (fun e he => (hquiet e he).1) hother
    have hsame := h.unfinished other hold
    rw [hrunning] at hsame
    obtain rfl := Option.some.inj hsame
    exact absurd rfl (hnot (.finished ticket ok)
      (List.mem_append_right _ (List.mem_singleton_self _)))
  · intro connection hconnection
    obtain ⟨howned, hne⟩ := hunclosed connection hconnection
    refine ⟨howned, fun hclose hnil => ?_⟩
    obtain ⟨other, hother, -⟩ := howed hclose hne
    rw [show task.queue = [] from hnil] at hother
    cases hother

/-- What one step preserves. -/
theorem invariant_step {task' : StreamTask C F} (hstep : Step reader task task')
    (h : TaskInvariant owning task) : TaskInvariant owning task' := by
  have hopen : task.consumer ≠ .unwinding → task.consumer ≠ .closing →
      task.closeSubmitted = false := by
    intro hunwinding hclosing
    rw [Bool.eq_false_iff]
    intro hclose
    rcases h.submitted hclose with hc | hc
    · exact hunwinding hc
    · exact hclosing hc
  cases hstep with
  | start hc =>
    have hfirst : Operation.opening ≠ .closing := by decide
    have hclose := hopen (by simp [hc]) (by simp [hc])
    exact h.submit hclose (fun _ => hc) (Or.inl ⟨rfl, hfirst⟩) hclose
  | pull hc =>
    have hfetch : Operation.fetching ≠ .closing ∧ Operation.fetching ≠ .opening := by decide
    have hclose := hopen (by simp [hc]) (by simp [hc])
    exact h.submit hclose (fun heq => absurd heq hfetch.2) (Or.inl ⟨rfl, hfetch.1⟩) hclose
  | resume hc hfinished =>
    exact h.consumer (Or.inr (Or.inr ⟨rfl, hopen (by simp [hc]) (by simp [hc])⟩))
  | fail hc hfinished => exact h.consumer (Or.inl rfl)
  | leave hc => exact h.consumer (Or.inl rfl)
  | cancel hc => exact h.consumer (Or.inl rfl)
  | remove hc hqueued => exact h.remove hc
  | close hc =>
    unfold StreamTask.close
    by_cases hclose : task.closeSubmitted = true
    · rw [if_pos hclose]
      exact (h.consumer (Or.inr (Or.inl ⟨rfl, hclose⟩))).callClose hclose
    · rw [if_neg hclose]
      exact (h.submit (Bool.eq_false_iff.mpr hclose) (fun hne => by cases hne)
        (Or.inr ⟨rfl, rfl⟩) rfl).callClose rfl
  | closed hc => exact h.consumer (Or.inl rfl)
  | begin hidle hqueue => exact h.begin hidle hqueue
  | finish hrunning hexecutes => exact h.finish hrunning hexecutes

/-- The induction is on the steps of the run. -/
theorem invariant_of_reachable (owning : Owning reader) (h : Reachable reader task) :
    TaskInvariant owning task := by
  induction h with
  | start => exact invariant_start
  | next _ hstep ih => exact invariant_step hstep ih

end Run

end Doris
end DaftOlap
