/-
Logs.

A logging computation is given the log so far, may answer by it, and appends to it;
`Adds` is a precondition-free triple: what the computation appends and what it returns.
An obligation is outstanding in a log if an event raised it and no later one settled it.
-/
import Mathlib.Algebra.GroupWithZero.Nat
import Mathlib.Algebra.Order.BigOperators.Group.Multiset
import Mathlib.Algebra.Order.Group.Multiset
import Mathlib.Data.List.Basic

namespace DaftOlap
namespace Logic

abbrev Logged (Event α : Type) := StateM (List Event) α

/-- With exceptions. -/
abbrev Failing (Event ε α : Type) := ExceptT ε (StateM (List Event)) α

variable {Event ε α β : Type}

/-- One operation: the answer depends on the log, and is logged. -/
def record (answer : List Event → α) (event : α → Event) : Logged Event α :=
  fun log => (answer log, log ++ [event (answer log)])

/-- All events that `x` appends satisfy `adds`, and what it returns satisfies `returns` of these
events. -/
def AddsWith (adds : Event → Prop) (returns : List Event → α → Prop) (x : Failing Event ε α) :
    Prop :=
  ∀ log, ∃ events, (x.run.run log).2 = log ++ events ∧ (∀ e ∈ events, adds e) ∧
    ∀ a, (x.run.run log).1 = .ok a → returns events a

/-- The same, of what does not depend on the events. -/
abbrev Adds (adds : Event → Prop) (returns : α → Prop) (x : Failing Event ε α) : Prop :=
  AddsWith adds (fun _ => returns) x

variable {adds : Event → Prop} {returns : α → Prop} {returns' : β → Prop}

theorem Adds.returned {x : Failing Event ε α} (h : Adds adds returns x) {log : List Event} {a : α}
    (ha : (x.run.run log).1 = .ok a) : returns a := by
  obtain ⟨events, -, -, hreturns⟩ := h log
  exact hreturns a ha

/-- What asks nothing. -/
theorem AddsWith.except {returns : List Event → α → Prop} {x : Except ε α}
    (h : ∀ a, x = .ok a → returns [] a) :
    AddsWith adds returns (ExceptT.mk (pure x) : Failing Event ε α) :=
  fun log => ⟨[], (List.append_nil log).symm, fun _ he => absurd he List.not_mem_nil, h⟩

theorem AddsWith.pure {returns : List Event → α → Prop} {a : α} (h : returns [] a) :
    AddsWith adds returns (pure a : Failing Event ε α) :=
  AddsWith.except (x := .ok a) fun b hb => by rwa [← Except.ok.inj hb]

theorem Adds.pure {a : α} (h : returns a) : Adds adds returns (pure a : Failing Event ε α) :=
  AddsWith.pure h

theorem Adds.throw (e : ε) : Adds adds returns (throw e : Failing Event ε α) :=
  AddsWith.except (x := .error e) fun b hb => by cases hb

theorem run_bind {σ : Type} (x : ExceptT ε (StateM σ) α) (f : α → ExceptT ε (StateM σ) β) (s : σ) :
    (x >>= f).run.run s =
      match x.run.run s with
      | (.ok a, s') => (f a).run.run s'
      | (.error e, s') => (.error e, s') := by
  show (ExceptT.bindCont f (x.run.run s).1).run (x.run.run s).2 = _
  rcases x.run.run s with ⟨a, s'⟩
  cases a with
  | error e => rfl
  | ok a => rfl

theorem AddsWith.bind {returns : List Event → α → Prop} {returns' : List Event → β → Prop}
    {x : Failing Event ε α} {f : α → Failing Event ε β} (hx : AddsWith adds returns x)
    (hf : ∀ events a, returns events a →
      AddsWith adds (fun later => returns' (events ++ later)) (f a)) :
    AddsWith adds returns' (x >>= f) := by
  intro log
  obtain ⟨events, hlog, hevents, hreturns⟩ := hx log
  rw [run_bind]
  cases hrun : x.run.run log with
  | mk a log' =>
    rw [hrun] at hlog hreturns
    cases a with
    | error e => exact ⟨events, hlog, hevents, fun b hb => by cases hb⟩
    | ok a =>
      obtain ⟨later, hlog', hlater, hreturns'⟩ := hf events a (hreturns a rfl) log'
      refine ⟨events ++ later, ?_, List.forall_mem_append.mpr ⟨hevents, hlater⟩, hreturns'⟩
      show ((f a).run.run log').2 = _
      rw [hlog', show log' = log ++ events from hlog, List.append_assoc]

theorem Adds.bind {x : Failing Event ε α} {f : α → Failing Event ε β}
    (hx : Adds adds returns x) (hf : ∀ a, returns a → Adds adds returns' (f a)) :
    Adds adds returns' (x >>= f) :=
  AddsWith.bind hx fun _ => hf

theorem AddsWith.imp {returns returns₁ : List Event → α → Prop} {x : Failing Event ε α}
    (h : AddsWith adds returns x) (himp : ∀ events a, returns events a → returns₁ events a) :
    AddsWith adds returns₁ x := by
  intro log
  obtain ⟨events, hlog, hevents, hreturns⟩ := h log
  exact ⟨events, hlog, hevents, fun a ha => himp events a (hreturns a ha)⟩

theorem Adds.imp {x : Failing Event ε α} {returns₁ : α → Prop} (h : Adds adds returns x)
    (himp : ∀ a, returns a → returns₁ a) : Adds adds returns₁ x :=
  AddsWith.imp h fun _ => himp

theorem AddsWith.mono {returns : List Event → α → Prop} {x : Failing Event ε α}
    {adds' : Event → Prop} (h : AddsWith adds returns x) (hmono : ∀ e, adds e → adds' e) :
    AddsWith adds' returns x := by
  intro log
  obtain ⟨events, hlog, hevents, hreturns⟩ := h log
  exact ⟨events, hlog, fun e he => hmono e (hevents e he), hreturns⟩

/-- What is known of all events is known where the computation returns. -/
theorem AddsWith.asked {returns : List Event → α → Prop} {x : Failing Event ε α}
    {adds' : Event → Prop} (h : AddsWith adds returns x) (hmono : ∀ e, adds e → adds' e) :
    AddsWith adds' (fun events a => returns events a ∧ ∀ e ∈ events, adds e) x := by
  intro log
  obtain ⟨events, hlog, hevents, hreturns⟩ := h log
  exact ⟨events, hlog, fun e he => hmono e (hevents e he), fun a ha => ⟨hreturns a ha, hevents⟩⟩

theorem Adds.mono {x : Failing Event ε α} {adds' : Event → Prop} (h : Adds adds returns x)
    (hmono : ∀ e, adds e → adds' e) : Adds adds' returns x :=
  AddsWith.mono h hmono

theorem Adds.throw_bind (e : ε) (f : α → Failing Event ε β) :
    Adds adds returns' (MonadExcept.throw e >>= f) := by
  intro log
  rw [run_bind]
  exact Adds.throw e log

section Ends

variable {σ : Type} {log : σ → List Event} {post : List Event → Except ε α → Prop}
  {x : ExceptT ε (StateM σ) α}

/-- What a computation appends to the log in its state and how it ends, by returning or by
raising, are related by `post`. -/
def Ends (log : σ → List Event) (post : List Event → Except ε α → Prop)
    (x : ExceptT ε (StateM σ) α) : Prop :=
  ∀ s, ∃ events, log (x.run.run s).2 = log s ++ events ∧ post events (x.run.run s).1

theorem Ends.except {x : Except ε α} (h : post [] x) : Ends log post (ExceptT.mk (pure x)) :=
  fun s => ⟨[], (List.append_nil (log s)).symm, h⟩

theorem Ends.pure {a : α} (h : post [] (.ok a)) : Ends log post (pure a) := Ends.except h

theorem Ends.imp {post' : List Event → Except ε α → Prop} (h : Ends log post x)
    (himp : ∀ events outcome, post events outcome → post' events outcome) : Ends log post' x := by
  intro s
  obtain ⟨events, hlog, hpost⟩ := h s
  exact ⟨events, hlog, himp events _ hpost⟩

/-- The events are determined by the log. -/
theorem Ends.and {post' : List Event → Except ε α → Prop} (h : Ends log post x)
    (h' : Ends log post' x) :
    Ends log (fun events outcome => post events outcome ∧ post' events outcome) x := by
  intro s
  obtain ⟨events, hlog, hpost⟩ := h s
  obtain ⟨events', hlog', hpost'⟩ := h' s
  obtain rfl := List.append_cancel_left (hlog.symm.trans hlog')
  exact ⟨events, hlog, hpost, hpost'⟩

theorem Ends.bind {post' : List Event → Except ε β → Prop} {f : α → ExceptT ε (StateM σ) β}
    (hx : Ends log post x)
    (hthrow : ∀ events e, post events (.error e) → post' events (.error e))
    (hreturn : ∀ events a, post events (.ok a) →
      Ends log (fun later => post' (events ++ later)) (f a)) : Ends log post' (x >>= f) := by
  intro s
  obtain ⟨events, hlog, hpost⟩ := hx s
  rw [run_bind]
  cases hrun : x.run.run s with
  | mk a s' =>
    rw [hrun] at hlog hpost
    cases a with
    | error e => exact ⟨events, hlog, hthrow events e hpost⟩
    | ok a =>
      obtain ⟨later, hlog', hpost'⟩ := hreturn events a hpost s'
      refine ⟨events ++ later, ?_, hpost'⟩
      show log ((f a).run.run s').2 = _
      rw [hlog', show log s' = log s ++ events from hlog, List.append_assoc]

theorem AddsWith.ends {returns : List Event → α → Prop} {x : Failing Event ε α}
    (h : AddsWith adds returns x) :
    Ends id (fun events outcome => (∀ e ∈ events, adds e) ∧
      ∀ a, outcome = .ok a → returns events a) x :=
  h

end Ends

/-- An exception that is kept as a result. -/
def attempt (x : Failing Event ε α) : Failing Event ε (Except ε α) :=
  ExceptT.mk fun log => (.ok (x.run.run log).1, (x.run.run log).2)

theorem AddsWith.attempt {returns : List Event → α → Prop} {x : Failing Event ε α}
    (h : AddsWith adds returns x) :
    AddsWith adds (fun events outcome => ∀ a, outcome = .ok a → returns events a) (attempt x) := by
  intro log
  obtain ⟨events, hlog, hevents, hreturns⟩ := h log
  refine ⟨events, hlog, hevents, fun outcome houtcome a ha => hreturns a ?_⟩
  rw [← ha]
  exact Except.ok.inj houtcome

theorem Adds.attempt {x : Failing Event ε α} (h : Adds adds returns x) :
    Adds adds (fun outcome => ∀ a, outcome = .ok a → returns a) (attempt x) :=
  AddsWith.attempt h

/-- Each result of a traversal is of its own part of the events. -/
theorem AddsWith.mapM {γ : Type} {f : γ → Failing Event ε β} {returns : γ → List Event → β → Prop}
    {l : List γ} (h : ∀ c ∈ l, AddsWith adds (returns c) (f c)) :
    AddsWith adds (fun events => List.Forall₂ (fun c b => ∃ part, part <:+: events ∧ returns c part b) l)
      (l.mapM f) := by
  induction l with
  | nil => exact AddsWith.pure .nil
  | cons c l ih =>
    obtain ⟨hc, hl⟩ := List.forall_mem_cons.mp h
    rw [List.mapM_cons]
    refine hc.bind fun events b hb => (ih hl).bind fun later bs hbs => AddsWith.pure ?_
    rw [List.append_nil]
    refine .cons ⟨events, ⟨[], later, rfl⟩, hb⟩ (hbs.imp fun c' b' hpart => ?_)
    obtain ⟨part, hinfix, hreturns⟩ := hpart
    exact ⟨part, hinfix.trans (List.suffix_append events later).isInfix, hreturns⟩

theorem Adds.mapM {γ : Type} {f : γ → Failing Event ε β} {returns : γ → β → Prop} {l : List γ}
    (h : ∀ c ∈ l, Adds adds (returns c) (f c)) :
    Adds adds (List.Forall₂ returns l) (l.mapM f) := by
  refine (AddsWith.mapM h).imp fun events bs hbs => hbs.imp fun c b hpart => ?_
  obtain ⟨part, -, hreturns⟩ := hpart
  exact hreturns

/-- A computation with what is known of its results. -/
def attach {p : α → Prop} (x : Failing Event ε α)
    (h : ∀ log a, (x.run.run log).1 = .ok a → p a) : Failing Event ε { a // p a } :=
  ExceptT.mk fun log =>
    (match ha : (x.run.run log).1 with
      | .ok a => .ok ⟨a, h log a ha⟩
      | .error e => .error e, (x.run.run log).2)

section Attach

variable {p : α → Prop} {x : Failing Event ε α} {h : ∀ log a, (x.run.run log).1 = .ok a → p a}
  {log : List Event}

theorem attach_eq_ok {a : { a // p a }} (ha : ((attach x h).run.run log).1 = .ok a) :
    (x.run.run log).1 = .ok a.val := by
  have ha : (match hx : (x.run.run log).1 with
    | .ok a => .ok ⟨a, h log a hx⟩
    | .error e => .error e) = Except.ok a := ha
  split at ha
  · next b hb => rw [hb, ← Except.ok.inj ha]
  · cases ha

theorem AddsWith.attach {returns : List Event → α → Prop} (hx : AddsWith adds returns x) :
    AddsWith adds (fun events a => returns events a.val) (attach x h) := by
  intro log
  obtain ⟨events, hlog, hevents, hreturns⟩ := hx log
  exact ⟨events, hlog, hevents, fun a ha => hreturns a.val (attach_eq_ok ha)⟩

end Attach

/-! ## Obligations -/

section Obligations

variable {X : Type} {raises settles : Event → Option X} {log events : List Event} {x : X}

def Outstanding (raises settles : Event → Option X) (log : List Event) (x : X) : Prop :=
  ∃ before e after, log = before ++ e :: after ∧ raises e = some x ∧
    ∀ e' ∈ after, settles e' ≠ some x

theorem not_outstanding_of_quiet (h : ∀ e ∈ log, raises e = none) :
    ¬ Outstanding raises settles log x := by
  intro hout
  obtain ⟨before, e, after, rfl, he, -⟩ := hout
  rw [h e (List.mem_append_right _ List.mem_cons_self)] at he
  cases he

/-- What is outstanding after more events was so before and is not settled by them, or is
raised by them. -/
theorem outstanding_append (h : Outstanding raises settles (log ++ events) x) :
    (Outstanding raises settles log x ∧ ∀ e ∈ events, settles e ≠ some x) ∨
      Outstanding raises settles events x := by
  obtain ⟨before, e, after, heq, he, hafter⟩ := h
  rcases List.append_eq_append_iff.mp heq with ⟨middle, hbefore, hmiddle⟩ |
    ⟨middle, hlog, hmiddle⟩
  · exact Or.inr ⟨middle, e, after, hmiddle, he, hafter⟩
  · cases middle with
    | nil => exact Or.inr ⟨[], e, after, hmiddle.symm, he, hafter⟩
    | cons e' middle =>
      obtain ⟨rfl, rfl⟩ := List.cons.inj hmiddle
      refine Or.inl ⟨⟨before, e, middle, hlog, he, ?_⟩, ?_⟩
      · exact fun e' he' => hafter e' (List.mem_append_left _ he')
      · exact fun e' he' => hafter e' (List.mem_append_right _ he')

theorem outstanding_singleton {e : Event} (h : Outstanding raises settles [e] x) :
    raises e = some x := by
  obtain ⟨before, e', after, heq, he, -⟩ := h
  have hmem : e' ∈ [e] := by
    rw [heq]
    exact List.mem_append_right _ List.mem_cons_self
  rwa [List.mem_singleton.mp hmem] at he

end Obligations

end Logic
end DaftOlap
