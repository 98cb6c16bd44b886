/-
Sessions.

A session asks a partner, who may answer by everything asked before, and opens resources
by some of its questions.  Whatever happens in it, its resources are closed at the end, the
last one first, and a failure to close one is reported only if nothing failed before.
-/
import DaftOlap.Logic.Logged

namespace DaftOlap
namespace Logic

variable {Call ρ ε α β : Type} {Reply : Call → Type}

/-- A question and its outcome. -/
structure Turn (Reply : Call → Type) (ε : Type) where
  call : Call
  answer : Except ε (Reply call)

/-- Who answers. -/
abbrev Partner (Reply : Call → Type) (ε : Type) :=
  List (Turn Reply ε) → (call : Call) → Except ε (Reply call)

/-- Which questions open a resource, and which close it.  A resource is named by the number
of turns before the one that opened it. -/
structure Resources (Call ρ : Type) where
  opens : Call → Option (Nat → ρ)
  close : ρ → Call
  closes : Call → Option ρ
  number : ρ → Nat
  number_opens : ∀ call resource, opens call = some resource → ∀ n, number (resource n) = n
  closes_close : ∀ r, closes (close r) = some r
  opens_of_closes : ∀ call r, closes call = some r → opens call = none

/-- What a session knows: the turns so far, and the resources it has to close. -/
structure Scope (Reply : Call → Type) (ε ρ : Type) where
  log : List (Turn Reply ε)
  opened : List ρ := []

abbrev Session (Reply : Call → Type) (ε ρ α : Type) := ExceptT ε (StateM (Scope Reply ε ρ)) α

/-! ## What a session does -/

/-- A question that opens nothing. -/
def ask (partner : Partner Reply ε) (call : Call) : Session Reply ε ρ (Reply call) :=
  ExceptT.mk fun scope =>
    (partner scope.log call,
      ⟨scope.log ++ [⟨call, partner scope.log call⟩], scope.opened⟩)

/-- A question that opens a resource, which is bound as soon as there is one. -/
def acquire (partner : Partner Reply ε) (call : Call) (resource : Nat → ρ) :
    Session Reply ε ρ ρ :=
  ExceptT.mk fun scope =>
    match partner scope.log call with
    | .error e => (.error e, ⟨scope.log ++ [⟨call, .error e⟩], scope.opened⟩)
    | .ok a => (.ok (resource scope.log.length),
        ⟨scope.log ++ [⟨call, .ok a⟩], resource scope.log.length :: scope.opened⟩)

/-- Something that asks nothing. -/
def compute (x : Except ε α) : Session Reply ε ρ α := ExceptT.mk (pure x)

/-- A handler inside a session. -/
def adapt (f : ε → ε) (x : Session Reply ε ρ α) : Session Reply ε ρ α :=
  ExceptT.mk fun scope => ((x.run.run scope).1.mapError f, (x.run.run scope).2)

/-- Close resources: an ordinary failure is only noted, any other ends the loop. -/
def closeAll (resources : Resources Call ρ) (partner : Partner Reply ε) (ordinary : ε → Bool) :
    List ρ → List (Turn Reply ε) → Except ε Bool × List (Turn Reply ε)
  | [], log => (.ok false, log)
  | r :: rest, log =>
    let answer := partner log (resources.close r)
    let after := closeAll resources partner ordinary rest
      (log ++ [⟨resources.close r, answer⟩])
    match answer with
    | .ok _ => after
    | .error e =>
      if ordinary e then (after.1.map fun _ => true, after.2)
      else (.error e, log ++ [⟨resources.close r, .error e⟩])

/-- How a session treats exceptions. -/
structure Handlers (ε : Type) where
  /-- It does not end the closing. -/
  ordinary : ε → Bool
  /-- What an exception of the session is turned into. -/
  handle : ε → ε
  closeFailed : ε

/-- How a session ends whose resources were closed. -/
def Handlers.finish (handlers : Handlers ε) : Except ε Bool → Except ε α → Except ε α
  | .error e, _ => .error e
  | .ok _, .error e => .error (handlers.handle e)
  | .ok true, .ok _ => .error handlers.closeFailed
  | .ok false, .ok a => .ok a

/-- A session from its beginning to its end. -/
def runSession (resources : Resources Call ρ) (partner : Partner Reply ε) (handlers : Handlers ε)
    (session : Session Reply ε ρ α) : Failing (Turn Reply ε) ε α :=
  ExceptT.mk fun log =>
    let inner := session.run.run ⟨log, []⟩
    let closed := closeAll resources partner handlers.ordinary inner.2.opened inner.2.log
    (handlers.finish closed.1 inner.1, closed.2)

/-- A session that opens nothing, on its own. -/
def alone (session : Session Reply ε ρ α) : Failing (Turn Reply ε) ε α :=
  ExceptT.mk fun log => ((session.run.run ⟨log, []⟩).1, (session.run.run ⟨log, []⟩).2.log)

/-! ## What is opened and what is closed -/

section Opened

variable (resources : Resources Call ρ)

/-- The resource a turn opens, if it is turn number `n`. -/
def Turn.opened? (n : Nat) (turn : Turn Reply ε) : Option ρ :=
  if turn.answer.isOk then (resources.opens turn.call).map (· n) else none

/-- The resources that turns open, of which the first is turn number `n`. -/
def openedFrom (n : Nat) : List (Turn Reply ε) → List ρ
  | [] => []
  | turn :: turns => (turn.opened? resources n).toList ++ openedFrom (n + 1) turns

/-- The resources that turns close. -/
def closedBy (turns : List (Turn Reply ε)) : List ρ :=
  turns.filterMap fun turn => resources.closes turn.call

variable {resources}

theorem openedFrom_append (n : Nat) (turns more : List (Turn Reply ε)) :
    openedFrom resources n (turns ++ more) =
      openedFrom resources n turns ++ openedFrom resources (n + turns.length) more := by
  induction turns generalizing n with
  | nil => rfl
  | cons turn turns ih =>
    rw [List.cons_append, openedFrom, openedFrom, ih, List.append_assoc, List.length_cons,
      show n + 1 + turns.length = n + (turns.length + 1) by omega]

theorem closedBy_append (turns more : List (Turn Reply ε)) :
    closedBy resources (turns ++ more) = closedBy resources turns ++ closedBy resources more :=
  List.filterMap_append

theorem number_of_opened? {n : Nat} {turn : Turn Reply ε} {r : ρ}
    (h : turn.opened? resources n = some r) : resources.number r = n := by
  unfold Turn.opened? at h
  split at h
  · obtain ⟨resource, hopens, rfl⟩ := Option.map_eq_some_iff.mp h
    exact resources.number_opens _ _ hopens n
  · cases h

theorem opened?_of_opens {n : Nat} {turn : Turn Reply ε} (h : resources.opens turn.call = none) :
    turn.opened? resources n = none := by
  rw [Turn.opened?, h, Option.map_none, ite_self]

theorem number_mem_openedFrom {n : Nat} {turns : List (Turn Reply ε)} {r : ρ}
    (h : r ∈ openedFrom resources n turns) :
    n ≤ resources.number r ∧ resources.number r < n + turns.length := by
  induction turns generalizing n with
  | nil => cases h
  | cons turn turns ih =>
    rw [List.length_cons]
    rcases List.mem_append.mp h with hfirst | hrest
    · have hnumber := number_of_opened? (Option.mem_toList.mp hfirst)
      omega
    · have hlater := ih hrest
      omega

/-- No resource is opened twice. -/
theorem nodup_openedFrom (n : Nat) (turns : List (Turn Reply ε)) :
    (openedFrom resources n turns).Nodup := by
  induction turns generalizing n with
  | nil => exact List.nodup_nil
  | cons turn turns ih =>
    refine List.nodup_append'.mpr ⟨?_, ih (n + 1), ?_⟩
    · cases turn.opened? resources n with
      | none => exact List.nodup_nil
      | some r => exact List.nodup_singleton r
    · intro r hfirst hrest
      have hnumber := number_of_opened? (Option.mem_toList.mp hfirst)
      have hlater := number_mem_openedFrom hrest
      omega

end Opened

/-! ## Orderly sessions -/

section Orderly

variable {resources : Resources Call ρ} {asks : Turn Reply ε → Prop} {returns : α → Prop}
  {returns' : β → Prop} {partner : Partner Reply ε}

/-- All turns of a session satisfy `asks` and close nothing, what they open is bound, and what
it returns satisfies `returns` of these turns. -/
def OrderlyWith (resources : Resources Call ρ) (asks : Turn Reply ε → Prop)
    (returns : List (Turn Reply ε) → α → Prop) (session : Session Reply ε ρ α) : Prop :=
  ∀ scope, ∃ turns,
    (session.run.run scope).2 = ⟨scope.log ++ turns,
      (openedFrom resources scope.log.length turns).reverse ++ scope.opened⟩ ∧
    closedBy resources turns = [] ∧ (∀ turn ∈ turns, asks turn) ∧
    ∀ a, (session.run.run scope).1 = .ok a → returns turns a

/-- The same, of what does not depend on the turns. -/
abbrev Orderly (resources : Resources Call ρ) (asks : Turn Reply ε → Prop) (returns : α → Prop)
    (session : Session Reply ε ρ α) : Prop :=
  OrderlyWith resources asks (fun _ => returns) session

theorem OrderlyWith.compute {returns : List (Turn Reply ε) → α → Prop} {x : Except ε α}
    (h : ∀ a, x = .ok a → returns [] a) :
    OrderlyWith resources asks returns (compute x : Session Reply ε ρ α) := by
  intro scope
  refine ⟨[], ?_, rfl, fun turn hturn => absurd hturn List.not_mem_nil, h⟩
  show scope = _
  rw [List.append_nil]
  rfl

theorem Orderly.compute {x : Except ε α} (h : ∀ a, x = .ok a → returns a) :
    Orderly resources asks returns (compute x : Session Reply ε ρ α) :=
  OrderlyWith.compute h

theorem OrderlyWith.pure {returns : List (Turn Reply ε) → α → Prop} {a : α} (h : returns [] a) :
    OrderlyWith resources asks returns (pure a : Session Reply ε ρ α) := by
  refine OrderlyWith.compute (x := .ok a) fun b hb => ?_
  rwa [← Except.ok.inj hb]

theorem Orderly.pure {a : α} (h : returns a) :
    Orderly resources asks returns (pure a : Session Reply ε ρ α) :=
  OrderlyWith.pure h

theorem OrderlyWith.throw {returns : List (Turn Reply ε) → α → Prop} (e : ε) :
    OrderlyWith resources asks returns (throw e : Session Reply ε ρ α) :=
  OrderlyWith.compute (x := .error e) fun a ha => by cases ha

theorem Orderly.throw (e : ε) :
    Orderly resources asks returns (throw e : Session Reply ε ρ α) :=
  OrderlyWith.throw e

theorem OrderlyWith.ask {call : Call} {returns : List (Turn Reply ε) → Reply call → Prop}
    (hopens : resources.opens call = none) (hcloses : resources.closes call = none)
    (hasks : ∀ answer, asks ⟨call, answer⟩)
    (hreturns : ∀ log a, partner log call = .ok a → returns [⟨call, .ok a⟩] a) :
    OrderlyWith resources asks returns (ask partner call : Session Reply ε ρ (Reply call)) := by
  intro scope
  refine ⟨[⟨call, partner scope.log call⟩], ?_, ?_, ?_, fun a ha => ?_⟩
  · rw [openedFrom, opened?_of_opens hopens]
    rfl
  · rw [closedBy, List.filterMap_cons, hcloses]
    rfl
  · intro turn hturn
    rw [List.mem_singleton.mp hturn]
    exact hasks _
  · have ha : partner scope.log call = .ok a := ha
    rw [ha]
    exact hreturns scope.log a ha

theorem Orderly.ask {call : Call} {returns : Reply call → Prop}
    (hopens : resources.opens call = none) (hcloses : resources.closes call = none)
    (hasks : ∀ answer, asks ⟨call, answer⟩)
    (hreturns : ∀ log a, partner log call = .ok a → returns a) :
    Orderly resources asks returns (ask partner call : Session Reply ε ρ (Reply call)) :=
  OrderlyWith.ask hopens hcloses hasks hreturns

theorem Orderly.acquire {call : Call} {resource : Nat → ρ} {returns : ρ → Prop}
    (hopens : resources.opens call = some resource)
    (hasks : ∀ answer, asks ⟨call, answer⟩) (hreturns : ∀ n, returns (resource n)) :
    Orderly resources asks returns (acquire partner call resource : Session Reply ε ρ ρ) := by
  have hcloses : resources.closes call = none := by
    cases h : resources.closes call with
    | none => rfl
    | some r => cases (resources.opens_of_closes call r h).symm.trans hopens
  have hquiet : ∀ answer, closedBy resources [(⟨call, answer⟩ : Turn Reply ε)] = [] := by
    intro answer
    rw [closedBy, List.filterMap_cons, hcloses]
    rfl
  have hall : ∀ answer, ∀ turn ∈ [(⟨call, answer⟩ : Turn Reply ε)], asks turn := by
    intro answer turn hturn
    rw [List.mem_singleton.mp hturn]
    exact hasks _
  intro scope
  cases hanswer : partner scope.log call with
  | error e =>
    have hrun : ((Logic.acquire partner call resource : Session Reply ε ρ ρ).run.run scope) =
        (.error e, ⟨scope.log ++ [⟨call, .error e⟩], scope.opened⟩) := by
      show (match partner scope.log call with
        | .error e => _
        | .ok a => _) = _
      rw [hanswer]
    rw [hrun]
    exact ⟨[⟨call, .error e⟩], rfl, hquiet _, hall _, fun a ha => by cases ha⟩
  | ok a =>
    have hrun : ((Logic.acquire partner call resource : Session Reply ε ρ ρ).run.run scope) =
        (.ok (resource scope.log.length),
          ⟨scope.log ++ [⟨call, .ok a⟩], resource scope.log.length :: scope.opened⟩) := by
      show (match partner scope.log call with
        | .error e => _
        | .ok a => _) = _
      rw [hanswer]
    rw [hrun]
    refine ⟨[⟨call, .ok a⟩], ?_, hquiet _, hall _, fun r hr => ?_⟩
    · have hsome : Turn.opened? resources scope.log.length
          (⟨call, .ok a⟩ : Turn Reply ε) = some (resource scope.log.length) := by
        rw [Turn.opened?, hopens]
        rfl
      rw [openedFrom, hsome]
      rfl
    · rw [← Except.ok.inj hr]
      exact hreturns _

theorem Orderly.adapt {f : ε → ε} {x : Session Reply ε ρ α}
    (h : Orderly resources asks returns x) :
    Orderly resources asks returns (Logic.adapt f x) := by
  intro scope
  obtain ⟨turns, hscope, hcloses, hasks, hreturns⟩ := h scope
  refine ⟨turns, hscope, hcloses, hasks, fun a ha => hreturns a ?_⟩
  have ha : ((x.run.run scope).1.mapError f) = .ok a := ha
  cases hrun : (x.run.run scope).1 with
  | error e =>
    rw [hrun] at ha
    cases ha
  | ok b =>
    rw [hrun] at ha
    rw [← Except.ok.inj ha]

theorem session_bind (x : Session Reply ε ρ α) (f : α → Session Reply ε ρ β)
    (scope : Scope Reply ε ρ) :
    (x >>= f).run.run scope =
      match x.run.run scope with
      | (.ok a, scope') => (f a).run.run scope'
      | (.error e, scope') => (.error e, scope') := by
  show (ExceptT.bindCont f (x.run.run scope).1).run (x.run.run scope).2 = _
  rcases x.run.run scope with ⟨a, scope'⟩
  cases a with
  | error e => rfl
  | ok a => rfl

theorem OrderlyWith.bind {returns : List (Turn Reply ε) → α → Prop}
    {returns' : List (Turn Reply ε) → β → Prop} {x : Session Reply ε ρ α}
    {f : α → Session Reply ε ρ β} (hx : OrderlyWith resources asks returns x)
    (hf : ∀ turns a, returns turns a →
      OrderlyWith resources asks (fun later => returns' (turns ++ later)) (f a)) :
    OrderlyWith resources asks returns' (x >>= f) := by
  intro scope
  obtain ⟨turns, hscope, hcloses, hasks, hreturns⟩ := hx scope
  rw [session_bind]
  cases hrun : x.run.run scope with
  | mk a scope' =>
    rw [hrun] at hscope hreturns
    obtain rfl : scope' = _ := hscope
    cases a with
    | error e => exact ⟨turns, rfl, hcloses, hasks, fun b hb => by cases hb⟩
    | ok a =>
      obtain ⟨later, hscope', hcloses', hasks', hreturns'⟩ := hf turns a (hreturns a rfl)
        ⟨scope.log ++ turns,
          (openedFrom resources scope.log.length turns).reverse ++ scope.opened⟩
      refine ⟨turns ++ later, ?_, ?_, ?_, hreturns'⟩
      · show ((f a).run.run _).2 = _
        rw [hscope', openedFrom_append, List.reverse_append, List.append_assoc, List.append_assoc,
          List.length_append]
      · rw [closedBy_append, hcloses, hcloses', List.append_nil]
      · intro turn hturn
        rcases List.mem_append.mp hturn with hturn | hturn
        · exact hasks turn hturn
        · exact hasks' turn hturn

theorem Orderly.bind {x : Session Reply ε ρ α} {f : α → Session Reply ε ρ β}
    (hx : Orderly resources asks returns x)
    (hf : ∀ a, returns a → Orderly resources asks returns' (f a)) :
    Orderly resources asks returns' (x >>= f) :=
  OrderlyWith.bind hx fun _ => hf

theorem OrderlyWith.imp {returns returns' : List (Turn Reply ε) → α → Prop}
    {x : Session Reply ε ρ α} (h : OrderlyWith resources asks returns x)
    (himp : ∀ turns a, returns turns a → returns' turns a) :
    OrderlyWith resources asks returns' x := by
  intro scope
  obtain ⟨turns, hscope, hcloses, hasks, hreturns⟩ := h scope
  exact ⟨turns, hscope, hcloses, hasks, fun a ha => himp turns a (hreturns a ha)⟩

/-- What is known of all turns is known where the session returns. -/
theorem OrderlyWith.asked {returns : List (Turn Reply ε) → α → Prop} {x : Session Reply ε ρ α}
    {asks' : Turn Reply ε → Prop} (h : OrderlyWith resources asks returns x)
    (hmono : ∀ turn, asks turn → asks' turn) :
    OrderlyWith resources asks' (fun turns a => returns turns a ∧ ∀ turn ∈ turns, asks turn) x := by
  intro scope
  obtain ⟨turns, hscope, hcloses, hasks, hreturns⟩ := h scope
  exact ⟨turns, hscope, hcloses, fun turn hturn => hmono turn (hasks turn hturn),
    fun a ha => ⟨hreturns a ha, hasks⟩⟩

/-- What asks nothing adds no turns. -/
theorem OrderlyWith.compute_bind {returns' : List (Turn Reply ε) → β → Prop} {x : Except ε α}
    {f : α → Session Reply ε ρ β}
    (h : ∀ a, x = .ok a → OrderlyWith resources asks returns' (f a)) :
    OrderlyWith resources asks returns' (Logic.compute x >>= f) := by
  have hx : OrderlyWith resources asks (fun turns a => turns = [] ∧ x = .ok a)
      (Logic.compute x : Session Reply ε ρ α) := OrderlyWith.compute fun a ha => ⟨rfl, ha⟩
  refine hx.bind fun turns a ha => ?_
  obtain ⟨rfl, ha⟩ := ha
  exact h a ha

theorem Orderly.forM {f : β → Session Reply ε ρ Unit} {items : List β}
    (h : ∀ item ∈ items, Orderly resources asks (fun _ => True) (f item)) :
    Orderly resources asks (fun _ => True) (items.forM f) := by
  induction items with
  | nil => exact Orderly.pure trivial
  | cons item items ih =>
    exact (h item List.mem_cons_self).bind fun _ _ =>
      ih fun other hother => h other (List.mem_cons_of_mem _ hother)

/-- The partner was asked this in these turns, and gave this answer. -/
def Heard (partner : Partner Reply ε) (turns : List (Turn Reply ε)) (call : Call)
    (a : Reply call) : Prop :=
  ⟨call, .ok a⟩ ∈ turns ∧ ∃ log, partner log call = .ok a

theorem Heard.append {turns : List (Turn Reply ε)} {call : Call} {a : Reply call}
    (h : Heard partner turns call a) (before after : List (Turn Reply ε)) :
    Heard partner (before ++ turns ++ after) call a :=
  ⟨List.mem_append_left _ (List.mem_append_right _ h.1), h.2⟩

theorem OrderlyWith.heard {call : Call} (hopens : resources.opens call = none)
    (hcloses : resources.closes call = none) (hasks : ∀ answer, asks ⟨call, answer⟩) :
    OrderlyWith resources asks (fun turns a => Heard partner turns call a)
      (Logic.ask partner call : Session Reply ε ρ (Reply call)) :=
  OrderlyWith.ask hopens hcloses hasks fun log _ h => ⟨List.mem_singleton_self _, log, h⟩

end Orderly

/-! ## Exceptions -/

section Throws

variable {σ : Type} {raises : ε → Prop}

/-- Every exception of a computation satisfies `raises`. -/
def Throws (raises : ε → Prop) (x : ExceptT ε (StateM σ) α) : Prop :=
  ∀ s e, (x.run.run s).1 = .error e → raises e

theorem Throws.except {x : Except ε α} (h : ∀ e, x = .error e → raises e) :
    Throws raises (ExceptT.mk (pure x) : ExceptT ε (StateM σ) α) :=
  fun _ e he => h e he

theorem Throws.bind {x : ExceptT ε (StateM σ) α} {f : α → ExceptT ε (StateM σ) β}
    (hx : Throws raises x)
    (hf : ∀ a s, (x.run.run s).1 = .ok a → Throws raises (f a)) : Throws raises (x >>= f) := by
  intro s e he
  have he : ((ExceptT.bindCont f (x.run.run s).1).run (x.run.run s).2).1 = .error e := he
  cases hrun : (x.run.run s).1 with
  | error e' =>
    rw [hrun] at he
    obtain rfl : e' = e := Except.error.inj he
    exact hx s e' hrun
  | ok a =>
    rw [hrun] at he
    exact hf a s hrun _ e he

/-- Which events are appended, and what is raised. -/
theorem Throws.ends {log : σ → List Event} {post : List Event → Except ε α → Prop}
    {x : ExceptT ε (StateM σ) α} (h : Throws raises x) (hends : Ends log post x) :
    Ends log (fun events outcome => post events outcome ∧ ∀ e, outcome = .error e → raises e) x := by
  intro s
  obtain ⟨events, hlog, hpost⟩ := hends s
  exact ⟨events, hlog, hpost, h s⟩

theorem Ends.ask {partner : Partner Reply ε} {call : Call}
    {post : List (Turn Reply ε) → Except ε (Reply call) → Prop}
    (h : ∀ log, post [⟨call, partner log call⟩] (partner log call)) :
    Ends Scope.log post (ask partner call : Session Reply ε ρ (Reply call)) :=
  fun scope => ⟨_, rfl, h scope.log⟩

theorem Ends.alone {post : List (Turn Reply ε) → Except ε α → Prop} {session : Session Reply ε ρ α}
    (h : Ends Scope.log post session) : Ends id post (Logic.alone session) :=
  fun log => h ⟨log, []⟩

/-- Kept exceptions end nothing. -/
theorem throws_mapM_attempt {γ Event : Type} {raises : ε → Prop} {f : γ → Failing Event ε α}
    (l : List γ) : Throws raises (l.mapM fun c => attempt (f c)) := by
  induction l with
  | nil => exact Throws.except (x := .ok []) fun e he => by cases he
  | cons c l ih =>
    rw [List.mapM_cons]
    exact Throws.bind (fun log e he => by cases he) fun outcome _ _ =>
      Throws.bind ih fun outcomes _ _ => fun log e he => by cases he

end Throws

/-! ## Closing -/

section Closing

variable {resources : Resources Call ρ} {partner : Partner Reply ε} {ordinary : ε → Bool}

/-- A close among the turns was cut short by something that is not ordinary. -/
def Interrupted (resources : Resources Call ρ) (ordinary : ε → Bool)
    (turns : List (Turn Reply ε)) : Prop :=
  ∃ turn ∈ turns, (resources.closes turn.call).isSome = true ∧
    ∃ e, turn.answer = .error e ∧ ordinary e = false

theorem Interrupted.append_left {turns more : List (Turn Reply ε)}
    (h : Interrupted resources ordinary turns) : Interrupted resources ordinary (turns ++ more) := by
  obtain ⟨turn, hturn, hrest⟩ := h
  exact ⟨turn, List.mem_append_left _ hturn, hrest⟩

theorem Interrupted.append_right {turns more : List (Turn Reply ε)}
    (h : Interrupted resources ordinary more) : Interrupted resources ordinary (turns ++ more) := by
  obtain ⟨turn, hturn, hrest⟩ := h
  exact ⟨turn, List.mem_append_right _ hturn, hrest⟩

theorem Interrupted.cons {turn : Turn Reply ε} {turns : List (Turn Reply ε)}
    (h : Interrupted resources ordinary turns) : Interrupted resources ordinary (turn :: turns) :=
  have happend : Interrupted resources ordinary ([turn] ++ turns) := h.append_right
  happend

/-- What closing the resources `rs` comes to. -/
structure Closed (resources : Resources Call ρ) (ordinary : ε → Bool) (rs : List ρ)
    (turns : List (Turn Reply ε)) (result : Except ε Bool) : Prop where
  only_closes : ∀ turn ∈ turns, ∃ r, turn.call = resources.close r
  opens : ∀ n, openedFrom resources n turns = []
  closes : closedBy resources turns <+: rs
  /-- The loop ended, so it came to every resource. -/
  ended : ∀ failed, result = .ok failed → closedBy resources turns = rs ∧
    (failed = true ↔ ∃ turn ∈ turns, turn.answer.isOk = false)
  /-- The loop was interrupted by its last turn. -/
  interrupted : ∀ e, result = .error e → ordinary e = false ∧
    Interrupted resources ordinary turns

theorem only_close {r : ρ} {answer : Except ε (Reply (resources.close r))}
    {turns : List (Turn Reply ε)} (h : ∀ turn ∈ turns, ∃ r, turn.call = resources.close r) :
    ∀ turn ∈ (⟨resources.close r, answer⟩ : Turn Reply ε) :: turns,
      ∃ r, turn.call = resources.close r :=
  List.forall_mem_cons.mpr ⟨⟨r, rfl⟩, h⟩

theorem openedFrom_close {r : ρ} {answer : Except ε (Reply (resources.close r))} {n : Nat}
    {turns : List (Turn Reply ε)} (h : openedFrom resources (n + 1) turns = []) :
    openedFrom resources n (⟨resources.close r, answer⟩ :: turns) = [] := by
  rw [openedFrom, opened?_of_opens (resources.opens_of_closes _ _ (resources.closes_close r)), h]
  rfl

theorem closedBy_close {r : ρ} {answer : Except ε (Reply (resources.close r))}
    {turns : List (Turn Reply ε)} :
    closedBy resources (⟨resources.close r, answer⟩ :: turns) = r :: closedBy resources turns := by
  rw [closedBy, List.filterMap_cons, resources.closes_close]
  rfl

theorem closeAll_spec (rs : List ρ) (log : List (Turn Reply ε)) :
    ∃ turns, (closeAll resources partner ordinary rs log).2 = log ++ turns ∧
      Closed resources ordinary rs turns (closeAll resources partner ordinary rs log).1 := by
  induction rs generalizing log with
  | nil =>
    refine ⟨[], (List.append_nil log).symm, fun turn hturn => absurd hturn List.not_mem_nil,
      fun _ => rfl, List.prefix_refl _, ?_, ?_⟩
    · intro failed h
      obtain rfl := Except.ok.inj h
      exact ⟨rfl, by simp⟩
    · intro e h
      cases h
  | cons r rs ih =>
    obtain ⟨turns, hlog, hclosed⟩ :=
      ih (log ++ [⟨resources.close r, partner log (resources.close r)⟩])
    rw [List.append_assoc] at hlog
    rw [closeAll]
    cases hanswer : partner log (resources.close r) with
    | ok a =>
      rw [hanswer] at hlog hclosed
      refine ⟨⟨resources.close r, .ok a⟩ :: turns, hlog, only_close hclosed.only_closes,
        fun n => openedFrom_close (hclosed.opens _), ?_, ?_, ?_⟩
      · rw [closedBy_close]
        exact List.cons_prefix_cons.mpr ⟨rfl, hclosed.closes⟩
      · intro failed h
        obtain ⟨hall, hfailed⟩ := hclosed.ended failed h
        rw [closedBy_close, hall, hfailed]
        refine ⟨rfl, ?_⟩
        simp only [List.exists_mem_cons_iff, Except.isOk, Except.toBool, Bool.true_eq_false,
          false_or]
      · intro e h
        obtain ⟨he, hinterrupted⟩ := hclosed.interrupted e h
        exact ⟨he, hinterrupted.cons⟩
    | error e =>
      rw [hanswer] at hlog hclosed
      by_cases hordinary : ordinary e = true
      · simp only [hordinary, if_true]
        refine ⟨⟨resources.close r, .error e⟩ :: turns, hlog, only_close hclosed.only_closes,
          fun n => openedFrom_close (hclosed.opens _), ?_, ?_, ?_⟩
        · rw [closedBy_close]
          exact List.cons_prefix_cons.mpr ⟨rfl, hclosed.closes⟩
        · intro failed h
          cases hrest : (closeAll resources partner ordinary rs
              (log ++ [⟨resources.close r, .error e⟩])).1 with
          | error e' =>
            rw [hrest] at h
            cases h
          | ok failed' =>
            rw [hrest] at h
            obtain rfl := Except.ok.inj h
            rw [closedBy_close, (hclosed.ended failed' hrest).1]
            refine ⟨rfl, iff_of_true rfl ⟨_, List.mem_cons_self, rfl⟩⟩
        · intro e' h
          cases hrest : (closeAll resources partner ordinary rs
              (log ++ [⟨resources.close r, .error e⟩])).1 with
          | ok failed' =>
            rw [hrest] at h
            cases h
          | error e'' =>
            rw [hrest] at h
            obtain rfl := Except.error.inj h
            obtain ⟨he, hinterrupted⟩ := hclosed.interrupted e'' hrest
            exact ⟨he, hinterrupted.cons⟩
      · simp only [hordinary, if_false, Bool.false_eq_true]
        refine ⟨[⟨resources.close r, .error e⟩], rfl,
          only_close fun turn hturn => absurd hturn List.not_mem_nil,
          fun n => openedFrom_close rfl, ?_, ?_, ?_⟩
        · rw [closedBy_close]
          exact List.cons_prefix_cons.mpr ⟨rfl, List.nil_prefix⟩
        · intro failed h
          cases h
        · intro e' h
          obtain rfl := Except.error.inj h
          have hnot : ordinary e = false := eq_false_of_ne_true hordinary
          refine ⟨hnot, _, List.mem_singleton_self _, ?_, e, rfl, hnot⟩
          rw [resources.closes_close]
          rfl

end Closing

/-! ## Runs -/

section Runs

variable {resources : Resources Call ρ} {asks : Turn Reply ε → Prop}
  {returns : List (Turn Reply ε) → α → Prop} {partner : Partner Reply ε} {handlers : Handlers ε}

/-- What a session comes to that has `log` before it: its own turns and those that close. -/
structure Ran (resources : Resources Call ρ) (handlers : Handlers ε) (asks : Turn Reply ε → Prop)
    (returns : List (Turn Reply ε) → α → Prop) (log turns closing : List (Turn Reply ε))
    (inner outcome : Except ε α) : Prop where
  closes_none : closedBy resources turns = []
  asks : ∀ turn ∈ turns, asks turn
  only_closes : ∀ turn ∈ closing, ∃ r, turn.call = resources.close r
  opens_none : ∀ n, openedFrom resources n closing = []
  closes : closedBy resources closing <+: (openedFrom resources log.length turns).reverse
  closes_all : ¬ Interrupted resources handlers.ordinary closing →
    closedBy resources closing = (openedFrom resources log.length turns).reverse
  returned : ∀ a, outcome = .ok a → inner = .ok a ∧ returns turns a ∧
    ∀ turn ∈ closing, turn.answer.isOk = true
  raised : ∀ e, outcome = .error e →
    (handlers.ordinary e = false ∧ Interrupted resources handlers.ordinary closing) ∨
    (∃ e', inner = .error e' ∧ e = handlers.handle e') ∨
    (∃ a, inner = .ok a) ∧ e = handlers.closeFailed ∧ ∃ turn ∈ closing, turn.answer.isOk = false

theorem runSession_spec {session : Session Reply ε ρ α}
    (h : OrderlyWith resources asks returns session) (log : List (Turn Reply ε)) :
    ∃ turns closing,
      ((runSession resources partner handlers session).run.run log).2 = log ++ (turns ++ closing) ∧
      Ran resources handlers asks returns log turns closing
        (session.run.run (⟨log, []⟩ : Scope Reply ε ρ)).1
        ((runSession resources partner handlers session).run.run log).1 := by
  obtain ⟨turns, hscope, hnone, hasks, hreturns⟩ := h ⟨log, []⟩
  rw [List.append_nil] at hscope
  obtain ⟨closing, hlog, hclosed⟩ := @closeAll_spec _ _ _ _ resources partner
    handlers.ordinary (openedFrom resources log.length turns).reverse (log ++ turns)
  have hrun : (runSession resources partner handlers session).run.run log =
      (handlers.finish (closeAll resources partner handlers.ordinary
          (openedFrom resources log.length turns).reverse (log ++ turns)).1
        (session.run.run (⟨log, []⟩ : Scope Reply ε ρ)).1, log ++ turns ++ closing) := by
    rw [← hlog]
    show (handlers.finish (closeAll _ _ _ (session.run.run _).2.opened _).1 _,
      (closeAll _ _ _ (session.run.run _).2.opened _).2) = _
    rw [hscope]
  rw [hrun]
  generalize (closeAll resources partner handlers.ordinary
    (openedFrom resources log.length turns).reverse (log ++ turns)).1 = closed at hclosed
  generalize (session.run.run (⟨log, []⟩ : Scope Reply ε ρ)).1 = inner at hreturns
  refine ⟨turns, closing, List.append_assoc .., hnone, hasks, hclosed.only_closes, hclosed.opens,
    hclosed.closes, ?_, ?_, ?_⟩
  · intro hquiet
    cases closed with
    | error e => exact absurd (hclosed.interrupted e rfl).2 hquiet
    | ok failed => exact (hclosed.ended failed rfl).1
  · intro a ha
    cases closed with
    | error e => cases ha
    | ok failed =>
      cases inner with
      | error e => cases ha
      | ok a' =>
        cases failed with
        | true => cases ha
        | false =>
          obtain rfl := Except.ok.inj ha
          refine ⟨rfl, hreturns _ rfl, fun turn hturn => ?_⟩
          by_contra hfailed
          cases (hclosed.ended false rfl).2.mpr ⟨turn, hturn, eq_false_of_ne_true hfailed⟩
  · intro e he
    cases closed with
    | error e' =>
      obtain rfl := Except.error.inj he
      exact Or.inl (hclosed.interrupted _ rfl)
    | ok failed =>
      cases inner with
      | error e' => exact Or.inr (Or.inl ⟨e', rfl, (Except.error.inj he).symm⟩)
      | ok a =>
        cases failed with
        | true =>
          exact Or.inr (Or.inr ⟨⟨a, rfl⟩, (Except.error.inj he).symm,
            (hclosed.ended true rfl).2.mp rfl⟩)
        | false => cases he

/-- No resource was closed twice or without having been opened, and if no close was
interrupted, every resource was closed. -/
structure Tidy (resources : Resources Call ρ) (ordinary : ε → Bool) (log : List (Turn Reply ε)) :
    Prop where
  closes : (closedBy resources log).Subperm (openedFrom resources 0 log)
  closes_all : ¬ Interrupted resources ordinary log →
    (closedBy resources log).Perm (openedFrom resources 0 log)

/-- No resource is closed twice. -/
theorem Tidy.nodup {log : List (Turn Reply ε)} (h : Tidy resources ordinary log) :
    (closedBy resources log).Nodup := by
  obtain ⟨closes, hperm, hsublist⟩ := h.closes
  exact hperm.nodup_iff.mp (hsublist.nodup (nodup_openedFrom 0 log))

/-- A log that was tidy is tidy after a session. -/
theorem Ran.tidy {log turns closing : List (Turn Reply ε)} {inner outcome : Except ε α}
    (h : Ran resources handlers asks returns log turns closing inner outcome)
    (htidy : Tidy resources handlers.ordinary log) :
    Tidy resources handlers.ordinary (log ++ (turns ++ closing)) := by
  have hclosed : closedBy resources (log ++ (turns ++ closing)) =
      closedBy resources log ++ closedBy resources closing := by
    rw [closedBy_append, closedBy_append, h.closes_none, List.nil_append]
  have hopened : openedFrom resources 0 (log ++ (turns ++ closing)) =
      openedFrom resources 0 log ++ openedFrom resources log.length turns := by
    rw [openedFrom_append, openedFrom_append, h.opens_none, List.append_nil, Nat.zero_add]
  constructor
  · rw [hclosed, hopened]
    exact htidy.closes.append
      (h.closes.sublist.subperm.trans (List.reverse_perm _).subperm)
  · intro hquiet
    have hbefore := htidy.closes_all fun hi => hquiet hi.append_left
    have hafter := h.closes_all fun hi => hquiet hi.append_right.append_right
    rw [hclosed, hopened, hafter]
    exact hbefore.append (List.reverse_perm _)

/-- A computation after which `P` holds of the log if it did before. -/
def Preserves (P : List (Turn Reply ε) → Prop) (x : Failing (Turn Reply ε) ε α) : Prop :=
  ∀ log, P log → P (x.run.run log).2

theorem Preserves.except {P : List (Turn Reply ε) → Prop} (x : Except ε α) :
    Preserves P (ExceptT.mk (pure x) : Failing (Turn Reply ε) ε α) :=
  fun _ hlog => hlog

theorem Preserves.bind {P : List (Turn Reply ε) → Prop} {x : Failing (Turn Reply ε) ε α}
    {f : α → Failing (Turn Reply ε) ε β} (hx : Preserves P x) (hf : ∀ a, Preserves P (f a)) :
    Preserves P (x >>= f) := by
  intro log hlog
  have hfirst := hx log hlog
  rw [run_bind]
  cases hrun : x.run.run log with
  | mk a log' =>
    rw [hrun] at hfirst
    cases a with
    | error e => exact hfirst
    | ok a => exact hf a log' hfirst

theorem Preserves.runSession {session : Session Reply ε ρ α}
    (h : OrderlyWith resources asks returns session) :
    Preserves (Tidy resources handlers.ordinary)
      (runSession resources partner handlers session) := by
  intro log hlog
  obtain ⟨turns, closing, hrun, hran⟩ := @runSession_spec _ _ _ _ _ _ _ _ partner
    handlers _ h log
  rw [hrun]
  exact hran.tidy hlog

theorem Preserves.attempt {P : List (Turn Reply ε) → Prop} {x : Failing (Turn Reply ε) ε α}
    (h : Preserves P x) : Preserves P (attempt x) := h

theorem Preserves.mapM {γ : Type} {P : List (Turn Reply ε) → Prop}
    {f : γ → Failing (Turn Reply ε) ε β} (h : ∀ c, Preserves P (f c)) (l : List γ) :
    Preserves P (l.mapM f) := by
  induction l with
  | nil => exact Preserves.except (.ok [])
  | cons c l ih =>
    rw [List.mapM_cons]
    exact (h c).bind fun b => ih.bind fun bs => Preserves.except (.ok (b :: bs))

/-- The log `log` is `start` and turns that satisfy `asks`. -/
def Extends (asks : Turn Reply ε → Prop) (start log : List (Turn Reply ε)) : Prop :=
  ∃ turns, log = start ++ turns ∧ ∀ turn ∈ turns, asks turn

theorem AddsWith.preserves {x : Failing (Turn Reply ε) ε α} (h : AddsWith asks returns x)
    (start : List (Turn Reply ε)) : Preserves (Extends asks start) x := by
  intro log hlog
  obtain ⟨turns, rfl, hturns⟩ := hlog
  obtain ⟨more, hmore, hasks, -⟩ := h (start ++ turns)
  exact ⟨turns ++ more, by rw [hmore, List.append_assoc], List.forall_mem_append.mpr ⟨hturns, hasks⟩⟩

theorem Adds.of_preserves {x : Failing (Turn Reply ε) ε α} {returns : α → Prop}
    (h : ∀ start, Preserves (Extends asks start) x)
    (hreturns : ∀ log a, (x.run.run log).1 = .ok a → returns a) : Adds asks returns x := by
  intro log
  obtain ⟨turns, hlog, hturns⟩ := h log log
    ⟨[], (List.append_nil log).symm, fun _ hturn => absurd hturn List.not_mem_nil⟩
  exact ⟨turns, hlog, hturns, hreturns log⟩

/-- All questions of a run satisfy `asks`, or close something. -/
theorem AddsWith.runSession {session : Session Reply ε ρ α}
    (h : OrderlyWith resources asks returns session) :
    AddsWith (fun turn => asks turn ∨ ∃ r, turn.call = resources.close r)
      (fun turns a => ∃ asked closing, turns = asked ++ closing ∧ returns asked a ∧
        ∀ turn ∈ closing, ∃ r, turn.call = resources.close r)
      (runSession resources partner handlers session) := by
  intro log
  obtain ⟨turns, closing, hlog, hran⟩ := @runSession_spec _ _ _ _ _ _ _ _ partner handlers _ h log
  refine ⟨turns ++ closing, hlog, fun turn hturn => ?_, fun a ha =>
    ⟨turns, closing, rfl, (hran.returned a ha).2.1, hran.only_closes⟩⟩
  rcases List.mem_append.mp hturn with hturn | hturn
  · exact Or.inl (hran.asks turn hturn)
  · exact Or.inr (hran.only_closes turn hturn)

theorem Adds.runSession {session : Session Reply ε ρ α} {returns : α → Prop}
    (h : Orderly resources asks returns session) :
    Adds (fun turn => asks turn ∨ ∃ r, turn.call = resources.close r) returns
      (runSession resources partner handlers session) := by
  refine (AddsWith.runSession h).imp fun turns a ha => ?_
  obtain ⟨_, _, -, ha, -⟩ := ha
  exact ha

theorem AddsWith.alone {session : Session Reply ε ρ α}
    (h : OrderlyWith resources asks returns session) : AddsWith asks returns (alone session) := by
  intro log
  obtain ⟨turns, hscope, -, hasks, hreturns⟩ := h ⟨log, []⟩
  exact ⟨turns, congrArg Scope.log hscope, hasks, hreturns⟩

/-- A session that opens nothing leaves a tidy log tidy. -/
theorem Preserves.alone {session : Session Reply ε ρ α}
    (h : OrderlyWith resources asks returns session)
    (hopens : ∀ turn, asks turn → resources.opens turn.call = none) {ordinary : ε → Bool} :
    Preserves (Tidy resources ordinary) (alone session) := by
  intro log hlog
  obtain ⟨turns, hscope, hcloses, hasks, -⟩ := h ⟨log, []⟩
  have hopened : ∀ n, openedFrom resources n turns = [] := by
    clear hscope hcloses
    induction turns with
    | nil => exact fun _ => rfl
    | cons turn turns ih =>
      intro n
      rw [openedFrom, opened?_of_opens (hopens turn (hasks turn List.mem_cons_self)),
        ih fun other hother => hasks other (List.mem_cons_of_mem _ hother)]
      rfl
  have hclosed : closedBy resources (log ++ turns) = closedBy resources log := by
    rw [closedBy_append, hcloses, List.append_nil]
  have hall : openedFrom resources 0 (log ++ turns) = openedFrom resources 0 log := by
    rw [openedFrom_append, hopened, List.append_nil]
  have hrun : ((Logic.alone session).run.run log).2 = log ++ turns := congrArg Scope.log hscope
  rw [hrun]
  constructor
  · rw [hclosed, hall]
    exact hlog.closes
  · intro hquiet
    rw [hclosed, hall]
    exact hlog.closes_all fun hi => hquiet hi.append_left

end Runs

end Logic
end DaftOlap
