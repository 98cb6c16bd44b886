/-
Sequencing of computations that may raise.

A modelled function that raises is an `Except` computation.  These lemmas take
such a computation apart once, so that no proof unfolds `bind` by hand.
-/
import Mathlib.Algebra.GroupWithZero.Nat
import Mathlib.Algebra.Order.BigOperators.Group.Multiset
import Mathlib.Algebra.Order.Group.Multiset
import Mathlib.Data.List.Forall2

namespace DaftOlap
namespace Python

variable {ε α β : Type}

/-- A sequence succeeds when both parts do. -/
theorem bind_eq_ok {x : Except ε α} {f : α → Except ε β} {b : β} :
    (x >>= f) = .ok b ↔ ∃ a, x = .ok a ∧ f a = .ok b := by
  cases x with
  | error e => simp [bind, Except.bind]
  | ok a => simp [bind, Except.bind]

@[simp] theorem ok_bind (a : α) (f : α → Except ε β) : (Except.ok a >>= f) = f a := rfl

@[simp] theorem error_bind (e : ε) (f : α → Except ε β) : (Except.error e >>= f) = .error e := rfl

@[simp] theorem pure_eq_ok (a : α) : (pure a : Except ε α) = .ok a := rfl

theorem exists_of_mem_right {R : α → β → Prop} {l : List α} {r : List β}
    (h : List.Forall₂ R l r) : ∀ b ∈ r, ∃ a ∈ l, R a b := by
  induction h with
  | nil => simp
  | cons hab _ ih =>
    intro b hb
    rcases List.mem_cons.mp hb with rfl | hb
    · exact ⟨_, List.mem_cons_self, hab⟩
    · obtain ⟨a, ha, h⟩ := ih b hb
      exact ⟨a, List.mem_cons_of_mem _ ha, h⟩

theorem exists_of_mem_left {R : α → β → Prop} {l : List α} {r : List β}
    (h : List.Forall₂ R l r) : ∀ a ∈ l, ∃ b, R a b := by
  induction h with
  | nil => simp
  | cons hab _ ih =>
    intro a ha
    rcases List.mem_cons.mp ha with rfl | ha
    · exact ⟨_, hab⟩
    · exact ih a ha

/-- A traversal succeeds when every step does. -/
theorem mapM_eq_ok {f : α → Except ε β} {l : List α} {r : List β} :
    l.mapM f = .ok r ↔ List.Forall₂ (fun a b => f a = .ok b) l r := by
  induction l generalizing r with
  | nil =>
    rw [List.mapM_nil, pure_eq_ok, List.forall₂_nil_left_iff, Except.ok.injEq, eq_comm]
  | cons a l ih =>
    rw [List.mapM_cons, bind_eq_ok, List.forall₂_cons_left_iff]
    constructor
    · rintro ⟨b, hb, h⟩
      obtain ⟨bs, hbs, h⟩ := bind_eq_ok.mp h
      exact ⟨b, bs, hb, ih.mp hbs, (Except.ok.inj h).symm⟩
    · rintro ⟨b, bs, hb, hbs, rfl⟩
      exact ⟨b, hb, bind_eq_ok.mpr ⟨bs, ih.mpr hbs, rfl⟩⟩

/-- Two traversals one after the other succeed when both steps of every element do. -/
theorem mapM_mapM_eq_ok {γ : Type} {f : α → Except ε β} {g : β → Except ε γ} {l : List α}
    {r : List γ} : (∃ m, l.mapM f = .ok m ∧ m.mapM g = .ok r) ↔
      List.Forall₂ (fun a c => ∃ b, f a = .ok b ∧ g b = .ok c) l r := by
  constructor
  · rintro ⟨m, hm, hr⟩
    replace hm := mapM_eq_ok.mp hm
    replace hr := mapM_eq_ok.mp hr
    induction hm generalizing r with
    | nil =>
      cases hr
      exact .nil
    | cons hab _ ih =>
      cases hr with
      | cons hbc hr => exact .cons ⟨_, hab, hbc⟩ (ih hr)
  · intro h
    induction h with
    | nil => exact ⟨[], rfl, rfl⟩
    | cons hac _ ih =>
      obtain ⟨b, hab, hbc⟩ := hac
      obtain ⟨m, hm, hr⟩ := ih
      exact ⟨b :: m, mapM_eq_ok.mpr (.cons hab (mapM_eq_ok.mp hm)),
        mapM_eq_ok.mpr (.cons hbc (mapM_eq_ok.mp hr))⟩

theorem mapM_eq_ok_map {f : α → Except ε β} {g : α → β} {l : List α}
    (h : ∀ a ∈ l, f a = .ok (g a)) : l.mapM f = .ok (l.map g) := by
  rw [mapM_eq_ok, List.forall₂_map_right_iff, List.forall₂_same]
  exact h

theorem mapM_zipIdx_eq_ok_map {f : α × Nat → Except ε β} {g : α → β} {l : List α}
    (h : ∀ a ∈ l, ∀ n, f (a, n) = .ok (g a)) : l.zipIdx.mapM f = .ok (l.map g) := by
  have hmap : l.map g = l.zipIdx.map fun a => g a.1 := by
    conv_lhs => rw [← List.zipIdx_map_fst 0 l, List.map_map]
    rfl
  rw [hmap]
  exact mapM_eq_ok_map fun a ha => h a.1 (List.fst_mem_of_mem_zipIdx ha) a.2

/-- A traversal whose successful steps compute `g` yields the map of `g`. -/
theorem eq_map_of_mapM_eq_ok {f : α → Except ε β} {g : α → β} {l : List α} {r : List β}
    (hg : ∀ a b, f a = .ok b → b = g a) (h : l.mapM f = .ok r) : r = l.map g := by
  have h' := mapM_eq_ok.mp h
  clear h
  induction h' with
  | nil => rfl
  | cons hab _ ih => rw [List.map_cons, ← ih, ← hg _ _ hab]

/-- A traversal whose successful steps are those of a partial function. -/
theorem filterMap_of_mapM_eq_ok {f : α → Except ε β} {g : α → Option β} {l : List α} {r : List β}
    (hg : ∀ a b, f a = .ok b → g a = some b) (h : l.mapM f = .ok r) : l.filterMap g = r := by
  have h' := mapM_eq_ok.mp h
  clear h
  induction h' with
  | nil => rfl
  | cons hab _ ih => rw [List.filterMap_cons, hg _ _ hab, ih]

theorem exists_mapM_eq_ok {f : α → Except ε β} {l : List α} (h : ∀ a ∈ l, ∃ b, f a = .ok b) :
    ∃ r, l.mapM f = .ok r := by
  induction l with
  | nil => exact ⟨[], rfl⟩
  | cons a l ih =>
    obtain ⟨b, hb⟩ := h a List.mem_cons_self
    obtain ⟨bs, hbs⟩ := ih fun a' ha' => h a' (List.mem_cons_of_mem _ ha')
    exact ⟨b :: bs, by rw [List.mapM_cons, hb, ok_bind, hbs]; rfl⟩

/-- What holds of every step holds of the whole traversal. -/
theorem exists_mapM_forall {f : α → Except ε β} {P : α → β → Prop} {l : List α}
    (h : ∀ a ∈ l, ∃ b, f a = .ok b ∧ P a b) :
    ∃ r, l.mapM f = .ok r ∧ r.length = l.length ∧ ∀ b ∈ r, ∃ a ∈ l, P a b := by
  obtain ⟨r, hr⟩ := exists_mapM_eq_ok fun a ha => (h a ha).imp fun b hb => hb.1
  have hall := mapM_eq_ok.mp hr
  refine ⟨r, hr, hall.length_eq.symm, ?_⟩
  intro b hb
  obtain ⟨a, ha, hab⟩ := exists_of_mem_right hall b hb
  obtain ⟨b', hb', hP⟩ := h a ha
  obtain rfl := Except.ok.inj (hab.symm.trans hb')
  exact ⟨a, ha, hP⟩

/-- Two passes over a list succeed when one pass with both steps does. -/
theorem mapM_bind_mapM_eq_ok {γ : Type} {f : α → Except ε β} {g : β → Except ε γ} {l : List α}
    {r : List γ} :
    (l.mapM f >>= fun bs => bs.mapM g) = .ok r ↔ l.mapM (fun a => f a >>= g) = .ok r := by
  rw [bind_eq_ok, mapM_eq_ok]
  induction l generalizing r with
  | nil => simp [eq_comm]
  | cons a l ih =>
    rw [List.forall₂_cons_left_iff]
    constructor
    · intro h
      obtain ⟨bs, hfirst, hsecond⟩ := h
      obtain ⟨b, bs, hb, hbs, rfl⟩ := List.forall₂_cons_left_iff.mp (mapM_eq_ok.mp hfirst)
      obtain ⟨c, cs, hc, hcs, rfl⟩ := List.forall₂_cons_left_iff.mp (mapM_eq_ok.mp hsecond)
      exact ⟨c, cs, bind_eq_ok.mpr ⟨b, hb, hc⟩,
        ih.mp ⟨bs, mapM_eq_ok.mpr hbs, mapM_eq_ok.mpr hcs⟩, rfl⟩
    · intro h
      obtain ⟨c, cs, hc, hcs, rfl⟩ := h
      obtain ⟨b, hb, hbc⟩ := bind_eq_ok.mp hc
      obtain ⟨bs, hfirst, hsecond⟩ := ih.mpr hcs
      exact ⟨b :: bs, mapM_eq_ok.mpr (.cons hb (mapM_eq_ok.mp hfirst)),
        mapM_eq_ok.mpr (.cons hbc (mapM_eq_ok.mp hsecond))⟩

theorem bind_eq_error {x : Except ε α} {f : α → Except ε β} {e : ε} :
    (x >>= f) = .error e ↔ x = .error e ∨ ∃ a, x = .ok a ∧ f a = .error e := by
  cases x with
  | error e' =>
    rw [error_bind, Except.error.injEq, Except.error.injEq]
    exact ⟨Or.inl, fun h => h.elim id fun ⟨_, ha, _⟩ => by cases ha⟩
  | ok a =>
    rw [ok_bind]
    refine ⟨fun h => Or.inr ⟨a, rfl, h⟩, fun h => h.elim (fun h => by cases h) ?_⟩
    rintro ⟨a', ha, h⟩
    rwa [Except.ok.inj ha]

theorem exists_of_mapM_eq_error {f : α → Except ε β} {l : List α} {e : ε}
    (h : l.mapM f = .error e) : ∃ a ∈ l, f a = .error e := by
  induction l with
  | nil => cases h
  | cons a l ih =>
    rw [List.mapM_cons] at h
    cases ha : f a with
    | error e' =>
      rw [ha, error_bind] at h
      exact ⟨a, List.mem_cons_self, by rw [ha, Except.error.inj h]⟩
    | ok b =>
      rw [ha, ok_bind] at h
      cases hl : l.mapM f with
      | error e' =>
        rw [hl, error_bind] at h
        obtain ⟨a', ha', he⟩ := ih (hl.trans h)
        exact ⟨a', List.mem_cons_of_mem _ ha', he⟩
      | ok bs => rw [hl] at h; cases h

theorem exists_of_mapM_eq_ok {f : α → Except ε β} {l : List α} {r : List β}
    (h : l.mapM f = .ok r) : ∀ a ∈ l, ∃ b, f a = .ok b :=
  exists_of_mem_left (mapM_eq_ok.mp h)

/-- A loop succeeds when every pass does. -/
theorem forM_eq_ok {f : α → Except ε Unit} {l : List α} :
    l.forM f = .ok () ↔ ∀ a ∈ l, f a = .ok () := by
  induction l with
  | nil => simp
  | cons a l ih =>
    show (f a >>= fun _ => l.forM f) = .ok () ↔ _
    rw [bind_eq_ok, List.forall_mem_cons]
    constructor
    · intro h
      obtain ⟨u, hfirst, hrest⟩ := h
      exact ⟨hfirst, ih.mp hrest⟩
    · intro h
      exact ⟨(), h.1, ih.mpr h.2⟩

theorem forM_map_eq {γ : Type} (g : γ → α) (f : α → Except ε Unit) (l : List γ) :
    (l.map g).forM f = l.forM (f ∘ g) := by
  induction l with
  | nil => rfl
  | cons a l ih =>
    show (f (g a) >>= fun _ => (l.map g).forM f) = (f (g a) >>= fun _ => l.forM (f ∘ g))
    rw [ih]

/-- The membership proofs that a recursion carries along do not count. -/
theorem forM_attach_eq {l : List α} {f : {a // a ∈ l} → Except ε Unit} {g : α → Except ε Unit}
    (h : ∀ a (ha : a ∈ l), f ⟨a, ha⟩ = g a) : l.attach.forM f = l.forM g := by
  have hf : f = g ∘ Subtype.val := funext fun a => h a.1 a.2
  rw [hf, ← forM_map_eq, List.attach_map_subtype_val]

theorem mapM_attach_eq {l : List α} {f : {a // a ∈ l} → Except ε β} {g : α → Except ε β}
    (h : ∀ a (ha : a ∈ l), f ⟨a, ha⟩ = g a) : l.attach.mapM f = l.mapM g := by
  have hf : f = g ∘ Subtype.val := funext fun a => h a.1 a.2
  rw [hf, ← List.mapM_map, List.attach_map_subtype_val]

end Python
end DaftOlap
