/-
Depth-first searches of finite graphs.

A search carries a state, may raise, and may find that its bound on the depth was too
low.  Along one path of a search, what blocks it is something bad, a return to the path,
or a cycle; over all paths, a set that no edge leaves tells what cannot be reached.
-/
import Mathlib.Algebra.GroupWithZero.Nat
import Mathlib.Algebra.Order.BigOperators.Group.Multiset
import Mathlib.Algebra.Order.Group.Multiset
import Mathlib.Data.Fintype.Card
import Mathlib.Logic.Relation

namespace DaftOlap
namespace Logic

open Relation

/-! ## Reachability -/

variable {V : Type} {r : V → V → Prop} {bad : V → Prop} {v : V}

/-- Something bad can be reached. -/
def Reaches (r : V → V → Prop) (bad : V → Prop) (v : V) : Prop :=
  ∃ x, ReflTransGen r v x ∧ bad x

theorem reaches_iff : Reaches r bad v ↔ bad v ∨ ∃ w, r v w ∧ Reaches r bad w := by
  constructor
  · intro h
    obtain ⟨x, hx, hbad⟩ := h
    rcases hx.cases_head with rfl | ⟨w, hw, hrest⟩
    · exact Or.inl hbad
    · exact Or.inr ⟨w, hw, x, hrest, hbad⟩
  · intro h
    rcases h with hbad | ⟨w, hw, x, hx, hbad⟩
    · exact ⟨v, .refl, hbad⟩
    · exact ⟨x, .head hw hx, hbad⟩

theorem Reaches.mono {r' : V → V → Prop} (h : ∀ x y, r x y → r' x y) (hv : Reaches r bad v) :
    Reaches r' bad v := by
  obtain ⟨x, hx, hbad⟩ := hv
  exact ⟨x, ReflTransGen.mono h _ _ hx, hbad⟩

/-- What simulates `v` reaches what is bad if `v` does. -/
theorem Reaches.simulate {same : V → V → Prop} {w : V}
    (hstep : ∀ x x' y, same x x' → r x y → ∃ y', r x' y' ∧ same y y')
    (hbad : ∀ x x', same x x' → bad x → bad x') (hsame : same v w) (h : Reaches r bad v) :
    Reaches r bad w := by
  obtain ⟨x, hx, hx'⟩ := h
  have hpath : ∃ y, ReflTransGen r w y ∧ same x y := by
    clear hx'
    induction hx with
    | refl => exact ⟨w, .refl, hsame⟩
    | tail _ hedge ih =>
      obtain ⟨y, hy, hxy⟩ := ih
      obtain ⟨y', hy', hsame'⟩ := hstep _ _ _ hxy hedge
      exact ⟨y', hy.tail hy', hsame'⟩
  obtain ⟨y, hy, hxy⟩ := hpath
  exact ⟨y, hy, hbad x y hxy hx'⟩

/-- Going on from `v` meets something bad, comes back to the path, or can run in circles. -/
def Blocked (r : V → V → Prop) (bad path : V → Prop) (v : V) : Prop :=
  Reaches r (fun x => bad x ∨ path x ∨ TransGen r x x) v

/-- A step of the search along a path: the new node joins the path. -/
theorem blocked_iff {path : V → Prop} (hbad : ¬ bad v) (hpath : ¬ path v) :
    Blocked r bad path v ↔ ∃ w, r v w ∧ Blocked r bad (fun x => x = v ∨ path x) w := by
  constructor
  · intro h
    obtain ⟨x, hx, hblocked⟩ := h
    rcases hx.cases_head with rfl | ⟨w, hw, hrest⟩
    · rcases hblocked with hbad' | hpath' | hcycle
      · exact absurd hbad' hbad
      · exact absurd hpath' hpath
      · obtain ⟨w, hw, hback⟩ := TransGen.head'_iff.mp hcycle
        exact ⟨w, hw, v, hback, Or.inr (Or.inl (Or.inl rfl))⟩
    · refine ⟨w, hw, x, hrest, ?_⟩
      rcases hblocked with hbad' | hpath' | hcycle
      · exact Or.inl hbad'
      · exact Or.inr (Or.inl (Or.inr hpath'))
      · exact Or.inr (Or.inr hcycle)
  · intro h
    obtain ⟨w, hw, x, hx, hblocked⟩ := h
    rcases hblocked with hbad' | (rfl | hpath') | hcycle
    · exact ⟨x, .head hw hx, Or.inl hbad'⟩
    · exact ⟨x, .refl, Or.inr (Or.inr (TransGen.head'_iff.mpr ⟨w, hw, hx⟩))⟩
    · exact ⟨x, .head hw hx, Or.inr (Or.inl hpath')⟩
    · exact ⟨x, .head hw hx, Or.inr (Or.inr hcycle)⟩

/-- Nothing bad is reached from a set that no edge leaves. -/
theorem not_reaches_of_closed {done : V → Prop} (hclosed : ∀ x y, done x → r x y → done y)
    (hgood : ∀ x, done x → ¬ bad x) (hv : done v) : ¬ Reaches r bad v := by
  have hdone : ∀ x, ReflTransGen r v x → done x := by
    intro x hx
    induction hx with
    | refl => exact hv
    | tail _ hstep ih => exact hclosed _ _ ih hstep
  intro h
  obtain ⟨x, hx, hbad⟩ := h
  exact hgood x (hdone x hx) hbad

/-! ## Searches -/

variable {ε σ α : Type}

/-- None: the bound on the depth was too low. -/
abbrev Search (ε σ : Type) := σ → Option (Except ε Unit × σ)

/-- One after another, until one raises. -/
def forEach (f : α → Search ε σ) : List α → Search ε σ
  | [], s => some (.ok (), s)
  | a :: l, s =>
    match f a s with
    | none => none
    | some (.ok (), next) => forEach f l next
    | some (.error e, next) => some (.error e, next)

/-- The result is an exception, of the kind that is raised, exactly if `p` holds. -/
inductive Verdict (raised : ε → Prop) (p : Prop) : Except ε Unit → Prop
  | raised {e : ε} : raised e → p → Verdict raised p (.error e)
  | passed : ¬ p → Verdict raised p (.ok ())

variable {raised : ε → Prop} {f : α → Search ε σ} {s : σ}

theorem Verdict.error_iff {p : Prop} {result : Except ε Unit} (h : Verdict raised p result) :
    (∃ e, result = .error e ∧ raised e) ↔ p := by
  cases h with
  | raised he hp => exact ⟨fun _ => hp, fun _ => ⟨_, rfl, he⟩⟩
  | passed hp =>
    refine iff_of_false (fun h => ?_) hp
    obtain ⟨e, he, -⟩ := h
    cases he

theorem Verdict.congr {p q : Prop} {result : Except ε Unit} (h : Verdict raised p result)
    (hpq : p ↔ q) : Verdict raised q result := by
  cases h with
  | raised he hp => exact .raised he (hpq.mp hp)
  | passed hp => exact .passed fun hq => hp (hpq.mpr hq)

/-- Searches that restore the state, one after another. -/
theorem forEach_verdict {l : List α} {p : α → Prop}
    (h : ∀ a ∈ l, ∃ result, f a s = some (result, s) ∧ Verdict raised (p a) result) :
    ∃ result, forEach f l s = some (result, s) ∧ Verdict raised (∃ a ∈ l, p a) result := by
  induction l with
  | nil => exact ⟨.ok (), rfl, .passed fun ⟨a, ha, _⟩ => by cases ha⟩
  | cons a l ih =>
    obtain ⟨first, hfirst, hverdict⟩ := h a List.mem_cons_self
    rw [forEach, hfirst]
    cases hverdict with
    | raised he hp => exact ⟨_, rfl, .raised he ⟨a, List.mem_cons_self, hp⟩⟩
    | passed hp =>
      obtain ⟨result, hrest, hresult⟩ := ih fun b hb => h b (List.mem_cons_of_mem _ hb)
      refine ⟨result, hrest, hresult.congr ?_⟩
      rw [List.exists_mem_cons_iff, or_iff_right hp]

/-- Searches that restore the state if they come to an end, one after another. -/
theorem forEach_restores {l : List α} {result : Except ε Unit} {next : σ}
    (h : ∀ a ∈ l, ∀ result next, f a s = some (result, next) → next = s)
    (heq : forEach f l s = some (result, next)) : next = s := by
  induction l with
  | nil => exact (Prod.mk.inj (Option.some.inj heq)).2.symm
  | cons a l ih =>
    rw [forEach] at heq
    split at heq
    · cases heq
    · next middle hfirst =>
      obtain rfl := h a List.mem_cons_self _ _ hfirst
      exact ih (fun b hb => h b (List.mem_cons_of_mem _ hb)) heq
    · next hfirst =>
      rw [(Prod.mk.inj (Option.some.inj heq)).2] at hfirst
      exact h a List.mem_cons_self _ _ hfirst

/-- What comes to an end within one bound comes to the same end within another. -/
theorem forEach_mono {g : α → Search ε σ} {l : List α} {result : Except ε Unit × σ}
    (h : ∀ a ∈ l, ∀ s result, f a s = some result → g a s = some result)
    (heq : forEach f l s = some result) : forEach g l s = some result := by
  induction l generalizing s with
  | nil => exact heq
  | cons a l ih =>
    have hrest : ∀ b ∈ l, ∀ s result, f b s = some result → g b s = some result :=
      fun b hb => h b (List.mem_cons_of_mem _ hb)
    rw [forEach] at heq ⊢
    split at heq
    · cases heq
    · next hfirst =>
      rw [h a List.mem_cons_self _ _ hfirst]
      exact ih hrest heq
    · next hfirst =>
      rw [h a List.mem_cons_self _ _ hfirst]
      exact heq

/-! ## Searches that mark what they visit -/

/-- There is no need to visit `v` any more. -/
def Settled (bad node : V → Prop) (visited : Finset V) (v : V) : Prop :=
  ¬ bad v ∧ (node v → v ∈ visited)

theorem Settled.mono {node : V → Prop} {visited after : Finset V} (h : visited ⊆ after)
    (hsettled : Settled bad node visited v) : Settled bad node after v :=
  ⟨hsettled.1, fun hnode => h (hsettled.2 hnode)⟩

/-- What a search from the roots leaves: either it raised, and something bad can be
reached, or the roots and all that the newly visited lead to are settled. -/
inductive Explored (r : V → V → Prop) (bad node : V → Prop) (raised : ε → Prop)
    (roots : List V) (visited : Finset V) : Except ε Unit → Finset V → Prop
  | raised {e : ε} {after : Finset V} : raised e → (∃ v ∈ roots, Reaches r bad v) →
      Explored r bad node raised roots visited (.error e) after
  | passed {after : Finset V} : visited ⊆ after →
      (∀ v ∈ roots, Settled bad node after v) →
      (∀ x ∈ after, x ∉ visited → ∀ y, r x y → Settled bad node after y) →
      Explored r bad node raised roots visited (.ok ()) after

variable {node : V → Prop} {visited after : Finset V} {roots : List V} {result : Except ε Unit}

/-- A search that starts with nothing visited decides whether something bad is reached. -/
theorem Explored.verdict (hnode : ∀ x y, r x y → node x)
    (h : Explored r bad node raised roots ∅ result after) :
    Verdict raised (∃ v ∈ roots, Reaches r bad v) result := by
  cases h with
  | raised he hbad => exact .raised he hbad
  | passed hsub hroots hclosed =>
    refine .passed fun hbad => ?_
    obtain ⟨v, hv, hreaches⟩ := hbad
    have hstep : ∀ x y, Settled bad node after x → r x y → Settled bad node after y := by
      intro x y hx hxy
      exact hclosed x (hx.2 (hnode x y hxy)) (Finset.notMem_empty x) y hxy
    exact not_reaches_of_closed hstep (fun x hx => hx.1) (hroots v hv) hreaches

/-- There is nothing to do for a node that is settled. -/
theorem Explored.settled (hbad : ¬ bad v) (hmem : node v → v ∈ visited) :
    Explored r bad node raised [v] visited (.ok ()) visited := by
  refine .passed (Finset.Subset.refl _) (fun w hw => ?_) fun x hx hnew => absurd hx hnew
  rw [List.mem_singleton.mp hw]
  exact ⟨hbad, hmem⟩

/-- To visit a node is to search from all that it leads to, with the node visited. -/
theorem Explored.visit [DecidableEq V] (hbad : ¬ bad v) (hroots : ∀ w, w ∈ roots ↔ r v w)
    (h : Explored r bad node raised roots (insert v visited) result after) :
    Explored r bad node raised [v] visited result after := by
  cases h with
  | raised he hreaches =>
    obtain ⟨w, hw, hreaches⟩ := hreaches
    refine .raised he ⟨v, List.mem_singleton_self v, ?_⟩
    exact reaches_iff.mpr (Or.inr ⟨w, (hroots w).mp hw, hreaches⟩)
  | passed hsub hsettled hclosed =>
    refine .passed ((Finset.subset_insert v visited).trans hsub) ?_ ?_
    · intro w hw
      rw [List.mem_singleton.mp hw]
      exact ⟨hbad, fun _ => hsub (Finset.mem_insert_self v visited)⟩
    · intro x hx hnew y hxy
      by_cases hxv : x = v
      · exact hsettled y ((hroots y).mpr (hxv ▸ hxy))
      · refine hclosed x hx (fun hmem => ?_) y hxy
        exact (Finset.mem_insert.mp hmem).elim hxv hnew

/-- Searches one after another, each with what the ones before it visited. -/
theorem forEach_explored {f : V → Search ε (Finset V)} {l : List V}
    (h : ∀ v ∈ l, ∀ middle, visited ⊆ middle → ∃ result after, f v middle = some (result, after) ∧
      Explored r bad node raised [v] middle result after) :
    ∃ result after, forEach f l visited = some (result, after) ∧
      Explored r bad node raised l visited result after := by
  induction l generalizing visited with
  | nil =>
    refine ⟨.ok (), visited, rfl, .passed (Finset.Subset.refl _) ?_ ?_⟩
    · intro v hv
      cases hv
    · intro x hx hnew
      exact absurd hx hnew
  | cons v l ih =>
    obtain ⟨first, middle, hfirst, hexplored⟩ :=
      h v List.mem_cons_self visited (Finset.Subset.refl _)
    rw [forEach, hfirst]
    cases hexplored with
    | raised he hbad =>
      obtain ⟨w, hw, hreaches⟩ := hbad
      rw [List.mem_singleton.mp hw] at hreaches
      exact ⟨_, _, rfl, .raised he ⟨v, List.mem_cons_self, hreaches⟩⟩
    | passed hsub hroot hclosed =>
      obtain ⟨result, after, hrest, hexplored⟩ := ih fun w hw next hnext =>
        h w (List.mem_cons_of_mem _ hw) next (hsub.trans hnext)
      refine ⟨result, after, hrest, ?_⟩
      cases hexplored with
      | raised he hbad =>
        obtain ⟨w, hw, hreaches⟩ := hbad
        exact .raised he ⟨w, List.mem_cons_of_mem _ hw, hreaches⟩
      | passed hgrow hroots hlater =>
        refine .passed (hsub.trans hgrow) ?_ ?_
        · intro w hw
          rcases List.mem_cons.mp hw with rfl | hw
          · exact (hroot w (List.mem_singleton_self w)).mono hgrow
          · exact hroots w hw
        · intro x hx hnew y hxy
          by_cases hmiddle : x ∈ middle
          · exact (hclosed x hmiddle hnew y hxy).mono hgrow
          · exact hlater x hx hmiddle y hxy

end Logic
end DaftOlap
