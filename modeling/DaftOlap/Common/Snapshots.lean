/-
Snapshots of caller-supplied values (`_common/contracts.py`).

The values are the objects of a finite graph, where containers may be shared and may
contain themselves; the identity of an object is its node.  Python's recursion limit is
left out.
-/
import DaftOlap.Common.Contracts
import DaftOlap.Logic.Search

namespace DaftOlap

open Logic Python Relation

/-- What a traversal finds in an object: the items of a mapping, the elements of a list,
tuple, set or frozenset in iteration order, or nothing. -/
inductive Shape (V : Type)
  | mapping (items : List (V × V))
  | sequence (elements : List V)
  | leaf (value : PyValue)

def Shape.isContainer {V : Type} : Shape V → Bool
  | leaf _ => false
  | _ => true

/-- Objects that hold each other. -/
structure ObjectGraph (V : Type) where
  shape : V → Shape V
  callable : V → Bool
  typeName : V → Text

namespace ObjectGraph

variable {V : Type} (g : ObjectGraph V)

/-- What a container holds; a mapping holds its keys and its values. -/
def elements (value : V) : List V :=
  match g.shape value with
  | .mapping items => items.flatMap fun item => [item.1, item.2]
  | .sequence elements => elements
  | .leaf _ => []

def Edge (value nested : V) : Prop := nested ∈ g.elements value

instance (value nested : V) [DecidableEq V] : Decidable (g.Edge value nested) :=
  inferInstanceAs (Decidable (_ ∈ _))

variable {g}

theorem not_edge_of_leaf {value nested : V} (h : (g.shape value).isContainer = false) :
    ¬ g.Edge value nested := by
  unfold Edge elements
  split
  · next hshape =>
    rw [hshape] at h
    cases h
  · next hshape =>
    rw [hshape] at h
    cases h
  · exact List.not_mem_nil

theorem isContainer_of_edge {value nested : V} (h : g.Edge value nested) :
    (g.shape value).isContainer = true := by
  by_contra hleaf
  exact not_edge_of_leaf (Bool.eq_false_iff.mpr hleaf) h

/-! ## Copies -/

/-- Copies have what the originals have: a mapping the copies of its items in their order,
any other container the copies of its elements, and a leaf the same value. -/
structure AreCopies (g : ObjectGraph V) (same : V → V → Prop) : Prop where
  mapping : ∀ {value copy items}, same value copy → g.shape value = .mapping items →
    ∃ copies, g.shape copy = .mapping copies ∧
      List.Forall₂ (fun item copied => same item.1 copied.1 ∧ same item.2 copied.2) items copies
  sequence : ∀ {value copy elements}, same value copy → g.shape value = .sequence elements →
    ∃ copies, g.shape copy = .sequence copies ∧
      ∃ reordered, copies.Perm reordered ∧ List.Forall₂ same elements reordered
  leaf : ∀ {value copy leaf}, same value copy → g.shape value = .leaf leaf →
    g.shape copy = .leaf leaf

/-- `pickle.loads(pickle.dumps(value))`, which copies a value or raises. -/
structure Pickle (g : ObjectGraph V) where
  roundTrip : V → Except PyException V
  same : V → V → Prop
  copies : g.AreCopies same
  same_roundTrip : ∀ {value snapshot}, roundTrip value = .ok snapshot → same value snapshot

/-! ## Structure -/

variable (g)

/-- `_snapshot_error`. -/
def snapshotError (value : V) (valuePath : Message) : PyException :=
  configurationError (valuePath ++
    [.text " value of type ", .plain (g.typeName value), .text " must be safely serializable"])

/-- A path one step longer, into the key or the value with an index. -/
def keyPath (valuePath : Message) (index : Nat) : Message :=
  valuePath ++ [.text ".key[", .plain (natText index), .text "]"]

def indexPath (valuePath : Message) (index : Nat) : Message :=
  valuePath ++ [.text "[", .plain (natText index), .text "]"]

/-- What a container holds, with the paths of the loops of `_validate_snapshot_structure`. -/
def nested (value : V) (valuePath : Message) : List (V × Message) :=
  match g.shape value with
  | .mapping items => items.zipIdx.flatMap fun item =>
      [(item.1.1, keyPath valuePath item.2), (item.1.2, indexPath valuePath item.2)]
  | .sequence elements => elements.zipIdx.map fun element =>
      (element.1, indexPath valuePath element.2)
  | .leaf _ => []

variable {g}

theorem map_fst_nested (value : V) (valuePath : Message) :
    (g.nested value valuePath).map Prod.fst = g.elements value := by
  unfold nested elements
  cases g.shape value with
  | mapping items =>
    have hitems : items.flatMap (fun item => [item.1, item.2]) =
        (items.zipIdx.map Prod.fst).flatMap fun item => [item.1, item.2] := by
      rw [List.zipIdx_map_fst]
    simp only [List.map_flatMap, List.map_cons, List.map_nil, hitems, List.flatMap_map]
  | sequence elements =>
    rw [List.map_map]
    exact List.zipIdx_map_fst 0 elements
  | leaf value => rfl

theorem exists_mem_nested {value : V} {valuePath : Message} {p : V → Prop} :
    (∃ item ∈ g.nested value valuePath, p item.1) ↔ ∃ w, g.Edge value w ∧ p w := by
  unfold Edge
  rw [← map_fst_nested value valuePath]
  simp only [List.mem_map, exists_exists_and_eq_and]

variable (g) [DecidableEq V]

/-- `_validate_snapshot_structure`, with a bound on the depth. -/
def validateSnapshotStructure :
    Nat → V → Message → Search PyException (Finset V)
  | 0, _, _, _ => none
  | fuel + 1, value, valuePath, activeContainers =>
    if g.callable value then
      some (.error (g.snapshotError value valuePath), activeContainers)
    else if (g.shape value).isContainer = false then some (.ok (), activeContainers)
    else if value ∈ activeContainers then
      some (.error (configurationError (valuePath ++ [.text " contains a cycle"])),
        activeContainers)
    else
      match forEach (fun item => validateSnapshotStructure fuel item.1 item.2)
          (g.nested value valuePath) (insert value activeContainers) with
      | none => none
      | some (result, after) =>
        -- The `finally` clause: `set.remove` raises on what is not there.
        if value ∈ after then some (result, after.erase value)
        else some (.error .keyError, after)

variable {g} {value : V} {valuePath : Message} {activeContainers after : Finset V}
  {result : Except PyException Unit}

/-- Whatever it raises, and whatever is active: a call that ends leaves the active
containers as it found them. -/
theorem validateSnapshotStructure_restores {fuel : Nat}
    (h : g.validateSnapshotStructure fuel value valuePath activeContainers = some (result, after)) :
    after = activeContainers := by
  induction fuel generalizing value valuePath activeContainers result after with
  | zero => cases h
  | succ fuel ih =>
    rw [validateSnapshotStructure] at h
    split at h
    · cases h
      rfl
    · split at h
      · cases h
        rfl
      · split at h
        · cases h
          rfl
        · next hinactive =>
          split at h
          · cases h
          · next middle hloop =>
            obtain rfl := forEach_restores (fun item _ result next heq => ih heq) hloop
            rw [if_pos (Finset.mem_insert_self value activeContainers),
              Finset.erase_insert hinactive] at h
            exact (Prod.mk.inj (Option.some.inj h)).2.symm

/-- The class of what the traversals raise. -/
def IsConfigurationError (e : PyException) : Prop := e.kind? = some .configuration

/-- With as much depth left as there are objects that are not active, the traversal ends,
and raises exactly if what it was given is blocked. -/
theorem validateSnapshotStructure_verdict [Fintype V] {fuel : Nat}
    (hactive : ∀ x ∈ activeContainers, (g.shape x).isContainer = true)
    (hfuel : Fintype.card V < fuel + activeContainers.card) :
    ∃ result, g.validateSnapshotStructure fuel value valuePath activeContainers =
        some (result, activeContainers) ∧
      Verdict IsConfigurationError
        (Blocked g.Edge (fun x => g.callable x = true) (fun x => x ∈ activeContainers) value)
        result := by
  induction fuel generalizing value valuePath activeContainers with
  | zero =>
    have hcard := Finset.card_le_univ activeContainers
    omega
  | succ fuel ih =>
    rw [validateSnapshotStructure]
    by_cases hcallable : g.callable value = true
    · rw [if_pos hcallable]
      exact ⟨_, rfl, .raised rfl ⟨value, .refl, Or.inl hcallable⟩⟩
    rw [if_neg hcallable]
    by_cases hleaf : (g.shape value).isContainer = false
    · rw [if_pos hleaf]
      refine ⟨_, rfl, .passed fun hblocked => ?_⟩
      have hinactive : value ∉ activeContainers := fun hmem => by
        rw [hactive value hmem] at hleaf
        cases hleaf
      rw [blocked_iff (by exact hcallable) hinactive] at hblocked
      obtain ⟨w, hw, -⟩ := hblocked
      exact not_edge_of_leaf hleaf hw
    rw [if_neg hleaf]
    by_cases hmem : value ∈ activeContainers
    · rw [if_pos hmem]
      exact ⟨_, rfl, .raised rfl ⟨value, .refl, Or.inr (Or.inl hmem)⟩⟩
    rw [if_neg hmem]
    have hcard := Finset.card_insert_of_notMem hmem
    have hinner : ∀ x ∈ insert value activeContainers, (g.shape x).isContainer = true := by
      intro x hx
      rcases Finset.mem_insert.mp hx with rfl | hx
      · exact eq_true_of_ne_false hleaf
      · exact hactive x hx
    obtain ⟨result, hloop, hverdict⟩ := forEach_verdict
      (f := fun item : V × Message => g.validateSnapshotStructure fuel item.1 item.2)
      (l := g.nested value valuePath) (s := insert value activeContainers)
      fun item _ => ih hinner (by omega)
    rw [hloop]
    simp only [if_pos (Finset.mem_insert_self value activeContainers),
      Finset.erase_insert hmem]
    refine ⟨result, rfl, hverdict.congr ?_⟩
    rw [exists_mem_nested (p := fun w => Blocked g.Edge _ _ w),
      blocked_iff (by exact hcallable) (by exact hmem)]
    simp only [Finset.mem_insert]

theorem validateSnapshotStructure_succ {fuel : Nat} {outcome : Except PyException Unit × Finset V}
    (h : g.validateSnapshotStructure fuel value valuePath activeContainers = some outcome) :
    g.validateSnapshotStructure (fuel + 1) value valuePath activeContainers = some outcome := by
  induction fuel generalizing value valuePath activeContainers outcome with
  | zero => cases h
  | succ fuel ih =>
    rw [validateSnapshotStructure] at h ⊢
    split at h
    · next hcallable => rw [if_pos hcallable, h]
    · next hcallable =>
      rw [if_neg hcallable]
      split at h
      · next hleaf => rw [if_pos hleaf, h]
      · next hleaf =>
        rw [if_neg hleaf]
        split at h
        · next hactive => rw [if_pos hactive, h]
        · next hactive =>
          rw [if_neg hactive]
          split at h
          · cases h
          · next hloop =>
            rw [forEach_mono (fun item _ active outcome heq => ih heq) hloop]
            exact h

/-- More depth than it takes to come to an end changes nothing. -/
theorem validateSnapshotStructure_mono {fuel more : Nat} (hle : fuel ≤ more)
    {outcome : Except PyException Unit × Finset V}
    (h : g.validateSnapshotStructure fuel value valuePath activeContainers = some outcome) :
    g.validateSnapshotStructure more value valuePath activeContainers = some outcome := by
  induction more, hle using Nat.le_induction with
  | base => exact h
  | succ more _ ih => exact validateSnapshotStructure_succ ih

variable [Fintype V]

/-- Something callable or a container on a cycle can be reached. -/
def Unserializable (g : ObjectGraph V) : V → Prop :=
  Reaches g.Edge fun x => g.callable x = true ∨ TransGen g.Edge x x

theorem exists_validateSnapshotStructure (g : ObjectGraph V) (value : V) (valuePath : Message) :
    ∃ result,
      g.validateSnapshotStructure (Fintype.card V + 1) value valuePath ∅ = some (result, ∅) ∧
      Verdict IsConfigurationError (g.Unserializable value) result := by
  have hactive : ∀ x ∈ (∅ : Finset V), (g.shape x).isContainer = true := by
    intro x hx
    exact absurd hx (Finset.notMem_empty x)
  have hfuel : Fintype.card V < Fintype.card V + 1 + (∅ : Finset V).card := by omega
  obtain ⟨result, hrun, hverdict⟩ := validateSnapshotStructure_verdict hactive hfuel
  refine ⟨result, hrun, hverdict.congr ?_⟩
  simp only [Blocked, Unserializable, Finset.notMem_empty, false_or]

/-- From a value with nothing active, the traversal ends.  It raises a configuration error
exactly if it can come to something callable or to a container on a cycle, however often
containers are shared, and every call leaves the active containers as it found them. -/
theorem validateSnapshotStructure_exact (g : ObjectGraph V) (value : V) (valuePath : Message) :
    (∃ result,
      (∀ fuel, Fintype.card V < fuel →
        g.validateSnapshotStructure fuel value valuePath ∅ = some (result, ∅)) ∧
      ((∃ e, result = .error e ∧ IsConfigurationError e) ↔
        ∃ x, ReflTransGen g.Edge value x ∧ (g.callable x = true ∨ TransGen g.Edge x x)) ∧
      ((¬ ∃ x, ReflTransGen g.Edge value x ∧ (g.callable x = true ∨ TransGen g.Edge x x)) →
        result = .ok ())) ∧
    ∀ fuel value valuePath activeContainers result after,
      g.validateSnapshotStructure fuel value valuePath activeContainers = some (result, after) →
        after = activeContainers := by
  refine ⟨?_, fun _ _ _ _ _ _ h => validateSnapshotStructure_restores h⟩
  obtain ⟨result, hrun, hverdict⟩ := exists_validateSnapshotStructure g value valuePath
  refine ⟨result, fun fuel hfuel => validateSnapshotStructure_mono hfuel hrun,
    hverdict.error_iff, ?_⟩
  intro hnot
  cases hverdict with
  | raised he hp => exact absurd hp hnot
  | passed _ => rfl

/-- A list that holds one list twice is no cycle. -/
example : ((⟨fun x : Fin 2 => if x = 0 then .sequence [1, 1] else .sequence [],
    fun _ => false, fun _ => str "list"⟩ : ObjectGraph (Fin 2)).validateSnapshotStructure
      3 0 [.text "options"] ∅).any (·.1.isOk) = true := by
  decide

/-! ## Snapshots -/

/-- `_validate_snapshot_structure` with no active containers, run to its end. -/
def checkSnapshotStructure (g : ObjectGraph V) (value : V) (valuePath : Message) :
    Except PyException Unit :=
  ((g.validateSnapshotStructure (Fintype.card V + 1) value valuePath ∅).get (by
    obtain ⟨result, hrun, -⟩ := exists_validateSnapshotStructure g value valuePath
    rw [hrun]
    rfl)).1

/-- Return an independent pickle-round-tripped value or a redacted configuration error. -/
def snapshotSerializable (g : ObjectGraph V) (pickle : g.Pickle) (value : V)
    (valuePath : Message) : Except PyException V :=
  match g.checkSnapshotStructure value valuePath >>= fun _ => pickle.roundTrip value with
  | .ok snapshot => .ok snapshot
  | .error e =>
    if e.kind? = some .configuration then .error e
    else .error (g.snapshotError value valuePath)

/-- Nothing else than a configuration error is raised. -/
theorem snapshotSerializable_error {pickle : g.Pickle} {e : PyException}
    (h : g.snapshotSerializable pickle value valuePath = .error e) : IsConfigurationError e := by
  unfold snapshotSerializable at h
  split at h
  · cases h
  · split at h
    · next hkind =>
      rw [← Except.error.inj h]
      exact hkind
    · rw [← Except.error.inj h]
      rfl

/-- The structure of a value is accepted exactly if nothing callable and no cycle is reached
from it. -/
theorem checkSnapshotStructure_eq_ok_iff :
    g.checkSnapshotStructure value valuePath = .ok () ↔ ¬ g.Unserializable value := by
  obtain ⟨result, hrun, hverdict⟩ := exists_validateSnapshotStructure g value valuePath
  simp only [checkSnapshotStructure, hrun, Option.get_some]
  cases hverdict with
  | raised _ hp => exact iff_of_false (fun h => by cases h) (not_not.mpr hp)
  | passed hnot => exact iff_of_true rfl hnot

/-- Snapshots are taken of exactly the values from which nothing callable and no cycle is
reached and that `pickle` copies. -/
theorem snapshotSerializable_eq_ok_iff {pickle : g.Pickle} {snapshot : V} :
    g.snapshotSerializable pickle value valuePath = .ok snapshot ↔
      ¬ g.Unserializable value ∧ pickle.roundTrip value = .ok snapshot := by
  have hstructure : g.checkSnapshotStructure value valuePath = .ok () ↔ ¬ g.Unserializable value :=
    checkSnapshotStructure_eq_ok_iff
  rw [← hstructure]
  unfold snapshotSerializable
  constructor
  · intro h
    split at h
    · next copy hcopy =>
      obtain ⟨_, hcheck, hpickle⟩ := bind_eq_ok.mp hcopy
      exact ⟨hcheck, hpickle.trans (congrArg _ (Except.ok.inj h))⟩
    · split at h <;> cases h
  · rintro ⟨hcheck, hpickle⟩
    rw [hcheck, show (Except.ok () >>= fun _ => pickle.roundTrip value) = pickle.roundTrip value
      from rfl, hpickle]

end ObjectGraph
end DaftOlap
