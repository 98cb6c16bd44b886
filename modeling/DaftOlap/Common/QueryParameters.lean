/-
Timezone-aware values in query parameters (`_common/contracts.py`).

`validate_query_parameter_values` follows the values of a mapping and not its keys, unlike
the traversal that takes snapshots.
-/
import DaftOlap.Common.Snapshots
import Mathlib.Data.Fintype.Prod
import Mathlib.Tactic.FinCases

namespace DaftOlap
namespace ObjectGraph

open Logic Python Relation

variable {V : Type} (g : ObjectGraph V)

/-! ## Values -/

/-- A `datetime` or `time` with a time zone. -/
def isAware (value : V) : Bool :=
  match g.shape value with
  | .leaf leaf => leaf.isTimezoneAware
  | _ => false

/-- What the traversal goes on to: the values of a mapping, the elements of a sequence. -/
def followed (value : V) : List V :=
  match g.shape value with
  | .mapping items => items.map Prod.snd
  | .sequence elements => elements
  | .leaf _ => []

def Follows (value nested : V) : Prop := nested ∈ g.followed value

variable {g}

theorem edge_of_follows {value nested : V} (h : g.Follows value nested) : g.Edge value nested := by
  unfold Follows followed at h
  unfold Edge elements
  cases hshape : g.shape value <;> rw [hshape] at h
  case mapping items =>
    obtain ⟨item, hitem, rfl⟩ := List.mem_map.mp h
    exact List.mem_flatMap.mpr ⟨item, hitem, List.mem_cons_of_mem _ (List.mem_singleton_self _)⟩
  case sequence elements => exact h
  case leaf leaf => exact h

/-- A timezone-aware value can be reached, through the containers of a relation. -/
def ReachesAware (g : ObjectGraph V) (r : V → V → Prop) : V → Prop :=
  Reaches r fun x => g.isAware x = true

variable {pickle : g.Pickle}

theorem exists_follows_copy {x x' y : V} (hsame : pickle.same x x') (h : g.Follows x y) :
    ∃ y', g.Follows x' y' ∧ pickle.same y y' := by
  unfold Follows followed at h ⊢
  cases hshape : g.shape x <;> rw [hshape] at h
  case mapping items =>
    obtain ⟨copies, hcopy, hitems⟩ := pickle.copies.mapping hsame hshape
    obtain ⟨item, hitem, rfl⟩ := List.mem_map.mp h
    obtain ⟨copied, hcopied, -, hvalue⟩ := exists_of_mem_right hitems.flip item hitem
    rw [hcopy]
    exact ⟨copied.2, List.mem_map_of_mem hcopied, hvalue⟩
  case sequence elements =>
    obtain ⟨copies, hcopy, reordered, hperm, helements⟩ := pickle.copies.sequence hsame hshape
    obtain ⟨copied, hcopied, hsame'⟩ := exists_of_mem_right helements.flip y h
    rw [hcopy]
    exact ⟨copied, hperm.mem_iff.mpr hcopied, hsame'⟩
  case leaf leaf => cases h

theorem isAware_copy {x x' : V} (hsame : pickle.same x x') (h : g.isAware x = true) :
    g.isAware x' = true := by
  unfold isAware at h ⊢
  cases hshape : g.shape x <;> rw [hshape] at h
  case mapping items => cases h
  case sequence elements => cases h
  case leaf leaf =>
    rw [pickle.copies.leaf hsame hshape]
    exact h

/-- A copy reaches a timezone-aware value if the original does. -/
theorem reachesAware_copy {v w : V} (hsame : pickle.same v w)
    (h : g.ReachesAware g.Follows v) : g.ReachesAware g.Follows w :=
  Reaches.simulate (fun _ _ _ => exists_follows_copy) (fun _ _ => isAware_copy) hsame h

/-- What a value leads to is checked on its snapshot. -/
theorem not_reachesAware_of_snapshots (pickle : g.Pickle) {values snapshots : List V}
    (h : ∀ w ∈ snapshots, ¬ g.ReachesAware g.Follows w) {v : V} (hv : v ∈ values)
    (hcopies : ∀ v ∈ values, ∃ w ∈ snapshots, pickle.same v w) : ¬ g.ReachesAware g.Follows v := by
  intro hreaches
  obtain ⟨w, hw, hsame⟩ := hcopies v hv
  exact h w hw (reachesAware_copy hsame hreaches)

/-! ## Traversal -/

variable (g) [DecidableEq V]

/-- The inner `validate`, with a bound on the depth. -/
def validateValue : Nat → V → Search PyException (Finset V)
  | 0, _, _ => none
  | fuel + 1, value, visited =>
    if g.isAware value then
      some (.error (configurationError
        "timezone-aware datetime and time query parameters are not supported"), visited)
    else
      match g.shape value with
      | .mapping items =>
        if value ∈ visited then some (.ok (), visited)
        else forEach (validateValue fuel) (items.map Prod.snd) (insert value visited)
      | .sequence elements =>
        if value ∈ visited then some (.ok (), visited)
        else forEach (validateValue fuel) elements (insert value visited)
      | .leaf _ => some (.ok (), visited)

/-- Reject timezone-aware temporal values anywhere in a query parameter container. -/
def validateQueryParameterValues (fuel : Nat) (values : List V) : Option (Except PyException Unit) :=
  (forEach (g.validateValue fuel) values ∅).map Prod.fst

variable {g} {value : V} {visited : Finset V}

/-- Both kinds of containers are treated alike. -/
theorem validateValue_container {fuel : Nat} (haware : ¬ g.isAware value = true)
    (hcontainer : (g.shape value).isContainer = true) :
    g.validateValue (fuel + 1) value visited =
      if value ∈ visited then some (.ok (), visited)
      else forEach (g.validateValue fuel) (g.followed value) (insert value visited) := by
  rw [validateValue, if_neg haware, followed]
  cases hshape : g.shape value with
  | mapping items => rfl
  | sequence elements => rfl
  | leaf leaf =>
    rw [hshape] at hcontainer
    cases hcontainer

theorem validateValue_leaf {fuel : Nat} (haware : ¬ g.isAware value = true)
    (hleaf : (g.shape value).isContainer = false) :
    g.validateValue (fuel + 1) value visited = some (.ok (), visited) := by
  rw [validateValue, if_neg haware]
  cases hshape : g.shape value with
  | mapping items =>
    rw [hshape] at hleaf
    cases hleaf
  | sequence elements =>
    rw [hshape] at hleaf
    cases hleaf
  | leaf leaf => rfl

/-- With as much depth left as there are objects that were not visited, the traversal ends,
and either raises for what it can come to or has settled the value. -/
theorem validateValue_explored [Fintype V] {fuel : Nat}
    (hfuel : Fintype.card V < fuel + visited.card) :
    ∃ result after, g.validateValue fuel value visited = some (result, after) ∧
      Explored g.Follows (fun x => g.isAware x = true) (fun x => (g.shape x).isContainer = true)
        IsConfigurationError [value] visited result after := by
  induction fuel generalizing value visited with
  | zero =>
    have hcard := Finset.card_le_univ visited
    omega
  | succ fuel ih =>
    by_cases haware : g.isAware value = true
    · rw [validateValue, if_pos haware]
      exact ⟨_, _, rfl, .raised rfl ⟨value, List.mem_singleton_self _, value, .refl, haware⟩⟩
    by_cases hcontainer : (g.shape value).isContainer = true
    · rw [validateValue_container haware hcontainer]
      by_cases hmem : value ∈ visited
      · rw [if_pos hmem]
        exact ⟨_, _, rfl, .settled haware fun _ => hmem⟩
      · rw [if_neg hmem]
        have hcard := Finset.card_insert_of_notMem hmem
        obtain ⟨result, after, hrun, hexplored⟩ := forEach_explored (l := g.followed value)
          fun w _ middle (hsub : insert value visited ⊆ middle) => by
            have hle := Finset.card_le_card hsub
            exact @ih w middle (by omega)
        exact ⟨result, after, hrun, hexplored.visit haware fun w => Iff.rfl⟩
    · have hleaf := eq_false_of_ne_true hcontainer
      rw [validateValue_leaf haware hleaf]
      exact ⟨_, _, rfl, .settled haware fun h => absurd h hcontainer⟩

theorem validateValue_succ {fuel : Nat} {outcome : Except PyException Unit × Finset V}
    (h : g.validateValue fuel value visited = some outcome) :
    g.validateValue (fuel + 1) value visited = some outcome := by
  induction fuel generalizing value visited outcome with
  | zero => cases h
  | succ fuel ih =>
    by_cases haware : g.isAware value = true
    · rw [validateValue, if_pos haware] at h ⊢
      exact h
    by_cases hcontainer : (g.shape value).isContainer = true
    · rw [validateValue_container haware hcontainer] at h ⊢
      by_cases hmem : value ∈ visited
      · rw [if_pos hmem] at h ⊢
        exact h
      · rw [if_neg hmem] at h ⊢
        exact forEach_mono (fun _ _ _ _ heq => ih heq) h
    · have hleaf := eq_false_of_ne_true hcontainer
      rw [validateValue_leaf haware hleaf] at h ⊢
      exact h

/-- More depth than it takes to come to an end changes nothing. -/
theorem validateQueryParameterValues_mono {fuel more : Nat} (hle : fuel ≤ more) {values : List V}
    {result : Except PyException Unit}
    (h : g.validateQueryParameterValues fuel values = some result) :
    g.validateQueryParameterValues more values = some result := by
  induction more, hle using Nat.le_induction with
  | base => exact h
  | succ more _ ih =>
    obtain ⟨outcome, hrun, houtcome⟩ := Option.map_eq_some_iff.mp ih
    exact Option.map_eq_some_iff.mpr
      ⟨outcome, forEach_mono (fun _ _ _ _ heq => validateValue_succ heq) hrun, houtcome⟩

variable [Fintype V]

theorem exists_validateQueryParameterValues (g : ObjectGraph V) (values : List V) :
    ∃ result, g.validateQueryParameterValues (Fintype.card V + 1) values = some result ∧
      Verdict IsConfigurationError (∃ v ∈ values, g.ReachesAware g.Follows v) result := by
  obtain ⟨result, after, hrun, hexplored⟩ := forEach_explored (l := values)
    fun w _ middle (_ : (∅ : Finset V) ⊆ middle) =>
      @validateValue_explored _ g _ w middle _ (Fintype.card V + 1) (by omega)
  refine ⟨result, Option.map_eq_some_iff.mpr ⟨_, hrun, rfl⟩, hexplored.verdict fun x y hxy => ?_⟩
  exact isContainer_of_edge (edge_of_follows hxy)

/-- `validate_query_parameter_values`, run to its end. -/
def checkQueryParameterValues (g : ObjectGraph V) (values : List V) : Except PyException Unit :=
  (g.validateQueryParameterValues (Fintype.card V + 1) values).get (by
    obtain ⟨result, hrun, -⟩ := exists_validateQueryParameterValues g values
    rw [hrun]
    rfl)

theorem checkQueryParameterValues_eq_ok_iff {g : ObjectGraph V} {values : List V} :
    g.checkQueryParameterValues values = .ok () ↔ ∀ v ∈ values, ¬ g.ReachesAware g.Follows v := by
  obtain ⟨result, hrun, hverdict⟩ := exists_validateQueryParameterValues g values
  simp only [checkQueryParameterValues, hrun, Option.get_some]
  cases hverdict with
  | passed hnot => exact iff_of_true rfl fun v hv hreaches => hnot ⟨v, hv, hreaches⟩
  | raised _ hreaches =>
    obtain ⟨v, hv, haware⟩ := hreaches
    exact iff_of_false (fun h => by cases h) fun hall => hall v hv haware

/-- On values that are no containers, the traversal is the check of one value after
another. -/
theorem checkQueryParameterValues_leaves {g : ObjectGraph V} {values : List V} {leaf : V → PyValue}
    (h : ∀ v ∈ values, g.shape v = .leaf (leaf v)) :
    g.checkQueryParameterValues values = values.forM fun v => checkNaive (leaf v) := by
  have hrun : ∀ fuel, forEach (g.validateValue (fuel + 1)) values ∅ =
      some (values.forM fun v => checkNaive (leaf v), ∅) := by
    intro fuel
    induction values with
    | nil => rfl
    | cons v values ih =>
      have hv := h v List.mem_cons_self
      have haware : g.isAware v = (leaf v).isTimezoneAware := by rw [isAware, hv]
      have hcons : (v :: values).forM (fun v => checkNaive (leaf v)) =
          (checkNaive (leaf v) >>= fun _ => values.forM fun v => checkNaive (leaf v)) := rfl
      rw [forEach, validateValue, hcons, checkNaive, haware, hv]
      by_cases hzone : (leaf v).isTimezoneAware = true
      · rw [if_pos hzone, if_pos hzone]
        rfl
      · rw [if_neg hzone, if_neg hzone]
        exact ih fun w hw => h w (List.mem_cons_of_mem _ hw)
  simp only [checkQueryParameterValues, validateQueryParameterValues, hrun, Option.map_some,
    Option.get_some]

/-! ## Parameters -/

/-- A key that is a non-empty string. -/
def keyName? (g : ObjectGraph V) (key : V) : Option Text :=
  match g.shape key with
  | .leaf (.str name) => if name = [] then none else some name
  | _ => none

/-- The item of a mapping has this text as its key, and a value from which nothing callable
and no cycle is reached, and what is kept is its copy. -/
structure Frozen (g : ObjectGraph V) (pickle : g.Pickle) (item : V × V) (entry : Text × V) :
    Prop where
  key : g.keyName? item.1 = some entry.1
  serializable : ¬ g.Unserializable item.2
  copied : pickle.roundTrip item.2 = .ok entry.2

/-- Parameters as they are kept, in the caller's order: copies that lead to no timezone-aware
value, as far as the values of mappings are followed. -/
def Kept (g : ObjectGraph V) (pickle : g.Pickle) :
    Option (Except PyException (List (V × V))) → List (Text × V) → Prop
  | none, frozen => frozen = []
  | some (.error _), _ => False
  | some (.ok items), frozen => List.Forall₂ (Frozen g pickle) items frozen ∧
      ∀ entry ∈ frozen, ¬ g.ReachesAware g.Follows entry.2

/-- An item of the mapping with its key as a text. -/
def namedParameter (g : ObjectGraph V) (item : V × V) : Except PyException (Text × V) :=
  match g.keyName? item.1 with
  | some name => .ok (name, item.2)
  | none => .error (configurationError "query parameter names must be non-empty strings")

/-- What `freeze_query_parameters` makes of one parameter. -/
def freezeParameter (g : ObjectGraph V) (pickle : g.Pickle) (parameter : Text × V) :
    Except PyException (Text × V) := do
  let snapshot ← g.snapshotSerializable pickle parameter.2
    [.text "query_parameters[", .repr parameter.1, .text "]"]
  return (parameter.1, snapshot)

/-- Snapshot named query parameters while preserving caller-specified order; `parameters`
is what `parameters.items()` comes to, if there are parameters. -/
def freezeQueryParameters (g : ObjectGraph V) (pickle : g.Pickle)
    (parameters : Option (Except PyException (List (V × V)))) :
    Except PyException (List (Text × V)) :=
  match parameters with
  | none => .ok []
  | some (.error _) =>
    .error (configurationError "query_parameters must be a readable mapping")
  | some (.ok items) => do
    let named ← items.mapM g.namedParameter
    let frozen ← named.mapM (g.freezeParameter pickle)
    g.checkQueryParameterValues (frozen.map Prod.snd)
    return frozen

/-- `QuerySpec(...)` on the parameters of a query, which takes snapshots of them. -/
def querySpec (g : ObjectGraph V) (pickle : g.Pickle) (sql : Text) (positional : List V)
    (named : List (Text × V)) : Except PyException (List V × List (Text × V)) :=
  if sql = [] then .error (configurationError "query SQL must not be empty")
  else if positional ≠ [] ∧ named ≠ [] then
    .error (configurationError "a query cannot mix positional and named parameters")
  else do
    let positionalParameters ← positional.zipIdx.mapM fun value =>
      g.snapshotSerializable pickle value.1 (indexPath [.text "positional_parameters"] value.2)
    let namedParameters ← named.zipIdx.mapM fun item => do
      let snapshot ← g.snapshotSerializable pickle item.1.2
        (indexPath [.text "named_parameters"] item.2)
      return (item.1.1, snapshot)
    g.checkQueryParameterValues positionalParameters
    g.checkQueryParameterValues (namedParameters.map Prod.snd)
    return (positionalParameters, namedParameters)

variable {g : ObjectGraph V} {pickle : g.Pickle}

theorem freezeParameter_eq_ok_iff {item : V × V} {entry : Text × V} :
    (∃ named, g.namedParameter item = .ok named ∧ g.freezeParameter pickle named = .ok entry) ↔
      Frozen g pickle item entry := by
  constructor
  · rintro ⟨named, hnamed, hentry⟩
    obtain ⟨snapshot, hsnapshot, hreturn⟩ := bind_eq_ok.mp hentry
    obtain ⟨hserializable, hcopied⟩ := snapshotSerializable_eq_ok_iff.mp hsnapshot
    obtain rfl := Except.ok.inj hreturn
    unfold namedParameter at hnamed
    split at hnamed
    · next name hkey =>
      obtain rfl := Except.ok.inj hnamed
      exact ⟨hkey, hserializable, hcopied⟩
    · cases hnamed
  · rintro ⟨hkey, hserializable, hcopied⟩
    refine ⟨(entry.1, item.2), ?_, bind_eq_ok.mpr ⟨entry.2,
      snapshotSerializable_eq_ok_iff.mpr ⟨hserializable, hcopied⟩, rfl⟩⟩
    rw [namedParameter, hkey]

/-- Parameters are kept exactly if they are a mapping that can be read, of non-empty texts to
values that can be copied. -/
theorem freezeQueryParameters_eq_ok_iff {given : Option (Except PyException (List (V × V)))}
    {frozen : List (Text × V)} :
    g.freezeQueryParameters pickle given = .ok frozen ↔ Kept g pickle given frozen := by
  match given with
  | none =>
    rw [freezeQueryParameters, Except.ok.injEq, Kept, eq_comm]
  | some (.error e) => exact iff_of_false (fun h => by cases h) id
  | some (.ok items) =>
    have hall : List.Forall₂ (Frozen g pickle) items frozen ↔ ∃ named,
        items.mapM g.namedParameter = .ok named ∧
          named.mapM (g.freezeParameter pickle) = .ok frozen := by
      simp only [mapM_mapM_eq_ok, freezeParameter_eq_ok_iff]
    rw [Kept, hall]
    constructor
    · intro h
      obtain ⟨named, hnamed, h⟩ := bind_eq_ok.mp h
      obtain ⟨taken, htaken, h⟩ := bind_eq_ok.mp h
      obtain ⟨_, hcheck, h⟩ := bind_eq_ok.mp h
      obtain rfl := Except.ok.inj h
      exact ⟨⟨named, hnamed, htaken⟩, fun entry hentry =>
        checkQueryParameterValues_eq_ok_iff.mp hcheck entry.2 (List.mem_map_of_mem hentry)⟩
    · rintro ⟨⟨named, hnamed, htaken⟩, haware⟩
      refine bind_eq_ok.mpr ⟨named, hnamed, bind_eq_ok.mpr ⟨frozen, htaken,
        bind_eq_ok.mpr ⟨(), checkQueryParameterValues_eq_ok_iff.mpr fun v hv => ?_, rfl⟩⟩⟩
      obtain ⟨entry, hentry, rfl⟩ := List.mem_map.mp hv
      exact haware entry hentry

theorem freezeQueryParameters_accepts {items : List (V × V)} {frozen : List (Text × V)}
    (h : g.freezeQueryParameters pickle (some (.ok items)) = .ok frozen) {v : V}
    (hv : v ∈ items.map Prod.snd) : ¬ g.ReachesAware g.Follows v := by
  obtain ⟨hfrozen, haware⟩ := freezeQueryParameters_eq_ok_iff.mp h
  have hsnapshots : ∀ w ∈ frozen.map Prod.snd, ¬ g.ReachesAware g.Follows w := by
    intro w hw
    obtain ⟨entry, hentry, rfl⟩ := List.mem_map.mp hw
    exact haware entry hentry
  refine not_reachesAware_of_snapshots pickle hsnapshots hv fun v hv => ?_
  obtain ⟨item, hitem, rfl⟩ := List.mem_map.mp hv
  obtain ⟨entry, hentry, hcopy⟩ := exists_of_mem_right hfrozen.flip item hitem
  exact ⟨entry.2, List.mem_map_of_mem hentry, pickle.same_roundTrip hcopy.copied⟩

theorem querySpec_accepts {sql : Text} {positional : List V} {named : List (Text × V)}
    {spec : List V × List (Text × V)}
    (h : g.querySpec pickle sql positional named = .ok spec) {v : V}
    (hv : v ∈ positional ++ named.map Prod.snd) : ¬ g.ReachesAware g.Follows v := by
  unfold querySpec at h
  split at h
  · cases h
  split at h
  · cases h
  obtain ⟨positionals, hpositional, h⟩ := bind_eq_ok.mp h
  obtain ⟨nameds, hnamed, h⟩ := bind_eq_ok.mp h
  obtain ⟨_, hcheckPositional, h⟩ := bind_eq_ok.mp h
  obtain ⟨_, hcheckNamed, -⟩ := bind_eq_ok.mp h
  rcases List.mem_append.mp hv with hv | hv
  · refine not_reachesAware_of_snapshots pickle
      (checkQueryParameterValues_eq_ok_iff.mp hcheckPositional) hv fun v hv => ?_
    rw [← List.zipIdx_map_fst 0 positional] at hv
    obtain ⟨entry, hentry, rfl⟩ := List.mem_map.mp hv
    obtain ⟨snapshot, hmem, hsnapshot⟩ :=
      exists_of_mem_right (mapM_eq_ok.mp hpositional).flip entry hentry
    exact ⟨snapshot, hmem,
      pickle.same_roundTrip (snapshotSerializable_eq_ok_iff.mp hsnapshot).2⟩
  · refine not_reachesAware_of_snapshots pickle
      (checkQueryParameterValues_eq_ok_iff.mp hcheckNamed) hv fun v hv => ?_
    rw [← List.zipIdx_map_fst 0 named, List.map_map] at hv
    obtain ⟨entry, hentry, rfl⟩ := List.mem_map.mp hv
    obtain ⟨result, hmem, hbind⟩ :=
      exists_of_mem_right (mapM_eq_ok.mp hnamed).flip entry hentry
    obtain ⟨snapshot, hsnapshot, hreturn⟩ := bind_eq_ok.mp hbind
    obtain rfl := Except.ok.inj hreturn
    exact ⟨snapshot, List.mem_map_of_mem hmem,
      pickle.same_roundTrip (snapshotSerializable_eq_ok_iff.mp hsnapshot).2⟩

/-- No timezone-aware value hides in the values: the check ends and raises exactly if one
can be reached, and no parameters with one are accepted. -/
structure Guards (g : ObjectGraph V) (pickle : g.Pickle) (values : List V) : Prop where
  raises : ∃ result,
    (∀ fuel, Fintype.card V < fuel → g.validateQueryParameterValues fuel values = some result) ∧
    ((∃ e, result = .error e ∧ IsConfigurationError e) ↔ ∃ v ∈ values, g.ReachesAware g.Edge v)
  freeze : ∀ items frozen, items.map Prod.snd = values →
    g.freezeQueryParameters pickle (some (.ok items)) = .ok frozen →
      ∀ v ∈ values, ¬ g.ReachesAware g.Edge v
  query : ∀ sql positional named spec, positional ++ named.map Prod.snd = values →
    g.querySpec pickle sql positional named = .ok spec → ∀ v ∈ values, ¬ g.ReachesAware g.Edge v

/-- No value hides exactly if, as soon as one can be reached at all, one can be reached
without going through the key of a mapping. -/
theorem guards_iff (g : ObjectGraph V) (pickle : g.Pickle) (values : List V) :
    Guards g pickle values ↔
      ((∃ v ∈ values, g.ReachesAware g.Edge v) → ∃ v ∈ values, g.ReachesAware g.Follows v) := by
  obtain ⟨result, hrun, hverdict⟩ := exists_validateQueryParameterValues g values
  have hall : ∀ fuel, Fintype.card V < fuel →
      g.validateQueryParameterValues fuel values = some result :=
    fun fuel hfuel => validateQueryParameterValues_mono hfuel hrun
  constructor
  · intro hguards hreaches
    obtain ⟨result', hall', hiff⟩ := hguards.raises
    obtain rfl := Option.some.inj ((hall _ (Nat.lt_succ_self _)).symm.trans (hall' _ (by omega)))
    exact hverdict.error_iff.mp (hiff.mpr hreaches)
  · intro hfollowed
    have hiff : (∃ v ∈ values, g.ReachesAware g.Follows v) ↔
        ∃ v ∈ values, g.ReachesAware g.Edge v := by
      refine ⟨fun h => ?_, hfollowed⟩
      obtain ⟨v, hv, hreaches⟩ := h
      exact ⟨v, hv, Reaches.mono (fun _ _ => edge_of_follows) hreaches⟩
    have haccepts : (∀ v ∈ values, ¬ g.ReachesAware g.Follows v) →
        ∀ v ∈ values, ¬ g.ReachesAware g.Edge v := by
      intro hnone v hv hreaches
      obtain ⟨w, hw, hw'⟩ := hiff.mpr ⟨v, hv, hreaches⟩
      exact hnone w hw hw'
    refine ⟨⟨result, hall, hverdict.error_iff.trans hiff⟩, ?_, ?_⟩
    · intro items frozen hitems hfreeze
      exact haccepts fun v hv => freezeQueryParameters_accepts hfreeze (hitems ▸ hv)
    · intro sql positional named spec hvalues hspec
      exact haccepts fun v hv => querySpec_accepts hspec (hvalues ▸ hv)

/-- `{datetime(2026, 1, 1, tzinfo=UTC): 1}`, its key, its value, and a copy of each. -/
def keyedGraph : ObjectGraph (Fin 3 × Bool) where
  shape
    | (0, copied) => .mapping [((1, copied), (2, copied))]
    | (1, _) => .leaf (.datetime ⟨2026, 1, 1⟩ ⟨0, 0, 0, 0, some 0⟩)
    | (2, _) => .leaf (.int 1)
  callable _ := false
  typeName
    | (0, _) => str "dict"
    | (1, _) => str "datetime"
    | (2, _) => str "int"

def keyedPickle : keyedGraph.Pickle where
  roundTrip value := .ok (value.1, true)
  same value copy := copy = (value.1, true)
  copies := by
    refine ⟨?_, ?_, ?_⟩
    · rintro ⟨index, copied⟩ _ items rfl hitems
      fin_cases index
      · refine ⟨_, rfl, ?_⟩
        rw [← Shape.mapping.inj hitems]
        exact .cons ⟨rfl, rfl⟩ .nil
      · cases hitems
      · cases hitems
    · rintro ⟨index, copied⟩ _ elements rfl helements
      fin_cases index <;> cases helements
    · rintro ⟨index, copied⟩ _ leaf rfl hleaf
      fin_cases index
      · cases hleaf
      · exact hleaf
      · exact hleaf
  same_roundTrip h := (Except.ok.inj h).symm

/-- A timezone-aware key passes. -/
theorem not_guards_keyedGraph : ¬ Guards keyedGraph keyedPickle [(0, false)] := by
  intro hguards
  obtain ⟨result, hall, hiff⟩ := hguards.raises
  have hrun : keyedGraph.validateQueryParameterValues 7 [(0, false)] = some (.ok ()) := rfl
  obtain rfl := Option.some.inj (hrun.symm.trans (hall 7 (by decide)))
  have hkey : keyedGraph.Edge (0, false) (1, false) := List.mem_cons_self
  obtain ⟨e, he, -⟩ := hiff.mpr ⟨_, List.mem_singleton_self _, (1, false), .single hkey, rfl⟩
  cases he

end ObjectGraph
end DaftOlap
