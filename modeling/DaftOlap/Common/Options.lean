/-
Options and secrets (`_common/contracts.py`, `_common/redaction.py`).

Options are frozen when a connection is configured and thawed for every invocation of a
driver; what the connector manages itself must not be among them.
-/
import DaftOlap.Common.QueryParameters
import DaftOlap.Python.Dict

namespace DaftOlap

open Python

/-! ## Secrets -/

/-- A serializable reference resolved separately on the driver and each worker. -/
structure SecretRef where
  environmentVariable : Text
  valid : Text.parameterName? environmentVariable = some environmentVariable

/-- `SecretRef(environment_variable)`. -/
def secretRef (environmentVariable : Text) : Except PyException SecretRef :=
  if h : Text.parameterName? environmentVariable = some environmentVariable then
    .ok ⟨environmentVariable, h⟩
  else .error (configurationError "secret environment variable has an invalid name")

inductive Secret
  | text (value : Text)
  | reference (ref : SecretRef)

/-- An object that is given as a password. -/
inductive PasswordArgument
  | value (value : PyValue)
  | reference (ref : SecretRef)

/-- Reject non-serializable secret inputs. -/
def validateSecret : PasswordArgument → Except PyException Secret
  | .value (.str t) => .ok (.text t)
  | .reference ref => .ok (.reference ref)
  | .value _ => .error (configurationError "password must be a string or SecretRef")

/-- What `SecretRef.resolve` makes of its variable, which may be unset. -/
def SecretRef.resolve (ref : SecretRef) : Option Text → Except PyException Text
  | some value => .ok value
  | none => .error (configurationError [.text "required secret environment variable ",
      .repr ref.environmentVariable, .text " is not set"])

/-! ## Settings -/

def maxPort : Nat := 65535

/-- A check that a value is a non-empty string. -/
def checkText (message : String) : PyValue → Except PyException { t : Text // t ≠ [] }
  | .str t => if h : t ≠ [] then .ok ⟨t, h⟩ else .error (configurationError message)
  | _ => .error (configurationError message)

/-- A check that a value is a `bool`. -/
def checkBool (message : String) : PyValue → Except PyException Bool
  | .bool b => .ok b
  | _ => .error (configurationError message)

theorem checkText_eq_ok_iff {message : String} {value : PyValue} {t : { t : Text // t ≠ [] }} :
    checkText message value = .ok t ↔ value = .str t.val := by
  obtain ⟨t, ht⟩ := t
  cases value with
  | str s =>
    rw [checkText, PyValue.str.injEq]
    by_cases hs : s ≠ []
    · rw [dif_pos hs, Except.ok.injEq, Subtype.mk.injEq]
    · rw [dif_neg hs]
      refine iff_of_false (fun h => by cases h) fun h => hs ?_
      rw [h]
      exact ht
  | none | bool | int | float | decimal | bytes | date | datetime | time | uuid | other =>
    exact iff_of_false (fun h => by cases h) fun h => by cases h

theorem checkBool_eq_ok_iff {message : String} {value : PyValue} {b : Bool} :
    checkBool message value = .ok b ↔ value = .bool b := by
  cases value with
  | bool c => rw [checkBool, Except.ok.injEq, PyValue.bool.injEq]
  | none | str | int | float | decimal | bytes | date | datetime | time | uuid | other =>
    exact iff_of_false (fun h => by cases h) fun h => by cases h

theorem checkBound_eq_ok_iff {message : String} {upper : Nat} {value : PyValue}
    {n : { n : Nat // 1 ≤ n ∧ n ≤ upper }} :
    checkBound message upper value = .ok n ↔ value = .int n.val := by
  obtain ⟨n, hn⟩ := n
  cases value with
  | int z =>
    rw [checkBound, PyValue.int.injEq]
    by_cases hz : 1 ≤ z.toNat ∧ z.toNat ≤ upper
    · rw [dif_pos hz, Except.ok.injEq, Subtype.mk.injEq]
      show z.toNat = n ↔ z = (n : Int)
      omega
    · rw [dif_neg hz]
      refine iff_of_false (fun h => by cases h) fun h => hz ?_
      rw [h, Int.toNat_natCast]
      exact hn
  | none | str | bool | float | decimal | bytes | date | datetime | time | uuid | other =>
    exact iff_of_false (fun h => by cases h) fun h => by cases h

/-- The object a secret was given as. -/
def Secret.argument : Secret → PasswordArgument
  | text t => .value (.str t)
  | reference ref => .reference ref

theorem validateSecret_eq_ok_iff {argument : PasswordArgument} {secret : Secret} :
    validateSecret argument = .ok secret ↔ argument = secret.argument := by
  cases argument with
  | reference ref =>
    cases secret with
    | text t => exact iff_of_false (fun h => by cases h) fun h => by cases h
    | reference ref' =>
      rw [validateSecret, Except.ok.injEq, Secret.argument, Secret.reference.injEq,
        PasswordArgument.reference.injEq]
  | value value =>
    cases value with
    | str t =>
      cases secret with
      | text t' =>
        rw [validateSecret, Except.ok.injEq, Secret.argument, Secret.text.injEq,
          PasswordArgument.value.injEq, PyValue.str.injEq]
      | reference ref => exact iff_of_false (fun h => by cases h) fun h => by cases h
    | none | bool | int | float | decimal | bytes | date | datetime | time | uuid | other =>
      refine iff_of_false (fun h => by cases h) fun h => ?_
      cases secret <;> cases h

/-! ## Options -/

variable {V : Type}

/-- Frozen options, none of which the connector manages, in the order of their keys. -/
structure Options (V : Type) (reserved : List Text) where
  items : List (Text × V)
  sorted : items.Pairwise fun a b => Text.ble a.1 b.1 = true
  unreserved : ∀ item ∈ items, item.1 ≠ [] ∧ item.1 ∉ reserved

/-- No options. -/
def Options.empty {reserved : List Text} : Options V reserved :=
  ⟨[], .nil, fun _ hitem => absurd hitem List.not_mem_nil⟩

/-- `key=lambda item: item[0]`. -/
def keyLe (a b : Text × V) : Bool := Text.ble a.1 b.1

theorem pairwise_mergeSort_keyLe (items : List (Text × V)) :
    (items.mergeSort keyLe).Pairwise fun a b => Text.ble a.1 b.1 = true := by
  refine List.pairwise_mergeSort ?_ ?_ items
  · exact fun a b c hab hbc => Text.ble_trans hab hbc
  · intro a b
    rcases Text.ble_total a.1 b.1 with h | h
    · simp [h]
    · simp [h]

namespace ObjectGraph

variable [Fintype V] [DecidableEq V]

/-- The path of an option in messages. -/
def optionPath (optionName : String) (key : Text) : Message :=
  [.text optionName, .text "[", .repr key, .text "]"]

/-- What `freeze_options` makes of one item of the mapping. -/
def freezeOption (g : ObjectGraph V) (pickle : g.Pickle) (reserved : List Text)
    (optionName : String) (item : V × V) : Except PyException { entry : Text × V //
      entry.1 ≠ [] ∧ entry.1 ∉ reserved } :=
  match g.keyName? item.1 with
  | none =>
    .error (configurationError [.text optionName, .text " keys must be non-empty strings"])
  | some key =>
    if h : key ≠ [] ∧ key ∉ reserved then do
      let snapshot ← g.snapshotSerializable pickle item.2 (optionPath optionName key)
      return ⟨(key, snapshot), h⟩
    else .error (configurationError
      [.text optionName, .text " must not override managed option ", .repr key])

/-- Snapshot a mapping into a deterministic tuple and protect managed keys; `options` is what
`options.items()` comes to, if there are options. -/
def freezeOptions (g : ObjectGraph V) (pickle : g.Pickle) (reserved : List Text)
    (optionName : String) (options : Option (Except PyException (List (V × V)))) :
    Except PyException (Options V reserved) :=
  match options with
  | none => .ok ⟨[], .nil, by simp⟩
  | some (.error _) =>
    .error (configurationError [.text optionName, .text " must be a readable mapping"])
  | some (.ok items) => do
    let frozen ← items.mapM (g.freezeOption pickle reserved optionName)
    return {
      items := (frozen.map Subtype.val).mergeSort keyLe
      sorted := pairwise_mergeSort_keyLe _
      unreserved := by
        intro item hitem
        rw [(List.mergeSort_perm _ _).mem_iff] at hitem
        obtain ⟨entry, -, rfl⟩ := List.mem_map.mp hitem
        exact entry.2 }

/-- Return fresh nested option values for one driver invocation. -/
def thawOptions (g : ObjectGraph V) (pickle : g.Pickle) (optionName : String)
    {reserved : List Text} (options : Options V reserved) : Except PyException (Dict Text V) := do
  let thawed ← options.items.mapM fun item => do
    let snapshot ← g.snapshotSerializable pickle item.2 (optionPath optionName item.1)
    return (item.1, snapshot)
  return Dict.ofItems thawed

/-! ## What is frozen -/

section Freeze

variable {g : ObjectGraph V} {pickle : g.Pickle} {reserved : List Text} {optionName : String}

theorem freezeOption_eq_ok_iff {item : V × V}
    {entry : { entry : Text × V // entry.1 ≠ [] ∧ entry.1 ∉ reserved }} :
    g.freezeOption pickle reserved optionName item = .ok entry ↔
      Frozen g pickle item entry.val := by
  unfold freezeOption
  constructor
  · intro h
    split at h
    · cases h
    · next key hkey =>
      split at h
      · obtain ⟨snapshot, hsnapshot, hentry⟩ := bind_eq_ok.mp h
        rw [← Except.ok.inj hentry]
        obtain ⟨hserializable, hcopied⟩ := snapshotSerializable_eq_ok_iff.mp hsnapshot
        exact ⟨hkey, hserializable, hcopied⟩
      · cases h
  · intro h
    rw [h.key]
    simp only
    rw [dif_pos entry.property,
      snapshotSerializable_eq_ok_iff.mpr ⟨h.serializable, h.copied⟩]
    rfl

/-- Options are frozen exactly if every key is a text that the connector does not manage, and
every value can be copied and reaches nothing callable and no cycle. -/
theorem freezeOptions_isOk_iff (items : List (V × V)) :
    (∃ options, g.freezeOptions pickle reserved optionName (some (.ok items)) = .ok options) ↔
      ∀ item ∈ items, ∃ entry : Text × V, (entry.1 ≠ [] ∧ entry.1 ∉ reserved) ∧
        Frozen g pickle item entry := by
  constructor
  · rintro ⟨options, h⟩ item hitem
    obtain ⟨frozen, hfrozen, -⟩ := bind_eq_ok.mp h
    obtain ⟨entry, hentry⟩ := exists_of_mapM_eq_ok hfrozen item hitem
    exact ⟨entry.val, entry.property, freezeOption_eq_ok_iff.mp hentry⟩
  · intro h
    obtain ⟨frozen, hfrozen⟩ := exists_mapM_eq_ok
      (f := g.freezeOption pickle reserved optionName) (l := items) fun item hitem => by
        obtain ⟨entry, hvalid, hentry⟩ := h item hitem
        exact ⟨⟨entry, hvalid⟩, freezeOption_eq_ok_iff.mpr hentry⟩
    exact ⟨_, bind_eq_ok.mpr ⟨frozen, hfrozen, rfl⟩⟩

/-- Options that can be frozen: none, or a mapping that can be read, of texts that the connector
does not manage to values that can be copied and reach nothing callable and no cycle. -/
def Freezable (g : ObjectGraph V) (pickle : g.Pickle) (reserved : List Text) :
    Option (Except PyException (List (V × V))) → Prop
  | none => True
  | some (.error _) => False
  | some (.ok items) => ∀ item ∈ items, ∃ entry : Text × V, (entry.1 ≠ [] ∧ entry.1 ∉ reserved) ∧
      Frozen g pickle item entry

theorem freezable_iff {given : Option (Except PyException (List (V × V)))} :
    (∃ options, g.freezeOptions pickle reserved optionName given = .ok options) ↔
      Freezable g pickle reserved given := by
  match given with
  | none => exact iff_of_true ⟨_, rfl⟩ trivial
  | some (.error e) => exact iff_of_false (fun ⟨_, h⟩ => by cases h) id
  | some (.ok items) => exact freezeOptions_isOk_iff items

/-- Frozen options are the items of the mapping in the order of their keys. -/
theorem freezeOptions_items {items : List (V × V)} {options : Options V reserved}
    (h : g.freezeOptions pickle reserved optionName (some (.ok items)) = .ok options) :
    ∃ frozen, List.Forall₂ (Frozen g pickle) items frozen ∧
      options.items = frozen.mergeSort keyLe := by
  obtain ⟨frozen, hfrozen, h⟩ := bind_eq_ok.mp h
  refine ⟨frozen.map Subtype.val, ?_, ?_⟩
  · rw [List.forall₂_map_right_iff]
    exact (mapM_eq_ok.mp hfrozen).imp fun item entry => freezeOption_eq_ok_iff.mp
  · rw [← Except.ok.inj h]

/-! ## What a driver is given -/

/-- An option as the caller gave it and as a driver gets it: a copy of a copy. -/
def Passed (pickle : g.Pickle) (original passed : V) : Prop :=
  ∃ snapshot, pickle.same original snapshot ∧ pickle.same snapshot passed

/-- A driver gets exactly the keys of the caller, each with a value given under it. -/
structure Thawed (g : ObjectGraph V) (pickle : g.Pickle) (items : List (V × V))
    (options : Dict Text V) : Prop where
  nodup : (Dict.keys options).Nodup
  keys : ∀ key, key ∈ Dict.keys options ↔ ∃ item ∈ items, g.keyName? item.1 = some key
  values : ∀ key passed, options.lookup key = some passed →
    ∃ item ∈ items, g.keyName? item.1 = some key ∧ Passed pickle item.2 passed

theorem thawOptions_eq_ok {options : Options V reserved} {thawed : Dict Text V}
    (h : g.thawOptions pickle optionName options = .ok thawed) :
    ∃ copies : List (Text × V), thawed = Dict.ofItems copies ∧
      List.Forall₂ (fun item copied => item.1 = copied.1 ∧ pickle.same item.2 copied.2)
        options.items copies := by
  obtain ⟨copies, hcopies, h⟩ := bind_eq_ok.mp h
  refine ⟨copies, (Except.ok.inj h).symm, (mapM_eq_ok.mp hcopies).imp fun item copied hcopied => ?_⟩
  obtain ⟨snapshot, hsnapshot, hpair⟩ := bind_eq_ok.mp hcopied
  rw [← Except.ok.inj hpair]
  exact ⟨rfl, pickle.same_roundTrip (snapshotSerializable_eq_ok_iff.mp hsnapshot).2⟩

/-- What is frozen by the configuration and thawed for a driver is what the caller gave. -/
theorem thawed_of_freezeOptions {items : List (V × V)} {options : Options V reserved}
    {thawed : Dict Text V}
    (hfreeze : g.freezeOptions pickle reserved optionName (some (.ok items)) = .ok options)
    (hthaw : g.thawOptions pickle optionName options = .ok thawed) :
    Thawed g pickle items thawed := by
  obtain ⟨frozen, hfrozen, hitems⟩ := freezeOptions_items hfreeze
  obtain ⟨copies, rfl, hcopies⟩ := thawOptions_eq_ok hthaw
  have hmem : ∀ entry, entry ∈ options.items ↔ entry ∈ frozen := by
    intro entry
    rw [hitems, (List.mergeSort_perm frozen keyLe).mem_iff]
  have hvalues : ∀ key passed, (key, passed) ∈ copies →
      ∃ item ∈ items, g.keyName? item.1 = some key ∧ Passed pickle item.2 passed := by
    intro key passed hpassed
    obtain ⟨entry, hentry, hkey, hsame⟩ := exists_of_mem_right hcopies _ hpassed
    obtain ⟨item, hitem, hfrozen⟩ := exists_of_mem_right hfrozen entry ((hmem entry).mp hentry)
    have hname : g.keyName? item.1 = some key := by
      rw [hfrozen.key]
      exact congrArg some hkey
    exact ⟨item, hitem, hname, entry.2, pickle.same_roundTrip hfrozen.copied, hsame⟩
  refine ⟨Dict.nodup_keys_ofItems, fun key => ?_, fun key passed hlookup => ?_⟩
  · rw [Dict.mem_keys_ofItems]
    constructor
    · intro hkey
      obtain ⟨copied, hcopied, rfl⟩ := List.mem_map.mp hkey
      obtain ⟨item, hitem, hname, -⟩ := hvalues copied.1 copied.2 hcopied
      exact ⟨item, hitem, hname⟩
    · rintro ⟨item, hitem, hname⟩
      obtain ⟨entry, hentry, hfrozen⟩ := exists_of_mem_right hfrozen.flip item hitem
      have hkey : entry.1 = key := Option.some.inj (hfrozen.key.symm.trans hname)
      obtain ⟨copied, hcopied, hsame⟩ :=
        exists_of_mem_right hcopies.flip entry ((hmem entry).mpr hentry)
      rw [← hkey, hsame.1]
      exact List.mem_map_of_mem hcopied
  · rw [Dict.lookup_ofItems] at hlookup
    obtain ⟨before, after, hsplit, -⟩ := List.lookup_eq_some_iff.mp hlookup
    refine hvalues key passed ?_
    rw [← List.mem_reverse, hsplit]
    exact List.mem_append_right _ List.mem_cons_self

/-- The items of options, if there are options that can be read. -/
def givenItems : Option (Except PyException (List (V × V))) → List (V × V)
  | some (.ok items) => items
  | _ => []

/-- Frozen options are snapshots of the items, in another order. -/
theorem entries_of_freezeOptions {given : Option (Except PyException (List (V × V)))}
    {options : Options V reserved}
    (h : g.freezeOptions pickle reserved optionName given = .ok options) :
    ∃ entries : List (Text × V), List.Forall₂ (Frozen g pickle) (givenItems given) entries ∧
      entries.Perm options.items := by
  match given with
  | none =>
    rw [← Except.ok.inj h]
    exact ⟨[], .nil, .nil⟩
  | some (.error e) => cases h
  | some (.ok items) =>
    obtain ⟨entries, hentries, hsorted⟩ := freezeOptions_items h
    exact ⟨entries, hentries, hsorted ▸ (List.mergeSort_perm entries keyLe).symm⟩

theorem thawed_of_options {given : Option (Except PyException (List (V × V)))}
    {options : Options V reserved} {thawed : Dict Text V}
    (hfreeze : g.freezeOptions pickle reserved optionName given = .ok options)
    (hthaw : g.thawOptions pickle optionName options = .ok thawed) :
    Thawed g pickle (givenItems given) thawed := by
  match given with
  | none =>
    rw [← Except.ok.inj hfreeze] at hthaw
    rw [← Except.ok.inj hthaw]
    refine ⟨List.nodup_nil, fun key => ?_, fun key passed hlookup => by cases hlookup⟩
    exact iff_of_false List.not_mem_nil fun ⟨item, hitem, _⟩ => List.not_mem_nil hitem
  | some (.error e) => cases hfreeze
  | some (.ok items) => exact thawed_of_freezeOptions hfreeze hthaw

/-- No option of the caller is one that the connector manages. -/
theorem unreserved_of_options {options : Options V reserved} {thawed : Dict Text V}
    (hthaw : g.thawOptions pickle optionName options = .ok thawed) :
    ∀ key ∈ Dict.keys thawed, key ∉ reserved := by
  obtain ⟨copies, rfl, hcopies⟩ := thawOptions_eq_ok hthaw
  intro key hkey
  rw [Dict.mem_keys_ofItems] at hkey
  obtain ⟨copied, hcopied, rfl⟩ := List.mem_map.mp hkey
  obtain ⟨entry, hentry, hsame, -⟩ := exists_of_mem_right hcopies copied hcopied
  rw [← hsame]
  exact (options.unreserved entry hentry).2

end Freeze

end ObjectGraph

/-! ## Arguments of a driver -/

/-- What a driver is given: by the connector itself, or from the options. -/
inductive Kwarg (V : Type)
  | managed (value : PyValue)
  | option (value : V)

/-- `kwargs.update(options)` on what the connector itself sets. -/
def withOptions (managed : Dict Text PyValue) (options : Dict Text V) : Dict Text (Kwarg V) :=
  Dict.update (Dict.mapValues .managed managed) (Dict.mapValues .option options)

/-- Options that set nothing that the connector sets. -/
theorem lookup_withOptions {managed : Dict Text PyValue} {options : Dict Text V}
    (hnodup : (Dict.keys options).Nodup)
    (hdisjoint : ∀ key ∈ Dict.keys options, key ∉ Dict.keys managed) (key : Text) :
    (withOptions managed options).lookup key =
      if key ∈ Dict.keys managed then (managed.lookup key).map .managed
      else (options.lookup key).map .option := by
  rw [withOptions, Dict.lookup_update_of_disjoint, Dict.keys_mapValues, Dict.lookup_mapValues,
    Dict.lookup_ofItems, Dict.lookup_reverse, Dict.lookup_mapValues]
  · rwa [Dict.keys_mapValues]
  · rwa [Dict.keys_mapValues, Dict.keys_mapValues]

section Configured

variable {g : ObjectGraph V} {pickle : g.Pickle} {managed : Dict Text PyValue}
  {items : List (V × V)} {thawed : Dict Text V}

/-- What the connector manages is as it sets it, and everything else is exactly what the
caller gave. -/
structure Configured (g : ObjectGraph V) (pickle : g.Pickle) (managed : Dict Text PyValue)
    (items : List (V × V)) (arguments : Dict Text (Kwarg V)) : Prop where
  nodup : (Dict.keys arguments).Nodup
  manages : ∀ item ∈ managed, arguments.lookup item.1 = some (.managed item.2)
  given : ∀ key, key ∈ Dict.keys arguments ↔
    key ∈ Dict.keys managed ∨ ∃ item ∈ items, g.keyName? item.1 = some key
  copies : ∀ key passed, arguments.lookup key = some (.option passed) →
    ∃ item ∈ items, g.keyName? item.1 = some key ∧ ObjectGraph.Passed pickle item.2 passed
  options : ∀ item ∈ items, ∀ key, g.keyName? item.1 = some key →
    ∃ passed, arguments.lookup key = some (.option passed)

/-- It is enough to know the keys and what is under them. -/
theorem configured_of_lookup {arguments : Dict Text (Kwarg V)}
    (hmanaged : (Dict.keys managed).Nodup) (hthawed : g.Thawed pickle items thawed)
    (hdisjoint : ∀ key ∈ Dict.keys thawed, key ∉ Dict.keys managed)
    (hnodup : (Dict.keys arguments).Nodup)
    (hlookup : ∀ key, arguments.lookup key =
      if key ∈ Dict.keys managed then (managed.lookup key).map .managed
      else (thawed.lookup key).map .option) :
    Configured g pickle managed items arguments := by
  have hkeys : ∀ key, key ∈ Dict.keys arguments ↔
      key ∈ Dict.keys managed ∨ key ∈ Dict.keys thawed := by
    intro key
    rw [← not_iff_not, not_or, ← Dict.lookup_eq_none, hlookup]
    by_cases hkey : key ∈ Dict.keys managed
    · rw [if_pos hkey, Option.map_eq_none_iff, Dict.lookup_eq_none]
      exact iff_of_false (not_not.mpr hkey) fun h => h.1 hkey
    · rw [if_neg hkey, Option.map_eq_none_iff, Dict.lookup_eq_none]
      exact ⟨fun h => ⟨hkey, h⟩, fun h => h.2⟩
  refine ⟨hnodup, fun item hitem => ?_, fun key => ?_, fun key passed h => ?_,
    fun item hitem key hkey => ?_⟩
  · have hkey : item.1 ∈ Dict.keys managed := List.mem_map_of_mem hitem
    rw [hlookup, if_pos hkey, (Dict.lookup_eq_some hmanaged).mpr hitem]
    rfl
  · rw [hkeys, hthawed.keys]
  · rw [hlookup] at h
    split at h
    · obtain ⟨value, -, hvalue⟩ := Option.map_eq_some_iff.mp h
      cases hvalue
    · obtain ⟨value, hvalue, heq⟩ := Option.map_eq_some_iff.mp h
      obtain rfl : value = passed := Kwarg.option.inj heq
      exact hthawed.values key value hvalue
  · have hmem : key ∈ Dict.keys thawed := (hthawed.keys key).mpr ⟨item, hitem, hkey⟩
    obtain ⟨passed, hpassed⟩ := Option.ne_none_iff_exists'.mp
      fun hnone => Dict.lookup_eq_none.mp hnone hmem
    refine ⟨passed, ?_⟩
    rw [hlookup, if_neg (hdisjoint key hmem), hpassed]
    rfl

/-- Options after what the connector sets. -/
theorem configured_withOptions (hmanaged : (Dict.keys managed).Nodup)
    (hthawed : g.Thawed pickle items thawed)
    (hdisjoint : ∀ key ∈ Dict.keys thawed, key ∉ Dict.keys managed) :
    Configured g pickle managed items (withOptions managed thawed) := by
  refine configured_of_lookup hmanaged hthawed hdisjoint ?_ fun key =>
    lookup_withOptions hthawed.nodup hdisjoint key
  refine Dict.nodup_keys_update ?_
  rwa [Dict.keys_mapValues]

/-- What the connector sets after the options. -/
theorem configured_update (hmanaged : (Dict.keys managed).Nodup)
    (hthawed : g.Thawed pickle items thawed)
    (hdisjoint : ∀ key ∈ Dict.keys thawed, key ∉ Dict.keys managed) :
    Configured g pickle managed items
      (Dict.update (Dict.mapValues .option thawed) (Dict.mapValues .managed managed)) := by
  refine configured_of_lookup hmanaged hthawed hdisjoint ?_ fun key => ?_
  · refine Dict.nodup_keys_update ?_
    rw [Dict.keys_mapValues]
    exact hthawed.nodup
  · have hreverse : (Dict.mapValues Kwarg.managed managed : Dict Text (Kwarg V)).reverse.lookup
        key = (managed.lookup key).map .managed := by
      rw [Dict.lookup_reverse, Dict.lookup_mapValues]
      rwa [Dict.keys_mapValues]
    rw [Dict.lookup_update, hreverse, Dict.lookup_mapValues]
    by_cases hkey : key ∈ Dict.keys managed
    · obtain ⟨value, hvalue⟩ := Option.ne_none_iff_exists'.mp
        fun hnone => Dict.lookup_eq_none.mp hnone hkey
      rw [if_pos hkey, hvalue]
      rfl
    · rw [if_neg hkey, Dict.lookup_eq_none.mpr hkey]
      exact Option.none_or

end Configured

/-! ## An example -/

/-- The objects `"opt"` and `1`. -/
def exampleGraph : ObjectGraph (Fin 2) where
  shape
    | 0 => .leaf (.str (str "opt"))
    | 1 => .leaf (.int 1)
  callable _ := false
  typeName
    | 0 => str "str"
    | 1 => str "int"

/-- Pickling that returns the object itself. -/
def examplePickle : exampleGraph.Pickle where
  roundTrip := .ok
  same value copy := copy = value
  copies := by
    refine ⟨?_, ?_, ?_⟩
    · intro value copy items hcopy hitems
      fin_cases value <;> cases hitems
    · intro value copy elements hcopy helements
      fin_cases value <;> cases helements
    · intro value copy leaf hcopy hleaf
      rwa [hcopy]
  same_roundTrip h := (Except.ok.inj h).symm

end DaftOlap
