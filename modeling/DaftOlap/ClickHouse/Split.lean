/-
Split ClickHouse scans select what the single scan selects, as far as binding is exact.

A scan builds when its query does without predicate and partition clause.  Every row of
which the trusted fragment and the compiled predicate are true is then selected by exactly
one of its tasks, if the SQL that the driver makes of the tasks is the one they were built
for: each task of a split scan binds its partitions.
-/
import DaftOlap.ClickHouse.Binding
import DaftOlap.ClickHouse.DataSource
import DaftOlap.ClickHouse.Semantics
import DaftOlap.Compat.ReadBack
import DaftOlap.Scan.Split

namespace DaftOlap
namespace ClickHouse

open Python Logic

/-! ## Narrower queries -/

/-- Whether the loop raises does not depend on how it writes percent signs. -/
theorem fragmentLoop_congr {values : List (Text × PyValue)} {bound bound' : Bool} {skip : Nat}
    {rendered rendered' : Text} {used : List Text} {t : Text} {r : Text × List Text}
    (h : fragmentLoop values bound skip rendered used t = .ok r) :
    ∃ text, fragmentLoop values bound' skip rendered' used t = .ok (text, r.2) := by
  induction t generalizing skip rendered rendered' used with
  | nil =>
    cases skip <;>
    · rw [fragmentLoop] at h
      rw [← Except.ok.inj h]
      exact ⟨rendered', rfl⟩
  | cons c rest ih =>
    cases skip with
    | succ skip =>
      rw [fragmentLoop] at h ⊢
      exact ih h
    | zero =>
      rw [fragmentLoop] at h ⊢
      split at h
      · next hc =>
        rw [if_pos hc]
        exact ih h
      · next hc =>
        rw [if_neg hc]
        cases hmarker : markerName? rest with
        | none =>
          simp only [hmarker] at h ⊢
          exact ih h
        | some name =>
          simp only [hmarker] at h ⊢
          split at h
          · cases h
          · next hname =>
            rw [if_neg hname]
            exact ih h

theorem renderFragment_congr {a : SelectArguments} {bound : Bool} {fragment : Option Text}
    (h : renderFragment a bound = .ok fragment) (bound' : Bool) :
    ∃ fragment', renderFragment a bound' = .ok fragment' := by
  unfold renderFragment at h ⊢
  cases hsql : a.unsafeWhereSql with
  | none => exact ⟨fragment, by simpa only [hsql] using h⟩
  | some sql =>
    simp only [hsql] at h ⊢
    obtain ⟨rendered, hrendered, -⟩ := bind_eq_ok.mp h
    unfold renderUnsafeFragment at hrendered ⊢
    simp only at hrendered ⊢
    split at hrendered
    · cases hrendered
    · next hnodup =>
      obtain ⟨⟨text, used⟩, hloop, hrendered⟩ := bind_eq_ok.mp hrendered
      simp only at hrendered
      split at hrendered
      · cases hrendered
      · next hunused =>
        obtain ⟨text', hloop'⟩ : ∃ text',
            fragmentLoop a.queryParameters bound' 0 [] [] sql = .ok (text', used) :=
          fragmentLoop_congr hloop
        exact ⟨some text', by rw [if_neg hnodup, hloop', ok_bind, if_neg hunused, ok_bind]; rfl⟩

/-- A query that builds still builds with a compiled predicate, with some partitions and
without its limit. -/
theorem exists_buildSelect {a : SelectArguments} {limit : Option PyValue}
    {r : Text × List (Text × PyValue)}
    (h : buildSelect { a with predicate := none, partitionIds := none, limit := limit } = .ok r)
    (hpredicate : ∀ p ∈ a.predicate, p.NullFree) (hids : a.partitionIds ≠ some [])
    (hlimit : a.limit = limit ∨ a.limit = none) : ∃ r, buildSelect a = .ok r := by
  obtain ⟨_, hnames, h⟩ := bind_eq_ok.mp h
  obtain ⟨projection, hprojection, h⟩ := bind_eq_ok.mp h
  obtain ⟨_, -, h⟩ := bind_eq_ok.mp h
  obtain ⟨_, -, h⟩ := bind_eq_ok.mp h
  obtain ⟨_, hfragment, h⟩ := bind_eq_ok.mp h
  obtain ⟨text, htext, -⟩ := bind_eq_ok.mp h
  obtain ⟨text, htext⟩ : ∃ text, renderLimit a.countOutputName a.limit = .ok text := by
    rcases hlimit with hlimit | hlimit
    · exact ⟨text, hlimit ▸ htext⟩
    · exact ⟨[], by rw [hlimit]; rfl⟩
  obtain ⟨rendered, hrendered⟩ : ∃ rendered, a.predicate.mapM renderPredicate = .ok rendered := by
    cases hp : a.predicate with
    | none => exact ⟨none, rfl⟩
    | some p =>
      obtain ⟨t, ht⟩ := exists_renderPredicate (hpredicate p hp)
      exact ⟨some t, by rw [Option.mapM_some, ht]; rfl⟩
  obtain ⟨clause, hclause⟩ : ∃ clause, renderPartitionClause a.partitionIds
      (dictUpdate a.queryParameters ((rendered.map Prod.snd).getD [])) = .ok clause := by
    cases hp : a.partitionIds with
    | none => exact ⟨_, rfl⟩
    | some ids =>
      have hne : ids ≠ [] := fun hnil => hids (hp.trans (congrArg some hnil))
      exact ⟨_, if_neg hne⟩
  obtain ⟨fragment, hfragment⟩ := renderFragment_congr hfragment (clause.2 ≠ [])
  have hfragment : renderFragment a (clause.2 ≠ []) = .ok fragment := hfragment
  refine ⟨_, bind_eq_ok.mpr ⟨(), hnames, bind_eq_ok.mpr ⟨projection, hprojection, bind_eq_ok.mpr
    ⟨rendered, hrendered, bind_eq_ok.mpr ⟨clause, hclause, bind_eq_ok.mpr ⟨fragment, hfragment,
      bind_eq_ok.mpr ⟨text, htext, rfl⟩⟩⟩⟩⟩⟩⟩

/-- The values a query binds are the caller's, the literals of its predicate and its
partitions. -/
theorem buildSelect_parameters {a : SelectArguments} {r : Text × List (Text × PyValue)}
    (h : buildSelect a = .ok r) :
    r.2 = allParameters a.queryParameters a.predicate a.partitionIds := by
  obtain ⟨_, hnames, h⟩ := bind_eq_ok.mp h
  obtain ⟨_, -, h⟩ := bind_eq_ok.mp h
  obtain ⟨rendered, hrendered, h⟩ := bind_eq_ok.mp h
  obtain ⟨⟨clause, parameters⟩, hclause, h⟩ := bind_eq_ok.mp h
  obtain ⟨_, -, h⟩ := bind_eq_ok.mp h
  obtain ⟨_, -, h⟩ := bind_eq_ok.mp h
  obtain rfl := Except.ok.inj h
  rw [predicate_eq_ok (str "%") hrendered, Option.map_map] at hclause
  exact (Prod.mk.inj (renderPartitionClause_eq_ok (str "%") hnames hclause)).2

theorem buildSelect_naive {a : SelectArguments} {r : Text × List (Text × PyValue)}
    (h : buildSelect a = .ok r) (hcaller : ∀ q ∈ a.queryParameters, q.2.isTimezoneAware = false) :
    ∀ q ∈ r.2, q.2.isTimezoneAware = false := by
  intro q hq
  rw [buildSelect_parameters h, allParameters, List.mem_append, List.mem_append] at hq
  rcases hq with (hq | hq) | hq
  · exact hcaller q hq
  · cases hp : a.predicate with
    | none => simp [hp] at hq
    | some p =>
      rw [hp, Option.map_some, Option.getD_some, predicateParameters_eq] at hq
      obtain ⟨⟨v, i⟩, hv, rfl⟩ := List.mem_map.mp hq
      exact naive_of_supported (Predicate.supported_of_mem_literals (List.fst_mem_of_mem_zipIdx hv))
  · cases hids : a.partitionIds with
    | none => simp [hids] at hq
    | some ids =>
      rw [hids, Option.map_some, Option.getD_some, namedPartitions_eq] at hq
      obtain ⟨_, -, rfl⟩ := List.mem_map.mp hq
      rfl

/-- A query that builds makes a task if the caller's values are naive. -/
theorem exists_task {a : SelectArguments} {r : Text × List (Text × PyValue)}
    (h : buildSelect a = .ok r) (hcaller : ∀ q ∈ a.queryParameters, q.2.isTimezoneAware = false)
    (schema : List ArrowField) : ∃ t, task a schema = .ok t := by
  have hsql : r.1 ≠ [] := by
    rw [(buildSelect_eq_ok h).1, boundText, Statement.parts, partsText_raw]
    exact List.cons_ne_nil _ _
  have hchecked : (QuerySpec.mk r.1 [] r.2 schema).checked = .ok ⟨r.1, [], r.2, schema⟩ :=
    QuerySpec.checked_of_naive hsql (Or.inl rfl) (by simp) (buildSelect_naive h hcaller)
  unfold task
  split
  · next e he => exact absurd (h.symm.trans he) (by simp)
  · next r' hr' =>
    obtain rfl := Except.ok.inj (h.symm.trans hr')
    split
    · next e he => exact absurd (hchecked.symm.trans he) (by simp)
    · exact ⟨_, rfl⟩

/-- The columns of a query that builds are valid identifiers. -/
theorem validIdentifier_of_buildSelect {a : SelectArguments} {r : Text × List (Text × PyValue)}
    {projection : List (Text × Option Text)} (h : buildSelect a = .ok r)
    (hcount : a.countOutputName = none) (hprojection : a.projection = some projection) :
    ∀ c ∈ a.columns, ValidIdentifier c := by
  obtain ⟨_, -, h⟩ := bind_eq_ok.mp h
  obtain ⟨_, hrender, -⟩ := bind_eq_ok.mp h
  rw [hcount, hprojection, renderProjection] at hrender
  split at hrender
  · cases hrender
  · next hcolumns =>
    obtain ⟨_, hexpressions, -⟩ := bind_eq_ok.mp hrender
    rw [← not_not.mp hcolumns]
    intro c hc
    obtain ⟨entry, hentry, rfl⟩ := List.mem_map.mp hc
    obtain ⟨_, hexpression⟩ := exists_of_mapM_eq_ok hexpressions entry hentry
    obtain ⟨_, hcast, -⟩ := bind_eq_ok.mp hexpression
    obtain ⟨_, hidentifier, -⟩ := bind_eq_ok.mp hcast
    exact (quoteIdentifier_eq_ok hidentifier).1

/-! ## The rows of a group -/

variable {Cell : Type}

/-- A partition clause adds that the row lies in one of the partitions. -/
theorem Statement.keeps_partitions {s : Statement} {server : Server Cell} {row : Row Cell}
    (h : s.cells server row (str "_partition_id") = server.cells.literal (.str row.partition))
    (ids : List Text) :
    { s with partitionIds := some ids }.keeps server row =
      ({ s with partitionIds := none }.keeps server row && decide (row.partition ∈ ids)) := by
  rw [Bool.eq_iff_iff, Bool.and_eq_true, keeps_eq_true_iff, keeps_eq_true_iff, decide_eq_true_eq,
    ← partitionTruth_eq_true_iff h]
  constructor
  · rintro ⟨hf, hp, hids⟩
    exact ⟨⟨hf, hp, fun _ hnone => nomatch hnone⟩, hids ids rfl⟩
  · rintro ⟨⟨hf, hp, -⟩, hids⟩
    exact ⟨hf, hp, fun _ hsome => Option.some.inj hsome ▸ hids⟩

/-! ## What a scan selects -/

namespace DataSource

/-- The cells that WHERE sees below the SELECT list of a scan. -/
def cells (source : DataSource) (pushdowns : Pushdowns) (server : Server Cell) (row : Row Cell) :
    Text → Cell :=
  (Projection.columns (source.projection pushdowns)).resolve server row.cells

/-- The trusted fragment is true of a row of a scan. -/
def trusts (source : DataSource) (pushdowns : Pushdowns) (server : Server Cell) (row : Row Cell) :
    Bool :=
  source.fragment.all fun f =>
    decide ((server.fragment f).eval (source.cells pushdowns server row) = .true)

/-- The value of a compiled predicate on a row of a scan. -/
def truth (source : DataSource) (pushdowns : Pushdowns) (server : Server Cell) (p : Predicate)
    (row : Row Cell) : Truth :=
  p.eval server.cells (source.cells pushdowns server row)

/-- The fragment and the predicate are true of a row of a scan. -/
def meets (source : DataSource) (pushdowns : Pushdowns) (predicate : Option Predicate)
    (server : Server Cell) (row : Row Cell) : Bool :=
  source.trusts pushdowns server row &&
    predicate.all fun p => decide (source.truth pushdowns server p row = .true)

/-- The call of `build_select` with the trusted fragment and its parameters on their
own. -/
def trusted (source : DataSource) (pushdowns : Pushdowns) : SelectArguments where
  table := source.table
  columns := source.columns pushdowns
  unsafeWhereSql := source.unsafeWhereSql
  queryParameters := source.queryParameters.items
  limit := pushdowns.limit.map fun n : Nat => .int n
  projection := some (source.projection pushdowns)

/-- The outcomes of partition discovery a split relies on. -/
inductive Outcome (source : DataSource) (table : Multiset (Row Cell)) :
    Except PyException PartitionDiscovery → Prop
  | unsupported {d : PartitionDiscovery} (h : d.supported = false) : Outcome source table (.ok d)
  | partitions {d : PartitionDiscovery} (hsupported : d.supported = true) (hnodup : d.ids.Nodup)
      (hcover : ∀ row ∈ table, row.partition ∈ d.ids) : Outcome source table (.ok d)
  | failed (message : Message) (hpolicy : source.discoveryPolicy = .single) :
      Outcome source table (.error (discoveryError message))

/-- The tasks are the scan of a source, split.  What each sends is the SELECT for its
partitions, which has the columns of the scan, the fragment, the predicate and one limit for
all; and every row of which fragment and predicate are true is selected by exactly one of
them, and no other row by any. -/
structure SplitScan (u : UnicodeData) (source : DataSource) (pushdowns : Pushdowns)
    (predicate : Option Predicate) (server : Server Cell) (table : Multiset (Row Cell))
    (tasks : List Task) : Prop where
  length_pos : 1 ≤ tasks.length
  length_le : tasks.length ≤ min source.limits.targetTasks source.limits.maxTasks
  sends : ∀ t ∈ tasks, Sends u t.query (source.select pushdowns predicate t.partitionIds)
  splits : Scan.Splits table tasks
    (fun t row => (source.select pushdowns predicate t.partitionIds).keeps server row)
    (source.meets pushdowns predicate server)
  names : ∀ t ∈ tasks, t.spec.arrowSchema.map ArrowField.name = source.columns pushdowns ∧
    (source.select pushdowns predicate t.partitionIds).projection.names = source.columns pushdowns

/-- No task of a scan binds a value: neither the caller nor the predicate has one, and the scan
is not split. -/
def BindsNothing (source : DataSource) (pushdowns : Pushdowns) (predicate : Option Predicate)
    (outcome : Except PyException PartitionDiscovery) : Prop :=
  source.queryParameters.items = [] ∧ (∀ p ∈ predicate, p.literals = []) ∧
    ¬ source.IsSplit pushdowns.limit outcome

variable {source : DataSource} {pushdowns : Pushdowns} {server : Server Cell}
  {table : Multiset (Row Cell)} {discover : Unit → Except PyException PartitionDiscovery}
  {predicate : Option Predicate}

/-- Without a partition clause the SELECT of a scan keeps what fragment and predicate are true
of. -/
theorem keeps_select (row : Row Cell) :
    (source.select pushdowns predicate none).keeps server row =
      source.meets pushdowns predicate server row := by
  rw [Bool.eq_iff_iff, Statement.keeps_eq_true_iff, meets, Bool.and_eq_true, trusts,
    Option.all_eq_true, Option.all_eq_true]
  constructor
  · intro h
    obtain ⟨hfragment, hpredicate, -⟩ := h
    exact ⟨fun f hf => decide_eq_true (hfragment f hf),
      fun p hp => decide_eq_true (hpredicate p hp)⟩
  · intro h
    obtain ⟨hfragment, hpredicate⟩ := h
    exact ⟨fun f hf => of_decide_eq_true (hfragment f hf),
      fun p hp => of_decide_eq_true (hpredicate p hp), fun _ hnone => nomatch hnone⟩

/-- The column `_partition_id` of a scan is the virtual one when the schema has none. -/
theorem partition_cell {row : Row Cell} (hphysical : str "_partition_id" ∉ source.schemaPlan.names)
    (hrow : row.cells (str "_partition_id") = server.cells.literal (.str row.partition)) :
    source.cells pushdowns server row (str "_partition_id") =
      server.cells.literal (.str row.partition) := by
  rw [← hrow]
  refine Projection.resolve_of_not_mem ?_
  show str "_partition_id" ∉ (source.projection pushdowns).map Prod.fst
  rw [names_projection]
  exact fun hmem => hphysical (List.mem_filter.mp hmem).1

/-- The groups of a scan split what fragment and predicate are true of. -/
theorem splits_of_partitionGroups (predicate : Option Predicate) {limit : Option Nat}
    {groups : List (Option (List Text))}
    (hgroups : (source.partitionGroups limit).run discover = .ok groups)
    (hrows : str "_partition_id" ∉ source.schemaPlan.names → ∀ row ∈ table,
      row.cells (str "_partition_id") = server.cells.literal (.str row.partition))
    (houtcome : Outcome source table (discover ())) :
    (1 ≤ groups.length ∧ groups.length ≤ min source.limits.targetTasks source.limits.maxTasks) ∧
      Scan.Splits table groups
        (fun ids row => (source.select pushdowns predicate ids).keeps server row)
        (source.meets pushdowns predicate server) := by
  have hpos : 1 ≤ groups.length := List.length_pos_iff.mpr (partitionGroups_ne_nil hgroups)
  have htarget := source.limits.targetTasks_valid.1
  have hmax := source.limits.maxTasks_valid.1
  rcases partitionGroups_eq_ok hgroups with rfl | ⟨hphysical, d, hd, hsupported, -, rfl⟩
  · have hone : 1 ≤ min source.limits.targetTasks source.limits.maxTasks := by omega
    exact ⟨⟨hpos, hone⟩, Scan.Splits.single fun row _ => keeps_select row⟩
  · obtain ⟨-, hlength, -⟩ := groupWeightedItems_spec
      (d.partitions.map fun item => (item.partitionId, item.bytesOnDisk)) htarget hmax
    have hperm := flatten_groups_perm source d
    obtain ⟨hnodup, hcover⟩ : d.ids.Nodup ∧ ∀ row ∈ table, row.partition ∈ d.ids := by
      rw [hd] at houtcome
      cases houtcome with
      | unsupported h => exact absurd (h.symm.trans hsupported) Bool.false_ne_true
      | partitions _ hnodup hcover => exact ⟨hnodup, hcover⟩
    refine ⟨⟨hpos, ?_⟩, ?_⟩
    · rw [List.length_map]
      exact hlength
    · refine (Scan.Splits.of_groups Row.partition (hperm.nodup_iff.mpr hnodup)
        fun row hrow _ => hperm.mem_iff.mpr (hcover row hrow)).of_forall₂ ?_
      rw [List.forall₂_map_right_iff, List.forall₂_same]
      intro ids _ row hrow
      have hcell : (source.select pushdowns predicate (some ids)).cells server row
          (str "_partition_id") = server.cells.literal (.str row.partition) :=
        partition_cell hphysical (hrows hphysical row hrow)
      rw [← keeps_select row]
      exact (Statement.keeps_partitions hcell ids).trans
        (congrArg _ (decide_eq_decide.mpr Iff.rfl))

/-- Tasks for groups that split the rows are the scan, split, if and only if each of them binds
nothing, or no name of the SELECT has a percent sign. -/
theorem splitScan_iff {u : UnicodeData} {groups : List (Option (List Text))} {tasks : List Task}
    {schema : List ArrowField}
    (hgroups : (1 ≤ groups.length ∧
        groups.length ≤ min source.limits.targetTasks source.limits.maxTasks) ∧
      Scan.Splits table groups
        (fun ids row => (source.select pushdowns predicate ids).keeps server row)
        (source.meets pushdowns predicate server))
    (hschema : projectSchema source.schemaPlan.arrowSchema (source.columns pushdowns) = .ok schema)
    (htasks : List.Forall₂ (fun ids t =>
      t.arguments = { source.unsplit pushdowns predicate with partitionIds := ids } ∧
        t.spec.arrowSchema = schema) groups tasks) :
    SplitScan u source pushdowns predicate server table tasks ↔
      (∀ t ∈ tasks, t.spec.namedParameters = []) ∨
        (source.select pushdowns predicate none).Clean := by
  have hsends : ∀ t ∈ tasks, Sends u t.query (source.select pushdowns predicate t.partitionIds) ↔
      t.spec.namedParameters = [] ∨ (source.select pushdowns predicate none).Clean := by
    intro t ht
    obtain ⟨ids, -, harguments, -⟩ := exists_of_mem_right htasks t ht
    have hiff := sends_iff (u := u) t.built
    rw [← parameters_eq_nil_iff t.built, harguments, statement_unsplit] at hiff
    rw [Task.query, Task.partitionIds, harguments]
    exact hiff
  constructor
  · intro h
    by_cases hclean : (source.select pushdowns predicate none).Clean
    · exact Or.inr hclean
    · exact Or.inl fun t ht => ((hsends t ht).mp (h.sends t ht)).resolve_right hclean
  · intro h
    refine ⟨htasks.length_eq ▸ hgroups.1.1, htasks.length_eq ▸ hgroups.1.2, fun t ht => ?_, ?_,
      fun t ht => ?_⟩
    · exact (hsends t ht).mpr (h.imp_left fun hnone => hnone t ht)
    · refine hgroups.2.of_forall₂ (htasks.imp fun ids t hmade row _ => ?_)
      rw [Task.partitionIds, hmade.1]
    · obtain ⟨ids, -, -, hspec⟩ := exists_of_mem_right htasks t ht
      exact ⟨hspec ▸ projectSchema_names hschema, names_projection source pushdowns⟩

/-- Of the tasks of a scan none binds a value if the scan binds nothing, and otherwise each
does. -/
theorem namedParameters_eq_nil_iff {groups : List (Option (List Text))} {tasks : List Task}
    {schema : List ArrowField}
    (hgroups : (source.partitionGroups (safeDatabaseLimit pushdowns predicate)).run discover =
      .ok groups)
    (htasks : List.Forall₂ (fun ids t =>
      t.arguments = { source.unsplit pushdowns predicate with partitionIds := ids } ∧
        t.spec.arrowSchema = schema) groups tasks) :
    (∀ t ∈ tasks, t.spec.namedParameters = []) ↔
      source.BindsNothing pushdowns predicate (discover ()) := by
  have hzero : safeDatabaseLimit pushdowns predicate ≠ some 0 ↔ pushdowns.limit ≠ some 0 :=
    not_congr (safeDatabaseLimit_eq_zero_iff pushdowns predicate)
  have hsplit : source.IsSplit (safeDatabaseLimit pushdowns predicate) (discover ()) ↔
      source.IsSplit pushdowns.limit (discover ()) :=
    ⟨fun h => ⟨h.auto, hzero.mp h.someRows, h.virtual, h.discovered⟩,
      fun h => ⟨h.auto, hzero.mpr h.someRows, h.virtual, h.discovered⟩⟩
  have htask : ∀ t ∈ tasks, t.spec.namedParameters = [] ↔
      source.BindsNothing pushdowns predicate (discover ()) := by
    intro t ht
    obtain ⟨ids, hids, harguments, -⟩ := exists_of_mem_right htasks t ht
    have hnone := eq_none_iff_of_mem_partitionGroups hgroups hids
    rw [hsplit] at hnone
    rw [parameters_eq_nil_iff t.built, harguments]
    exact and_congr_right fun _ => and_congr_right fun _ => hnone
  obtain ⟨t, ht⟩ : ∃ t, t ∈ tasks := by
    refine List.exists_mem_of_ne_nil tasks fun hnil => partitionGroups_ne_nil hgroups ?_
    rwa [hnil, List.forall₂_nil_right_iff] at htasks
  exact ⟨fun h => (htask t ht).mp (h t ht), fun h t ht => (htask t ht).mpr h⟩

theorem exists_partitionGroups (houtcome : Outcome source table (discover ()))
    (limit : Option Nat) : ∃ groups, (source.partitionGroups limit).run discover = .ok groups ∧
      ∀ ids ∈ groups, ids ≠ some [] := by
  have hgroups : ∃ groups, (source.partitionGroups limit).run discover = .ok groups := by
    unfold partitionGroups
    split
    · exact ⟨_, rfl⟩
    · split
      · exact ⟨_, rfl⟩
      · simp only [Planning.run]
        generalize discover () = outcome at houtcome
        cases houtcome with
        | unsupported h => exact ⟨_, if_pos (Or.inl h)⟩
        | partitions => exact ⟨_, (apply_ite Except.ok _ _ _).symm⟩
        | failed message hpolicy => exact ⟨_, if_pos ⟨rfl, by simp [hpolicy]⟩⟩
  obtain ⟨groups, hgroups⟩ := hgroups
  refine ⟨groups, hgroups, ?_⟩
  rcases partitionGroups_eq_ok hgroups with rfl | ⟨-, d, -, -, -, rfl⟩
  · simp
  · rintro _ hids rfl
    obtain ⟨g, hg, hnil⟩ := List.mem_map.mp hids
    exact (groupWeightedItems_spec _ source.limits.targetTasks_valid.1
      source.limits.maxTasks_valid.1).2.2 g hg (Option.some.inj hnil)

/-- A scan builds when its trusted fragment and its parameters do on their own. -/
theorem exists_scanTasks {r : Text × List (Text × PyValue)}
    (hknown : ∀ c ∈ pushdowns.requested source.schemaPlan.names, c ∈ source.schemaPlan.names)
    (hcolumns : source.columns pushdowns ≠ []) (houtcome : Outcome source table (discover ()))
    (htrusted : buildSelect (source.trusted pushdowns) = .ok r) :
    ∃ tasks, source.scanTasks pushdowns discover = .ok tasks := by
  have hnames : ∀ c ∈ source.columns pushdowns, c ∈ source.schemaPlan.names :=
    fun c hc => (List.mem_filter.mp hc).1
  obtain ⟨schema, hschema⟩ := exists_projectSchema source.schemaPlan.names_nodup hnames
  have hvalid : ∀ c ∈ source.columns pushdowns, ValidIdentifier c :=
    validIdentifier_of_buildSelect htrusted rfl rfl
  obtain ⟨predicate, hpredicate⟩ : ∃ predicate, compileFilter pushdowns.filters = .ok predicate := by
    refine exists_compileFilter fun e he c hc => hvalid c ?_
    have hrequested : c ∈ pushdowns.requested source.schemaPlan.names :=
      List.mem_append_right _ (pushdowns.filter_columns e he c hc)
    exact List.mem_filter.mpr ⟨hknown c hrequested, by simpa using hrequested⟩
  obtain ⟨groups, hgroups, hsome⟩ :=
    exists_partitionGroups houtcome (safeDatabaseLimit pushdowns predicate)
  obtain ⟨tasks, htasks⟩ : ∃ tasks, groups.mapM (source.scanTask (source.columns pushdowns) schema
      predicate (safeDatabaseLimit pushdowns predicate)) = .ok tasks := by
    refine exists_mapM_eq_ok fun ids hids => ?_
    rw [scanTask, source.schemaPlan.projectionFor_eq_ok hnames]
    have hnull : ∀ p ∈ predicate, p.NullFree := by
      rintro p rfl
      cases hfilters : pushdowns.filters with
      | none => rw [hfilters] at hpredicate; cases hpredicate
      | some e => exact (compiles_of_compileFilter (hfilters ▸ hpredicate)).nullFree
    have hlimit := (safeDatabaseLimit_eq pushdowns predicate).imp
      (congrArg (Option.map fun n : Nat => PyValue.int n))
      (congrArg (Option.map fun n : Nat => PyValue.int n))
    obtain ⟨query, hquery⟩ := exists_buildSelect
      (a := { source.unsplit pushdowns predicate with partitionIds := ids })
      htrusted hnull (hsome ids hids) hlimit
    exact exists_task hquery source.queryParameters.naive schema
  refine ⟨tasks, bind_eq_ok.mpr ⟨source.columns pushdowns, requiredScanColumns_of_known hknown, ?_⟩⟩
  rw [if_neg hcolumns, hschema, ok_bind, hpredicate, ok_bind]
  exact bind_eq_ok.mpr ⟨groups, hgroups, htasks⟩

/-- Split scans are equivalent to the single scan as far as binding is exact.  The tasks of a
scan, at least one and no more than the limits allow, select every row of which fragment and
predicate are true exactly once and no other, if and only if they bind nothing or no name they
quote and no type they cast to has a percent sign.  The tasks build whenever the trusted
fragment and its parameters do on their own. -/
theorem getTasks_equivalent_iff (u : UnicodeData) (source : DataSource) (pushdowns : Pushdowns)
    (discover : Unit → Except PyException PartitionDiscovery) (server : Server Cell)
    (table : Multiset (Row Cell)) (haggregation : pushdowns.aggregation = none)
    (hknown : ∀ c ∈ pushdowns.requested source.schemaPlan.names, c ∈ source.schemaPlan.names)
    (hcolumns : source.columns pushdowns ≠ [])
    (hrows : str "_partition_id" ∉ source.schemaPlan.names → ∀ row ∈ table,
      row.cells (str "_partition_id") = server.cells.literal (.str row.partition))
    (houtcome : Outcome source table (discover ())) :
    ((∃ r, buildSelect (source.trusted pushdowns) = .ok r) →
      ∃ tasks, source.getTasks pushdowns discover = .ok tasks) ∧
    ∀ tasks, source.getTasks pushdowns discover = .ok tasks →
      ∃ predicate, compileFilter pushdowns.filters = .ok predicate ∧
        (SplitScan u source pushdowns predicate server table tasks ↔
          source.BindsNothing pushdowns predicate (discover ()) ∨
            (source.select pushdowns predicate none).Clean) := by
  rw [getTasks_eq_scanTasks haggregation]
  refine ⟨fun htrusted => ?_, fun tasks htasks => ?_⟩
  · obtain ⟨r, htrusted⟩ := htrusted
    exact exists_scanTasks hknown hcolumns houtcome htrusted
  · obtain ⟨schema, predicate, groups, -, hschema, hpredicate, hgroups, htasks⟩ :=
      scanTasks_eq_ok htasks
    refine ⟨predicate, hpredicate, ?_⟩
    rw [splitScan_iff (splits_of_partitionGroups predicate hgroups hrows houtcome) hschema htasks,
      namedParameters_eq_nil_iff hgroups htasks]

/-- A table with one column, split over its partitions. -/
def partitioned : DataSource where
  table := exampleTable
  limits := exampleLimits
  split := .auto
  schemaPlan := .passthrough exampleFields nodup_exampleFields

/-- A row of partition `p`. -/
def rowOf (p : Text) (n : Int) : Row PyValue where
  cells := fun name => if name = str "_partition_id" then .str p else .int n
  partition := p

/-- Rows of two partitions. -/
def storedList : List (Row PyValue) := [rowOf (str "a") 1, rowOf (str "b") 1, rowOf (str "b") 2]

theorem partition_storedList : ∀ row ∈ (storedList : Multiset (Row PyValue)),
    row.cells (str "_partition_id") = Server.identity.cells.literal (.str row.partition) ∧
      row.partition ∈ [str "a", str "b"] := by
  intro row hrow
  simp only [storedList, Multiset.mem_coe, List.mem_cons, List.not_mem_nil, or_false] at hrow
  rcases hrow with rfl | rfl | rfl
  · exact ⟨rfl, by decide⟩
  · exact ⟨rfl, by decide⟩
  · exact ⟨rfl, by decide⟩

/-- At most five rows. -/
def firstFive : Pushdowns where
  limit := some 5
  filter_columns := no_filter_columns

/-- Two partitions make two tasks that split the rows of the table. -/
theorem getTasks_partitioned :
    ∃ tasks, partitioned.getTasks firstFive
        (fun _ => .ok ⟨true, [⟨str "a", 1⟩, ⟨str "b", 2⟩]⟩) = .ok tasks ∧
      SplitScan .ascii partitioned firstFive none Server.identity storedList tasks := by
  obtain ⟨hbuilds, hsound⟩ := getTasks_equivalent_iff .ascii partitioned firstFive
    (fun _ => .ok ⟨true, [⟨str "a", 1⟩, ⟨str "b", 2⟩]⟩) Server.identity storedList rfl (by decide)
    (by decide) (fun _ row hrow => (partition_storedList row hrow).1)
    (Outcome.partitions rfl (by decide) fun row hrow => (partition_storedList row hrow).2)
  obtain ⟨tasks, htasks⟩ := hbuilds ⟨_, rfl⟩
  obtain ⟨predicate, hpredicate, hiff⟩ := hsound tasks htasks
  obtain rfl : none = predicate := Except.ok.inj hpredicate
  exact ⟨tasks, htasks, hiff.mpr (Or.inr (by decide))⟩

/-- The same table with a percent sign in the name of its column. -/
def percentNamed : DataSource :=
  { partitioned with
    schemaPlan := .passthrough [⟨str "a%d", str "int64"⟩] (List.nodup_singleton _) }

/-- A column `a%d` makes the SQL a format that the driver refuses. -/
theorem format_percentNamed (u : UnicodeData) (rest : Text) (mapping : List (Text × Text)) :
    percentFormatMapping u (str "SELECT `a%d" ++ rest) mapping = .error .typeError := rfl

/-- The query that is not split reads the column `a%d`.  The two tasks bind their partitions, and
the driver takes the name for a conversion. -/
theorem not_splitScan_percentNamed :
    (∃ r, buildSelect (percentNamed.unsplit firstFive none) = .ok r ∧
      Sends .ascii r (percentNamed.select firstFive none none)) ∧
    ∃ tasks, percentNamed.getTasks firstFive
        (fun _ => .ok ⟨true, [⟨str "a", 1⟩, ⟨str "b", 2⟩]⟩) = .ok tasks ∧
      ¬ SplitScan .ascii percentNamed firstFive none Server.identity storedList tasks ∧
      ∀ t ∈ tasks, ∀ literal, sent .ascii literal t.query = .error .typeError := by
  refine ⟨⟨_, rfl, fun _ => rfl⟩, ?_⟩
  have hrows : str "_partition_id" ∉ percentNamed.schemaPlan.names →
      ∀ row ∈ (storedList : Multiset (Row PyValue)), row.cells (str "_partition_id") =
        Server.identity.cells.literal (.str row.partition) :=
    fun _ row hrow => (partition_storedList row hrow).1
  have houtcome : Outcome percentNamed (storedList : Multiset (Row PyValue))
      (.ok ⟨true, [⟨str "a", 1⟩, ⟨str "b", 2⟩]⟩) :=
    .partitions rfl (by decide) fun row hrow => (partition_storedList row hrow).2
  obtain ⟨tasks, htasks⟩ : ∃ tasks, percentNamed.scanTasks firstFive
      (fun _ => .ok ⟨true, [⟨str "a", 1⟩, ⟨str "b", 2⟩]⟩) = .ok tasks :=
    exists_scanTasks (by decide) (by decide) houtcome (show buildSelect _ = .ok _ from rfl)
  refine ⟨tasks, (getTasks_eq_scanTasks rfl).trans htasks, ?_⟩
  obtain ⟨schema, predicate, groups, -, hschema, hpredicate, hgroups, htasks⟩ :=
    scanTasks_eq_ok htasks
  obtain rfl : none = predicate := Except.ok.inj hpredicate
  have hsplit : percentNamed.IsSplit firstFive.limit
      (.ok ⟨true, [⟨str "a", 1⟩, ⟨str "b", 2⟩]⟩) :=
    ⟨by decide, by decide, by decide, _, rfl, rfl, List.cons_ne_nil _ _⟩
  have hbinds : ∀ t ∈ tasks, t.spec.namedParameters ≠ [] := by
    intro t ht hnone
    obtain ⟨ids, hids, harguments, -⟩ := exists_of_mem_right htasks t ht
    have hnothing := (parameters_eq_nil_iff t.built).mp hnone
    rw [harguments] at hnothing
    exact (eq_none_iff_of_mem_partitionGroups hgroups hids).mp hnothing.2.2 hsplit
  constructor
  · rw [splitScan_iff (splits_of_partitionGroups none hgroups hrows houtcome) hschema htasks,
      namedParameters_eq_nil_iff hgroups htasks]
    rintro (hnothing | hclean)
    · exact hnothing.2.2 hsplit
    · exact absurd hclean (by decide)
  · intro t ht literal
    obtain ⟨ids, -, harguments, -⟩ := exists_of_mem_right htasks t ht
    have hsql := sql_eq_format t.built (hbinds t ht)
    rw [harguments, statement_unsplit] at hsql
    rw [sent, Task.query, if_neg (hbinds t ht), hsql]
    exact format_percentNamed _ _ _

end DataSource

end ClickHouse
end DaftOlap
