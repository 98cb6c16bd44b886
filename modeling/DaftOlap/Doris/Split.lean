/-
Split Doris scans select what the unsplit scan selects, as far as planning reads its condition.

Planning SQL and tasks are built by separate calls of `build_select`, in different
styles.  PyMySQL binds the planning SQL whatever the transport; tablets that hold every row of
the condition it arrives with hold every row of the scan if the tasks arrive with the same.
-/
import DaftOlap.Compat.ReadBack
import DaftOlap.Doris.Semantics
import DaftOlap.Doris.Sent
import DaftOlap.Scan.Split

namespace DaftOlap
namespace Doris

open Python Logic

/-! ## Queries that build together -/

/-- A fragment that is rendered in some style is rendered in MySQL style. -/
theorem exists_renderFragment_mysql {a : SelectArguments} {bound : Bool}
    {r : Option (Text × List PyValue)} (h : renderFragment a bound = .ok r) (bound' : Bool) :
    ∃ r', renderFragment { a with style := .mysql } bound' = .ok r' := by
  unfold renderFragment at h ⊢
  cases hsql : a.unsafeWhereSql with
  | none => exact ⟨r, by simpa only [hsql] using h⟩
  | some fragment =>
    simp only [hsql] at h ⊢
    obtain ⟨rendered, hrendered, -⟩ := bind_eq_ok.mp h
    unfold renderUnsafeFragment at hrendered ⊢
    simp only [ite_not] at hrendered ⊢
    split at hrendered
    · next hnodup =>
      rw [fragmentLoop_eq, bind_assoc] at hrendered
      obtain ⟨final, hfinal, hrendered⟩ := bind_eq_ok.mp hrendered
      have hnames := markerNames_of_foldlM hfinal
      rw [foldlM_append _ _ _ hnames] at hfinal
      obtain ⟨_, -, hfinal⟩ := bind_eq_ok.mp hfinal
      obtain rfl := Except.ok.inj hfinal
      simp only [pure_eq_ok, ok_bind] at hrendered
      split at hrendered
      · next hclosed =>
        split at hrendered
        · next hunused =>
          rw [if_pos hnodup, fragmentLoop_eq, foldlM_append _ _ _ hnames, write_mysql]
          simp only [pure_eq_ok, ok_bind, hclosed, hunused, if_true]
          exact ⟨_, rfl⟩
        · cases hrendered
      · cases hrendered
    · cases hrendered

namespace DataSource

variable {source : DataSource} {columns : List Text} {predicate : Option Predicate}
  {limit : Option Nat} {r : Text × List PyValue}

/-- The planning SQL builds when the query of the scan does. -/
theorem exists_planning (h : buildSelect (source.scanArguments columns predicate limit none) = .ok r) :
    ∃ query, buildSelect (source.planningArguments columns predicate) = .ok query := by
  obtain ⟨projection, hprojection, h⟩ := bind_eq_ok.mp h
  obtain ⟨tablets, htablets, h⟩ := bind_eq_ok.mp h
  obtain ⟨rendered, hpredicate, h⟩ := bind_eq_ok.mp h
  obtain ⟨_, hfragment, -⟩ := bind_eq_ok.mp h
  obtain ⟨rendered, hrendered⟩ : ∃ rendered,
      predicate.mapM (renderPredicate · .mysql) = .ok rendered := by
    cases predicate with
    | none => exact ⟨none, rfl⟩
    | some p =>
      obtain ⟨t, ht, -⟩ := bind_eq_ok.mp hpredicate
      obtain ⟨m, hm⟩ := exists_renderPredicate_mysql ((renderWith_eq_ok_iff (str "%")).mp ht).1
      exact ⟨some m, by rw [Option.mapM_some, hm]; rfl⟩
  obtain ⟨fragment, hfragment⟩ := exists_renderFragment_mysql hfragment
    (ParameterStyle.mysql = .mysql ∧
      (source.queryParameters.items ≠ [] ∨ (rendered.map Prod.snd).getD [] ≠ []))
  exact ⟨_, bind_eq_ok.mpr ⟨projection, hprojection, bind_eq_ok.mpr ⟨[], rfl, bind_eq_ok.mpr
    ⟨rendered, hrendered, bind_eq_ok.mpr ⟨fragment, hfragment, bind_eq_ok.mpr ⟨[], rfl, rfl⟩⟩⟩⟩⟩⟩

/-- The query of a scan builds without its tablets and its limit when it does with them. -/
theorem exists_unlimited {tabletIds : Option (List Int)}
    (h : buildSelect (source.scanArguments columns predicate limit tabletIds) = .ok r) :
    ∃ r, buildSelect (source.scanArguments columns predicate none none) = .ok r := by
  obtain ⟨projection, hprojection, h⟩ := bind_eq_ok.mp h
  obtain ⟨_, -, h⟩ := bind_eq_ok.mp h
  obtain ⟨rendered, hrendered, h⟩ := bind_eq_ok.mp h
  obtain ⟨fragment, hfragment, -⟩ := bind_eq_ok.mp h
  exact ⟨_, bind_eq_ok.mpr ⟨projection, hprojection, bind_eq_ok.mpr ⟨[], rfl,
    bind_eq_ok.mpr ⟨rendered, hrendered, bind_eq_ok.mpr ⟨fragment, hfragment,
      bind_eq_ok.mpr ⟨[], rfl, rfl⟩⟩⟩⟩⟩⟩

/-- The query of a scan still builds with some tablets, and with a limit of zero. -/
theorem exists_scan (h : buildSelect (source.scanArguments columns predicate limit none) = .ok r)
    {limit' : Option Nat} (hlimit : limit' = limit ∨ limit' = some 0)
    {tabletIds : Option (List Int)} (hids : ∀ ids ∈ tabletIds, ids ≠ [] ∧
      ∀ id ∈ ids, 0 < id ∧ id.natAbs < 10 ^ maxStrDigits) :
    ∃ query, buildSelect (source.scanArguments columns predicate limit' tabletIds) = .ok query := by
  obtain ⟨projection, hprojection, h⟩ := bind_eq_ok.mp h
  obtain ⟨_, -, h⟩ := bind_eq_ok.mp h
  obtain ⟨rendered, hrendered, h⟩ := bind_eq_ok.mp h
  obtain ⟨fragment, hfragment, h⟩ := bind_eq_ok.mp h
  obtain ⟨text, htext, -⟩ := bind_eq_ok.mp h
  obtain ⟨text, htext⟩ : ∃ text,
      renderLimit none (limit'.map fun n : Nat => PyValue.int n) = .ok text := by
    rcases hlimit with rfl | rfl
    · exact ⟨text, htext⟩
    · exact ⟨_, rfl⟩
  obtain ⟨tablets, htablets⟩ : ∃ tablets,
      renderTablets (tabletIds.map fun ids => ids.map PyValue.int) = .ok tablets := by
    cases tabletIds with
    | none => exact ⟨[], rfl⟩
    | some ids =>
      obtain ⟨hne, hvalid⟩ := hids ids rfl
      have hchecked : (ids.map PyValue.int).mapM checkTabletId = .ok ids := by
        rw [mapM_eq_ok, List.forall₂_map_left_iff, List.forall₂_same]
        intro id hid
        rw [checkTabletId, tabletId?, if_pos (hvalid id hid).1]
      obtain ⟨texts, htexts⟩ : ∃ texts, ids.mapM strInt = .ok texts :=
        exists_mapM_eq_ok fun id hid => strInt_isOk_iff.mpr (hvalid id hid).2
      refine ⟨str " TABLET(" ++ Text.join (str ", ") texts ++ str ")", ?_⟩
      simp only [Option.map_some, renderTablets, List.map_eq_nil_iff]
      rw [if_neg hne, hchecked, ok_bind, htexts, ok_bind]
      rfl
  exact ⟨_, bind_eq_ok.mpr ⟨projection, hprojection, bind_eq_ok.mpr ⟨tablets, htablets,
    bind_eq_ok.mpr ⟨rendered, hrendered, bind_eq_ok.mpr ⟨fragment, hfragment,
      bind_eq_ok.mpr ⟨text, htext, rfl⟩⟩⟩⟩⟩⟩

end DataSource

/-- The values of a statement are naive when the caller's are. -/
theorem naive_of_mem_holes {a : SelectArguments}
    (hcaller : ∀ q ∈ a.queryParameters, q.2.isTimezoneAware = false) {v : PyValue}
    (hv : v ∈ a.statement.template.holes) : v.isTimezoneAware = false := by
  rw [Statement.holes_template, List.mem_append] at hv
  rcases hv with hv | hv
  · cases hfragment : a.unsafeWhereSql with
    | none => simp [SelectArguments.statement, hfragment] at hv
    | some fragment =>
      simp only [SelectArguments.statement, hfragment, Option.map_some, Option.getD_some,
        holes_tokensTemplate, List.mem_map] at hv
      obtain ⟨name, -, rfl⟩ := hv
      cases hlookup : a.queryParameters.lookup name with
      | none => rfl
      | some value =>
        obtain ⟨before, after, hsplit, -⟩ := List.lookup_eq_some_iff.mp hlookup
        exact hcaller (name, value) (hsplit ▸ List.mem_append_right _ List.mem_cons_self)
  · cases hpredicate : a.predicate with
    | none => simp [SelectArguments.statement, hpredicate] at hv
    | some p =>
      simp only [SelectArguments.statement, hpredicate, Option.map_some, Option.getD_some] at hv
      exact naive_of_supported (Predicate.supported_of_mem_literals hv)

/-- A query that builds makes a task if the caller's values are naive. -/
theorem exists_task {a : SelectArguments} {r : Text × List PyValue} (h : buildSelect a = .ok r)
    (hcaller : ∀ q ∈ a.queryParameters, q.2.isTimezoneAware = false)
    (schema : List ArrowField) : ∃ t, task a schema = .ok t := by
  have hsql : r.1 ≠ [] := by
    obtain ⟨_, -, h⟩ := bind_eq_ok.mp h
    obtain ⟨_, -, h⟩ := bind_eq_ok.mp h
    obtain ⟨_, -, h⟩ := bind_eq_ok.mp h
    obtain ⟨_, -, h⟩ := bind_eq_ok.mp h
    obtain ⟨_, -, h⟩ := bind_eq_ok.mp h
    rw [← Except.ok.inj h]
    exact List.cons_ne_nil _ _
  have hnaive : ∀ v ∈ r.2, v.isTimezoneAware = false := by
    have hwritten := buildSelect_eq_ok h
    cases hstyle : a.style with
    | mysql =>
      rw [hstyle] at hwritten
      rw [hwritten.mysql_eq]
      exact fun v => naive_of_mem_holes hcaller
    | flight =>
      rw [hstyle, Written, write_flight_eq_ok_iff] at hwritten
      rw [hwritten.2]
      simp
  have hchecked : (QuerySpec.mk r.1 r.2 [] schema).checked = .ok ⟨r.1, r.2, [], schema⟩ :=
    QuerySpec.checked_of_naive hsql (Or.inr rfl) hnaive (by simp)
  unfold task
  split
  · next e he => exact absurd (h.symm.trans he) (by simp)
  · next r' hr' =>
    obtain rfl := Except.ok.inj (h.symm.trans hr')
    split
    · next e he => exact absurd (hchecked.symm.trans he) (by simp)
    · exact ⟨_, rfl⟩

/-! ## Split scans -/

variable {Cell : Type}

/-- The tablets a task reads. -/
def Task.tablets (t : Task) : List Int := t.tabletIds.getD []

/-- A task returns a row that meets the condition of the scan.  Whatever limit was pushed, it is
ignored; but a LIMIT of zero that was not pushed lets nothing through. -/
def Task.returns (pushed : Option Nat) (meets : Row Cell → Bool) (t : Task) (row : Row Cell) :
    Bool :=
  meets row && (t.tabletIds.all fun ids => decide (row.tablet ∈ ids)) &&
    decide (t.limit = some 0 → pushed = some 0)

namespace DataSource

/-- The plan of a scan. -/
def scanPlan (source : DataSource) (pushdowns : Pushdowns) (predicate : Option Predicate) :
    Planning (Text × List PyValue) (Except PyException (List Int)) (Except PyException TabletPlan) :=
  source.tabletPlan (source.columns pushdowns) predicate (safeDatabaseLimit pushdowns predicate)

/-- The outcomes of planning a split relies on, where `reads` is what the database makes of a
WHERE clause.  The returned ids are positive and pairwise different, and hold every row that
satisfies the WHERE clause of the planning SQL as it was sent. -/
inductive Outcome (source : DataSource) (reads : Text → Row Cell → Bool)
    (table : Multiset (Row Cell)) (planned : Option SentParts) : Except PyException (List Int) → Prop
  | tablets {parts : SentParts} {ids : List Int} (hplanned : planned = some parts)
      (hnodup : ids.Nodup) (hpositive : ∀ id ∈ ids, 0 < id)
      (hcover : ∀ row ∈ table, reads parts.condition row = true → row.tablet ∈ ids) :
      Outcome source reads table planned (.ok ids)
  | failed (message : Message) (hpolicy : source.discoveryPolicy = .single) :
      Outcome source reads table planned (.error (discoveryError message))

/-- What the tasks of a scan are, whatever its plan. -/
structure SplitScan (u : UnicodeData) (literal : PyValue → Text) (source : DataSource)
    (pushdowns : Pushdowns) (predicate : Option Predicate)
    (discover : Text × List PyValue → Except PyException (List Int))
    (reads : Text → Row Cell → Bool) (table : Multiset (Row Cell)) (tasks : List Task) : Prop where
  length_pos : 1 ≤ tasks.length
  length_le : tasks.length ≤ min source.limits.targetTasks source.limits.maxTasks
  /-- Each task sends the SELECT of the scan for its tablets and with its limit. -/
  sends : ∀ t ∈ tasks, sent u literal t.query =
    (source.parts u literal source.transport pushdowns predicate).map fun parts =>
      parts.text t.tabletIds t.limit
  /-- The tasks return the rows that satisfy the WHERE clause, each as often as the table has
  it. -/
  rows : ∀ parts, source.parts u literal source.transport pushdowns predicate = some parts →
    (tasks.map fun t => table.filter fun row => t.returns (safeDatabaseLimit pushdowns predicate)
      (reads parts.condition) row).sum = table.filter fun row => reads parts.condition row
  /-- Every returned tablet is read by exactly one task. -/
  once : ∀ query ids, (source.scanPlan pushdowns predicate).question? = some query →
    discover query = .ok ids → ids ≠ [] → ∀ id ∈ ids,
      (tasks.countP fun t => decide (id ∈ t.tablets)) = 1
  /-- The limit is the pushed one unless no tablets were returned. -/
  limits : ∀ t ∈ tasks, t.limit = safeDatabaseLimit pushdowns predicate ∨
    ∃ query, (source.scanPlan pushdowns predicate).question? = some query ∧ discover query = .ok []
  /-- An empty list of tablets makes one task that returns nothing. -/
  empty : ∀ query, (source.scanPlan pushdowns predicate).question? = some query →
    discover query = .ok [] → ∃ t, tasks = [t] ∧ t.limit = some 0

variable {u : UnicodeData} {literal : PyValue → Text} {source : DataSource} {pushdowns : Pushdowns}
  {predicate : Option Predicate} {discover : Text × List PyValue → Except PyException (List Int)}
  {reads : Text → Row Cell → Bool} {table : Multiset (Row Cell)}

/-- The WHERE clause of the planning SQL, as it arrives, selects what that of the tasks does. -/
def ReadsAlike (u : UnicodeData) (literal : PyValue → Text) (source : DataSource)
    (pushdowns : Pushdowns) (predicate : Option Predicate) (reads : Text → Row Cell → Bool)
    (table : Multiset (Row Cell)) : Prop :=
  ∀ planned parts, source.parts u literal .mysql pushdowns predicate = some planned →
    source.parts u literal source.transport pushdowns predicate = some parts →
    ∀ row ∈ table, reads planned.condition row = reads parts.condition row

/-- A task of a scan reads the tablets and has the limit it was made for. -/
theorem task_of_arguments {t : Task} {limit : Option Nat} {tabletIds : Option (List Int)}
    (hpositive : ∀ ids ∈ tabletIds, ∀ id ∈ ids, 0 < id)
    (harguments : t.arguments =
      source.scanArguments (source.columns pushdowns) predicate limit tabletIds) :
    t.tabletIds = tabletIds ∧ t.limit = limit ∧ sent u literal t.query =
      (source.parts u literal source.transport pushdowns predicate).map fun parts =>
        parts.text tabletIds limit := by
  have hstatement : t.arguments.statement = source.select pushdowns predicate tabletIds limit := by
    rw [harguments]
    exact statement_scanArguments hpositive
  refine ⟨by rw [Task.tabletIds, hstatement]; rfl, ?_, ?_⟩
  · rw [Task.limit, hstatement]
    cases limit <;> rfl
  · have hsent := @sent_of_statement u literal _ _ _ _ _ _ _ hstatement t.built
    rwa [harguments] at hsent

/-- The tablets of the groups are those returned, once each. -/
theorem groups_positive {ids : List Int} (hpositive : ∀ id ∈ ids, 0 < id) :
    ∀ g ∈ groupAdjacentIds ids source.limits.targetTasks source.limits.maxTasks,
      ∀ id ∈ g, 0 < id := by
  intro g hg id hid
  have hflatten := (groupAdjacentIds_spec ids source.limits.targetTasks_valid.1
    source.limits.maxTasks_valid.1).1
  have hmem : id ∈ sortInts ids := hflatten ▸ List.mem_flatten_of_mem hg hid
  exact hpositive id ((List.mergeSort_perm ids _).mem_iff.mp hmem)

/-- A scan of one unrestricted group is the unsplit query, up to its limit. -/
theorem splitScan_of_single {limit : Option Nat} {t : Task}
    (harguments : t.arguments = source.scanArguments (source.columns pushdowns) predicate limit none)
    (hlimit : (limit = safeDatabaseLimit pushdowns predicate ∧
        ∀ query ids, (source.scanPlan pushdowns predicate).question? = some query →
          discover query ≠ .ok ids) ∨
      limit = some 0 ∧ (∃ query, (source.scanPlan pushdowns predicate).question? = some query ∧
          discover query = .ok []) ∧
        ∀ parts, source.parts u literal source.transport pushdowns predicate = some parts →
          ∀ row ∈ table, reads parts.condition row = false) :
    SplitScan u literal source pushdowns predicate discover reads table [t] := by
  obtain ⟨htablets, htask, hsent⟩ : t.tabletIds = none ∧ t.limit = limit ∧ _ :=
    task_of_arguments (fun ids hids => by cases hids) harguments
  have htarget := source.limits.targetTasks_valid.1
  have hmax := source.limits.maxTasks_valid.1
  refine ⟨le_rfl, by rw [List.length_singleton]; omega, ?_, ?_, ?_, ?_, ?_⟩
  · intro t' ht'
    obtain rfl := List.mem_singleton.mp ht'
    rw [htablets, htask]
    exact hsent
  · intro parts hparts
    rw [List.map_singleton, List.sum_singleton]
    refine Multiset.filter_congr fun row hrow => ?_
    rw [Task.returns, htablets, htask, Option.all_none, Bool.and_true]
    rcases hlimit with ⟨rfl, -⟩ | ⟨-, -, hnothing⟩
    · simp
    · simp [hnothing parts hparts row hrow]
  · intro query ids hquery hids hne
    rcases hlimit with ⟨-, hnone⟩ | ⟨-, ⟨query', hquery', hempty⟩, -⟩
    · exact absurd hids (hnone query ids hquery)
    · obtain rfl := Option.some.inj (hquery'.symm.trans hquery)
      exact absurd (Except.ok.inj (hids.symm.trans hempty)) hne
  · intro t' ht'
    obtain rfl := List.mem_singleton.mp ht'
    exact hlimit.imp (fun h => htask.trans h.1) fun h => h.2.1
  · intro query hquery hids
    refine ⟨t, rfl, ?_⟩
    rcases hlimit with ⟨-, hnone⟩ | ⟨hzero, -⟩
    · exact absurd hids (hnone query [] hquery)
    · rw [htask, hzero]

/-- A scan of the groups of the returned tablets. -/
theorem splitScan_of_groups {ids : List Int} {tasks : List Task}
    (hne : ids ≠ []) (hnodup : ids.Nodup) (hpositive : ∀ id ∈ ids, 0 < id)
    (hcover : ∀ parts, source.parts u literal source.transport pushdowns predicate = some parts →
      ∀ row ∈ table, reads parts.condition row = true → row.tablet ∈ ids)
    (honly : ∀ query ids', (source.scanPlan pushdowns predicate).question? = some query →
      discover query = .ok ids' → ids' = ids)
    (htasks : List.Forall₂ (fun g t => t.arguments = source.scanArguments
        (source.columns pushdowns) predicate (safeDatabaseLimit pushdowns predicate) (some g))
      (groupAdjacentIds ids source.limits.targetTasks source.limits.maxTasks) tasks) :
    SplitScan u literal source pushdowns predicate discover reads table tasks := by
  obtain ⟨hflatten, hlength, -⟩ := groupAdjacentIds_spec ids source.limits.targetTasks_valid.1
    source.limits.maxTasks_valid.1
  have hpos : ∀ g ∈ groupAdjacentIds ids source.limits.targetTasks source.limits.maxTasks,
      ∀ id ∈ g, 0 < id := groups_positive hpositive
  generalize groupAdjacentIds ids source.limits.targetTasks source.limits.maxTasks = groups at *
  have hperm : groups.flatten.Perm ids := by
    rw [hflatten]
    exact List.mergeSort_perm ids _
  have hgroups : groups.flatten.Nodup := hperm.nodup_iff.mpr hnodup
  have hmade : List.Forall₂ (fun g t => t.tabletIds = some g ∧
      t.limit = safeDatabaseLimit pushdowns predicate ∧ sent u literal t.query =
        (source.parts u literal source.transport pushdowns predicate).map fun parts =>
          parts.text t.tabletIds t.limit) groups tasks := by
    refine ((List.forall₂_and_left _ _).mpr ⟨hpos, htasks⟩).imp ?_
    rintro g t ⟨hpos, harguments⟩
    obtain ⟨htablets, hlimit, hsent⟩ : t.tabletIds = some g ∧ _ ∧ _ :=
      task_of_arguments (fun ids hids => Option.some.inj hids ▸ hpos) harguments
    rw [htablets, hlimit]
    exact ⟨rfl, rfl, hsent⟩
  have hcount : ∀ id, (tasks.countP fun t => decide (id ∈ t.tablets)) =
      groups.countP fun g => decide (id ∈ g) := by
    intro id
    refine Scan.countP_eq_of_forall₂ (hmade.imp ?_)
    rintro g t ⟨htablets, -⟩
    rw [Task.tablets, htablets]
    rfl
  have hsplits : ∀ parts, source.parts u literal source.transport pushdowns predicate = some parts →
      Scan.Splits table tasks
        (fun t row => t.returns (safeDatabaseLimit pushdowns predicate) (reads parts.condition) row)
        (fun row => reads parts.condition row) := by
    intro parts hparts
    refine (Scan.Splits.of_groups Row.tablet hgroups ?_).of_forall₂ (hmade.imp ?_)
    · intro row hrow hreads
      exact hperm.mem_iff.mpr (hcover parts hparts row hrow hreads)
    · rintro g t ⟨htablets, hlimit, -⟩ row -
      rw [Task.returns, htablets, hlimit]
      simp
  refine ⟨?_, htasks.length_eq ▸ hlength, fun t ht => ?_, fun parts hparts =>
    (hsplits parts hparts).sum_filter, ?_, fun t ht => ?_, ?_⟩
  · rw [← htasks.length_eq, Nat.one_le_iff_ne_zero, Ne, List.length_eq_zero_iff]
    rintro rfl
    exact hne hperm.nil_eq.symm
  · obtain ⟨g, -, -, -, hsent⟩ := exists_of_mem_right hmade t ht
    exact hsent
  · intro query ids' hquery hids' _ id hid
    rw [hcount, Scan.countP_mem_groups hgroups,
      if_pos (hperm.mem_iff.mpr (honly query ids' hquery hids' ▸ hid))]
  · obtain ⟨g, -, -, hlimit, -⟩ := exists_of_mem_right hmade t ht
    exact Or.inl hlimit
  · intro query hquery hids'
    exact absurd (honly query [] hquery hids').symm hne

theorem splitScan_of_scanTasks {tasks : List Task}
    (hreads : (source.scanPlan pushdowns predicate).question? ≠ none →
      ReadsAlike u literal source pushdowns predicate reads table)
    (houtcome : ∀ query, (source.scanPlan pushdowns predicate).question? = some query →
      Outcome source reads table (source.parts u literal .mysql pushdowns predicate)
        (discover query))
    {plan : TabletPlan} (hplan : (source.scanPlan pushdowns predicate).run discover = .ok plan)
    (htasks : List.Forall₂ (fun tabletIds t => t.arguments = source.scanArguments
      (source.columns pushdowns) predicate (taskLimit pushdowns predicate plan) tabletIds)
      plan.groups tasks) :
    SplitScan u literal source pushdowns predicate discover reads table tasks := by
  rcases tabletPlan_eq_ok hplan with ⟨rfl, hnone⟩ | ⟨query, ids, hquery, hids, hcases⟩
  · obtain ⟨t, _, harguments, hrest, rfl⟩ := List.forall₂_cons_left_iff.mp htasks
    obtain rfl := List.forall₂_nil_left_iff.mp hrest
    exact splitScan_of_single harguments (Or.inl ⟨rfl, hnone⟩)
  · have hoccurred := houtcome query hquery
    rw [hids] at hoccurred
    cases hoccurred with
    | tablets hplanned hnodup hpositive hcover =>
      have hcover : ∀ parts, source.parts u literal source.transport pushdowns predicate =
          some parts → ∀ row ∈ table, reads parts.condition row = true → row.tablet ∈ ids :=
        fun parts hparts row hrow h =>
          hcover row hrow ((hreads (hquery ▸ Option.some_ne_none query) _ parts hplanned hparts row
            hrow).trans h)
      rcases hcases with ⟨rfl, rfl⟩ | ⟨hne, rfl⟩
      · obtain ⟨t, _, harguments, hrest, rfl⟩ := List.forall₂_cons_left_iff.mp htasks
        obtain rfl := List.forall₂_nil_left_iff.mp hrest
        refine splitScan_of_single harguments (Or.inr ⟨rfl, ⟨query, hquery, hids⟩, ?_⟩)
        intro parts hparts row hrow
        exact Bool.eq_false_iff.mpr fun h => List.not_mem_nil (hcover parts hparts row hrow h)
      · refine splitScan_of_groups hne hnodup hpositive hcover (fun query' ids' hquery' hids' => ?_)
          (List.forall₂_map_left_iff.mp htasks)
        obtain rfl := Option.some.inj (hquery'.symm.trans hquery)
        exact Except.ok.inj (hids'.symm.trans hids)

theorem groups_ne_nil {plan : TabletPlan}
    (hplan : (source.scanPlan pushdowns predicate).run discover = .ok plan) : plan.groups ≠ [] := by
  rcases tabletPlan_eq_ok hplan with ⟨rfl, -⟩ | ⟨query, ids, -, -, ⟨-, rfl⟩ | ⟨hne, rfl⟩⟩
  · simp
  · simp
  · intro hnil
    have hflatten := (groupAdjacentIds_spec ids source.limits.targetTasks_valid.1
      source.limits.maxTasks_valid.1).1
    rw [List.map_eq_nil_iff.mp hnil] at hflatten
    have hperm : (sortInts ids).Perm ids := List.mergeSort_perm ids _
    rw [← hflatten] at hperm
    exact hne hperm.nil_eq.symm

theorem exists_scanPlan {query : Text × List PyValue} {planned : Option SentParts}
    (hquery : buildSelect (source.planningArguments (source.columns pushdowns) predicate) = .ok query)
    (houtcome : ∀ query, (source.scanPlan pushdowns predicate).question? = some query →
      Outcome source reads table planned (discover query)) :
    ∃ plan, (source.scanPlan pushdowns predicate).run discover = .ok plan := by
  unfold scanPlan tabletPlan at *
  split
  · exact ⟨_, rfl⟩
  · next hask =>
    rw [if_neg hask, hquery] at houtcome
    have houtcome := houtcome query rfl
    rw [hquery]
    simp only [Planning.run]
    generalize discover query = answer at houtcome
    cases houtcome with
    | tablets => exact ⟨_, (apply_ite Except.ok _ _ _).symm⟩
    | failed message hpolicy => exact ⟨_, if_pos ⟨rfl, by simp [hpolicy]⟩⟩

/-- A scan makes its tasks when its query builds with their limit and the returned ids are no
longer than `str` accepts. -/
theorem exists_scanTasks {limit : Option Nat} {planned : Option SentParts} {r : Text × List PyValue}
    (hknown : ∀ c ∈ pushdowns.requested source.names, c ∈ source.names)
    (hcolumns : source.columns pushdowns ≠ [])
    (hpredicate : compileFilter pushdowns.filters = .ok predicate)
    (houtcome : ∀ query, (source.scanPlan pushdowns predicate).question? = some query →
      Outcome source reads table planned (discover query))
    (hbuilt : buildSelect (source.scanArguments (source.columns pushdowns) predicate limit none) =
      .ok r)
    (hlimit : ∀ plan, (source.scanPlan pushdowns predicate).run discover = .ok plan →
      taskLimit pushdowns predicate plan = limit ∨ taskLimit pushdowns predicate plan = some 0)
    (hshort : ∀ query ids, (source.scanPlan pushdowns predicate).question? = some query →
      discover query = .ok ids → ∀ id ∈ ids, id.natAbs < 10 ^ maxStrDigits) :
    ∃ tasks, source.scanTasks pushdowns discover = .ok tasks := by
  have hnames : ∀ c ∈ source.columns pushdowns, c ∈ source.names :=
    fun c hc => (List.mem_filter.mp hc).1
  obtain ⟨schema, hschema⟩ := exists_projectSchema source.names_nodup hnames
  obtain ⟨query, hquery⟩ := exists_planning hbuilt
  obtain ⟨plan, hplan⟩ := exists_scanPlan hquery houtcome
  have hvalid : ∀ tabletIds ∈ plan.groups, ∀ ids ∈ tabletIds, ids ≠ [] ∧
      ∀ id ∈ ids, 0 < id ∧ id.natAbs < 10 ^ maxStrDigits := by
    rcases tabletPlan_eq_ok hplan with ⟨rfl, -⟩ | ⟨query, ids, hquery, hids, hcases⟩
    · simp
    · rcases hcases with ⟨-, rfl⟩ | ⟨-, rfl⟩
      · simp
      · have houtcome := houtcome query hquery
        rw [hids] at houtcome
        cases houtcome with
        | tablets _ _ hpositive _ =>
          obtain ⟨hflatten, -, hsome⟩ := groupAdjacentIds_spec ids source.limits.targetTasks_valid.1
            source.limits.maxTasks_valid.1
          intro tabletIds hgroup group hmem
          obtain ⟨g, hg, rfl⟩ := List.mem_map.mp hgroup
          obtain rfl := Option.some.inj hmem
          refine ⟨hsome g hg, fun id hid => ⟨groups_positive hpositive g hg id hid, ?_⟩⟩
          have hmem : id ∈ sortInts ids := hflatten ▸ List.mem_flatten_of_mem hg hid
          exact hshort query ids hquery hids id ((List.mergeSort_perm ids _).mem_iff.mp hmem)
  obtain ⟨tasks, htasks⟩ : ∃ tasks, (plan.groups.mapM fun tabletIds =>
      task (source.scanArguments (source.columns pushdowns) predicate
        (taskLimit pushdowns predicate plan) tabletIds) schema) = .ok tasks := by
    refine exists_mapM_eq_ok fun tabletIds hgroup => ?_
    obtain ⟨query, hquery⟩ := exists_scan hbuilt (hlimit plan hplan) (hvalid tabletIds hgroup)
    exact exists_task hquery source.queryParameters.naive schema
  refine ⟨tasks, bind_eq_ok.mpr ⟨source.columns pushdowns, requiredScanColumns_of_known hknown, ?_⟩⟩
  rw [if_neg hcolumns, hschema, ok_bind, hpredicate, ok_bind]
  exact bind_eq_ok.mpr ⟨plan, hplan, htasks⟩

/-- An answer the plan does not recover from is the error of the scan. -/
theorem scanTasks_eq_error {query : Text × List PyValue} {e : PyException}
    (hknown : ∀ c ∈ pushdowns.requested source.names, c ∈ source.names)
    (hcolumns : source.columns pushdowns ≠ [])
    (hpredicate : compileFilter pushdowns.filters = .ok predicate)
    (hquery : (source.scanPlan pushdowns predicate).question? = some query)
    (he : discover query = .error e)
    (hpropagates : e.kind? ≠ some .discovery ∨ source.discoveryPolicy = .error) :
    source.scanTasks pushdowns discover = .error e := by
  have hnames : ∀ c ∈ source.columns pushdowns, c ∈ source.names :=
    fun c hc => (List.mem_filter.mp hc).1
  obtain ⟨schema, hschema⟩ := exists_projectSchema source.names_nodup hnames
  have hplan : (source.scanPlan pushdowns predicate).run discover = .error e := by
    unfold scanPlan tabletPlan at hquery ⊢
    split at hquery
    · cases hquery
    · next hask =>
      rw [if_neg hask]
      split at hquery
      · cases hquery
      · next query' hbuilt =>
        obtain rfl : query' = query := Option.some.inj hquery
        simp only [Planning.run, he]
        refine if_neg ?_
        rintro ⟨hkind, hpolicy⟩
        exact hpropagates.elim (absurd hkind) hpolicy
  rw [scanTasks, requiredScanColumns_of_known hknown, ok_bind]
  show (if source.columns pushdowns = [] then _ else _) = _
  rw [if_neg hcolumns]
  show (projectSchema source.arrowSchema (source.columns pushdowns) >>= _) = _
  rw [hschema, ok_bind, hpredicate, ok_bind]
  show ((source.scanPlan pushdowns predicate).run discover >>= _) = _
  rw [hplan]
  rfl

/-! ## When planning reads the condition of the tasks -/

theorem parts_eq_some_iff {style : ParameterStyle} {parts : SentParts} :
    source.parts u literal style pushdowns predicate = some parts ↔
      written u literal style (source.select pushdowns predicate none none).template.holes
        (source.select pushdowns predicate none none).head = some parts.head ∧
      written u literal style (source.select pushdowns predicate none none).template.holes
        (source.select pushdowns predicate none none).whereClause = some parts.condition := by
  obtain ⟨head', condition'⟩ := parts
  unfold DataSource.parts
  simp only
  cases written u literal style _ (source.select pushdowns predicate none none).head with
  | none => simp
  | some head =>
    cases written u literal style _ (source.select pushdowns predicate none none).whereClause with
    | none => simp
    | some condition =>
      simp only [Option.some.injEq]
      constructor
      · intro h
        have h := Option.some.inj h
        exact ⟨congrArg SentParts.head h, congrArg SentParts.condition h⟩
      · intro h
        show some (SentParts.mk head condition) = _
        rw [h.1, h.2]

theorem clean_fragment (source : DataSource) : ∀ T ∈ source.fragment, ∀ p ∈ T, p.Clean := by
  intro T hT
  obtain ⟨text, -, rfl⟩ := Option.map_eq_some_iff.mp hT
  exact clean_tokensTemplate _ _

/-- A query with values can be bound when each name it quotes can be formatted. -/
theorem isSome_parts_mysql
    (hholes : (source.select pushdowns predicate none none).template.holes ≠ []) :
    (source.parts u literal .mysql pushdowns predicate).isSome ↔
      ∀ name ∈ (source.select pushdowns predicate none none).identifiers,
        (formatAlone u (quoted name)).isSome := by
  rw [← Statement.isSome_bound_iff (s := source.select pushdowns predicate none none)
    (clean_fragment source), DataSource.parts]
  simp only [written, if_neg hholes]
  cases Template.bound u (source.select pushdowns predicate none none).head with
  | none => simp
  | some head =>
    cases Template.bound u (source.select pushdowns predicate none none).whereClause <;> simp

/-- The conditions on a scan under which the planning SQL, bound as PyMySQL binds, keeps the
WHERE clause of its tasks. -/
inductive PlansAlike (u : UnicodeData) (source : DataSource) (pushdowns : Pushdowns)
    (predicate : Option Predicate) : Prop
  /-- The tasks are bound in the same way. -/
  | mysql (h : source.transport = .mysql) : PlansAlike u source pushdowns predicate
  | single (h : source.split = .single) : PlansAlike u source pushdowns predicate
  | noRows (h : pushdowns.limit = some 0) : PlansAlike u source pushdowns predicate
  | unbound (h : source.BindsNothing predicate) : PlansAlike u source pushdowns predicate
  | plain (h : ∀ p ∈ predicate, ∀ c ∈ p.referencedColumns, PyChar.scalar '%' ∉ c) :
      PlansAlike u source pushdowns predicate
  /-- The planning SQL cannot be formatted, so that there is no planning. -/
  | refused {name : Text}
      (hname : name ∈ (source.select pushdowns predicate none none).identifiers)
      (h : formatAlone u (quoted name) = none) : PlansAlike u source pushdowns predicate
  /-- There are no tasks. -/
  | unbuilt (h : ∀ r, buildSelect (source.scanArguments (source.columns pushdowns) predicate none
      none) ≠ .ok r) : PlansAlike u source pushdowns predicate

/-- The database makes the same of the literals of PyMySQL and of those of Flight. -/
def SameLiterals (source : DataSource) (pushdowns : Pushdowns) (predicate : Option Predicate)
    (literal : PyValue → Text) (reads : Text → Row Cell → Bool) (table : Multiset (Row Cell)) : Prop :=
  ∀ row ∈ table,
    reads ((source.select pushdowns predicate none none).whereClause.fill literal) row =
      reads ((source.select pushdowns predicate none none).whereClause.fill flightText) row

/-- The template of a query without values. -/
theorem holes_select {r : Text × List PyValue}
    (hbuilt : buildSelect (source.scanArguments (source.columns pushdowns) predicate none none) =
      .ok r) :
    (source.select pushdowns predicate none none).template.holes = [] ↔
      source.BindsNothing predicate := by
  rw [← statement_unsplit]
  exact holes_eq_nil_iff hbuilt

theorem stray_whereClause (source : DataSource) (pushdowns : Pushdowns)
    (predicate : Option Predicate) :
    (source.select pushdowns predicate none none).whereClause.stray = 0 ↔
      ∀ p ∈ predicate, ∀ c ∈ p.referencedColumns, PyChar.scalar '%' ∉ c := by
  rw [Template.stray_eq_zero_iff, Statement.whereClause,
    Statement.clean_where_iff (s := source.select pushdowns predicate none none)
      (clean_fragment source)]
  show (∀ name ∈ (predicate.map Predicate.referencedColumns).getD [], _) ↔ _
  cases predicate <;> simp

theorem readsAlike_of_plansAlike (h : PlansAlike u source pushdowns predicate)
    {r : Text × List PyValue}
    (hbuilt : buildSelect (source.scanArguments (source.columns pushdowns) predicate none none) =
      .ok r)
    (hasked : (source.scanPlan pushdowns predicate).question? ≠ none)
    (hliterals : SameLiterals source pushdowns predicate literal reads table) :
    ReadsAlike u literal source pushdowns predicate reads table := by
  have hskip : ¬ (source.split = .single ∨ safeDatabaseLimit pushdowns predicate = some 0) := by
    intro hskip
    rw [scanPlan, tabletPlan, if_pos hskip] at hasked
    exact hasked rfl
  intro planned parts hplanned hparts row hrow
  cases htransport : source.transport with
  | mysql =>
    rw [htransport, hplanned] at hparts
    rw [Option.some.inj hparts]
  | flight =>
    have hwhere := (parts_eq_some_iff.mp hplanned).2
    rw [htransport] at hparts
    have hcondition := Option.some.inj (parts_eq_some_iff.mp hparts).2
    have hplain : (source.select pushdowns predicate none none).template.holes = [] ∨
        (source.select pushdowns predicate none none).whereClause.stray = 0 →
          planned.condition =
            (source.select pushdowns predicate none none).whereClause.fill literal := by
      intro hplain
      rw [written] at hwhere
      by_cases hholes : (source.select pushdowns predicate none none).template.holes = []
      · rw [if_pos hholes] at hwhere
        exact (Option.some.inj hwhere).symm
      · rw [if_neg hholes, Template.bound_of_stray_eq_zero (hplain.resolve_left hholes)] at hwhere
        exact (Option.some.inj hwhere).symm
    have hsame : (source.select pushdowns predicate none none).template.holes = [] ∨
        (source.select pushdowns predicate none none).whereClause.stray = 0 →
          reads planned.condition row = reads parts.condition row := by
      intro hplain'
      rw [hplain hplain', ← hcondition]
      exact hliterals row hrow
    cases h with
    | mysql h => cases htransport.symm.trans h
    | single h => exact absurd (Or.inl h) hskip
    | noRows h => exact absurd (Or.inr ((safeDatabaseLimit_eq_zero_iff _ _).mpr h)) hskip
    | unbound h => exact hsame (Or.inl ((holes_select hbuilt).mpr h))
    | plain h => exact hsame (Or.inr ((stray_whereClause _ _ _).mpr h))
    | refused hname h =>
      by_cases hholes : (source.select pushdowns predicate none none).template.holes = []
      · exact hsame (Or.inl hholes)
      · have hsome : (source.parts u literal .mysql pushdowns predicate).isSome := by
          rw [hplanned]
          rfl
        have hbound := (isSome_parts_mysql hholes).mp hsome _ hname
        rw [h] at hbound
        cases hbound
    | unbuilt h => exact absurd hbuilt (h r)

/-- Over Flight the WHERE clause of the planning SQL is another one if a value is bound beside a
column with a percent sign. -/
theorem condition_planned_ne (htransport : source.transport = .flight)
    {r : Text × List PyValue}
    (hbuilt : buildSelect (source.scanArguments (source.columns pushdowns) predicate none none) =
      .ok r)
    (hbinds : ¬ source.BindsNothing predicate)
    (hpercent : ¬ ∀ p ∈ predicate, ∀ c ∈ p.referencedColumns, PyChar.scalar '%' ∉ c)
    {planned : SentParts}
    (hplanned : source.parts u flightText .mysql pushdowns predicate = some planned) :
    planned.condition ≠
      (source.select pushdowns predicate none none).whereClause.fill flightText := by
  intro hsame
  have hholes := mt (holes_select hbuilt).mp hbinds
  have hwhere := (parts_eq_some_iff.mp hplanned).2
  rw [written, if_neg hholes, hsame] at hwhere
  have hwritten := buildSelect_eq_ok hbuilt
  rw [show (source.scanArguments (source.columns pushdowns) predicate none none).style = .flight
    from htransport, Written, write_flight_eq_ok_iff, statement_unsplit] at hwritten
  have hpercentFree : ∀ v ∈ (source.select pushdowns predicate none none).whereClause.holes,
      PyChar.scalar '%' ∉ flightText v := by
    intro v hv
    refine percent_not_mem_renderFlightLiteral (hwritten.1 v ?_)
    rw [Statement.template_eq]
    simp [hv]
  have hclosed : Template.Closed u (source.select pushdowns predicate none none).whereClause := by
    rw [← statement_unsplit]
    exact Statement.closed_whereClause (closed_fragment _)
  have hformat : percentFormat u
      ((source.select pushdowns predicate none none).whereClause.format fun _ => str "%s")
      ((source.select pushdowns predicate none none).whereClause.holes.map flightText) =
        .ok ((source.select pushdowns predicate none none).whereClause.fill flightText) := by
    have hoption := (percentFormat_closed (σ := flightText) hclosed).trans hwhere
    cases hrun : percentFormat u
        ((source.select pushdowns predicate none none).whereClause.format fun _ => str "%s")
        ((source.select pushdowns predicate none none).whereClause.holes.map flightText) with
    | error e =>
      rw [hrun] at hoption
      cases hoption
    | ok t =>
      rw [hrun] at hoption
      exact congrArg _ (Option.some.inj hoption)
  exact hpercent ((stray_whereClause _ _ _).mp ((percentFormat_template_iff hpercentFree).mp hformat))

/-! ## Equivalence with the unsplit scan -/

/-- Split scans are equivalent to the unsplit scan, whatever the table holds, whatever literals
PyMySQL writes, and whatever the planner answers in an outcome that a split relies on. -/
structure EquivalentScans (u : UnicodeData) (source : DataSource) (pushdowns : Pushdowns)
    (predicate : Option Predicate) : Prop where
  /-- The tasks are the unsplit scan, split. -/
  splits : ∀ (Cell : Type) (literal : PyValue → Text) (reads : Text → Row Cell → Bool)
    (table : Multiset (Row Cell)) (discover : Text × List PyValue → Except PyException (List Int)),
    SameLiterals source pushdowns predicate literal reads table →
    (∀ query, (source.scanPlan pushdowns predicate).question? = some query →
      Outcome source reads table (source.parts u literal .mysql pushdowns predicate)
        (discover query)) →
    ∀ tasks, source.getTasks pushdowns discover = .ok tasks →
      SplitScan u literal source pushdowns predicate discover reads table tasks
  /-- They are made whenever the unsplit query builds. -/
  builds : ∀ (Cell : Type) (literal : PyValue → Text) (reads : Text → Row Cell → Bool)
    (table : Multiset (Row Cell)) (discover : Text × List PyValue → Except PyException (List Int)),
    (∀ query, (source.scanPlan pushdowns predicate).question? = some query →
      Outcome source reads table (source.parts u literal .mysql pushdowns predicate)
        (discover query)) →
    (∃ r, buildSelect (source.unsplit pushdowns predicate) = .ok r) →
    (∀ query ids, (source.scanPlan pushdowns predicate).question? = some query →
      discover query = .ok ids → ∀ id ∈ ids, id.natAbs < 10 ^ maxStrDigits) →
    ∃ tasks, source.getTasks pushdowns discover = .ok tasks
  /-- The unsplit query and the planning SQL are the SELECT of the scan, as they are sent. -/
  sends : ∀ (literal : PyValue → Text) (r query : Text × List PyValue),
    (buildSelect (source.unsplit pushdowns predicate) = .ok r → sent u literal r =
      (source.parts u literal source.transport pushdowns predicate).map fun parts =>
        parts.text none (safeDatabaseLimit pushdowns predicate)) ∧
    ((source.scanPlan pushdowns predicate).question? = some query → sent u literal query =
      (source.parts u literal .mysql pushdowns predicate).map fun parts => parts.text none none)
  /-- A scan that is not split and a scan of no rows ask no planner. -/
  quiet : source.split = .single ∨ pushdowns.limit = some 0 →
    (source.scanPlan pushdowns predicate).question? = none
  /-- An answer that the policy does not forgive is raised. -/
  raises : ∀ (discover : Text × List PyValue → Except PyException (List Int)) query e,
    (source.scanPlan pushdowns predicate).question? = some query → discover query = .error e →
    e.kind? ≠ some .discovery ∨ source.discoveryPolicy = .error →
    source.getTasks pushdowns discover = .error e

section Equivalent

variable (haggregation : pushdowns.aggregation = none)
  (hknown : ∀ c ∈ pushdowns.requested source.names, c ∈ source.names)
  (hcolumns : source.columns pushdowns ≠ [])
  (hpredicate : compileFilter pushdowns.filters = .ok predicate)

include haggregation hpredicate in
theorem splits_of_plansAlike (h : PlansAlike u source pushdowns predicate)
    (hliterals : SameLiterals source pushdowns predicate literal reads table)
    (houtcome : ∀ query, (source.scanPlan pushdowns predicate).question? = some query →
      Outcome source reads table (source.parts u literal .mysql pushdowns predicate)
        (discover query))
    {tasks : List Task} (htasks : source.getTasks pushdowns discover = .ok tasks) :
    SplitScan u literal source pushdowns predicate discover reads table tasks := by
  rw [getTasks_eq_scanTasks haggregation] at htasks
  obtain ⟨predicate', plan, hpredicate', hplan, htasks⟩ := scanTasks_eq_ok htasks
  obtain rfl := Except.ok.inj (hpredicate'.symm.trans hpredicate)
  refine splitScan_of_scanTasks (fun hasked => ?_) houtcome hplan htasks
  -- a task was built, so its query builds without tablets and limit too
  obtain ⟨t, ht⟩ : ∃ t, t ∈ tasks := by
    refine List.exists_mem_of_ne_nil tasks fun hnil => groups_ne_nil hplan ?_
    rwa [hnil, List.forall₂_nil_right_iff] at htasks
  obtain ⟨ids, -, harguments⟩ := exists_of_mem_right htasks t ht
  have hbuilt := t.built
  rw [harguments] at hbuilt
  obtain ⟨r, hbuilt⟩ := exists_unlimited hbuilt
  exact readsAlike_of_plansAlike h hbuilt hasked hliterals

include haggregation hknown hcolumns hpredicate in
/-- A planner that reads another condition may find no row of it where the tasks have one. -/
theorem not_equivalent_of_not_alike (h : ¬ PlansAlike u source pushdowns predicate) :
    ¬ EquivalentScans u source pushdowns predicate := by
  intro hequivalent
  have htransport : source.transport = .flight := by
    cases htransport : source.transport with
    | mysql => exact absurd (.mysql htransport) h
    | flight => rfl
  have hask : ¬ (source.split = .single ∨ safeDatabaseLimit pushdowns predicate = some 0) := by
    rintro (hsingle | hzero)
    · exact h (.single hsingle)
    · exact h (.noRows ((safeDatabaseLimit_eq_zero_iff _ _).mp hzero))
  obtain ⟨r, hbuilt⟩ : ∃ r, buildSelect (source.scanArguments (source.columns pushdowns) predicate
      none none) = .ok r := by
    by_contra hnone
    exact h (.unbuilt fun r hr => hnone ⟨r, hr⟩)
  have hbinds : ¬ source.BindsNothing predicate := fun hnothing => h (.unbound hnothing)
  obtain ⟨planned, hplanned⟩ : ∃ planned,
      source.parts u flightText .mysql pushdowns predicate = some planned := by
    refine Option.isSome_iff_exists.mp ((isSome_parts_mysql
      (mt (holes_select hbuilt).mp hbinds)).mpr fun name hname => ?_)
    by_contra hrefused
    exact h (.refused hname (Option.not_isSome_iff_eq_none.mp hrefused))
  have hne := condition_planned_ne htransport hbuilt hbinds (fun hplain => h (.plain hplain)) hplanned
  -- one row, which only the condition of the tasks selects; so no tablets are planned
  let condition := (source.select pushdowns predicate none none).whereClause.fill flightText
  let reads : Text → Row Unit → Bool := fun text _ => decide (text = condition)
  let table : Multiset (Row Unit) := {⟨fun _ => (), 1⟩}
  have houtcome : ∀ query, (source.scanPlan pushdowns predicate).question? = some query →
      Outcome source reads table (source.parts u flightText .mysql pushdowns predicate)
        ((fun _ => .ok []) query) := fun query _ =>
    .tablets hplanned List.nodup_nil (fun id hid => absurd hid List.not_mem_nil) fun row _ hreads =>
      absurd (of_decide_eq_true hreads) hne
  obtain ⟨query, hquery⟩ := exists_planning hbuilt
  have hasked : (source.scanPlan pushdowns predicate).question? = some query := by
    rw [scanPlan, tabletPlan, if_neg hask, hquery]
    rfl
  obtain ⟨tasks, htasks⟩ : ∃ tasks, source.scanTasks pushdowns (fun _ => .ok []) = .ok tasks := by
    refine exists_scanTasks hknown hcolumns hpredicate houtcome hbuilt (fun plan hplan => ?_)
      fun _ ids _ hids id hid => ?_
    · rcases tabletPlan_eq_ok hplan with ⟨rfl, hnone⟩ | ⟨_, ids, _, hids, ⟨-, rfl⟩ | ⟨hne, -⟩⟩
      · exact absurd rfl (hnone query [] hasked)
      · exact Or.inr rfl
      · exact absurd (Except.ok.inj hids).symm hne
    · rw [← Except.ok.inj hids] at hid
      cases hid
  rw [← getTasks_eq_scanTasks haggregation] at htasks
  have hsplit := hequivalent.splits Unit flightText reads table _ (fun _ _ => rfl) houtcome tasks
    htasks
  obtain ⟨t, rfl, hzero⟩ := hsplit.empty query hasked rfl
  have hrows := hsplit.rows _ (show source.parts u flightText source.transport pushdowns predicate =
    some _ from by rw [htransport]; rfl)
  have hpushed : safeDatabaseLimit pushdowns predicate ≠ some 0 := fun hpushed =>
    hask (Or.inr hpushed)
  rw [List.map_singleton, List.sum_singleton, Multiset.filter_eq_nil.mpr fun row _ => by
    simp [Task.returns, hzero, hpushed], Multiset.filter_eq_self.mpr fun row _ => decide_eq_true rfl]
    at hrows
  exact absurd hrows.symm (Multiset.singleton_ne_zero _)

include haggregation hknown hcolumns hpredicate in
theorem equivalent_of_plansAlike (h : PlansAlike u source pushdowns predicate) :
    EquivalentScans u source pushdowns predicate where
  splits _ literal reads table discover hliterals houtcome tasks htasks :=
    splits_of_plansAlike haggregation hpredicate h hliterals houtcome htasks
  builds _ literal reads table discover houtcome hunsplit hshort := by
    obtain ⟨r, hunsplit⟩ := hunsplit
    rw [getTasks_eq_scanTasks haggregation]
    refine exists_scanTasks hknown hcolumns hpredicate houtcome hunsplit (fun plan _ => ?_) hshort
    unfold taskLimit
    split
    · exact Or.inr rfl
    · exact Or.inl rfl
  sends literal r query := by
    refine ⟨fun hunsplit => ?_, fun hquery => sent_planning (question?_eq_some hquery)⟩
    exact sent_of_statement (a := source.unsplit pushdowns predicate) statement_unsplit hunsplit
  quiet hskip := by
    rw [scanPlan, tabletPlan, if_pos (hskip.imp_right (safeDatabaseLimit_eq_zero_iff _ _).mpr)]
    rfl
  raises discover query e hquery he hpropagates := by
    rw [getTasks_eq_scanTasks haggregation]
    exact scanTasks_eq_error hknown hcolumns hpredicate hquery he hpropagates

end Equivalent

/-- Split scans are equivalent to the unsplit scan exactly when planning reads the condition of
the tasks: over PyMySQL, when the scan is not split or of no rows, when nothing is bound or no
column of the filter has a percent sign, and when the planning SQL cannot be bound at all. -/
theorem getTasks_equivalent_iff_plansAlike (u : UnicodeData) (source : DataSource)
    (pushdowns : Pushdowns) (predicate : Option Predicate)
    (haggregation : pushdowns.aggregation = none)
    (hknown : ∀ c ∈ pushdowns.requested source.names, c ∈ source.names)
    (hcolumns : source.columns pushdowns ≠ [])
    (hpredicate : compileFilter pushdowns.filters = .ok predicate) :
    EquivalentScans u source pushdowns predicate ↔ PlansAlike u source pushdowns predicate := by
  refine ⟨fun h => ?_, equivalent_of_plansAlike haggregation hknown hcolumns hpredicate⟩
  by_contra hnot
  exact not_equivalent_of_not_alike haggregation hknown hcolumns hpredicate hnot h

/-- A table with one column, split over its tablets. -/
def distributed : DataSource where
  table := exampleTable
  transport := .flight
  limits := exampleLimits
  split := .auto
  arrowSchema := exampleFields
  names_nodup := nodup_exampleFields

/-- At most five rows of it. -/
def fiveRows : Pushdowns where
  limit := some 5
  filter_columns := no_filter_columns

/-- Every row satisfies a WHERE clause that is not there. -/
def readsAll : Text → Row PyValue → Bool := fun text _ => decide (text = [])

/-- Two tablets make two tasks that return every row of the table. -/
theorem getTasks_distributed :
    ∃ tasks, distributed.getTasks fiveRows (fun _ => .ok [9, 3]) = .ok tasks ∧
      SplitScan .ascii flightText distributed fiveRows none (fun _ => .ok [9, 3]) readsAll
        {⟨fun _ => .int 1, 3⟩, ⟨fun _ => .int 2, 9⟩} tasks := by
  have hequivalent := (getTasks_equivalent_iff_plansAlike .ascii distributed fiveRows none rfl
    (by decide) (by decide) rfl).mpr (.unbound ⟨rfl, fun p hp => by cases hp⟩)
  have houtcome : ∀ query, (distributed.scanPlan fiveRows none).question? = some query →
      Outcome distributed readsAll {⟨fun _ => .int 1, 3⟩, ⟨fun _ => .int 2, 9⟩}
        (distributed.parts .ascii flightText .mysql fiveRows none) ((fun _ => .ok [9, 3]) query) :=
    fun query _ => .tablets rfl (by decide) (by decide) fun row hrow _ => by
      simp only [Multiset.insert_eq_cons, Multiset.mem_cons, Multiset.mem_singleton] at hrow
      rcases hrow with rfl | rfl <;> decide
  obtain ⟨tasks, htasks⟩ := hequivalent.builds PyValue flightText readsAll _ _ houtcome ⟨_, rfl⟩
    fun query ids _ hids id hid => by
      rw [← Except.ok.inj hids, List.mem_cons, List.mem_singleton] at hid
      have hten : 10 ≤ 10 ^ maxStrDigits := Nat.le_self_pow (by decide) 10
      rcases hid with rfl | rfl <;> omega
  exact ⟨tasks, htasks,
    hequivalent.splits PyValue flightText readsAll _ _ (fun _ _ => rfl) houtcome tasks htasks⟩

/-- The same table with two percent signs in the name of its column. -/
def percentColumn : DataSource :=
  { distributed with
    arrowSchema := [⟨str "a%%b", str "int64"⟩]
    names_nodup := List.nodup_singleton _ }

/-- The rows in which the column is 1. -/
def percentOne : Pushdowns where
  filters := some (.equal (.col (str "a%%b")) (.lit (.int 1)))
  filterRequiredColumnNames := [str "a%%b"]
  filter_columns := by
    intro e he c hc
    rw [← Option.some.inj he] at hc
    exact hc

/-- Flight sends the column `a%%b`; the planner is asked about the column `a%b`, and may find no
tablet for a row that the tasks should return. -/
theorem not_equivalent_percentOne :
    ∃ predicate, compileFilter percentOne.filters = .ok predicate ∧
      percentColumn.parts .ascii flightText .flight percentOne predicate =
        some ⟨str "SELECT `a%%b` FROM `d`.`t`", str " WHERE (`a%%b` = 1)"⟩ ∧
      percentColumn.parts .ascii flightText .mysql percentOne predicate =
        some ⟨str "SELECT `a%b` FROM `d`.`t`", str " WHERE (`a%b` = 1)"⟩ ∧
      ¬ EquivalentScans .ascii percentColumn percentOne predicate := by
  refine ⟨some (.equalsOne (str "a%%b") (by decide)), rfl, rfl, rfl, ?_⟩
  refine not_equivalent_of_not_alike rfl (by decide) (by decide) rfl fun h => ?_
  cases h with
  | mysql h => cases h
  | single h => cases h
  | noRows h => cases h
  | unbound h => exact absurd (h.2 _ rfl) (List.cons_ne_nil _ _)
  | plain h => exact absurd (h _ rfl (str "a%%b") (List.mem_singleton_self _)) (by decide)
  | refused hname h =>
    have hidentifiers : (percentColumn.select percentOne
        (some (.equalsOne (str "a%%b") (by decide))) none none).identifiers =
          [str "a%%b", str "d", str "t", str "a%%b"] := rfl
    simp only [hidentifiers, List.mem_cons, List.not_mem_nil, or_false] at hname
    rcases hname with rfl | rfl | rfl | rfl <;> cases h
  | unbuilt h => exact h _ rfl

end DataSource

end Doris
end DaftOlap
