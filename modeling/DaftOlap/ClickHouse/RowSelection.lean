/-
Which rows a trusted fragment keeps (`_render_projection`, `build_select`).

In WHERE an alias of the SELECT list stands for what it names.  An alias that is not just
its own column changes what a fragment reads: the cast of a column, and the count.
-/
import DaftOlap.Compat.LimitPushdown

namespace DaftOlap
namespace ClickHouse

open Python Logic

variable {Cell : Type}

/-! ## Rebound names -/

/-- The aliases that are not just their own column. -/
def Projection.rebound : Projection → List Text
  | .columns entries => (entries.filter fun entry => entry.2.isSome).map Prod.fst
  | .count outputName => [outputName]

theorem Projection.resolve_of_not_rebound {server : Server Cell} {projection : Projection}
    {row : Text → Cell} {name : Text} (h : name ∉ projection.rebound) :
    projection.resolve server row name = row name := by
  cases projection with
  | count outputName => exact if_neg (by simpa [Projection.rebound] using h)
  | columns entries =>
    cases hlookup : entries.lookup name with
    | none => simp only [resolve, hlookup]
    | some cast =>
      cases cast with
      | none => simp only [resolve, hlookup]
      | some type =>
        obtain ⟨before, after, hsplit, -⟩ := List.lookup_eq_some_iff.mp hlookup
        have hmem : (name, some type) ∈ entries :=
          hsplit ▸ List.mem_append_right _ List.mem_cons_self
        exact absurd (List.mem_map.mpr ⟨_, List.mem_filter.mpr ⟨hmem, rfl⟩, rfl⟩) h

namespace Statement

/-- The fragment, as it is placed, is true of a row. -/
def trusts (s : Statement) (server : Server Cell) (row : Row Cell) : Bool :=
  s.fragment.all fun f => decide ((server.fragment f).eval (s.cells server row) = .true)

theorem keeps_eq_trusts {s : Statement} {server : Server Cell} {row : Row Cell}
    (hpredicate : s.predicate = none) (hids : s.partitionIds = none) :
    s.keeps server row = s.trusts server row := by
  rw [Bool.eq_iff_iff, keeps_eq_true_iff, hpredicate, hids, trusts, Option.all_eq_true]
  constructor
  · intro h
    obtain ⟨hfragment, -, -⟩ := h
    exact fun f hf => decide_eq_true (hfragment f hf)
  · intro h
    exact ⟨fun f hf => of_decide_eq_true (h f hf), (fun _ hnone => nomatch hnone),
      (fun _ hnone => nomatch hnone)⟩

end Statement

/-- A column that a scan casts. -/
def ClickHouseSchemaPlan.Casts (plan : ClickHouseSchemaPlan) (name : Text) : Prop :=
  ((plan.castOf name).getD none).isSome = true

instance (plan : ClickHouseSchemaPlan) (name : Text) : Decidable (plan.Casts name) :=
  inferInstanceAs (Decidable (_ = true))

namespace DataSource

variable {source : DataSource} {pushdowns : Pushdowns}

/-- The fragment is true of a row, its names being the table's own columns. -/
def trustsColumns (source : DataSource) (server : Server Cell) (row : Row Cell) : Bool :=
  source.fragment.all fun f => decide ((server.fragment f).eval row.cells = .true)

theorem mem_rebound_projection {name : Text} :
    name ∈ (Projection.columns (source.projection pushdowns)).rebound ↔
      name ∈ source.columns pushdowns ∧ source.schemaPlan.Casts name := by
  unfold Projection.rebound projection ClickHouseSchemaPlan.Casts
  simp only [List.mem_map, List.mem_filter]
  constructor
  · intro h
    obtain ⟨_, ⟨⟨column, hcolumn, rfl⟩, hcast⟩, rfl⟩ := h
    exact ⟨hcolumn, hcast⟩
  · intro h
    exact ⟨_, ⟨⟨name, h.1, rfl⟩, h.2⟩, rfl⟩

/-! ## The tasks -/

theorem getTasks_eq_count {count : Pushdowns} {outputName : Text}
    {discover : Unit → Except PyException PartitionDiscovery} {counts : List Task}
    (hcount : countPushdown source.countPushdownAvailable count = .ok (some outputName))
    (h : source.getTasks count discover = .ok counts) :
    ∃ t, counts = [t] ∧ t.arguments = source.countArguments outputName := by
  rw [getTasks, hcount, ok_bind] at h
  simp only at h
  split at h
  · cases h
  · obtain ⟨t, ht, h⟩ := bind_eq_ok.mp h
    exact ⟨t, (Except.ok.inj h).symm, (task_eq_ok ht).1⟩

/-- A scan has tasks, each of them the unsplit query for some partitions. -/
theorem getTasks_eq_scan {discover : Unit → Except PyException PartitionDiscovery}
    {scan : List Task} (haggregation : pushdowns.aggregation = none)
    (h : source.getTasks pushdowns discover = .ok scan) :
    scan ≠ [] ∧ ∃ predicate, compileFilter pushdowns.filters = .ok predicate ∧
      ∀ t ∈ scan, ∃ ids,
        t.arguments = { source.unsplit pushdowns predicate with partitionIds := ids } := by
  rw [getTasks_eq_scanTasks haggregation] at h
  obtain ⟨_, predicate, groups, -, -, hpredicate, hgroups, htasks⟩ := scanTasks_eq_ok h
  refine ⟨fun hnil => ?_, predicate, hpredicate, fun t ht => ?_⟩
  · rw [hnil, List.forall₂_nil_right_iff] at htasks
    exact partitionGroups_ne_nil hgroups htasks
  · obtain ⟨ids, -, harguments, -⟩ := exists_of_mem_right htasks t ht
    exact ⟨ids, harguments⟩

/-! ## Row selection -/

/-- A count and a scan of a source select alike where their SQL is bound exactly, whatever is in
the table and whatever a fragment with these unqualified names means: the fragment keeps the rows
of which it is true on the table's own columns, and the count is the number of rows the scan
returns if it is unfiltered and unlimited. -/
structure SelectsAlike (source : DataSource) (pushdowns : Pushdowns) (names : List Text)
    (counts scan : List Task) : Prop where
  exact : ∀ {Cell : Type} (server : Server Cell),
    (∀ f ∈ source.fragment, (server.fragment f).names = names) →
      ∀ t ∈ counts ++ scan, ∀ row,
        t.arguments.statement.trusts server row = source.trustsColumns server row
  alike : ∀ {Cell : Type} (server : Server Cell),
    (∀ f ∈ source.fragment, (server.fragment f).names = names) →
      ∀ c ∈ counts, ∀ t ∈ scan, ∀ row,
        c.arguments.statement.trusts server row = t.arguments.statement.trusts server row
  counted : pushdowns.filters = none → pushdowns.limit = none →
    ∀ {Cell : Type} (server : Server Cell),
      (∀ f ∈ source.fragment, (server.fragment f).names = names) →
        ∀ c ∈ counts, ∀ table readings result,
          Scan.Reads table scan Task.limit (Task.selects server) none (fun _ => true) readings
            result →
          (table.filter fun row => c.arguments.statement.keeps server row).card = result.card

/-- A fragment whose names are not rebound reads the table's own columns. -/
theorem trusts_eq_trustsColumns {t : Task} {server : Server Cell} {names : List Text}
    (hfragment : t.arguments.statement.fragment = source.fragment)
    (hnames : ∀ f ∈ source.fragment, (server.fragment f).names = names)
    (h : source.unsafeWhereSql = none ∨
      ∀ n ∈ names, n ∉ t.arguments.statement.projection.rebound) (row : Row Cell) :
    t.arguments.statement.trusts server row = source.trustsColumns server row := by
  rw [Statement.trusts, trustsColumns, hfragment]
  cases hf : source.fragment with
  | none => rfl
  | some f =>
    have hrebound : ∀ n ∈ (server.fragment f).names,
        n ∉ t.arguments.statement.projection.rebound := by
      rcases h with hnone | h
      · rw [fragment, hnone] at hf
        cases hf
      · rw [hnames f hf]
        exact h
    have heval := (server.fragment f).eval_congr (t.arguments.statement.cells server row) row.cells
      fun n hn => Projection.resolve_of_not_rebound (hrebound n hn)
    rw [Option.all_some, Option.all_some, heval]

end DataSource

/-! ## Capture -/

/-- A server on which every rebound name is true, and the fragment is one of its names. -/
def Server.capturing (names : List Text) (name : Text) (h : name ∈ names) : Server PyValue where
  cells := .identity
  cast _ _ := .bool true
  aggregate := .bool true
  fragment _ := {
    names := names
    eval := fun row => Truth.ofBool (row name == .bool true)
    eval_congr := fun row row' hrow => by rw [hrow name h] }
  compare_str := Server.identity.compare_str

theorem Server.eval_capturing {names : List Text} {name : Text} (h : name ∈ names)
    (f : List (SqlPart (Text × PyValue))) (row : Text → PyValue) :
    ((Server.capturing names name h).fragment f).eval row =
      Truth.ofBool (row name == .bool true) := rfl

theorem Projection.resolve_capturing {projection : Projection} {names : List Text} {name : Text}
    (h : name ∈ names) (hrebound : name ∈ projection.rebound) (hnodup : projection.names.Nodup)
    (row : Text → PyValue) :
    projection.resolve (.capturing names name h) row name = .bool true := by
  cases projection with
  | count outputName => exact if_pos (List.mem_singleton.mp hrebound)
  | columns entries =>
    obtain ⟨entry, hentry, rfl⟩ := List.mem_map.mp hrebound
    obtain ⟨hmem, hcast⟩ := List.mem_filter.mp hentry
    obtain ⟨type, htype⟩ := Option.isSome_iff_exists.mp hcast
    have hnames : (entries.map Prod.fst).Nodup := hnodup
    have hlookup := lookup_of_mem hnames hmem
    rw [htype] at hlookup
    simp only [resolve, hlookup]
    rfl

namespace DataSource

variable {source : DataSource} {pushdowns : Pushdowns} {names : List Text}
  {counts scan : List Task}

/-- A task that rebinds a name of the fragment does not select alike. -/
theorem not_selectsAlike_of_rebound {t : Task} (ht : t ∈ counts ++ scan)
    (hfragment : t.arguments.statement.fragment = source.fragment)
    (hsome : source.unsafeWhereSql ≠ none) {n : Text} (hn : n ∈ names)
    (hrebound : n ∈ t.arguments.statement.projection.rebound)
    (hnodup : t.arguments.statement.projection.names.Nodup) :
    ¬ SelectsAlike source pushdowns names counts scan := by
  intro h
  obtain ⟨sql, hsql⟩ := Option.ne_none_iff_exists'.mp hsome
  have hf : source.fragment = some (fragmentParts source.queryParameters.items 0 sql) := by
    rw [fragment, hsql, Option.map_some]
  have hexact := h.exact (.capturing names n hn) (fun _ _ => rfl) t ht ⟨fun _ => .bool false, []⟩
  rw [Statement.trusts, hfragment, trustsColumns, hf, Option.all_some, Option.all_some,
    decide_eq_decide, Server.eval_capturing, Server.eval_capturing] at hexact
  have hplaced : t.arguments.statement.cells (.capturing names n hn) ⟨fun _ => .bool false, []⟩ n =
      .bool true := Projection.resolve_capturing hn hrebound hnodup _
  rw [hplaced] at hexact
  cases hexact.mp rfl

/-- An unfiltered and unlimited scan returns the rows of which the fragment is true, if its
tasks read it so. -/
theorem eq_filter_of_reads {discover : Unit → Except PyException PartitionDiscovery}
    {server : Server Cell} {table result : Multiset (Row Cell)}
    {readings : List (Scan.Reading Task (Row Cell))}
    (haggregation : pushdowns.aggregation = none)
    (hscan : source.getTasks pushdowns discover = .ok scan) (hfilters : pushdowns.filters = none)
    (hlimit : pushdowns.limit = none)
    (hexact : ∀ t ∈ scan, ∀ row,
      t.arguments.statement.trusts server row = source.trustsColumns server row)
    (hreads : Scan.Reads table scan Task.limit (Task.selects server) none (fun _ => true) readings
      result) :
    result = table.filter fun row => source.trustsColumns server row := by
  obtain ⟨-, predicate, hpredicate, hscan⟩ := getTasks_eq_scan haggregation hscan
  obtain rfl : none = predicate := by
    rw [hfilters] at hpredicate
    exact Except.ok.inj hpredicate
  have hkept : Scan.Keeps none
      (table.filter fun row => source.trustsColumns server row && true) result := by
    refine hreads.keeps_of_pushed (fun t ht => ?_) fun t ht row _ => ?_
    · obtain ⟨ids, harguments⟩ := hscan t ht
      rw [Task.limit, harguments]
      refine (effectiveLimit_nat _).trans ?_
      rw [safeDatabaseLimit, hlimit, if_pos (Or.inl rfl)]
    · rw [Bool.and_true, ← hexact t ht row]
      obtain ⟨ids, harguments⟩ := hscan t ht
      rw [Task.selects, harguments]
      exact Statement.keeps_eq_trusts rfl rfl
  simp only [hkept.eq_of_no_limit, Bool.and_true]

/-- A count and a scan select alike exactly if no unqualified name of the fragment is the
count's output name or a column that the scan casts. -/
theorem selectsAlike_iff {count : Pushdowns} {outputName : Text}
    {discover discover' : Unit → Except PyException PartitionDiscovery}
    (hcount : countPushdown source.countPushdownAvailable count = .ok (some outputName))
    (hcounts : source.getTasks count discover = .ok counts)
    (haggregation : pushdowns.aggregation = none)
    (hscan : source.getTasks pushdowns discover' = .ok scan) (names : List Text) :
    SelectsAlike source pushdowns names counts scan ↔
      source.unsafeWhereSql = none ∨ ∀ n ∈ names, n ≠ outputName ∧
        ¬ (n ∈ source.columns pushdowns ∧ source.schemaPlan.Casts n) := by
  obtain ⟨c, rfl, hc⟩ := getTasks_eq_count hcount hcounts
  obtain ⟨hne, predicate, -, hscanned⟩ := getTasks_eq_scan haggregation hscan
  have hcfragment : c.arguments.statement.fragment = source.fragment := by
    rw [hc]
    rfl
  have htfragment : ∀ t ∈ scan, t.arguments.statement.fragment = source.fragment := by
    intro t ht
    obtain ⟨ids, harguments⟩ := hscanned t ht
    rw [harguments]
    rfl
  have hcprojection : c.arguments.statement.projection = .count outputName := by
    rw [hc]
    rfl
  have htprojection : ∀ t ∈ scan,
      t.arguments.statement.projection = .columns (source.projection pushdowns) := by
    intro t ht
    obtain ⟨ids, harguments⟩ := hscanned t ht
    rw [harguments]
    rfl
  constructor
  · intro halike
    by_cases hnone : source.unsafeWhereSql = none
    · exact Or.inl hnone
    refine Or.inr fun n hn => ⟨fun hout => ?_, fun hcast => ?_⟩
    · refine not_selectsAlike_of_rebound (List.mem_cons_self (a := c)) hcfragment hnone hn ?_ ?_
        halike
      · rw [hcprojection]
        exact List.mem_singleton.mpr hout
      · rw [hcprojection]
        exact List.nodup_singleton outputName
    · obtain ⟨t, ht⟩ := List.exists_mem_of_ne_nil scan hne
      refine not_selectsAlike_of_rebound (List.mem_append_right [c] ht) (htfragment t ht) hnone hn
        ?_ ?_ halike
      · rw [htprojection t ht]
        exact mem_rebound_projection.mpr hcast
      · rw [htprojection t ht, Projection.names, names_projection]
        exact source.schemaPlan.names_nodup.filter _
  · intro h
    have hexact : ∀ {Cell : Type} (server : Server Cell),
        (∀ f ∈ source.fragment, (server.fragment f).names = names) →
          ∀ t ∈ [c] ++ scan, ∀ row,
            t.arguments.statement.trusts server row = source.trustsColumns server row := by
      intro Cell server hnames t ht row
      rcases List.mem_append.mp ht with ht | ht
      · obtain rfl := List.mem_singleton.mp ht
        refine trusts_eq_trustsColumns hcfragment hnames (h.imp_right fun h n hn => ?_) row
        rw [hcprojection]
        exact fun hmem => (h n hn).1 (List.mem_singleton.mp hmem)
      · refine trusts_eq_trustsColumns (htfragment t ht) hnames (h.imp_right fun h n hn => ?_) row
        rw [htprojection t ht]
        exact fun hmem => (h n hn).2 (mem_rebound_projection.mp hmem)
    refine ⟨hexact, ?_, ?_⟩
    · intro Cell server hnames c' hc' t ht row
      rw [hexact server hnames c' (List.mem_append_left _ hc') row,
        hexact server hnames t (List.mem_append_right _ ht) row]
    · intro hfilters hlimit Cell server hnames c' hc' table readings result hreads
      obtain rfl := List.mem_singleton.mp hc'
      have hreturned : result = table.filter fun row => source.trustsColumns server row :=
        eq_filter_of_reads haggregation hscan hfilters hlimit
          (fun t ht => hexact server hnames t (List.mem_append_right _ ht)) hreads
      have hcount : ∀ row, c'.arguments.statement.keeps server row =
          source.trustsColumns server row := by
        intro row
        rw [← hexact server hnames c' (List.mem_append_left _ hc') row, hc]
        exact Statement.keeps_eq_trusts rfl rfl
      rw [hreturned]
      simp only [hcount]

/-- A table with one column, and a condition on it. -/
def fivePlus : DataSource where
  table := exampleTable
  limits := exampleLimits
  unsafeWhereSql := some (str "id > 5")
  schemaPlan := .passthrough exampleFields nodup_exampleFields

/-- A count of all rows, under the name of a column. -/
def countAs (column : Text) : Pushdowns where
  aggregation := some ⟨true, [column], str "count"⟩
  filter_columns := by
    intro e he
    cases he

/-- A scan of all columns. -/
def wholeScan : Pushdowns where
  filter_columns := by
    intro e he
    cases he

/-- Counted under another name than that of the column, the rows are those of the scan. -/
theorem selectsAlike_countRows : ∃ counts scan,
    fivePlus.getTasks (countAs (str "rows")) (fun _ => .ok ⟨false, []⟩) = .ok counts ∧
    fivePlus.getTasks wholeScan (fun _ => .ok ⟨false, []⟩) = .ok scan ∧
    SelectsAlike fivePlus wholeScan [str "id"] counts scan := by
  obtain ⟨counts, hcounts⟩ : ∃ counts, fivePlus.getTasks (countAs (str "rows"))
      (fun _ => .ok ⟨false, []⟩) = .ok counts := ⟨_, rfl⟩
  obtain ⟨scan, hscan⟩ : ∃ scan, fivePlus.getTasks wholeScan
      (fun _ => .ok ⟨false, []⟩) = .ok scan := ⟨_, rfl⟩
  refine ⟨counts, scan, hcounts, hscan, (selectsAlike_iff rfl hcounts rfl hscan _).mpr
    (Or.inr fun n hn => ?_)⟩
  rw [List.mem_singleton.mp hn]
  refine ⟨by decide, fun hcast => ?_⟩
  exact absurd hcast.2 (by decide)

/-- Counted as `id`, the condition is no longer about the column. -/
theorem not_selectsAlike_countId : ∃ counts scan,
    fivePlus.getTasks (countAs (str "id")) (fun _ => .ok ⟨false, []⟩) = .ok counts ∧
    fivePlus.getTasks wholeScan (fun _ => .ok ⟨false, []⟩) = .ok scan ∧
    ¬ SelectsAlike fivePlus wholeScan [str "id"] counts scan := by
  obtain ⟨counts, hcounts⟩ : ∃ counts, fivePlus.getTasks (countAs (str "id"))
      (fun _ => .ok ⟨false, []⟩) = .ok counts := ⟨_, rfl⟩
  obtain ⟨scan, hscan⟩ : ∃ scan, fivePlus.getTasks wholeScan
      (fun _ => .ok ⟨false, []⟩) = .ok scan := ⟨_, rfl⟩
  refine ⟨counts, scan, hcounts, hscan, ?_⟩
  obtain ⟨c, rfl, hc⟩ := getTasks_eq_count rfl hcounts
  have hmem : c ∈ [c] ++ scan := List.mem_cons_self
  refine not_selectsAlike_of_rebound hmem ?_ (Option.some_ne_none _) (List.mem_singleton_self _)
    ?_ ?_
  · rw [hc]
    rfl
  · rw [hc]
    exact List.mem_singleton_self _
  · rw [hc]
    exact List.nodup_singleton _

end DataSource
end ClickHouse
end DaftOlap
