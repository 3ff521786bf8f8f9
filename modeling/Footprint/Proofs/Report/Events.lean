import Footprint.Proofs.Aggregate.History
import Footprint.Proofs.Report.Loading

/-!
# The events of a run

Averaging logs an event for each table and then one for each configured index, its mean or why there
is none; saving logs one for each workload. The last event counts the values of the aggregates. The
means that have been logged are told apart by position, index and task, and there are as many.
-/
namespace Footprint

/-! ## Steps with known events -/

namespace Run

variable {α β : Type}

/-- However it begins, the step has logged these events when it succeeds. -/
def Logs (x : Run α) (events : List Log.Event) : Prop :=
  ∀ w a v, outcome x w = (.ok a, v) → v.log = events.reverse ++ w.log

theorem logs_pure (a : α) : Logs (pure a : Run α) [] := by
  intro w b v h
  cases h
  rfl

theorem logs_log (level : Log.Level) (source : Log.Source) (message : String) :
    Logs (log level source message) [⟨level, source, message⟩] := by
  intro w a v h
  cases h
  rfl

theorem Logs.bind {x : Run α} {f : α → Run β} {first rest : List Log.Event} (hx : Logs x first)
    (hf : ∀ a, Logs (f a) rest) : Logs (x >>= f) (first ++ rest) := by
  intro w b v h
  obtain ⟨a, u, hu, hv⟩ := outcome_bind_ok.mp h
  rw [hf a u b v hv, hx w a u hu, List.reverse_append, List.append_assoc]

theorem logs_store (failure : OsError → Failure) (path : String) (content : Bytes) :
    Logs (store failure path content) [] := by
  intro w a v h
  rw [outcome_store] at h
  split at h
  · cases h
    rfl
  · cases h

theorem logs_createDirAll (failure : OsError → Failure) (path : String) :
    Logs (createDirAll failure path) [] := by
  intro w a v h
  rw [outcome_createDirAll] at h
  obtain ⟨-, rfl⟩ := Prod.mk.inj h
  rfl

end Run

namespace Report

open Run

/-! ## Saving -/

def savedEvent (t : Aggregate) (path : String) : Log.Event :=
  ⟨.info, .aggregates, s!"Wrote {t.workload} aggregate to {path}"⟩

theorem logs_fillFile (t : Aggregate) (path : String) :
    Logs (fillFile t path) [savedEvent t path] :=
  (logs_store _ _ _).bind fun _ => (logs_store _ _ _).bind fun _ => logs_log _ _ _

theorem logs_saveAggregate (t : Aggregate) (path : String) :
    Logs (saveAggregate t path) [savedEvent t path] := by
  rcases saveAggregate_eq t path with heq | ⟨above, -, heq⟩
  · rw [heq]
    exact logs_fillFile t path
  · rw [heq]
    exact (logs_createDirAll _ _).bind fun _ => logs_fillFile t path

theorem logs_saveAll (c : Config) (pairs : List (Workload × Aggregate)) :
    Logs (saveAll c pairs) (pairs.map fun p => savedEvent p.2 (c.analysisPath p.1)) := by
  induction pairs with
  | nil => exact logs_pure _
  | cons pair rest ih =>
    have hrest := ih.bind fun paths => logs_pure (c.analysisPath pair.1 :: paths)
    rw [List.append_nil] at hrest
    exact (logs_saveAggregate pair.2 _).bind fun _ => hrest

theorem logs_persist (c : Config) (ts : List Aggregate) :
    Logs (persist c ts) ((c.workloads.zip ts).map fun p => savedEvent p.2 (c.analysisPath p.1)) :=
  (logs_createDirAll _ _).bind fun _ => logs_saveAll c _

def countEvent (ts : List Aggregate) : Log.Event :=
  ⟨.info, .reports,
    s!"Aggregated {(ts.map Aggregate.size).foldr (· + ·) 0} values over {ts.length} workloads"⟩

theorem logs_conclude (c : Config) (ts : List Aggregate) (f : Figure) :
    Logs (conclude c ts f)
      (((c.workloads.zip ts).map fun p => savedEvent p.2 (c.analysisPath p.1)) ++ [countEvent ts]) :=
  (logs_persist c ts).bind fun _ => (logs_log _ _ _).bind fun _ => logs_pure _

/-! ## Averaging -/

/-- The one event of an index: its mean if one of its rows has a size, and else what is missing. -/
inductive Accounted (w : Workload) (task : String) (table : Results.Table) (index : String) :
    Log.Event → Prop
  | mean (m : Float) (hsized : ∃ r ∈ table.rowsFor index, r.size.isSome = true)
      (hmean : table.meanSize index = .ok m) :
      Accounted w task table index
        ⟨.debug, .reports, s!"{w.name}: {index}/{task} = {Number.Style.plain.text m}"⟩
  | miss (miss : Results.Miss) (hblank : ∀ r ∈ table.rowsFor index, r.size = none)
      (hmiss : table.meanSize index = .error (.error miss)) :
      Accounted w task table index
        ⟨.warn, .reports, s!"{w.name}: skipping {index}/{task}, {miss.message}"⟩

/-- The events of one table: how many rows it has and where it is, and then one event for each
configured index, in their order. -/
def TableAccounted (c : Config) (fs : FileSystem) (task : String) (w : Workload)
    (events : List Log.Event) : Prop :=
  ∃ table rest, tableAt fs (c.resultsPath task w) = .ok table ∧
    events = ⟨.debug, .results,
      s!"Loaded {table.rows.length} rows from {c.resultsPath task w}"⟩ :: rest ∧
    List.Forall₂ (Accounted w task table) c.indexes rest

theorem accounted_iff {w : Workload} {task : String} {table : Results.Table} {index : String}
    {event : Log.Event} (h : table.Countable index) :
    Accounted w task table index event ↔ event = meanEvent w task table index := by
  have hsize := h.meanSize_eq
  rw [meanEvent]
  cases hmean : table.mean index with
  | ok m =>
    rw [hmean] at hsize
    constructor
    · rintro (⟨m', -, hm⟩ | ⟨miss, -, hmiss⟩)
      · cases hsize.symm.trans hm
        rfl
      · cases hsize.symm.trans hmiss
    · rintro rfl
      exact .mean m (Results.Table.mean_eq_ok hmean) hsize
  | error miss =>
    rw [hmean] at hsize
    constructor
    · rintro (⟨m, -, hm⟩ | ⟨miss', -, hmiss⟩)
      · cases hsize.symm.trans hm
      · cases hsize.symm.trans hmiss
        rfl
    · rintro rfl
      exact .miss miss (Results.Table.mean_eq_error hmean) hsize

theorem level_meanEvent (w : Workload) (task : String) (table : Results.Table) (index : String) :
    (meanEvent w task table index).level = .debug ↔
      (table.mean index).toOption.isSome = true := by
  rw [meanEvent]
  cases table.mean index <;> simp [Except.toOption]

theorem Averaged.accounted {c : Config} {fs : FileSystem} {task : String} {w : Workload}
    (h : Averaged c fs task w) : TableAccounted c fs task w (tableEvents c fs task w) := by
  obtain ⟨table, htable, hindexes⟩ := h
  refine ⟨table, c.indexes.map (meanEvent w task table), htable, ?_, ?_⟩
  · rw [tableEvents, htable]
    exact List.flatMap_singleton _ _
  · rw [List.forall₂_map_right_iff, List.forall₂_same]
    exact fun index hindex => (accounted_iff (hindexes index hindex)).mpr rfl

/-! ## The count -/

/-- The event of this index, in the table of this task and workload, is logged and is a mean. -/
def MeanLogged (c : Config) (fs : FileSystem) (w : Workload) (index task : String) : Prop :=
  index ∈ c.indexes ∧ task ∈ c.tasks ∧ ∃ table event,
    tableAt fs (c.resultsPath task w) = .ok table ∧ event ∈ tableEvents c fs task w ∧
      Accounted w task table index event ∧ event.level = .debug

/-- A position, and an element of the set that stands there. -/
def positions {α β : Type} (s : β → Set α) (xs : List β) : Set (Nat × α) :=
  {p | ∃ x, xs[p.1]? = some x ∧ p.2 ∈ s x}

theorem encard_positions {α β : Type} {s : β → Set α} {n : β → Nat} {xs : List β}
    (h : ∀ x ∈ xs, (s x).encard = n x) :
    (positions s xs).encard = ((xs.map n).foldr (· + ·) 0 : Nat) := by
  induction xs with
  | nil => simp [positions]
  | cons x xs ih =>
    obtain ⟨hx, hxs⟩ := List.forall_mem_cons.mp h
    have hset : positions s (x :: xs) =
        Prod.mk 0 '' s x ∪ Prod.map Nat.succ id '' positions s xs := by
      ext ⟨i, a⟩
      cases i with
      | zero => simp [positions]
      | succ i => simp [positions]
    have hdisjoint : Disjoint (Prod.mk 0 '' s x) (Prod.map Nat.succ id '' positions s xs) := by
      rw [Set.disjoint_left]
      rintro _ ⟨a, -, rfl⟩ ⟨p, -, hp⟩
      cases hp
    have hsucc : Function.Injective (Prod.map Nat.succ (id : α → α)) :=
      Nat.succ_injective.prodMap Function.injective_id
    rw [hset, Set.encard_union_eq hdisjoint, (Prod.mk_right_injective 0).encard_image,
      hsucc.encard_image, ih hxs, hx]
    push_cast [List.map_cons, List.foldr_cons]
    rfl

/-- The positions of workloads, with the index and the task of each mean that is logged there. -/
def means (c : Config) (fs : FileSystem) : Set (Nat × String × String) :=
  positions (fun w => {p | MeanLogged c fs w p.1 p.2}) c.workloads

/-- The values of an aggregate are those whose means have been logged. -/
theorem isSome_filled_iff {c : Config} {fs : FileSystem} {w : Workload}
    (h : ∀ task ∈ c.tasks, Averaged c fs task w) (index task : String) :
    ((filled c fs w c.tasks).get? index task).isSome = true ↔ MeanLogged c fs w index task := by
  rw [(filled_spec c fs w fun _ => id).get?_eq, MeanLogged, ← and_assoc]
  by_cases hmem : index ∈ c.indexes ∧ task ∈ c.tasks
  · obtain ⟨table, htable, hindexes⟩ := h task hmem.2
    have hindex := hindexes index hmem.1
    rw [if_pos hmem, and_iff_right hmem, meanAt, htable]
    change (table.mean index).toOption.isSome = true ↔ _
    rw [← level_meanEvent w task]
    constructor
    · intro hlevel
      refine ⟨table, _, rfl, ?_, (accounted_iff hindex).mpr rfl, hlevel⟩
      rw [tableEvents, htable]
      simpa [Except.toOption] using .inr ⟨index, hmem.1, rfl⟩
    · rintro ⟨_, event, ⟨⟩, -, hevent, hlevel⟩
      rwa [← (accounted_iff hindex).mp hevent]
  · simp [hmem]

/-- As many values have been aggregated as means have been logged. -/
theorem encard_means {c : Config} {fs : FileSystem}
    (h : ∀ task ∈ c.tasks, ∀ w ∈ c.workloads, Averaged c fs task w) :
    (means c fs).encard =
      (((c.workloads.map fun w => filled c fs w c.tasks).map Aggregate.size).foldr (· + ·) 0 : Nat) := by
  rw [List.map_map]
  refine encard_positions fun w hw => ?_
  rw [Function.comp_apply, ← (filled_spec c fs w fun _ => id).wellFormed.encard_pairs]
  congr 1
  ext ⟨index, task⟩
  exact (isSome_filled_iff (fun task htask => h task htask w hw) index task).symm

/-! ## The whole run -/

variable {launch : Launcher} {c : Config} {w v : World}

theorem savedEvents_filled (c : Config) (fs : FileSystem) :
    ((c.workloads.zip (c.workloads.map fun wl => filled c fs wl c.tasks)).map fun p =>
        savedEvent p.2 (c.analysisPath p.1)) =
      c.workloads.map fun wl => ⟨.info, .aggregates,
        s!"Wrote {wl.name} aggregate to {c.analysisPath wl}"⟩ := by
  rw [List.zip_eq_zipWith, List.zipWith_map_right, List.map_zipWith, List.zipWith_self]
  refine List.map_congr_left fun wl _ => ?_
  have hname := (filled_spec c fs wl fun _ => id).workload
  simp [savedEvent, hname]

/-- A run without a figure that succeeds has averaged every table. -/
theorem run_averaged {shown : Bool} {r : Report}
    (h : outcome (run launch c ⟨false, shown⟩) w = (.ok r, v)) :
    (∀ task ∈ c.tasks, ∀ wl ∈ c.workloads, Averaged c w.files task wl) ∧ ∃ f,
      outcome (conclude c (c.workloads.map fun wl => filled c w.files wl c.tasks) f)
        (w.note ((c.tasks.flatMap fun task => c.workloads.flatMap (tableEvents c w.files task)) ++
          [⟨.debug, .reports, "Skipping figure"⟩])) = (.ok r, v) := by
  rw [run_eq] at h
  obtain ⟨⟨ts, f⟩, u, hprepare, h⟩ := outcome_bind_ok.mp h
  obtain ⟨_, u', hdraw, hconclude⟩ := outcome_bind_ok.mp h
  obtain ⟨-, haggregate, -⟩ := prepare_ok hprepare
  have haveraged := aggregate_averaged haggregate
  rw [aggregate_reads_of_averaged haveraged w rfl] at haggregate
  cases haggregate
  rw [draw, if_neg Bool.false_ne_true, outcome_log, World.note_note] at hdraw
  cases hdraw
  exact ⟨haveraged, f, hconclude⟩

theorem run_stopped {done : List String} {task : String} {before : List Workload} {e : Failure}
    (hvalid : c.validate = .ok ()) (h : StopsAfter c w.files done task before e) (o : Options) :
    outcome (run launch c o) w =
      (.error e, w.note ((done.flatMap fun k => c.workloads.flatMap (tableEvents c w.files k)) ++
        before.flatMap (tableEvents c w.files task))) := by
  rw [run_eq, outcome_bind, prepare_unloaded hvalid (h.aggregate_reads w rfl)]

/-- What a run logs accounts for every table and every index.

A run without a figure that succeeds logs, for each task and under it each workload, the events of
their table; then that no figure is drawn, the file of each workload, and how many means have been
logged. When a table does not load, any run logs the events of the tables before the first such one
and ends with its failure, unless it has come to a fault before that. -/
theorem run_events (launch : Launcher) (c : Config) (w : World) :
    (∀ task wl, Averaged c w.files task wl →
      TableAccounted c w.files task wl (tableEvents c w.files task wl)) ∧
    (∀ shown r v, outcome (run launch c ⟨false, shown⟩) w = (.ok r, v) →
      (∀ task ∈ c.tasks, ∀ wl ∈ c.workloads, Averaged c w.files task wl) ∧
        ∃ count : Nat, (means c w.files).encard = count ∧
          v.log.reverse = w.log.reverse ++
            (c.tasks.flatMap fun task => c.workloads.flatMap (tableEvents c w.files task)) ++
            [⟨.debug, .reports, "Skipping figure"⟩] ++
            (c.workloads.map fun wl => ⟨.info, .aggregates,
              s!"Wrote {wl.name} aggregate to {c.analysisPath wl}"⟩) ++
            [⟨.info, .reports,
              s!"Aggregated {count} values over {c.workloads.length} workloads"⟩]) ∧
    (c.validate = .ok () → ∀ task ∈ c.tasks, ∀ wl ∈ c.workloads, ∀ miss,
      tableAt w.files (c.resultsPath task wl) = .error miss →
      (∃ done last before e, StopsAfter c w.files done last before e ∧
        ∀ o, outcome (run launch c o) w = (.error e, w.note
          ((done.flatMap fun k => c.workloads.flatMap (tableEvents c w.files k)) ++
            before.flatMap (tableEvents c w.files last)))) ∨
      ¬Countable c w.files ∧ ∃ f, ∀ o, (outcome (run launch c o) w).1 = .error (.fault f)) := by
  refine ⟨fun task wl => Averaged.accounted, fun shown r v h => ?_,
    fun hvalid task htask wl hwl miss hmiss => ?_⟩
  · obtain ⟨haveraged, f, hconclude⟩ := run_averaged h
    refine ⟨haveraged, _, encard_means haveraged, ?_⟩
    rw [logs_conclude _ _ _ _ _ _ hconclude, savedEvents_filled, countEvent, List.length_map]
    simp [World.note]
  · rcases haggregate : outcome (aggregate c) w with ⟨e | ts, v⟩
    · rcases aggregate_stops haggregate with ⟨done, last, before, hstops⟩ | ⟨⟨f, rfl⟩, hlarge⟩
      · exact .inl ⟨done, last, before, e, hstops, run_stopped hvalid hstops⟩
      · refine .inr ⟨hlarge, f, fun o => ?_⟩
        rw [run_eq, outcome_bind, prepare_unloaded hvalid haggregate]
    · obtain ⟨table, hok⟩ := aggregate_loads haggregate htask hwl
      rw [hmiss] at hok
      cases hok

/-- One index is listed twice, and one of the two tables has no size for another. -/
private def listedTwice : Config where
  tasks := ["fb"]
  indexes := ["BTree", "LIPP", "BTree"]
  workloads := [⟨"mix1", 0.1, "Mixed"⟩, ⟨"mix2", 0.9, "Mixed"⟩]

private def firstMix : List (Place × Entry) :=
  [(["results"], .directory),
    (["results", listedTwice.resultsName "fb" ⟨"", 0.1, ""⟩],
      .file (Text.bytes "index_name,index_size_bytes\nBTree,1\nLIPP,nan\n"))]

private def unlaunched : Launcher := fun _ _ fs => (.error (.os .notFound), fs)

private def incomplete : World := ⟨{ entries := firstMix }, []⟩

private def complete : World where
  files := { entries := firstMix ++ [(["results", listedTwice.resultsName "fb" ⟨"", 0.9, ""⟩],
    .file (Text.bytes "index_name,index_size_bytes\nBTree,2\nLIPP,3\n"))] }
  log := []

/-- Three means are logged and counted; where the second table is missing, the run ends with the
events of the first. -/
theorem run_events_listedTwice :
    (∃ r v, outcome (run unlaunched listedTwice ⟨false, false⟩) complete = (.ok r, v) ∧
      (means listedTwice complete.files).encard = 3 ∧
      v.log.head? = some ⟨.info, .reports, "Aggregated 3 values over 2 workloads"⟩) ∧
    ∃ (e : Failure) (before : List Workload),
      outcome (run unlaunched listedTwice ⟨true, true⟩) incomplete =
        (.error e, incomplete.note (before.flatMap (tableEvents listedTwice { entries := firstMix } "fb"))) := by
  constructor
  · have hruns : (outcome (run unlaunched listedTwice ⟨false, false⟩)
        complete).1.toOption.isSome = true := by decide +kernel
    rcases hrun : outcome (run unlaunched listedTwice ⟨false, false⟩) complete with ⟨e | r, v⟩
    · simp [hrun, Except.toOption] at hruns
    obtain ⟨haveraged, count, hcount, hlog⟩ :=
      (run_events unlaunched listedTwice complete).2.1 false r v hrun
    have hsize : ((listedTwice.workloads.map fun w =>
        filled listedTwice complete.files w listedTwice.tasks).map Aggregate.size).foldr
          (· + ·) 0 = 3 := by decide +kernel
    have hmeans := encard_means haveraged
    rw [hsize] at hmeans
    obtain rfl : count = 3 := Nat.cast_inj.mp (hcount.symm.trans hmeans)
    refine ⟨r, v, rfl, hmeans, ?_⟩
    rw [← List.getLast?_reverse, hlog, List.getLast?_concat]
    rfl
  · have hmissing : (failure? (tableAt { entries := firstMix }
        (listedTwice.resultsPath "fb" ⟨"mix2", 0.9, "Mixed"⟩))).isSome = true := by decide +kernel
    obtain ⟨miss, hmiss⟩ := Option.isSome_iff_exists.mp hmissing
    have hrows : ∀ task ∈ listedTwice.tasks, ∀ w ∈ listedTwice.workloads,
        ((tableAt { entries := firstMix } (listedTwice.resultsPath task w)).toOption.all fun table =>
          table.rows.length < Results.sizedLimit) = true := by decide +kernel
    have hsmall : Countable listedTwice { entries := firstMix } := by
      intro task htask w hw table htable
      simpa [htable, Except.toOption] using hrows task htask w hw
    have hvalid : listedTwice.validate = .ok () := by rfl
    rcases (run_events unlaunched listedTwice incomplete).2.2 hvalid "fb" List.mem_cons_self
      ⟨"mix2", 0.9, "Mixed"⟩ (List.mem_cons_of_mem _ List.mem_cons_self) miss
      (failure?_eq_some_iff.mp hmiss) with ⟨done, last, before, e, hstops, hrun⟩ | ⟨hlarge, -⟩
    · obtain ⟨later, _, _, htasks, -, -⟩ := hstops.next
      obtain ⟨rfl, hlast⟩ : done = [] ∧ last = "fb" := by
        cases done <;> simp_all [listedTwice]
      exact ⟨e, before, hlast ▸ hrun ⟨true, true⟩⟩
    · exact absurd hsmall hlarge

end Report
end Footprint
