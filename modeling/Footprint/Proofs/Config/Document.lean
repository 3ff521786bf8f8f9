import Footprint.Config.Document
import Footprint.Proofs.Report.Configuration
import Footprint.Proofs.Yaml.Equality
import Footprint.Proofs.Yaml.Reordering

/-!
# Configurations from partial documents

A document of a configuration has entries on four levels: at the top, for the output, for the figure
and for each workload. On the first three a field that is left out keeps its default; a workload must
have all of its fields.
-/
namespace Footprint.Config

open Yaml (Document Node Slot Entries Mapped Block Lawful Reordering UpToOrder Carries)

/-! ## The fields of each level -/

def workloadSlots : List (Slot Workload) := [
  ⟨String, "name", Yaml.text, Workload.name, fun w v => { w with name := v }⟩,
  ⟨Float, "insert_ratio", Yaml.real, Workload.insertRatio, fun w v => { w with insertRatio := v }⟩,
  ⟨String, "title", Yaml.text, Workload.title, fun w v => { w with title := v }⟩]

def outputSlots : List (Slot Output) := [
  ⟨PathText, "figure", pathText, Output.figure, fun o v => { o with figure := v }⟩,
  ⟨PathText, "analysis_dir", pathText, Output.analysisDir,
    fun o v => { o with analysisDir := v }⟩]

def figureSlots : List (Slot FigureStyle) := [
  ⟨Float, "width", Yaml.real, FigureStyle.width, fun f v => { f with width := v }⟩,
  ⟨Float, "height", Yaml.real, FigureStyle.height, fun f v => { f with height := v }⟩,
  ⟨UInt32, "dpi", Yaml.word32, FigureStyle.dpi, fun f v => { f with dpi := v }⟩,
  ⟨UInt64, "rows", Yaml.word64, FigureStyle.rows, fun f v => { f with rows := v }⟩,
  ⟨UInt64, "cols", Yaml.word64, FigureStyle.cols, fun f v => { f with cols := v }⟩,
  ⟨UInt64, "reserved_panels", Yaml.word64, FigureStyle.reservedPanels,
    fun f v => { f with reservedPanels := v }⟩,
  ⟨Float, "bar_width", Yaml.real, FigureStyle.barWidth, fun f v => { f with barWidth := v }⟩,
  ⟨List String, "colors", Yaml.list Yaml.text, FigureStyle.colors,
    fun f v => { f with colors := v }⟩,
  ⟨String, "title", Yaml.text, FigureStyle.title, fun f v => { f with title := v }⟩,
  ⟨UInt32, "title_size", Yaml.word32, FigureStyle.titleSize, fun f v => { f with titleSize := v }⟩,
  ⟨String, "y_label", Yaml.text, FigureStyle.yLabel, fun f v => { f with yLabel := v }⟩,
  ⟨Bool, "show", Yaml.boolean, FigureStyle.shown, fun f v => { f with shown := v }⟩]

def workloadsSlot : Slot Config :=
  ⟨List Workload, "workloads", Yaml.list workload, Config.workloads,
    fun c v => { c with workloads := v }⟩

def outputSlot : Slot Config :=
  ⟨Output, "output", Yaml.record "struct OutputConfig" (outputSlots.map Slot.field) {},
    Config.output, fun c v => { c with output := v }⟩

def figureSlot : Slot Config :=
  ⟨FigureStyle, "figure", Yaml.record "struct FigureConfig" (figureSlots.map Slot.field) {},
    Config.figure, fun c v => { c with figure := v }⟩

def slots : List (Slot Config) := [
  ⟨List String, "tasks", Yaml.list Yaml.text, Config.tasks, fun c v => { c with tasks := v }⟩,
  ⟨List String, "indexes", Yaml.list Yaml.text, Config.indexes, fun c v => { c with indexes := v }⟩,
  ⟨String, "results_dir", Yaml.path, Config.resultsDir, fun c v => { c with resultsDir := v }⟩,
  ⟨String, "dataset", Yaml.text, Config.dataset, fun c v => { c with dataset := v }⟩,
  ⟨String, "ops", Yaml.text, Config.ops, fun c v => { c with ops := v }⟩,
  ⟨Float, "range_query_ratio", Yaml.real, Config.rangeQueryRatio,
    fun c v => { c with rangeQueryRatio := v }⟩,
  ⟨Float, "non_lookup_ratio", Yaml.real, Config.nonLookupRatio,
    fun c v => { c with nonLookupRatio := v }⟩,
  ⟨String, "workload_label", Yaml.text, Config.workloadLabel,
    fun c v => { c with workloadLabel := v }⟩,
  workloadsSlot, outputSlot, figureSlot,
  ⟨String, "python", Yaml.text, Config.interpreter, fun c v => { c with interpreter := v }⟩,
  ⟨String, "plot_script", Yaml.path, Config.plotScript, fun c v => { c with plotScript := v }⟩]

theorem fields_eq : fields = slots.map Slot.field := rfl

theorem outputSlots_lawful : Lawful outputSlots where
  nodup := by decide
  get_set := by simp [outputSlots]
  apart := by simp [outputSlots, Slot.Apart]
  ext := by
    intro r r' h
    cases r
    cases r'
    simpa [outputSlots] using h

theorem figureSlots_lawful : Lawful figureSlots where
  nodup := by decide
  get_set := by simp [figureSlots]
  apart := by simp [figureSlots, Slot.Apart]
  ext := by
    intro r r' h
    cases r
    cases r'
    simpa [figureSlots] using h

theorem slots_lawful : Lawful slots where
  nodup := by decide
  get_set := by simp [slots, workloadsSlot, outputSlot, figureSlot]
  apart := by simp [slots, workloadsSlot, outputSlot, figureSlot, Slot.Apart]
  ext := by
    intro r r' h
    cases r
    cases r'
    simpa [slots, workloadsSlot, outputSlot, figureSlot] using h

/-! ## Workloads -/

variable {α β : Type} {d : Document} {n : Node} {es : Entries}

/-- A field that begins without a value. -/
def optionalSlot (name : String) (value : Yaml.Decoder β) (get : α → Option β)
    (set : α → Option β → α) : Slot α :=
  ⟨Option β, name, fun d n => some <$> value d n, get, set⟩

theorem field_optionalSlot (name : String) (value : Yaml.Decoder β) (get : α → Option β)
    (set : α → Option β → α) : (optionalSlot name value get set).field =
      .of name value fun r v => set r (some v) := by
  have hread : (optionalSlot name value get set).field.read =
      fun d n r => do return set r (some (← value d n)) := by
    funext d n r
    simp [optionalSlot, Slot.field, Yaml.Field.of]
  exact congrArg (Yaml.Field.mk name) hread

theorem holds_optionalSlot {name : String} {value : Yaml.Decoder β} {get : α → Option β}
    {set : α → Option β → α} {start r : α} {v : β} (hstart : get start = none)
    (hr : get r = some v) : (optionalSlot name value get set).Holds d es start r ↔
      ∃ n, es.find? name = some n ∧ value d n = .ok v := by
  simp only [Slot.Holds, Yaml.Decoded, optionalSlot, hstart, hr]
  cases es.find? name with
  | none => simp
  | some n => cases hv : value d n <;> simp [hv]

def draftSlots : List (Slot WorkloadDraft) := [
  optionalSlot "name" Yaml.text WorkloadDraft.name fun w v => { w with name := v },
  optionalSlot "insert_ratio" Yaml.real WorkloadDraft.insertRatio
    fun w v => { w with insertRatio := v },
  optionalSlot "title" Yaml.text WorkloadDraft.title fun w v => { w with title := v }]

theorem workloadFields_eq : workloadFields = draftSlots.map Slot.field := by
  simp only [draftSlots, List.map_cons, List.map_nil, field_optionalSlot]
  rfl

theorem draftSlots_lawful : Lawful draftSlots where
  nodup := by decide
  get_set := by simp [draftSlots, optionalSlot]
  apart := by simp [draftSlots, optionalSlot, Slot.Apart]
  ext := by
    intro r r' h
    cases r
    cases r'
    simpa [draftSlots, optionalSlot] using h

theorem workloadSlots_lawful : Lawful workloadSlots where
  nodup := by decide
  get_set := by simp [workloadSlots]
  apart := by simp [workloadSlots, Slot.Apart]
  ext := by
    intro r r' h
    cases r
    cases r'
    simpa [workloadSlots] using h

theorem need_eq_ok_iff {name : String} {o : Option α} {v : α} : need name o = .ok v ↔ o = some v := by
  cases o <;> simp [need, Yaml.fail]

theorem complete_eq_ok_iff {w : WorkloadDraft} {v : Workload} :
    w.complete = .ok v ↔ w = ⟨some v.name, some v.insertRatio, some v.title⟩ := by
  obtain ⟨name, insertRatio, title⟩ := w
  simp only [WorkloadDraft.complete, bind_eq_ok_iff, need_eq_ok_iff, WorkloadDraft.mk.injEq]
  constructor
  · rintro ⟨name, rfl, insertRatio, rfl, title, rfl, hv⟩
    cases hv
    exact ⟨rfl, rfl, rfl⟩
  · rintro ⟨rfl, rfl, rfl⟩
    exact ⟨_, rfl, _, rfl, _, rfl, rfl⟩

theorem exists_optionalSlot_value {name : String} {value : Yaml.Decoder β} {get : α → Option β}
    {set : α → Option β → α} :
    (∃ v, (optionalSlot name value get set).value d n = .ok v) ↔ ∃ v, value d n = .ok v := by
  simp only [optionalSlot]
  cases value d n <;> simp

theorem fits_draftSlots : Yaml.Fits draftSlots d es ↔ Yaml.Fits workloadSlots d es := by
  apply forall₂_congr
  intro e _
  simp only [draftSlots, workloadSlots, List.mem_cons, List.not_mem_nil, or_false,
    exists_eq_or_imp, exists_eq_left, exists_optionalSlot_value]
  rfl

theorem workload_eq_ok_iff {w : Workload} (hes : Mapped d n es) : workload d n = .ok w ↔
    Yaml.Fits workloadSlots d es ∧ ∀ s ∈ workloadSlots, s.Given d es w := by
  rw [workload, bind_eq_ok_iff, workloadFields_eq]
  simp only [complete_eq_ok_iff, exists_eq_right, hes.record_eq_ok_iff draftSlots_lawful,
    fits_draftSlots]
  apply and_congr_right
  intro _
  simp only [draftSlots, workloadSlots, List.forall_mem_cons, List.not_mem_nil, false_implies,
    implies_true, and_true]
  exact and_congr (holds_optionalSlot rfl rfl)
    (and_congr (holds_optionalSlot rfl rfl) (holds_optionalSlot rfl rfl))

/-- The entries fit the fields of a workload, and no field is left out. -/
def Complete (d : Document) (es : Entries) : Prop :=
  Yaml.Fits workloadSlots d es ∧ ∀ s ∈ workloadSlots, s.name ∈ es.keys

theorem exists_workload_iff (hes : Mapped d n es) :
    (∃ w, workload d n = .ok w) ↔ Complete d es := by
  constructor
  · rintro ⟨w, hw⟩
    obtain ⟨hfits, hgiven⟩ := (workload_eq_ok_iff hes).mp hw
    refine ⟨hfits, fun s hs => ?_⟩
    obtain ⟨m, hm, -⟩ := hgiven s hs
    exact Assoc.mem_keys_iff.mpr ⟨m, hm⟩
  · rintro ⟨hfits, hkeys⟩
    -- No field keeps its value, so it does not matter what the reading begins with.
    have hread : ∃ w, Yaml.record "" (workloadSlots.map Slot.field) ⟨"", 0, ""⟩ d n = .ok w :=
      hes.exists_record workloadSlots_lawful hfits
    obtain ⟨w, hw⟩ := hread
    obtain ⟨-, hholds⟩ := (hes.record_eq_ok_iff workloadSlots_lawful).mp hw
    exact ⟨w, (workload_eq_ok_iff hes).mpr ⟨hfits, fun s hs => (hholds s hs).given (hkeys s hs)⟩⟩

/-! ## Levels -/

/-- The entries of each level. A block that is left out has none. -/
structure Levels where
  top : Entries
  output : Entries
  figure : Entries
  workloads : Option (List Entries)

/-- The node of the workloads, if it is given, is a list of mappings with these entries. -/
def WorkloadBlock (d : Document) (found : Option Node) (ess : Option (List Entries)) : Prop :=
  match found with
  | none => ess = none
  | some n => ∃ ns listed, d.resolve n = .sequence ns ∧ List.Forall₂ (Mapped d) ns listed ∧
      ess = some listed

/-- The document has these levels: its root and its blocks are mappings, and the workloads are a list
of mappings. -/
structure Levels.Of (l : Levels) (d : Document) : Prop where
  top : ∃ n, d.root = some n ∧ Mapped d n l.top
  output : Block d (l.top.find? "output") l.output
  figure : Block d (l.top.find? "figure") l.figure
  workloads : WorkloadBlock d (l.top.find? "workloads") l.workloads

/-- The fields with a level of their own. -/
def blockNames : List String := ["workloads", "output", "figure"]

/-- On each level every key is the name of a field and every value is one of that field. A workload
has all of its fields. -/
structure Levels.Accepted (l : Levels) (d : Document) : Prop where
  top : ∀ e ∈ l.top, ∃ s ∈ slots, s.name = e.1 ∧
    (s.name ∉ blockNames → ∃ v, s.value d e.2 = .ok v)
  output : Yaml.Fits outputSlots d l.output
  figure : Yaml.Fits figureSlots d l.figure
  workloads : ∀ ess, l.workloads = some ess → ∀ es ∈ ess, Complete d es

/-- Each of the listed workloads holds what its entries say; without a list there is the default. -/
def Replaced (d : Document) (ess : Option (List Entries)) (default ws : List Workload) : Prop :=
  match ess with
  | none => ws = default
  | some listed => List.Forall₂ (fun es w => ∀ s ∈ workloadSlots, s.Given d es w) listed ws

/-- The fields hold what the entries of their levels say and the defaults without one. -/
structure Levels.Hold (l : Levels) (d : Document) (c : Config) : Prop where
  top : ∀ s ∈ slots, s.name ∉ blockNames → s.Holds d l.top {} c
  output : ∀ s ∈ outputSlots, s.Holds d l.output {} c.output
  figure : ∀ s ∈ figureSlots, s.Holds d l.figure {} c.figure
  workloads : Replaced d l.workloads ({} : Config).workloads c.workloads

variable {l : Levels} {c : Config}

theorem WorkloadBlock.fits_iff {found : Option Node} {ess : Option (List Entries)}
    (h : WorkloadBlock d found ess) :
    (∀ n, found = some n → ∃ ws, Yaml.list workload d n = .ok ws) ↔
      ∀ listed, ess = some listed → ∀ es ∈ listed, Complete d es := by
  cases found with
  | none =>
    obtain rfl : ess = none := h
    simp
  | some n =>
    obtain ⟨ns, listed, hns, hmapped, rfl⟩ := h
    simp only [Option.some.injEq, forall_eq', Yaml.list_eq_ok_iff hns]
    clear hns
    induction hmapped with
    | nil => simp
    | cons hes _ ih =>
      rw [List.forall_mem_cons, ← ih, ← exists_workload_iff hes]
      simp only [List.forall₂_cons_left_iff]
      constructor
      · rintro ⟨_, w, ws, hw, hws, rfl⟩
        exact ⟨⟨w, hw⟩, ws, hws⟩
      · rintro ⟨⟨w, hw⟩, ws, hws⟩
        exact ⟨w :: ws, w, ws, hw, hws, rfl⟩

theorem WorkloadBlock.decoded_iff {found : Option Node} {ess : Option (List Entries)}
    {default ws : List Workload} (h : WorkloadBlock d found ess)
    (hfits : ∀ listed, ess = some listed → ∀ es ∈ listed, Complete d es) :
    Yaml.Decoded (Yaml.list workload) d found default ws ↔ Replaced d ess default ws := by
  cases found with
  | none =>
    obtain rfl : ess = none := h
    exact Iff.rfl
  | some n =>
    obtain ⟨ns, listed, hns, hmapped, rfl⟩ := h
    refine (Yaml.list_eq_ok_iff hns).trans ?_
    replace hfits := hfits listed rfl
    clear hns
    induction hmapped generalizing ws with
    | nil => simp [Replaced]
    | @cons n es ns ess hes _ ih =>
      obtain ⟨⟨hfirst, -⟩, hrest⟩ := List.forall_mem_cons.mp hfits
      have hitem (w : Workload) : workload d n = .ok w ↔ ∀ s ∈ workloadSlots, s.Given d es w :=
        (workload_eq_ok_iff hes).trans (and_iff_right hfirst)
      simp only [Replaced, List.forall₂_cons_left_iff, hitem, ih hrest]

theorem forall_block {p : Slot Config → Prop} :
    (∀ s ∈ slots, s.name ∈ blockNames → p s) ↔ p workloadsSlot ∧ p outputSlot ∧ p figureSlot := by
  have hworkloads : workloadsSlot ∈ slots := by simp [slots]
  have houtput : outputSlot ∈ slots := by simp [slots]
  have hfigure : figureSlot ∈ slots := by simp [slots]
  constructor
  · intro h
    exact ⟨h _ hworkloads (by decide), h _ houtput (by decide), h _ hfigure (by decide)⟩
  · rintro ⟨h₁, h₂, h₃⟩ s hs hname
    simp only [blockNames, List.mem_cons, List.not_mem_nil, or_false] at hname
    rcases hname with hname | hname | hname
    · exact slots_lawful.eq_of_name hs hworkloads hname ▸ h₁
    · exact slots_lawful.eq_of_name hs houtput hname ▸ h₂
    · exact slots_lawful.eq_of_name hs hfigure hname ▸ h₃

theorem Levels.Of.fits_iff (hl : l.Of d) : Yaml.Fits slots d l.top ↔ l.Accepted d := by
  obtain ⟨⟨root, -, htop⟩, houtput, hfigure, hworkloads⟩ := hl
  rw [slots_lawful.fits_iff htop.nodup blockNames, forall_block]
  have hout := houtput.fits_iff outputSlots_lawful "struct OutputConfig" {}
  have hfig := hfigure.fits_iff figureSlots_lawful "struct FigureConfig" {}
  constructor
  · rintro ⟨htop, hws, ho, hf⟩
    exact ⟨htop, hout.mpr ho, hfig.mpr hf, hworkloads.fits_iff.mp hws⟩
  · rintro ⟨htop, ho, hf, hws⟩
    exact ⟨htop, hworkloads.fits_iff.mpr hws, hout.mp ho, hfig.mp hf⟩

theorem Levels.Of.hold_iff (hl : l.Of d) (h : l.Accepted d) :
    (∀ s ∈ slots, s.Holds d l.top {} c) ↔ l.Hold d c := by
  have hws : workloadsSlot.Holds d l.top {} c ↔
      Replaced d l.workloads ({} : Config).workloads c.workloads :=
    hl.workloads.decoded_iff h.workloads
  have ho : outputSlot.Holds d l.top {} c ↔ ∀ s ∈ outputSlots, s.Holds d l.output {} c.output :=
    hl.output.decoded_iff outputSlots_lawful h.output
  have hf : figureSlot.Holds d l.top {} c ↔ ∀ s ∈ figureSlots, s.Holds d l.figure {} c.figure :=
    hl.figure.decoded_iff figureSlots_lawful h.figure
  constructor
  · intro hholds
    obtain ⟨hworkloads, houtput, hfigure⟩ := forall_block.mp fun s hs _ => hholds s hs
    exact ⟨fun s hs _ => hholds s hs, ho.mp houtput, hf.mp hfigure, hws.mp hworkloads⟩
  · rintro ⟨htop, houtput, hfigure, hworkloads⟩ s hs
    have hblocks : ∀ s ∈ slots, s.name ∈ blockNames → s.Holds d l.top {} c :=
      forall_block.mpr ⟨hws.mpr hworkloads, ho.mpr houtput, hf.mpr hfigure⟩
    by_cases hname : s.name ∈ blockNames
    · exact hblocks s hs hname
    · exact htop s hs hname

/-! ## Reading -/

theorem ofDocument_eq_ok_iff (hl : l.Of d) :
    ofDocument d = .ok c ↔ l.Accepted d ∧ l.Hold d c := by
  obtain ⟨root, hroot, htop⟩ := hl.top
  rw [ofDocument, hroot, fields_eq, ← hl.fits_iff]
  apply (htop.record_eq_ok_iff slots_lawful).trans
  exact and_congr_right fun hfits => hl.hold_iff (hl.fits_iff.mp hfits)

theorem exists_ofDocument_iff (hl : l.Of d) : (∃ c, ofDocument d = .ok c) ↔ l.Accepted d := by
  obtain ⟨root, hroot, htop⟩ := hl.top
  rw [ofDocument, hroot, fields_eq, ← hl.fits_iff]
  exact htop.exists_record_iff slots_lawful

/-! ## Other orders -/

variable {R : Node → Node → Prop} {d' : Document}

theorem carries_workload (h : Reordering R d d') : Carries R d d' workload := by
  have hvalues : ∀ s ∈ draftSlots, Carries R d d' s.value := by
    simp only [draftSlots, List.forall_mem_cons, List.not_mem_nil, false_implies, implies_true,
      and_true]
    exact ⟨(h.textAs _).map _, (h.typed _ _ _).map _, (h.textAs _).map _⟩
  have hrecord := h.record draftSlots_lawful hvalues "struct Workload" {}
  rw [← workloadFields_eq] at hrecord
  exact hrecord.bind WorkloadDraft.complete

theorem carries_output (h : Reordering R d d') : Carries R d d' outputSlot.value := by
  apply h.record outputSlots_lawful
  simp only [outputSlots, List.forall_mem_cons, List.not_mem_nil, false_implies, implies_true,
    and_true]
  exact ⟨(h.textAs _).map _, (h.textAs _).map _⟩

theorem carries_figure (h : Reordering R d d') : Carries R d d' figureSlot.value := by
  apply h.record figureSlots_lawful
  simp only [figureSlots, List.forall_mem_cons, List.not_mem_nil, false_implies, implies_true,
    and_true]
  exact ⟨h.typed _ _ _, h.typed _ _ _, (h.typed _ _ _).bind _, (h.typed _ _ _).bind _,
    (h.typed _ _ _).bind _, (h.typed _ _ _).bind _, h.typed _ _ _, h.list (h.textAs _),
    h.textAs _, (h.typed _ _ _).bind _, h.textAs _, h.typed _ _ _⟩

theorem carries_slots (h : Reordering R d d') : ∀ s ∈ slots, Carries R d d' s.value := by
  simp only [slots, List.forall_mem_cons, List.not_mem_nil, false_implies, implies_true, and_true]
  exact ⟨h.list (h.textAs _), h.list (h.textAs _), h.textAs _, h.textAs _, h.textAs _,
    h.typed _ _ _, h.typed _ _ _, h.textAs _, h.list (carries_workload h), carries_output h,
    carries_figure h, h.textAs _, h.textAs _⟩

theorem ofDocument_upToOrder (h : UpToOrder d d') (hc : ofDocument d = .ok c) :
    ofDocument d' = .ok c := by
  obtain ⟨R, h⟩ := h
  have hroot := h.root
  rw [ofDocument] at hc ⊢
  generalize d.root = root, d'.root = root' at hc hroot ⊢
  cases hroot with
  | none => exact hc
  | some hn => exact h.record slots_lawful (carries_slots h) "struct Config" {} _ _ _ hn hc

theorem read_eq_ok_iff {text : String} (hd : Document.parse? text = some d) :
    read text = .ok c ↔ ofDocument d = .ok c := by
  rw [read, hd]
  exact mapError_eq_ok_iff

/-- A text is read as a configuration exactly when it is accepted on all levels, and the
configuration then holds what the entries say and the defaults elsewhere. The order of the entries
does not matter. A file gives the configuration of its text when that is valid. -/
theorem read_levels (text : String) (hd : Document.parse? text = some d) (hl : l.Of d) :
    ((∃ c, read text = .ok c) ↔ l.Accepted d) ∧
      (∀ c, read text = .ok c ↔ l.Accepted d ∧ l.Hold d c) ∧
      (∀ text' d', Document.parse? text' = some d' → UpToOrder d d' →
        ∀ c, read text' = .ok c ↔ read text = .ok c) ∧
      ∀ fs path c, Report.configAt fs path = .ok c ↔ ∃ bs content, fs.contents path = .ok bs ∧
        Text.ofBytes? bs = some content ∧ read content = .ok c ∧ c.validate = .ok () := by
  refine ⟨?_, ?_, ?_, ?_⟩
  · simp only [read_eq_ok_iff hd]
    exact exists_ofDocument_iff hl
  · intro c
    exact (read_eq_ok_iff hd).trans (ofDocument_eq_ok_iff hl)
  · intro text' d' hd' horder c
    rw [read_eq_ok_iff hd, read_eq_ok_iff hd']
    exact ⟨ofDocument_upToOrder horder.symm, ofDocument_upToOrder horder⟩
  · intro fs path c
    exact Report.configAt_eq_ok_iff

/-- One workload, and a figure that is not shown. -/
def oneWorkloadText : String :=
  "workloads:\n- title: Reads\n  insert_ratio: .inf\n  name: mix\nfigure:\n  show: false\n"

/-- The figure first. -/
def oneWorkloadLast : String :=
  "figure:\n  show: false\nworkloads:\n- title: Reads\n  insert_ratio: .inf\n  name: mix\n"

def oneWorkloadTop : List (Node × Node) := [
  (.scalar none .plain "workloads", .sequence [.mapping [
    (.scalar none .plain "title", .scalar none .plain "Reads"),
    (.scalar none .plain "insert_ratio", .scalar none .plain ".inf"),
    (.scalar none .plain "name", .scalar none .plain "mix")]]),
  (.scalar none .plain "figure", .mapping [
    (.scalar none .plain "show", .scalar none .plain "false")])]

def oneWorkload : Document := ⟨some (.mapping oneWorkloadTop), []⟩

def oneWorkloadLevels : Levels where
  top := [
    ("workloads", .sequence [.mapping [
      (.scalar none .plain "title", .scalar none .plain "Reads"),
      (.scalar none .plain "insert_ratio", .scalar none .plain ".inf"),
      (.scalar none .plain "name", .scalar none .plain "mix")]]),
    ("figure", .mapping [(.scalar none .plain "show", .scalar none .plain "false")])]
  output := []
  figure := [("show", .scalar none .plain "false")]
  workloads := some [[
    ("title", .scalar none .plain "Reads"),
    ("insert_ratio", .scalar none .plain ".inf"),
    ("name", .scalar none .plain "mix")]]

theorem oneWorkloadLevels_of : oneWorkloadLevels.Of oneWorkload where
  top := ⟨_, rfl, _, rfl, .cons ⟨⟨_, _, rfl⟩, rfl⟩ (.cons ⟨⟨_, _, rfl⟩, rfl⟩ .nil), by decide⟩
  output := rfl
  figure := ⟨_, rfl, .cons ⟨⟨_, _, rfl⟩, rfl⟩ .nil, by decide⟩
  workloads := by
    refine ⟨_, _, rfl, .cons ⟨_, rfl, ?_, by decide⟩ .nil, rfl⟩
    exact .cons ⟨⟨_, _, rfl⟩, rfl⟩ (.cons ⟨⟨_, _, rfl⟩, rfl⟩ (.cons ⟨⟨_, _, rfl⟩, rfl⟩ .nil))

theorem oneWorkloadLevels_accepted : oneWorkloadLevels.Accepted oneWorkload where
  top := by
    simp only [oneWorkloadLevels, List.forall_mem_cons, List.not_mem_nil, false_implies,
      implies_true, and_true]
    exact ⟨⟨slots[8], List.getElem_mem _, rfl, fun h => absurd (by decide) h⟩,
      ⟨slots[10], List.getElem_mem _, rfl, fun h => absurd (by decide) h⟩⟩
  output := by simp [oneWorkloadLevels, Yaml.Fits]
  figure := by
    simp only [oneWorkloadLevels, Yaml.Fits, List.forall_mem_cons, List.not_mem_nil,
      false_implies, implies_true, and_true]
    exact ⟨figureSlots[11], List.getElem_mem _, rfl, false, rfl⟩
  workloads := by
    rintro _ ⟨⟩
    simp only [Complete, Yaml.Fits, List.forall_mem_cons, List.not_mem_nil, false_implies,
      implies_true, and_true]
    exact ⟨⟨⟨workloadSlots[2], List.getElem_mem _, rfl, "Reads", rfl⟩,
      ⟨workloadSlots[1], List.getElem_mem _, rfl, _, rfl⟩,
      ⟨workloadSlots[0], List.getElem_mem _, rfl, "mix", rfl⟩⟩, by decide⟩

theorem read_levels_oneWorkload :
    Document.parse? oneWorkloadText = some oneWorkload ∧ oneWorkloadLevels.Of oneWorkload ∧
      ∃ c, read oneWorkloadText = .ok c ∧ read oneWorkloadLast = .ok c ∧
        c.workloads.map Workload.name = ["mix"] ∧ c.figure.shown = false ∧ c.figure.dpi = 300 ∧
        c.tasks = ["fb"] := by
  have hd : Document.parse? oneWorkloadText = some oneWorkload := by decide +kernel
  have hd' : Document.parse? oneWorkloadLast =
    some ⟨some (.mapping oneWorkloadTop.reverse), []⟩ := by decide +kernel
  obtain ⟨hread, hhold, horder, -⟩ := read_levels _ hd oneWorkloadLevels_of
  obtain ⟨c, hc⟩ := hread.mpr oneWorkloadLevels_accepted
  have hperm := UpToOrder.of_perm (List.reverse_perm oneWorkloadTop).symm []
  obtain ⟨-, htop, -, hfigure, hworkloads⟩ := (hhold c).mp hc
  have htasks := htop slots[0] (List.getElem_mem _) (by decide)
  have hshown := hfigure figureSlots[11] (List.getElem_mem _)
  have hdpi := hfigure figureSlots[2] (List.getElem_mem _)
  have hnames : c.workloads.map Workload.name = ["mix"] := by
    obtain ⟨w, rest, hw, hrest, hws⟩ := List.forall₂_cons_left_iff.mp hworkloads
    obtain ⟨_, ⟨⟩, hname⟩ := hw workloadSlots[0] (List.getElem_mem _)
    rw [hws, List.forall₂_nil_left_iff.mp hrest]
    exact congrArg (fun name => [name]) (Except.ok.inj hname).symm
  exact ⟨hd, oneWorkloadLevels_of, c, hc, (horder _ _ hd' hperm c).mpr hc, hnames,
    (Except.ok.inj hshown).symm, hdpi, htasks⟩

end Footprint.Config
