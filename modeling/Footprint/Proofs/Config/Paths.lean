import Footprint.Proofs.Files.Names
import Footprint.Proofs.Number.RoundTrip

/-!
# The paths of a configuration are told apart by their names

A table's name is read from its right end: the label behind the insert ratio is the same for all
tables, and a printed ratio has no underscore, so the last underscore in front of it ends what the
configuration writes behind the task. An analysis file's name shows its workload's name between two
fixed texts. The endings of the three kinds of names differ, and no ending holds a slash.
-/
namespace Footprint

/-- Behind the last separator of a text, and in front of it. -/
theorem Text.append_separator_inj {separator : Char} {before before' after after' : List Char}
    (h : separator ∉ after) (h' : separator ∉ after') :
    before ++ separator :: after = before' ++ separator :: after' ↔
      before = before' ∧ after = after' := by
  constructor
  · intro heq
    rcases List.append_eq_append_iff.mp heq with ⟨more, rfl, hmore⟩ | ⟨more, rfl, hmore⟩
    · -- What is longer in front holds the other separator behind its own.
      cases more with
      | nil => simpa using hmore
      | cons c more =>
        rw [List.cons_append, List.cons.injEq] at hmore
        exact absurd (hmore.2 ▸ List.mem_append_right more List.mem_cons_self) h
    · cases more with
      | nil => simpa using hmore.symm
      | cons c more =>
        rw [List.cons_append, List.cons.injEq] at hmore
        exact absurd (hmore.2 ▸ List.mem_append_right more List.mem_cons_self) h'
  · rintro ⟨rfl, rfl⟩
    rfl

theorem Number.underscore_not_mem_fixedChars (places : Nat) (v : Float) :
    '_' ∉ fixedChars places v := by
  have hdigits : ∀ n, '_' ∉ Nat.toDigits 10 n := fun n h => by
    simpa [isDigit] using isDigit_toDigits n _ h
  have hzeros : ∀ n, '_' ∉ zeros n := fun n h => by simpa [isDigit] using isDigit_zeros n _ h
  have hpointed : ∀ n, '_' ∉ pointedAt places n := by simp [pointedAt, hdigits, hzeros]
  rw [fixedChars]
  split
  · decide
  · cases isNegative v <;> split <;> simp [signed, hpointed]

/-! ## Joined paths -/

/-- What stands in front of every relative path below `base`. -/
def Path.front (base : String) : String :=
  if base.toList.getLast?.all (· = '/') then base else base ++ "/"

theorem Path.join_of_relative {rest : String} (h : isAbsolute rest = false) (base : String) :
    join base rest = front base ++ rest := by
  rw [join, h, front]
  simp only [Bool.false_eq_true, if_false]
  split <;> rfl

theorem Path.join_inj {base rest rest' : String} (h : isAbsolute rest = false)
    (h' : isAbsolute rest' = false) : join base rest = join base rest' ↔ rest = rest' := by
  rw [join_of_relative h, join_of_relative h', ← String.toList_inj, String.toList_append,
    String.toList_append, List.append_cancel_left_eq, String.toList_inj]

/-! ## The last component -/

private theorem Path.getLast?_filter_current {before : List Component} {name : String} :
    ((before ++ [Component.name name]).filter (· ≠ Component.current)).getLast? =
      some (Component.name name) := by
  rw [List.filter_append]
  exact List.getLast?_concat

theorem Path.getLast?_components {path : String} {ending : List Char} (h : ending <:+ path.toList)
    (hslash : '/' ∉ ending) (hlong : 2 < ending.length) :
    ∃ name, (components path).getLast? = some (.name name) ∧ ending <:+ name.toList := by
  obtain ⟨part, hlast, hpart⟩ := Text.getLast?_split hslash h
  obtain ⟨before, hparts⟩ := List.getLast?_eq_some_iff.mp hlast
  have hlength : 2 < part.length := Nat.lt_of_lt_of_le hlong hpart.length_le
  have hne : part ≠ [] := List.ne_nil_of_length_pos (by omega)
  have hname : componentOf part = .name (.ofList part) := by
    rw [componentOf, if_neg, if_neg]
    · rintro rfl
      simp at hlength
    · rintro rfl
      simp at hlength
  obtain ⟨all, hall⟩ : ∃ all, ((parts path.toList).filter (· ≠ [])).map componentOf =
      all ++ [.name (.ofList part)] := by
    refine ⟨(before.filter (· ≠ [])).map componentOf, ?_⟩
    rw [parts, hparts, List.filter_append, List.map_append]
    simp [hne, hname]
  refine ⟨.ofList part, ?_, by rwa [String.toList_ofList]⟩
  simp only [components, hall]
  split
  · rw [List.getLast?_cons, getLast?_filter_current]
    rfl
  · split
    · next rest heq =>
      obtain ⟨rest, rfl⟩ : ∃ before, rest = before ++ [.name (.ofList part)] := by
        cases all with
        | nil => cases heq
        | cons c all => exact ⟨all, (List.cons.inj heq).2.symm⟩
      rw [List.getLast?_cons, getLast?_filter_current]
      rfl
    · exact getLast?_filter_current

/-- Paths that end differently have different names, whatever directories they lead through. -/
theorem Path.fileName?_ne {path other : String} {ending otherEnding : List Char}
    (h : ending <:+ path.toList) (h' : otherEnding <:+ other.toList)
    (hslash : '/' ∉ ending ∧ '/' ∉ otherEnding) (hlong : 2 < ending.length ∧ 2 < otherEnding.length)
    (hne : ¬ending <:+ otherEnding ∧ ¬otherEnding <:+ ending) : fileName? path ≠ fileName? other := by
  obtain ⟨name, hname, hending⟩ := getLast?_components h hslash.1 hlong.1
  obtain ⟨name', hname', hending'⟩ := getLast?_components h' hslash.2 hlong.2
  rw [fileName?, fileName?, hname, hname']
  intro heq
  obtain rfl : name = name' := Option.some.inj heq
  rcases List.suffix_or_suffix_of_suffix hending hending' with h | h
  · exact hne.1 h
  · exact hne.2 h

/-! ## The paths of a configuration -/

namespace Config

/-- What a table's name writes between the task and the last underscore in front of the insert
ratio. -/
def betweenTaskAndRatio (c : Config) : List Char :=
  let ratio := Number.fixedText 6
  s!"_{c.dataset}_ops_{c.ops}_{ratio c.rangeQueryRatio}rq_{ratio c.nonLookupRatio}nl".toList

def behindRatio (c : Config) : List Char := s!"i_{c.workloadLabel}_results_table.csv".toList

theorem toList_resultsName (c : Config) (task : String) (w : Workload) :
    (c.resultsName task w).toList = ((task.toList ++ c.betweenTaskAndRatio) ++
      '_' :: Number.fixedChars 6 w.insertRatio) ++ c.behindRatio := by
  simp [resultsName, betweenTaskAndRatio, behindRatio, Number.fixedText, toString]

theorem resultsName_inj (c : Config) {task task' : String} {w w' : Workload} :
    c.resultsName task w = c.resultsName task' w' ↔
      task = task' ∧ Number.fixedText 6 w.insertRatio = Number.fixedText 6 w'.insertRatio := by
  rw [← String.toList_inj, toList_resultsName, toList_resultsName, List.append_cancel_right_eq,
    Text.append_separator_inj (Number.underscore_not_mem_fixedChars 6 _)
      (Number.underscore_not_mem_fixedChars 6 _), List.append_cancel_right_eq, String.toList_inj,
    Number.fixedText, Number.fixedText, String.ofList_inj]

/-- A table's name begins with the task, or with an underscore. -/
theorem isAbsolute_resultsName (c : Config) {task : String} (h : Path.isAbsolute task = false)
    (w : Workload) : Path.isAbsolute (c.resultsName task w) = false := by
  rw [Path.isAbsolute, toList_resultsName]
  cases htask : task.toList with
  | nil => simp [betweenTaskAndRatio, toString]
  | cons first rest => simpa [Path.isAbsolute, htask] using h

theorem analysisPath_inj (c : Config) {w w' : Workload} :
    c.analysisPath w = c.analysisPath w' ↔ w.name = w'.name := by
  have hname : ∀ w : Workload, s!"insertlookup_{w.name}_index_size.csv".toList =
      "insertlookup_".toList ++ (w.name.toList ++ "_index_size.csv".toList) := by
    simp [toString]
  have hrelative : ∀ w : Workload,
      Path.isAbsolute s!"insertlookup_{w.name}_index_size.csv" = false := by
    intro w
    rw [Path.isAbsolute, hname]
    simp
  rw [analysisPath, analysisPath, Path.join_inj (hrelative w) (hrelative w'), ← String.toList_inj,
    hname, hname, List.append_cancel_left_eq, List.append_cancel_right_eq, String.toList_inj]

/-- The tables of two tasks and workloads have one path exactly when the tasks are the same and the
insert ratios are printed alike, and two analysis files exactly when their workloads have one name.
A table never bears the name of an analysis file or of plot data, not even those of another
configuration. -/
theorem paths_apart (c : Config) :
    (∀ task task' w w', Path.isAbsolute task = false → Path.isAbsolute task' = false →
      (c.resultsPath task w = c.resultsPath task' w' ↔ task = task' ∧
        Number.fixedText 6 w.insertRatio = Number.fixedText 6 w'.insertRatio)) ∧
    (∀ w w', c.analysisPath w = c.analysisPath w' ↔ w.name = w'.name) ∧
    ∀ task w, ∃ name, Path.fileName? (c.resultsPath task w) = some name ∧ ∀ d : Config,
      (∀ v, Path.fileName? (d.analysisPath v) ≠ some name) ∧
        ∀ path, d.plotDataPath = .ok path → Path.fileName? path ≠ some name := by
  refine ⟨fun task task' w w' h h' => ?_, fun w w' => c.analysisPath_inj, fun task w => ?_⟩
  · rw [resultsPath, resultsPath, Path.join_inj (c.isAbsolute_resultsName h w)
      (c.isAbsolute_resultsName h' w'), resultsName_inj]
  · have hresults := c.resultsEnding_suffix task w
    obtain ⟨name, hname, -⟩ := Path.getLast?_components hresults (by decide) (by decide)
    have hfile : Path.fileName? (c.resultsPath task w) = some name := by
      rw [Path.fileName?, hname]
    refine ⟨name, hfile, fun d => ⟨fun v => ?_, fun path hpath => ?_⟩⟩ <;> rw [← hfile]
    · exact Path.fileName?_ne (d.analysisEnding_suffix v) hresults (by decide) (by decide) (by decide)
    · exact Path.fileName?_ne (plotDataEnding_suffix hpath) hresults (by decide) (by decide)
        (by decide)

/-- Underscores inside the task do not move the place of the ratio. -/
theorem paths_apart_underscores :
    let c : Config := { dataset := "d_ops_1", workloadLabel := "0.100000i_" }
    c.resultsPath "fb_d" ⟨"mix", 0.1, ""⟩ ≠ c.resultsPath "fb" ⟨"mix", 0.1, ""⟩ ∧
      c.resultsPath "fb" ⟨"mix", 0.1, ""⟩ = c.resultsPath "fb" ⟨"other", 0.1000000001, ""⟩ := by
  intro c
  have hpaths := (paths_apart c).1
  constructor
  · intro h
    have htasks := ((hpaths "fb_d" "fb" _ _ (by decide) (by decide)).mp h).1
    exact absurd htasks (by decide)
  · exact (hpaths "fb" "fb" _ _ (by decide) (by decide)).mpr ⟨rfl, by decide +kernel⟩

end Config
end Footprint
