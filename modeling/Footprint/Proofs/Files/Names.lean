import Footprint.Config.Paths
import Footprint.Proofs.Files.Store

/-!
# The names of the places that paths lead to

A path leads to the same place in all file systems with the same links in which it leads anywhere. That
place bears the path's last name, unless a link leads there. So without links, paths whose names end
differently never lead to one place.
-/
namespace Footprint

theorem Text.split_of_not_mem {separator : Char} {cs : List Char} (h : separator ∉ cs) :
    split separator cs = [cs] := by
  induction cs with
  | nil => rfl
  | cons c cs ih =>
    rw [List.mem_cons, not_or] at h
    rw [split, if_neg (Ne.symm h.1), ih h.2]

/-- What a text ends in, its last part ends in too, unless there is a separator inside. -/
theorem Text.getLast?_split {separator : Char} {ending cs : List Char} (hout : separator ∉ ending)
    (h : ending <:+ cs) :
    ∃ part, (split separator cs).getLast? = some part ∧ ending <:+ part := by
  induction cs with
  | nil => exact ⟨[], rfl, h⟩
  | cons c cs ih =>
    rcases List.suffix_cons_iff.mp h with rfl | h
    · rw [split_of_not_mem hout]
      exact ⟨c :: cs, rfl, List.suffix_rfl⟩
    · obtain ⟨part, hlast, hpart⟩ := ih h
      rw [split]
      cases hparts : split separator cs with
      | nil =>
        rw [hparts] at hlast
        cases hlast
      | cons first rest =>
        rw [hparts] at hlast
        split
        · exact ⟨part, by rwa [List.getLast?_cons_cons], hpart⟩
        · cases rest with
          | nil =>
            obtain rfl : first = part := Option.some.inj hlast
            exact ⟨c :: first, rfl, hpart.trans (List.suffix_cons c first)⟩
          | cons second rest =>
            rw [List.getLast?_cons_cons] at hlast
            exact ⟨part, by rwa [List.getLast?_cons_cons], hpart⟩

namespace FileSystem

/-! ## One place -/

/-- A walk that succeeds goes on behind each name, be it the last one. -/
theorem walk_name {fs : FileSystem} {part : String} {parts : List String} {dir p : Place}
    (hskip : ¬(part = "" ∨ part = ".")) (hup : part ≠ "..")
    (h : fs.walk dir (part :: parts) = .ok p) :
    ∃ q, fs.follow (dir ++ [part]) = .ok q ∧ fs.walk q parts = .ok p := by
  by_cases hlong : nameLimit < part.utf8ByteSize
  · rw [walk, if_neg hskip, if_neg hup, if_pos hlong] at h
    cases h
  rw [walk, if_neg hskip, if_neg hup, if_neg hlong] at h
  cases hfollow : fs.follow (dir ++ [part]) with
  | error e => simp [hfollow] at h
  | ok q =>
    simp only [hfollow] at h
    refine ⟨q, rfl, ?_⟩
    split at h
    · cases h
    · exact h
    · split at h
      · next hnil =>
        subst hnil
        exact h
      · cases h

theorem walk_unique {fs gs : FileSystem} (hlinks : gs.links = fs.links) {parts : List String}
    {dir p q : Place} (hp : fs.walk dir parts = .ok p) (hq : gs.walk dir parts = .ok q) : p = q := by
  induction parts generalizing dir with
  | nil =>
    rw [walk, Except.ok.injEq] at hp hq
    rw [← hp, hq]
  | cons part parts ih =>
    by_cases hskip : part = "" ∨ part = "."
    · rw [walk, if_pos hskip] at hp hq
      exact ih hp hq
    by_cases hup : part = ".."
    · rw [walk, if_neg hskip, if_pos hup] at hp hq
      exact ih hp hq
    obtain ⟨d, hd, hp⟩ := walk_name hskip hup hp
    obtain ⟨d', hd', hq⟩ := walk_name hskip hup hq
    rw [follow_congr hlinks, hd] at hd'
    cases hd'
    exact ih hp hq

theorem resolve_unique {fs gs : FileSystem} (hlinks : gs.links = fs.links) {path : String}
    {p q : Place} (hp : fs.resolve path = .ok p) (hq : gs.resolve path = .ok q) : p = q := by
  simp only [resolve, bind, Except.bind] at hp hq
  cases hparts : partsOf path with
  | error e => simp [hparts] at hp
  | ok parts =>
    simp only [hparts] at hp hq
    exact walk_unique hlinks hp hq

/-! ## The last name -/

/-- Whether a link leads to a place. -/
def IsLinked (fs : FileSystem) (p : Place) : Prop := ∃ q, fs.links.find? q = some p

theorem Linkless.not_isLinked {fs : FileSystem} (h : fs.Linkless) (p : Place) : ¬fs.IsLinked p := by
  rintro ⟨q, hq⟩
  rw [show fs.links = [] from h] at hq
  cases hq

theorem follow_cases {fs : FileSystem} {p q : Place} (h : fs.follow p = .ok q) :
    q = p ∨ fs.IsLinked q := by
  rw [follow] at h
  split at h
  · exact .inl (Except.ok.inj h).symm
  · next r hr =>
    split_ifs at h
    cases h
    exact .inr ⟨p, hr⟩

theorem walk_concat {fs : FileSystem} {before : List String} {name : String} {dir p : Place}
    (hempty : name ≠ "") (hdot : name ≠ ".") (hup : name ≠ "..")
    (h : fs.walk dir (before ++ [name]) = .ok p) : p.getLast? = some name ∨ fs.IsLinked p := by
  induction before generalizing dir with
  | nil =>
    obtain ⟨q, hq, hp⟩ := walk_name (not_or.mpr ⟨hempty, hdot⟩) hup h
    cases hp
    refine (follow_cases hq).imp_left fun heq => ?_
    rw [heq]
    exact List.getLast?_concat
  | cons part before ih =>
    rcases walk_cons_cases fs dir part with ⟨d, hd⟩ | ⟨e, he⟩
    · rw [List.cons_append, hd] at h
      exact ih h
    · rw [List.cons_append, he _ (by simp)] at h
      cases h

/-- The place that a path leads to has a name that ends as the path does, or a link leads there. -/
theorem resolve_name {fs : FileSystem} {path : String} {p : Place} {ending : List Char}
    (h : fs.resolve path = .ok p) (hpath : ending <:+ path.toList) (hslash : '/' ∉ ending)
    (hlong : 2 < ending.length) :
    (∃ name, p.getLast? = some name ∧ ending <:+ name.toList) ∨ fs.IsLinked p := by
  obtain ⟨part, hlast, hpart⟩ := Text.getLast?_split hslash hpath
  obtain ⟨before, hbefore⟩ := List.getLast?_eq_some_iff.mp hlast
  simp only [resolve, bind, Except.bind, partsOf] at h
  split_ifs at h
  simp only [Path.parts, hbefore, List.map_append, List.map_cons, List.map_nil] at h
  have hlength : 2 < (String.ofList part).toList.length := by
    rw [String.toList_ofList]
    exact Nat.lt_of_lt_of_le hlong hpart.length_le
  refine (walk_concat ?_ ?_ ?_ h).imp_left fun hname => ⟨_, hname, by rwa [String.toList_ofList]⟩
  · rintro heq
    simp [heq] at hlength
  · rintro heq
    simp [heq] at hlength
  · rintro heq
    simp [heq] at hlength

/-- Names with different endings are different. -/
theorem resolve_ne {fs gs : FileSystem} (hfs : fs.Linkless) (hgs : gs.Linkless)
    {path other : String} {p q : Place} {ending otherEnding : List Char}
    (hp : fs.resolve path = .ok p) (hq : gs.resolve other = .ok q)
    (hpath : ending <:+ path.toList) (hother : otherEnding <:+ other.toList)
    (hslash : '/' ∉ ending ∧ '/' ∉ otherEnding) (hlong : 2 < ending.length ∧ 2 < otherEnding.length)
    (hne : ¬ending <:+ otherEnding ∧ ¬otherEnding <:+ ending) : p ≠ q := by
  obtain ⟨name, hname, hending⟩ :=
    (resolve_name hp hpath hslash.1 hlong.1).resolve_right (hfs.not_isLinked p)
  obtain ⟨_, hsame, hotherEnding⟩ :=
    (resolve_name hq hother hslash.2 hlong.2).resolve_right (hgs.not_isLinked q)
  rintro rfl
  obtain rfl := Option.some.inj (hname.symm.trans hsame)
  rcases List.suffix_or_suffix_of_suffix hending hotherEnding with h | h
  · exact hne.1 h
  · exact hne.2 h

end FileSystem

/-! ## The endings of the files that a configuration names -/

theorem Path.suffix_join (base rest : String) : rest.toList <:+ (join base rest).toList := by
  rw [join]
  split
  · exact List.suffix_rfl
  · split
    · rw [String.toList_append]
      exact List.suffix_append _ _
    · rw [String.toList_append]
      exact List.suffix_append _ _

namespace Config

def resultsEnding : List Char := "_results_table.csv".toList

def analysisEnding : List Char := "_index_size.csv".toList

def plotDataEnding : List Char := ".json".toList

theorem resultsEnding_suffix (c : Config) (task : String) (w : Workload) :
    resultsEnding <:+ (c.resultsPath task w).toList := by
  refine List.IsSuffix.trans ?_ (Path.suffix_join _ _)
  rw [resultsName, String.toList_append]
  refine List.IsSuffix.trans ?_ (List.suffix_append _ _)
  rw [String.toList_append]
  exact List.suffix_append _ _

theorem analysisEnding_suffix (c : Config) (w : Workload) :
    analysisEnding <:+ (c.analysisPath w).toList := by
  refine List.IsSuffix.trans ?_ (Path.suffix_join _ _)
  rw [String.toList_append]
  exact List.suffix_append _ _

theorem plotDataEnding_suffix {c : Config} {path : String} (h : c.plotDataPath = .ok path) :
    plotDataEnding <:+ path.toList := by
  rw [plotDataPath] at h
  split at h
  · cases h
    refine List.IsSuffix.trans ?_ (Path.suffix_join _ _)
    rw [String.toList_append]
    exact List.suffix_append _ _
  · cases h

variable {fs gs : FileSystem} {p q : Place}

/-- No results table is read from the place of an analysis file. -/
theorem resultsPath_ne_analysisPath (hfs : fs.Linkless) (hgs : gs.Linkless) {c : Config}
    {task : String} {w v : Workload} (hp : fs.resolve (c.resultsPath task w) = .ok p)
    (hq : gs.resolve (c.analysisPath v) = .ok q) : p ≠ q :=
  FileSystem.resolve_ne hfs hgs hp hq (c.resultsEnding_suffix task w) (c.analysisEnding_suffix v)
    (by decide) (by decide) (by decide)

theorem plotDataPath_ne_analysisPath (hfs : fs.Linkless) (hgs : gs.Linkless) {c : Config}
    {path : String} {v : Workload} (hpath : c.plotDataPath = .ok path) (hp : fs.resolve path = .ok p)
    (hq : gs.resolve (c.analysisPath v) = .ok q) : p ≠ q :=
  FileSystem.resolve_ne hfs hgs hp hq (plotDataEnding_suffix hpath) (c.analysisEnding_suffix v)
    (by decide) (by decide) (by decide)

end Config
end Footprint
