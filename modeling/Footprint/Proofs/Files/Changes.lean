import Footprint.Proofs.Files.Names
import Mathlib.Data.List.Infix

/-!
# What may differ after files and directories have been made

A step is confined to the files that it writes and the directories that it makes: at every other place
it leaves what was there. Making a directory that is there already changes nothing.
-/
namespace Footprint.FileSystem

/-! ## Confined changes -/

/-- An entry that differs stands where one of the paths in `files` leads, or is a new directory where
one of those in `dirs` leads. -/
structure ChangesOnly (fs later : FileSystem) (files dirs : List String) : Prop where
  keeps : Keeps fs later
  entry : ∀ p, later.entry? p = fs.entry? p ∨ (∃ path ∈ files, later.resolve path = .ok p) ∨
    fs.entry? p = none ∧ later.entry? p = some .directory ∧ ∃ dir ∈ dirs, later.resolve dir = .ok p

variable {fs mid later : FileSystem} {files dirs : List String}

theorem ChangesOnly.refl (fs : FileSystem) (files dirs : List String) :
    ChangesOnly fs fs files dirs :=
  ⟨.refl fs, fun _ => .inl rfl⟩

theorem ChangesOnly.trans (h : ChangesOnly fs mid files dirs) (h' : ChangesOnly mid later files dirs) :
    ChangesOnly fs later files dirs := by
  refine ⟨h.keeps.trans h'.keeps, fun p => ?_⟩
  rcases h'.entry p with hsame | hfile | ⟨hnone, hdir, hway⟩
  · rcases h.entry p with hfirst | ⟨path, hmem, hp⟩ | ⟨hnone, hdir, dir, hmem, hp⟩
    · exact .inl (hsame.trans hfirst)
    · exact .inr (.inl ⟨path, hmem, resolve_of_keeps h'.keeps hp⟩)
    · exact .inr (.inr ⟨hnone, hsame.trans hdir, dir, hmem, resolve_of_keeps h'.keeps hp⟩)
  · exact .inr (.inl hfile)
  · rcases h.entry p with hfirst | ⟨path, hmem, hp⟩ | ⟨-, hmade, -⟩
    · exact .inr (.inr ⟨hfirst.symm.trans hnone, hdir, hway⟩)
    · exact .inr (.inl ⟨path, hmem, resolve_of_keeps h'.keeps hp⟩)
    · rw [hnone] at hmade
      cases hmade

theorem ChangesOnly.mono {files' dirs' : List String} (h : ChangesOnly fs later files dirs)
    (hfiles : files ⊆ files') (hdirs : dirs ⊆ dirs') : ChangesOnly fs later files' dirs' := by
  refine ⟨h.keeps, fun p => ?_⟩
  rcases h.entry p with hsame | ⟨path, hmem, hp⟩ | ⟨hnone, hdir, dir, hmem, hp⟩
  · exact .inl hsame
  · exact .inr (.inl ⟨path, hfiles hmem, hp⟩)
  · exact .inr (.inr ⟨hnone, hdir, dir, hdirs hmem, hp⟩)

/-- What a path leads to stays, unless the path leads where a file may be written. -/
theorem ChangesOnly.lookup (h : ChangesOnly fs later files dirs) {path : String} {e : Entry}
    (he : fs.lookup path = .ok e)
    (hne : ∀ p q, later.resolve path = .ok p → ∀ f ∈ files, later.resolve f = .ok q → p ≠ q) :
    later.lookup path = .ok e := by
  simp only [FileSystem.lookup, bind, Except.bind] at he
  cases hp : fs.resolve path with
  | error err => simp [hp] at he
  | ok p =>
    have hentry : fs.entry? p = some e := (lookup_eq_ok_iff hp).mp (by
      simpa only [FileSystem.lookup, bind, Except.bind] using he)
    have hlater := resolve_of_keeps h.keeps hp
    rw [lookup_eq_ok_iff hlater]
    rcases h.entry p with hsame | ⟨f, hmem, hf⟩ | ⟨hnone, -⟩
    · rw [hsame, hentry]
    · exact absurd rfl (hne p p hlater f hmem hf)
    · rw [hentry] at hnone
      cases hnone

theorem store_changesOnly {path : String} {content : Bytes}
    (h : fs.store path content = .ok later) : ChangesOnly fs later [path] [] := by
  obtain ⟨hkeeps, p, hp, hframe, -⟩ := store_spec h
  refine ⟨hkeeps, fun q => ?_⟩
  by_cases hq : q = p
  · exact .inr (.inl ⟨path, List.mem_singleton_self _, hq ▸ hp⟩)
  · exact .inl (hframe q hq)

/-! ## Directories -/

theorem isDirectory_iff {path : String} :
    fs.isDirectory path = true ↔ ∃ p, fs.resolve path = .ok p ∧ fs.entry? p = some .directory := by
  simp only [isDirectory, lookup, bind, Except.bind]
  cases hp : fs.resolve path with
  | error e => simp
  | ok p =>
    cases he : fs.entry? p with
    | none => simp [he]
    | some e => cases e <;> simp [he]

theorem isDirectory_of_keeps (h : Keeps fs later) {path : String}
    (hdir : fs.isDirectory path = true) : later.isDirectory path = true := by
  obtain ⟨p, hp, he⟩ := isDirectory_iff.mp hdir
  obtain ⟨f, hf, hkind⟩ := h.entry p _ he
  obtain rfl := Entry.kind_eq_directory.mp hkind
  exact isDirectory_iff.mpr ⟨p, resolve_of_keeps h hp, hf⟩

/-- A walk that ends at a directory may go on from there. -/
theorem walk_concat_empty {parts : List String} {dir p : Place} (h : fs.walk dir parts = .ok p)
    (hp : fs.entry? p = some .directory) : fs.walk dir (parts ++ [""]) = .ok p := by
  induction parts generalizing dir with
  | nil => simpa [walk] using h
  | cons part parts ih =>
    rcases walk_cons_cases fs dir part with ⟨d, hd⟩ | ⟨e, he⟩
    · rw [List.cons_append, hd]
      rw [hd] at h
      exact ih h
    · -- Only a name can allow nothing behind it, and here it is that of the directory itself.
      cases parts with
      | cons next rest =>
        rw [he _ (by simp)] at h
        cases h
      | nil =>
        have hsame : fs.walk dir [part, ""] = fs.walk dir [part] := by
          by_cases hskip : part = "" ∨ part = "."
          · simp [walk, hskip]
          by_cases hup : part = ".."
          · simp [walk, hup]
          obtain ⟨q, hq, hend⟩ := walk_name hskip hup h
          obtain rfl : q = p := by simpa [walk] using hend
          simp [walk, hq, hp]
        exact hsame.trans h

/-- A directory stands where a new entry for its path would, or where a link from there leads. -/
theorem newPlace_of_directory {path : String} {p q : Place} {slash : Bool}
    (h : fs.newPlace path = .ok (some p, slash)) (hq : fs.resolve path = .ok q)
    (hdir : fs.entry? q = some .directory) : fs.follow p = .ok q := by
  obtain ⟨parts, before, name, dir, hparts, hfilter, hwalk, hdot, hup, -, rfl, -⟩ := newPlace_spec h
  have hname : name ≠ "" := by
    have hmem : name ∈ parts.filter (· ≠ "") := hfilter ▸ List.mem_append_right _ (by simp)
    simpa using (List.mem_filter.mp hmem).2
  simp only [resolve, hparts, bind, Except.bind] at hq
  have hend := walk_concat_empty hq hdir
  rw [← walk_filter, hfilter, List.append_assoc, walk_append hwalk] at hend
  obtain ⟨r, hfollow, hr⟩ := walk_name (not_or.mpr ⟨hname, hdot⟩) hup hend
  obtain rfl : r = q := by simpa [walk] using hr
  exact hfollow

/-- Once a directory stands at its new place, its path leads there. -/
theorem resolve_newDirectory {path : String} {p : Place} {slash : Bool}
    (h : fs.newPlace path = .ok (some p, slash)) (hfollow : fs.follow p = .ok p)
    (hkeeps : Keeps fs later) (hp : later.entry? p = some .directory) :
    later.resolve path = .ok p := by
  obtain ⟨parts, before, name, dir, hparts, hfilter, hwalk, hdot, hup, hlong, rfl, -⟩ :=
    newPlace_spec h
  have hend : later.walk (start path) (parts ++ [""]) = .ok (dir ++ [name]) := by
    rw [← walk_filter, hfilter, List.append_assoc, walk_append (walk_of_keeps hkeeps hwalk)]
    by_cases hempty : name = ""
    · subst hempty
      have hmem : "" ∈ parts.filter (· ≠ "") := hfilter ▸ List.mem_append_right _ (by simp)
      simp at hmem
    · rw [← follow_congr hkeeps.links] at hfollow
      simp [walk, hempty, hdot, hup, Nat.not_lt.mpr hlong, hfollow, hp]
  have hall := walk_append hend []
  rw [List.append_nil] at hall
  simp only [resolve, hparts, bind, Except.bind]
  exact hall

theorem ensureDir_of_isDirectory {path : String} (h : fs.isDirectory path = true) :
    fs.ensureDir path = .ok fs := by
  rw [ensureDir]
  cases hmade : fs.createDir path with
  | error e => simp [h]
  | ok made =>
    obtain ⟨p, slash, hplace, hfollow, hnone, -⟩ := createDir_spec hmade
    obtain ⟨q, hq, hdir⟩ := isDirectory_iff.mp h
    obtain rfl : p = q := Except.ok.inj (hfollow.symm.trans (newPlace_of_directory hplace hq hdir))
    rw [hdir] at hnone
    cases hnone

theorem ensureDir_spec {path : String} (h : fs.ensureDir path = .ok later) :
    later.isDirectory path = true ∧ ChangesOnly fs later [] [path] := by
  rw [ensureDir] at h
  cases hmade : fs.createDir path with
  | error e =>
    simp only [hmade] at h
    split_ifs at h with hdir
    cases h
    exact ⟨hdir, .refl _ _ _⟩
  | ok made =>
    rw [hmade] at h
    cases h
    obtain ⟨p, slash, hplace, hfollow, hnone, rfl⟩ := createDir_spec hmade
    have hentry := entry?_put (isAbove_newPlace hplace) fs .directory
    have hextends := extends_put (isAbove_newPlace hplace) hnone .directory
    have hp := resolve_newDirectory hplace hfollow hextends.keeps ((hentry p).trans (if_pos rfl))
    refine ⟨isDirectory_iff.mpr ⟨p, hp, (hentry p).trans (if_pos rfl)⟩, hextends.keeps, fun q => ?_⟩
    by_cases hq : q = p
    · subst hq
      exact .inr (.inr ⟨hnone, (hentry q).trans (if_pos rfl), path, List.mem_singleton_self _, hp⟩)
    · exact .inl ((hentry q).trans (if_neg hq))

/-- The paths at which making a directory may make one: its own, and those of its first components. -/
def wayTo (path : String) : List String :=
  path :: (Path.components path).inits.map Path.ofComponents

theorem createAll_changesOnly (fs : FileSystem) (path : String) (above : List Path.Component) :
    ChangesOnly fs (fs.createAll path above).2 []
      (path :: above.reverse.inits.map Path.ofComponents) := by
  induction above generalizing fs path with
  | nil => exact .refl _ _ _
  | cons c above ih =>
    have hself : [path] ⊆ path :: (c :: above).reverse.inits.map Path.ofComponents := by simp
    rw [createAll]
    cases hdir : fs.ensureDir path with
    | ok made => exact (ensureDir_spec hdir).2.mono (List.Subset.refl _) hself
    | error e =>
      cases e with
      | notFound =>
        have hways : Path.ofComponents above.reverse :: above.reverse.inits.map Path.ofComponents ⊆
            path :: (c :: above).reverse.inits.map Path.ofComponents := by
          have hinits : ∀ cs, cs <+: above.reverse → cs ∈ (c :: above).reverse.inits := by
            intro cs hcs
            rw [List.mem_inits, List.reverse_cons]
            exact hcs.trans (List.prefix_append _ _)
          refine List.cons_subset.mpr ⟨?_, fun q hq => ?_⟩
          · exact List.mem_cons_of_mem _ (List.mem_map_of_mem (hinits _ (List.prefix_refl _)))
          · obtain ⟨cs, hcs, rfl⟩ := List.mem_map.mp hq
            exact List.mem_cons_of_mem _ (List.mem_map_of_mem (hinits _ ((List.mem_inits _ _).mp hcs)))
        have hrest := (ih fs (Path.ofComponents above.reverse)).mono (List.Subset.refl _) hways
        rcases hall : fs.createAll (Path.ofComponents above.reverse) above with ⟨_ | _, made⟩
        · simpa [hall] using hrest
        · rw [hall] at hrest
          simp only
          cases hlast : made.ensureDir path with
          | error e => exact hrest
          | ok last => exact hrest.trans ((ensureDir_spec hlast).2.mono (List.Subset.refl _) hself)
      | _ => exact .refl _ _ _

theorem createDirAll_changesOnly (fs : FileSystem) (path : String) :
    ChangesOnly fs (fs.createDirAll path).2 [] (wayTo path) := by
  have h := fs.createAll_changesOnly path (Path.components path).reverse
  rwa [List.reverse_reverse] at h

theorem createAll_ok {path : String} {above : List Path.Component}
    (h : fs.createAll path above = (.ok (), later)) : above = [] ∨ later.isDirectory path = true := by
  cases above with
  | nil => exact .inl rfl
  | cons c above =>
    rw [createAll] at h
    cases hdir : fs.ensureDir path with
    | ok made =>
      rw [hdir] at h
      cases h
      exact .inr (ensureDir_spec hdir).1
    | error e =>
      rw [hdir] at h
      cases e with
      | notFound =>
        rcases hall : fs.createAll (Path.ofComponents above.reverse) above with ⟨_ | _, made⟩
        · simp [hall] at h
        · simp only [hall] at h
          cases hlast : made.ensureDir path with
          | error e => simp [hlast] at h
          | ok last =>
            rw [hlast] at h
            cases h
            exact .inr (ensureDir_spec hlast).1
      | _ => cases h

theorem createAll_of_isDirectory {path : String} (h : fs.isDirectory path = true)
    (above : List Path.Component) : fs.createAll path above = (.ok (), fs) := by
  cases above with
  | nil => rfl
  | cons c above => rw [createAll, ensureDir_of_isDirectory h]

/-- A directory that has been made is not made again, whatever has changed since. -/
theorem createDirAll_again {path : String} (h : fs.createDirAll path = (.ok (), mid))
    (hkeeps : Keeps mid later) : later.createDirAll path = (.ok (), later) := by
  rcases createAll_ok h with hnone | hdir
  · rw [createDirAll, hnone, createAll]
  · exact createAll_of_isDirectory (isDirectory_of_keeps hkeeps hdir) _

end Footprint.FileSystem
