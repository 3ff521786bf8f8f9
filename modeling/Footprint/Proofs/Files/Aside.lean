import Footprint.Proofs.Files.Store

/-!
# File systems that differ in what one file holds

Only reading a file tells such file systems apart. Where a path leads, and whether a file may be
written or a directory made, is decided by the kinds of entries and by the links alone; and what is
made in both leaves them as they are, different in that file at most.
-/
namespace Footprint

namespace FileSystem

/-- The same links and entries, but the file at `p` may hold something else. -/
structure Aside (p : Place) (fs gs : FileSystem) : Prop where
  links : gs.links = fs.links
  entry : ∀ q, q ≠ p → gs.entry? q = fs.entry? q
  held : gs.entry? p = fs.entry? p ∨
    ∃ old new, fs.entry? p = some (.file old) ∧ gs.entry? p = some (.file new)

variable {p : Place} {fs gs hs : FileSystem}

theorem Aside.refl (p : Place) (fs : FileSystem) : Aside p fs fs := ⟨rfl, fun _ _ => rfl, .inl rfl⟩

theorem Aside.symm (h : Aside p fs gs) : Aside p gs fs := by
  refine ⟨h.links.symm, fun q hq => (h.entry q hq).symm, ?_⟩
  rcases h.held with hsame | ⟨old, new, hold, hnew⟩
  · exact .inl hsame.symm
  · exact .inr ⟨new, old, hnew, hold⟩

theorem Aside.trans (h : Aside p fs gs) (h' : Aside p gs hs) : Aside p fs hs := by
  refine ⟨h'.links.trans h.links, fun q hq => (h'.entry q hq).trans (h.entry q hq), ?_⟩
  rcases h.held with hsame | ⟨old, new, hold, hnew⟩
  · rw [← hsame]
    exact h'.held
  · rcases h'.held with hsame | ⟨_, last, -, hlast⟩
    · exact .inr ⟨old, new, hold, hsame.trans hnew⟩
    · exact .inr ⟨old, last, hold, hlast⟩

theorem Aside.entry_cases (h : Aside p fs gs) (q : Place) : gs.entry? q = fs.entry? q ∨
    ∃ old new, fs.entry? q = some (.file old) ∧ gs.entry? q = some (.file new) := by
  by_cases hq : q = p
  · rw [hq]
    exact h.held
  · exact .inl (h.entry q hq)

/-- What is put in the same place of both is the same there. -/
theorem Aside.put (h : Aside p fs gs) {q : Place} (hq : isAbove q = false) (e : Entry) :
    Aside p (fs.put q e) (gs.put q e) := by
  refine ⟨h.links, fun r hr => ?_, ?_⟩
  · rw [entry?_put hq, entry?_put hq, h.entry r hr]
  · rw [entry?_put hq, entry?_put hq]
    split
    · exact .inl rfl
    · exact h.held

theorem Aside.follow_eq (h : Aside p fs gs) (q : Place) : gs.follow q = fs.follow q :=
  follow_congr h.links q

theorem Aside.walk_eq (h : Aside p fs gs) (dir : Place) (parts : List String) :
    gs.walk dir parts = fs.walk dir parts := by
  induction parts generalizing dir with
  | nil => rfl
  | cons part parts ih =>
    simp only [walk, ih, h.follow_eq]
    cases fs.follow (dir ++ [part]) with
    | error e => rfl
    | ok q =>
      rcases h.entry_cases q with hsame | ⟨old, new, hold, hnew⟩
      · simp only [hsame]
      · simp only [hold, hnew]

theorem Aside.resolve_eq (h : Aside p fs gs) (path : String) : gs.resolve path = fs.resolve path := by
  simp only [resolve, h.walk_eq]

theorem Aside.newPlace_eq (h : Aside p fs gs) (path : String) :
    gs.newPlace path = fs.newPlace path := by
  simp only [newPlace, h.walk_eq]

theorem Aside.target_eq (h : Aside p fs gs) (q : Place) : gs.target q = fs.target q := by
  simp only [target, h.follow_eq]
  refine bind_congr fun r => ?_
  rcases h.entry_cases r with hsame | ⟨old, new, hold, hnew⟩
  · rw [hsame]
    rcases h.entry_cases r.dropLast with hsame | ⟨old, new, hold, hnew⟩
    · rw [hsame]
    · simp only [hold, hnew]
  · simp only [hold, hnew]

theorem Aside.filePlace_eq (h : Aside p fs gs) (path : String) :
    gs.filePlace path = fs.filePlace path := by
  simp only [filePlace, h.newPlace_eq, h.target_eq]

theorem Aside.isTaken_eq (h : Aside p fs gs) (q : Place) : gs.isTaken q = fs.isTaken q := by
  rw [isTaken, isTaken, h.links]
  rcases h.entry_cases q with hsame | ⟨old, new, hold, hnew⟩
  · rw [hsame]
  · rw [hold, hnew]
    rfl

theorem Aside.isDirectory_eq (h : Aside p fs gs) (path : String) :
    gs.isDirectory path = fs.isDirectory path := by
  simp only [isDirectory, lookup, h.resolve_eq]
  cases fs.resolve path with
  | error e => rfl
  | ok q =>
    simp only [bind, Except.bind]
    rcases h.entry_cases q with hsame | ⟨old, new, hold, hnew⟩
    · simp only [hsame]
    · simp only [hold, hnew]

/-! ## Making entries -/

/-- The same error, or file systems that still differ in that file only. -/
inductive AsideAfter (p : Place) : Except OsError FileSystem → Except OsError FileSystem → Prop
  | error (e : OsError) : AsideAfter p (.error e) (.error e)
  | ok {fs gs : FileSystem} (h : Aside p fs gs) : AsideAfter p (.ok fs) (.ok gs)

theorem Aside.fill (h : Aside p fs gs) {q : Place} (hq : fs.entry? q ≠ some .directory)
    (content : Bytes) : AsideAfter p (fs.fill q content) (gs.fill q content) := by
  have hput := h.put (isAbove_of_ne_directory hq) (.file content)
  rw [FileSystem.fill, FileSystem.fill]
  rcases h.entry_cases q with hsame | ⟨old, new, hold, hnew⟩
  · rw [hsame]
    split
    · split
      · exact .error _
      · exact .ok h
    · exact .ok hput
  · simp only [hold, hnew]
    exact .ok hput

theorem Aside.store (h : Aside p fs gs) (path : String) (content : Bytes) :
    AsideAfter p (fs.store path content) (gs.store path content) := by
  simp only [FileSystem.store, h.filePlace_eq, bind, Except.bind]
  cases hplace : fs.filePlace path with
  | error e => exact .error e
  | ok q =>
    obtain ⟨-, -, -, hdir⟩ := filePlace_spec hplace
    exact h.fill hdir content

theorem Aside.createDir (h : Aside p fs gs) (path : String) :
    AsideAfter p (fs.createDir path) (gs.createDir path) := by
  simp only [FileSystem.createDir, h.newPlace_eq, h.isTaken_eq, bind, Except.bind]
  cases hplace : fs.newPlace path with
  | error e => exact .error e
  | ok place =>
    rcases place with ⟨_ | q, slash⟩
    · exact .error _
    · simp only
      split
      · exact .error _
      · exact .ok (h.put (isAbove_newPlace hplace) .directory)

theorem Aside.ensureDir (h : Aside p fs gs) (path : String) :
    AsideAfter p (fs.ensureDir path) (gs.ensureDir path) := by
  rw [FileSystem.ensureDir, FileSystem.ensureDir, h.isDirectory_eq]
  have hdir := h.createDir path
  generalize fs.createDir path = first, gs.createDir path = second at hdir
  cases hdir with
  | error e =>
    simp only
    split
    · exact .ok h
    · exact .error e
  | ok hmade => exact .ok hmade

theorem Aside.createAll (h : Aside p fs gs) (path : String) (above : List Path.Component) :
    (gs.createAll path above).1 = (fs.createAll path above).1 ∧
      Aside p (fs.createAll path above).2 (gs.createAll path above).2 := by
  induction above generalizing fs gs path with
  | nil => exact ⟨rfl, h⟩
  | cons c above ih =>
    have hdir := h.ensureDir path
    have hrest := ih h (Path.ofComponents above.reverse)
    rw [FileSystem.createAll, FileSystem.createAll]
    generalize fs.ensureDir path = first, gs.ensureDir path = second at hdir
    cases hdir with
    | ok hmade => exact ⟨rfl, hmade⟩
    | error e =>
      cases e with
      | notFound =>
        rcases hfs : fs.createAll (Path.ofComponents above.reverse) above with ⟨result, made⟩
        rcases hgs : gs.createAll (Path.ofComponents above.reverse) above with ⟨result', made'⟩
        rw [hfs, hgs] at hrest
        obtain ⟨rfl, hmade⟩ := hrest
        cases result' with
        | error e => exact ⟨rfl, hmade⟩
        | ok _ =>
          have hlast := hmade.ensureDir path
          simp only
          generalize made.ensureDir path = first, made'.ensureDir path = second at hlast
          cases hlast with
          | error e => exact ⟨rfl, hmade⟩
          | ok hlast => exact ⟨rfl, hlast⟩
      | _ => exact ⟨rfl, h⟩

theorem Aside.createDirAll (h : Aside p fs gs) (path : String) :
    (gs.createDirAll path).1 = (fs.createDirAll path).1 ∧
      Aside p (fs.createDirAll path).2 (gs.createDirAll path).2 :=
  h.createAll path _

end FileSystem
end Footprint
