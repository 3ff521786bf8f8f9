import Footprint.Proofs.Files.Changes

/-!
# Writing again what has been written

A file that has been written can be written again, whatever other files have been written since. That
adds no entry, so the file system is the same again as soon as every file holds what it held.
-/
namespace Footprint.FileSystem

/-- Only files differ, in what they hold. -/
structure Rewrites (fs later : FileSystem) : Prop where
  links : later.links = fs.links
  entries : Assoc.Rewrites fs.entries later.entries
  above : ∀ p, isAbove p = true → later.entries.find? p = fs.entries.find? p

variable {fs made later : FileSystem}

theorem Rewrites.refl (fs : FileSystem) : Rewrites fs fs := ⟨rfl, .refl _, fun _ _ => rfl⟩

theorem Rewrites.put (h : Rewrites fs later) {p : Place} (hp : isAbove p = false) {old : Entry}
    (hold : later.entry? p = some old) (e : Entry) : Rewrites fs (later.put p e) := by
  rw [ entry?, if_neg (by simp [hp])] at hold
  refine ⟨h.links, h.entries.insert hold e, fun q hq => ?_⟩
  have hne : p ≠ q := by
    rintro rfl
    rw [hp] at hq
    cases hq
  exact (Assoc.find?_insert_ne hne e _).trans (h.above q hq)

theorem Rewrites.entry?_eq_none (h : Rewrites fs later) {p : Place} (hp : fs.entry? p = none) :
    later.entry? p = none := by
  unfold entry? at hp ⊢
  split_ifs at hp ⊢
  exact h.entries.find?_eq_none hp

/-- The order of the entries stays, so that equal entries make equal file systems. -/
theorem Rewrites.eq (h : Rewrites fs later) (hentry : ∀ p, later.entry? p = fs.entry? p) :
    later = fs := by
  have hfind : ∀ p, later.entries.find? p = fs.entries.find? p := by
    intro p
    by_cases hp : isAbove p = true
    · exact h.above p hp
    · simpa [ entry?, hp] using hentry p
  have hlinks := h.links
  cases fs
  cases later
  exact congrArg₂ FileSystem.mk (h.entries.eq hfind) hlinks

/-- Where a file has been written, it can be written again. -/
theorem store_again {path : String} {content : Bytes} (h : fs.store path content = .ok made)
    (hkeeps : Keeps made later) : ∃ last, later.store path content = .ok last ∧
      ∀ first, Rewrites first later → Rewrites first last := by
  obtain ⟨p, hplace, hcase⟩ := store_cases h
  have hkeeps' := (store_spec h).1.trans hkeeps
  rcases hcase with ⟨⟨full, hdevice⟩, rfl⟩ | ⟨hdevice, rfl⟩
  · obtain ⟨e, he, hkind⟩ := hkeeps.entry p _ hdevice
    obtain rfl := Entry.kind_eq_device.mp hkind
    rw [store_of_device hplace hdevice] at h
    rw [store_of_device (filePlace_of_keeps hplace hkeeps' he (by simp)) he]
    split_ifs at h ⊢
    exact ⟨later, rfl, fun _ => id⟩
  · obtain ⟨e, he, hkind⟩ := hkeeps.entry p _ (keeps_fill content hplace hdevice).2
    obtain ⟨old, rfl⟩ := Entry.kind_eq_file hkind
    have hplace' := filePlace_of_keeps hplace hkeeps' he (by simp)
    exact ⟨_, store_of_file hplace' he content,
      fun _ hfirst => hfirst.put (isAbove_filePlace hplace) he _⟩

end Footprint.FileSystem
