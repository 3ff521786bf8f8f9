import Footprint.Files.System
import Footprint.Proofs.Assoc

/-!
# What making files and directories changes

A new directory stands where nothing stood, and a file is written over a file or where nothing
stood. So whatever is there keeps its kind, and a path goes on leading to the same place.
-/
namespace Footprint

/-- An entry without what a file holds. -/
def Entry.kind : Entry → Entry
  | .file _ => .file []
  | e => e

theorem Entry.kind_eq_directory {e : Entry} : e.kind = .directory ↔ e = .directory := by
  cases e <;> simp [kind]

theorem Entry.kind_eq_device {e : Entry} {full : Bool} : e.kind = .device full ↔ e = .device full := by
  cases e <;> simp [kind]

theorem Entry.kind_eq_file {e : Entry} {content : Bytes} (h : e.kind = (file content).kind) :
    ∃ content, e = .file content := by
  cases e with
  | file content => exact ⟨content, rfl⟩
  | directory => cases h
  | device full => cases h

namespace FileSystem

theorem entry?_put {p : Place} (hp : isAbove p = false) (fs : FileSystem) (e : Entry) (q : Place) :
    entry? (fs.put p e) q = if q = p then some e else fs.entry? q := by
  by_cases hq : isAbove q = true
  · have hne : q ≠ p := by
      rintro rfl
      rw [hp] at hq
      cases hq
    unfold entry?
    simp [hq, hne]
  · unfold entry?
    simp [hq, put, Assoc.find?_insert]

/-! ## Kinds that stay -/

/-- Every entry is still there, and of the same kind, and every link leads where it led. -/
structure Keeps (fs later : FileSystem) : Prop where
  links : later.links = fs.links
  entry : ∀ p e, fs.entry? p = some e → ∃ f, later.entry? p = some f ∧ f.kind = e.kind

theorem Keeps.refl (fs : FileSystem) : Keeps fs fs := ⟨rfl, fun _ e he => ⟨e, he, rfl⟩⟩

theorem Keeps.trans {a b c : FileSystem} (hab : Keeps a b) (hbc : Keeps b c) : Keeps a c := by
  refine ⟨hbc.links.trans hab.links, fun p e he => ?_⟩
  obtain ⟨f, hf, hfe⟩ := hab.entry p e he
  obtain ⟨g, hg, hgf⟩ := hbc.entry p f hf
  exact ⟨g, hg, hgf.trans hfe⟩

theorem Keeps.linkless {fs later : FileSystem} (h : Keeps fs later) (hfs : fs.Linkless) :
    later.Linkless :=
  h.links.trans hfs

/-- Every entry is still there as it was. -/
structure Extends (fs later : FileSystem) : Prop where
  links : later.links = fs.links
  entry : ∀ p e, fs.entry? p = some e → later.entry? p = some e

theorem Extends.refl (fs : FileSystem) : Extends fs fs := ⟨rfl, fun _ _ he => he⟩

theorem Extends.trans {a b c : FileSystem} (hab : Extends a b) (hbc : Extends b c) : Extends a c :=
  ⟨hbc.links.trans hab.links, fun p e he => hbc.entry p e (hab.entry p e he)⟩

theorem Extends.keeps {fs later : FileSystem} (h : Extends fs later) : Keeps fs later :=
  ⟨h.links, fun p e he => ⟨e, h.entry p e he, rfl⟩⟩

/-! ## Links -/

theorem follow_congr {fs gs : FileSystem} (h : gs.links = fs.links) (p : Place) :
    gs.follow p = fs.follow p := by
  simp only [follow, h]

theorem Linkless.follow {fs : FileSystem} (h : fs.Linkless) (p : Place) : fs.follow p = .ok p := by
  rw [FileSystem.follow, show fs.links = [] from h]
  rfl

theorem follow_of_not_taken {fs : FileSystem} {p : Place} (h : fs.isTaken p = false) :
    fs.follow p = .ok p ∧ fs.entry? p = none := by
  rw [isTaken, Bool.or_eq_false_iff, Option.isSome_eq_false_iff, Option.isNone_iff_eq_none,
    Assoc.contains, Option.isSome_eq_false_iff, Option.isNone_iff_eq_none] at h
  exact ⟨by rw [follow, h.2], h.1⟩

/-- Only directories are above the working directory. -/
theorem isAbove_of_ne_directory {fs : FileSystem} {p : Place} (h : fs.entry? p ≠ some .directory) :
    isAbove p = false := by
  cases habove : isAbove p with
  | false => rfl
  | true => exact absurd (if_pos habove) h

/-! ## Walks -/

theorem walk_of_keeps {fs later : FileSystem} (h : Keeps fs later) {parts : List String}
    {dir p : Place} (hwalk : fs.walk dir parts = .ok p) : later.walk dir parts = .ok p := by
  induction parts generalizing dir with
  | nil => exact hwalk
  | cons part parts ih =>
    rw [walk] at hwalk ⊢
    by_cases hskip : part = "" ∨ part = "."
    · simp only [if_pos hskip] at hwalk ⊢
      exact ih hwalk
    by_cases hup : part = ".."
    · simp only [if_neg hskip, if_pos hup] at hwalk ⊢
      exact ih hwalk
    by_cases hlong : nameLimit < part.utf8ByteSize
    · simp [hskip, hup, hlong] at hwalk
    simp only [if_neg hskip, if_neg hup, if_neg hlong, follow_congr h.links] at hwalk ⊢
    cases hfollow : fs.follow (dir ++ [part]) with
    | error e => simp [hfollow] at hwalk
    | ok q =>
      simp only [hfollow] at hwalk ⊢
      cases he : fs.entry? q with
      | none => simp [he] at hwalk
      | some e =>
        obtain ⟨f, hf, hkind⟩ := h.entry _ _ he
        rw [he] at hwalk
        rw [hf]
        cases e with
        | directory =>
          obtain rfl := Entry.kind_eq_directory.mp hkind
          exact ih hwalk
        | file content => cases f <;> first | exact hwalk | cases hkind
        | device full => cases f <;> first | exact hwalk | cases hkind

/-- One part either leads to a directory, whatever follows, or allows nothing behind it. -/
theorem walk_cons_cases (fs : FileSystem) (dir : Place) (part : String) :
    (∃ d, ∀ parts, fs.walk dir (part :: parts) = fs.walk d parts) ∨
      ∃ e, ∀ parts, parts ≠ [] → fs.walk dir (part :: parts) = .error e := by
  simp only [walk]
  by_cases hskip : part = "" ∨ part = "."
  · exact .inl ⟨dir, fun _ => if_pos hskip⟩
  by_cases hup : part = ".."
  · exact .inl ⟨up dir, fun _ => by simp [hup]⟩
  by_cases hlong : nameLimit < part.utf8ByteSize
  · exact .inr ⟨.nameTooLong, fun _ _ => by simp [hskip, hup, hlong]⟩
  simp only [if_neg hskip, if_neg hup, if_neg hlong]
  cases fs.follow (dir ++ [part]) with
  | error e => exact .inr ⟨e, fun _ _ => rfl⟩
  | ok q =>
    simp only
    cases fs.entry? q with
    | none => exact .inr ⟨.notFound, fun _ _ => rfl⟩
    | some e =>
      cases e with
      | directory => exact .inl ⟨q, fun _ => rfl⟩
      | file content => exact .inr ⟨.notDirectory, fun _ h => if_neg h⟩
      | device full => exact .inr ⟨.notDirectory, fun _ h => if_neg h⟩

/-- An empty part at the end asks for a directory, so anything may stand in its place. -/
theorem walk_append {fs : FileSystem} {before : List String} {dir d : Place}
    (hwalk : fs.walk dir (before ++ [""]) = .ok d) (rest : List String) :
    fs.walk dir (before ++ rest) = fs.walk d rest := by
  induction before generalizing dir with
  | nil =>
    have hd : dir = d := by simpa [walk] using hwalk
    rw [hd, List.nil_append]
  | cons part before ih =>
    rw [List.cons_append] at hwalk ⊢
    rcases walk_cons_cases fs dir part with ⟨d', hd'⟩ | ⟨e, he⟩
    · rw [hd'] at hwalk ⊢
      exact ih hwalk
    · rw [he _ (by simp)] at hwalk
      cases hwalk

theorem walk_filter (fs : FileSystem) (dir : Place) (parts : List String) :
    fs.walk dir (parts.filter (· ≠ "") ++ [""]) = fs.walk dir (parts ++ [""]) := by
  induction parts generalizing dir with
  | nil => rfl
  | cons part parts ih =>
    by_cases hempty : part = ""
    · subst hempty
      have hstep : fs.walk dir ("" :: (parts ++ [""])) = fs.walk dir (parts ++ [""]) := by
        simp [walk]
      rw [List.cons_append, hstep, ← ih]
      rfl
    · have hfilter : (part :: parts).filter (· ≠ "") = part :: parts.filter (· ≠ "") :=
        List.filter_cons_of_pos (by simpa using hempty)
      rw [hfilter, List.cons_append, List.cons_append]
      rcases walk_cons_cases fs dir part with ⟨d, hd⟩ | ⟨e, he⟩
      · rw [hd, hd, ih]
      · rw [he _ (by simp), he _ (by simp)]

theorem resolve_of_keeps {fs later : FileSystem} (h : Keeps fs later) {path : String} {p : Place}
    (hpath : fs.resolve path = .ok p) : later.resolve path = .ok p := by
  simp only [resolve, bind, Except.bind] at hpath ⊢
  cases hparts : partsOf path with
  | error e => simp [hparts] at hpath
  | ok parts =>
    simp only [hparts] at hpath ⊢
    exact walk_of_keeps h hpath

theorem lookup_eq_ok_iff {fs : FileSystem} {path : String} {p : Place}
    (hpath : fs.resolve path = .ok p) {e : Entry} : fs.lookup path = .ok e ↔ fs.entry? p = some e := by
  simp only [lookup, hpath, bind, Except.bind]
  cases fs.entry? p <;> simp

/-! ## Where new entries stand -/

/-- A new entry stands in a directory, under the path's last part. -/
theorem newPlace_spec {fs : FileSystem} {path : String} {p : Place} {slash : Bool}
    (h : fs.newPlace path = .ok (some p, slash)) :
    ∃ parts before name dir, partsOf path = .ok parts ∧
      parts.filter (· ≠ "") = before ++ [name] ∧ fs.walk (start path) (before ++ [""]) = .ok dir ∧
      name ≠ "." ∧ name ≠ ".." ∧ name.utf8ByteSize ≤ nameLimit ∧ p = dir ++ [name] ∧
      slash = decide (parts.getLast? = some "") := by
  simp only [newPlace, bind, Except.bind] at h
  cases hparts : partsOf path with
  | error e => simp [hparts] at h
  | ok parts =>
    simp only [hparts] at h
    cases hrev : (parts.filter (· ≠ "")).reverse with
    | nil =>
      simp only [hrev] at h
      cases h
    | cons name before =>
      simp only [hrev] at h
      cases hdir : fs.walk (start path) (before.reverse ++ [""]) with
      | error e => simp [hdir] at h
      | ok dir =>
        simp only [hdir] at h
        split_ifs at h with hdots hlong
        · cases h
        · cases h
          rw [not_or] at hdots
          refine ⟨parts, before.reverse, name, dir, rfl, ?_, hdir, hdots.1, hdots.2,
            Nat.le_of_not_lt hlong, rfl, rfl⟩
          rw [← List.reverse_reverse (parts.filter (· ≠ "")), hrev, List.reverse_cons]

theorem isAbove_newPlace {fs : FileSystem} {path : String} {p : Place} {slash : Bool}
    (h : fs.newPlace path = .ok (some p, slash)) : isAbove p = false := by
  obtain ⟨parts, before, name, dir, -, -, -, -, hup, -, rfl, -⟩ := newPlace_spec h
  simp [isAbove, hup]

theorem newPlace_of_keeps {fs later : FileSystem} (hkeeps : Keeps fs later) {path : String}
    {place : Option Place × Bool} (h : fs.newPlace path = .ok place) :
    later.newPlace path = .ok place := by
  simp only [newPlace, bind, Except.bind] at h ⊢
  cases hparts : partsOf path with
  | error e => simp [hparts] at h
  | ok parts =>
    simp only [hparts] at h ⊢
    cases hrev : (parts.filter (· ≠ "")).reverse with
    | nil =>
      simp only [hrev] at h ⊢
      exact h
    | cons name before =>
      simp only [hrev] at h ⊢
      cases hdir : fs.walk (start path) (before.reverse ++ [""]) with
      | error e => simp [hdir] at h
      | ok dir =>
        rw [hdir] at h
        rw [walk_of_keeps hkeeps hdir]
        exact h

/-- Once something stands there, the path leads to it, also after further changes. -/
theorem resolve_newPlace {fs later : FileSystem} {path : String} {p q : Place} {e : Entry}
    (h : fs.newPlace path = .ok (some p, false)) (hfollow : fs.follow p = .ok q)
    (hkeeps : Keeps fs later) (he : later.entry? q = some e) : later.resolve path = .ok q := by
  obtain ⟨parts, before, name, dir, hparts, hfilter, hdir, hdot, hup, hlong, rfl, hslash⟩ :=
    newPlace_spec h
  have hname : name ≠ "" := by
    have hmem : name ∈ parts.filter (· ≠ "") := hfilter ▸ List.mem_append_right _ (by simp)
    simpa using (List.mem_filter.mp hmem).2
  obtain ⟨first, hfirst⟩ : ∃ first, parts = first ++ [name] := by
    cases hlast : parts.getLast? with
    | none =>
      rw [List.getLast?_eq_none_iff.mp hlast] at hfilter
      simp at hfilter
    | some last =>
      have hne : last ≠ "" := by
        rintro rfl
        simp [hlast] at hslash
      obtain ⟨first, rfl⟩ := List.getLast?_eq_some_iff.mp hlast
      rw [List.filter_append, List.filter_cons_of_pos (by simpa using hne), List.filter_nil]
        at hfilter
      obtain ⟨-, hl⟩ := List.append_inj' hfilter rfl
      exact ⟨first, by rw [hl]⟩
  have hbefore : first.filter (· ≠ "") = before := by
    rw [hfirst, List.filter_append, List.filter_cons_of_pos (by simpa using hname),
      List.filter_nil] at hfilter
    exact (List.append_inj' hfilter rfl).1
  have hwalk : later.walk (start path) (first ++ [""]) = .ok dir := by
    rw [← walk_filter, hbefore]
    exact walk_of_keeps hkeeps hdir
  simp only [resolve, hparts, bind, Except.bind]
  rw [hfirst, walk_append hwalk]
  have hskip : ¬(name = "" ∨ name = ".") := by simp [hname, hdot]
  rw [← follow_congr hkeeps.links] at hfollow
  simp only [walk, if_neg hskip, if_neg hup, if_neg (Nat.not_lt.mpr hlong), hfollow, he]
  cases e <;> rfl

/-! ## Files and directories -/

theorem extends_put {fs : FileSystem} {p : Place} (hp : isAbove p = false)
    (hfree : fs.entry? p = none) (e : Entry) : Extends fs (fs.put p e) := by
  refine ⟨rfl, fun q f hq => ?_⟩
  rw [entry?_put hp]
  split
  · next heq => rw [heq, hfree] at hq; cases hq
  · exact hq

theorem filePlace_spec {fs : FileSystem} {path : String} {q : Place}
    (h : fs.filePlace path = .ok q) :
    ∃ p, fs.newPlace path = .ok (some p, false) ∧ fs.follow p = .ok q ∧
      fs.entry? q ≠ some .directory := by
  simp only [filePlace, bind, Except.bind] at h
  cases hplace : fs.newPlace path with
  | error e => simp [hplace] at h
  | ok place =>
    rcases place with ⟨_ | p, slash⟩
    · simp [hplace] at h
    · cases slash with
      | true => simp [hplace] at h
      | false =>
        simp only [hplace, target, bind, Except.bind] at h
        cases hfollow : fs.follow p with
        | error e => simp [hfollow] at h
        | ok r =>
          simp only [hfollow] at h
          refine ⟨p, rfl, ?_⟩
          cases he : fs.entry? r with
          | some e => cases e <;> simp_all
          | none =>
            -- Whether the place is there or not, it is where the link leads.
            have hr : r = q := by
              simp only [he] at h
              split_ifs at h with hself
              · exact hself.trans (Except.ok.inj h)
              · cases hdir : fs.entry? r.dropLast with
                | none => simp [hdir] at h
                | some e => cases e <;> simp_all
            subst hr
            exact ⟨hfollow, by simp [he]⟩

theorem isAbove_filePlace {fs : FileSystem} {path : String} {q : Place}
    (h : fs.filePlace path = .ok q) : isAbove q = false := by
  obtain ⟨p, -, -, hdir⟩ := filePlace_spec h
  exact isAbove_of_ne_directory hdir

theorem resolve_filePlace {fs later : FileSystem} {path : String} {q : Place} {e : Entry}
    (h : fs.filePlace path = .ok q) (hkeeps : Keeps fs later) (he : later.entry? q = some e) :
    later.resolve path = .ok q := by
  obtain ⟨p, hplace, hfollow, -⟩ := filePlace_spec h
  exact resolve_newPlace hplace hfollow hkeeps he

/-- What is there by now and is no directory may still be written. -/
theorem filePlace_of_keeps {fs later : FileSystem} {path : String} {q : Place} {e : Entry}
    (h : fs.filePlace path = .ok q) (hkeeps : Keeps fs later) (he : later.entry? q = some e)
    (hdir : e ≠ .directory) : later.filePlace path = .ok q := by
  obtain ⟨p, hplace, hfollow, -⟩ := filePlace_spec h
  rw [← follow_congr hkeeps.links] at hfollow
  simp only [filePlace, bind, Except.bind, newPlace_of_keeps hkeeps hplace, target, hfollow, he]

/-- What is written to is a device, which stays as it is, or becomes a file. -/
theorem store_cases {fs later : FileSystem} {path : String} {content : Bytes}
    (h : fs.store path content = .ok later) :
    ∃ p, fs.filePlace path = .ok p ∧
      ((∃ full, fs.entry? p = some (.device full)) ∧ later = fs ∨
        (∀ full, fs.entry? p ≠ some (.device full)) ∧ later = fs.put p (.file content)) := by
  simp only [store, bind, Except.bind] at h
  cases hplace : fs.filePlace path with
  | error e => simp [hplace] at h
  | ok p =>
    simp only [hplace, fill] at h
    refine ⟨p, rfl, ?_⟩
    split at h
    · next full hdevice =>
      split_ifs at h
      cases h
      exact .inl ⟨⟨full, hdevice⟩, rfl⟩
    · next hother =>
      cases h
      exact .inr ⟨hother, rfl⟩

theorem store_of_file {fs : FileSystem} {path : String} {p : Place} {old : Bytes}
    (hplace : fs.filePlace path = .ok p) (he : fs.entry? p = some (.file old))
    (content : Bytes) : fs.store path content = .ok (fs.put p (.file content)) := by
  simp [store, bind, Except.bind, hplace, fill, he]

theorem store_of_device {fs : FileSystem} {path : String} {p : Place} {full : Bool}
    (hplace : fs.filePlace path = .ok p) (he : fs.entry? p = some (.device full))
    (content : Bytes) :
    fs.store path content = if full && content ≠ [] then .error .noSpace else .ok fs := by
  simp [store, bind, Except.bind, hplace, fill, he]

theorem keeps_put {fs : FileSystem} {p : Place} (content : Bytes)
    (hdir : fs.entry? p ≠ some .directory) (hdevice : ∀ full, fs.entry? p ≠ some (.device full)) :
    Keeps fs (fs.put p (.file content)) := by
  refine ⟨rfl, fun q e hq => ?_⟩
  rw [entry?_put (isAbove_of_ne_directory hdir)]
  by_cases heq : q = p
  · subst heq
    refine ⟨_, if_pos rfl, ?_⟩
    cases e with
    | directory => exact absurd hq hdir
    | file old => rfl
    | device full => exact absurd hq (hdevice full)
  · exact ⟨e, (if_neg heq).trans hq, rfl⟩

theorem keeps_fill {fs : FileSystem} {path : String} {p : Place} (content : Bytes)
    (hplace : fs.filePlace path = .ok p) (hdevice : ∀ full, fs.entry? p ≠ some (.device full)) :
    Keeps fs (fs.put p (.file content)) ∧
      entry? (fs.put p (.file content)) p = some (.file content) := by
  obtain ⟨-, -, -, hdir⟩ := filePlace_spec hplace
  exact ⟨keeps_put content hdir hdevice,
    (entry?_put (isAbove_filePlace hplace) fs _ p).trans (if_pos rfl)⟩

/-- A file that has been written is found, with what was written unless it is a device, and no other
place has changed. -/
theorem store_spec {fs later : FileSystem} {path : String} {content : Bytes}
    (h : fs.store path content = .ok later) :
    Keeps fs later ∧ ∃ p, later.resolve path = .ok p ∧ (∀ q, q ≠ p → later.entry? q = fs.entry? q) ∧
      (later.entry? p = some (.file content) ∨ ∃ full, later.entry? p = some (.device full)) := by
  obtain ⟨p, hplace, ⟨⟨full, hdevice⟩, rfl⟩ | ⟨hdevice, rfl⟩⟩ := store_cases h
  · exact ⟨.refl _, p, resolve_filePlace hplace (.refl _) hdevice, fun _ _ => rfl, .inr ⟨full, hdevice⟩⟩
  · obtain ⟨hkeeps, hfile⟩ := keeps_fill content hplace hdevice
    refine ⟨hkeeps, p, resolve_filePlace hplace hkeeps hfile, fun q hq => ?_, .inl hfile⟩
    exact (entry?_put (isAbove_filePlace hplace) fs _ q).trans (if_neg hq)

/-- A file that has been made can be written. Only a full device refuses, and nothing has been made
for it. -/
theorem store_error {fs made : FileSystem} {path : String} {content : Bytes} {e : OsError}
    (hmake : fs.store path [] = .ok made) (hfill : made.store path content = .error e) :
    made = fs := by
  obtain ⟨p, hplace, ⟨-, rfl⟩ | ⟨hdevice, rfl⟩⟩ := store_cases hmake
  · rfl
  · obtain ⟨hkeeps, hfile⟩ := keeps_fill [] hplace hdevice
    have hagain := filePlace_of_keeps hplace hkeeps hfile (by simp)
    rw [store_of_file hagain hfile] at hfill
    cases hfill

theorem createDir_spec {fs later : FileSystem} {path : String}
    (h : fs.createDir path = .ok later) :
    ∃ p slash, fs.newPlace path = .ok (some p, slash) ∧ fs.follow p = .ok p ∧
      fs.entry? p = none ∧ later = fs.put p .directory := by
  simp only [createDir, bind, Except.bind] at h
  cases hplace : fs.newPlace path with
  | error e => simp [hplace] at h
  | ok place =>
    rcases place with ⟨_ | p, slash⟩
    · simp [hplace] at h
    · simp only [hplace] at h
      split_ifs at h with htaken
      cases h
      obtain ⟨hfollow, hnone⟩ := follow_of_not_taken (Bool.eq_false_iff.mpr htaken)
      exact ⟨p, slash, rfl, hfollow, hnone, rfl⟩

theorem createDir_extends {fs later : FileSystem} {path : String}
    (h : fs.createDir path = .ok later) : Extends fs later := by
  obtain ⟨p, slash, hplace, -, hnone, rfl⟩ := createDir_spec h
  exact extends_put (isAbove_newPlace hplace) hnone .directory

theorem ensureDir_extends {fs later : FileSystem} {path : String}
    (h : fs.ensureDir path = .ok later) : Extends fs later := by
  rw [ensureDir] at h
  cases hdir : fs.createDir path with
  | error e =>
    simp only [hdir] at h
    split_ifs at h
    cases h
    exact .refl fs
  | ok made =>
    simp only [hdir] at h
    cases h
    exact createDir_extends hdir

/-- Directories are only added, and those made before an error stay. -/
theorem createAll_extends (fs : FileSystem) (path : String) (above : List Path.Component) :
    Extends fs (fs.createAll path above).2 := by
  induction above generalizing fs path with
  | nil => exact .refl fs
  | cons c above ih =>
    have hrest := ih fs (Path.ofComponents above.reverse)
    rw [createAll]
    cases hdir : fs.ensureDir path with
    | ok made => exact ensureDir_extends hdir
    | error e =>
      cases e with
      | notFound =>
        rcases hall : fs.createAll (Path.ofComponents above.reverse) above with ⟨_ | _, made⟩
        · simpa [hall] using hrest
        · rw [hall] at hrest
          simp only
          cases hlast : made.ensureDir path with
          | error e => exact hrest
          | ok last => exact hrest.trans (ensureDir_extends hlast)
      | _ => exact .refl fs

theorem createDirAll_extends (fs : FileSystem) (path : String) :
    Extends fs (fs.createDirAll path).2 :=
  fs.createAll_extends path _

end FileSystem
end Footprint
