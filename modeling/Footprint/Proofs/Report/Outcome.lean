import Footprint.Report.Basic
import Mathlib.Data.List.Basic

/-!
# Outcomes of the steps of a report

A step is run from a world to a result and the world that it leaves. Steps that only look at the
files are described by less: by their result and the events that they log.
-/
namespace Footprint

/-- What a computation that has stopped reports. -/
def Failure.ofStop {ε : Type} (failure : ε → Failure) : Stop ε → Failure
  | .fault f => .fault f
  | .error e => failure e

/-- The world after further events, given from the first to the last. -/
def World.note (w : World) (events : List Log.Event) : World :=
  { w with log := events.reverse ++ w.log }

@[simp] theorem World.files_note (w : World) (events : List Log.Event) :
    (w.note events).files = w.files := rfl

@[simp] theorem World.note_nil (w : World) : w.note [] = w := rfl

@[simp] theorem World.note_note (w : World) (first rest : List Log.Event) :
    (w.note first).note rest = w.note (first ++ rest) := by
  simp [World.note]

namespace Run

variable {α β : Type}

/-- The result of a step that begins in a world, and the world that it leaves. -/
def outcome (x : Run α) (w : World) : Except Failure α × World := (ExceptT.run x).run w

@[simp] theorem outcome_pure (a : α) (w : World) : outcome (pure a) w = (.ok a, w) := rfl

@[simp] theorem outcome_throw (e : Failure) (w : World) :
    outcome (throw e : Run α) w = (.error e, w) := rfl

theorem outcome_bind (x : Run α) (f : α → Run β) (w : World) :
    outcome (x >>= f) w = match outcome x w with
      | (.ok a, v) => outcome (f a) v
      | (.error e, v) => (.error e, v) := by
  have h : outcome (x >>= f) w = outcome (ExceptT.mk (ExceptT.run x >>= ExceptT.bindCont f)) w := rfl
  rw [h]
  simp only [outcome, ExceptT.run_mk, StateT.run_bind]
  rcases (ExceptT.run x).run w with ⟨e | a, v⟩ <;> rfl

@[simp] theorem outcome_map (f : α → β) (x : Run α) (w : World) :
    outcome (f <$> x) w = ((outcome x w).1.map f, (outcome x w).2) := by
  rw [map_eq_pure_bind, outcome_bind]
  rcases outcome x w with ⟨e | a, u⟩ <;> rfl

theorem outcome_bind_ok {x : Run α} {f : α → Run β} {w v : World} {b : β} :
    outcome (x >>= f) w = (.ok b, v) ↔
      ∃ a u, outcome x w = (.ok a, u) ∧ outcome (f a) u = (.ok b, v) := by
  rw [outcome_bind]
  rcases outcome x w with ⟨e | a, u⟩ <;> simp

theorem outcome_bind_error {x : Run α} {f : α → Run β} {w v : World} {e : Failure} :
    outcome (x >>= f) w = (.error e, v) ↔ outcome x w = (.error e, v) ∨
      ∃ a u, outcome x w = (.ok a, u) ∧ outcome (f a) u = (.error e, v) := by
  rw [outcome_bind]
  rcases outcome x w with ⟨e' | a, u⟩ <;> simp

@[simp] theorem outcome_log (level : Log.Level) (source : Log.Source) (message : String)
    (w : World) : outcome (log level source message) w = (.ok (), w.note [⟨level, source, message⟩]) :=
  rfl

@[simp] theorem outcome_files (w : World) : outcome files w = (.ok w.files, w) := rfl

@[simp] theorem outcome_logged (w : World) : outcome logged w = (.ok w.log.reverse, w) := rfl

@[simp] theorem outcome_setFiles (fs : FileSystem) (w : World) :
    outcome (setFiles fs) w = (.ok (), { w with files := fs }) := rfl

@[simp] theorem outcome_ofOs (failure : OsError → Failure) (r : Except OsError α) (w : World) :
    outcome (ofOs failure r) w = (r.mapError failure, w) := by
  cases r <;> rfl

theorem outcome_ofStop {ε : Type} (failure : ε → Failure) (r : Except (Stop ε) α) (w : World) :
    outcome (ofStop failure r) w = (r.mapError (Failure.ofStop failure), w) := by
  rcases r with (f | e) | a <;> rfl

theorem outcome_store (failure : OsError → Failure) (path : String) (content : Bytes) (w : World) :
    outcome (store failure path content) w = match w.files.store path content with
      | .ok fs => (.ok (), { w with files := fs })
      | .error e => (.error (failure e), w) := by
  rw [store, outcome_bind, outcome_files]
  simp only
  rw [outcome_bind, outcome_ofOs]
  cases w.files.store path content <;> rfl

theorem outcome_createDirAll (failure : OsError → Failure) (path : String) (w : World) :
    outcome (createDirAll failure path) w =
      ((w.files.createDirAll path).1.mapError failure,
        { w with files := (w.files.createDirAll path).2 }) := by
  rw [createDirAll, outcome_bind, outcome_files]
  simp only
  rw [outcome_bind, outcome_setFiles]
  exact outcome_ofOs failure _ _

/-- Directories that have been made stay, also when making one of them has failed. -/
theorem createDirAll_files {failure : OsError → Failure} {path : String} {u v : World}
    {r : Except Failure Unit} (h : outcome (createDirAll failure path) u = (r, v)) :
    v.files = (u.files.createDirAll path).2 := by
  rw [outcome_createDirAll] at h
  obtain ⟨-, rfl⟩ := Prod.mk.inj h
  rfl

/-! ## Steps that succeed -/

theorem ofStop_ok {ε : Type} {failure : ε → Failure} {r : Except (Stop ε) α} {u v : World} {a : α}
    (h : outcome (ofStop failure r) u = (.ok a, v)) : r = .ok a ∧ v = u := by
  rcases r with (f | e) | b
  · cases h
  · cases h
  · cases h
    exact ⟨rfl, rfl⟩

theorem store_ok {failure : OsError → Failure} {path : String} {content : Bytes} {u v : World}
    (h : outcome (store failure path content) u = (.ok (), v)) :
    u.files.store path content = .ok v.files := by
  rw [outcome_store] at h
  cases hfiles : u.files.store path content with
  | error e => simp [hfiles] at h
  | ok fs =>
    rw [hfiles] at h
    cases h
    rfl

theorem foldlM_ok {σ : Type} {I : σ → Prop} {f : σ → α → Run σ} {xs : List α}
    (h : ∀ x ∈ xs, ∀ s u s' v, I s → outcome (f s x) u = (.ok s', v) → I s') {s s' : σ}
    {w v : World} (hs : I s) (hok : outcome (xs.foldlM f s) w = (.ok s', v)) : I s' := by
  induction xs generalizing s w with
  | nil =>
    rw [List.foldlM_nil, outcome_pure] at hok
    cases hok
    exact hs
  | cons x xs ih =>
    rw [List.foldlM_cons] at hok
    obtain ⟨s₁, w₁, hx, hrest⟩ := outcome_bind_ok.mp hok
    have hxs := fun y hy => h y (List.mem_cons_of_mem x hy)
    exact ih hxs (h x List.mem_cons_self s w s₁ w₁ hs hx) hrest

theorem mapM_ok {R : α → β → Prop} {f : α → Run β} {xs : List α}
    (h : ∀ x ∈ xs, ∀ u y v, outcome (f x) u = (.ok y, v) → R x y) {ys : List β} {w v : World}
    (hok : outcome (xs.mapM f) w = (.ok ys, v)) : List.Forall₂ R xs ys := by
  induction xs generalizing ys w with
  | nil =>
    rw [List.mapM_nil, outcome_pure] at hok
    cases hok
    exact .nil
  | cons x xs ih =>
    rw [List.mapM_cons] at hok
    obtain ⟨y, w₁, hx, hok⟩ := outcome_bind_ok.mp hok
    obtain ⟨rest, w₂, hrest, hok⟩ := outcome_bind_ok.mp hok
    rw [outcome_pure] at hok
    cases hok
    have hxs := fun z hz => h z (List.mem_cons_of_mem x hz)
    exact .cons (h x List.mem_cons_self w y w₁ hx) (ih hxs hrest)

/-- The steps that a loop has gone through, each from a state and a world that the steps before it
have led to. -/
theorem foldlM_steps {σ : Type} {I : σ → World → Prop} {f : σ → α → Run σ} {xs : List α}
    (h : ∀ s u x s' v, I s u → outcome (f s x) u = (.ok s', v) → I s' v) {s s' : σ} {w v : World}
    (hs : I s w) (hok : outcome (xs.foldlM f s) w = (.ok s', v)) :
    I s' v ∧ ∀ x ∈ xs, ∃ s u s' v, I s u ∧ outcome (f s x) u = (.ok s', v) := by
  induction xs generalizing s w with
  | nil =>
    rw [List.foldlM_nil, outcome_pure] at hok
    cases hok
    exact ⟨hs, by simp⟩
  | cons x xs ih =>
    rw [List.foldlM_cons] at hok
    obtain ⟨s₁, w₁, hx, hrest⟩ := outcome_bind_ok.mp hok
    obtain ⟨hend, hsteps⟩ := ih (h s w x s₁ w₁ hs hx) hrest
    exact ⟨hend, List.forall_mem_cons.mpr ⟨⟨s, w, s₁, w₁, hs, hx⟩, hsteps⟩⟩

theorem mapM_steps {I : World → Prop} {f : α → Run β} {xs : List α}
    (h : ∀ u x y v, I u → outcome (f x) u = (.ok y, v) → I v) {ys : List β} {w v : World}
    (hw : I w) (hok : outcome (xs.mapM f) w = (.ok ys, v)) :
    I v ∧ ∀ x ∈ xs, ∃ u y v, I u ∧ outcome (f x) u = (.ok y, v) := by
  induction xs generalizing ys w with
  | nil =>
    rw [List.mapM_nil, outcome_pure] at hok
    cases hok
    exact ⟨hw, by simp⟩
  | cons x xs ih =>
    rw [List.mapM_cons] at hok
    obtain ⟨y, w₁, hx, hok⟩ := outcome_bind_ok.mp hok
    obtain ⟨rest, w₂, hrest, hok⟩ := outcome_bind_ok.mp hok
    rw [outcome_pure] at hok
    cases hok
    obtain ⟨hend, hsteps⟩ := ih (h w x y w₁ hw hx) hrest
    exact ⟨hend, List.forall_mem_cons.mpr ⟨⟨w, y, w₁, hw, hx⟩, hsteps⟩⟩

/-! ## Steps that fail -/

theorem store_failed {failure : OsError → Failure} {path : String} {content : Bytes} {u v : World}
    {e : Failure} (h : outcome (store failure path content) u = (.error e, v)) :
    (∃ err, u.files.store path content = .error err) ∧ v = u := by
  rw [outcome_store] at h
  cases hfiles : u.files.store path content with
  | error err =>
    rw [hfiles] at h
    cases h
    exact ⟨⟨err, rfl⟩, rfl⟩
  | ok fs => simp [hfiles] at h

/-- A loop fails in one step, and the steps before it have succeeded. -/
theorem foldlM_error {σ : Type} {f : σ → α → Run σ} {xs : List α} {s : σ} {e : Failure}
    {w v : World} (h : outcome (xs.foldlM f s) w = (.error e, v)) :
    ∃ before x after s' u, xs = before ++ x :: after ∧
      outcome (before.foldlM f s) w = (.ok s', u) ∧ outcome (f s' x) u = (.error e, v) := by
  induction xs generalizing s w with
  | nil =>
    rw [List.foldlM_nil, outcome_pure] at h
    cases h
  | cons x xs ih =>
    rw [List.foldlM_cons] at h
    rcases outcome_bind_error.mp h with hx | ⟨s₁, w₁, hx, hrest⟩
    · exact ⟨[], x, xs, s, w, rfl, rfl, hx⟩
    · obtain ⟨before, y, after, s', u, rfl, hbefore, hy⟩ := ih hrest
      refine ⟨x :: before, y, after, s', u, rfl, ?_, hy⟩
      rw [List.foldlM_cons]
      exact outcome_bind_ok.mpr ⟨s₁, w₁, hx, hbefore⟩

theorem mapM_error {f : α → Run β} {xs : List α} {e : Failure} {w v : World}
    (h : outcome (xs.mapM f) w = (.error e, v)) :
    ∃ before x after ys u, xs = before ++ x :: after ∧
      outcome (before.mapM f) w = (.ok ys, u) ∧ outcome (f x) u = (.error e, v) := by
  induction xs generalizing w with
  | nil =>
    rw [List.mapM_nil, outcome_pure] at h
    cases h
  | cons x xs ih =>
    rw [List.mapM_cons] at h
    rcases outcome_bind_error.mp h with hx | ⟨y, w₁, hx, h⟩
    · exact ⟨[], x, xs, [], w, rfl, rfl, hx⟩
    · rcases outcome_bind_error.mp h with hrest | ⟨rest, w₂, -, h⟩
      · obtain ⟨before, z, after, ys, u, rfl, hbefore, hz⟩ := ih hrest
        refine ⟨x :: before, z, after, y :: ys, u, rfl, ?_, hz⟩
        rw [List.mapM_cons]
        exact outcome_bind_ok.mpr ⟨y, w₁, hx, outcome_bind_ok.mpr ⟨ys, u, hbefore, rfl⟩⟩
      · rw [outcome_pure] at h
        cases h

/-! ## Outcomes that can be computed -/

/-- Whether a step gives a result, and a test holds of it. -/
def givesWith (test : α → World → Bool) : Except Failure α × World → Bool
  | (.ok a, v) => test a v
  | (.error _, _) => false

/-- Whether a step fails, and a test holds of the failure. -/
def failsWith (test : Failure → World → Bool) : Except Failure α × World → Bool
  | (.error e, v) => test e v
  | (.ok _, _) => false

theorem exists_of_givesWith {test : α → World → Bool} {r : Except Failure α × World}
    (h : givesWith test r = true) : ∃ a v, r = (.ok a, v) ∧ test a v = true := by
  obtain ⟨e | a, v⟩ := r
  · cases h
  · exact ⟨a, v, rfl, h⟩

theorem exists_of_failsWith {test : Failure → World → Bool} {r : Except Failure α × World}
    (h : failsWith test r = true) : ∃ e v, r = (.error e, v) ∧ test e v = true := by
  obtain ⟨e | a, v⟩ := r
  · exact ⟨e, v, rfl, h⟩
  · cases h

/-! ## Steps that only look at the files -/

/-- With these files, whatever has been logged before, the step gives `r`, logs `events` and
changes no file. -/
def Reads (fs : FileSystem) (x : Run α) (r : Except Failure α) (events : List Log.Event) : Prop :=
  ∀ w, w.files = fs → outcome x w = (r, w.note events)

variable {fs : FileSystem}

theorem reads_pure (a : α) : Reads fs (pure a : Run α) (.ok a) [] := fun _ _ => rfl

theorem reads_throw (e : Failure) : Reads fs (throw e : Run α) (.error e) [] := fun _ _ => rfl

theorem reads_log (level : Log.Level) (source : Log.Source) (message : String) :
    Reads fs (log level source message) (.ok ()) [⟨level, source, message⟩] := fun _ _ => rfl

theorem Reads.bind {x : Run α} {f : α → Run β} {a : α} {r : Except Failure β}
    {first rest : List Log.Event} (hx : Reads fs x (.ok a) first) (hf : Reads fs (f a) r rest) :
    Reads fs (x >>= f) r (first ++ rest) := by
  intro w hw
  rw [outcome_bind, hx w hw]
  simp only
  rw [hf _ (by rw [World.files_note, hw]), World.note_note]

theorem Reads.bind_error {x : Run α} {e : Failure} {events : List Log.Event}
    (hx : Reads fs x (.error e) events) (f : α → Run β) :
    Reads fs (x >>= f) (.error e) events := by
  intro w hw
  rw [outcome_bind, hx w hw]

private theorem foldl_invariant {σ : Type} {I : σ → Prop} {next : σ → α → σ}
    (hnext : ∀ s x, I s → I (next s x)) {s : σ} (hs : I s) (xs : List α) :
    I (xs.foldl next s) := by
  induction xs generalizing s with
  | nil => exact hs
  | cons x xs ih => exact ih (hnext s x hs)

/-- Steps that all succeed, each with the state that the one before has left. -/
theorem reads_foldlM {σ : Type} {I : σ → Prop} {f : σ → α → Run σ} {next : σ → α → σ}
    {events : α → List Log.Event} {xs : List α} (hnext : ∀ s x, I s → I (next s x))
    (h : ∀ s, I s → ∀ x ∈ xs, Reads fs (f s x) (.ok (next s x)) (events x)) {s : σ} (hs : I s) :
    Reads fs (xs.foldlM f s) (.ok (xs.foldl next s)) (xs.flatMap events) := by
  induction xs generalizing s with
  | nil => exact reads_pure s
  | cons x xs ih =>
    rw [List.foldlM_cons, List.foldl_cons, List.flatMap_cons]
    have hrest : ∀ s, I s → ∀ y ∈ xs, Reads fs (f s y) (.ok (next s y)) (events y) :=
      fun s hs y hy => h s hs y (List.mem_cons_of_mem x hy)
    exact (h s hs x List.mem_cons_self).bind (ih hrest (hnext s x hs))

/-- Steps that all succeed, each on its own element. -/
theorem reads_mapM {f : α → Run β} {result : α → β} {events : α → List Log.Event} {xs : List α}
    (h : ∀ x ∈ xs, Reads fs (f x) (.ok (result x)) (events x)) :
    Reads fs (xs.mapM f) (.ok (xs.map result)) (xs.flatMap events) := by
  induction xs with
  | nil => exact reads_pure []
  | cons x xs ih =>
    rw [List.mapM_cons, List.map_cons, List.flatMap_cons]
    have hrest := ih fun y hy => h y (List.mem_cons_of_mem x hy)
    have hcons := hrest.bind (f := fun ys => pure (result x :: ys)) (reads_pure _)
    rw [List.append_nil] at hcons
    exact (h x List.mem_cons_self).bind hcons

/-- The first step that fails ends the others. -/
theorem reads_mapM_error {f : α → Run β} {result : α → β} {events : α → List Log.Event}
    {before after : List α} {x : α} {e : Failure} {last : List Log.Event}
    (h : ∀ y ∈ before, Reads fs (f y) (.ok (result y)) (events y))
    (hx : Reads fs (f x) (.error e) last) :
    Reads fs ((before ++ x :: after).mapM f) (.error e) (before.flatMap events ++ last) := by
  rw [List.mapM_append, List.mapM_cons]
  exact (reads_mapM h).bind ((hx.bind_error _).bind_error _)

theorem reads_foldlM_error {σ : Type} {I : σ → Prop} {f : σ → α → Run σ} {next : σ → α → σ}
    {events : α → List Log.Event} {before after : List α} {x : α} {e : Failure}
    {last : List Log.Event} (hnext : ∀ s x, I s → I (next s x))
    (h : ∀ s, I s → ∀ y ∈ before, Reads fs (f s y) (.ok (next s y)) (events y))
    (hx : ∀ s, I s → Reads fs (f s x) (.error e) last) {s : σ} (hs : I s) :
    Reads fs ((before ++ x :: after).foldlM f s) (.error e) (before.flatMap events ++ last) := by
  rw [List.foldlM_append]
  refine (reads_foldlM hnext h hs).bind ?_
  rw [List.foldlM_cons]
  exact (hx _ (foldl_invariant hnext hs before)).bind_error _

/-! ## Steps that find the same in two file systems -/

/-- With either files, the step gives the same result, logs the same events and changes no file. -/
def Alike (fs gs : FileSystem) (x : Run α) : Prop :=
  ∃ r events, Reads fs x r events ∧ Reads gs x r events

variable {gs : FileSystem}

theorem alike_pure (a : α) : Alike fs gs (pure a : Run α) := ⟨_, _, reads_pure a, reads_pure a⟩

theorem alike_throw (e : Failure) : Alike fs gs (throw e : Run α) :=
  ⟨_, _, reads_throw e, reads_throw e⟩

theorem alike_log (level : Log.Level) (source : Log.Source) (message : String) :
    Alike fs gs (log level source message) :=
  ⟨_, _, reads_log _ _ _, reads_log _ _ _⟩

theorem alike_ofStop {ε : Type} (failure : ε → Failure) (r : Except (Stop ε) α) :
    Alike fs gs (ofStop failure r) := by
  rcases r with (f | e) | a
  · exact alike_throw _
  · exact alike_throw _
  · exact alike_pure a

theorem Alike.bind {x : Run α} {f : α → Run β} (hx : Alike fs gs x)
    (hf : ∀ a, (∃ u v, outcome x u = (.ok a, v)) → Alike fs gs (f a)) : Alike fs gs (x >>= f) := by
  obtain ⟨r, first, hfs, hgs⟩ := hx
  cases r with
  | error e => exact ⟨_, _, hfs.bind_error f, hgs.bind_error f⟩
  | ok a =>
    obtain ⟨r, rest, hfs', hgs'⟩ := hf a ⟨_, _, hfs ⟨fs, []⟩ rfl⟩
    exact ⟨_, _, hfs.bind hfs', hgs.bind hgs'⟩

theorem Alike.mapM {f : α → Run β} {xs : List α} (h : ∀ x ∈ xs, Alike fs gs (f x)) :
    Alike fs gs (xs.mapM f) := by
  induction xs with
  | nil => exact alike_pure []
  | cons x xs ih =>
    rw [List.mapM_cons]
    refine (h x List.mem_cons_self).bind fun y _ => ?_
    exact (ih fun z hz => h z (List.mem_cons_of_mem x hz)).bind fun ys _ => alike_pure _

theorem Alike.foldlM {σ : Type} {I : σ → Prop} {f : σ → α → Run σ} {xs : List α}
    (hkeep : ∀ s u x s' v, I s → outcome (f s x) u = (.ok s', v) → I s')
    (h : ∀ s, I s → ∀ x ∈ xs, Alike fs gs (f s x)) {s : σ} (hs : I s) :
    Alike fs gs (xs.foldlM f s) := by
  induction xs generalizing s with
  | nil => exact alike_pure s
  | cons x xs ih =>
    rw [List.foldlM_cons]
    refine (h s hs x List.mem_cons_self).bind fun s' ⟨u, v, hx⟩ => ?_
    exact ih (fun s hs y hy => h s hs y (List.mem_cons_of_mem x hy)) (hkeep s u x s' v hs hx)

theorem Alike.files {x : Run α} {w : World} (h : Alike w.files gs x) :
    (outcome x w).2.files = w.files := by
  obtain ⟨r, events, hfs, -⟩ := h
  rw [hfs w rfl, World.files_note]

/-- What has been found once is found again in the other files. -/
theorem Alike.outcome {x : Run α} {w v : World} {r : Except Failure α} (h : Alike w.files gs x)
    (hw : outcome x w = (r, v)) : v.files = w.files ∧
      ∀ u : World, u.files = gs → ∃ u', outcome x u = (r, u') ∧ u'.files = gs := by
  obtain ⟨r', events, hfs, hgs⟩ := h
  have hfirst := hw.symm.trans (hfs w rfl)
  cases hfirst
  exact ⟨rfl, fun u hu => ⟨_, hgs u hu, hu⟩⟩

end Run
end Footprint
