import Footprint.Assoc
import Mathlib.Data.List.Perm.Subperm
import Mathlib.Data.List.Nodup

/-! # Association lists as finite maps: their keys, and when two of them are the same -/
namespace Footprint.Assoc

variable {α β : Type} [DecidableEq α]

omit [DecidableEq α] in
@[simp] theorem keys_nil : keys ([] : Assoc α β) = [] := rfl

omit [DecidableEq α] in
@[simp] theorem keys_cons (k : α) (v : β) (m : Assoc α β) : keys ((k, v) :: m) = k :: keys m := rfl

theorem find?_insert (k l : α) (v : β) (m : Assoc α β) :
    (m.insert k v).find? l = if l = k then some v else m.find? l := by
  split
  · next h => rw [h, find?_insert_self]
  · next h => exact find?_insert_ne (Ne.symm h) v m

theorem mem_keys_insert {k l : α} {v : β} {m : Assoc α β} :
    l ∈ keys (m.insert k v) ↔ l = k ∨ l ∈ keys m := by
  induction m with
  | nil => simp [insert]
  | cons e m ih =>
    obtain ⟨j, w⟩ := e
    by_cases h : j = k
    · simp [insert, h]
    · simp only [insert, if_neg h, keys_cons, List.mem_cons, ih]
      exact or_left_comm

theorem nodup_keys_insert {m : Assoc α β} (h : (keys m).Nodup) (k : α) (v : β) :
    (keys (m.insert k v)).Nodup := by
  induction m with
  | nil => simp [insert]
  | cons e m ih =>
    obtain ⟨j, w⟩ := e
    have hj : j ∉ keys m ∧ (keys m).Nodup := List.nodup_cons.mp h
    by_cases hjk : j = k
    · subst hjk
      simpa [insert] using h
    · simp only [insert, if_neg hjk]
      refine List.nodup_cons.mpr ⟨fun hmem => ?_, ih hj.2⟩
      rcases mem_keys_insert.mp hmem with rfl | hmem
      · exact hjk rfl
      · exact hj.1 hmem

theorem find?_eq_none_iff {k : α} {m : Assoc α β} : m.find? k = none ↔ k ∉ keys m := by
  induction m with
  | nil => simp [find?]
  | cons e m ih =>
    obtain ⟨j, w⟩ := e
    by_cases h : j = k
    · simp [find?, h]
    · simp [find?, h, ih, Ne.symm h]

theorem mem_keys_iff {k : α} {m : Assoc α β} : k ∈ keys m ↔ ∃ v, m.find? k = some v := by
  rw [← Option.isSome_iff_exists, ← Option.ne_none_iff_isSome, Ne, find?_eq_none_iff, not_not]

theorem contains_iff {k : α} {m : Assoc α β} : m.contains k = true ↔ k ∈ keys m := by
  rw [contains, mem_keys_iff, Option.isSome_iff_exists]

theorem mem_of_find? {k : α} {v : β} {m : Assoc α β} (h : m.find? k = some v) : (k, v) ∈ m := by
  induction m with
  | nil => simp [find?] at h
  | cons e m ih =>
    obtain ⟨j, w⟩ := e
    by_cases hj : j = k
    · simp only [find?, if_pos hj, Option.some.injEq] at h
      simp [hj, h]
    · rw [find?, if_neg hj] at h
      exact List.mem_cons_of_mem _ (ih h)

theorem find?_of_mem {m : Assoc α β} (hm : (keys m).Nodup) {k : α} {v : β} (h : (k, v) ∈ m) :
    m.find? k = some v := by
  induction m with
  | nil => simp at h
  | cons e m ih =>
    obtain ⟨j, w⟩ := e
    have hj : j ∉ keys m ∧ (keys m).Nodup := List.nodup_cons.mp hm
    rcases List.mem_cons.mp h with heq | hmem
    · cases heq
      simp [find?]
    · have hk : k ∈ keys m := List.mem_map_of_mem hmem
      have hne : j ≠ k := fun heq => hj.1 (heq ▸ hk)
      rw [find?, if_neg hne]
      exact ih hj.2 hmem

theorem find?_perm {m n : Assoc α β} (h : m.Perm n) (hm : (keys m).Nodup) (k : α) :
    m.find? k = n.find? k := by
  have hn : (keys n).Nodup := (h.map _).nodup_iff.mp hm
  apply Option.ext
  intro v
  constructor
  · exact fun hv => find?_of_mem hn (h.mem_iff.mp (mem_of_find? hv))
  · exact fun hv => find?_of_mem hm (h.mem_iff.mpr (mem_of_find? hv))

/-- Lists of distinct keys are the same when they have the same keys, with equal values. -/
theorem same_iff {eq : β → β → Bool} {m n : Assoc α β} (hm : (keys m).Nodup) (hn : (keys n).Nodup) :
    m.same eq n = true ↔ (∀ k, k ∈ keys m ↔ k ∈ keys n) ∧
      ∀ k v w, m.find? k = some v → n.find? k = some w → eq v w = true := by
  have hlen : (keys m).length = m.length ∧ (keys n).length = n.length := by simp [keys]
  simp only [same, Bool.and_eq_true, decide_eq_true_eq, List.all_eq_true]
  constructor
  · rintro ⟨hl, hall⟩
    have hsub : keys m ⊆ keys n := by
      intro k hk
      obtain ⟨v, hv⟩ := mem_keys_iff.mp hk
      have h := hall (k, v) (mem_of_find? hv)
      rw [mem_keys_iff]
      cases hf : n.find? k with
      | none => simp [hf] at h
      | some w => exact ⟨w, rfl⟩
    have hperm : (keys m).Perm (keys n) :=
      (hm.subperm hsub).perm_of_length_le (by omega)
    refine ⟨fun k => hperm.mem_iff, fun k v w hv hw => ?_⟩
    simpa [hw] using hall (k, v) (mem_of_find? hv)
  · rintro ⟨hkeys, heq⟩
    have hperm : (keys m).Perm (keys n) := (List.perm_ext_iff_of_nodup hm hn).mpr hkeys
    refine ⟨by rw [← hlen.1, ← hlen.2, hperm.length_eq], fun e he => ?_⟩
    obtain ⟨k, v⟩ := e
    have hv := find?_of_mem hm he
    obtain ⟨w, hw⟩ := mem_keys_iff.mp ((hkeys k).mp (mem_keys_iff.mpr ⟨v, hv⟩))
    simp only [hw]
    exact heq k v w hv hw

/-! ## Other values under the same keys -/

/-- The keys stand in the same order. Where one stands twice, the values that cannot be found agree. -/
inductive Rewrites : Assoc α β → Assoc α β → Prop
  | nil : Rewrites [] []
  | cons (k : α) (v w : β) {m n : Assoc α β} (rest : Rewrites m n) (hidden : n.find? k = m.find? k) :
    Rewrites ((k, v) :: m) ((k, w) :: n)

theorem Rewrites.refl (m : Assoc α β) : Rewrites m m := by
  induction m with
  | nil => exact .nil
  | cons e m ih => exact .cons e.1 e.2 e.2 ih rfl

theorem Rewrites.insert {m n : Assoc α β} (h : Rewrites m n) {k : α} {old : β}
    (hk : n.find? k = some old) (v : β) : Rewrites m (n.insert k v) := by
  induction h with
  | nil => cases hk
  | cons j u w rest hidden ih =>
    rw [Assoc.insert]
    split
    · next hjk => exact hjk ▸ .cons j u v rest hidden
    · next hjk =>
      rw [find?, if_neg hjk] at hk
      exact .cons j u w (ih hk) ((find?_insert_ne (Ne.symm hjk) v _).trans hidden)

theorem Rewrites.eq {m n : Assoc α β} (h : Rewrites m n) (hfind : ∀ k, n.find? k = m.find? k) :
    n = m := by
  induction h with
  | nil => rfl
  | cons k v w rest hidden ih =>
    have hvw : w = v := by simpa [find?] using hfind k
    have hrest : ∀ l, find? l _ = find? l _ := fun l => by
      by_cases hl : k = l
      · exact hl ▸ hidden
      · simpa [find?, hl] using hfind l
    rw [hvw, ih hrest]

theorem Rewrites.find?_eq_none {m n : Assoc α β} (h : Rewrites m n) {k : α}
    (hk : m.find? k = none) : n.find? k = none := by
  induction h with
  | nil => rfl
  | cons j v w rest hidden ih =>
    by_cases hj : j = k
    · simp [find?, hj] at hk
    · rw [find?, if_neg hj] at hk ⊢
      exact ih hk

end Footprint.Assoc
