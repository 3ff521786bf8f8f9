import Footprint.Proofs.Yaml.Record
import Mathlib.Data.List.Perm.Basic
import Mathlib.Data.Option.Basic

/-!
# Documents with the same entries in another order

Two documents are compared by a relation between their nodes, for a node may be a part of itself by way
of an alias. Related nodes have the same form, and the entries of related mappings are related when
those of one are put in another order. A value that is read from a node is then read from every node
that is related to it.
-/
namespace Footprint.Yaml

/-- Nodes of one form with related parts, where the entries of a mapping may be in another order. -/
inductive Reordered (R : Node → Node → Prop) : Node → Node → Prop
  | scalar (tag : Option String) (style : Style) (s : String) :
    Reordered R (.scalar tag style s) (.scalar tag style s)
  | sequence {ns ns' : List Node} (items : List.Forall₂ R ns ns') :
    Reordered R (.sequence ns) (.sequence ns')
  | mapping {es es' es'' : List (Node × Node)}
    (parts : List.Forall₂ (fun e e' => R e.1 e'.1 ∧ R e.2 e'.2) es es') (order : es'.Perm es'') :
    Reordered R (.mapping es) (.mapping es'')
  | reference (i j : Nat) : Reordered R (.alias i) (.alias j)

/-- A relation between the nodes of two documents, with their roots, that their parts keep. -/
structure Reordering (R : Node → Node → Prop) (d d' : Document) : Prop where
  root : Option.Rel R d.root d'.root
  parts : ∀ {n n'}, R n n' → Reordered R (d.resolve n) (d'.resolve n')

/-- The documents differ at most in the order of entries and in the numbers of aliases. -/
def UpToOrder (d d' : Document) : Prop := ∃ R, Reordering R d d'

variable {R : Node → Node → Prop} {d d' : Document} {α β : Type}

theorem Reordered.flip {n n' : Node} (h : Reordered R n n') : Reordered (flip R) n' n := by
  cases h with
  | scalar tag style s => exact .scalar tag style s
  | sequence items => exact .sequence items.flip
  | mapping parts order =>
    obtain ⟨entries, hparts, horder⟩ := List.perm_comp_forall₂ order.symm parts.flip
    exact .mapping hparts horder
  | reference i j => exact .reference j i

theorem UpToOrder.symm (h : UpToOrder d d') : UpToOrder d' d := by
  obtain ⟨R, hroot, hparts⟩ := h
  refine ⟨flip R, ?_, fun hn => (hparts hn).flip⟩
  generalize d.root = root, d'.root = root' at hroot ⊢
  cases hroot with
  | some hn => exact .some hn
  | none => exact .none

theorem Reordered.refl (hR : ∀ n, R n n) (n : Node) : Reordered R n n := by
  rcases n with ⟨tag, style, s⟩ | ns | es | i
  · exact .scalar tag style s
  · exact .sequence (List.forall₂_same.mpr fun n _ => hR n)
  · exact .mapping (List.forall₂_same.mpr fun e _ => ⟨hR e.1, hR e.2⟩) (List.Perm.refl es)
  · exact .reference i i

/-- The entries of the root in another order. -/
theorem UpToOrder.of_perm {es es' : List (Node × Node)} (h : es.Perm es')
    (anchors : Assoc Nat Node) :
    UpToOrder ⟨some (.mapping es), anchors⟩ ⟨some (.mapping es'), anchors⟩ := by
  let R : Node → Node → Prop := fun n n' => n = n' ∨ n = .mapping es ∧ n' = .mapping es'
  refine ⟨R, .some (.inr ⟨rfl, rfl⟩), ?_⟩
  rintro n n' (rfl | ⟨rfl, rfl⟩)
  · exact .refl (fun _ => .inl rfl) _
  · exact .mapping (List.forall₂_same.mpr fun e _ => ⟨.inl rfl, .inl rfl⟩) h

/-! ## Values -/

/-- What is read from a node is read from every related node. -/
def Carries (R : Node → Node → Prop) (d d' : Document) (value : Decoder α) : Prop :=
  ∀ (n n' : Node) (v : α), R n n' → value d n = .ok v → value d' n' = .ok v

theorem Reordering.scalar (h : Reordering R d d') {n n' : Node} (hn : R n n')
    {tag : Option String} {style : Style} {s : String} (hs : d.resolve n = .scalar tag style s) :
    d'.resolve n' = .scalar tag style s := by
  have hform := h.parts hn
  rw [hs] at hform
  generalize d'.resolve n' = m at hform ⊢
  cases hform
  rfl

theorem Reordering.omitted (h : Reordering R d d') {n n' : Node} (hn : R n n')
    (homitted : isOmitted (d.resolve n)) : isOmitted (d'.resolve n') := by
  have hform := h.parts hn
  generalize d.resolve n = m, d'.resolve n' = m' at hform homitted ⊢
  cases hform with
  | scalar => exact homitted
  | sequence => cases homitted
  | mapping => cases homitted
  | reference => cases homitted

theorem Reordering.textAs (h : Reordering R d d') (expected : String) :
    Carries R d d' (textAs expected) := by
  intro n n' s hn hs
  obtain ⟨tag, style, hscalar⟩ := textAs_eq_ok_iff.mp hs
  exact textAs_eq_ok_iff.mpr ⟨tag, style, h.scalar hn hscalar⟩

theorem Reordering.typed (h : Reordering R d d') (tag expected : String)
    (read : String → Option α) : Carries R d d' (typed tag expected read) := by
  intro n n' v hn hv
  obtain ⟨t, style, s, hscalar, hread⟩ := typed_eq_ok_iff.mp hv
  exact typed_eq_ok_iff.mpr ⟨t, style, s, h.scalar hn hscalar, hread⟩

theorem Carries.bind {value : Decoder α} (h : Carries R d d' value) (f : α → Except Error β) :
    Carries R d d' fun d n => value d n >>= f := by
  intro n n' b hn hb
  obtain ⟨v, hv, hf⟩ := bind_eq_ok_iff.mp hb
  exact bind_eq_ok_iff.mpr ⟨v, h n n' v hn hv, hf⟩

theorem Carries.map {value : Decoder α} (h : Carries R d d' value) (f : α → β) :
    Carries R d d' fun d n => f <$> value d n := by
  simp only [map_eq_pure_bind]
  exact h.bind _

theorem Carries.items {item : Decoder α} (h : Carries R d d' item) {ns ns' : List Node}
    {vs : List α} (hns : List.Forall₂ R ns ns')
    (hvs : List.Forall₂ (fun n v => item d n = .ok v) ns vs) :
    List.Forall₂ (fun n v => item d' n = .ok v) ns' vs := by
  induction hns generalizing vs with
  | nil => exact List.forall₂_nil_left_iff.mp hvs ▸ .nil
  | cons hn _ ih =>
    obtain ⟨v, rest, hv, hrest, rfl⟩ := List.forall₂_cons_left_iff.mp hvs
    exact .cons (h _ _ _ hn hv) (ih hrest)

theorem Reordering.list (h : Reordering R d d') {item : Decoder α} (hitem : Carries R d d' item) :
    Carries R d d' (list item) := by
  intro n n' vs hn hvs
  have hform := h.parts hn
  rw [Yaml.list] at hvs ⊢
  generalize d.resolve n = m, d'.resolve n' = m' at hform hvs ⊢
  cases hform with
  | scalar => exact hvs
  | sequence items => exact itemsFrom_eq_ok_iff.mpr (hitem.items items (itemsFrom_eq_ok_iff.mp hvs))
  | mapping => cases hvs
  | reference => cases hvs

/-! ## Records -/

/-- The same keys with related values. -/
def Alike (R : Node → Node → Prop) (es es' : Entries) : Prop :=
  ∀ name, Option.Rel R (es.find? name) (es'.find? name)

theorem alike_of_forall₂ {es es' : Entries}
    (h : List.Forall₂ (fun e e' => e.1 = e'.1 ∧ R e.2 e'.2) es es') : Alike R es es' := by
  intro name
  induction h with
  | nil => exact .none
  | @cons e e' _ _ hfirst _ ih =>
    obtain ⟨key, v⟩ := e
    obtain ⟨key', v'⟩ := e'
    obtain ⟨rfl, hv⟩ := hfirst
    by_cases hkey : key = name
    · rw [Assoc.find?, Assoc.find?, if_pos hkey, if_pos hkey]
      exact .some hv
    · rw [Assoc.find?, Assoc.find?, if_neg hkey, if_neg hkey]
      exact ih

theorem Alike.exists_of_mem {es es' : Entries} (h : Alike R es es') (hes' : es'.keys.Nodup)
    {name : String} {n' : Node} (hmem : (name, n') ∈ es') : ∃ n, (name, n) ∈ es ∧ R n n' := by
  have hrel := h name
  rw [Assoc.find?_of_mem hes' hmem] at hrel
  generalize hfind : es.find? name = found at hrel
  cases hrel with
  | some hn => exact ⟨_, Assoc.mem_of_find? hfind, hn⟩

/-- The keys of related entries have the same texts. -/
theorem Reordering.named (h : Reordering R d d') {entries entries' : List (Node × Node)}
    {es : Entries} (hparts : List.Forall₂ (fun e e' => R e.1 e'.1 ∧ R e.2 e'.2) entries entries')
    (hes : List.Forall₂ (Named d) entries es) :
    ∃ es' : Entries, List.Forall₂ (Named d') entries' es' ∧
      List.Forall₂ (fun e e' => e.1 = e'.1 ∧ R e.2 e'.2) es es' := by
  induction hparts generalizing es with
  | nil =>
    obtain rfl := List.forall₂_nil_left_iff.mp hes
    exact ⟨[], .nil, .nil⟩
  | @cons e e' _ _ hfirst _ ih =>
    obtain ⟨⟨name, v⟩, rest, ⟨⟨tag, style, hkey⟩, rfl⟩, hrest, rfl⟩ :=
      List.forall₂_cons_left_iff.mp hes
    obtain ⟨rest', hrest', hsame⟩ := ih hrest
    exact ⟨(name, e'.2) :: rest', .cons ⟨⟨tag, style, h.scalar hfirst.1 hkey⟩, rfl⟩ hrest',
      .cons ⟨rfl, hfirst.2⟩ hsame⟩

/-- A mapping is one with the same keys in the other document. -/
theorem Reordering.mapped (h : Reordering R d d') {n n' : Node} (hn : R n n') {es : Entries}
    (hes : Mapped d n es) : ∃ es', Mapped d' n' es' ∧ Alike R es es' := by
  obtain ⟨entries, hentries, hnamed, hnodup⟩ := hes
  have hform := h.parts hn
  rw [hentries] at hform
  generalize hentries' : d'.resolve n' = m at hform
  cases hform with
  | mapping parts order =>
    obtain ⟨es₁, hnamed₁, hsame⟩ := h.named parts hnamed
    obtain ⟨es', hnamed', horder⟩ := List.perm_comp_forall₂ order.symm hnamed₁
    have hkeys : es.keys = Assoc.keys es₁ :=
      List.forall₂_eq_eq_eq ▸ List.forall₂_map_left_iff.mpr
        (List.forall₂_map_right_iff.mpr (hsame.imp fun _ _ => And.left))
    have hnodup' : (Assoc.keys es').Nodup := by
      rw [hkeys] at hnodup
      exact (horder.map _).nodup_iff.mpr hnodup
    refine ⟨es', ⟨_, hentries', hnamed', hnodup'⟩, fun name => ?_⟩
    rw [Assoc.find?_perm horder hnodup']
    exact alike_of_forall₂ hsame name

variable {slots : List (Slot α)} {es es' : Entries} {start r : α}

theorem Fits.alike (hfits : Fits slots d es) (hvalues : ∀ s ∈ slots, Carries R d d' s.value)
    (hes' : es'.keys.Nodup) (halike : Alike R es es') : Fits slots d' es' := by
  rintro ⟨name, n'⟩ hmem
  obtain ⟨n, hn, hrel⟩ := halike.exists_of_mem hes' hmem
  obtain ⟨s, hs, hname, v, hv⟩ := hfits (name, n) hn
  exact ⟨s, hs, hname, v, hvalues s hs _ _ _ hrel hv⟩

theorem Slot.Holds.alike {s : Slot α} (h : s.Holds d es start r)
    (hvalue : Carries R d d' s.value) (halike : Alike R es es') : s.Holds d' es' start r := by
  have hrel := halike s.name
  rw [Slot.Holds] at h ⊢
  generalize es.find? s.name = found, es'.find? s.name = found' at h hrel ⊢
  cases hrel with
  | some hn => exact hvalue _ _ _ hn h
  | none => exact h

theorem Reordering.record (h : Reordering R d d') (hslots : Lawful slots)
    (hvalues : ∀ s ∈ slots, Carries R d d' s.value) (expected : String) (start : α) :
    Carries R d d' (record expected (slots.map Slot.field) start) := by
  intro n n' r hn hr
  apply (record_eq_ok_iff hslots).mpr
  rcases (record_eq_ok_iff hslots).mp hr with ⟨homitted, hstart⟩ | ⟨es, hes, hfits, hholds⟩
  · exact .inl ⟨h.omitted hn homitted, hstart⟩
  · obtain ⟨es', hes', halike⟩ := h.mapped hn hes
    refine .inr ⟨es', hes', hfits.alike hvalues hes'.nodup halike, ?_⟩
    exact fun s hs => (hholds s hs).alike (hvalues s hs) halike

end Footprint.Yaml
