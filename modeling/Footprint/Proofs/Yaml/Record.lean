import Footprint.Proofs.Assoc
import Footprint.Proofs.Fault
import Footprint.Yaml.Decode
import Mathlib.Data.List.Pairwise

/-!
# Records read from mappings

The entries of a mapping are read one by one, and each sets the field that it names. A record can be
read exactly when every entry names a field of its own and has a value of it. Then each field holds the
value of its entry, and a field without one keeps what it began with.
-/
namespace Footprint.Yaml

/-! ## Mappings by the texts of their keys -/

abbrev Entries := Assoc String Node

/-- An entry with the text of its key. -/
def Named (d : Document) (e : Node × Node) (e' : String × Node) : Prop :=
  (∃ tag style, d.resolve e.1 = .scalar tag style e'.1) ∧ e'.2 = e.2

/-- A node is a mapping with these entries, and no text is the key of two of them. -/
def Mapped (d : Document) (n : Node) (es : Entries) : Prop :=
  ∃ entries, d.resolve n = .mapping entries ∧ List.Forall₂ (Named d) entries es ∧ es.keys.Nodup

theorem Named.eq {d : Document} {e : Node × Node} {a b : String × Node} (ha : Named d e a)
    (hb : Named d e b) : a = b := by
  obtain ⟨⟨tag, style, hkey⟩, hvalue⟩ := ha
  obtain ⟨⟨tag', style', hkey'⟩, hvalue'⟩ := hb
  obtain ⟨-, -, hname⟩ := Node.scalar.inj (hkey.symm.trans hkey')
  exact Prod.ext hname (hvalue.trans hvalue'.symm)

theorem Mapped.eq {d : Document} {n : Node} {es es' : Entries} (h : Mapped d n es)
    (h' : Mapped d n es') : es = es' := by
  obtain ⟨entries, hentries, hnamed, -⟩ := h
  obtain ⟨_, hentries', hnamed', -⟩ := h'
  cases hentries.symm.trans hentries'
  clear hentries hentries'
  induction hnamed generalizing es' with
  | nil => exact (List.forall₂_nil_left_iff.mp hnamed').symm
  | cons hfirst _ ih =>
    obtain ⟨_, rest, hfirst', hrest', rfl⟩ := List.forall₂_cons_left_iff.mp hnamed'
    rw [hfirst.eq hfirst', ih hrest']

theorem Mapped.nodup {d : Document} {n : Node} {es : Entries} (h : Mapped d n es) :
    es.keys.Nodup := by
  obtain ⟨_, -, -, hnodup⟩ := h
  exact hnodup

theorem Mapped.not_omitted {d : Document} {n : Node} {es : Entries} (h : Mapped d n es) :
    ¬isOmitted (d.resolve n) := by
  obtain ⟨entries, hentries, -⟩ := h
  rw [hentries]
  exact Bool.false_ne_true

/-! ## Values -/

variable {α β : Type} {d : Document}

theorem mismatch_ne_ok {expected : String} {n : Node} {v : α} : mismatch expected n ≠ .ok v := by
  rcases n with ⟨tag, style, s⟩ | _ | _ | _
  · rw [mismatch]
    split <;> nofun
  · nofun
  · nofun
  · nofun

theorem within_eq_ok_iff {step : Step} {r : Except Error α} {v : α} :
    within step r = .ok v ↔ r = .ok v := mapError_eq_ok_iff

theorem textAs_eq_ok_iff {expected s : String} {n : Node} :
    textAs expected d n = .ok s ↔ ∃ tag style, d.resolve n = .scalar tag style s := by
  rw [textAs]
  split
  · next h => simp [h]
  · next h =>
    constructor
    · exact fun hok => absurd hok mismatch_ne_ok
    · rintro ⟨tag, style, hscalar⟩
      exact absurd hscalar (h tag style s)

theorem typed_eq_ok_iff {tag expected : String} {read : String → Option α} {n : Node} {v : α} :
    typed tag expected read d n = .ok v ↔
      ∃ t style s, d.resolve n = .scalar t style s ∧ isTyped tag t style ∧ read s = some v := by
  rw [typed]
  split
  · next t style s hscalar =>
    constructor
    · intro hok
      split at hok
      · next w hw =>
        cases hok
        exact ⟨t, style, s, hscalar, Option.ite_none_right_eq_some.mp hw⟩
      · exact absurd hok mismatch_ne_ok
    · rintro ⟨t', style', s', hscalar', htyped, hread⟩
      cases hscalar.symm.trans hscalar'
      rw [if_pos htyped, hread]
  · next h =>
    constructor
    · exact fun hok => absurd hok mismatch_ne_ok
    · rintro ⟨t, style, s, hscalar, -⟩
      exact absurd hscalar (h t style s)

theorem itemsFrom_eq_ok_iff {item : Node → Except Error α} {i : Nat} {ns : List Node}
    {vs : List α} :
    itemsFrom item i ns = .ok vs ↔ List.Forall₂ (fun n v => item n = .ok v) ns vs := by
  induction ns generalizing i vs with
  | nil =>
    rw [itemsFrom, List.forall₂_nil_left_iff, Except.ok.injEq]
    exact eq_comm
  | cons n ns ih =>
    simp only [itemsFrom, bind_eq_ok_iff, within_eq_ok_iff, ih, List.forall₂_cons_left_iff]
    constructor
    · rintro ⟨v, hv, rest, hrest, h⟩
      cases h
      exact ⟨v, rest, hv, hrest, rfl⟩
    · rintro ⟨v, rest, hv, hrest, rfl⟩
      exact ⟨v, hv, rest, hrest, rfl⟩

theorem list_eq_ok_iff {item : Decoder α} {n : Node} {ns : List Node} {vs : List α}
    (hns : d.resolve n = .sequence ns) :
    list item d n = .ok vs ↔ List.Forall₂ (fun n v => item d n = .ok v) ns vs := by
  rw [list, hns]
  exact itemsFrom_eq_ok_iff

/-- The value of a node, or `default` where there is no node. -/
def Decoded (value : Decoder α) (d : Document) (found : Option Node) (default v : α) : Prop :=
  match found with
  | none => v = default
  | some n => value d n = .ok v

theorem Decoded.eq {value : Decoder α} {found : Option Node} {default v w : α}
    (hv : Decoded value d found default v) (hw : Decoded value d found default w) : v = w := by
  cases found with
  | none => exact Eq.trans hv hw.symm
  | some n => exact Except.ok.inj (hv.symm.trans hw)

/-! ## Fields -/

/-- A field of a record: its name, the values that it takes, and its place. -/
structure Slot (α : Type) where
  Value : Type
  name : String
  value : Decoder Value
  get : α → Value
  set : α → Value → α

def Slot.field (s : Slot α) : Field α := .of s.name s.value s.set

def Slot.Apart (s t : Slot α) : Prop :=
  (∀ r v, t.get (s.set r v) = t.get r) ∧ ∀ r v, s.get (t.set r v) = s.get r

instance : Std.Symm (@Slot.Apart α) := ⟨fun _ _ => And.symm⟩

/-- Fields with different names and in different places, which make up the record. -/
structure Lawful (slots : List (Slot α)) : Prop where
  nodup : (slots.map Slot.name).Nodup
  get_set : ∀ s ∈ slots, ∀ r v, s.get (s.set r v) = v
  apart : slots.Pairwise Slot.Apart
  ext : ∀ r r', (∀ s ∈ slots, s.get r = s.get r') → r = r'

/-- Every entry names a field and has a value of it. -/
def Fits (slots : List (Slot α)) (d : Document) (es : Entries) : Prop :=
  ∀ e ∈ es, ∃ s ∈ slots, s.name = e.1 ∧ ∃ v, s.value d e.2 = .ok v

/-- The field of `r` is what its entry says, and without one it is that of `start`. -/
def Slot.Holds (s : Slot α) (d : Document) (es : Entries) (start r : α) : Prop :=
  Decoded s.value d (es.find? s.name) (s.get start) (s.get r)

/-- The field of `r` is what its entry says. -/
def Slot.Given (s : Slot α) (d : Document) (es : Entries) (r : α) : Prop :=
  ∃ n, es.find? s.name = some n ∧ s.value d n = .ok (s.get r)

variable {slots : List (Slot α)} {es : Entries} {start r r' : α}

theorem Slot.Holds.given {s : Slot α} (h : s.Holds d es start r) (hkey : s.name ∈ es.keys) :
    s.Given d es r := by
  obtain ⟨n, hn⟩ := Assoc.mem_keys_iff.mp hkey
  rw [Slot.Holds, hn] at h
  exact ⟨n, hn, h⟩

theorem Lawful.get_set_ne (h : Lawful slots) {s t : Slot α} (hs : s ∈ slots) (ht : t ∈ slots)
    (hne : s.name ≠ t.name) (r : α) (v : s.Value) : t.get (s.set r v) = t.get r :=
  (h.apart.forall hs ht fun heq => hne (heq ▸ rfl)).1 r v

theorem Lawful.eq_of_name (h : Lawful slots) {s t : Slot α} (hs : s ∈ slots) (ht : t ∈ slots)
    (hname : s.name = t.name) : s = t :=
  List.inj_on_of_nodup_map h.nodup hs ht hname

/-- Some of the fields can be looked up in the entries, the others are found by going through them. -/
theorem Lawful.fits_iff (h : Lawful slots) (hes : es.keys.Nodup) (names : List String) :
    Fits slots d es ↔
      (∀ e ∈ es, ∃ s ∈ slots, s.name = e.1 ∧ (s.name ∉ names → ∃ v, s.value d e.2 = .ok v)) ∧
        ∀ s ∈ slots, s.name ∈ names → ∀ n, es.find? s.name = some n → ∃ v, s.value d n = .ok v := by
  constructor
  · intro hfits
    refine ⟨fun e he => ?_, fun s hs _ n hn => ?_⟩
    · obtain ⟨s, hs, hname, hv⟩ := hfits e he
      exact ⟨s, hs, hname, fun _ => hv⟩
    · obtain ⟨t, ht, hname, hv⟩ := hfits _ (Assoc.mem_of_find? hn)
      obtain rfl := h.eq_of_name ht hs hname
      exact hv
  · rintro ⟨hothers, hnamed⟩ ⟨name, n⟩ he
    obtain ⟨s, hs, rfl, hv⟩ := hothers (name, n) he
    by_cases hname : s.name ∈ names
    · exact ⟨s, hs, rfl, hnamed s hs hname n (Assoc.find?_of_mem hes he)⟩
    · exact ⟨s, hs, rfl, hv hname⟩

/-- Fields that hold the same are the same. -/
theorem Lawful.eq_of_holds (h : Lawful slots) (hr : ∀ s ∈ slots, s.Holds d es start r)
    (hr' : ∀ s ∈ slots, s.Holds d es start r') : r = r' :=
  h.ext r r' fun s hs => (hr s hs).eq (hr' s hs)

/-! ## Entries -/

theorem mem_of_find?_field {name : String} {f : Field α}
    (h : (slots.map Slot.field).find? (·.name = name) = some f) :
    ∃ s ∈ slots, s.name = name ∧ s.field = f := by
  obtain ⟨s, hs, rfl⟩ := List.mem_map.mp (List.mem_of_find?_eq_some h)
  have hname := List.find?_some h
  exact ⟨s, hs, of_decide_eq_true hname, rfl⟩

theorem find?_field (h : Lawful slots) {s : Slot α} (hs : s ∈ slots) :
    (slots.map Slot.field).find? (·.name = s.name) = some s.field := by
  cases hfind : (slots.map Slot.field).find? (·.name = s.name) with
  | none =>
    have hnone := List.find?_eq_none.mp hfind s.field (List.mem_map_of_mem hs)
    exact absurd (decide_eq_true rfl) hnone
  | some f =>
    obtain ⟨t, ht, hname, rfl⟩ := mem_of_find?_field hfind
    rw [h.eq_of_name ht hs hname]

theorem read_field_eq_ok_iff {s : Slot α} {v : Node} :
    s.field.read d v r = .ok r' ↔ ∃ b, s.value d v = .ok b ∧ s.set r b = r' := by
  rw [Slot.field, Field.of, bind_eq_ok_iff]
  apply exists_congr
  intro b
  apply and_congr_right
  intro _
  change Except.ok (s.set r b) = Except.ok r' ↔ s.set r b = r'
  rw [Except.ok.injEq]

/-- An entry is read by the field that it names, which has not been read before. -/
theorem readEntries_cons (h : Lawful slots) {seen : List String} {k v : Node}
    {rest : List (Node × Node)} :
    readEntries (slots.map Slot.field) d seen r ((k, v) :: rest) = .ok r' ↔
      ∃ s ∈ slots, (∃ tag style, d.resolve k = .scalar tag style s.name) ∧ s.name ∉ seen ∧
        ∃ b, s.value d v = .ok b ∧
          readEntries (slots.map Slot.field) d (s.name :: seen) (s.set r b) rest = .ok r' := by
  simp only [readEntries, bind_eq_ok_iff, textAs_eq_ok_iff]
  constructor
  · rintro ⟨name, hkey, hread⟩
    split at hread
    · cases hread
    · next f hfind =>
      obtain ⟨s, hs, rfl, rfl⟩ := mem_of_find?_field hfind
      split_ifs at hread with hseen
      · cases hread
      · obtain ⟨r₁, hvalue, hrest⟩ := bind_eq_ok_iff.mp hread
        obtain ⟨b, hb, rfl⟩ := read_field_eq_ok_iff.mp (within_eq_ok_iff.mp hvalue)
        exact ⟨s, hs, hkey, hseen, b, hb, hrest⟩
  · rintro ⟨s, hs, hkey, hseen, b, hb, hrest⟩
    refine ⟨s.name, hkey, ?_⟩
    rw [find?_field h hs]
    simp only [if_neg hseen]
    have hvalue : within (keyStep k) (s.field.read d v r) = .ok (s.set r b) :=
      within_eq_ok_iff.mpr (read_field_eq_ok_iff.mpr ⟨b, hb, rfl⟩)
    exact bind_eq_ok_iff.mpr ⟨_, hvalue, hrest⟩

/-- The fields after one more entry in front: it says what its own field holds. -/
theorem Slot.Holds.cons (h : Lawful slots) {s : Slot α} (hs : s ∈ slots) {v : Node} {b : s.Value}
    (hb : s.value d v = .ok b) (hes : s.name ∉ es.keys)
    (hholds : ∀ t ∈ slots, t.Holds d es (s.set start b) r) :
    ∀ t ∈ slots, t.Holds d ((s.name, v) :: es) start r := by
  intro t ht
  have hrest := hholds t ht
  rw [Slot.Holds] at hrest ⊢
  by_cases hname : s.name = t.name
  · obtain rfl := h.eq_of_name hs ht hname
    rw [Assoc.find?_eq_none_iff.mpr hes] at hrest
    rw [Assoc.find?, if_pos rfl]
    have hget : s.get r = b := Eq.trans hrest (h.get_set s hs start b)
    exact hget ▸ hb
  · rw [Assoc.find?, if_neg hname]
    cases hfind : es.find? t.name with
    | none =>
      rw [hfind] at hrest
      exact Eq.trans hrest (h.get_set_ne hs ht hname start b)
    | some n =>
      rw [hfind] at hrest
      exact hrest

/-- Entries that can be read fit the fields, and the fields hold what they say. -/
theorem readEntries_ok (h : Lawful slots) {seen : List String} {entries : List (Node × Node)}
    (hok : readEntries (slots.map Slot.field) d seen start entries = .ok r) :
    ∃ es : Entries, List.Forall₂ (Named d) entries es ∧ es.keys.Nodup ∧
      (∀ name ∈ es.keys, name ∉ seen) ∧ Fits slots d es ∧ ∀ s ∈ slots, s.Holds d es start r := by
  induction entries generalizing seen start with
  | nil =>
    cases hok
    exact ⟨[], .nil, List.nodup_nil, by simp, by simp [Fits], fun s _ => rfl⟩
  | cons entry rest ih =>
    obtain ⟨k, v⟩ := entry
    obtain ⟨s, hs, hkey, hseen, b, hb, hrest⟩ := (readEntries_cons h).mp hok
    obtain ⟨es, hnamed, hnodup, hfresh, hfits, hholds⟩ := ih hrest
    have hes : s.name ∉ es.keys := fun hmem => hfresh _ hmem List.mem_cons_self
    refine ⟨(s.name, v) :: es, .cons ⟨hkey, rfl⟩ hnamed, List.nodup_cons.mpr ⟨hes, hnodup⟩, ?_, ?_,
      Slot.Holds.cons h hs hb hes hholds⟩
    · exact List.forall_mem_cons.mpr ⟨hseen, fun name hname hmem =>
        hfresh name hname (List.mem_cons_of_mem _ hmem)⟩
    · exact List.forall_mem_cons.mpr ⟨⟨s, hs, rfl, b, hb⟩, hfits⟩

theorem readEntries_of_fits (h : Lawful slots) {seen : List String} {entries : List (Node × Node)}
    (hnamed : List.Forall₂ (Named d) entries es) (hnodup : es.keys.Nodup)
    (hseen : ∀ name ∈ es.keys, name ∉ seen) (hfits : Fits slots d es) (start : α) :
    ∃ r, readEntries (slots.map Slot.field) d seen start entries = .ok r := by
  induction hnamed generalizing seen start with
  | nil => exact ⟨start, rfl⟩
  | @cons entry entry' entries es hfirst _ ih =>
    obtain ⟨k, v⟩ := entry
    obtain ⟨name, v'⟩ := entry'
    obtain ⟨hkey, rfl⟩ := hfirst
    rw [Assoc.keys_cons] at hnodup hseen
    obtain ⟨⟨s, hs, rfl, b, hb⟩, hrest⟩ := List.forall_mem_cons.mp hfits
    obtain ⟨hes, hnodup⟩ := List.nodup_cons.mp hnodup
    obtain ⟨hnew, hseen⟩ := List.forall_mem_cons.mp hseen
    have hlater : ∀ name ∈ Assoc.keys es, name ∉ s.name :: seen := by
      intro name hmem hcons
      rcases List.mem_cons.mp hcons with rfl | hold
      · exact hes hmem
      · exact hseen name hmem hold
    obtain ⟨r, hr⟩ := ih hnodup hlater hrest (s.set start b)
    exact ⟨r, (readEntries_cons h).mpr ⟨s, hs, hkey, hnew, b, hb, hr⟩⟩

/-! ## Records -/

variable {expected : String} {n : Node}

/-- Entries that fit the fields are read. -/
theorem Mapped.exists_record (hes : Mapped d n es) (h : Lawful slots) (hfits : Fits slots d es) :
    ∃ r, record expected (slots.map Slot.field) start d n = .ok r := by
  obtain ⟨entries, hentries, hnamed, hnodup⟩ := hes
  have hnew : ∀ name ∈ es.keys, name ∉ [] := fun _ _ => List.not_mem_nil
  rw [record, hentries]
  exact readEntries_of_fits h hnamed hnodup hnew hfits start

/-- A record is read from an omitted node, which changes nothing, or from entries that fit. -/
theorem record_eq_ok_iff (h : Lawful slots) :
    record expected (slots.map Slot.field) start d n = .ok r ↔
      (isOmitted (d.resolve n) ∧ r = start) ∨
        ∃ es, Mapped d n es ∧ Fits slots d es ∧ ∀ s ∈ slots, s.Holds d es start r := by
  have hread : ∀ {r}, record expected (slots.map Slot.field) start d n = .ok r →
      (isOmitted (d.resolve n) ∧ r = start) ∨
        ∃ es, Mapped d n es ∧ Fits slots d es ∧ ∀ s ∈ slots, s.Holds d es start r := by
    intro r hok
    rw [record] at hok
    split at hok
    · next entries hentries =>
      obtain ⟨es, hnamed, hnodup, -, hfits, hholds⟩ := readEntries_ok h hok
      exact .inr ⟨es, ⟨entries, hentries, hnamed, hnodup⟩, hfits, hholds⟩
    · split_ifs at hok with homitted
      · cases hok
        exact .inl ⟨homitted, rfl⟩
      · exact absurd hok mismatch_ne_ok
  refine ⟨hread, ?_⟩
  rintro (⟨homitted, rfl⟩ | ⟨es, hes, hfits, hholds⟩)
  · rw [record]
    split
    · next hentries => simp [hentries, isOmitted] at homitted
    · rw [if_pos homitted]
  · have hsome : ∃ r', record expected (slots.map Slot.field) start d n = .ok r' :=
      hes.exists_record h hfits
    obtain ⟨r', hr'⟩ := hsome
    obtain ⟨es', hes', -, hholds'⟩ := (hread hr').resolve_left (hes.not_omitted ·.1)
    obtain rfl := hes.eq hes'
    rw [h.eq_of_holds hholds hholds', hr']

theorem Mapped.record_eq_ok_iff (hes : Mapped d n es) (h : Lawful slots) :
    record expected (slots.map Slot.field) start d n = .ok r ↔
      Fits slots d es ∧ ∀ s ∈ slots, s.Holds d es start r := by
  rw [Yaml.record_eq_ok_iff h]
  constructor
  · intro hread
    obtain ⟨es', hes', hread⟩ := hread.resolve_left (hes.not_omitted ·.1)
    rwa [hes.eq hes']
  · exact fun hread => .inr ⟨es, hes, hread⟩

theorem Mapped.exists_record_iff (hes : Mapped d n es) (h : Lawful slots) :
    (∃ r, record expected (slots.map Slot.field) start d n = .ok r) ↔ Fits slots d es := by
  constructor
  · rintro ⟨r, hr⟩
    exact ((hes.record_eq_ok_iff h).mp hr).1
  · exact hes.exists_record h

/-! ## Records that may be left out -/

/-- A node, if there is one, is a mapping with these entries, and without one there are none. -/
def Block (d : Document) (found : Option Node) (es : Entries) : Prop :=
  match found with
  | none => es = []
  | some n => Mapped d n es

variable {found : Option Node}

theorem Block.fits_iff (hblock : Block d found es) (h : Lawful slots) (expected : String)
    (start : α) : Fits slots d es ↔
      ∀ n, found = some n → ∃ r, record expected (slots.map Slot.field) start d n = .ok r := by
  cases found with
  | none =>
    obtain rfl : es = [] := hblock
    simp [Fits]
  | some n =>
    have hes : Mapped d n es := hblock
    simp only [Option.some.injEq, forall_eq', hes.exists_record_iff h]

/-- Without a node every field keeps what it began with. -/
theorem Block.decoded_iff (hblock : Block d found es) (h : Lawful slots)
    (hfits : Fits slots d es) :
    Decoded (record expected (slots.map Slot.field) start) d found start r ↔
      ∀ s ∈ slots, s.Holds d es start r := by
  cases found with
  | none =>
    obtain rfl : es = [] := hblock
    constructor
    · rintro rfl
      exact fun s _ => rfl
    · exact h.ext r start
  | some n =>
    have hes : Mapped d n es := hblock
    exact (hes.record_eq_ok_iff h).trans (and_iff_right hfits)

end Footprint.Yaml
