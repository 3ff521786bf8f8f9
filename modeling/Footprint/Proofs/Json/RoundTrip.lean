import Footprint.Proofs.Json.Number
import Footprint.Proofs.Json.Text

/-!
# Printed values, read back

Reading what has been printed gives the same value, but for its real numbers: each of them is what
its own digits are read as, and one that is not finite has no digits. The shape has to be one that
its text determines: a record's fields have different names, and what is optional is never printed
as the absent value.
-/
namespace Footprint.Json

open Reader

/-! ## Shapes whose text determines the value -/

/-- Some value of the shape may be printed as the absent value. -/
def Shape.isNullable : Shape → Bool
  | .real | .optional _ => true
  | _ => false

def Fields.names : Fields → List String
  | .nil => []
  | .cons name _ rest => name :: rest.names

mutual

def Shape.isSound : Shape → Bool
  | .real | .word32 | .word64 | .text => true
  | .list item | .quad item => item.isSound
  | .optional item => item.isSound && !item.isNullable
  | .record _ fields => fields.isSound

def Fields.isSound : Fields → Bool
  | .nil => true
  | .cons name shape rest => name ∉ rest.names && shape.isSound && rest.isSound

end

mutual

/-- What a value is read back as, or the fault of its first number that cannot be read. -/
def Shape.reread : (s : Shape) → s.Value → Except Error s.Value
  | .real, v => Reader.reread v
  | .word32, n => .ok n
  | .word64, n => .ok n
  | .text, s => .ok s
  | .list item, vs => List.mapM item.reread vs
  | .quad item, q => do
    let a ← item.reread q.a
    let b ← item.reread q.b
    let c ← item.reread q.c
    let d ← item.reread q.d
    .ok ⟨a, b, c, d⟩
  | .optional _, none => .ok none
  | .optional item, some v => (item.reread v).map some
  | .record _ fields, vs => fields.reread vs

def Fields.reread : (fs : Fields) → fs.Value → Except Error fs.Value
  | .nil, () => .ok ()
  | .cons _ shape rest, (v, vs) => do
    let v ← shape.reread v
    let vs ← rest.reread vs
    .ok (v, vs)

end

/-! ## Parts between brackets -/

section Parts

open Printer (newline block)

/-- What follows an opening bracket, or one of the parts: the other parts, the closing bracket and
the rest of the text. -/
def partsFrom (closing : Char) (depth : ℕ) (rest : List Char) : Bool → List (List Char) → List Char
  | true, [] => closing :: rest
  | false, [] => newline depth ++ closing :: rest
  | first, p :: ps =>
    (if first then [] else [',']) ++ newline (depth + 1) ++ (p ++ partsFrom closing depth rest false ps)

theorem block_append (opening closing : Char) (depth : ℕ) (parts : List (List Char))
    (rest : List Char) :
    block opening closing depth parts ++ rest =
      opening :: partsFrom closing depth rest true parts := by
  have htail : ∀ p ps, List.intercalate [','] ((p :: ps).map (newline (depth + 1) ++ ·)) ++
      (newline depth ++ closing :: rest) =
        newline (depth + 1) ++ (p ++ partsFrom closing depth rest false ps) := by
    intro p ps
    induction ps generalizing p with
    | nil => simp [partsFrom]
    | cons q ps ih =>
      have h := ih q
      simp only [List.map_cons] at h ⊢
      rw [List.intercalate_cons_cons, List.append_assoc, List.append_assoc, h]
      simp [partsFrom]
  cases parts with
  | nil => rfl
  | cons p ps =>
    have h := htail p ps
    simp only [block, List.cons_ne_nil, if_false, List.cons_append, List.append_assoc, partsFrom,
      if_true, List.nil_append]
    rw [← h]

theorem endsValue_partsFrom (closing : Char) (depth : ℕ) (rest : List Char)
    (parts : List (List Char)) : EndsValue (partsFrom closing depth rest false parts) := by
  cases parts with
  | nil => exact .inr ⟨'\n', _, rfl, .inr rfl⟩
  | cons p ps => exact .inr ⟨',', _, rfl, .inl rfl⟩

theorem length_le_partsFrom (closing : Char) (depth : ℕ) (rest : List Char) (first : Bool)
    (parts : List (List Char)) :
    parts.length ≤ (partsFrom closing depth rest first parts).length := by
  induction parts generalizing first with
  | nil => simp
  | cons p ps ih =>
    have h := ih false
    simp only [partsFrom, newline, List.length_append, List.length_cons]
    omega

/-- Nothing that is printed begins with a space or a closing bracket, and only what may be absent
begins like the absent value. -/
def Opens (nullable : Bool) (p : List Char) : Prop :=
  ∃ c r, p = c :: r ∧ isSpace c = false ∧ c ≠ ']' ∧ (c = 'n' → nullable = true)

theorem skipSpace_newline (depth : ℕ) (cs : List Char) :
    skipSpace (newline depth ++ cs) = skipSpace cs := by
  have hspaces : ∀ n, skipSpace (List.replicate n ' ' ++ cs) = skipSpace cs := by
    intro n
    induction n with
    | zero => rfl
    | succ n ih => exact ih
  exact hspaces (2 * depth)

theorem Opens.skipSpace {nullable : Bool} {p : List Char} (h : Opens nullable p) (cs : List Char) :
    skipSpace (p ++ cs) = p ++ cs := by
  obtain ⟨c, r, rfl, hspace, -⟩ := h
  simp [Reader.skipSpace, hspace]

/-! ## Lists -/

variable {depth : ℕ} {rest : List Char} {first : Bool}

theorem nextItem_nil : nextItem first (partsFrom ']' depth rest first []) =
    .ok (false, ']' :: rest) := by
  have hskip : skipSpace (partsFrom ']' depth rest first []) = ']' :: rest := by
    cases first with
    | true => rfl
    | false => exact skipSpace_newline depth _
  simp [nextItem, hskip]

theorem nextItem_cons {nullable : Bool} {p : List Char} (hp : Opens nullable p) (ps : List (List Char)) :
    nextItem first (partsFrom ']' depth rest first (p :: ps)) =
      .ok (true, p ++ partsFrom ']' depth rest false ps) := by
  have hskip := skipSpace_newline (depth + 1) (p ++ partsFrom ']' depth rest false ps)
  rw [hp.skipSpace] at hskip
  obtain ⟨c, r, rfl, hspace, hbracket, -⟩ := hp
  rw [List.cons_append] at hskip ⊢
  cases first with
  | true => simp [nextItem, partsFrom, hskip, hbracket]
  | false =>
    have hcomma : skipSpace (',' :: (newline (depth + 1) ++
        (c :: r ++ partsFrom ']' depth rest false ps))) = ',' :: (newline (depth + 1) ++
        (c :: r ++ partsFrom ']' depth rest false ps)) := rfl
    simp only [nextItem, partsFrom, Bool.false_eq_true, if_false, List.cons_append, List.nil_append]
      at hcomma ⊢
    simp [hcomma, hskip, hbracket]

theorem endList_partsFrom : endList (partsFrom ']' depth rest false []) = .ok rest := by
  have hskip : skipSpace (partsFrom ']' depth rest false []) = ']' :: rest :=
    skipSpace_newline depth _
  simp [endList, hskip]

/-- Each item is read before the next one, up to the first that cannot be read. -/
theorem items_partsFrom {α β : Type} {item : Reader α} {print : β → List Char}
    {result : β → Except Error α} {nullable : Bool} {vs : List β}
    (hitem : ∀ v, Opens nullable (print v) ∧
      ∀ rest, EndsValue rest → item (print v ++ rest) = (result v).map (·, rest))
    {fuel : ℕ} (hfuel : vs.length < fuel) :
    items item fuel first (partsFrom ']' depth rest first (vs.map print)) =
      (vs.mapM result).map (·, ']' :: rest) := by
  induction vs generalizing fuel first with
  | nil =>
    obtain ⟨fuel, rfl⟩ : ∃ f, fuel = f + 1 := ⟨fuel - 1, by simp at hfuel; omega⟩
    simp [items, nextItem_nil, bind, Except.bind, Except.map, pure, Except.pure]
  | cons v vs ih =>
    obtain ⟨fuel, rfl⟩ : ∃ f, fuel = f + 1 := ⟨fuel - 1, by simp at hfuel; omega⟩
    obtain ⟨hopens, hread⟩ := hitem v
    have hlen : vs.length < fuel := by simpa using hfuel
    have hrest : items item fuel false _ = _ := ih hlen
    simp only [List.map_cons, items, nextItem_cons hopens, bind, Except.bind,
      hread _ (endsValue_partsFrom ..), List.mapM_cons]
    cases result v with
    | error e => rfl
    | ok u =>
      simp only [Except.map, hrest]
      cases vs.mapM result <;> rfl

theorem itemAt_partsFrom {α : Type} {item : Reader α} {nullable : Bool} {p : List Char}
    {r : Except Error α} (hopens : Opens nullable p) (hread : ∀ rest, EndsValue rest → item (p ++ rest) = r.map (·, rest))
    (index : ℕ) (expected : String) (ps : List (List Char)) :
    itemAt item index expected (partsFrom ']' depth rest (index = 0) (p :: ps)) =
      r.map (·, partsFrom ']' depth rest false ps) := by
  simp only [itemAt, nextItem_cons hopens, bind, Except.bind]
  exact hread _ (endsValue_partsFrom ..)

/-! ## Objects -/

theorem nextKey_nil : nextKey first (partsFrom '\x7d' depth rest first []) =
    .ok (none, '\x7d' :: rest) := by
  have hskip : skipSpace (partsFrom '\x7d' depth rest first []) = '\x7d' :: rest := by
    cases first with
    | true => rfl
    | false => exact skipSpace_newline depth _
  simp [nextKey, hskip]

theorem nextKey_cons (name : String) (value : List Char) (ps : List (List Char)) :
    nextKey first (partsFrom '\x7d' depth rest first
      ((Printer.text name ++ ':' :: ' ' :: value) :: ps)) =
      .ok (some name, ':' :: ' ' :: (value ++ partsFrom '\x7d' depth rest false ps)) := by
  let after := ':' :: ' ' :: (value ++ partsFrom '\x7d' depth rest false ps)
  have htext : Printer.text name ++ ':' :: ' ' :: value ++ partsFrom '\x7d' depth rest false ps =
      '"' :: (name.toList.flatMap Printer.escapeChar ++ '"' :: after) := by
    simp [Printer.text, after]
  have hskip : skipSpace (newline (depth + 1) ++ '"' ::
      (name.toList.flatMap Printer.escapeChar ++ '"' :: after)) =
        '"' :: (name.toList.flatMap Printer.escapeChar ++ '"' :: after) :=
    skipSpace_newline (depth + 1) _
  have hkey : nextKey.key (name.toList.flatMap Printer.escapeChar ++ '"' :: after) =
      .ok (some name, after) := by
    simp only [nextKey.key, closeText_escaped, bind, Except.bind]
  cases first with
  | true => simp [nextKey, partsFrom, htext, hskip, hkey, after]
  | false =>
    have hcomma : ∀ cs, skipSpace (',' :: cs) = ',' :: cs := fun _ => rfl
    simp [nextKey, partsFrom, htext, hcomma, hskip, hkey, after]

end Parts

/-! ## Where values begin -/

theorem opens_digit {p : List Char} (nullable : Bool) {c : Char} {r : List Char} (hp : p = c :: r)
    (hc : isDigit c = true) : Opens nullable p := by
  refine ⟨c, r, hp, isSpace_of_isDigit hc, ?_, ?_⟩ <;> rintro rfl <;> cases hc

theorem opens_real (v : Float) : Opens true (Printer.real v) := by
  rw [Printer.real]
  split_ifs with hfinite
  · rw [Number.Style.chars_of_finite _ hfinite]
    obtain ⟨c, r, hcs, hc⟩ := Number.Style.plotData.head_decimalText
      (Number.shortest Number.Style.plotData.tie (Number.magnitude v))
    cases Number.isNegative v with
    | true => exact ⟨'-', _, rfl, rfl, by decide, by decide⟩
    | false => exact opens_digit true hcs hc
  · exact ⟨'n', _, rfl, rfl, by decide, fun _ => rfl⟩

theorem opens_toDigits (n : ℕ) : Opens false (Nat.toDigits 10 n) := by
  obtain ⟨d, ds, hdigits⟩ := List.exists_cons_of_ne_nil (Nat.toDigits_ne_nil (b := 10) (n := n))
  exact opens_digit false hdigits (Number.isDigit_toDigits n d (hdigits ▸ List.mem_cons_self))

theorem opens_block {opening : Char} (closing : Char) (depth : ℕ) (parts : List (List Char))
    (hspace : isSpace opening = false) (hbracket : opening ≠ ']') (hn : opening ≠ 'n') :
    Opens false (Printer.block opening closing depth parts) := by
  have h := block_append opening closing depth parts []
  rw [List.append_nil] at h
  exact ⟨opening, _, h, hspace, hbracket, fun heq => absurd heq hn⟩

theorem Shape.opens_print : (s : Shape) → (depth : ℕ) → (v : s.Value) →
    Opens s.isNullable (s.print depth v)
  | .real, _, v => opens_real v
  | .word32, _, n => opens_toDigits (UInt32.toNat n)
  | .word64, _, n => opens_toDigits (UInt64.toNat n)
  | .text, _, _ => ⟨'"', _, rfl, rfl, by decide, by decide⟩
  | .list _, depth, _ => opens_block ']' depth _ rfl (by decide) (by decide)
  | .quad _, depth, _ => opens_block ']' depth _ rfl (by decide) (by decide)
  | .optional _, _, none => ⟨'n', _, rfl, rfl, by decide, fun _ => rfl⟩
  | .optional item, depth, some v =>
    have ⟨c, r, hprint, hspace, hbracket, _⟩ := item.opens_print depth v
    ⟨c, r, hprint, hspace, hbracket, fun _ => rfl⟩
  | .record _ _, depth, _ => opens_block '\x7d' depth _ rfl (by decide) (by decide)

/-- A space in front of a value does not matter. -/
theorem Shape.read_space : (s : Shape) → (cs : List Char) → s.read (' ' :: cs) = s.read cs
  | .real, _ => rfl
  | .word32, _ => rfl
  | .word64, _ => rfl
  | .text, _ => rfl
  | .list _, _ => rfl
  | .quad _, _ => rfl
  | .optional item, cs => by
    have h := item.read_space cs
    simp only [Shape.read]
    rw [h]
    rfl
  | .record _ _, _ => rfl

/-! ## Reading what has been printed -/

/-- All fields of a record, as they are found in an object. -/
def Fields.filled : (fs : Fields) → fs.Value → fs.Slots
  | .nil, () => ()
  | .cons _ _ rest, (v, vs) => (some v, rest.filled vs)

theorem Fields.complete_filled : (fs : Fields) → (vs : fs.Value) →
    fs.complete (fs.filled vs) = .ok vs
  | .nil, () => rfl
  | .cons _ _ rest, (v, vs) => by
    simp only [Fields.filled, Fields.complete, rest.complete_filled vs, bind, Except.bind]

theorem Fields.length_print : (fs : Fields) → (depth : ℕ) → (vs : fs.Value) →
    (fs.print depth vs).length = fs.size
  | .nil, _, () => rfl
  | .cons _ _ rest, depth, (_, vs) => by
    simp only [Fields.print, List.length_cons, rest.length_print depth vs, Fields.size]

/-- A printed value is read as the value with its numbers reread, whatever follows it. -/
def Shape.RoundTrips (s : Shape) : Prop := ∀ depth v rest, EndsValue rest →
  s.read (s.print depth v ++ rest) = (s.reread v).map (·, rest)

/-- The members of an object give the fields in their order. Here `member` reads into a record of
which these are the last fields. -/
def Fields.RoundTrip (fs : Fields) : Prop :=
  ∀ {σ : Type} (put : fs.Slots → σ) (member : String → σ → Reader σ),
    (∀ key ∈ fs.names, ∀ slots cs, member key (put slots) cs =
      (fs.readMember key slots cs).map fun p => (put p.1, p.2)) →
    ∀ depth vs rest first fuel, fs.size < fuel →
      members member fuel first (put fs.empty)
          (partsFrom '\x7d' depth rest first (fs.print (depth + 1) vs)) =
        (fs.reread vs).map fun us => (put (fs.filled us), '\x7d' :: rest)

theorem Shape.RoundTrips.list {item : Shape} (h : item.RoundTrips) : (Shape.list item).RoundTrips := by
  intro depth (vs : List item.Value) rest _
  have hitem : ∀ v : item.Value, Opens item.isNullable (item.print (depth + 1) v) ∧
      ∀ rest, EndsValue rest →
        item.read (item.print (depth + 1) v ++ rest) = (item.reread v).map (·, rest) :=
    fun v => ⟨item.opens_print (depth + 1) v, h (depth + 1) v⟩
  let r := partsFrom ']' depth rest true (vs.map (item.print (depth + 1)))
  have hprint : (Shape.list item).print depth vs ++ rest = '[' :: r := block_append ..
  have hread : (Shape.list item).read ('[' :: r) = (items item.read (r.length + 1) true r >>=
      fun p => endList p.2 >>= fun r => .ok (p.1, r)) := rfl
  have hlen : vs.length < r.length + 1 := by
    have hle := length_le_partsFrom ']' depth rest true (vs.map (item.print (depth + 1)))
    rw [List.length_map] at hle
    exact Nat.lt_succ_of_le hle
  have hreread : (Shape.list item).reread vs = List.mapM item.reread vs := rfl
  rw [hprint, hread, items_partsFrom hitem hlen, hreread]
  cases List.mapM item.reread vs <;> rfl

theorem Shape.RoundTrips.quad {item : Shape} (h : item.RoundTrips) : (Shape.quad item).RoundTrips := by
  intro depth (q : Quad item.Value) rest _
  let print := item.print (depth + 1)
  let expected := "an array of length 4"
  have hat : ∀ v index ps, itemAt item.read index expected
      (partsFrom ']' depth rest (index = 0) (print v :: ps)) =
        (item.reread v).map (·, partsFrom ']' depth rest false ps) := fun v index ps =>
    itemAt_partsFrom (item.opens_print (depth + 1) v) (h (depth + 1) v) index expected ps
  let r := partsFrom ']' depth rest true [print q.a, print q.b, print q.c, print q.d]
  have hprint : (Shape.quad item).print depth q ++ rest = '[' :: r := block_append ..
  have hread : (Shape.quad item).read ('[' :: r) = (itemAt item.read 0 expected r >>= fun a =>
      itemAt item.read 1 expected a.2 >>= fun b => itemAt item.read 2 expected b.2 >>= fun c =>
      itemAt item.read 3 expected c.2 >>= fun d => endList d.2 >>= fun r =>
        .ok (⟨a.1, b.1, c.1, d.1⟩, r)) := rfl
  have ha : itemAt item.read 0 expected r = _ := hat q.a 0 [print q.b, print q.c, print q.d]
  have hb : itemAt item.read 1 expected _ = _ := hat q.b 1 [print q.c, print q.d]
  have hc : itemAt item.read 2 expected _ = _ := hat q.c 2 [print q.d]
  have hd : itemAt item.read 3 expected _ = _ := hat q.d 3 []
  have hnot : ∀ n : ℕ, decide (n + 1 = 0) = false := fun _ => rfl
  simp only [hnot] at hb hc hd
  have hreread : (Shape.quad item).reread q = (item.reread q.a >>= fun a =>
      item.reread q.b >>= fun b => item.reread q.c >>= fun c => item.reread q.d >>= fun d =>
        .ok ⟨a, b, c, d⟩) := rfl
  rw [hprint, hread, ha, hreread]
  cases item.reread q.a with
  | error e => rfl
  | ok a =>
    simp only [Except.map, bind, Except.bind, hb]
    cases item.reread q.b with
    | error e => rfl
    | ok b =>
      simp only [Except.map, hc]
      cases item.reread q.c with
      | error e => rfl
      | ok c =>
        simp only [Except.map, hd]
        cases item.reread q.d with
        | error e => rfl
        | ok d => simp only [endList_partsFrom]

theorem Shape.RoundTrips.optional {item : Shape} (h : item.RoundTrips)
    (hnullable : item.isNullable = false) : (Shape.optional item).RoundTrips := by
  intro depth v rest hrest
  match (v : Option item.Value) with
  | none => rfl
  | some v =>
    obtain ⟨c, r, hprint, hspace, -, hn⟩ := item.opens_print depth v
    have hc : c ≠ 'n' := fun heq => by
      rw [hnullable] at hn
      cases hn heq
    have hskip : skipSpace (item.print depth v ++ rest) = c :: (r ++ rest) := by
      simp [skipSpace, hprint, hspace]
    have hread : (Shape.optional item).read (item.print depth v ++ rest) =
        (item.read (item.print depth v ++ rest) >>= fun p => .ok (some p.1, p.2)) := by
      simp only [Shape.read, hskip]
      split
      · next heq => cases heq; exact absurd rfl hc
      · rfl
    have hsame : (Shape.optional item).print depth (some v) = item.print depth v := by
      rw [Shape.print]
    rw [hsame, hread, h depth v rest hrest, Shape.reread]
    cases item.reread v <;> rfl

theorem Fields.RoundTrip.record {fields : Fields} (h : fields.RoundTrip) (name : String) :
    (Shape.record name fields).RoundTrips := by
  intro depth (vs : fields.Value) rest _
  let r := partsFrom '\x7d' depth rest true (fields.print (depth + 1) vs)
  have hprint : (Shape.record name fields).print depth vs ++ rest = '\x7b' :: r := block_append ..
  have hread : (Shape.record name fields).read ('\x7b' :: r) =
      (members fields.readMember (r.length + 1) true fields.empty r >>= fun p =>
        fields.complete p.1 >>= fun v => endObject p.2 >>= fun r => .ok (v, r)) := rfl
  have hlen : fields.size < r.length + 1 := by
    have hle := length_le_partsFrom '\x7d' depth rest true (fields.print (depth + 1) vs)
    rw [fields.length_print] at hle
    exact Nat.lt_succ_of_le hle
  have hself : ∀ key ∈ fields.names, ∀ slots cs, fields.readMember key (id slots) cs =
      (fields.readMember key slots cs).map fun p => (id p.1, p.2) := by
    intro key _ slots cs
    rw [id]
    cases fields.readMember key slots cs <;> rfl
  have hmembers : members fields.readMember (r.length + 1) true fields.empty r =
      (fields.reread vs).map fun us => (fields.filled us, '\x7d' :: rest) :=
    h id fields.readMember hself depth vs rest true (r.length + 1) hlen
  have hreread : (Shape.record name fields).reread vs = fields.reread vs := rfl
  rw [hprint, hread, hmembers, hreread]
  cases fields.reread vs with
  | error e => rfl
  | ok us =>
    simp only [Except.map, bind, Except.bind, fields.complete_filled]
    rfl

theorem Fields.roundTrip_nil : Fields.nil.RoundTrip := by
  intro σ put member _ depth vs rest first fuel hfuel
  obtain ⟨fuel, rfl⟩ : ∃ f, fuel = f + 1 := ⟨fuel - 1, by simp [Fields.size] at hfuel; omega⟩
  have hkey : nextKey first (partsFrom '\x7d' depth rest first (Fields.nil.print (depth + 1) vs)) =
      .ok (none, '\x7d' :: rest) := nextKey_nil
  simp only [members, hkey, bind, Except.bind]
  rfl

theorem Fields.RoundTrip.cons {name : String} {shape : Shape} {tail : Fields}
    (hname : name ∉ tail.names) (hshape : shape.RoundTrips) (htail : tail.RoundTrip) :
    (Fields.cons name shape tail).RoundTrip := by
  intro σ put member hmember depth (v, vs) rest first fuel hfuel
  obtain ⟨fuel, rfl⟩ : ∃ f, fuel = f + 1 := ⟨fuel - 1, by simp [Fields.size] at hfuel; omega⟩
  have hlen : tail.size < fuel := by simpa [Fields.size] using hfuel
  let next := partsFrom '\x7d' depth rest false (tail.print (depth + 1) vs)
  let value := shape.print (depth + 1) v
  have hends : EndsValue next := endsValue_partsFrom ..
  have hkey : nextKey first (partsFrom '\x7d' depth rest first
      ((Fields.cons name shape tail).print (depth + 1) (v, vs))) =
        .ok (some name, ':' :: ' ' :: (value ++ next)) := nextKey_cons name value _
  let slots (u : shape.Value) : (Fields.cons name shape tail).Slots := (some u, tail.empty)
  have hvalue : (Fields.cons name shape tail).readMember name (Fields.cons name shape tail).empty
      (':' :: ' ' :: (value ++ next)) = (shape.reread v).map fun u => (slots u, next) := by
    have hread := (shape.read_space (value ++ next)).trans (hshape (depth + 1) v next hends)
    have hcolon : colon (':' :: ' ' :: (value ++ next)) = .ok (' ' :: (value ++ next)) := rfl
    simp only [Fields.empty, Fields.readMember, if_true, hcolon, bind, Except.bind, hread]
    cases shape.reread v <;> rfl
  have hreread : (Fields.cons name shape tail).reread (v, vs) = (shape.reread v >>= fun u =>
      tail.reread vs >>= fun us => .ok (u, us)) := rfl
  simp only [members, hkey, bind, Except.bind]
  rw [hmember name List.mem_cons_self, hvalue, hreread]
  cases shape.reread v with
  | error e => rfl
  | ok u =>
    -- The other fields are read into a record that has this one.
    have hput : ∀ key ∈ tail.names, ∀ slots cs, member key (put (some u, slots)) cs =
        (tail.readMember key slots cs).map fun p => (put (some u, p.1), p.2) := by
      intro key hmem slots cs
      have hne : key ≠ name := fun heq => hname (heq ▸ hmem)
      refine (hmember key (List.mem_cons_of_mem name hmem) (some u, slots) cs).trans ?_
      simp only [Fields.readMember, if_neg hne, bind, Except.bind]
      cases tail.readMember key slots cs <;> rfl
    have hrest := htail (fun slots => put (some u, slots)) member hput depth vs rest false fuel hlen
    simp only [Except.map, bind, Except.bind]
    rw [hrest]
    cases tail.reread vs <;> rfl

mutual

/-- Reading inverts printing up to the numbers, for every shape whose text determines the value. -/
theorem Shape.roundTrips : (s : Shape) → s.isSound = true → s.RoundTrips
  | .real, _ => fun _ v _ h => real_append v h
  | .word32, _ => fun _ n rest h => by
    have hread := word_append (UInt32.toNat_lt n) (by decide) "u32" h
    have hself : (UInt32.toNat n).toUInt32 = n := UInt32.ofNat_toNat
    simp only [Shape.read, Shape.print, hread, bind, Except.bind, hself]
    rfl
  | .word64, _ => fun _ n rest h => by
    have hread := word_append (UInt64.toNat_lt n) (by decide) "usize" h
    have hself : (UInt64.toNat n).toUInt64 = n := UInt64.ofNat_toNat
    simp only [Shape.read, Shape.print, hread, bind, Except.bind, hself]
    rfl
  | .text, _ => fun _ s rest _ => text_append s rest
  | .list item, hs => (item.roundTrips hs).list
  | .quad item, hs => (item.roundTrips hs).quad
  | .optional item, hs => by
    simp only [Shape.isSound, Bool.and_eq_true, Bool.not_eq_true'] at hs
    exact (item.roundTrips hs.1).optional hs.2
  | .record name fields, hs => Fields.RoundTrip.record (fields.roundTrip hs) name

theorem Fields.roundTrip : (fs : Fields) → fs.isSound = true → fs.RoundTrip
  | .nil, _ => Fields.roundTrip_nil
  | .cons name shape tail, hs => by
    simp only [Fields.isSound, Bool.and_eq_true, decide_eq_true_eq] at hs
    exact Fields.RoundTrip.cons hs.1.1 (shape.roundTrips hs.1.2) (tail.roundTrip hs.2)

end

/-- A whole text. -/
theorem Shape.parse_render {s : Shape} (hs : s.isSound = true) (v : s.Value) :
    s.parse (s.render v) = s.reread v := by
  have hread := s.roundTrips hs 0 v [] (.inl rfl)
  rw [List.append_nil] at hread
  simp only [Shape.parse, Shape.render, String.toList_ofList, hread]
  cases s.reread v <;> rfl

/-! ## Values that come back as they were -/

mutual

/-- The real numbers inside a value. -/
def Shape.reals : (s : Shape) → s.Value → List Float
  | .real, v => [v]
  | .word32, _ => []
  | .word64, _ => []
  | .text, _ => []
  | .list item, vs => List.flatMap item.reals vs
  | .quad item, q => item.reals q.a ++ item.reals q.b ++ item.reals q.c ++ item.reals q.d
  | .optional _, none => []
  | .optional item, some v => item.reals v
  | .record _ fields, vs => fields.reals vs

def Fields.reals : (fs : Fields) → fs.Value → List Float
  | .nil, () => []
  | .cons _ shape rest, (v, vs) => shape.reals v ++ rest.reals vs

end

section Results

variable {α β : Type}

theorem mapM_eq_ok_iff {f : α → Except Error β} {vs : List α} {ws : List β} :
    vs.mapM f = .ok ws ↔ List.Forall₂ (fun v w => f v = .ok w) vs ws := by
  induction vs generalizing ws with
  | nil => simp [pure, Except.pure, eq_comm]
  | cons v vs ih =>
    rw [List.mapM_cons, List.forall₂_cons_left_iff]
    simp only [← ih]
    cases f v with
    | error e => simp [bind, Except.bind]
    | ok u => cases vs.mapM f <;> simp [bind, Except.bind, pure, Except.pure, eq_comm]

theorem pair_eq_ok_iff (r : Except Error α) (t : Except Error β) (a : α) (b : β) :
    (r >>= fun u => t >>= fun w => .ok (u, w)) = .ok (a, b) ↔ r = .ok a ∧ t = .ok b := by
  cases r <;> cases t <;> simp [bind, Except.bind]

theorem quad_eq_ok_iff (r s t u : Except Error α) (a b c d : α) :
    (r >>= fun a => s >>= fun b => t >>= fun c => u >>= fun d => .ok (⟨a, b, c, d⟩ : Quad α)) =
      .ok ⟨a, b, c, d⟩ ↔ r = .ok a ∧ s = .ok b ∧ t = .ok c ∧ u = .ok d := by
  cases r <;> cases s <;> cases t <;> cases u <;> simp [bind, Except.bind]

theorem map_some_eq_ok_iff (r : Except Error α) (a : α) :
    r.map some = .ok (some a) ↔ r = .ok a := by
  cases r <;> simp [Except.map]

end Results

mutual

/-- A value comes back as it was when each of its real numbers does. -/
theorem Shape.reread_eq_self_iff : (s : Shape) → (v : s.Value) →
    (s.reread v = .ok v ↔ ∀ x ∈ s.reals v, Reader.reread x = .ok x)
  | .real, (v : Float) => by
    have h : (∀ x ∈ [v], Reader.reread x = .ok x) ↔ Reader.reread v = .ok v := by simp
    exact h.symm
  | .word32, _ => iff_of_true rfl fun _ h => (List.not_mem_nil h).elim
  | .word64, _ => iff_of_true rfl fun _ h => (List.not_mem_nil h).elim
  | .text, _ => iff_of_true rfl fun _ h => (List.not_mem_nil h).elim
  | .list item, (vs : List item.Value) => by
    have hall : (∀ x ∈ vs.flatMap item.reals, Reader.reread x = .ok x) ↔
        ∀ v ∈ vs, item.reread v = .ok v := by
      simp only [item.reread_eq_self_iff, List.forall_mem_flatMap]
    exact mapM_eq_ok_iff.trans (List.forall₂_same.trans hall.symm)
  | .quad item, (⟨a, b, c, d⟩ : Quad item.Value) => by
    have hall : (∀ x ∈ item.reals a ++ item.reals b ++ item.reals c ++ item.reals d,
        Reader.reread x = .ok x) ↔ item.reread a = .ok a ∧ item.reread b = .ok b ∧
          item.reread c = .ok c ∧ item.reread d = .ok d := by
      simp only [item.reread_eq_self_iff, List.forall_mem_append, and_assoc]
    exact (quad_eq_ok_iff _ _ _ _ a b c d).trans hall.symm
  | .optional _, none => iff_of_true rfl fun _ h => (List.not_mem_nil h).elim
  | .optional item, some v => (map_some_eq_ok_iff _ v).trans (item.reread_eq_self_iff v)
  | .record _ fields, vs => fields.reread_eq_self_iff vs

theorem Fields.reread_eq_self_iff : (fs : Fields) → (vs : fs.Value) →
    (fs.reread vs = .ok vs ↔ ∀ x ∈ fs.reals vs, Reader.reread x = .ok x)
  | .nil, () => iff_of_true rfl fun _ h => (List.not_mem_nil h).elim
  | .cons _ shape rest, (v, vs) => by
    have hall : (∀ x ∈ shape.reals v ++ rest.reals vs, Reader.reread x = .ok x) ↔
        shape.reread v = .ok v ∧ rest.reread vs = .ok vs := by
      rw [List.forall_mem_append, shape.reread_eq_self_iff, rest.reread_eq_self_iff]
    exact (pair_eq_ok_iff _ _ v vs).trans hall.symm

end

end Footprint.Json
