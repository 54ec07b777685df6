import Mathlib.Data.List.Nodup
import Mathlib.Data.BitVec

/- Messages as sequences of fields, each a tag of one byte and a payload. A reader takes the
   fields in any order, the last of a number counts, and it skips the tags it does not know. -/
namespace LaluneServer.TaggedFields

abbrev Bytes := List (BitVec 8)

/-- The sizes are ints. -/
def limit : Nat := 2 ^ 31

structure Codec (α : Type) where
  write : α → Bytes
  size : α → Nat
  read : Bytes → Option (α × Bytes)
  length_write : ∀ a, (write a).length < limit → (write a).length = size a
  read_write : ∀ a rest, (write a).length < limit → read (write a ++ rest) = some (a, rest)
  read_le : ∀ s a rest, read s = some (a, rest) → rest.length ≤ s.length

/-- How tags are read, 0 when there is none, and how the payload of an unknown one is skipped. -/
structure Tags where
  read : Bytes → Nat × Bytes
  skip : Nat → Bytes → Option Bytes
  read_byte : ∀ tag rest, 0 < tag → tag < 128 → read (BitVec.ofNat 8 tag :: rest) = (tag, rest)
  read_lt : ∀ b s, (read (b :: s)).1 ≠ 0 → (read (b :: s)).2.length ≤ s.length
  skip_le : ∀ tag s rest, skip tag s = some rest → rest.length ≤ s.length

/-- What a reader looks for behind a field: tags in this order, then the end. -/
structure Jumps where
  expects : List Nat
  atEnd : Bool

/-- A field of the messages M: what is written for it, and what an item does to the message
    that is being read. -/
structure Field (M : Type) where
  Item : Type
  tag : Nat
  codec : Codec Item
  items : M → List Item
  put : Item → M → M
  required : Bool
  jumps : Jumps

def ends (tag : Nat) : Prop := tag = 0 ∨ tag % 8 = 4

instance (tag : Nat) : Decidable (ends tag) := inferInstanceAs (Decidable (_ ∨ _))

def total (sizes : List Nat) : Nat := sizes.foldr (· + ·) 0

namespace Field
variable {M : Type}

section
variable (f : Field M) (m : M)

def writeItem (a : f.Item) : Bytes := BitVec.ofNat 8 f.tag :: f.codec.write a

def write : Bytes := (f.items m).flatMap f.writeItem

def byteSize : Nat := total ((f.items m).map fun a => 1 + f.codec.size a)

def load (into : M) : M := (f.items m).foldl (fun m a => f.put a m) into

end

section
variable {α : Type} (tag : Nat) (codec : Codec α)

def need (get : M → α) (put : α → M → M) (jumps : Jumps) : Field M :=
  ⟨α, tag, codec, fun m => [get m], put, true, jumps⟩

def may (get : M → Option α) (put : α → M → M) (jumps : Jumps) : Field M :=
  ⟨α, tag, codec, fun m => (get m).toList, put, false, jumps⟩

def accept (put : α → M → M) (jumps : Jumps) : Field M :=
  ⟨α, tag, codec, fun _ => [], put, false, jumps⟩

def many (get : M → List α) (set : List α → M → M) (jumps : Jumps) : Field M :=
  ⟨α, tag, codec, get, fun a m => set (get m ++ [a]) m, false, jumps⟩

end

end Field

section
variable {M : Type} (tags : Tags) (fields : List (Field M))

/-- A message that is being read, and the tags of the fields that it has. -/
abbrev Partial (M : Type) := M × List Nat

def Field.readItem (f : Field M) (p : Partial M) (s : Bytes) : Option (Partial M × Bytes) :=
  (f.codec.read s).map fun read => ((f.put read.1 p.1, f.tag :: p.2), read.2)

def fieldOf (tag : Nat) : Option (Field M) := fields.find? fun f => f.tag = tag

def parseLoop : Nat → Partial M → Bytes → Option (Partial M)
  | _, p, [] => some p
  | 0, _, _ => none
  | fuel + 1, p, b :: s =>
    let (tag, rest) := tags.read (b :: s)
    match fieldOf fields tag with
    | some f => (f.readItem p rest).bind fun read => parseLoop fuel read.1 read.2
    | none =>
      if ends tag then none
      else (tags.skip tag rest).bind fun rest => parseLoop fuel p rest

def initialized (p : Partial M) : Prop := ∀ f ∈ fields, f.required → f.tag ∈ p.2

instance (p : Partial M) : Decidable (initialized fields p) :=
  inferInstanceAs (Decidable (∀ _ ∈ _, _ → _))

def parse (empty : M) (s : Bytes) : Option M :=
  (parseLoop tags fields s.length (empty, []) s).bind fun p =>
    if initialized fields p then some p.1 else none

end

structure Message (M : Type) where
  empty : M
  fields : List (Field M)
  tagsFine : ∀ f ∈ fields, f.tag < 128 ∧ ¬ ends f.tag
  tagsApart : (fields.map Field.tag).Nodup
  commute : ∀ f ∈ fields, ∀ g ∈ fields, f.tag ≠ g.tag → ∀ m, f.items m ≠ [] → g.items m ≠ [] →
    ∀ a b into, f.put a (g.put b into) = g.put b (f.put a into)
  needed : ∀ f ∈ fields, f.required → ∀ m, f.items m ≠ []
  rebuild : ∀ m, fields.foldl (fun into f => f.load m into) empty = m

namespace Message
variable {M : Type} (message : Message M) (m : M)

def serialize : Bytes := message.fields.flatMap fun f => f.write m

def byteSize : Nat := total (message.fields.map fun f => f.byteSize m)

def parse (tags : Tags) : Bytes → Option M := TaggedFields.parse tags message.fields message.empty

end Message

/-- What stands in a stream for one round of the loop: a field, or a tag with its payload that
    is skipped. -/
inductive Chunk (M : Type) where
  | known (f : Field M) (a : f.Item)
  | unknown (tag : Nat) (front payload : Bytes)

namespace Chunk
variable {M : Type} (tags : Tags) (fields : List (Field M))

def tag : Chunk M → Nat
  | known f _ => f.tag
  | unknown tag _ _ => tag

def bytes : Chunk M → Bytes
  | known f a => f.writeItem a
  | unknown _ front payload => front ++ payload

def apply (p : Partial M) : Chunk M → Partial M
  | known f a => (f.put a p.1, f.tag :: p.2)
  | unknown _ _ _ => p

def put (m : M) : Chunk M → M
  | known f a => f.put a m
  | unknown _ _ _ => m

def named (tag : Nat) (chunk : Chunk M) : Bool := chunk.tag = tag

def Readable : Chunk M → Prop
  | known f a => f ∈ fields ∧ (f.codec.write a).length < limit
  | unknown tag front payload => front ≠ [] ∧ fieldOf fields tag = none ∧ ¬ ends tag ∧
      (∀ rest, tags.read (front ++ rest) = (tag, rest)) ∧
      ∀ rest, tags.skip tag (payload ++ rest) = some rest

end Chunk

theorem Field.load_many {M α : Type} {tag : Nat} {codec : Codec α} {get : M → List α}
    {set : List α → M → M} {jumps : Jumps} (got : ∀ items m, get (set items m) = items)
    (again : ∀ old items m, set items (set old m) = set items m) (same : ∀ m, set (get m) m = m)
    (m into : M) :
    (Field.many tag codec get set jumps).load m into = set (get into ++ get m) into := by
  have loaded (items : List α) (into : M) :
      items.foldl (fun m a => set (get m ++ [a]) m) into = set (get into ++ items) into := by
    induction items generalizing into with
    | nil => rw [List.append_nil, same, List.foldl_nil]
    | cons a rest ih =>
      rw [List.foldl_cons, ih, got, again, List.append_assoc]
      rfl
  exact loaded (get m) into

theorem length_le_flatMap {α : Type*} (write : α → Bytes) {items : List α} {a : α}
    (member : a ∈ items) : (write a).length ≤ (items.flatMap write).length := by
  obtain ⟨before, later, rfl⟩ := List.append_of_mem member
  simp only [List.flatMap_append, List.flatMap_cons, List.length_append]
  omega

theorem length_flatMap {α : Type*} (write : α → Bytes) (items : List α) :
    (items.flatMap write).length = total (items.map fun a => (write a).length) := by
  induction items with
  | nil => rfl
  | cons a rest ih =>
    rw [List.flatMap_cons, List.length_append, ih]
    rfl

section reading
variable {M : Type} {tags : Tags} {fields : List (Field M)} {p : Partial M}

theorem fieldOf_member {f : Field M} (apart : (fields.map Field.tag).Nodup) (member : f ∈ fields) :
    fieldOf fields f.tag = some f := by
  induction fields with
  | nil => contradiction
  | cons g rest ih =>
    rw [List.map_cons, List.nodup_cons] at apart
    unfold fieldOf
    rw [List.find?_cons]
    rcases List.mem_cons.mp member with rfl | later
    · simp
    · have other : g.tag ≠ f.tag := by
        intro same
        exact apart.1 (same ▸ List.mem_map_of_mem later)
      simp only [other, decide_false]
      exact ih apart.2 later

theorem fieldOf_ends {tag : Nat} (fine : ∀ f ∈ fields, ¬ ends f.tag) (last : ends tag) :
    fieldOf fields tag = none := by
  unfold fieldOf
  rw [List.find?_eq_none]
  intro f member same
  rw [decide_eq_true_eq] at same
  exact fine f member (same ▸ last)

/-- As many rounds as there are bytes are enough. -/
theorem parseLoop_enough (fine : ∀ f ∈ fields, ¬ ends f.tag) {fuel more : Nat} {s : Bytes}
    (enough : s.length ≤ fuel) (also : s.length ≤ more) (p : Partial M) :
    parseLoop tags fields fuel p s = parseLoop tags fields more p s := by
  induction fuel generalizing more s p with
  | zero =>
    obtain rfl := List.length_eq_zero_iff.mp (Nat.le_zero.mp enough)
    cases more <;> rfl
  | succ fuel ih =>
    cases s with
    | nil => cases more <;> rfl
    | cons b s =>
      obtain ⟨more, rfl⟩ := Nat.exists_eq_succ_of_ne_zero (Nat.ne_of_gt (Nat.zero_lt_of_lt also))
      have small : s.length ≤ fuel := Nat.le_of_succ_le_succ enough
      have small' : s.length ≤ more := Nat.le_of_succ_le_succ also
      have same {rest : Bytes} (less : rest.length ≤ s.length) (q : Partial M) :
          parseLoop tags fields fuel q rest = parseLoop tags fields more q rest :=
        ih (Nat.le_trans less small) (Nat.le_trans less small') q
      unfold parseLoop
      dsimp only
      by_cases zero : (tags.read (b :: s)).1 = 0
      · rw [zero, fieldOf_ends fine (Or.inl rfl)]
        rfl
      · have taken := tags.read_lt b s zero
        cases fieldOf fields (tags.read (b :: s)).1 with
        | some f =>
          cases read : f.codec.read (tags.read (b :: s)).2 with
          | none => simp [Field.readItem, read]
          | some item =>
            simp only [Field.readItem, read, Option.map_some, Option.bind_some]
            exact same (Nat.le_trans (f.codec.read_le _ _ _ read) taken) _
        | none =>
          dsimp only
          split
          · rfl
          · cases skipped : tags.skip (tags.read (b :: s)).1 (tags.read (b :: s)).2 with
            | none => rfl
            | some rest => exact same (Nat.le_trans (tags.skip_le _ _ _ skipped) taken) p

theorem parseLoop_tag {fuel : Nat} {s rest : Bytes} {tag : Nat} (nonempty : s ≠ [])
    (read : tags.read s = (tag, rest)) :
    parseLoop tags fields (fuel + 1) p s =
      match fieldOf fields tag with
      | some f => (f.readItem p rest).bind fun read => parseLoop tags fields fuel read.1 read.2
      | none =>
        if ends tag then none
        else (tags.skip tag rest).bind fun rest => parseLoop tags fields fuel p rest := by
  cases s with
  | nil => contradiction
  | cons b s =>
    rw [parseLoop, read]

theorem parseLoop_chunk {fuel : Nat} {chunk : Chunk M} (apart : (fields.map Field.tag).Nodup)
    (fine : ∀ f ∈ fields, f.tag < 128 ∧ ¬ ends f.tag) (readable : chunk.Readable tags fields)
    (rest : Bytes) : parseLoop tags fields (fuel + 1) p (chunk.bytes ++ rest) =
      parseLoop tags fields fuel (chunk.apply p) rest := by
  cases chunk with
  | known f a =>
    obtain ⟨member, short⟩ := readable
    obtain ⟨small, inside⟩ := fine f member
    have positive : 0 < f.tag := Nat.pos_of_ne_zero fun zero => inside (Or.inl zero)
    have front : tags.read ((Chunk.known f a).bytes ++ rest) =
        (f.tag, f.codec.write a ++ rest) := tags.read_byte f.tag _ positive small
    have nonempty : (Chunk.known f a).bytes ++ rest ≠ [] := List.cons_ne_nil _ _
    rw [parseLoop_tag nonempty front, fieldOf_member apart member]
    simp only [Field.readItem, f.codec.read_write a rest short]
    rfl
  | unknown tag front payload =>
    obtain ⟨nonempty, other, inside, read, skip⟩ := readable
    have first : tags.read ((Chunk.unknown tag front payload : Chunk M).bytes ++ rest) =
        (tag, payload ++ rest) := by
      rw [Chunk.bytes, List.append_assoc]
      exact read _
    rw [parseLoop_tag (by simp [Chunk.bytes, nonempty]) first, other]
    simp only [inside, ↓reduceIte, skip]
    rfl

theorem Chunk.bytes_pos {chunk : Chunk M} (readable : chunk.Readable tags fields) :
    0 < chunk.bytes.length := by
  cases chunk with
  | known f a => exact Nat.succ_pos _
  | unknown tag front payload =>
    have := List.length_pos_iff.mpr readable.1
    simp only [Chunk.bytes, List.length_append]
    omega

theorem parseLoop_chunks {fuel : Nat} {chunks : List (Chunk M)}
    (apart : (fields.map Field.tag).Nodup) (fine : ∀ f ∈ fields, f.tag < 128 ∧ ¬ ends f.tag)
    (readable : ∀ chunk ∈ chunks, chunk.Readable tags fields)
    (enough : (chunks.flatMap Chunk.bytes).length ≤ fuel) :
    parseLoop tags fields fuel p (chunks.flatMap Chunk.bytes) =
      some (chunks.foldl Chunk.apply p) := by
  induction chunks generalizing fuel p with
  | nil => cases fuel <;> rfl
  | cons chunk rest ih =>
    have first := readable chunk List.mem_cons_self
    have positive := Chunk.bytes_pos first
    rw [List.flatMap_cons] at enough ⊢
    rw [List.length_append] at enough
    obtain ⟨fuel, rfl⟩ : ∃ less, fuel = less + 1 := ⟨fuel - 1, by omega⟩
    rw [parseLoop_chunk apart fine first, List.foldl_cons]
    exact ih (fun other later => readable other (List.mem_cons_of_mem _ later)) (by omega)

theorem foldl_apply (chunks : List (Chunk M)) (p : Partial M) :
    (chunks.foldl Chunk.apply p).1 = chunks.foldl Chunk.put p.1 := by
  induction chunks generalizing p with
  | nil => rfl
  | cons chunk rest ih =>
    rw [List.foldl_cons, List.foldl_cons, ih]
    cases chunk <;> rfl

theorem tag_seen {f : Field M} {a : f.Item} {chunks : List (Chunk M)}
    (inside : Chunk.known f a ∈ chunks ∨ f.tag ∈ p.2) : f.tag ∈ (chunks.foldl Chunk.apply p).2 := by
  induction chunks generalizing p with
  | nil => exact inside.resolve_left List.not_mem_nil
  | cons chunk rest ih =>
    rw [List.foldl_cons]
    apply ih
    rcases inside with here | seen
    · rcases List.mem_cons.mp here with rfl | later
      · exact Or.inr List.mem_cons_self
      · exact Or.inl later
    · right
      cases chunk with
      | known g b => exact List.mem_cons_of_mem _ seen
      | unknown tag front payload => exact seen

end reading

theorem foldl_first {S C : Type*} (apply : S → C → S) (q : C → Bool) (cs : List C)
    (apart : ∀ c ∈ cs, ∀ d ∈ cs, q c = true → q d = false → ∀ s,
      apply (apply s c) d = apply (apply s d) c) (s : S) :
    cs.foldl apply s = (cs.filter fun c => ! q c).foldl apply ((cs.filter q).foldl apply s) := by
  induction cs generalizing s with
  | nil => rfl
  | cons c cs ih =>
    have later := ih (fun a here b there => apart a (List.mem_cons_of_mem _ here) b
      (List.mem_cons_of_mem _ there))
    rw [List.foldl_cons, later]
    by_cases first : q c = true
    · simp [first]
    · have moved (ds : List C) (sub : ∀ d ∈ ds, d ∈ cs ∧ q d = true) (s : S) :
          ds.foldl apply (apply s c) = apply (ds.foldl apply s) c := by
        induction ds generalizing s with
        | nil => rfl
        | cons d ds inner =>
          obtain ⟨member, picked⟩ := sub d List.mem_cons_self
          have swap := apart d (List.mem_cons_of_mem _ member) c List.mem_cons_self picked
            (Bool.eq_false_iff.mpr first) s
          rw [List.foldl_cons, List.foldl_cons, ← swap]
          exact inner (fun e there => sub e (List.mem_cons_of_mem _ there)) (apply s d)
      have picked := moved (cs.filter q) (fun d member => List.mem_filter.mp member) s
      simp [first, picked]

namespace Message
variable {M : Type} (message : Message M) {tags : Tags} {m : M}

def chunks (m : M) : List (Chunk M) :=
  message.fields.flatMap fun f => (f.items m).map (Chunk.known f)

theorem serialize_chunks : message.serialize m = (message.chunks m).flatMap Chunk.bytes := by
  unfold serialize chunks
  rw [List.flatMap_assoc]
  refine List.flatMap_congr fun f _ => ?_
  rw [Field.write, List.flatMap_map]
  rfl

theorem short_item (short : (message.serialize m).length < limit) {f : Field M}
    (field : f ∈ message.fields) {a : f.Item} (item : a ∈ f.items m) :
    (f.codec.write a).length < limit := by
  have inItem : (f.writeItem a).length = (f.codec.write a).length + 1 := List.length_cons
  have inField := length_le_flatMap f.writeItem item
  have inMessage := length_le_flatMap (fun f : Field M => f.write m) field
  unfold serialize at short
  unfold Field.write at inMessage short
  omega

theorem readable_chunks (short : (message.serialize m).length < limit) :
    ∀ chunk ∈ message.chunks m, chunk.Readable tags message.fields := by
  intro chunk member
  obtain ⟨f, field, inside⟩ := List.mem_flatMap.mp member
  obtain ⟨a, item, rfl⟩ := List.mem_map.mp inside
  exact ⟨field, message.short_item short field item⟩

/-- A stream of the fields of a message, in any order, and of tags that are skipped. -/
structure Streams (tags : Tags) (m : M) (chunks : List (Chunk M)) : Prop where
  readable : ∀ chunk ∈ chunks, chunk.Readable tags message.fields
  same : ∀ f ∈ message.fields,
    chunks.filter (Chunk.named f.tag) = (f.items m).map (Chunk.known f)

theorem foldl_put_known (f : Field M) (items : List f.Item) (into : M) :
    (items.map (Chunk.known f)).foldl Chunk.put into =
      items.foldl (fun m a => f.put a m) into := by
  rw [List.foldl_map]
  rfl

theorem items_of_chunk {f : Field M} {a : f.Item} {chunks : List (Chunk M)}
    (same : chunks.filter (Chunk.named f.tag) = (f.items m).map (Chunk.known f))
    (inside : Chunk.known f a ∈ chunks) : f.items m ≠ [] := by
  intro none
  have kept : Chunk.known f a ∈ chunks.filter (Chunk.named f.tag) :=
    List.mem_filter.mpr ⟨inside, decide_eq_true rfl⟩
  rw [same, none] at kept
  exact List.not_mem_nil kept

theorem foldl_put_fields {fields : List (Field M)} {chunks : List (Chunk M)}
    (sub : ∀ f ∈ fields, f ∈ message.fields) (apart : (fields.map Field.tag).Nodup)
    (known : ∀ f a, Chunk.known f a ∈ chunks → f ∈ fields)
    (other : ∀ tag front payload, Chunk.unknown tag front payload ∈ chunks →
      ∀ f ∈ message.fields, f.tag ≠ tag)
    (same : ∀ f ∈ fields, chunks.filter (Chunk.named f.tag) = (f.items m).map (Chunk.known f))
    (into : M) :
    chunks.foldl Chunk.put into = fields.foldl (fun into f => f.load m into) into := by
  induction fields generalizing chunks into with
  | nil =>
    induction chunks generalizing into with
    | nil => rfl
    | cons chunk rest ih =>
      cases chunk with
      | known f a => exact absurd (known f a List.mem_cons_self) List.not_mem_nil
      | unknown tag front payload =>
        exact ih (fun f a later => known f a (List.mem_cons_of_mem _ later))
          (fun t b p later => other t b p (List.mem_cons_of_mem _ later)) (by simp) into
  | cons f fields ih =>
    have field := sub f List.mem_cons_self
    rw [List.map_cons, List.nodup_cons] at apart
    have first := foldl_first Chunk.put (Chunk.named f.tag) chunks (by
      intro c here d there named apartTags s
      cases c with
      | unknown tag front payload =>
        exact absurd (of_decide_eq_true named).symm (other tag front payload here f field)
      | known g a =>
        cases d with
        | unknown tag front payload => rfl
        | known h b =>
          have sameTag : g.tag = f.tag := of_decide_eq_true named
          have differ : h.tag ≠ f.tag := of_decide_eq_false apartTags
          exact message.commute h (sub h (known h b there)) g (sub g (known g a here))
            (fun equal => differ (equal.trans sameTag)) m
            (items_of_chunk (same h (known h b there)) there)
            (items_of_chunk (same g (known g a here)) here) b a s) into
    have rest : (chunks.filter fun c => ! Chunk.named f.tag c).foldl Chunk.put (f.load m into) =
        fields.foldl (fun into f => f.load m into) (f.load m into) := ih
      (fun g later => sub g (List.mem_cons_of_mem _ later)) apart.2
      (by
        intro g a member
        obtain ⟨inside, different⟩ := List.mem_filter.mp member
        rcases List.mem_cons.mp (known g a inside) with rfl | later
        · simp [Chunk.named, Chunk.tag] at different
        · exact later)
      (fun tag front payload member => other tag front payload (List.mem_of_mem_filter member))
      (by
        intro g later
        have differ : g.tag ≠ f.tag := fun equal =>
          apart.1 (equal ▸ List.mem_map_of_mem later)
        rw [List.filter_filter, ← same g (List.mem_cons_of_mem _ later)]
        refine List.filter_congr fun c _ => ?_
        unfold Chunk.named
        by_cases here : c.tag = g.tag
        · simp [here, differ]
        · simp [here]) _
    rw [first, same f List.mem_cons_self, foldl_put_known, List.foldl_cons]
    exact rest

theorem parse_streams {chunks : List (Chunk M)} (streams : message.Streams tags m chunks) :
    message.parse tags (chunks.flatMap Chunk.bytes) = some m := by
  unfold parse TaggedFields.parse
  rw [parseLoop_chunks message.tagsApart message.tagsFine streams.readable (Nat.le_refl _)]
  have message_read : (chunks.foldl Chunk.apply (message.empty, [])).1 = m := by
    rw [foldl_apply, message.foldl_put_fields (fun f member => member) message.tagsApart
      (fun f a member => (streams.readable _ member).1) ?_ streams.same]
    · exact message.rebuild m
    · intro tag front payload member f field equal
      have none := (streams.readable _ member).2.1
      rw [← equal, fieldOf_member message.tagsApart field] at none
      contradiction
  have ready : initialized message.fields (chunks.foldl Chunk.apply (message.empty, [])) := by
    intro f field required
    obtain ⟨a, rest, items⟩ := List.exists_cons_of_ne_nil (message.needed f field required m)
    refine tag_seen (a := a) (Or.inl ?_)
    refine List.mem_of_mem_filter (p := Chunk.named f.tag) ?_
    rw [streams.same f field, items]
    exact List.mem_cons_self
  rw [Option.bind_some, if_pos ready, message_read]

theorem filter_known (f g : Field M) (items : List g.Item) :
    (items.map (Chunk.known g)).filter (Chunk.named f.tag) =
      if g.tag = f.tag then items.map (Chunk.known g) else [] := by
  split
  · rename_i same
    refine List.filter_eq_self.mpr fun c member => ?_
    obtain ⟨a, _, rfl⟩ := List.mem_map.mp member
    exact decide_eq_true same
  · rename_i differ
    refine List.filter_eq_nil_iff.mpr fun c member => ?_
    obtain ⟨a, _, rfl⟩ := List.mem_map.mp member
    exact fun named => differ (of_decide_eq_true named)

theorem filter_chunks {fields : List (Field M)} (apart : (fields.map Field.tag).Nodup)
    {f : Field M} (member : f ∈ fields) :
    (fields.flatMap fun g => (g.items m).map (Chunk.known g)).filter (Chunk.named f.tag) =
      (f.items m).map (Chunk.known f) := by
  induction fields with
  | nil => contradiction
  | cons g rest ih =>
    rw [List.map_cons, List.nodup_cons] at apart
    rw [List.flatMap_cons, List.filter_append, filter_known]
    rcases List.mem_cons.mp member with rfl | later
    · have none : (rest.flatMap fun g => (g.items m).map (Chunk.known g)).filter
          (Chunk.named f.tag) = [] := by
        refine List.filter_eq_nil_iff.mpr fun c inside named => ?_
        obtain ⟨h, field, item⟩ := List.mem_flatMap.mp inside
        obtain ⟨a, _, rfl⟩ := List.mem_map.mp item
        exact apart.1 (List.mem_map.mpr ⟨h, field, of_decide_eq_true named⟩)
      rw [none, if_pos rfl, List.append_nil]
    · have differ : g.tag ≠ f.tag := fun same => apart.1 (same ▸ List.mem_map_of_mem later)
      rw [if_neg differ, List.nil_append]
      exact ih apart.2 later

theorem streams_chunks (short : (message.serialize m).length < limit) :
    message.Streams tags m (message.chunks m) :=
  ⟨message.readable_chunks short, fun _ field => filter_chunks message.tagsApart field⟩

theorem parse_serialize (tags : Tags) (short : (message.serialize m).length < limit) :
    message.parse tags (message.serialize m) = some m := by
  rw [serialize_chunks]
  exact message.parse_streams (message.streams_chunks short)

theorem length_serialize (short : (message.serialize m).length < limit) :
    (message.serialize m).length = message.byteSize m := by
  have items {f : Field M} (field : f ∈ message.fields) :
      (f.write m).length = f.byteSize m := by
    rw [Field.write, Field.byteSize, length_flatMap]
    congr 1
    refine List.map_congr_left fun a item => ?_
    rw [Field.writeItem, List.length_cons, Nat.add_comm,
      f.codec.length_write a (message.short_item short field item)]
  rw [serialize, byteSize, length_flatMap]
  exact congrArg total (List.map_congr_left fun f field => items field)

/-- The bound on the rounds is never what ends a reader. -/
theorem parse_rounds (tags : Tags) {s : Bytes} {fuel : Nat} (enough : s.length ≤ fuel) :
    message.parse tags s = (parseLoop tags message.fields fuel (message.empty, []) s).bind fun p =>
      if initialized message.fields p then some p.1 else none := by
  rw [parseLoop_enough (fun f member => (message.tagsFine f member).2) enough (Nat.le_refl _)]
  rfl

end Message

end LaluneServer.TaggedFields
