import LaluneServer.Lib.TaggedFields

/- A reader that guesses which field comes next and jumps to it. -/
namespace LaluneServer.TaggedFields

variable {M : Type}

structure Delimiter extends Codec Bytes where
  sizeOf : Nat → Nat
  size_eq : ∀ bytes, size bytes = sizeOf bytes.length
  contains : ∀ bytes, bytes.length ≤ (write bytes).length

/-- Guesses of what comes next, which may miss. -/
structure Expect where
  tag : Nat → Bytes → Bool
  atEnd : Bytes → Bool
  tag_sound : ∀ n s, tag n s = true → s.head? = some (BitVec.ofNat 8 n)
  atEnd_sound : ∀ s, atEnd s = true → s = []

variable (tags : Tags) (expect : Expect) (fields : List (Field M))

def jump (f : Field M) (s : Bytes) : Option (Field M) :=
  f.jumps.expects.findSome? fun tag => if expect.tag tag s then fieldOf fields tag else none

def fieldBody (go : Option (Field M) → Partial M → Bytes → Option (Partial M))
    (f : Field M) (p : Partial M) (s : Bytes) : Option (Partial M) :=
  (f.readItem p s).bind fun read =>
    match jump expect fields f read.2 with
    | some g => go (some g) read.1 (read.2.drop 1)
    | none =>
      if f.jumps.atEnd ∧ expect.atEnd read.2 then some read.1
      else go none read.1 read.2

def jumpLoop : Nat → Option (Field M) → Partial M → Bytes → Option (Partial M)
  | _, none, p, [] => some p
  | 0, _, _, _ => none
  | fuel + 1, some f, p, s => fieldBody expect fields (jumpLoop fuel) f p s
  | fuel + 1, none, p, b :: s =>
    let (tag, rest) := tags.read (b :: s)
    match fieldOf fields tag with
    | some f => fieldBody expect fields (jumpLoop fuel) f p rest
    | none =>
      if ends tag then none
      else (tags.skip tag rest).bind fun rest => jumpLoop fuel none p rest

def Message.jumpParse {M : Type} (message : Message M) (tags : Tags) (expect : Expect)
    (s : Bytes) : Option M :=
  (jumpLoop tags expect message.fields s.length none (message.empty, []) s).bind fun p =>
    if initialized message.fields p then some p.1 else none

variable {tags expect fields}

theorem jump_spec {f g : Field M} {s : Bytes} (found : jump expect fields f s = some g) :
    g ∈ fields ∧ s = BitVec.ofNat 8 g.tag :: s.drop 1 := by
  obtain ⟨tag, _, guessed⟩ := List.exists_of_findSome?_eq_some found
  rw [Option.ite_none_right_eq_some] at guessed
  obtain ⟨guess, field⟩ := guessed
  have same : g.tag = tag :=
    of_decide_eq_true (List.find?_some (p := fun (f : Field M) => decide (f.tag = tag)) field)
  have head := expect.tag_sound tag s guess
  refine ⟨List.mem_of_find?_eq_some field, ?_⟩
  cases s with
  | nil => contradiction
  | cons b s =>
    cases head
    rw [same]
    rfl

theorem fieldBody_eq {fuel : Nat}
    {go : Option (Field M) → Partial M → Bytes → Option (Partial M)}
    (plain : ∀ p s, go none p s = parseLoop tags fields fuel p s)
    (label : ∀ g ∈ fields, ∀ p s, go (some g) p s =
      parseLoop tags fields fuel p (BitVec.ofNat 8 g.tag :: s))
    (f : Field M) (p : Partial M) (s : Bytes) : fieldBody expect fields go f p s =
      (f.readItem p s).bind fun read => parseLoop tags fields fuel read.1 read.2 := by
  unfold fieldBody
  refine congrArg (Option.bind _) (funext fun read => ?_)
  cases found : jump expect fields f read.2 with
  | some g =>
    obtain ⟨inside, front⟩ := jump_spec found
    dsimp only
    rw [label g inside, ← front]
  | none =>
    dsimp only
    split
    · rename_i last
      rw [expect.atEnd_sound _ last.2]
      cases fuel <;> rfl
    · exact plain _ _

/-- The jumps change nothing, whatever is guessed. -/
theorem jumpLoop_eq (fine : ∀ f ∈ fields, f.tag < 128 ∧ ¬ ends f.tag)
    (apart : (fields.map Field.tag).Nodup) (fuel : Nat) :
    (∀ p s, jumpLoop tags expect fields fuel none p s = parseLoop tags fields fuel p s) ∧
      ∀ g ∈ fields, ∀ p s, jumpLoop tags expect fields fuel (some g) p s =
        parseLoop tags fields fuel p (BitVec.ofNat 8 g.tag :: s) := by
  induction fuel with
  | zero =>
    refine ⟨fun p s => ?_, fun g _ p s => rfl⟩
    cases s <;> rfl
  | succ fuel ih =>
    have body (f : Field M) (p : Partial M) (s : Bytes) :
        fieldBody expect fields (jumpLoop tags expect fields fuel) f p s = _ :=
      fieldBody_eq ih.1 ih.2 f p s
    refine ⟨fun p s => ?_, fun g member p s => ?_⟩
    · cases s with
      | nil => rfl
      | cons b s =>
        rw [jumpLoop, parseLoop]
        dsimp only
        cases found : fieldOf fields (tags.read (b :: s)).1 with
        | some f => exact body f p _
        | none =>
          dsimp only
          simp only [ih.1]
    · obtain ⟨small, inside⟩ := fine g member
      have positive : 0 < g.tag := Nat.pos_of_ne_zero fun zero => inside (Or.inl zero)
      have front := tags.read_byte g.tag s positive small
      rw [jumpLoop, body, parseLoop_tag (List.cons_ne_nil _ _) front,
        fieldOf_member apart member]

theorem Message.jumpParse_eq (message : Message M) (tags : Tags) (expect : Expect) (s : Bytes) :
    message.jumpParse tags expect s = message.parse tags s := by
  unfold Message.jumpParse Message.parse TaggedFields.parse
  rw [(jumpLoop_eq message.tagsFine message.tagsApart s.length).1]

namespace Message
variable (message : Message M)

theorem jumpParse_serialize (tags : Tags) (expect : Expect) {m : M}
    (short : (message.serialize m).length < limit) :
    message.jumpParse tags expect (message.serialize m) = some m := by
  rw [jumpParse_eq]
  exact message.parse_serialize tags short

def embedded (tags : Tags) (expect : Expect) (delimiter : Delimiter) : Codec M where
  write m := delimiter.write (message.serialize m)
  size m := delimiter.sizeOf (message.byteSize m)
  read s := (delimiter.read s).bind fun read =>
    (message.jumpParse tags expect read.1).map fun m => (m, read.2)
  length_write m short := by
    have inner := Nat.lt_of_le_of_lt (delimiter.contains (message.serialize m)) short
    rw [delimiter.length_write _ short, delimiter.size_eq, message.length_serialize inner]
  read_write m rest short := by
    have inner := Nat.lt_of_le_of_lt (delimiter.contains (message.serialize m)) short
    rw [delimiter.read_write _ rest short, Option.bind_some,
      message.jumpParse_serialize tags expect inner]
    rfl
  read_le s m rest read := by
    obtain ⟨payload, framed, parsed⟩ := Option.bind_eq_some_iff.mp read
    obtain ⟨m, _, same⟩ := Option.map_eq_some_iff.mp parsed
    cases same
    exact delimiter.read_le _ _ _ framed

theorem embedded_expect (tags : Tags) (expect other : Expect) (delimiter : Delimiter) :
    message.embedded tags expect delimiter = message.embedded tags other delimiter := by
  unfold embedded
  simp only [jumpParse_eq]

end Message

end LaluneServer.TaggedFields
