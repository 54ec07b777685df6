import LaluneServer.Pvp.Terminal

/- What the two bitmaps of a terminal mean. Messages carry their position in the
   sender's stream as a ghost next to the payload; no function reads it. -/
namespace LaluneServer.Pvp
open SkipZero BitWindow

variable {Data : Type*}

def position (message : PvpMessage (Nat × Data)) : Nat := (message.data.map Prod.fst).getD 0

def TakesEffect (t : PvpTerminal Data) (ackNo : BitVec 16) (ackBits : BitVec 32)
    (i : Nat) : Prop :=
  0 ≤ diffBetweenSequenceNumbers t.seqNo (ackNo.setWidth 32) ∧
  i + (diffBetweenSequenceNumbers t.seqNo (ackNo.setWidth 32)).toNat < 32 ∧
  t.remoteAckBits.getLsbD
    (i + (diffBetweenSequenceNumbers t.seqNo (ackNo.setWidth 32)).toNat) = false ∧
  ackBits.getLsbD i = true

/-- No wrap of the numbers lies between the newest packet sent, the packet acked
    by ackNo and those acked by the bits that take effect. -/
def WrapFree (t : PvpTerminal Data) (ackNo : BitVec 16) (ackBits : BitVec 32) : Prop :=
  ∀ i, i < 32 → TakesEffect t ackNo ackBits i → ackNo ≤ t.seqNo ∧ i < ackNo.toNat

instance (t : PvpTerminal Data) (ackNo : BitVec 16) (ackBits : BitVec 32) (i : Nat) :
    Decidable (TakesEffect t ackNo ackBits i) :=
  inferInstanceAs (Decidable (_ ∧ _ ∧ _ ∧ _))

instance (t : PvpTerminal Data) (ackNo : BitVec 16) (ackBits : BitVec 32) :
    Decidable (WrapFree t ackNo ackBits) :=
  inferInstanceAs (Decidable (∀ i, i < 32 → _ → _ ∧ _))

/-- A zero bit of remoteAckBits is a packet that is still kept for resending. -/
structure SenderWindow (start sent : Nat) (t : PvpTerminal (Nat × Data)) : Prop where
  start_pos : 0 < start
  started : start ≤ sent
  seqNo : t.seqNo = seqNumber sent
  numbered : ∀ m ∈ t.sentMessage, start < position m ∧ position m ≤ sent ∧
    sent < position m + 32 ∧ m.seqNo = (seqNumber (position m)).setWidth 32
  distinct : (t.sentMessage.map position).Nodup
  window : ∀ i, i < 32 →
    (t.remoteAckBits.getLsbD i = false ↔ ∃ m ∈ t.sentMessage, sent = position m + i)

/-- A one bit of ackBits is a received packet, counted in slots. -/
structure ReceiverWindow (start newest : Nat) (received : List Nat)
    (t : PvpTerminal Data) : Prop where
  started : start ≤ newest
  ackNo : t.ackNo = seqNumber newest
  bounds : ∀ p ∈ received, start < p ∧ p ≤ newest
  distinct : received.Nodup
  last : newest = start ∨ newest ∈ received
  window : Tracks t.ackBits (wireSlot newest)
    (fun s => ∃ p, (p = start ∨ p ∈ received) ∧ s = wireSlot p)

theorem setWidth_roundtrip (x : BitVec 16) : (x.setWidth 32).setWidth 16 = x := by
  apply BitVec.eq_of_toNat_eq
  simp only [BitVec.toNat_setWidth]
  have := x.isLt
  omega

theorem top_bit_mask (bits : BitVec 32) :
    bits &&& 0x80000000 = 0 ↔ bits.getLsbD 31 = false := by
  exact mask_clear_iff (w := 32) (i := 31) (by decide) bits

theorem eraseP_of_distinct {α β : Type*} [DecidableEq β] (f : α → β) (key : β) (l : List α)
    (distinct : (l.map f).Nodup) (p : α → Bool) (agrees : ∀ x ∈ l, p x = decide (f x = key)) :
    l.eraseP p = l.filter (fun x => f x ≠ key) := by
  induction l with
  | nil => rfl
  | cons x xs ih =>
    obtain ⟨fresh, nodup⟩ := List.nodup_cons.mp (List.map_cons ▸ distinct)
    have tail := ih nodup (fun y hy => agrees y (List.mem_cons_of_mem x hy))
    have head := agrees x (by simp)
    by_cases hit : f x = key
    · have others : ∀ y ∈ xs, f y ≠ key := by
        intro y hy same
        exact fresh (by rw [hit, ← same]; exact List.mem_map_of_mem hy)
      rw [List.eraseP_cons_of_pos (by simp [head, hit])]
      rw [List.filter_cons_of_neg (by simp [hit])]
      exact (List.filter_eq_self.mpr (fun y hy => by simpa using others y hy)).symm
    · rw [List.eraseP_cons_of_neg (by simp [head, hit]),
        List.filter_cons_of_pos (by simp [hit]), tail]

theorem acknowledgeBit_effective {t : PvpTerminal Data} {no : BitVec 16} {bits : BitVec 32}
    {i diff : Nat} (inside : i + diff < 32)
    (clear : t.remoteAckBits.getLsbD (i + diff) = false) (acked : bits.getLsbD i = true) :
    acknowledgeBit no bits diff t i = dropMessage
      { t with remoteAckBits := t.remoteAckBits ||| 1#32 <<< (i + diff) }
      (prevSeqNo no (BitVec.ofNat 16 i)) := by
  unfold acknowledgeBit
  refine if_pos ⟨(mask_clear_iff inside _).mpr clear, ?_⟩
  intro none
  rw [(mask_clear_iff (by omega) _).mp none] at acked
  contradiction

theorem acknowledgeBit_idle {t : PvpTerminal Data} {no : BitVec 16} {bits : BitVec 32}
    {i diff : Nat} (inside : i + diff < 32)
    (idle : ¬ (t.remoteAckBits.getLsbD (i + diff) = false ∧ bits.getLsbD i = true)) :
    acknowledgeBit no bits diff t i = t := by
  unfold acknowledgeBit
  rw [if_neg]
  rintro ⟨clear, acked⟩
  refine idle ⟨(mask_clear_iff inside _).mp clear, ?_⟩
  cases bit : bits.getLsbD i
  · exact absurd ((mask_clear_iff (by omega) _).mpr bit) acked
  · rfl

section sender
variable {start sent : Nat} {t : PvpTerminal (Nat × Data)}

theorem carriesNo_iff (w : SenderWindow start sent t) {m : PvpMessage (Nat × Data)}
    (mem : m ∈ t.sentMessage) {p : Nat} (pos : 0 < p) (le : p ≤ sent) (near : sent < p + 32) :
    carriesNo (seqNumber p) m = decide (position m = p) := by
  obtain ⟨after, before, close, number⟩ := w.numbered m mem
  have started := w.start_pos
  simp only [carriesNo, number, setWidth_roundtrip]
  congr 1
  apply propext
  constructor
  · exact seqNumber_injective_near (by omega) pos (by omega) (by omega)
  · intro same
    rw [same]

theorem numberMessage_window (w : SenderWindow start sent t)
    (free : t.remoteAckBits.getLsbD 31 = true) (message : PvpMessage (Nat × Data))
    (rest : List (PvpMessage (Nat × Data))) (next : position message = sent + 1) :
    SenderWindow start (sent + 1) (numberMessage t message rest).2 := by
  have pos : position (numberMessage t message rest).1 = sent + 1 := next
  have room : ∀ m ∈ t.sentMessage, sent + 1 < position m + 32 := by
    intro m mem
    have close := (w.numbered m mem).2.2.1
    rcases Nat.lt_or_ge (sent + 1) (position m + 32) with lt | ge
    · exact lt
    · have full := (w.window 31 (by decide)).mpr ⟨m, mem, by omega⟩
      rw [free] at full
      contradiction
  have started := w.started
  refine ⟨w.start_pos, by omega, ?_, ?_, ?_, ?_⟩
  · rw [numberMessage_seqNo, w.seqNo, next_seqNumber]
  · intro m mem
    rw [numberMessage_sentMessage] at mem
    rcases List.mem_append.mp mem with old | new
    · obtain ⟨after, before, _, number⟩ := w.numbered m old
      exact ⟨after, by omega, room m old, number⟩
    · rw [List.mem_singleton.mp new, pos, numberMessage_wireNo, w.seqNo, next_seqNumber]
      exact ⟨by omega, by omega, by omega, rfl⟩
  · rw [numberMessage_sentMessage, List.map_append, List.nodup_append]
    refine ⟨w.distinct, by simp, ?_⟩
    intro p hp q hq
    obtain ⟨m, mem, rfl⟩ := List.mem_map.mp hp
    have before := (w.numbered m mem).2.1
    have new : q = sent + 1 := by simpa [pos] using hq
    omega
  · intro i hi
    have shifted := getLsbD_shift t.remoteAckBits 1 hi
    rw [numberMessage_sentMessage, numberMessage_remoteAckBits]
    constructor
    · intro clear
      by_cases zero : i = 0
      · exact ⟨_, List.mem_append_right _ (List.mem_singleton_self _), by omega⟩
      · have below : t.remoteAckBits.getLsbD (i - 1) = false := by
          cases bit : t.remoteAckBits.getLsbD (i - 1)
          · rfl
          · rw [shifted.mpr ⟨by omega, bit⟩] at clear
            contradiction
        obtain ⟨m, mem, place⟩ := (w.window (i - 1) (by omega)).mp below
        exact ⟨m, List.mem_append_left _ mem, by omega⟩
    · rintro ⟨m, mem, place⟩
      cases bit : (t.remoteAckBits <<< 1).getLsbD i
      · rfl
      · obtain ⟨le, low⟩ := shifted.mp bit
        rcases List.mem_append.mp mem with old | new
        · have clear := (w.window (i - 1) (by omega)).mpr ⟨m, old, by omega⟩
          rw [clear] at low
          contradiction
        · rw [List.mem_singleton.mp new, pos] at place
          omega

theorem SenderWindow.of_same_keys (w : SenderWindow start sent t) {u : PvpTerminal (Nat × Data)}
    (seqNo : u.seqNo = t.seqNo) (bits : u.remoteAckBits = t.remoteAckBits)
    (keys : u.sentMessage.map (fun m => (position m, m.seqNo)) =
      t.sentMessage.map (fun m => (position m, m.seqNo))) : SenderWindow start sent u := by
  have back : ∀ m ∈ u.sentMessage, ∃ k ∈ t.sentMessage,
      position k = position m ∧ k.seqNo = m.seqNo := by
    intro m mem
    have key : (position m, m.seqNo) ∈ t.sentMessage.map (fun m => (position m, m.seqNo)) :=
      keys ▸ List.mem_map_of_mem mem
    obtain ⟨k, old, same⟩ := List.mem_map.mp key
    exact ⟨k, old, Prod.mk.inj same⟩
  have forth : ∀ k ∈ t.sentMessage, ∃ m ∈ u.sentMessage, position m = position k := by
    intro k old
    have key : (position k, k.seqNo) ∈ u.sentMessage.map (fun m => (position m, m.seqNo)) :=
      keys ▸ List.mem_map_of_mem old
    obtain ⟨m, mem, same⟩ := List.mem_map.mp key
    exact ⟨m, mem, (Prod.mk.inj same).1⟩
  have positions : u.sentMessage.map position = t.sentMessage.map position := by
    simpa [Function.comp_def] using congrArg (List.map Prod.fst) keys
  refine ⟨w.start_pos, w.started, seqNo.trans w.seqNo, ?_, positions ▸ w.distinct, ?_⟩
  · intro m mem
    obtain ⟨k, old, place, number⟩ := back m mem
    rw [← place, ← number]
    exact w.numbered k old
  · intro i hi
    rw [bits, w.window i hi]
    constructor
    · rintro ⟨k, old, place⟩
      obtain ⟨m, mem, same⟩ := forth k old
      exact ⟨m, mem, by omega⟩
    · rintro ⟨m, mem, place⟩
      obtain ⟨k, old, same, _⟩ := back m mem
      exact ⟨k, old, by omega⟩

theorem acknowledgeBit_window (w : SenderWindow start sent t) {p i diff : Nat}
    {no : BitVec 16} {bits : BitVec 32} (inside : i + diff < 32) (place : sent = p + (i + diff))
    (number : prevSeqNo no (BitVec.ofNat 16 i) = seqNumber p)
    (clear : t.remoteAckBits.getLsbD (i + diff) = false) (acked : bits.getLsbD i = true) :
    acknowledgeBit no bits diff t i = { t with
      remoteAckBits := t.remoteAckBits ||| 1#32 <<< (i + diff)
      sentMessage := t.sentMessage.filter (fun m => position m ≠ p) } ∧
    SenderWindow start sent (acknowledgeBit no bits diff t i) := by
  obtain ⟨m, mem, at_m⟩ := (w.window (i + diff) inside).mp clear
  have after := (w.numbered m mem).1
  have started := w.start_pos
  have dropped : t.sentMessage.eraseP (carriesNo (seqNumber p)) =
      t.sentMessage.filter (fun m => position m ≠ p) :=
    eraseP_of_distinct position p _ w.distinct _ (fun k old =>
      carriesNo_iff w old (by omega) (by omega) (by omega))
  have shape : acknowledgeBit no bits diff t i = { t with
      remoteAckBits := t.remoteAckBits ||| 1#32 <<< (i + diff)
      sentMessage := t.sentMessage.filter (fun m => position m ≠ p) } := by
    rw [acknowledgeBit_effective inside clear acked, number]
    simp only [dropMessage, dropped]
  refine ⟨shape, ?_⟩
  rw [shape]
  refine ⟨w.start_pos, w.started, w.seqNo, ?_, ?_, ?_⟩
  · intro k kept
    exact w.numbered k (List.mem_of_mem_filter kept)
  · exact List.Nodup.sublist (List.Sublist.map _ List.filter_sublist) w.distinct
  · intro j hj
    have marked := getLsbD_mark t.remoteAckBits inside j
    have before := w.window j hj
    constructor
    · intro zero
      have other : j ≠ i + diff := by
        intro same
        rw [marked.mpr (Or.inr same)] at zero
        contradiction
      have old : t.remoteAckBits.getLsbD j = false := by
        cases bit : t.remoteAckBits.getLsbD j
        · rfl
        · rw [marked.mpr (Or.inl bit)] at zero
          contradiction
      obtain ⟨k, kept, at_k⟩ := before.mp old
      exact ⟨k, List.mem_filter.mpr ⟨kept, by simp; omega⟩, at_k⟩
    · rintro ⟨k, kept, at_k⟩
      obtain ⟨old, different⟩ := List.mem_filter.mp kept
      have zero := before.mpr ⟨k, old, at_k⟩
      cases bit : (t.remoteAckBits ||| 1#32 <<< (i + diff)).getLsbD j
      · rfl
      · rcases marked.mp bit with one | same
        · rw [zero] at one
          contradiction
        · simp only [ne_eq, decide_not, Bool.not_eq_eq_eq_not, Bool.not_true,
            decide_eq_false_iff_not] at different
          omega

structure Acknowledged (start sent : Nat) (acked : Nat → Prop)
    (t u : PvpTerminal (Nat × Data)) : Prop where
  window : SenderWindow start sent u
  frame : u = { t with remoteAckBits := u.remoteAckBits, sentMessage := u.sentMessage }
  bits : ∀ i, t.remoteAckBits.getLsbD i = true → u.remoteAckBits.getLsbD i = true
  kept : ∀ m ∈ u.sentMessage, m ∈ t.sentMessage
  dropped : ∀ m ∈ t.sentMessage, m ∉ u.sentMessage → acked (position m)

theorem acknowledged_turns (acked : Nat → Prop) {u : PvpTerminal (Nat × Data)}
    {no : BitVec 16} {bits : BitVec 32} {diff : Nat} (turns : List Nat)
    (effect : ∀ i ∈ turns, i + diff < 32 ∧
      (t.remoteAckBits.getLsbD (i + diff) = false → bits.getLsbD i = true →
        ∃ p, sent = p + (i + diff) ∧ prevSeqNo no (BitVec.ofNat 16 i) = seqNumber p ∧ acked p))
    (done : Acknowledged start sent acked t u) :
    Acknowledged start sent acked t (turns.foldl (acknowledgeBit no bits diff) u) := by
  induction turns generalizing u with
  | nil => exact done
  | cons i turns ih =>
    rw [List.foldl_cons]
    refine ih (fun j hj => effect j (List.mem_cons_of_mem i hj)) ?_
    obtain ⟨inside, turn⟩ := effect i (by simp)
    by_cases active : u.remoteAckBits.getLsbD (i + diff) = false ∧ bits.getLsbD i = true
    · obtain ⟨clear, one⟩ := active
      have clearBefore : t.remoteAckBits.getLsbD (i + diff) = false := by
        cases bit : t.remoteAckBits.getLsbD (i + diff)
        · rfl
        · rw [done.bits _ bit] at clear
          contradiction
      obtain ⟨p, place, number, got⟩ := turn clearBefore one
      obtain ⟨shape, window⟩ := acknowledgeBit_window done.window inside place number clear one
      refine ⟨window, ?_, ?_, ?_, ?_⟩
      · rw [shape, done.frame]
      · intro j bit
        rw [shape]
        exact (getLsbD_mark _ inside j).mpr (Or.inl (done.bits j bit))
      · intro m mem
        rw [shape] at mem
        exact done.kept m (List.mem_of_mem_filter mem)
      · intro m mem gone
        by_cases still : m ∈ u.sentMessage
        · have at_p : position m = p := by
            by_contra different
            exact gone (shape ▸ List.mem_filter.mpr ⟨still, by simpa using different⟩)
          rw [at_p]
          exact got
        · exact done.dropped m mem still
    · rw [acknowledgeBit_idle inside active]
      exact done

theorem updateRemoteAckBits_window (w : SenderWindow start sent t) {newest : Nat}
    (pos : 0 < newest) (le : newest ≤ sent) (near : sent ≤ newest + 2048) {bits : BitVec 32}
    (clean : WrapFree t (seqNumber newest) bits) :
    Acknowledged start sent
      (fun p => ∃ i, i < 32 ∧ bits.getLsbD i = true ∧ wireSlot newest = wireSlot p + i)
      t (updateRemoteAckBits t (seqNumber newest) bits) := by
  have order := wireSlot_lower le
  have difference : diffBetweenSequenceNumbers t.seqNo ((seqNumber newest).setWidth 32) =
      (wireSlot sent : Int) - wireSlot newest := by
    rw [w.seqNo]
    exact diff_close near (by omega)
  have untouched : Acknowledged start sent
      (fun p => ∃ i, i < 32 ∧ bits.getLsbD i = true ∧ wireSlot newest = wireSlot p + i) t t :=
    ⟨w, rfl, fun _ bit => bit, fun _ mem => mem, fun _ mem gone => absurd mem gone⟩
  unfold updateRemoteAckBits
  simp only
  split
  · rename_i nonneg
    refine acknowledged_turns _ _ ?_ untouched
    intro i mem
    have turn : i + (diffBetweenSequenceNumbers t.seqNo ((seqNumber newest).setWidth 32)).toNat
        < 32 := by
      have := List.mem_range.mp mem
      omega
    refine ⟨turn, ?_⟩
    intro clear one
    obtain ⟨ordered, inside⟩ := clean i (by omega) ⟨nonneg, turn, clear, one⟩
    rw [w.seqNo, BitVec.le_def, seqNumber_toNat, seqNumber_toNat] at ordered
    rw [seqNumber_toNat] at inside
    have straight : wireSlot sent = wireSlot newest + (sent - newest) :=
      slot_sub_of_ordered (by decide) pos le (by omega) ordered
    have back : wireSlot newest = wireSlot (newest - i) + i := slot_step_back inside
    have small : i < newest := by
      have := Nat.mod_le (newest - 1) 0xffff
      rw [number_of_pos pos] at inside
      omega
    refine ⟨newest - i, ?_, prev_seqNumber small (by omega), i, by omega, one, back⟩
    rw [difference]
    omega
  · exact untouched

theorem replaceFirst_keys {α : Type*} (test : PvpMessage Data → Bool)
    (change : PvpMessage Data → PvpMessage Data) (key : PvpMessage Data → α)
    (keeps : ∀ m, key (change m) = key m) (l : List (PvpMessage Data)) :
    (replaceFirst test change l).map key = l.map key := by
  induction l with
  | nil => rfl
  | cons m ms ih =>
    unfold replaceFirst
    split
    · rw [List.map_cons, List.map_cons, keeps]
    · rw [List.map_cons, List.map_cons, ih]

end sender

/-- The outcomes of the check for duplicates: again the newest number, a number behind
    it that is known or new, and a number ahead. -/
inductive AckUpdate (t : PvpTerminal Data) (no : BitVec 16) : Option (PvpTerminal Data) → Prop
  | again (same : diffBetweenSequenceNumbers no (t.ackNo.setWidth 32) = 0) :
    AckUpdate t no none
  | known {i : Nat} (behind : diffBetweenSequenceNumbers no (t.ackNo.setWidth 32) = -i)
    (positive : 0 < i) (inside : i < 32) (set : t.ackBits.getLsbD i = true) :
    AckUpdate t no none
  | marked {i : Nat} (behind : diffBetweenSequenceNumbers no (t.ackNo.setWidth 32) = -i)
    (positive : 0 < i) (inside : i < 32) (clear : t.ackBits.getLsbD i = false) :
    AckUpdate t no (some { t with ackBits := t.ackBits ||| 1#32 <<< i })
  | advanced {d : Nat} (ahead : diffBetweenSequenceNumbers no (t.ackNo.setWidth 32) = d)
    (positive : 0 < d) (inside : d < 32) :
    AckUpdate t no (some { t with ackNo := no, ackBits := t.ackBits <<< d ||| 0x1 })

theorem shiftLeft_inside (x : BitVec 32) {d : Nat} (inside : d < 32) :
    shiftLeft x d = some (x <<< d) := by
  unfold shiftLeft
  rw [if_pos (by omega), Int.toNat_natCast]

theorem shiftLeft_some {x y : BitVec 32} {count : Int} (shifted : shiftLeft x count = some y) :
    ∃ d : Nat, count = d ∧ d < 32 ∧ y = x <<< d := by
  unfold shiftLeft at shifted
  split at shifted
  · exact ⟨count.toNat, by omega, by omega, (Option.some.inj shifted).symm⟩
  · contradiction

theorem updateAckInfo_iff {t : PvpTerminal Data} {no : BitVec 16}
    {result : Option (PvpTerminal Data)} :
    updateAckInfo t no = some result ↔ AckUpdate t no result := by
  constructor
  · intro updated
    unfold updateAckInfo at updated
    simp only at updated
    split at updated
    · rename_i same
      obtain rfl := Option.some.inj updated
      exact .again same
    · rename_i nonzero
      split at updated
      · obtain ⟨bit, shifted, outcome⟩ := Option.map_eq_some_iff.mp updated
        obtain ⟨i, count, inside, rfl⟩ := shiftLeft_some shifted
        have mask := mask_clear_iff inside t.ackBits
        split at outcome
        · rename_i clear
          obtain rfl := outcome
          exact .marked (by omega) (by omega) inside (mask.mp clear)
        · rename_i set
          obtain rfl := outcome
          exact .known (by omega) (by omega) inside (by simpa using mask.not.mp set)
      · obtain ⟨bits, shifted, outcome⟩ := Option.map_eq_some_iff.mp updated
        obtain ⟨d, ahead, inside, rfl⟩ := shiftLeft_some shifted
        obtain rfl := outcome
        exact .advanced ahead (by omega) inside
  · intro outcome
    unfold updateAckInfo
    simp only
    cases outcome with
    | again same => rw [if_pos same]
    | known behind positive inside set =>
      rename_i i
      have mask := mask_clear_iff inside t.ackBits
      rw [if_neg (by omega), if_pos (by omega), behind, Int.neg_neg, shiftLeft_inside _ inside,
        Option.map_some, if_neg]
      intro clear
      rw [mask.mp clear] at set
      contradiction
    | marked behind positive inside clear =>
      rename_i i
      have unset : t.ackBits &&& (0x1 : BitVec 32) <<< i = 0 := (mask_clear_iff inside _).mpr clear
      rw [if_neg (by omega), if_pos (by omega), behind, Int.neg_neg, shiftLeft_inside _ inside,
        Option.map_some, if_pos unset]
      rfl
    | advanced ahead positive inside =>
      rw [if_neg (by omega), if_neg (by omega), ahead, shiftLeft_inside _ inside,
        Option.map_some]

section receiver
variable {start newest : Nat} {received : List Nat} {t : PvpTerminal Data}

theorem ReceiverWindow.of_same_acks (w : ReceiverWindow start newest received t)
    {u : PvpTerminal Data} (ackNo : u.ackNo = t.ackNo) (ackBits : u.ackBits = t.ackBits) :
    ReceiverWindow start newest received u :=
  ⟨w.started, ackNo.trans w.ackNo, w.bounds, w.distinct, w.last, ackBits ▸ w.window⟩

theorem receiverWindow_start (ackNo : t.ackNo = seqNumber start)
    (ackBits : t.ackBits = 1) : ReceiverWindow start start [] t := by
  refine ⟨Nat.le_refl _, ackNo, by simp, by simp, Or.inl rfl, ?_⟩
  intro i inside
  rw [ackBits, show (1 : BitVec 32) = 1#32 by rfl, BitVec.getLsbD_one]
  constructor
  · intro first
    have zero : i = 0 := by simpa using first
    exact ⟨wireSlot start, ⟨start, Or.inl rfl, rfl⟩, by omega⟩
  · rintro ⟨s, ⟨q, got, rfl⟩, place⟩
    rcases got with rfl | none
    · have zero : i = 0 := by omega
      simp [zero]
    · simp at none

theorem seen_append (p s : Nat) : (∃ q, (q = start ∨ q ∈ received ++ [p]) ∧ s = wireSlot q) ↔
    (∃ q, (q = start ∨ q ∈ received) ∧ s = wireSlot q) ∨ s = wireSlot p := by
  constructor
  · rintro ⟨q, first | mem, place⟩
    · exact Or.inl ⟨q, Or.inl first, place⟩
    · rcases List.mem_append.mp mem with old | new
      · exact Or.inl ⟨q, Or.inr old, place⟩
      · exact Or.inr (List.mem_singleton.mp new ▸ place)
  · rintro (⟨q, first | old, place⟩ | new)
    · exact ⟨q, Or.inl first, place⟩
    · exact ⟨q, Or.inr (List.mem_append_left _ old), place⟩
    · exact ⟨p, Or.inr (by simp), new⟩

theorem seen_le_newest (w : ReceiverWindow start newest received t) (s : Nat)
    (seen : ∃ q, (q = start ∨ q ∈ received) ∧ s = wireSlot q) : s ≤ wireSlot newest := by
  obtain ⟨q, got, rfl⟩ := seen
  have le : q ≤ newest := by
    rcases got with rfl | old
    · exact w.started
    · exact (w.bounds q old).2
  have := wireSlot_lower le
  omega

theorem append_bounds (w : ReceiverWindow start newest received t) {p : Nat}
    (after : start < p) : ∀ q ∈ received ++ [p], start < q ∧ q ≤ max newest p := by
  intro q mem
  rcases List.mem_append.mp mem with old | new
  · have := w.bounds q old
    omega
  · have := List.mem_singleton.mp new
    omega

theorem append_distinct (w : ReceiverWindow start newest received t) {p : Nat}
    (fresh : p ∉ received) : (received ++ [p]).Nodup := by
  rw [List.nodup_append]
  refine ⟨w.distinct, by simp, ?_⟩
  intro q old r new same
  have at_p : r = p := by simpa using new
  exact fresh (at_p ▸ same ▸ old)

theorem known_or_start (w : ReceiverWindow start newest received t) {p i : Nat}
    (inside : i < 32) (place : wireSlot newest = wireSlot p + i) :
    t.ackBits.getLsbD i = true ↔ p = start ∨ p ∈ received := by
  rw [w.window i inside]
  constructor
  · rintro ⟨s, ⟨q, got, at_q⟩, at_s⟩
    have same : p = q := wireSlot_injective (by omega)
    exact same ▸ got
  · intro got
    exact ⟨wireSlot p, ⟨p, got, rfl⟩, place⟩

theorem updateAckInfo_known (w : ReceiverWindow start newest received t) {p : Nat}
    (known : p ∈ received) (close : newest ≤ p + 31) :
    updateAckInfo t (seqNumber p) = some none ∨
    (updateAckInfo t (seqNumber p) = none ∧ wireSlot newest = wireSlot p + 32) := by
  obtain ⟨after, le⟩ := w.bounds p known
  have lower := wireSlot_lower le
  have upper := wireSlot_upper le (by omega)
  have slots := diff_close (a := p) (b := newest) (by omega) (by omega)
  obtain ⟨i, place⟩ : ∃ i, wireSlot newest = wireSlot p + i :=
    ⟨wireSlot newest - wireSlot p, by omega⟩
  rw [← w.ackNo] at slots
  by_cases zero : i = 0
  · exact Or.inl (updateAckInfo_iff.mpr (.again (by omega)))
  · by_cases inside : i < 32
    · have set := (known_or_start w inside place).mpr (Or.inr known)
      exact Or.inl (updateAckInfo_iff.mpr (.known (by omega) (by omega) inside set))
    · refine Or.inr ⟨?_, by omega⟩
      unfold updateAckInfo shiftLeft
      simp only [slots]
      rw [if_neg (by omega), if_pos (by omega), if_neg (by omega)]
      rfl

theorem updateAckInfo_behind (w : ReceiverWindow start newest received t) {p : Nat}
    (after : start < p) (lt : p < newest) (close : newest ≤ p + 30) (fresh : p ∉ received) :
    ∃ u, updateAckInfo t (seqNumber p) = some (some u) ∧
      u = { t with ackNo := u.ackNo, ackBits := u.ackBits } ∧
      ReceiverWindow start newest (received ++ [p]) u := by
  have lower := wireSlot_lower (Nat.le_of_lt lt)
  have upper := wireSlot_upper (Nat.le_of_lt lt) (by omega)
  have slots := diff_close (a := p) (b := newest) (by omega) (by omega)
  obtain ⟨i, place⟩ : ∃ i, wireSlot newest = wireSlot p + i :=
    ⟨wireSlot newest - wireSlot p, by omega⟩
  have inside : i < 32 := by omega
  have clear : t.ackBits.getLsbD i = false := by
    cases one : t.ackBits.getLsbD i
    · rfl
    · rcases (known_or_start w inside place).mp one with first | old
      · omega
      · exact absurd old fresh
  rw [← w.ackNo] at slots
  have behind : diffBetweenSequenceNumbers (seqNumber p) (t.ackNo.setWidth 32) = -i := by
    omega
  have shape := updateAckInfo_iff.mpr (.marked behind (by omega) inside clear)
  refine ⟨_, shape, rfl, ?_⟩
  have bounds := append_bounds w after
  rw [Nat.max_eq_left (by omega)] at bounds
  refine ⟨w.started, w.ackNo, bounds, append_distinct w fresh, ?_, ?_⟩
  · rcases w.last with first | old
    · exact Or.inl first
    · exact Or.inr (List.mem_append_left _ old)
  · exact tracks_congr (tracks_mark w.window inside place) (fun s _ => (seen_append p s).symm)

theorem updateAckInfo_ahead (w : ReceiverWindow start newest received t) {p : Nat}
    (gt : newest < p) (near : p ≤ newest + 30) :
    ∃ u, updateAckInfo t (seqNumber p) = some (some u) ∧
      u = { t with ackNo := u.ackNo, ackBits := u.ackBits } ∧
      ReceiverWindow start p (received ++ [p]) u := by
  have started := w.started
  have lower := wireSlot_lower (Nat.le_of_lt gt)
  have upper := wireSlot_upper (Nat.le_of_lt gt) (by omega)
  have slots := diff_close (a := p) (b := newest) (by omega) (by omega)
  obtain ⟨d, place⟩ : ∃ d, wireSlot p = wireSlot newest + d :=
    ⟨wireSlot p - wireSlot newest, by omega⟩
  have positive : 0 < d := by omega
  have inside : d < 32 := by omega
  have fresh : p ∉ received := by
    intro known
    have := w.bounds p known
    omega
  rw [← w.ackNo] at slots
  have ahead : diffBetweenSequenceNumbers (seqNumber p) (t.ackNo.setWidth 32) = d := by
    omega
  have shape := updateAckInfo_iff.mpr (.advanced ahead positive inside)
  refine ⟨_, shape, rfl, ?_⟩
  have bounds := append_bounds w (show start < p by omega)
  rw [Nat.max_eq_right (by omega)] at bounds
  refine ⟨by omega, rfl, bounds, append_distinct w fresh, Or.inr (by simp), ?_⟩
  rw [place]
  exact tracks_congr (tracks_advance d (by decide) w.window (seen_le_newest w))
    (fun s _ => by rw [seen_append, place])

/-- A near packet is a duplicate exactly if it was received before; no shift is
    undefined. -/
theorem updateAckInfo_window (w : ReceiverWindow start newest received t) {p : Nat}
    (after : start < p) (ahead : p ≤ newest + 30) (behind : newest ≤ p + 30) :
    (p ∈ received ∧ updateAckInfo t (seqNumber p) = some none) ∨
    (p ∉ received ∧ ∃ u, updateAckInfo t (seqNumber p) = some (some u) ∧
      u = { t with ackNo := u.ackNo, ackBits := u.ackBits } ∧
      ReceiverWindow start (max newest p) (received ++ [p]) u) := by
  by_cases known : p ∈ received
  · have upper := wireSlot_upper (w.bounds p known).2 (by omega)
    rcases updateAckInfo_known w known (by omega) with duplicate | ⟨_, far⟩
    · exact Or.inl ⟨known, duplicate⟩
    · omega
  · refine Or.inr ⟨known, ?_⟩
    rcases Nat.lt_trichotomy p newest with lt | eq | gt
    · rw [Nat.max_eq_left (by omega)]
      exact updateAckInfo_behind w after lt behind known
    · rcases w.last with first | old
      · omega
      · exact absurd (eq ▸ old) known
    · rw [Nat.max_eq_right (by omega)]
      exact updateAckInfo_ahead w gt ahead

end receiver

end LaluneServer.Pvp
