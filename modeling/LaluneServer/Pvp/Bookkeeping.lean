import LaluneServer.Pvp.TerminalRuns

/- The list of unacknowledged packets and the bitmap over their numbers agree as
   long as no acknowledgement takes effect across the wrap of the numbers:
   receiveMessage counts the distance to ack_no modulo 0x10000, the numbers run
   modulo 0xffff. -/
namespace LaluneServer.Pvp
open BitWindow Transition

variable {Data : Type*}

def wireNo (message : PvpMessage Data) : BitVec 16 := message.seqNo.setWidth 16

def bitNo (t : PvpTerminal Data) (b : Nat) : BitVec 16 := prevSeqNo t.seqNo (BitVec.ofNat 16 b)

structure Bookkeeping (t : PvpTerminal Data) : Prop where
  distinct : (t.sentMessage.map wireNo).Nodup
  exact : ∀ no, no ∈ t.sentMessage.map wireNo ↔
    ∃ b, b < 32 ∧ t.remoteAckBits.getLsbD b = false ∧ no = bitNo t b

def NewPacket (t : PvpTerminal Data) (seqNo : BitVec 16) : Prop :=
  let shift := diffBetweenSequenceNumbers seqNo (t.ackNo.setWidth 32)
  shift ≠ 0 ∧ (shift < 0 → t.ackBits.getLsbD (-shift).toNat = false)

/-- A new data packet that acknowledges an outstanding packet has an ack_no that is
    not above the last number sent. -/
def AcksBelowSent (t : PvpTerminal Data) : TerminalCall Data → Prop
  | .receiveMessage message =>
    message.protoId.setWidth 16 ≠ syncProtoId → t.state ≠ .disconnected →
    NewPacket t (message.seqNo.setWidth 16) →
    ∀ i, i < 32 → TakesEffect t (message.ackNo.setWidth 16) message.ackBits i →
      message.ackNo.setWidth 16 ≤ t.seqNo
  | _ => True

instance (t : PvpTerminal Data) (seqNo : BitVec 16) : Decidable (NewPacket t seqNo) :=
  inferInstanceAs (Decidable (_ ∧ (_ → _)))

instance (t : PvpTerminal Data) : (c : TerminalCall Data) → Decidable (AcksBelowSent t c)
  | .sendMessage .. => isTrue trivial
  | .resendMessages => isTrue trivial
  | .receiveMessage _ => inferInstanceAs (Decidable (_ → _ → _ → ∀ i, i < 32 → _ → _))

section
variable {t u : PvpTerminal Data}

theorem bitNo_injective {b c : Nat} (insideB : b < 32) (insideC : c < 32)
    (same : bitNo t b = bitNo t c) : b = c :=
  prevSeqNo_injective insideB insideC same

theorem bitNo_next {b : Nat} (inside : b < 32) (seqNo : u.seqNo = nextSeqNo t.seqNo) :
    bitNo u (b + 1) = bitNo t b := by
  apply BitVec.eq_of_toNat_eq
  unfold bitNo
  rw [seqNo, prevSeqNo_toNat _ (by omega), prevSeqNo_toNat _ (by omega), nextSeqNo_toNat]
  have bound := t.seqNo.isLt
  split <;> split <;> split <;> omega

theorem bitNo_zero (seqNo : u.seqNo = nextSeqNo t.seqNo) : bitNo u 0 = nextSeqNo t.seqNo := by
  apply BitVec.eq_of_toNat_eq
  unfold bitNo
  rw [seqNo, prevSeqNo_toNat _ (by omega), nextSeqNo_toNat]
  split <;> split <;> omega

theorem Bookkeeping.of_same_numbers (k : Bookkeeping t) (seqNo : u.seqNo = t.seqNo)
    (bits : u.remoteAckBits = t.remoteAckBits)
    (numbers : u.sentMessage.map wireNo = t.sentMessage.map wireNo) : Bookkeeping u := by
  refine ⟨numbers ▸ k.distinct, ?_⟩
  intro no
  rw [numbers, bits, k.exact]
  unfold bitNo
  rw [seqNo]

theorem bookkeeping_empty (bits : t.remoteAckBits = 0xffffffff) (none : t.sentMessage = []) :
    Bookkeeping t := by
  refine ⟨by simp [none], ?_⟩
  intro no
  rw [none, bits, show (0xffffffff : BitVec 32) = BitVec.allOnes 32 by decide]
  constructor
  · intro mem
    simp at mem
  · rintro ⟨b, inside, clear, _⟩
    rw [BitVec.getLsbD_allOnes] at clear
    simp [inside] at clear

theorem bookkeeping_numberMessage (k : Bookkeeping t) (message : PvpMessage Data)
    (rest : List (PvpMessage Data)) (free : t.remoteAckBits.getLsbD 31 = true) :
    Bookkeeping (numberMessage t message rest).2 := by
  have own : wireNo (numberMessage t message rest).1 = nextSeqNo t.seqNo := by
    rw [wireNo, numberMessage_wireNo, setWidth_roundtrip]
  have seqNo := numberMessage_seqNo t message rest
  have clear_below : ∀ {b}, b < 32 → t.remoteAckBits.getLsbD b = false → b < 31 := by
    intro b inside clear
    rcases Nat.lt_or_ge b 31 with lt | ge
    · exact lt
    · rw [show b = 31 by omega, free] at clear
      contradiction
  have later : ∀ no, no ∈ t.sentMessage.map wireNo ↔ ∃ b, b < 31 ∧
      t.remoteAckBits.getLsbD b = false ∧ no = bitNo (numberMessage t message rest).2 (b + 1) := by
    intro no
    rw [k.exact]
    constructor
    · rintro ⟨b, inside, clear, rfl⟩
      exact ⟨b, clear_below inside clear, clear, (bitNo_next inside seqNo).symm⟩
    · rintro ⟨b, inside, clear, rfl⟩
      exact ⟨b, by omega, clear, bitNo_next (by omega) seqNo⟩
  constructor
  · rw [numberMessage_sentMessage, List.map_append, List.map_singleton, List.nodup_append, own]
    refine ⟨k.distinct, by simp, ?_⟩
    intro no old new fresh same
    obtain ⟨b, inside, _, place⟩ := (later no).mp old
    have first : no = bitNo (numberMessage t message rest).2 0 := by
      rw [bitNo_zero seqNo, same]
      simpa using fresh
    have := bitNo_injective (by omega) (by omega) (place.symm.trans first)
    omega
  · intro no
    rw [numberMessage_sentMessage, List.map_append, List.map_singleton, List.mem_append, later,
      List.mem_singleton, own, numberMessage_remoteAckBits]
    constructor
    · rintro (⟨b, inside, clear, place⟩ | new)
      · refine ⟨b + 1, by omega, ?_, place⟩
        rw [← Bool.not_eq_true, getLsbD_shift _ 1 (by omega)]
        simpa using clear
      · refine ⟨0, by omega, ?_, by rw [bitNo_zero seqNo, new]⟩
        rw [← Bool.not_eq_true, getLsbD_shift _ 1 (by omega)]
        simp
    · rintro ⟨b, inside, clear, place⟩
      rw [← Bool.not_eq_true, getLsbD_shift _ 1 inside] at clear
      rcases Nat.eq_zero_or_pos b with rfl | pos
      · exact Or.inr (by rw [place, bitNo_zero seqNo])
      · refine Or.inl ⟨b - 1, by omega, ?_, by rw [place, Nat.sub_add_cancel pos]⟩
        rw [← Bool.not_eq_true]
        exact fun one => clear ⟨pos, one⟩

theorem bookkeeping_handleToSendQueue (k : Bookkeeping t) :
    Bookkeeping (handleToSendQueue t).1 := by
  refine sendRounds_preserves Bookkeeping ?_ ?_ 4 t k
  · intro t message rest k _ free
    exact bookkeeping_numberMessage k message rest free
  · intro t count k
    exact k.of_same_numbers rfl rfl rfl

theorem bookkeeping_sendMessage (k : Bookkeeping t) (message : PvpMessage Data)
    (protoId : BitVec 16) : Bookkeeping (sendMessage t message protoId).1 :=
  bookkeeping_handleToSendQueue (k.of_same_numbers rfl rfl rfl)

theorem bookkeeping_resendMessages (k : Bookkeeping t) : Bookkeeping (resendMessages t).1 := by
  obtain ⟨messages, frame, numbers⟩ := resendMessages_frame t
  rw [frame]
  refine k.of_same_numbers rfl rfl ?_
  have := congrArg (List.map (fun no : BitVec 32 => no.setWidth 16)) numbers
  rw [List.map_map, List.map_map] at this
  exact this

theorem updateAckInfo_duplicate {no : BitVec 16} (known : updateAckInfo t no = some none) :
    ¬ NewPacket t no := by
  rintro ⟨other, unmarked⟩
  cases updateAckInfo_iff.mp known with
  | again same => exact other same
  | known behind positive inside set =>
    have clear := unmarked (by omega)
    rw [behind, Int.neg_neg, Int.toNat_natCast, set] at clear
    contradiction

theorem updateAckInfo_accepted {no : BitVec 16} (updated : updateAckInfo t no = some (some u)) :
    NewPacket t no ∧ u = { t with ackNo := u.ackNo, ackBits := u.ackBits } := by
  cases updateAckInfo_iff.mp updated with
  | marked behind positive inside clear =>
    refine ⟨⟨by omega, ?_⟩, rfl⟩
    intro _
    rw [behind, Int.neg_neg, Int.toNat_natCast]
    exact clear
  | advanced ahead positive inside =>
    refine ⟨⟨by omega, ?_⟩, rfl⟩
    intro behind
    omega

end

section acknowledgements
variable {t u v : PvpTerminal Data} {ackNo : BitVec 16} {ackBits : BitVec 32}

theorem diff_cases {d : Nat} (distance : diffBetweenSequenceNumbers t.seqNo
    (ackNo.setWidth 32) = d) (inside : d < 32) :
    (ackNo ≤ t.seqNo ∧ t.seqNo.toNat = ackNo.toNat + d) ∨
    (¬ ackNo ≤ t.seqNo ∧ t.seqNo.toNat + 0x10000 = ackNo.toNat + d) := by
  simp only [diffBetweenSequenceNumbers, diff_toInt] at distance
  rw [BitVec.le_def]
  have := t.seqNo.isLt
  have := ackNo.isLt
  split at distance
  · exact Or.inr ⟨by omega, by omega⟩
  · split at distance
    · omega
    · exact Or.inl ⟨by omega, by omega⟩

theorem acked_number {d i : Nat} (inside : i + d < 32)
    (place : t.seqNo.toNat = ackNo.toNat + d) :
    prevSeqNo ackNo (BitVec.ofNat 16 i) = bitNo t (i + d) := by
  apply BitVec.eq_of_toNat_eq
  unfold bitNo
  rw [prevSeqNo_toNat _ (by omega), prevSeqNo_toNat _ (by omega)]
  split <;> split <;> omega

theorem acked_number_above {d i k : Nat} (inside : i + d < 32) (insideK : k < 32)
    (place : t.seqNo.toNat + 0x10000 = ackNo.toNat + d)
    (same : prevSeqNo ackNo (BitVec.ofNat 16 i) = bitNo t k) : k + 1 = i + d := by
  have number := congrArg BitVec.toNat same
  unfold bitNo at number
  rw [prevSeqNo_toNat _ (by omega), prevSeqNo_toNat _ (by omega)] at number
  have := ackNo.isLt
  split at number <;> split at number <;> omega

theorem bookkeeping_acknowledgeBit (k : Bookkeeping t) {d i : Nat} (inside : i + d < 32)
    (number : prevSeqNo ackNo (BitVec.ofNat 16 i) = bitNo t (i + d)) :
    Bookkeeping (acknowledgeBit ackNo ackBits d t i) := by
  rcases acknowledgeBit_cases ackNo ackBits d t i with same | ⟨_, _, dropped⟩
  · rw [same]
    exact k
  · have erased : t.sentMessage.eraseP (carriesNo (bitNo t (i + d))) =
        t.sentMessage.filter (fun m => wireNo m ≠ bitNo t (i + d)) :=
      eraseP_of_distinct wireNo _ _ k.distinct _ (fun _ _ => rfl)
    rw [dropped, number]
    simp only [dropMessage, erased]
    refine ⟨List.Nodup.sublist (List.Sublist.map _ List.filter_sublist) k.distinct, ?_⟩
    intro no
    have marked := getLsbD_mark t.remoteAckBits inside
    constructor
    · intro mem
      obtain ⟨m, kept, rfl⟩ := List.mem_map.mp mem
      obtain ⟨old, different⟩ := List.mem_filter.mp kept
      obtain ⟨b, insideB, clear, place⟩ := (k.exact _).mp (List.mem_map_of_mem old)
      refine ⟨b, insideB, ?_, place⟩
      rw [← Bool.not_eq_true, marked, not_or]
      refine ⟨by simp [clear], ?_⟩
      intro same
      rw [same] at place
      simp [place] at different
    · rintro ⟨b, insideB, clear, place⟩
      rw [← Bool.not_eq_true, marked, not_or] at clear
      obtain ⟨m, old, rfl⟩ := List.mem_map.mp
        ((k.exact no).mpr ⟨b, insideB, by simpa using clear.1, place⟩)
      refine List.mem_map_of_mem (List.mem_filter.mpr ⟨old, ?_⟩)
      have different : wireNo m ≠ bitNo t (i + d) := by
        intro same
        exact clear.2 (bitNo_injective insideB inside (place.symm.trans same))
      simpa using different

theorem acknowledgeBit_seqNo (d i : Nat) :
    (acknowledgeBit ackNo ackBits d t i).seqNo = t.seqNo := by
  rcases acknowledgeBit_cases ackNo ackBits d t i with same | ⟨_, _, dropped⟩
  · rw [same]
  · rw [dropped]
    rfl

theorem bookkeeping_updateRemoteAckBits (k : Bookkeeping t) (below : ackNo ≤ t.seqNo) :
    Bookkeeping (updateRemoteAckBits t ackNo ackBits) := by
  refine (updateRemoteAckBits_preserves (fun u => u.seqNo = t.seqNo ∧ Bookkeeping u) ?_
    ⟨rfl, k⟩).2
  rintro u i ⟨seqNo, books⟩ nonneg inside
  refine ⟨by rw [acknowledgeBit_seqNo, seqNo], bookkeeping_acknowledgeBit books inside ?_⟩
  rcases diff_cases (t := t) (Int.toNat_of_nonneg nonneg).symm (by omega) with
    ⟨_, place⟩ | ⟨above, _⟩
  · exact acked_number inside (by rw [seqNo]; exact place)
  · exact absurd below above

theorem updateRemoteAckBits_idle
    (idle : ∀ i, i < 32 → ¬ TakesEffect t ackNo ackBits i) :
    updateRemoteAckBits t ackNo ackBits = t := by
  refine updateRemoteAckBits_preserves (fun u => u = t) ?_ rfl
  rintro u i rfl nonneg inside
  refine acknowledgeBit_idle inside ?_
  rintro ⟨clear, acked⟩
  exact idle i (by omega) ⟨nonneg, inside, clear, acked⟩

structure Misplaced (ackBits : BitVec 32) (d n : Nat) (t u : PvpTerminal Data) : Prop where
  seqNo : u.seqNo = t.seqNo
  ahead : ∀ k, n + d ≤ k → k < 32 → u.remoteAckBits.getLsbD k = t.remoteAckBits.getLsbD k ∧
    (t.remoteAckBits.getLsbD k = false → bitNo t k ∈ u.sentMessage.map wireNo)
  behind : (∀ i, i < n → ¬ (t.remoteAckBits.getLsbD (i + d) = false ∧
      ackBits.getLsbD i = true)) ∨
    ∃ k, k < 32 ∧ u.remoteAckBits.getLsbD k = true ∧ bitNo t k ∈ u.sentMessage.map wireNo

theorem misplaced_turn {d n : Nat} (m : Misplaced ackBits d n t u) (inside : n + d < 32)
    (place : t.seqNo.toNat + 0x10000 = ackNo.toNat + d) :
    Misplaced ackBits d (n + 1) t (acknowledgeBit ackNo ackBits d u n) := by
  obtain ⟨same, listed⟩ := m.ahead (n + d) (by omega) inside
  by_cases effect : u.remoteAckBits.getLsbD (n + d) = false ∧ ackBits.getLsbD n = true
  · have kept : ∀ k, n + d ≤ k → k < 32 → t.remoteAckBits.getLsbD k = false →
        bitNo t k ∈ (u.sentMessage.eraseP
          (carriesNo (prevSeqNo ackNo (BitVec.ofNat 16 n)))).map wireNo := by
      intro k low high zero
      obtain ⟨message, mem, number⟩ := List.mem_map.mp ((m.ahead k low high).2 zero)
      rw [← number]
      refine List.mem_map_of_mem ((List.mem_eraseP_of_neg ?_).mpr mem)
      intro carries
      have other := acked_number_above inside high place
        ((of_decide_eq_true carries).symm.trans number)
      omega
    rw [acknowledgeBit_effective inside effect.1 effect.2]
    refine ⟨m.seqNo, ?_, Or.inr ⟨n + d, inside, ?_, kept _ (by omega) inside ?_⟩⟩
    · intro k low high
      refine ⟨?_, kept k (by omega) high⟩
      rw [← (m.ahead k (by omega) high).1, Bool.eq_iff_iff]
      exact (getLsbD_mark _ inside k).trans (or_iff_left (by omega))
    · exact (getLsbD_mark _ inside _).mpr (Or.inr rfl)
    · rw [← same]
      exact effect.1
  · rw [acknowledgeBit_idle inside effect]
    refine ⟨m.seqNo, fun k low high => m.ahead k (by omega) high, ?_⟩
    refine m.behind.imp_left ?_
    intro idle i lt
    rcases Nat.lt_succ_iff_lt_or_eq.mp lt with old | rfl
    · exact idle i old
    · rw [← same]
      exact effect

theorem broken_updateRemoteAckBits (before : Bookkeeping t) (above : ¬ ackNo ≤ t.seqNo) {i : Nat}
    (effect : TakesEffect t ackNo ackBits i) :
    ¬ Bookkeeping (updateRemoteAckBits t ackNo ackBits) := by
  obtain ⟨nonneg, inside, clear, acked⟩ := effect
  obtain ⟨d, distance⟩ := Int.eq_ofNat_of_zero_le nonneg
  have natural : (diffBetweenSequenceNumbers t.seqNo (ackNo.setWidth 32)).toNat = d := by
    omega
  rw [natural] at inside clear
  rcases diff_cases distance (by omega) with ⟨below, _⟩ | ⟨_, place⟩
  · exact absurd below above
  have turns : ∀ n, n + d ≤ 32 → Misplaced ackBits d n t
      ((List.range n).foldl (acknowledgeBit ackNo ackBits d) t) := by
    intro n
    induction n with
    | zero =>
      intro _
      exact ⟨rfl, fun k _ high => ⟨rfl, fun zero => (before.exact _).mpr ⟨k, high, zero, rfl⟩⟩,
        Or.inl (by simp)⟩
    | succ n ih =>
      intro room
      rw [List.range_succ, List.foldl_append, List.foldl_cons, List.foldl_nil]
      exact misplaced_turn (ih (by omega)) (by omega) place
  have final := turns (32 - d) (by omega)
  have shape : updateRemoteAckBits t ackNo ackBits =
      (List.range (32 - d)).foldl (acknowledgeBit ackNo ackBits d) t := by
    unfold updateRemoteAckBits
    simp only
    rw [if_pos nonneg, natural, show (32 - diffBetweenSequenceNumbers t.seqNo
      (ackNo.setWidth 32)).toNat = 32 - d by omega]
  rw [shape]
  intro books
  rcases final.behind with idle | ⟨b, insideB, one, listed⟩
  · exact idle i (by omega) ⟨clear, acked⟩
  · obtain ⟨c, insideC, zero, same⟩ := (books.exact _).mp listed
    have equal : b = c := by
      refine bitNo_injective (t := t) insideB insideC ?_
      rw [same]
      unfold bitNo
      rw [final.seqNo]
    rw [equal, zero] at one
    contradiction

end acknowledgements

theorem receiveMessage_books {t u : PvpTerminal Data} (k : Bookkeeping t)
    {message : PvpMessage Data} (moved : callStep t (.receiveMessage message) = some u) :
    Bookkeeping u ↔ AcksBelowSent t (.receiveMessage message) := by
  obtain ⟨r, received, rfl⟩ := Option.map_eq_some_iff.mp moved
  replace received : receiveMessage t message = some r := received
  cases receives_of_receiveMessage received with
  | ignored idle =>
    refine iff_of_true (k.of_same_numbers rfl rfl rfl) ?_
    exact fun data opened => absurd (idle.mpr opened) data
  | handshake sync disconnected =>
    refine iff_of_true ?_ (fun data => absurd sync data)
    exact bookkeeping_sendMessage (bookkeeping_empty rfl rfl) {} syncProtoId
  | duplicate data opened duplicate =>
    have known := updateAckInfo_duplicate duplicate
    exact iff_of_true (k.of_same_numbers rfl rfl rfl) (fun _ _ new => absurd new known)
  | accepted data opened updated =>
    rename_i v
    obtain ⟨new, frame⟩ := updateAckInfo_accepted updated
    have books : Bookkeeping v := by
      rw [frame]
      exact k.of_same_numbers rfl rfl rfl
    have effects : ∀ i, TakesEffect v (message.ackNo.setWidth 16) message.ackBits i ↔
        TakesEffect t (message.ackNo.setWidth 16) message.ackBits i := by
      intro i
      rw [frame]
      rfl
    have seqNo : v.seqNo = t.seqNo := by
      rw [frame]
    show Bookkeeping (updateRemoteAckBits v _ _) ↔ _
    by_cases below : message.ackNo.setWidth 16 ≤ t.seqNo
    · exact iff_of_true (bookkeeping_updateRemoteAckBits books (seqNo ▸ below))
        (fun _ _ _ _ _ _ => below)
    · by_cases idle : ∀ i, i < 32 →
          ¬ TakesEffect t (message.ackNo.setWidth 16) message.ackBits i
      · rw [updateRemoteAckBits_idle (fun i small => (effects i).not.mpr (idle i small))]
        exact iff_of_true books (fun _ _ _ i small effect => absurd effect (idle i small))
      · push Not at idle
        obtain ⟨i, small, effect⟩ := idle
        refine iff_of_false ?_ (fun clean => below (clean data opened new i small effect))
        exact broken_updateRemoteAckBits books (seqNo ▸ below) ((effects i).mpr effect)

theorem callStep_books {t u : PvpTerminal Data} (k : Bookkeeping t) {c : TerminalCall Data}
    (moved : callStep t c = some u) : Bookkeeping u ↔ AcksBelowSent t c := by
  cases c with
  | sendMessage message protoId =>
    obtain rfl := Option.some.inj moved
    exact iff_of_true (bookkeeping_sendMessage k message protoId) trivial
  | resendMessages =>
    obtain rfl := Option.some.inj moved
    exact iff_of_true (bookkeeping_resendMessages k) trivial
  | receiveMessage message => exact receiveMessage_books k moved

section
variable {t : PvpTerminal Data}

theorem outstanding_le (k : Bookkeeping t) : t.sentMessage.length ≤ 32 := by
  have covered : t.sentMessage.map wireNo ⊆ (List.range 32).map (bitNo t) := by
    intro no mem
    obtain ⟨b, inside, _, rfl⟩ := (k.exact no).mp mem
    exact List.mem_map_of_mem (List.mem_range.mpr inside)
  simpa using (List.subperm_of_subset k.distinct covered).length_le

def ResendFinds (t : PvpTerminal Data) (message : PvpMessage Data) : Prop :=
  ∃ i, 1 ≤ i ∧ i ≤ 32 ∧ t.remoteAckBits &&& (0x80000000#32 >>> (i - 1)) = 0 ∧
    getSentMessage t (prevSeqNo t.seqNo (BitVec.ofInt 16 (32 - i))) = some message

theorem turn_mask_clear_iff {b : Nat} (inside : b < 32) (bits : BitVec 32) :
    bits &&& (0x80000000#32 >>> (32 - b - 1)) = 0 ↔ bits.getLsbD b = false := by
  have mask : ∀ b, b < 32 → 0x80000000#32 >>> (32 - b - 1) = 1#32 <<< b := by
    decide
  rw [mask b inside]
  exact mask_clear_iff inside bits

theorem turn_number {b : Nat} (inside : b < 32) :
    prevSeqNo t.seqNo (BitVec.ofInt 16 (32 - ((32 - b : Nat) : Int))) = bitNo t b := by
  rw [show 32 - ((32 - b : Nat) : Int) = (b : Int) by omega, BitVec.ofInt_natCast]
  rfl

theorem resend_finds (k : Bookkeeping t) {message : PvpMessage Data}
    (kept : message ∈ t.sentMessage) : ResendFinds t message := by
  obtain ⟨b, inside, clear, number⟩ := (k.exact _).mp (List.mem_map_of_mem kept)
  refine ⟨32 - b, by omega, by omega, ?_, ?_⟩
  · exact (turn_mask_clear_iff inside _).mpr clear
  · rw [turn_number inside]
    show t.sentMessage.find? (carriesNo (bitNo t b)) = some message
    rw [← number]
    cases found : t.sentMessage.find? (carriesNo (wireNo message)) with
    | none =>
      have missed := List.find?_eq_none.mp found message kept
      simp [carriesNo, wireNo] at missed
    | some other =>
      have carries : carriesNo (wireNo message) other = true := List.find?_some found
      have same : wireNo other = wireNo message := of_decide_eq_true carries
      rw [List.inj_on_of_nodup_map k.distinct (List.mem_of_find?_eq_some found) kept same]

end

theorem bookkeeping_of_run {t : PvpTerminal Data}
    (run : Reach callStep AcksBelowSent newTerminal t) :
    Bookkeeping t ∧ ∀ c u, callStep t c = some u → (Bookkeeping u ↔ AcksBelowSent t c) := by
  refine (reach_exactly Bookkeeping Bookkeeping (bookkeeping_empty rfl rfl) (fun _ k => k)
    (fun _ _ _ k moved => ?_) run).2
  have books := callStep_books k moved
  exact ⟨books, books.mpr⟩

/-- In every run whose acknowledgements stay below the last number sent the list and
    the bitmap agree, and the next call breaks them exactly if it does not. -/
theorem bookkeeping_while_acks_below_sent {t : PvpTerminal Data}
    (run : Reach callStep AcksBelowSent newTerminal t) :
    Bookkeeping t ∧ t.sentMessage.length ≤ 32 ∧
      (∀ message ∈ t.sentMessage, ResendFinds t message) ∧
      ∀ c u, callStep t c = some u → (Bookkeeping u ↔ AcksBelowSent t c) := by
  obtain ⟨books, next⟩ := bookkeeping_of_run run
  exact ⟨books, outstanding_le books, fun _ kept => resend_finds books kept, next⟩

def idleTerminal (count : Nat) : PvpTerminal Unit where
  state := .connected
  ackNo := BitVec.ofNat 16 (count + 1)
  ackBits := 0xffffffff
  seqNo := BitVec.ofNat 16 count
  remoteAckBits := 0xffffffff
  maxResentBit := 0
  sentMessage := []
  toSendMessages := []
  totalTimeNoMessage := 0

def acknowledging (seqNo ackNo : Nat) : TerminalCall Unit :=
  .receiveMessage { protoId := 1, seqNo := BitVec.ofNat 32 seqNo,
                    ackNo := BitVec.ofNat 32 ackNo, ackBits := 1 }

def exchange (count : Nat) : List (TerminalCall Unit) :=
  [.sendMessage {} defaultProtoId, acknowledging (count + 2) (count + 1)]

def opening : List (TerminalCall Unit) :=
  [.receiveMessage { protoId := 2, seqNo := 1 }, acknowledging 2 1] ++
    (List.range 40).flatMap (fun i => exchange (i + 1))

theorem opening_idle : exec callStep newTerminal opening = some (idleTerminal 41) := by
  decide +kernel

def sentPacket (count : Nat) : PvpMessage Unit where
  version := protoVersion
  protoId := defaultProtoId.setWidth 32
  seqNo := (BitVec.ofNat 16 (count + 1)).setWidth 32
  ackNo := (BitVec.ofNat 16 (count + 1)).setWidth 32
  ackBits := 0xffffffff

def awaiting (count : Nat) : PvpTerminal Unit :=
  { idleTerminal (count + 1) with
    ackNo := BitVec.ofNat 16 (count + 1)
    remoteAckBits := 0xfffffffe
    sentMessage := [sentPacket count] }

theorem idle_next {count : Nat} (small : count + 2 ≤ 0xffff) :
    nextSeqNo (BitVec.ofNat 16 count) = BitVec.ofNat 16 (count + 1) := by
  apply BitVec.eq_of_toNat_eq
  rw [nextSeqNo_toNat, BitVec.toNat_ofNat, BitVec.toNat_ofNat]
  split <;> omega

theorem idle_sends {count : Nat} (small : count + 2 ≤ 0xffff) :
    callStep (idleTerminal count) (.sendMessage {} defaultProtoId) = some (awaiting count) := by
  have free : ¬ (0xffffffff : BitVec 32) &&& 0x80000000 = 0 := by decide
  have shifted : (0xffffffff : BitVec 32) <<< 1 = 0xfffffffe := by decide
  simp only [callStep, call, sendMessage, handleToSendQueue, sendRounds, idleTerminal,
    List.nil_append, if_neg free, numberMessage, directSendMessage, reduceCtorEq, ↓reduceIte,
    false_and, shifted, idle_next small]
  rfl

theorem awaiting_hears (count : Nat) :
    updateAckInfo (awaiting count) (BitVec.ofNat 16 (count + 2)) =
      some (some { awaiting count with ackNo := BitVec.ofNat 16 (count + 2) }) := by
  have shift : diffBetweenSequenceNumbers (BitVec.ofNat 16 (count + 2))
      ((BitVec.ofNat 16 (count + 1)).setWidth 32) = 1 := by
    simp only [diffBetweenSequenceNumbers, diff_toInt, BitVec.toNat_ofNat]
    omega
  have full : shiftLeft (0xffffffff : BitVec 32) 1 = some 0xfffffffe := by decide
  have marked : (0xfffffffe : BitVec 32) ||| 0x1 = 0xffffffff := by decide
  have ahead : ¬ (1 : Int) < 0 := by decide
  have moved : ¬ (1 : Int) = 0 := by decide
  simp only [updateAckInfo, awaiting, idleTerminal, shift, if_neg moved, if_neg ahead, full,
    Option.map_some, marked]

theorem updateRemoteAckBits_last (t : PvpTerminal Data) :
    updateRemoteAckBits t t.seqNo 1 = acknowledgeBit t.seqNo 1 0 t 0 := by
  have same : diffBetweenSequenceNumbers t.seqNo (t.seqNo.setWidth 32) = 0 := by
    simp [diffBetweenSequenceNumbers]
  have turns : List.range 32 = 0 :: List.range' 1 31 := by decide
  unfold updateRemoteAckBits
  simp only [same]
  rw [if_pos (by decide), show (32 - (0 : Int)).toNat = 32 by decide, turns, List.foldl_cons]
  refine List.foldlRecOn (motive := fun u => u = acknowledgeBit t.seqNo 1 0 t 0) _ _ rfl ?_
  rintro u rfl i mem
  have later := List.mem_range'_1.mp mem
  refine acknowledgeBit_idle (by simp; omega) ?_
  rintro ⟨_, acked⟩
  rw [show (1 : BitVec 32) = 1#32 by rfl, BitVec.getLsbD_one] at acked
  simp at acked
  omega

theorem awaiting_dropped {count : Nat} (small : count + 2 ≤ 0xffff) :
    updateRemoteAckBits { awaiting count with ackNo := BitVec.ofNat 16 (count + 2) }
      (BitVec.ofNat 16 (count + 1)) 1 = idleTerminal (count + 1) := by
  have number : prevSeqNo (BitVec.ofNat 16 (count + 1)) (BitVec.ofNat 16 0) =
      BitVec.ofNat 16 (count + 1) := by
    apply BitVec.eq_of_toNat_eq
    rw [prevSeqNo_toNat _ (by decide), BitVec.toNat_ofNat]
    split <;> omega
  have effect : (0xfffffffe : BitVec 32) &&& 1#32 <<< (0 + 0) = 0 ∧
      (1 : BitVec 32) &&& 1#32 <<< 0 ≠ 0 := by decide
  have marked : (0xfffffffe : BitVec 32) ||| 1#32 <<< (0 + 0) = 0xffffffff := by decide
  rw [show BitVec.ofNat 16 (count + 1) = { awaiting count with
    ackNo := BitVec.ofNat 16 (count + 2) : PvpTerminal Unit }.seqNo by rfl, updateRemoteAckBits_last]
  simp only [acknowledgeBit, awaiting, idleTerminal, if_pos effect, number, dropMessage, marked]
  congr 1
  simp [carriesNo, sentPacket]

theorem awaiting_acknowledged {count : Nat} (small : count + 2 ≤ 0xffff) :
    callStep (awaiting count) (acknowledging (count + 2) (count + 1)) =
    some (idleTerminal (count + 1)) := by
  have wide : ∀ n, (BitVec.ofNat 32 n).setWidth 16 = BitVec.ofNat 16 n := by
    intro n
    apply BitVec.eq_of_toNat_eq
    simp only [BitVec.toNat_setWidth, BitVec.toNat_ofNat]
    omega
  have data : (1 : BitVec 32).setWidth 16 ≠ syncProtoId := by decide
  have still : { awaiting count with
    totalTimeNoMessage := 0, state := .connected : PvpTerminal Unit } = awaiting count := rfl
  unfold callStep call acknowledging
  simp only
  rw [receiveMessage_data (by simp [awaiting, idleTerminal]) data]
  rw [still]
  simp only [wide, awaiting_hears, Option.map_some, Option.elim_some, awaiting_dropped small]

theorem idle_reached {count : Nat} (from_opening : 41 ≤ count) (small : count + 1 ≤ 0xffff) :
    Reach callStep always newTerminal (idleTerminal count) := by
  induction count, from_opening using Nat.le_induction with
  | base => exact exec_reach opening_idle
  | succ count _ ih =>
    have room : count + 2 ≤ 0xffff := by omega
    exact .tail _ (.tail _ (ih (by omega)) trivial (idle_sends room)) trivial
      (awaiting_acknowledged room)

def lossBeforeWrap : List (TerminalCall Unit) :=
  [.sendMessage {} defaultProtoId, .sendMessage {} defaultProtoId,
    .sendMessage {} defaultProtoId, acknowledging 0xffff 0xffff]

/-- The lost packet loses its bit and stays in the list, the received one keeps its bit. -/
theorem books_broken_at_wrap : ¬ ∀ t : PvpTerminal Unit,
    Reach callStep always newTerminal t → Bookkeeping t := by
  intro all
  obtain ⟨u, run, broken⟩ := execWithin_any callStep (fun _ _ => True) (idleTerminal 0xfffd)
    lossBeforeWrap (fun u : PvpTerminal Unit => decide
      (0xfffe ∈ u.sentMessage.map wireNo ∧ u.seqNo = 1 ∧ u.remoteAckBits = 0xfffffffc))
    (by decide +kernel)
  obtain ⟨listed, seqNo, bits⟩ := of_decide_eq_true broken
  have whole := reach_trans (idle_reached (by decide) (by decide))
    (reach_weaken (fun _ _ _ => trivial) run)
  obtain ⟨b, inside, clear, number⟩ := ((all u whole).exact _).mp listed
  unfold bitNo at number
  rw [bits] at clear
  rw [seqNo] at number
  revert b
  decide

theorem books_kept_in_one_exchange : ∃ t : PvpTerminal Unit,
    execWithin callStep AcksBelowSent newTerminal opening = some t ∧ Bookkeeping t := by
  obtain ⟨t, ran⟩ : ∃ t, execWithin callStep AcksBelowSent newTerminal opening = some t :=
    Option.isSome_iff_exists.mp (by decide +kernel)
  exact ⟨t, ran, (bookkeeping_while_acks_below_sent (execWithin_reach ran)).1⟩

end LaluneServer.Pvp
