import LaluneServer.Pvp.Bookkeeping

/- What the ack fields of one packet achieve. receiveMessage looks for duplicates
   first and leaves the loop before it reads ack_no and ack_bits, although
   resendMessages renews both fields of a packet that it sends again. -/
namespace LaluneServer.Pvp
open BitWindow Transition

variable {Data : Type*}

/-- One of the last 32 numbers of this terminal, with no wrap since. -/
def RecentlySent (t : PvpTerminal Data) (ackNo : BitVec 16) : Prop :=
  0 < ackNo.toNat ∧ ackNo.toNat ≤ t.seqNo.toNat ∧ t.seqNo.toNat < ackNo.toNat + 32

def sentAfter (t : PvpTerminal Data) (ackNo : BitVec 16) : Nat := t.seqNo.toNat - ackNo.toNat

/-- Bit i of the message acknowledges a packet that is still kept. -/
def AcksKept (t : PvpTerminal Data) (message : PvpMessage Data) (i : Nat) : Prop :=
  message.ackBits.getLsbD i = true ∧
    prevSeqNo (message.ackNo.setWidth 16) (BitVec.ofNat 16 i) ∈ t.sentMessage.map wireNo

def AcksDone (t u : PvpTerminal Data) (message : PvpMessage Data) : Prop :=
  ∀ i, i < 32 → AcksKept t message i →
    prevSeqNo (message.ackNo.setWidth 16) (BitVec.ofNat 16 i) ∉ u.sentMessage.map wireNo ∧
    u.remoteAckBits.getLsbD (i + sentAfter t (message.ackNo.setWidth 16)) = true

/-- The message is no duplicate, and each packet it acknowledges is kept once and
    stands under a cleared bit of the window. -/
def AcksHeard (t : PvpTerminal Data) (message : PvpMessage Data) : Prop :=
  ∀ i, i < 32 → AcksKept t message i →
    NewPacket t (message.seqNo.setWidth 16) ∧
    i + sentAfter t (message.ackNo.setWidth 16) < 32 ∧
    t.remoteAckBits.getLsbD (i + sentAfter t (message.ackNo.setWidth 16)) = false ∧
    (t.sentMessage.map wireNo).count
      (prevSeqNo (message.ackNo.setWidth 16) (BitVec.ofNat 16 i)) = 1

section
variable {t : PvpTerminal Data} {ackNo : BitVec 16} {ackBits : BitVec 32}

theorem diff_of_recently_sent (recent : RecentlySent t ackNo) :
    diffBetweenSequenceNumbers t.seqNo (ackNo.setWidth 32) = sentAfter t ackNo := by
  obtain ⟨_, below, near⟩ := recent
  have distance : ((t.seqNo.toNat : Int) - ackNo.toNat) = (sentAfter t ackNo : Int) := by
    unfold sentAfter
    omega
  simp only [diffBetweenSequenceNumbers, diff_toInt, distance]
  rw [if_neg (by omega), if_neg (by unfold sentAfter; omega)]

theorem sentAfter_lt (recent : RecentlySent t ackNo) : sentAfter t ackNo < 32 := by
  obtain ⟨_, below, near⟩ := recent
  unfold sentAfter
  omega

theorem dropMessage_numbers (no : BitVec 16) :
    (dropMessage t no).sentMessage.map wireNo = (t.sentMessage.map wireNo).erase no := by
  unfold dropMessage
  simp only
  induction t.sentMessage with
  | nil => rfl
  | cons message rest ih =>
    by_cases carries : wireNo message = no
    · have found : carriesNo no message = true := decide_eq_true carries
      rw [List.eraseP_cons_of_pos found, List.map_cons, carries, List.erase_cons_head]
    · have missed : ¬ carriesNo no message = true := by
        simpa [carriesNo, wireNo] using carries
      rw [List.eraseP_cons_of_neg missed, List.map_cons, List.map_cons, ih,
        List.erase_cons_tail (by simpa using carries)]

structure AfterTurns (ackNo : BitVec 16) (ackBits : BitVec 32) (d n : Nat)
    (t u : PvpTerminal Data) : Prop where
  bits : ∀ k, k < 32 → (u.remoteAckBits.getLsbD k = true ↔
    t.remoteAckBits.getLsbD k = true ∨ d ≤ k ∧ k < n + d ∧ ackBits.getLsbD (k - d) = true)
  dropped : ∀ i, i < n → t.remoteAckBits.getLsbD (i + d) = false → ackBits.getLsbD i = true →
    (u.sentMessage.map wireNo).count (prevSeqNo ackNo (BitVec.ofNat 16 i)) =
      (t.sentMessage.map wireNo).count (prevSeqNo ackNo (BitVec.ofNat 16 i)) - 1
  kept : ∀ i, i < 32 →
    (n ≤ i ∨ ¬ (t.remoteAckBits.getLsbD (i + d) = false ∧ ackBits.getLsbD i = true)) →
    (u.sentMessage.map wireNo).count (prevSeqNo ackNo (BitVec.ofNat 16 i)) =
      (t.sentMessage.map wireNo).count (prevSeqNo ackNo (BitVec.ofNat 16 i))

theorem afterTurns_zero (d : Nat) : AfterTurns ackNo ackBits d 0 t t := by
  constructor
  · intro k _
    refine (or_iff_left ?_).symm
    rintro ⟨above, past, _⟩
    omega
  · intro i before
    exact absurd before (by omega)
  · intro i _ _
    rfl

section turn
variable {u : PvpTerminal Data} {d n : Nat}

theorem afterTurns_fresh (before : AfterTurns ackNo ackBits d n t u) (inside : n + d < 32) :
    u.remoteAckBits.getLsbD (n + d) = t.remoteAckBits.getLsbD (n + d) := by
  rw [Bool.eq_iff_iff, before.bits (n + d) inside]
  refine or_iff_left ?_
  rintro ⟨_, past, _⟩
  omega

theorem afterTurns_effective (before : AfterTurns ackNo ackBits d n t u) (inside : n + d < 32)
    (clear : t.remoteAckBits.getLsbD (n + d) = false) (acked : ackBits.getLsbD n = true) :
    AfterTurns ackNo ackBits d (n + 1) t (acknowledgeBit ackNo ackBits d u n) := by
  rw [acknowledgeBit_effective inside ((afterTurns_fresh before inside).trans clear) acked]
  have others : ∀ i, i < 32 → i ≠ n → ((dropMessage
      { u with remoteAckBits := u.remoteAckBits ||| 1#32 <<< (n + d) }
      (prevSeqNo ackNo (BitVec.ofNat 16 n))).sentMessage.map wireNo).count
        (prevSeqNo ackNo (BitVec.ofNat 16 i)) =
      (u.sentMessage.map wireNo).count (prevSeqNo ackNo (BitVec.ofNat 16 i)) := by
    intro i small other
    rw [dropMessage_numbers]
    refine List.count_erase_of_ne ?_
    exact fun same => other (prevSeqNo_injective small (by omega) same)
  constructor
  · intro k small
    show (u.remoteAckBits ||| 1#32 <<< (n + d)).getLsbD k = true ↔ _
    rw [getLsbD_mark _ inside, before.bits k small, or_assoc]
    refine or_congr_right ?_
    constructor
    · rintro (⟨above, past, earlier⟩ | rfl)
      · exact ⟨above, by omega, earlier⟩
      · exact ⟨by omega, by omega, by rw [Nat.add_sub_cancel]; exact acked⟩
    · rintro ⟨above, past, earlier⟩
      rcases Nat.lt_succ_iff_lt_or_eq.mp (show k < (n + d) + 1 by omega) with old | now
      · exact Or.inl ⟨above, old, earlier⟩
      · exact Or.inr now
  · intro i past clearI ackedI
    rcases Nat.lt_succ_iff_lt_or_eq.mp past with old | rfl
    · rw [others i (by omega) (by omega)]
      exact before.dropped i old clearI ackedI
    · rw [dropMessage_numbers, List.count_erase_self, before.kept i (by omega) (Or.inl le_rfl)]
  · intro i small still
    have other : i ≠ n := by
      rintro rfl
      rcases still with past | idle
      · omega
      · exact idle ⟨clear, acked⟩
    rw [others i small other]
    exact before.kept i small (still.imp_left (by omega))

theorem afterTurns_idle (before : AfterTurns ackNo ackBits d n t u) (inside : n + d < 32)
    (idle : ¬ (t.remoteAckBits.getLsbD (n + d) = false ∧ ackBits.getLsbD n = true)) :
    AfterTurns ackNo ackBits d (n + 1) t (acknowledgeBit ackNo ackBits d u n) := by
  rw [acknowledgeBit_idle inside (by rw [afterTurns_fresh before inside]; exact idle)]
  constructor
  · intro k small
    rw [before.bits k small]
    constructor
    · rintro (old | ⟨above, past, acked⟩)
      · exact Or.inl old
      · exact Or.inr ⟨above, by omega, acked⟩
    · rintro (old | ⟨above, past, acked⟩)
      · exact Or.inl old
      · rcases Nat.lt_succ_iff_lt_or_eq.mp (show k < (n + d) + 1 by omega) with earlier | rfl
        · exact Or.inr ⟨above, earlier, acked⟩
        · rw [Nat.add_sub_cancel] at acked
          refine Or.inl ?_
          rw [← Bool.not_eq_false]
          exact fun clear => idle ⟨clear, acked⟩
  · intro i past clear acked
    rcases Nat.lt_succ_iff_lt_or_eq.mp past with old | rfl
    · exact before.dropped i old clear acked
    · exact absurd ⟨clear, acked⟩ idle
  · intro i small still
    refine before.kept i small ?_
    rcases still with past | still
    · exact Or.inl (by omega)
    · exact Or.inr still

end turn

theorem afterTurns_all {d : Nat} (n : Nat) (room : n + d ≤ 32) : AfterTurns ackNo ackBits d n t
    ((List.range n).foldl (acknowledgeBit ackNo ackBits d) t) := by
  induction n with
  | zero => exact afterTurns_zero d
  | succ n ih =>
    rw [List.range_succ, List.foldl_append, List.foldl_cons, List.foldl_nil]
    by_cases effect : t.remoteAckBits.getLsbD (n + d) = false ∧ ackBits.getLsbD n = true
    · exact afterTurns_effective (ih (by omega)) (by omega) effect.1 effect.2
    · exact afterTurns_idle (ih (by omega)) (by omega) effect

theorem afterTurns_updateRemoteAckBits (recent : RecentlySent t ackNo) :
    AfterTurns ackNo ackBits (sentAfter t ackNo) (32 - sentAfter t ackNo) t
      (updateRemoteAckBits t ackNo ackBits) := by
  have inside := sentAfter_lt recent
  unfold updateRemoteAckBits
  simp only [diff_of_recently_sent recent]
  rw [if_pos (by omega), Int.toNat_natCast,
    show (32 - (sentAfter t ackNo : Int)).toNat = 32 - sentAfter t ackNo by omega]
  exact afterTurns_all _ (by omega)

theorem acknowledged_packet_gone_iff (recent : RecentlySent t ackNo) {i : Nat} (small : i < 32)
    (acked : ackBits.getLsbD i = true)
    (listed : prevSeqNo ackNo (BitVec.ofNat 16 i) ∈ t.sentMessage.map wireNo) :
    (prevSeqNo ackNo (BitVec.ofNat 16 i) ∉
        (updateRemoteAckBits t ackNo ackBits).sentMessage.map wireNo ∧
      (updateRemoteAckBits t ackNo ackBits).remoteAckBits.getLsbD
        (i + sentAfter t ackNo) = true) ↔
    i + sentAfter t ackNo < 32 ∧ t.remoteAckBits.getLsbD (i + sentAfter t ackNo) = false ∧
      (t.sentMessage.map wireNo).count (prevSeqNo ackNo (BitVec.ofNat 16 i)) = 1 := by
  have loop : AfterTurns ackNo ackBits _ _ t (updateRemoteAckBits t ackNo ackBits) :=
    afterTurns_updateRemoteAckBits recent
  have some_kept := List.count_pos_iff.mpr listed
  rw [← List.count_eq_zero]
  constructor
  · rintro ⟨gone, set⟩
    have effective : i < 32 - sentAfter t ackNo ∧
        t.remoteAckBits.getLsbD (i + sentAfter t ackNo) = false := by
      by_contra idle
      have still := loop.kept i small (by
        rcases Nat.lt_or_ge i (32 - sentAfter t ackNo) with inside | beyond
        · exact Or.inr (fun effect => idle ⟨inside, effect.1⟩)
        · exact Or.inl beyond)
      omega
    have once := loop.dropped i effective.1 effective.2 acked
    exact ⟨by omega, effective.2, by omega⟩
  · rintro ⟨inside, clear, once⟩
    have dropped := loop.dropped i (by omega) clear acked
    refine ⟨by omega, ?_⟩
    refine (loop.bits _ inside).mpr (Or.inr ⟨by omega, by omega, ?_⟩)
    rw [Nat.add_sub_cancel]
    exact acked

end

section
variable {t u : PvpTerminal Data} {message : PvpMessage Data}

theorem receiveMessage_reaches_acks (connected : t.state = .connected)
    (data : message.protoId.setWidth 16 ≠ syncProtoId)
    (moved : callStep t (.receiveMessage message) = some u) :
    (¬ NewPacket t (message.seqNo.setWidth 16) ∧ u.sentMessage = t.sentMessage) ∨
    (NewPacket t (message.seqNo.setWidth 16) ∧ ∃ v : PvpTerminal Data,
      v.sentMessage = t.sentMessage ∧ v.remoteAckBits = t.remoteAckBits ∧ v.seqNo = t.seqNo ∧
      u = updateRemoteAckBits v (message.ackNo.setWidth 16) message.ackBits) := by
  obtain ⟨r, received, rfl⟩ := Option.map_eq_some_iff.mp moved
  have opened : t.state ≠ .disconnected := by
    rw [connected]
    decide
  cases receives_of_receiveMessage received with
  | ignored idle => exact absurd (idle.mpr opened) data
  | handshake sync _ => exact absurd sync data
  | duplicate _ _ duplicate =>
    have known := updateAckInfo_duplicate duplicate
    exact Or.inl ⟨known, rfl⟩
  | accepted _ _ updated =>
    obtain ⟨new, frame⟩ := updateAckInfo_accepted updated
    refine Or.inr ⟨new, _, ?_, ?_, ?_, rfl⟩
    · rw [frame]
    · rw [frame]
    · rw [frame]

theorem acksDone_iff (connected : t.state = .connected)
    (data : message.protoId.setWidth 16 ≠ syncProtoId)
    (recent : RecentlySent t (message.ackNo.setWidth 16))
    (moved : callStep t (.receiveMessage message) = some u) :
    AcksDone t u message ↔ AcksHeard t message := by
  rcases receiveMessage_reaches_acks connected data moved with
    ⟨known, kept⟩ | ⟨new, v, messages, bits, seqNo, rfl⟩
  · constructor
    · intro done i small acks
      have gone := (done i small acks).1
      rw [kept] at gone
      exact absurd acks.2 gone
    · intro heard i small acks
      exact absurd (heard i small acks).1 known
  · have recentV : RecentlySent v (message.ackNo.setWidth 16) := by
      unfold RecentlySent
      rw [seqNo]
      exact recent
    have after : sentAfter v (message.ackNo.setWidth 16) =
        sentAfter t (message.ackNo.setWidth 16) := by
      unfold sentAfter
      rw [seqNo]
    refine forall₃_congr ?_
    rintro i small ⟨acked, listed⟩
    rw [← messages] at listed
    have gone := acknowledged_packet_gone_iff recentV small acked listed
    rw [messages, bits, after] at gone
    rw [gone]
    exact (and_iff_right new).symm

theorem acksHeard_iff_new (books : Bookkeeping t)
    (recent : RecentlySent t (message.ackNo.setWidth 16)) :
    AcksHeard t message ↔
    NewPacket t (message.seqNo.setWidth 16) ∨ ∀ i, i < 32 → ¬ AcksKept t message i := by
  constructor
  · intro heard
    by_cases none : ∀ i, i < 32 → ¬ AcksKept t message i
    · exact Or.inr none
    · push Not at none
      obtain ⟨i, small, acks⟩ := none
      exact Or.inl (heard i small acks).1
  · rintro (new | none) i small acks
    · obtain ⟨b, insideB, clear, number⟩ := (books.exact _).mp acks.2
      obtain ⟨positive, below, near⟩ := recent
      have equal : b = i + sentAfter t (message.ackNo.setWidth 16) := by
        have place := congrArg BitVec.toNat number
        unfold bitNo at place
        rw [prevSeqNo_toNat _ (by omega), prevSeqNo_toNat _ (by omega)] at place
        have bound := t.seqNo.isLt
        unfold sentAfter
        split at place <;> split at place <;> omega
      rw [← equal]
      exact ⟨new, insideB, clear, List.count_eq_one_of_mem books.distinct acks.2⟩
    · exact absurd acks (none i small)

end

/-- A message to a connected terminal whose ack_no is one of the last 32 numbers has its
    acknowledgements heard exactly under `AcksHeard`; in a run whose acknowledgements
    stay below the last number sent that is every message but a duplicate that
    acknowledges something. -/
theorem acknowledgements_take_effect_iff {t u : PvpTerminal Data} {message : PvpMessage Data}
    (connected : t.state = .connected) (data : message.protoId.setWidth 16 ≠ syncProtoId)
    (recent : RecentlySent t (message.ackNo.setWidth 16))
    (moved : callStep t (.receiveMessage message) = some u) :
    (AcksDone t u message ↔ AcksHeard t message) ∧
    (Reach callStep AcksBelowSent newTerminal t → (AcksDone t u message ↔
      NewPacket t (message.seqNo.setWidth 16) ∨ ∀ i, i < 32 → ¬ AcksKept t message i)) := by
  have done := acksDone_iff connected data recent moved
  refine ⟨done, ?_⟩
  intro run
  exact done.trans (acksHeard_iff_new (bookkeeping_of_run run).1 recent)

def peerPacket (seqNo ackNo : Nat) : PvpMessage Unit where
  protoId := 1
  seqNo := BitVec.ofNat 32 seqNo
  ackNo := BitVec.ofNat 32 ackNo
  ackBits := 3

instance (t : PvpTerminal Data) (ackNo : BitVec 16) : Decidable (RecentlySent t ackNo) :=
  inferInstanceAs (Decidable (_ ∧ _ ∧ _))

instance (t : PvpTerminal Data) (message : PvpMessage Data) (i : Nat) :
    Decidable (AcksKept t message i) := inferInstanceAs (Decidable (_ ∧ _))

theorem acknowledgements_of_next_packet : ∃ u : PvpTerminal Unit,
    callStep (awaiting 41) (.receiveMessage (peerPacket 43 42)) = some u ∧
    AcksDone (awaiting 41) u (peerPacket 43 42) := by
  obtain ⟨u, moved⟩ : ∃ u, callStep (awaiting 41) (.receiveMessage (peerPacket 43 42)) = some u :=
    Option.isSome_iff_exists.mp (by decide +kernel)
  have ran : execWithin callStep AcksBelowSent newTerminal
      (opening ++ [.sendMessage {} defaultProtoId]) = some (awaiting 41) := by
    decide +kernel
  have new : NewPacket (awaiting 41) ((peerPacket 43 42).seqNo.setWidth 16) := by
    decide +kernel
  have clean := acknowledgements_take_effect_iff rfl (by decide) (by decide) moved
  exact ⟨u, moved, (clean.2 (execWithin_reach ran)).mpr (Or.inl new)⟩

/-- The last packet of the peer comes again and acknowledges the packet that waits. -/
theorem acknowledgement_lost_in_duplicate : ¬ ∀ (t u : PvpTerminal Unit)
    (message : PvpMessage Unit), Reach callStep always newTerminal t → t.state = .connected →
    message.protoId.setWidth 16 ≠ syncProtoId →
    RecentlySent t (message.ackNo.setWidth 16) →
    callStep t (.receiveMessage message) = some u → AcksDone t u message := by
  intro all
  have run : Reach callStep always newTerminal (awaiting 41) :=
    .tail _ (idle_reached (by decide) (by decide)) trivial (idle_sends (by decide))
  have moved : callStep (awaiting 41) (.receiveMessage (peerPacket 42 42)) =
      some (awaiting 41) := by
    decide +kernel
  have done := all _ _ _ run rfl (by decide) (by decide) moved
  exact absurd (done 0 (by decide) (by decide +kernel)).2 (by decide +kernel)

end LaluneServer.Pvp
