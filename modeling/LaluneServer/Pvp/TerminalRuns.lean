import LaluneServer.Lib.Transition
import LaluneServer.Pvp.Window

/- One terminal under any calls: its owner sends, the timer ticks, and packets
   with arbitrary fields arrive. -/
namespace LaluneServer.Pvp

variable {Data : Type*}

inductive TerminalCall (Data : Type*) where
  | sendMessage (message : PvpMessage Data) (protoId : BitVec 16)
  | resendMessages
  | receiveMessage (message : PvpMessage Data)
  deriving DecidableEq, Repr

def call (t : PvpTerminal Data) : TerminalCall Data → Option (Received Data)
  | .sendMessage message protoId =>
    let (t, wire) := sendMessage t message protoId
    some ⟨t, wire, none⟩
  | .resendMessages =>
    let (t, wire) := resendMessages t
    some ⟨t, wire, none⟩
  | .receiveMessage message => receiveMessage t message

def callStep (t : PvpTerminal Data) (c : TerminalCall Data) : Option (PvpTerminal Data) :=
  (call t c).map Received.terminal

def runCalls : PvpTerminal Data → List (TerminalCall Data) →
    Option (PvpTerminal Data × List (Option (PvpMessage Data)))
  | t, [] => some (t, [])
  | t, c :: cs => do
    let done ← call t c
    let (final, parsed) ← runCalls done.terminal cs
    return (final, done.parsed :: parsed)

theorem runCalls_cons {t u final : PvpTerminal Data} {wire : List (PvpMessage Data)}
    {message : Option (PvpMessage Data)} {c : TerminalCall Data} {cs : List (TerminalCall Data)}
    {parsed : List (Option (PvpMessage Data))} (done : call t c = some ⟨u, wire, message⟩)
    (later : runCalls u cs = some (final, parsed)) :
    runCalls t (c :: cs) = some (final, message :: parsed) := by
  simp [runCalls, done, later]

theorem directSendMessage_cases (t : PvpTerminal Data) (message : PvpMessage Data) :
    directSendMessage t message = (false, t) ∨
    directSendMessage t message = (true, { t with maxResentBit := t.maxResentBit - 1 }) := by
  unfold directSendMessage
  split
  · exact Or.inl rfl
  · split
    · exact Or.inl rfl
    · exact Or.inr rfl

theorem sendRounds_preserves (P : PvpTerminal Data → Prop)
    (turn : ∀ t message rest, P t → t.toSendMessages = message :: rest →
      t.remoteAckBits.getLsbD 31 = true → P (numberMessage t message rest).2)
    (resent : ∀ t count, P t → P { t with maxResentBit := count })
    (rounds : Nat) (t : PvpTerminal Data) (initial : P t) : P (sendRounds rounds t).1 := by
  induction rounds generalizing t with
  | zero => exact initial
  | succ rounds ih =>
    unfold sendRounds
    cases queue : t.toSendMessages with
    | nil => exact initial
    | cons message rest =>
      simp only
      split
      · exact initial
      · rename_i free
        have top : t.remoteAckBits.getLsbD 31 = true := by
          cases bit : t.remoteAckBits.getLsbD 31
          · exact absurd ((top_bit_mask _).mpr bit) free
          · rfl
        have next := turn t message rest initial queue top
        rcases directSendMessage_cases (numberMessage t message rest).2
          (numberMessage t message rest).1 with kept | sent
        · rw [kept]
          exact next
        · rw [sent]
          exact ih _ (resent _ _ next)

theorem resendMessages_frame (t : PvpTerminal Data) : ∃ messages,
    (resendMessages t).1 = { t with sentMessage := messages, maxResentBit := 32 } ∧
    messages.map PvpMessage.seqNo = t.sentMessage.map PvpMessage.seqNo := by
  unfold resendMessages
  split
  · cases lostTurn t with
    | none => exact ⟨_, rfl, rfl⟩
    | some i =>
      simp only [resendPacket]
      cases getSentMessage t (prevSeqNo t.seqNo (BitVec.ofInt 16 (32 - i))) with
      | none => exact ⟨_, rfl, rfl⟩
      | some message =>
        refine ⟨replaceFirst (carriesNo (prevSeqNo t.seqNo (BitVec.ofInt 16 (32 - i))))
          (refreshAck t) t.sentMessage, ?_, replaceFirst_keys _ (refreshAck t) _ (fun _ => rfl) _⟩
        simp only
        rcases directSendMessage_cases { t with
          sentMessage := replaceFirst (carriesNo (prevSeqNo t.seqNo (BitVec.ofInt 16 (32 - i))))
            (refreshAck t) t.sentMessage } (refreshAck t message) with kept | sent
        · rw [kept]
        · rw [sent]
  · exact ⟨_, rfl, rfl⟩

theorem receiveMessage_data {t : PvpTerminal Data} (open_state : t.state ≠ .disconnected)
    {message : PvpMessage Data} (data : message.protoId.setWidth 16 ≠ syncProtoId) :
    receiveMessage t message =
      (updateAckInfo { t with totalTimeNoMessage := 0, state := .connected }
        (message.seqNo.setWidth 16)).map fun updated =>
        updated.elim ⟨{ t with totalTimeNoMessage := 0, state := .connected }, [], none⟩
          fun u => ⟨updateRemoteAckBits u (message.ackNo.setWidth 16) message.ackBits, [],
            some message⟩ := by
  have connects : leaveSync { t with totalTimeNoMessage := 0 } =
      { t with totalTimeNoMessage := 0, state := .connected } := by
    unfold leaveSync
    cases state : t.state with
    | disconnected => exact absurd state open_state
    | connected => simp
    | sync => simp
  unfold receiveMessage
  simp only [if_neg data, connects, ↓reduceIte]
  congr 1
  funext updated
  cases updated with
  | none => rfl
  | some u => rfl

theorem receiveMessage_ignored {t : PvpTerminal Data} {message : PvpMessage Data}
    (idle : message.protoId.setWidth 16 = syncProtoId ↔ t.state ≠ .disconnected) :
    receiveMessage t message = some ⟨{ t with totalTimeNoMessage := 0 }, [], none⟩ := by
  unfold receiveMessage
  by_cases sync : message.protoId.setWidth 16 = syncProtoId
  · simp only
    rw [if_pos sync, if_pos (idle.mp sync)]
  · have disconnected : t.state = .disconnected := not_not.mp (idle.not.mp sync)
    have shut : ¬ t.state = .sync ∧ ¬ t.state = .connected := by
      rw [disconnected]
      decide
    simp only [leaveSync, if_neg sync, if_neg shut.1, if_neg shut.2]

inductive Receives (t : PvpTerminal Data) (message : PvpMessage Data) : Received Data → Prop
  | ignored (idle : message.protoId.setWidth 16 = syncProtoId ↔ t.state ≠ .disconnected) :
    Receives t message ⟨{ t with totalTimeNoMessage := 0 }, [], none⟩
  | handshake (sync : message.protoId.setWidth 16 = syncProtoId)
    (disconnected : t.state = .disconnected) :
    Receives t message
      ⟨(sendMessage (acceptSync { t with totalTimeNoMessage := 0 }
          (message.seqNo.setWidth 16)) {} syncProtoId).1,
        (sendMessage (acceptSync { t with totalTimeNoMessage := 0 }
          (message.seqNo.setWidth 16)) {} syncProtoId).2, none⟩
  | duplicate (data : message.protoId.setWidth 16 ≠ syncProtoId)
    (opened : t.state ≠ .disconnected)
    (known : updateAckInfo { t with totalTimeNoMessage := 0, state := .connected }
      (message.seqNo.setWidth 16) = some none) :
    Receives t message ⟨{ t with totalTimeNoMessage := 0, state := .connected }, [], none⟩
  | accepted (data : message.protoId.setWidth 16 ≠ syncProtoId)
    (opened : t.state ≠ .disconnected) {u : PvpTerminal Data}
    (updated : updateAckInfo { t with totalTimeNoMessage := 0, state := .connected }
      (message.seqNo.setWidth 16) = some (some u)) :
    Receives t message
      ⟨updateRemoteAckBits u (message.ackNo.setWidth 16) message.ackBits, [], some message⟩

theorem receives_of_receiveMessage {t : PvpTerminal Data} {message : PvpMessage Data}
    {r : Received Data} (received : receiveMessage t message = some r) :
    Receives t message r := by
  by_cases sync : message.protoId.setWidth 16 = syncProtoId
  · unfold receiveMessage at received
    rw [if_pos sync] at received
    split at received
    · rename_i opened
      obtain rfl := Option.some.inj received
      exact .ignored (iff_of_true sync opened)
    · rename_i disconnected
      obtain rfl := Option.some.inj received
      exact .handshake sync (not_not.mp disconnected)
  · by_cases disconnected : t.state = .disconnected
    · have idle := iff_of_false sync (not_not.mpr disconnected)
      rw [receiveMessage_ignored idle] at received
      obtain rfl := Option.some.inj received
      exact .ignored idle
    · rw [receiveMessage_data disconnected sync, Option.map_eq_some_iff] at received
      obtain ⟨result, updated, rfl⟩ := received
      cases result with
      | none => exact .duplicate sync disconnected updated
      | some u => exact .accepted sync disconnected updated

theorem acknowledgeBit_cases (ackNo : BitVec 16) (ackBits : BitVec 32) (diff : Nat)
    (t : PvpTerminal Data) (i : Nat) :
    acknowledgeBit ackNo ackBits diff t i = t ∨
    (t.remoteAckBits &&& (1#32 <<< (i + diff)) = 0 ∧ ackBits &&& (1#32 <<< i) ≠ 0 ∧
      acknowledgeBit ackNo ackBits diff t i =
        dropMessage { t with remoteAckBits := t.remoteAckBits ||| 1#32 <<< (i + diff) }
          (prevSeqNo ackNo (BitVec.ofNat 16 i))) := by
  unfold acknowledgeBit
  by_cases effective : t.remoteAckBits &&& (1#32 <<< (i + diff)) = 0 ∧
      ackBits &&& (1#32 <<< i) ≠ 0
  · exact Or.inr ⟨effective.1, effective.2, if_pos effective⟩
  · exact Or.inl (if_neg effective)

theorem updateRemoteAckBits_preserves (P : PvpTerminal Data → Prop) {t : PvpTerminal Data}
    {ackNo : BitVec 16} {ackBits : BitVec 32}
    (turn : ∀ u i, P u → 0 ≤ diffBetweenSequenceNumbers t.seqNo (ackNo.setWidth 32) →
      i + (diffBetweenSequenceNumbers t.seqNo (ackNo.setWidth 32)).toNat < 32 →
      P (acknowledgeBit ackNo ackBits
        (diffBetweenSequenceNumbers t.seqNo (ackNo.setWidth 32)).toNat u i))
    (initial : P t) : P (updateRemoteAckBits t ackNo ackBits) := by
  unfold updateRemoteAckBits
  simp only
  split
  · rename_i nonneg
    refine List.foldlRecOn _ _ initial ?_
    intro u inv i mem
    have := List.mem_range.mp mem
    exact turn u i inv nonneg (by omega)
  · exact initial

theorem updateRemoteAckBits_frame (t : PvpTerminal Data) (ackNo : BitVec 16)
    (ackBits : BitVec 32) : updateRemoteAckBits t ackNo ackBits = { t with
      remoteAckBits := (updateRemoteAckBits t ackNo ackBits).remoteAckBits
      sentMessage := (updateRemoteAckBits t ackNo ackBits).sentMessage } := by
  refine updateRemoteAckBits_preserves (fun u : PvpTerminal Data =>
    u = { t with remoteAckBits := u.remoteAckBits, sentMessage := u.sentMessage }) ?_ rfl
  intro u i frame _ _
  rcases acknowledgeBit_cases ackNo ackBits
    (diffBetweenSequenceNumbers t.seqNo (ackNo.setWidth 32)).toNat u i with same | ⟨_, _, dropped⟩
  · rw [same]
    exact frame
  · rw [dropped, frame]
    rfl

end LaluneServer.Pvp
