import LaluneServer.Pvp.Bookkeeping

/- What waits in _to_send_messages. Only sendMessage drains the queue, four packets
   at most in one call; acknowledgements open the window without draining it. -/
namespace LaluneServer.Pvp
open Transition

variable {Data : Type*}

/-- The number 32 below the next one is not acknowledged. -/
def WindowFull (t : PvpTerminal Data) : Prop := t.remoteAckBits &&& 0x80000000 = 0

instance (t : PvpTerminal Data) : Decidable (WindowFull t) :=
  inferInstanceAs (Decidable (_ = _))

def IsSend : TerminalCall Data → Prop
  | .sendMessage .. => True
  | _ => False

section
variable {t u : PvpTerminal Data}

/-- A connected terminal stops only at an empty queue, a full window or its limit. -/
theorem sendRounds_drains (rounds : Nat) (connected : t.state = .connected) :
    (sendRounds rounds t).1.state = .connected ∧
    ((sendRounds rounds t).1.toSendMessages = [] ∨ WindowFull (sendRounds rounds t).1 ∨
      (sendRounds rounds t).2.length = rounds) := by
  induction rounds generalizing t with
  | zero => exact ⟨connected, Or.inr (Or.inr rfl)⟩
  | succ rounds ih =>
    unfold sendRounds
    cases queue : t.toSendMessages with
    | nil => exact ⟨connected, Or.inl queue⟩
    | cons message rest =>
      simp only
      split
      · rename_i full
        exact ⟨connected, Or.inr (Or.inl full)⟩
      · have sent : directSendMessage (numberMessage t message rest).2
            (numberMessage t message rest).1 = (true, { (numberMessage t message rest).2 with
              maxResentBit := (numberMessage t message rest).2.maxResentBit - 1 }) := by
          have open_state : (numberMessage t message rest).2.state = .connected := connected
          simp [directSendMessage, open_state]
        rw [sent]
        obtain ⟨state, stopped⟩ := ih (t := { (numberMessage t message rest).2 with
          maxResentBit := (numberMessage t message rest).2.maxResentBit - 1 }) connected
        refine ⟨state, stopped.imp_right (Or.imp_right ?_)⟩
        intro count
        simp only [List.length_cons, count]

theorem sendMessage_drains (connected : t.state = .connected) (message : PvpMessage Data)
    (protoId : BitVec 16) :
    (sendMessage t message protoId).1.state = .connected ∧
    ((sendMessage t message protoId).1.toSendMessages = [] ∨
      WindowFull (sendMessage t message protoId).1 ∨
      (sendMessage t message protoId).2.length = 4) :=
  sendRounds_drains 4 connected

theorem sendMessage_state (message : PvpMessage Data) (protoId : BitVec 16) :
    (sendMessage t message protoId).1.state = t.state := by
  refine sendRounds_preserves (fun u : PvpTerminal Data => u.state = t.state) ?_ ?_ 4 _ rfl
  · intro u message rest same _ _
    exact same
  · intro u count same
    exact same

theorem sendMessage_sync (empty : t.toSendMessages = []) (seqNo : BitVec 16) :
    (sendMessage (acceptSync t seqNo) {} syncProtoId).1.toSendMessages = [] := by
  have own : (syncProtoId.setWidth 32).setWidth 16 = syncProtoId := by decide
  simp [sendMessage, handleToSendQueue, sendRounds, acceptSync, empty, numberMessage,
    directSendMessage, own]

/-- A received packet leaves the queue alone unless it starts a handshake. -/
theorem receiveMessage_queue {message : PvpMessage Data}
    (moved : callStep t (.receiveMessage message) = some u) :
    (u.toSendMessages = t.toSendMessages ∧ (t.state = .connected → u.state = .connected)) ∨
    (t.state = .disconnected ∧ u = (sendMessage (acceptSync { t with totalTimeNoMessage := 0 }
      (message.seqNo.setWidth 16)) {} syncProtoId).1) := by
  obtain ⟨r, received, rfl⟩ := Option.map_eq_some_iff.mp moved
  cases receives_of_receiveMessage received with
  | ignored idle => exact Or.inl ⟨rfl, id⟩
  | handshake sync disconnected => exact Or.inr ⟨disconnected, rfl⟩
  | duplicate data opened known => exact Or.inl ⟨rfl, fun _ => rfl⟩
  | accepted data opened updated =>
    rename_i v
    obtain ⟨_, frame⟩ := updateAckInfo_accepted updated
    have queue : v.toSendMessages = t.toSendMessages := by
      rw [frame]
    have state : v.state = .connected := by
      rw [frame]
    refine Or.inl ?_
    simp only
    rw [updateRemoteAckBits_frame]
    exact ⟨queue, fun _ => state⟩

theorem callStep_queue {c : TerminalCall Data} (silent : ¬ IsSend c)
    (connected : t.state = .connected) (moved : callStep t c = some u) :
    u.state = .connected ∧ u.toSendMessages = t.toSendMessages := by
  cases c with
  | sendMessage message protoId => exact absurd trivial silent
  | resendMessages =>
    obtain rfl := Option.some.inj moved
    obtain ⟨messages, frame, _⟩ := resendMessages_frame t
    show (resendMessages t).1.state = _ ∧ (resendMessages t).1.toSendMessages = _
    rw [frame]
    exact ⟨connected, rfl⟩
  | receiveMessage message =>
    rcases receiveMessage_queue moved with ⟨queue, still⟩ | ⟨disconnected, _⟩
    · exact ⟨still connected, queue⟩
    · rw [disconnected] at connected
      contradiction

theorem callStep_queue_empty {c : TerminalCall Data} (silent : ¬ IsSend c)
    (empty : t.toSendMessages = []) (moved : callStep t c = some u) : u.toSendMessages = [] := by
  cases c with
  | sendMessage message protoId => exact absurd trivial silent
  | resendMessages =>
    obtain rfl := Option.some.inj moved
    obtain ⟨messages, frame, _⟩ := resendMessages_frame t
    show (resendMessages t).1.toSendMessages = _
    rw [frame]
    exact empty
  | receiveMessage message =>
    rcases receiveMessage_queue moved with ⟨queue, _⟩ | ⟨_, rfl⟩
    · rw [queue, empty]
    · exact sendMessage_sync (t := { t with totalTimeNoMessage := 0 }) empty _

end

def LastSend (calls : List (TerminalCall Data)) (t : PvpTerminal Data)
    (message : PvpMessage Data) (protoId : BitVec 16) : Prop :=
  ∃ earlier later, calls = earlier ++ .sendMessage message protoId :: later ∧
    (∀ c ∈ later, ¬ IsSend c) ∧ exec callStep newTerminal earlier = some t

section
variable {calls : List (TerminalCall Data)} {u : PvpTerminal Data}

theorem LastSend.silent {t : PvpTerminal Data} {message : PvpMessage Data} {protoId : BitVec 16}
    (last : LastSend calls t message protoId) {c : TerminalCall Data} (silent : ¬ IsSend c) :
    LastSend (calls ++ [c]) t message protoId := by
  obtain ⟨earlier, later, rfl, quiet, ran⟩ := last
  refine ⟨earlier, later ++ [c], by simp, ?_, ran⟩
  intro d mem
  rcases List.mem_append.mp mem with old | new
  · exact quiet d old
  · rw [List.mem_singleton.mp new]
    exact silent

theorem queue_since_last_send (ran : exec callStep newTerminal calls = some u) :
    ((∀ c ∈ calls, ¬ IsSend c) ∧ u.toSendMessages = []) ∨
    ∃ t message protoId, LastSend calls t message protoId ∧
      (t.state = .connected → u.state = .connected ∧
        u.toSendMessages = (sendMessage t message protoId).1.toSendMessages) := by
  induction calls using List.reverseRecOn generalizing u with
  | nil =>
    obtain rfl := Option.some.inj ran
    exact Or.inl ⟨by simp, rfl⟩
  | append_singleton calls c ih =>
    obtain ⟨s, before, moved⟩ := exec_concat ran
    by_cases silent : IsSend c
    · cases c with
      | sendMessage message protoId =>
        obtain rfl := Option.some.inj moved
        refine Or.inr ⟨s, message, protoId, ⟨calls, [], rfl, by simp, before⟩, ?_⟩
        intro connected
        exact ⟨(sendMessage_state message protoId).trans connected, rfl⟩
      | resendMessages => exact silent.elim
      | receiveMessage message => exact silent.elim
    · rcases ih before with ⟨quiet, empty⟩ | ⟨t, message, protoId, sent, kept⟩
      · refine Or.inl ⟨?_, callStep_queue_empty silent empty moved⟩
        intro d mem
        rcases List.mem_append.mp mem with old | new
        · exact quiet d old
        · rw [List.mem_singleton.mp new]
          exact silent
      · refine Or.inr ⟨t, message, protoId, sent.silent silent, ?_⟩
        intro connected
        obtain ⟨state, queue⟩ := kept connected
        obtain ⟨stateU, queueU⟩ := callStep_queue silent state moved
        exact ⟨stateU, queueU.trans queue⟩

/-- A message waits in a connected terminal whose window is not full only if the last
    sendMessage came before the connection, found the window filled up, or sent the
    four packets that one call may send. -/
theorem message_waits_only_since_last_send (ran : exec callStep newTerminal calls = some u) :
    u.toSendMessages = [] ∨ WindowFull u ∨
    ∃ t message protoId, LastSend calls t message protoId ∧
      (t.state ≠ .connected ∨ WindowFull (sendMessage t message protoId).1 ∨
        (sendMessage t message protoId).2.length = 4) := by
  rcases queue_since_last_send ran with ⟨_, empty⟩ | ⟨t, message, protoId, sent, kept⟩
  · exact Or.inl empty
  · by_cases connected : t.state = .connected
    · obtain ⟨_, drained | stopped⟩ := sendMessage_drains connected message protoId
      · exact Or.inl ((kept connected).2.trans drained)
      · exact Or.inr (Or.inr ⟨t, message, protoId, sent, Or.inr stopped⟩)
    · exact Or.inr (Or.inr ⟨t, message, protoId, sent, Or.inl connected⟩)

end

def crowdedWindow : List (TerminalCall Unit) :=
  [.receiveMessage { protoId := 2, seqNo := 1 }, acknowledging 2 1] ++
    List.replicate 33 (.sendMessage {} defaultProtoId)

def acknowledgesAll : TerminalCall Unit :=
  .receiveMessage { protoId := 1, seqNo := 3, ackNo := 33, ackBits := 0xffffffff }

theorem waiting_since_window_was_full : ∃ u : PvpTerminal Unit,
    exec callStep newTerminal (crowdedWindow ++ [acknowledgesAll]) = some u ∧
    (u.toSendMessages = [] ∨ WindowFull u ∨
    ∃ t message protoId, LastSend (crowdedWindow ++ [acknowledgesAll]) t message protoId ∧
      (t.state ≠ .connected ∨ WindowFull (sendMessage t message protoId).1 ∨
        (sendMessage t message protoId).2.length = 4)) := by
  obtain ⟨u, ran⟩ : ∃ u : PvpTerminal Unit,
      exec callStep newTerminal (crowdedWindow ++ [acknowledgesAll]) = some u :=
    Option.isSome_iff_exists.mp (by decide +kernel)
  exact ⟨u, ran, message_waits_only_since_last_send ran⟩

/-- The acknowledgements open the window, and the last message goes on waiting. -/
theorem message_waits_behind_open_window : ¬ ∀ (t u : PvpTerminal Unit) (c : TerminalCall Unit),
    Reach callStep always newTerminal t → callStep t c = some u → u.state = .connected →
    u.toSendMessages = [] ∨ WindowFull u := by
  intro all
  obtain ⟨t, run, passed⟩ := execWithin_any callStep (fun _ _ => True) newTerminal crowdedWindow
    (fun t : PvpTerminal Unit => (callStep t acknowledgesAll).any
      fun u : PvpTerminal Unit => decide
        (u.state = .connected ∧ u.toSendMessages ≠ [] ∧ ¬ WindowFull u))
    (by decide +kernel)
  obtain ⟨u, next, test⟩ := (Option.any_eq_true _ _).mp passed
  obtain ⟨connected, waits, opened⟩ := of_decide_eq_true test
  rcases all t u _ (reach_weaken (fun _ _ _ => trivial) run) next connected with empty | full
  · exact waits empty
  · exact opened full

end LaluneServer.Pvp
