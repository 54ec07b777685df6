import LaluneServer.Pvp.Network

/- From every connected start the two terminals can lock each other. Both fill
   their windows before they receive anything; after that every packet in flight
   is a duplicate, and a duplicate is dropped before its acknowledgements are
   read. A copy whose shift is undefined has no next state: no continuation
   through it is promised. -/
namespace LaluneServer.Pvp
open SkipZero Transition

variable {Data : Type*}

def Held (start : Nat) (m : PvpMessage (Nat × Data)) : Prop :=
  start < position m ∧ position m ≤ start + 32 ∧
    m.seqNo = (seqNumber (position m)).setWidth 32

/-- The sender is blocked and the receiver knows every packet it holds. -/
structure Blocked (start : Nat) (snd rcv : Endpoint Data) : Prop where
  connected : snd.terminal.state = .connected
  full : snd.terminal.remoteAckBits.getLsbD 31 = false
  waiting : snd.terminal.sentMessage ≠ []
  held : ∀ m ∈ snd.terminal.sentMessage, Held start m
  wire : ∀ m ∈ snd.wire, Held start m
  receiver : ReceiverWindow start (start + 32) rcv.received rcv.terminal
  known : ∀ p, start < p → p ≤ start + 32 → p ∈ rcv.received

structure Locked (start back : Nat) (x y : Endpoint Data) : Prop where
  there : Blocked start x y
  home : Blocked back y x

section
variable {start back : Nat} {x y u : Endpoint Data}

theorem Locked.symm (l : Locked start back x y) : Locked back start y x :=
  ⟨l.home, l.there⟩

theorem locked_quiet (l : Locked start back x y) {t : PvpTerminal (Nat × Data)} {accepted : Nat}
    {wire : List (PvpMessage (Nat × Data))}
    (state : t.state = x.terminal.state) (ackNo : t.ackNo = x.terminal.ackNo)
    (ackBits : t.ackBits = x.terminal.ackBits)
    (bits : t.remoteAckBits = x.terminal.remoteAckBits) (waiting : t.sentMessage ≠ [])
    (held : ∀ m ∈ t.sentMessage, Held start m) (fresh : ∀ m ∈ wire, Held start m) :
    Locked start back { x with
      accepted := accepted, terminal := t, wire := x.wire ++ wire } y := by
  obtain ⟨connected, full, _, _, old, receiver, known⟩ := l.there
  refine ⟨⟨state.trans connected, ?_, waiting, held, ?_, receiver, known⟩, ?_⟩
  · show t.remoteAckBits.getLsbD 31 = false
    rw [bits]
    exact full
  · intro m mem
    rcases List.mem_append.mp mem with before | new
    · exact old m before
    · exact fresh m new
  · obtain ⟨connected, full, waiting, held, wire, receiver, known⟩ := l.home
    exact ⟨connected, full, waiting, held, wire, receiver.of_same_acks ackNo ackBits, known⟩

theorem sendRounds_blocked {t : PvpTerminal Data} (full : t.remoteAckBits.getLsbD 31 = false)
    (rounds : Nat) : sendRounds rounds t = (t, []) := by
  cases rounds with
  | zero => rfl
  | succ rounds =>
    have clear := (top_bit_mask _).mpr full
    unfold sendRounds
    cases t.toSendMessages with
    | nil => rfl
    | cons message rest => exact if_pos clear

theorem locked_send (l : Locked start back x y) (protoId : BitVec 16) (data : Data) :
    Locked start back (x.send protoId data) y := by
  unfold Endpoint.send sendMessage handleToSendQueue
  rw [sendRounds_blocked (by exact l.there.full)]
  exact locked_quiet l rfl rfl rfl rfl l.there.waiting l.there.held (fun m none => by simp at none)

theorem replaceFirst_ne_nil {test : PvpMessage Data → Bool}
    {change : PvpMessage Data → PvpMessage Data} {l : List (PvpMessage Data)} (some_message : l ≠ []) :
    replaceFirst test change l ≠ [] := by
  cases l with
  | nil => exact some_message
  | cons m ms =>
    unfold replaceFirst
    split <;> simp

theorem replaceFirst_all {P : PvpMessage Data → Prop} {test : PvpMessage Data → Bool}
    {change : PvpMessage Data → PvpMessage Data} {l : List (PvpMessage Data)}
    (keeps : ∀ m, P m → P (change m)) (all : ∀ m ∈ l, P m) :
    ∀ m ∈ replaceFirst test change l, P m := by
  induction l with
  | nil => exact all
  | cons m ms ih =>
    have rest := ih (fun k mem => all k (List.mem_cons_of_mem m mem))
    unfold replaceFirst
    split
    · intro k mem
      rcases List.mem_cons.mp mem with rfl | old
      · exact keeps m (all m (by simp))
      · exact all k (List.mem_cons_of_mem m old)
    · intro k mem
      rcases List.mem_cons.mp mem with rfl | old
      · exact all k (by simp)
      · exact rest k old

theorem locked_resend (l : Locked start back x y) :
    Locked start back (x.emit (resendMessages x.terminal)) y := by
  have idle : Locked start back (x.emit ({ x.terminal with maxResentBit := 32 }, [])) y :=
    locked_quiet l rfl rfl rfl rfl l.there.waiting l.there.held (fun m none => by simp at none)
  unfold resendMessages
  split
  · cases lostTurn x.terminal with
    | none => exact idle
    | some i =>
      simp only [resendPacket]
      cases found : getSentMessage x.terminal
          (prevSeqNo x.terminal.seqNo (BitVec.ofInt 16 (32 - i))) with
      | none => exact idle
      | some message =>
        have connected := l.there.connected
        have mem : message ∈ x.terminal.sentMessage := List.mem_of_find?_eq_some found
        simp only [directSendMessage, connected, reduceCtorEq, ↓reduceIte, false_and]
        refine locked_quiet l connected.symm rfl rfl rfl (replaceFirst_ne_nil l.there.waiting)
          (replaceFirst_all (fun _ held => held) l.there.held) ?_
        intro m new
        rw [List.mem_singleton.mp new]
        exact l.there.held message mem
  · exact idle

/-- Every copy in flight is a duplicate, and so nothing is read from it. -/
theorem locked_receive (l : Locked start back x y) {m : PvpMessage (Nat × Data)}
    (held : Held back m) (received : x.receive m = some u) : Locked start back u y := by
  have idle : Locked start back (x.emit ({ x.terminal with totalTimeNoMessage := 0 }, [])) y :=
    locked_quiet l rfl rfl rfl rfl l.there.waiting l.there.held (fun m none => by simp at none)
  obtain ⟨after, before, number⟩ := held
  have known := l.home.known (position m) after before
  have window := l.home.receiver
  have duplicate := updateAckInfo_known (t := { x.terminal with totalTimeNoMessage := 0 })
    (window.of_same_acks rfl rfl) known (by omega)
  unfold Endpoint.receive at received
  rw [receiveMessage_connected l.there.connected, number, setWidth_roundtrip] at received
  split at received
  · simp only [Option.map_some, Option.some.injEq] at received
    exact received ▸ idle
  · rcases duplicate with same | ⟨undefined, _⟩
    · rw [same] at received
      simp only [Option.map_some, Option.some.injEq] at received
      exact received ▸ idle
    · rw [undefined] at received
      simp at received

end

def Deadlocked (n : Side → Nat) (w : World Data) : Prop :=
  Locked (n .a) (n .b) (w .a) (w .b)

theorem deadlocked_side {n : Side → Nat} {w : World Data} (lock : Deadlocked n w) (side : Side) :
    Locked (n side) (n side.peer) (w side) (w side.peer) := by
  cases side with
  | a => exact lock
  | b => exact lock.symm

theorem deadlocked_update {n : Side → Nat} {w : World Data} (side : Side) {u : Endpoint Data}
    (lock : Locked (n side) (n side.peer) u (w side.peer)) :
    Deadlocked n (Function.update w side u) := by
  cases side with
  | a => exact lock
  | b => exact lock.symm

theorem deadlocked_step {n : Side → Nat} {w u : World Data} {e : NetworkEvent Data}
    (lock : Deadlocked n w) (moved : step w e = some u) : Deadlocked n u := by
  cases e with
  | send side protoId data =>
    simp only [step, Option.some.injEq] at moved
    exact moved ▸ deadlocked_update side (locked_send (deadlocked_side lock side) protoId data)
  | resend side =>
    simp only [step, Option.some.injEq] at moved
    exact moved ▸ deadlocked_update side (locked_resend (deadlocked_side lock side))
  | deliver side datagram =>
    simp only [step, Option.bind_eq_some_iff, Option.map_eq_some_iff] at moved
    obtain ⟨message, flying, x, received, rfl⟩ := moved
    have lock := deadlocked_side lock side
    exact deadlocked_update side (locked_receive lock
      (lock.home.wire message (List.mem_of_getElem? flying)) received)

theorem deadlocked_forever {n : Side → Nat} {w u : World Data} (lock : Deadlocked n w)
    (run : Reach step always w u) : Deadlocked n u :=
  reach_invariant (Deadlocked n) lock (fun _ _ _ inv _ moved => deadlocked_step inv moved) run

structure Filling (start back sent got : Nat) (e : Endpoint Data) : Prop where
  connected : e.terminal.state = .connected
  seqNo : e.terminal.seqNo = seqNumber (start + sent)
  bits : e.terminal.remoteAckBits = BitVec.allOnes 32 <<< sent
  queue : e.terminal.toSendMessages = []
  accepted : e.accepted = start + sent
  kept : e.terminal.sentMessage.map (fun m => (position m, m.seqNo)) =
    (List.range' (start + 1) sent).map (fun p => (p, (seqNumber p).setWidth 32))
  wire : e.wire.map (fun m => (position m, m.seqNo, m.protoId, m.ackNo)) =
    (List.range' (start + 1) sent).map (fun p => (p, (seqNumber p).setWidth 32,
      defaultProtoId.setWidth 32, (seqNumber back).setWidth 32))
  received : e.received = List.range' (back + 1) got
  newest : e.newest = back + got
  receiver : ReceiverWindow back (back + got) (List.range' (back + 1) got) e.terminal

section
variable {start back sent got : Nat} {x y : Endpoint Data}

theorem send_when_free (connected : x.terminal.state = .connected)
    (queue : x.terminal.toSendMessages = [])
    (free : x.terminal.remoteAckBits.getLsbD 31 = true) (protoId : BitVec 16) (data : Data) :
    ∃ m, x.send protoId data = { x with
        accepted := x.accepted + 1
        terminal := { x.terminal with
          seqNo := nextSeqNo x.terminal.seqNo
          remoteAckBits := x.terminal.remoteAckBits <<< 1
          maxResentBit := x.terminal.maxResentBit - 1
          sentMessage := x.terminal.sentMessage ++ [m] }
        wire := x.wire ++ [m] } ∧
      position m = x.accepted + 1 ∧ m.seqNo = (nextSeqNo x.terminal.seqNo).setWidth 32 ∧
      m.protoId = protoId.setWidth 32 ∧ m.ackNo = x.terminal.ackNo.setWidth 32 := by
  have open_window : ¬ x.terminal.remoteAckBits &&& 0x80000000 = 0 := by
    intro clear
    rw [(top_bit_mask _).mp clear] at free
    contradiction
  refine ⟨(numberMessage x.terminal
    { data := some (x.accepted + 1, data), protoId := protoId.setWidth 32 } []).1,
    ?_, rfl, rfl, rfl, rfl⟩
  simp only [Endpoint.send, sendMessage, handleToSendQueue, queue, List.nil_append, sendRounds,
    open_window, ↓reduceIte, numberMessage, directSendMessage, connected, reduceCtorEq, false_and,
    Endpoint.emit]

theorem filling_send (f : Filling start back sent 0 x) (room : sent < 32) (data : Data) :
    Filling start back (sent + 1) 0 (x.send defaultProtoId data) := by
  have free : x.terminal.remoteAckBits.getLsbD 31 = true := by
    rw [f.bits, BitVec.getLsbD_shiftLeft, BitVec.getLsbD_allOnes]
    have : ¬ 31 < sent := by omega
    have : 31 - sent < 32 := by omega
    simp [*]
  obtain ⟨m, shape, place, number, proto, ackNo⟩ :=
    send_when_free f.connected f.queue free defaultProtoId data
  rw [f.accepted] at place
  rw [f.seqNo, next_seqNumber] at number
  rw [f.receiver.ackNo] at ackNo
  rw [shape]
  refine ⟨f.connected, ?_, ?_, f.queue, ?_, ?_, ?_, f.received, f.newest,
    f.receiver.of_same_acks rfl rfl⟩
  · show nextSeqNo x.terminal.seqNo = _
    rw [f.seqNo, next_seqNumber]
    rfl
  · show x.terminal.remoteAckBits <<< 1 = _
    rw [f.bits, ← BitVec.shiftLeft_add]
  · show x.accepted + 1 = _
    rw [f.accepted]
    rfl
  · show (x.terminal.sentMessage ++ [m]).map _ = _
    rw [List.map_append, f.kept, List.range'_concat, List.map_append, List.map_singleton,
      List.map_singleton, place, number, Nat.one_mul]
    rw [show start + sent + 1 = start + 1 + sent by omega]
  · show (x.wire ++ [m]).map _ = _
    rw [List.map_append, f.wire, List.range'_concat, List.map_append, List.map_singleton,
      List.map_singleton, place, number, proto, ackNo, Nat.one_mul]
    rw [show start + sent + 1 = start + 1 + sent by omega]
    rfl

theorem updateRemoteAckBits_stale {t : PvpTerminal Data} {newest : Nat}
    (seqNo : t.seqNo = seqNumber (newest + 32)) (bits : BitVec 32) :
    updateRemoteAckBits t (seqNumber newest) bits = t := by
  have lower := wireSlot_lower (show newest ≤ newest + 32 by omega)
  have slots := diff_close (a := newest + 32) (b := newest) (by omega) (by omega)
  unfold updateRemoteAckBits
  simp only [seqNo, slots]
  split
  · have none : (32 - ((wireSlot (newest + 32) : Int) - wireSlot newest)).toNat = 0 := by omega
    rw [none]
    rfl
  · rfl

theorem filling_receive {others : Nat} (f : Filling start back 32 got x)
    (other : Filling back start 32 others y) (more : got < 32) :
    ∃ m u, y.wire[got]? = some m ∧ x.receive m = some u ∧
      Filling start back 32 (got + 1) u := by
  have place : (y.wire.map (fun m => (position m, m.seqNo, m.protoId, m.ackNo)))[got]? =
      some (back + 1 + got, (seqNumber (back + 1 + got)).setWidth 32,
        defaultProtoId.setWidth 32, (seqNumber start).setWidth 32) := by
    rw [other.wire, List.getElem?_map, List.getElem?_range' more, Option.map_some, Nat.one_mul]
  rw [List.getElem?_map, Option.map_eq_some_iff] at place
  obtain ⟨m, found, key⟩ := place
  obtain ⟨at_m, number, proto, ackNo⟩ : position m = back + 1 + got ∧
      m.seqNo = (seqNumber (back + 1 + got)).setWidth 32 ∧
      m.protoId = defaultProtoId.setWidth 32 ∧ m.ackNo = (seqNumber start).setWidth 32 := by
    simpa using key
  obtain ⟨t, accepted, frame, window⟩ := updateAckInfo_ahead
    (t := { x.terminal with totalTimeNoMessage := 0 }) (p := back + 1 + got)
    (f.receiver.of_same_acks rfl rfl) (by omega) (by omega)
  have data : ¬ m.protoId.setWidth 16 = syncProtoId := by
    rw [proto]
    decide
  have seqNo : t.seqNo = seqNumber (start + 32) := by
    rw [frame]
    exact f.seqNo
  refine ⟨m, { x.emit (t, []) with
    received := x.received ++ [position m]
    newest := max x.newest (position m) }, found, ?_, ?_⟩
  · unfold Endpoint.receive
    rw [receiveMessage_connected f.connected, if_neg data, number, setWidth_roundtrip, accepted,
      Option.map_some, Option.map_some, ackNo, setWidth_roundtrip]
    simp only [updateRemoteAckBits_stale seqNo]
    rfl
  · have next : List.range' (back + 1) got ++ [back + 1 + got] =
        List.range' (back + 1) (got + 1) := by
      rw [List.range'_concat, Nat.one_mul]
    rw [next] at window
    refine ⟨?_, seqNo, ?_, ?_, f.accepted, ?_, ?_, ?_, ?_, ?_⟩
    · show t.state = _
      rw [frame]
      exact f.connected
    · show t.remoteAckBits = _
      rw [frame]
      exact f.bits
    · show t.toSendMessages = _
      rw [frame]
      exact f.queue
    · show t.sentMessage.map _ = _
      rw [frame]
      exact f.kept
    · show (x.wire ++ []).map _ = _
      rw [List.append_nil]
      exact f.wire
    · show x.received ++ [position m] = _
      rw [f.received, at_m, next]
    · show max x.newest (position m) = _
      rw [f.newest, at_m]
      omega
    · rw [show back + (got + 1) = back + 1 + got by omega]
      exact window

theorem filling_blocked (f : Filling start back 32 32 x) (g : Filling back start 32 32 y) :
    Blocked start x y := by
  have held : ∀ m ∈ x.terminal.sentMessage, Held start m := by
    intro m mem
    have key : (position m, m.seqNo) ∈ x.terminal.sentMessage.map
        (fun m => (position m, m.seqNo)) := List.mem_map_of_mem mem
    rw [f.kept] at key
    obtain ⟨p, inside, same⟩ := List.mem_map.mp key
    obtain ⟨place, number⟩ := Prod.mk.inj same
    have := List.mem_range'_1.mp inside
    exact ⟨by omega, by omega, by rw [← number, place]⟩
  have wire : ∀ m ∈ x.wire, Held start m := by
    intro m mem
    have key : (position m, m.seqNo, m.protoId, m.ackNo) ∈ x.wire.map
        (fun m => (position m, m.seqNo, m.protoId, m.ackNo)) := List.mem_map_of_mem mem
    rw [f.wire] at key
    obtain ⟨p, inside, same⟩ := List.mem_map.mp key
    obtain ⟨place, number, _⟩ := by simpa using same
    have := List.mem_range'_1.mp inside
    exact ⟨by omega, by omega, by rw [← number, place]⟩
  refine ⟨f.connected, ?_, ?_, held, wire, ?_, ?_⟩
  · rw [f.bits]
    decide
  · intro none
    have kept := f.kept
    rw [none] at kept
    simp at kept
  · rw [g.received]
    exact g.receiver
  · intro p after upto
    rw [g.received]
    exact List.mem_range'_1.mpr ⟨by omega, by omega⟩

end

theorem filling_start {n : Side → Nat} {w : World Data} (start : SyncFinished n w) (side : Side) :
    Filling (n side) (n side.peer) 0 0 (w side) := by
  have number : ∀ side, BitVec.ofNat 16 (n side) = seqNumber (n side) :=
    fun side => number_of_small (start.positive side) (start.small side)
  refine ⟨start.connected side, ?_, start.remoteAckBits side, start.toSendMessages side,
    start.accepted side, ?_, ?_, start.received side, start.newest side, ?_⟩
  · rw [start.seqNo, number]
    rfl
  · rw [start.sentMessage]
    rfl
  · rw [start.wire]
    rfl
  · refine receiverWindow_start ?_ (start.ackBits side)
    rw [start.ackNo, start.seqNo, number]

section
variable {n : Side → Nat} {w : World Data}

theorem reach_sends (side : Side) (data : Data) (more : Nat) {sent : Nat} (room : sent + more ≤ 32)
    (f : Filling (n side) (n side.peer) sent 0 (w side)) :
    ∃ u, Reach step always w u ∧ Filling (n side) (n side.peer) (sent + more) 0 (u side) ∧
      u side.peer = w side.peer := by
  induction more with
  | zero => exact ⟨w, .refl, f, rfl⟩
  | succ more ih =>
    obtain ⟨u, run, filled, same⟩ := ih (by omega)
    refine ⟨Function.update u side ((u side).send defaultProtoId data),
      .tail (.send side defaultProtoId data) run trivial rfl, ?_, ?_⟩
    · rw [Function.update_self]
      exact filling_send filled (by omega) data
    · rw [Function.update_of_ne (by cases side <;> decide), same]

theorem reach_deliveries (side : Side) {other : Nat}
    (f : Filling (n side) (n side.peer) 32 0 (w side))
    (g : Filling (n side.peer) (n side) 32 other (w side.peer)) (got : Nat) (upto : got ≤ 32) :
    ∃ u, Reach step always w u ∧ Filling (n side) (n side.peer) 32 got (u side) ∧
      u side.peer = w side.peer := by
  induction got with
  | zero => exact ⟨w, .refl, f, rfl⟩
  | succ got ih =>
    obtain ⟨u, run, filled, same⟩ := ih (by omega)
    have peer : Filling (n side.peer) (n side) 32 other (u side.peer) := by
      rw [same]
      exact g
    obtain ⟨m, x, found, received, next⟩ := filling_receive filled peer upto
    refine ⟨Function.update u side x, .tail (.deliver side got) run trivial ?_, ?_, ?_⟩
    · simp only [step, inFlight, found, Option.bind_some, received, Option.map_some]
    · rw [Function.update_self]
      exact next
    · rw [Function.update_of_ne (by cases side <;> decide), same]

theorem deadlock_reachable (start : SyncFinished n w) (data : Data) :
    ∃ u, Reach step always w u ∧ Deadlocked n u := by
  obtain ⟨w1, run1, sentA, sameB⟩ := reach_sends .a data 32
    (show 0 + 32 ≤ 32 by decide) (filling_start start .a)
  obtain ⟨w2, run2, sentB, sameA⟩ := reach_sends (w := w1) .b data 32
    (show 0 + 32 ≤ 32 by decide)
    (by rw [show w1 .b = w .b from sameB]; exact filling_start start .b)
  have sentA : Filling (n .a) (n .b) 32 0 (w2 .a) := by
    rw [show w2 .a = w1 .a from sameA]
    exact sentA
  obtain ⟨w3, run3, gotB, sameA⟩ := reach_deliveries .b sentB sentA 32 (by decide)
  have sentA : Filling (n .a) (n .b) 32 0 (w3 .a) := by
    rw [show w3 .a = w2 .a from sameA]
    exact sentA
  obtain ⟨w4, run4, gotA, sameB⟩ := reach_deliveries .a sentA gotB 32 (by decide)
  have gotB : Filling (n .b) (n .a) 32 32 (w4 .b) := by
    rw [show w4 .b = w3 .b from sameB]
    exact gotB
  exact ⟨w4, reach_trans run1 (reach_trans run2 (reach_trans run3 run4)),
    filling_blocked gotA gotB, filling_blocked gotB gotA⟩

end

/-- From every state reached, sends, resend ticks and deliveries can empty both
    lists of unacknowledged messages. -/
def NeverDeadlocks (w : World Data) : Prop :=
  ∀ v, Reach step always w v →
    ∃ u, Reach step always v u ∧ ∀ side, (u side).terminal.sentMessage = []

theorem deadlocks (n : Side → Nat) {w : World Data} (start : SyncFinished n w) (data : Data) :
    ¬ NeverDeadlocks w := by
  intro never
  obtain ⟨v, run, lock⟩ := deadlock_reachable start data
  obtain ⟨u, continued, empty⟩ := never v run
  exact (deadlocked_forever lock continued).there.waiting (empty .a)

/-- No pair of connected terminals is free of deadlocks. -/
theorem every_connection_deadlocks {n : Side → Nat} {w : World Data} (start : SyncFinished n w)
    (data : Data) : ¬ NeverDeadlocks w ∧ ∃ v, Reach step always w v ∧
      ∀ u, Reach step always v u → ∀ side,
        (u side).terminal.remoteAckBits.getLsbD 31 = false ∧
        (u side).terminal.sentMessage ≠ [] := by
  refine ⟨deadlocks n start data, ?_⟩
  obtain ⟨v, run, lock⟩ := deadlock_reachable start data
  refine ⟨v, run, ?_⟩
  intro u continued side
  have blocked := (deadlocked_side (deadlocked_forever lock continued) side).there
  exact ⟨blocked.full, blocked.waiting⟩

def firstNumbers : Side → Nat := fun _ => 1

theorem firstNumbers_finished :
    SyncFinished firstNumbers (syncFinished firstNumbers : World Unit) :=
  syncFinished_finished (fun _ => Nat.one_pos) (fun _ => show 1 ≤ 0xffff by decide)

theorem first_connection_deadlocks :
    ¬ NeverDeadlocks (syncFinished firstNumbers : World Unit) :=
  (every_connection_deadlocks firstNumbers_finished ()).1

theorem connection_can_deadlock : ¬ ∀ (n : Side → Nat) (w : World Unit),
    SyncFinished n w → NeverDeadlocks w := by
  intro all
  exact deadlocks firstNumbers firstNumbers_finished () (all _ _ firstNumbers_finished)

end LaluneServer.Pvp
