import LaluneServer.Pvp.Network

/- No packet is forgotten before the peer received it, as long as no wrap of the
   numbers falls into the window of the acknowledgements; with a wrap inside the
   window a lost packet can be forgotten. -/
namespace LaluneServer.Pvp
open SkipZero BitWindow Transition

variable {Data : Type*}

structure Stream (start : Nat) (snd rcv : Endpoint Data) : Prop where
  connected : snd.terminal.state = .connected
  sender : SenderWindow start snd.sent snd.terminal
  receiver : ReceiverWindow start rcv.newest rcv.received rcv.terminal
  room : snd.terminal.toSendMessages.length ≤ snd.accepted
  queue : snd.terminal.toSendMessages.map position =
    List.range' (snd.sent + 1) snd.terminal.toSendMessages.length
  seen : rcv.newest ≤ snd.sent
  kept : ∀ p, start < p → p ≤ snd.sent →
    p ∉ snd.terminal.sentMessage.map position → p ∈ rcv.received

/-- The terminal sends nothing after position `limit` before a new packet arrives. -/
def Limits (e : Endpoint Data) (limit : Nat) : Prop :=
  e.sent ≤ limit ∧ ∀ b, b < 32 → e.sent + 31 = limit + b →
    e.terminal.remoteAckBits.getLsbD b = false

/-- A datagram on the wire of `snd`: its number, and what its acknowledgements say
    about the stream of `rcv`. The last part bounds how old they can be. -/
structure Stamped (start back : Nat) (snd rcv : Endpoint Data)
    (m : PvpMessage (Nat × Data)) : Prop where
  after : start < position m
  before : position m ≤ snd.sent
  number : m.seqNo = (seqNumber (position m)).setWidth 32
  acks : ∃ acked, back ≤ acked ∧ acked ≤ snd.newest ∧
    m.ackNo = (seqNumber acked).setWidth 32 ∧
    (∀ i, i < 32 → m.ackBits.getLsbD i = true →
      ∃ q, (q = back ∨ q ∈ snd.received) ∧ wireSlot acked = wireSlot q + i) ∧
    ∃ limit, Limits rcv limit ∧
      limit + 32 * position m ≤ acked + 1088 + 32 * (rcv.received.length + start)

structure Joined (start back : Nat) (x y : Endpoint Data) : Prop where
  there : Stream start x y
  home : Stream back y x
  out : ∀ m ∈ x.wire, Stamped start back x y m
  incoming : ∀ m ∈ y.wire, Stamped back start y x m

def Grows (x u : Endpoint Data) : Prop :=
  x.sent ≤ u.sent ∧ x.newest ≤ u.newest ∧ ∀ q ∈ x.received, q ∈ u.received

def Slack (x u : Endpoint Data) : Prop :=
  ∀ limit, Limits x limit → ∃ next, Limits u next ∧
    next + 32 * x.received.length ≤ limit + 32 * u.received.length

section
variable {start back : Nat} {x y u : Endpoint Data}

theorem Joined.symm (j : Joined start back x y) : Joined back start y x :=
  ⟨j.home, j.there, j.incoming, j.out⟩

theorem limits_ahead (e : Endpoint Data) : Limits e (e.sent + 32) := by
  refine ⟨by omega, ?_⟩
  intro b small place
  omega

theorem stamped_grows {m : PvpMessage (Nat × Data)} (grows : Grows x u)
    (stamp : Stamped start back x y m) : Stamped start back u y m := by
  obtain ⟨sent, newest, received⟩ := grows
  obtain ⟨acked, low, high, number, bits, bound⟩ := stamp.acks
  refine ⟨stamp.after, by have := stamp.before; omega, stamp.number, acked, low, by omega,
    number, ?_, bound⟩
  intro i inside one
  obtain ⟨q, got, place⟩ := bits i inside one
  exact ⟨q, got.imp id (received q), place⟩

theorem stamped_slack {m : PvpMessage (Nat × Data)} (slack : Slack y u)
    (stamp : Stamped start back x y m) : Stamped start back x u m := by
  obtain ⟨acked, low, high, number, bits, limit, limits, bound⟩ := stamp.acks
  obtain ⟨next, limits, small⟩ := slack limit limits
  exact ⟨stamp.after, stamp.before, stamp.number, acked, low, high, number, bits, next, limits,
    by omega⟩

theorem joined_step (j : Joined start back x y) (there : Stream start u y)
    (home : Stream back y u) (grows : Grows x u) (slack : Slack x u)
    (wire : ∀ m ∈ u.wire, m ∈ x.wire ∨ Stamped start back u y m) : Joined start back u y := by
  refine ⟨there, home, ?_, ?_⟩
  · intro m mem
    rcases wire m mem with old | new
    · exact stamped_grows grows (j.out m old)
    · exact new
  · intro m mem
    exact stamped_slack slack (j.incoming m mem)

theorem received_covers (s : Stream start x y) : x.sent ≤ y.received.length + start + 32 := by
  have covered : List.range' (start + 1) (x.sent - 32 - start) ⊆ y.received := by
    intro p mem
    obtain ⟨low, high⟩ := List.mem_range'_1.mp mem
    refine s.kept p (by omega) (by omega) ?_
    intro still
    obtain ⟨m, old, rfl⟩ := List.mem_map.mp still
    have := (s.sender.numbered m old).2.2.1
    omega
  have count := (List.subperm_of_subset List.nodup_range' covered).length_le
  rw [List.length_range'] at count
  omega

theorem received_bounded (s : Stream start x y) : y.received.length + start ≤ y.newest := by
  have covered : y.received ⊆ List.range' (start + 1) (y.newest - start) := by
    intro p mem
    have := s.receiver.bounds p mem
    have := s.receiver.started
    exact List.mem_range'_1.mpr ⟨by omega, by omega⟩
  have count := (List.subperm_of_subset s.receiver.distinct covered).length_le
  have := s.receiver.started
  rw [List.length_range'] at count
  omega

theorem sent_near_newest (s : Stream start x y) : x.sent ≤ y.newest + 32 := by
  have := received_covers s
  have := received_bounded s
  omega

theorem stamped_now (there : Stream start x y) (home : Stream back y x)
    {m : PvpMessage (Nat × Data)} (after : start < position m) (before : position m ≤ x.sent)
    (number : m.seqNo = (seqNumber (position m)).setWidth 32)
    (ackNo : m.ackNo = x.terminal.ackNo.setWidth 32) (ackBits : m.ackBits = x.terminal.ackBits) :
    Stamped start back x y m := by
  refine ⟨after, before, number, x.newest, home.receiver.started, Nat.le_refl _, ?_, ?_, ?_⟩
  · rw [ackNo, home.receiver.ackNo]
  · intro i inside one
    rw [ackBits] at one
    obtain ⟨s, ⟨q, got, rfl⟩, place⟩ := (home.receiver.window i inside).mp one
    exact ⟨q, got, place⟩
  · refine ⟨y.sent + 32, limits_ahead y, ?_⟩
    have := received_covers there
    have := sent_near_newest home
    omega

theorem Stream.of_receiver (s : Stream back y x) (ackNo : u.terminal.ackNo = x.terminal.ackNo)
    (ackBits : u.terminal.ackBits = x.terminal.ackBits) (newest : u.newest = x.newest)
    (received : u.received = x.received) : Stream back y u := by
  refine ⟨s.connected, s.sender, ?_, s.room, s.queue, ?_, ?_⟩
  · rw [newest, received]
    exact s.receiver.of_same_acks ackNo ackBits
  · rw [newest]
    exact s.seen
  · rw [received]
    exact s.kept

theorem joined_enqueue (j : Joined start back x y) {message : PvpMessage (Nat × Data)}
    (stamp : position message = x.accepted + 1) :
    Joined start back { x with
      accepted := x.accepted + 1
      terminal := { x.terminal with
        toSendMessages := x.terminal.toSendMessages ++ [message] } } y := by
  obtain ⟨connected, sender, receiver, room, queue, seen, kept⟩ := j.there
  have same : Endpoint.sent { x with
      accepted := x.accepted + 1
      terminal := { x.terminal with
        toSendMessages := x.terminal.toSendMessages ++ [message] } } = x.sent := by
    simp only [Endpoint.sent, List.length_append, List.length_singleton]
    omega
  refine joined_step j ?_ (j.home.of_receiver rfl rfl rfl rfl)
    ⟨Nat.le_of_eq same.symm, Nat.le_refl _, fun _ mem => mem⟩ ?_ (fun _ mem => Or.inl mem)
  · refine ⟨connected, ?_, receiver, ?_, ?_, ?_, ?_⟩
    · rw [same]
      exact sender.of_same_keys rfl rfl rfl
    · simp only [List.length_append, List.length_singleton]
      omega
    · rw [same, List.map_append, queue, List.length_append, List.length_singleton,
        List.range'_concat, List.map_singleton, stamp]
      congr 2
      unfold Endpoint.sent
      omega
    · rw [same]
      exact seen
    · rw [same]
      exact kept
  · intro limit limits
    refine ⟨limit, ?_, Nat.le_refl _⟩
    unfold Limits at limits ⊢
    rw [same]
    exact limits

theorem joined_transmit (j : Joined start back x y) {message : PvpMessage (Nat × Data)}
    {rest : List (PvpMessage (Nat × Data))} (queued : x.terminal.toSendMessages = message :: rest)
    (free : x.terminal.remoteAckBits.getLsbD 31 = true) :
    Joined start back (x.emit
      ({ (numberMessage x.terminal message rest).2 with
          maxResentBit := x.terminal.maxResentBit - 1 },
        [(numberMessage x.terminal message rest).1])) y := by
  obtain ⟨connected, sender, receiver, room, queue, seen, kept⟩ := j.there
  rw [queued, List.length_cons] at room
  rw [queued, List.map_cons, List.length_cons, List.range'_succ, List.cons.injEq] at queue
  obtain ⟨next, others⟩ := queue
  have more : Endpoint.sent (x.emit
      ({ (numberMessage x.terminal message rest).2 with
          maxResentBit := x.terminal.maxResentBit - 1 },
        [(numberMessage x.terminal message rest).1])) = x.sent + 1 := by
    simp only [Endpoint.sent, Endpoint.emit, numberMessage, queued, List.length_cons]
    omega
  have window := numberMessage_window sender free message rest next
  have there : Stream start (x.emit
      ({ (numberMessage x.terminal message rest).2 with
          maxResentBit := x.terminal.maxResentBit - 1 },
        [(numberMessage x.terminal message rest).1])) y := by
    refine ⟨connected, ?_, receiver, ?_, ?_, ?_, ?_⟩
    · rw [more]
      exact window.of_same_keys rfl rfl rfl
    · show rest.length ≤ x.accepted
      omega
    · rw [more]
      exact others
    · rw [more]
      omega
    · intro p low high gone
      rw [more] at high
      have absent : p ∉ x.terminal.sentMessage.map position ∧ p ≠ x.sent + 1 := by
        have shape : p ∉ (x.terminal.sentMessage ++
            [(numberMessage x.terminal message rest).1]).map position := gone
        rw [List.map_append, List.map_singleton, List.mem_append, List.mem_singleton] at shape
        have place : position (numberMessage x.terminal message rest).1 = x.sent + 1 := next
        rw [place] at shape
        exact not_or.mp shape
      exact kept p low (by omega) absent.1
  refine joined_step j there (j.home.of_receiver rfl rfl rfl rfl)
    ⟨by omega, Nat.le_refl _, fun _ mem => mem⟩ ?_ ?_
  · rintro limit ⟨le, blocked⟩
    refine ⟨limit, ⟨?_, ?_⟩, Nat.le_refl _⟩
    · rw [more]
      by_contra beyond
      have full := blocked 31 (by decide) (by omega)
      rw [free] at full
      contradiction
    · intro b small place
      rw [more] at place
      show (x.terminal.remoteAckBits <<< 1).getLsbD b = false
      cases bit : (x.terminal.remoteAckBits <<< 1).getLsbD b
      · rfl
      · obtain ⟨pos, low⟩ := (getLsbD_shift _ 1 small).mp bit
        rw [blocked (b - 1) (by omega) (by omega)] at low
        contradiction
  · intro m mem
    rcases List.mem_append.mp mem with old | new
    · exact Or.inl old
    · have started := sender.started
      rw [List.mem_singleton.mp new]
      have place : position (numberMessage x.terminal message rest).1 = x.sent + 1 := next
      refine Or.inr (stamped_now there (j.home.of_receiver rfl rfl rfl rfl) ?_ ?_ ?_ rfl rfl)
      · rw [place]
        omega
      · rw [place, more]
      · rw [place, numberMessage_wireNo, sender.seqNo, next_seqNumber]

theorem joined_send (j : Joined start back x y) (protoId : BitVec 16) (data : Data) :
    Joined start back (x.send protoId data) y := by
  have queued := joined_enqueue j (show position
    { data := some (x.accepted + 1, data), protoId := protoId.setWidth 32 } = _ from rfl)
  exact sendRounds_induction
    (fun t wire => Joined start back { x with
      accepted := x.accepted + 1, terminal := t, wire := wire } y)
    (fun _ _ inv => inv.there.connected)
    (fun _ _ _ _ inv queue free => joined_transmit inv queue free)
    4 _ x.wire queued

theorem joined_quiet (j : Joined start back x y) {t : PvpTerminal (Nat × Data)}
    {wire : List (PvpMessage (Nat × Data))}
    (frame : t = { x.terminal with
      sentMessage := t.sentMessage, maxResentBit := t.maxResentBit
      totalTimeNoMessage := t.totalTimeNoMessage })
    (keys : t.sentMessage.map (fun m => (position m, m.seqNo)) =
      x.terminal.sentMessage.map (fun m => (position m, m.seqNo)))
    (fresh : ∀ m ∈ wire, (∃ k ∈ x.terminal.sentMessage, position m = position k ∧
      m.seqNo = k.seqNo) ∧ m.ackNo = x.terminal.ackNo.setWidth 32 ∧
      m.ackBits = x.terminal.ackBits) :
    Joined start back (x.emit (t, wire)) y := by
  obtain ⟨connected, sender, receiver, room, queue, seen, kept⟩ := j.there
  have same : (x.emit (t, wire)).sent = x.sent := by
    simp only [Endpoint.sent, Endpoint.emit]
    rw [frame]
  have positions : t.sentMessage.map position = x.terminal.sentMessage.map position := by
    simpa [Function.comp_def] using congrArg (List.map Prod.fst) keys
  have there : Stream start (x.emit (t, wire)) y := by
    refine ⟨?_, ?_, receiver, ?_, ?_, ?_, ?_⟩
    · show t.state = .connected
      rw [frame]
      exact connected
    · rw [same]
      exact sender.of_same_keys (by rw [Endpoint.emit, frame]) (by rw [Endpoint.emit, frame]) keys
    · show t.toSendMessages.length ≤ x.accepted
      rw [frame]
      exact room
    · rw [same]
      show t.toSendMessages.map position = List.range' (x.sent + 1) t.toSendMessages.length
      rw [frame]
      exact queue
    · rw [same]
      exact seen
    · rw [same]
      show ∀ p, start < p → p ≤ x.sent → p ∉ t.sentMessage.map position → p ∈ y.received
      rw [positions]
      exact kept
  have home : Stream back y (x.emit (t, wire)) := by
    refine j.home.of_receiver ?_ ?_ rfl rfl
    · rw [Endpoint.emit, frame]
    · rw [Endpoint.emit, frame]
  refine joined_step j there home
    ⟨Nat.le_of_eq same.symm, Nat.le_refl _, fun _ mem => mem⟩ ?_ ?_
  · intro limit limits
    refine ⟨limit, ?_, Nat.le_refl _⟩
    unfold Limits at limits ⊢
    rw [same]
    show _ ∧ ∀ b, b < 32 → x.sent + 31 = limit + b → t.remoteAckBits.getLsbD b = false
    rw [frame]
    exact limits
  · intro m mem
    rcases List.mem_append.mp mem with old | new
    · exact Or.inl old
    · obtain ⟨⟨k, kept, place, number⟩, ackNo, ackBits⟩ := fresh m new
      obtain ⟨after, before, _, numbered⟩ := sender.numbered k kept
      refine Or.inr (stamped_now there home (by omega) (by omega) ?_ ?_ ?_)
      · rw [number, place, numbered]
      · rw [ackNo, Endpoint.emit, frame]
      · rw [ackBits, Endpoint.emit, frame]

theorem joined_resendPacket (j : Joined start back x y) (no : BitVec 16) (resent : Nat) :
    Joined start back (x.emit ({ (resendPacket x.terminal no).1 with maxResentBit := resent },
      (resendPacket x.terminal no).2)) y := by
  have keys := replaceFirst_keys (carriesNo no) (refreshAck x.terminal)
    (fun m => (position m, m.seqNo)) (fun _ => rfl) x.terminal.sentMessage
  unfold resendPacket
  cases found : getSentMessage x.terminal no with
  | none => exact joined_quiet j rfl rfl (fun m none => by simp at none)
  | some message =>
    have mem : message ∈ x.terminal.sentMessage := List.mem_of_find?_eq_some found
    have connected := j.there.connected
    simp only [directSendMessage, connected, reduceCtorEq, ↓reduceIte, false_and]
    refine joined_quiet j (by simp only [connected]) keys ?_
    intro m new
    rw [List.mem_singleton.mp new]
    exact ⟨⟨message, mem, rfl, rfl⟩, rfl, rfl⟩

theorem joined_resend (j : Joined start back x y) :
    Joined start back (x.emit (resendMessages x.terminal)) y := by
  have idle : Joined start back (x.emit ({ x.terminal with maxResentBit := 32 }, [])) y :=
    joined_quiet j rfl rfl (fun m none => by simp at none)
  unfold resendMessages
  split
  · cases lostTurn x.terminal with
    | none => exact idle
    | some i => exact joined_resendPacket j _ 32
  · exact idle

theorem Stream.hears (home : Stream back y x) {v : PvpTerminal (Nat × Data)} {q : Nat}
    (sent : q ≤ y.sent)
    (window : ReceiverWindow back (max x.newest q) (x.received ++ [q]) v) :
    Stream back y { x with
      terminal := v, received := x.received ++ [q], newest := max x.newest q } := by
  obtain ⟨connected, sender, receiver, room, queue, seen, kept⟩ := home
  refine ⟨connected, sender, window, room, queue, Nat.max_le.mpr ⟨seen, sent⟩, ?_⟩
  intro p after upto gone
  exact List.mem_append_left _ (kept p after upto gone)

theorem joined_accept (j : Joined start back x y) {m : PvpMessage (Nat × Data)}
    {t v : PvpTerminal (Nat × Data)} (stamp : Stamped back start y x m)
    (behind : x.newest ≤ position m + 30)
    (frame : t = { x.terminal with
      ackNo := t.ackNo, ackBits := t.ackBits, totalTimeNoMessage := t.totalTimeNoMessage })
    (window : ReceiverWindow back (max x.newest (position m)) (x.received ++ [position m]) t)
    (clean : WrapFree t (m.ackNo.setWidth 16) m.ackBits)
    (updated : v = updateRemoteAckBits t (m.ackNo.setWidth 16) m.ackBits) :
    Joined start back { x with
      terminal := v
      received := x.received ++ [position m]
      newest := max x.newest (position m) } y := by
  obtain ⟨connected, sender, receiver, room, queue, seen, kept⟩ := j.there
  obtain ⟨acked, low, high, number, bits, limit, limits, bound⟩ := stamp.acks
  have ackNo : m.ackNo.setWidth 16 = seqNumber acked := by
    rw [number, setWidth_roundtrip]
  have count := received_bounded j.home
  have le := limits.1
  have before : SenderWindow start x.sent t :=
    sender.of_same_keys (by rw [frame]) (by rw [frame]) (by rw [frame])
  rw [ackNo] at clean updated
  have done := updateRemoteAckBits_window before (by have := sender.start_pos; omega)
    (by omega) (by omega) clean
  rw [← updated] at done
  have same : Endpoint.sent { x with
      terminal := v
      received := x.received ++ [position m]
      newest := max x.newest (position m) } = x.sent := by
    simp only [Endpoint.sent]
    rw [done.frame, frame]
  refine joined_step j ?_ ?_ ⟨Nat.le_of_eq same.symm, Nat.le_max_left _ _,
    fun _ mem => List.mem_append_left _ mem⟩ ?_ (fun _ mem => Or.inl mem)
  · refine ⟨?_, ?_, receiver, ?_, ?_, ?_, ?_⟩
    · show v.state = .connected
      rw [done.frame, frame]
      exact connected
    · rw [same]
      exact done.window
    · show v.toSendMessages.length ≤ x.accepted
      rw [done.frame, frame]
      exact room
    · rw [same]
      show v.toSendMessages.map position = List.range' (x.sent + 1) v.toSendMessages.length
      rw [done.frame, frame]
      exact queue
    · rw [same]
      exact seen
    · rw [same]
      intro p after upto gone
      by_cases mem : p ∈ x.terminal.sentMessage.map position
      · obtain ⟨k, old, rfl⟩ := List.mem_map.mp mem
        have oldKept : k ∈ t.sentMessage := by
          rw [frame]
          exact old
        obtain ⟨i, inside, one, place⟩ := done.dropped k oldKept
          (fun still => gone (List.mem_map_of_mem still))
        obtain ⟨q, got, at_q⟩ := bits i inside one
        have here : position k = q := wireSlot_injective (by omega)
        rcases got with first | delivered
        · omega
        · exact here ▸ delivered
      · exact kept p after upto mem
  · refine j.home.hears stamp.before (window.of_same_acks ?_ ?_)
    · rw [done.frame]
    · rw [done.frame]
  · intro limit limits
    refine ⟨x.sent + 32, ?_, ?_⟩
    · rw [← same]
      exact limits_ahead _
    · have := limits.1
      simp only [List.length_append, List.length_singleton]
      omega

theorem joined_receive (j : Joined start back x y) {m : PvpMessage (Nat × Data)}
    (stamp : Stamped back start y x m) (ahead : position m ≤ x.newest + 30)
    (behind : x.newest ≤ position m + 30)
    (clean : m.protoId.setWidth 16 ≠ syncProtoId → position m ∉ x.received →
      WrapFree x.terminal (m.ackNo.setWidth 16) m.ackBits)
    (received : x.receive m = some u) : Joined start back u y := by
  have connected := j.there.connected
  have idle : Joined start back (x.emit ({ x.terminal with totalTimeNoMessage := 0 }, [])) y :=
    joined_quiet j rfl rfl (fun k none => by simp at none)
  unfold Endpoint.receive at received
  rw [receiveMessage_connected connected] at received
  by_cases sync : m.protoId.setWidth 16 = syncProtoId
  · simp only [sync, ↓reduceIte, Option.map_some, Option.some.injEq] at received
    rw [← received]
    exact idle
  · have seqNo : m.seqNo.setWidth 16 = seqNumber (position m) := by
      rw [stamp.number, setWidth_roundtrip]
    have window : ReceiverWindow back x.newest x.received
        { x.terminal with totalTimeNoMessage := 0 } := j.home.receiver.of_same_acks rfl rfl
    rw [if_neg sync, seqNo] at received
    rcases updateAckInfo_window window stamp.after ahead behind with
      ⟨known, duplicate⟩ | ⟨fresh, t, accepted, frame, next⟩
    · rw [duplicate] at received
      simp only [Option.map_some, Option.some.injEq] at received
      rw [← received]
      exact idle
    · rw [accepted] at received
      simp only [Option.map_some, Option.some.injEq] at received
      rw [← received]
      have still := clean sync fresh
      have result := joined_accept j stamp behind (t := t) (by rw [frame]) next ?_ rfl
      · simpa [Endpoint.emit] using result
      · intro i inside effect
        have shape : t.seqNo = x.terminal.seqNo ∧
            t.remoteAckBits = x.terminal.remoteAckBits := by
          rw [frame]
          exact ⟨rfl, rfl⟩
        unfold TakesEffect at effect
        rw [shape.1, shape.2] at effect
        rw [shape.1]
        exact still i inside effect

end

def Faithful (n : Side → Nat) (w : World Data) : Prop :=
  ∀ side, Joined (n side) (n side.peer) (w side) (w side.peer)

theorem peer_peer (side : Side) : side.peer.peer = side := by
  cases side <;> rfl

theorem faithful_update {n : Side → Nat} {w : World Data} (side : Side) {u : Endpoint Data}
    (joined : Joined (n side) (n side.peer) u (w side.peer)) :
    Faithful n (Function.update w side u) := by
  intro other
  cases side <;> cases other
  · exact joined
  · exact joined.symm
  · exact joined.symm
  · exact joined

theorem faithful_start {n : Side → Nat} {w : World Data} (start : SyncFinished n w) :
    Faithful n w := by
  have stream : ∀ side, Stream (n side) (w side) (w side.peer) := by
    intro side
    have all := start.sentMessage side
    have queue := start.toSendMessages side
    have sent : (w side).sent = n side := by
      rw [Endpoint.sent, queue, start.accepted, List.length_nil, Nat.sub_zero]
    have newest : (w side.peer).newest = n side := by
      rw [start.newest, peer_peer]
    refine ⟨start.connected side, ?_, ?_, ?_, ?_, ?_, ?_⟩
    · rw [sent]
      refine ⟨start.positive side, Nat.le_refl _, ?_, ?_, ?_, ?_⟩
      · rw [start.seqNo, number_of_small (start.positive side) (start.small side)]
      · rw [all]
        simp
      · rw [all]
        simp
      · intro i inside
        rw [all, start.remoteAckBits, show (0xffffffff : BitVec 32) = BitVec.allOnes 32 by decide,
          BitVec.getLsbD_allOnes]
        simp [inside]
    · rw [newest, start.received]
      refine receiverWindow_start ?_ (start.ackBits side.peer)
      rw [start.ackNo, peer_peer, start.seqNo,
        number_of_small (start.positive side) (start.small side)]
    · rw [queue]
      simp
    · rw [queue]
      rfl
    · rw [newest, sent]
    · intro p low high
      omega
  intro side
  have home := stream side.peer
  rw [peer_peer] at home
  refine ⟨stream side, home, ?_, ?_⟩
  · rw [start.wire]
    simp
  · rw [start.wire]
    simp

theorem faithful_step {n : Side → Nat} {w u : World Data} {e : NetworkEvent Data}
    (inv : Faithful n w) (inRange : near w e) (clean : acksWrapFree w e)
    (moved : step w e = some u) : Faithful n u := by
  cases e with
  | send side protoId data =>
    simp only [step, Option.some.injEq] at moved
    exact moved ▸ faithful_update side (joined_send (inv side) protoId data)
  | resend side =>
    simp only [step, Option.some.injEq] at moved
    exact moved ▸ faithful_update side (joined_resend (inv side))
  | deliver side datagram =>
    simp only [step, Option.bind_eq_some_iff, Option.map_eq_some_iff] at moved
    obtain ⟨message, flying, x, received, rfl⟩ := moved
    obtain ⟨ahead, behind⟩ := inRange message flying
    exact faithful_update side (joined_receive (inv side)
      ((inv side).incoming message (List.mem_of_getElem? flying)) ahead behind
      (clean message flying) received)

def NothingForgotten (n : Side → Nat) (w : World Data) (side : Side) : Prop :=
  (∀ p, n side < p → p ≤ (w side).sent →
    p ∉ (w side).terminal.sentMessage.map position → p ∈ (w side.peer).received) ∧
  ∀ i, i < 32 → n side + i < (w side).sent →
    (w side).terminal.remoteAckBits.getLsbD i = true → (w side).sent - i ∈ (w side.peer).received

theorem faithful_nothing_forgotten {n : Side → Nat} {w : World Data} (inv : Faithful n w)
    (side : Side) : NothingForgotten n w side := by
  have stream := (inv side).there
  refine ⟨stream.kept, ?_⟩
  intro i inside after one
  refine stream.kept _ (by omega) (by omega) ?_
  intro still
  obtain ⟨m, mem, place⟩ := List.mem_map.mp still
  have zero := (stream.sender.window i inside).mpr ⟨m, mem, by omega⟩
  rw [zero] at one
  contradiction

/-- In every run whose packets arrive near the newest one and acknowledge across no
    wrap, nothing is forgotten before the peer received it. -/
theorem nothing_forgotten_without_wrap {n : Side → Nat} {w u : World Data}
    (start : SyncFinished n w)
    (run : Reach step (fun w e => near w e ∧ acksWrapFree w e) w u) (side : Side) :
    NothingForgotten n u side := by
  refine faithful_nothing_forgotten ?_ side
  exact reach_invariant (Faithful n) (faithful_start start)
    (fun _ _ _ inv allowed moved => faithful_step inv allowed.1 allowed.2 moved) run

def beforeWrap : Side → Nat
  | .a => 0xfffd
  | .b => 5

def oneExchange : List (NetworkEvent Unit) :=
  [.send .a defaultProtoId (), .deliver .b 0, .send .b defaultProtoId (), .deliver .a 0]

theorem beforeWrap_finished : SyncFinished beforeWrap (syncFinished beforeWrap : World Unit) := by
  refine syncFinished_finished ?_ ?_
  · intro side
    cases side <;> decide
  · intro side
    cases side <;> decide

theorem nothing_forgotten_in_one_exchange : ∃ u : World Unit,
    execWithin step (fun w e => near w e ∧ acksWrapFree w e) (syncFinished beforeWrap)
      oneExchange = some u ∧ NothingForgotten beforeWrap u .a := by
  obtain ⟨u, ran⟩ : ∃ u, execWithin step (fun w e => near w e ∧ acksWrapFree w e)
      (syncFinished beforeWrap : World Unit) oneExchange = some u :=
    Option.isSome_iff_exists.mp (by decide +kernel)
  exact ⟨u, ran, nothing_forgotten_without_wrap beforeWrap_finished (execWithin_reach ran) .a⟩

def lossAtWrap : List (NetworkEvent Unit) :=
  [.send .a defaultProtoId (), .send .a defaultProtoId (), .send .a defaultProtoId (),
    .deliver .b 1, .deliver .b 2, .send .b defaultProtoId (), .deliver .a 0]

/-- The bitmap of the receiver has a place for the number 0 that is never sent; read
    without it, the bit of packet 0xffff is taken for that of the lost one. -/
theorem packet_forgotten_at_wrap : ¬ ∀ (n : Side → Nat) (w u : World Unit),
    SyncFinished n w → Reach step near w u → ∀ side, NothingForgotten n u side := by
  intro all
  obtain ⟨u, run, lost⟩ := execWithin_any step near (syncFinished beforeWrap) lossAtWrap
    (fun u : World Unit => decide (0xfffe ≤ (u .a).sent ∧
      0xfffe ∉ (u .a).terminal.sentMessage.map position ∧ 0xfffe ∉ (u .b).received))
    (by decide +kernel)
  obtain ⟨sent, gone, never⟩ := of_decide_eq_true lost
  exact never ((all _ _ _ beforeWrap_finished run .a).1 0xfffe (by decide) sent gone)

end LaluneServer.Pvp
