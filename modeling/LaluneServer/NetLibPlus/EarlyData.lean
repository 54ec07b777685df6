import LaluneServer.NetLib.ClientConnects
import LaluneServer.NetLib.ClientOrder
import LaluneServer.NetLibPlus.Custody

/- The packets that a NetLibPlus client is given until its first connection is up. Those
   sent before ResetClient wait in its own failed_data_queue for ConnectedHandler, those
   sent later wait in the queue of the NetLib client for connected_handler, which comes
   first. They stay in order as long as none is sent between the two while one waits. -/
namespace LaluneServer.NetLibPlus
open NetLib Transition

namespace InnerClient
variable {Address : Type*} (inner : InnerClient Address)

def up : Prop := ∀ s ∈ inner.core.connectedSession, s.isConnected = true

instance : Decidable inner.up := inferInstanceAs (Decidable (∀ _ ∈ _, _))

def queued : List NetlibPacket :=
  (sessionPackets inner.core.connectedSession).filterMap inner.content

def backlog : List NetlibPacket := inner.core.failedDataQueue.filterMap inner.content

def writes (event : ClientEvent) : List NetlibPacket :=
  (inner.core.reported event).filterMap inner.content

end InnerClient

structure EarlyRun (Address : Type*) where
  plus : PlusClient Address := {}
  written : List NetlibPacket := []

namespace PlusClient
variable {Address : Type*} (w : PlusClient Address)

def writes : PlusEvent → List NetlibPacket
  | .clientHandler event => w.client.elim [] fun inner => inner.writes event
  | _ => []

/-- The first ResetClient, and sends and handlers until the first connection is lost. -/
def firstConnection : PlusEvent → Prop
  | .sendAsync .. | .sendCopyAsync _ | .clientHandler _ => ∀ inner ∈ w.client, inner.up
  | .resetClient .. => w.client = none
  | .releaseClient | .retiredHandler .. | .destroy => False

instance : (e : PlusEvent) → Decidable (w.firstConnection e)
  | .sendAsync .. | .sendCopyAsync _ | .clientHandler _ =>
    inferInstanceAs (Decidable (∀ inner ∈ w.client, inner.up))
  | .resetClient .. => inferInstanceAs (Decidable (w.client = none))
  | .releaseClient | .retiredHandler .. | .destroy => isFalse id

/-- No packet of failed_data_queue waits for the client that the packet is sent to. -/
def sendsBehindEarly : PlusEvent → Prop
  | .sendAsync .. | .sendCopyAsync _ => w.client = none ∨ w.failedDataQueue = []
  | _ => True

instance : (e : PlusEvent) → Decidable (w.sendsBehindEarly e)
  | .sendAsync .. | .sendCopyAsync _ =>
    inferInstanceAs (Decidable (w.client = none ∨ w.failedDataQueue = []))
  | .resetClient .. | .releaseClient | .clientHandler _ | .retiredHandler .. | .destroy =>
    isTrue trivial

end PlusClient

namespace EarlyRun
variable {Address : Type*} (net : Addresses Address) (maxPacketSize : Nat) (w : EarlyRun Address)

def step (event : PlusEvent) : Option (EarlyRun Address) :=
  (w.plus.step net maxPacketSize event).map fun plus =>
    { plus := plus, written := w.written ++ w.plus.writes event }

/-- The packets that send_async of the first session got: those written and those that are
    still in its queue. -/
def handed : List NetlibPacket := w.written ++ w.plus.client.elim [] InnerClient.queued

def waiting : List NetlibPacket :=
  w.plus.client.elim [] InnerClient.backlog ++ w.plus.failedDataQueue

/-- The session got the packets in the order of the calls, each once, those that wait come
    in that order too, and none waits after ConnectedHandler has run. -/
structure InOrder : Prop where
  handed : w.handed <+: w.plus.accepted
  line : w.handed ++ w.waiting = w.plus.accepted
  whole : ∀ inner ∈ w.plus.client, inner.core.connectedSession ≠ none → inner.up →
    ¬ inner.core.connectionPosted → w.handed = w.plus.accepted

def keepsOrder (event : PlusEvent) : Prop :=
  w.plus.firstConnection event ∧ w.plus.sendsBehindEarly event

instance (event : PlusEvent) : Decidable (w.keepsOrder event) :=
  inferInstanceAs (Decidable (_ ∧ _))

end EarlyRun

namespace InnerClient
variable {Address : Type*} {net : Addresses Address} {maxPacketSize : Nat}
  {inner next : InnerClient Address} {event : ClientEvent} {packet : NetlibPacket}

theorem queued_backlog (inner : InnerClient Address) :
    inner.queued ++ inner.backlog = inner.core.line.filterMap inner.content :=
  List.filterMap_append.symm

theorem content_handle (moved : inner.handle net maxPacketSize event = some next) :
    next.content = inner.content := by
  funext q
  ext packet
  unfold content
  rw [Option.join_eq_some_iff, Option.join_eq_some_iff]
  exact handle_sent moved

theorem Kept.stamp_lt (kept : Kept net inner) {q : NetlibPacket} (held : q ∈ inner.core.line) :
    q.stamp < inner.sent.length := by
  have member : q ∈ inner.core.accepted := by
    rw [← Multiset.mem_coe, ← kept.accounted.places]
    unfold NetLib.Client.line at held
    simp only [NetLib.Client.places, Multiset.mem_add, Multiset.mem_coe]
    rcases List.mem_append.mp held with session | failed
    · exact Or.inl (Or.inl (Or.inl (Or.inl session)))
    · exact Or.inl (Or.inl (Or.inl (Or.inr failed)))
  have stamps := List.mem_map_of_mem (f := NetlibPacket.stamp) member
  rw [kept.accounted.numbered, List.mem_range] at stamps
  rw [kept.sent]
  exact stamps

theorem Kept.stamp_last (kept : Kept net inner) {q : NetlibPacket} (after : Kept net next)
    (accepted : next.core.accepted = inner.core.accepted ++ [q]) :
    q.stamp = inner.sent.length := by
  have stamps := after.accounted.numbered
  rw [accepted, List.map_append, List.length_append, List.length_singleton,
    List.range_succ] at stamps
  have last := List.append_inj_right' stamps rfl
  rw [kept.sent]
  simpa using last

/-- A handler only moves the line on; a keep-alive in it is no packet of the caller. -/
theorem Kept.line_handle (kept : Kept net inner) (apart : inner.core.Apart) (isUp : inner.up)
    (handler : event.isHandler = true)
    (moved : inner.handle net maxPacketSize event = some next) : next.core.Apart ∧
      inner.writes event ++ (next.queued ++ next.backlog) = inner.queued ++ inner.backlog := by
  have after := kept.handle moved (Or.inl handler)
  obtain ⟨p, sound⟩ := kept.sound
  obtain ⟨core, stepped, rfl⟩ := Option.map_eq_some_iff.mp moved
  have behind : inner.core.sendsBehindLine event := by
    have handed : inner.core.handedOver := fun s session => Or.inl (isUp s session)
    cases event <;> first | exact handed | trivial
  rw [queued_backlog, queued_backlog, content_handle moved, writes]
  rcases NetLib.Client.handler_line sound apart behind handler stepped with
    shifts | ⟨_, silent, joins⟩
  · refine ⟨shifts.apart, ?_⟩
    rw [← List.filterMap_append, shifts.line]
  · obtain ⟨q, accepted, line⟩ := joins.joined
    have unknown : inner.content q = none := by
      unfold content
      rw [kept.stamp_last after accepted, List.getElem?_eq_none (Nat.le_refl _)]
      rfl
    refine ⟨joins.apart, ?_⟩
    rw [silent, line, List.filterMap_append]
    simp [unknown]

theorem up_sendAsync (isUp : inner.up) (packet : NetlibPacket) : (inner.sendAsync packet).up := by
  cases session : inner.core.connectedSession with
  | none =>
    intro s found
    have none := (inner.sendAsync_ledger packet).2.2.2 session
    rw [Option.mem_def, none] at found
    contradiction
  | some s =>
    intro t found
    have connected := isUp s session
    obtain ⟨q, shape, _⟩ := NetLib.Client.accept_spec inner.core packet.data false packet.pHint
    have found : (inner.core.accept packet.data false packet.pHint).connectedSession = some t :=
      found
    rw [shape] at found
    unfold NetLib.Client.sendPacket at found
    simp only [session, connected, ↓reduceIte, NetLib.Client.session_applySession] at found
    obtain rfl := Option.some.inj found
    by_cases empty : s.asyncSendQueue = []
    · rw [TcpSession.sendAsync_first empty]
      exact connected
    · rw [TcpSession.sendAsync_behind empty]
      exact connected

theorem Kept.line_sendAsync (kept : Kept net inner) (apart : inner.core.Apart) (isUp : inner.up)
    (packet : NetlibPacket) : (inner.sendAsync packet).core.Apart ∧
      (inner.sendAsync packet).queued ++ (inner.sendAsync packet).backlog =
        inner.queued ++ inner.backlog ++ [packet] := by
  have handed : inner.core.handedOver := fun s session => Or.inl (isUp s session)
  have joins := NetLib.Client.joins_accept apart handed packet.data false packet.pHint
  obtain ⟨q, accepted, line⟩ := joins.joined
  have last := kept.stamp_last (kept.sendAsync packet) accepted
  have same : ∀ r ∈ inner.core.line, (inner.sendAsync packet).content r = inner.content r := by
    intro r held
    show ((inner.sent ++ [some packet])[r.stamp]?).join = (inner.sent[r.stamp]?).join
    rw [List.getElem?_append_left (kept.stamp_lt held)]
  have given : (inner.sendAsync packet).content q = some packet := by
    show ((inner.sent ++ [some packet])[q.stamp]?).join = some packet
    rw [last, List.getElem?_concat_length]
    rfl
  refine ⟨joins.apart, ?_⟩
  rw [queued_backlog, queued_backlog]
  show (inner.core.accept packet.data false packet.pHint).line.filterMap _ = _
  rw [line, List.filterMap_append, List.filterMap_congr same]
  simp [given]

theorem Kept.line_sendAll (kept : Kept net inner) (apart : inner.core.Apart) (isUp : inner.up)
    (packets : List NetlibPacket) : (packets.foldl InnerClient.sendAsync inner).core.Apart ∧
      (packets.foldl InnerClient.sendAsync inner).queued ++
        (packets.foldl InnerClient.sendAsync inner).backlog =
          inner.queued ++ inner.backlog ++ packets := by
  induction packets generalizing inner with
  | nil => exact ⟨apart, (List.append_nil _).symm⟩
  | cons packet rest ih =>
    obtain ⟨still, line⟩ := kept.line_sendAsync apart isUp packet
    obtain ⟨after, whole⟩ := ih (kept.sendAsync packet) still (up_sendAsync isUp packet)
    refine ⟨after, ?_⟩
    rw [List.foldl_cons, whole, line, List.append_assoc]
    rfl

theorem up_of_reports (isUp : inner.up) (reports : inner.core.reportsConnection event = true)
    (moved : inner.handle net maxPacketSize event = some next) : next.up := by
  obtain ⟨core, stepped, rfl⟩ := Option.map_eq_some_iff.mp moved
  cases event with
  | runNotification index =>
    cases NetLib.Client.occurs_of_step stepped with
    | runNotification index posted => exact isUp
  | _ => contradiction

end InnerClient

namespace EarlyRun
variable {Address : Type*} {net : Addresses Address} {maxPacketSize : Nat}
  {w v : EarlyRun Address} {e : PlusEvent} {inner next : InnerClient Address}

structure Early (net : Addresses Address) (w : EarlyRun Address) : Prop where
  current : ∀ inner ∈ w.plus.client, inner.Kept net ∧ inner.core.Apart
  line : w.handed ++ w.waiting = w.plus.accepted
  resent : ∀ inner ∈ w.plus.client, w.plus.failedDataQueue = [] ∨
    inner.core.connectedSession = none ∨ inner.core.connectionPosted
  numbered : w.plus.accepted.map NetlibPacket.stamp = List.range w.plus.accepted.length

theorem handed_waiting (current : w.plus.client = some inner) : w.handed ++ w.waiting =
    w.written ++ (inner.queued ++ inner.backlog) ++ w.plus.failedDataQueue := by
  unfold handed waiting
  rw [current]
  simp

theorem Early.inOrder (inv : Early net w) : w.InOrder := by
  refine ⟨⟨w.waiting, inv.line⟩, inv.line, ?_⟩
  intro inner current session isUp silent
  obtain ⟨s, found⟩ := Option.ne_none_iff_exists'.mp session
  have apart : inner.core.failedDataQueue = [] := by
    refine ((inv.current inner current).2 s found).resolve_right ?_
    rintro ⟨closed, _⟩
    rw [isUp s found] at closed
    contradiction
  have queue : w.plus.failedDataQueue = [] := by
    rcases inv.resent inner current with empty | none | posted
    · exact empty
    · exact absurd none session
    · exact absurd posted silent
  have empty : w.waiting = [] := by
    unfold waiting
    rw [Option.mem_def.mp current, queue]
    simp [InnerClient.backlog, apart]
  have line := inv.line
  rwa [empty, List.append_nil] at line

theorem numbered_concat {accepted : List NetlibPacket} {packet : NetlibPacket}
    (numbered : accepted.map NetlibPacket.stamp = List.range accepted.length)
    (stamp : packet.stamp = accepted.length) : (accepted ++ [packet]).map NetlibPacket.stamp =
      List.range (accepted ++ [packet]).length := by
  rw [List.map_append, numbered, List.length_append, List.length_singleton, List.range_succ,
    List.map_singleton, stamp]

def withPacket (w : EarlyRun Address) (packet : NetlibPacket) : EarlyRun Address :=
  { w with plus := { w.plus with accepted := w.plus.accepted ++ [packet] }.sendPacket packet }

theorem withPacket_offline (w : EarlyRun Address) (packet : NetlibPacket)
    (offline : w.plus.client = none) : w.withPacket packet = { w with plus := { w.plus with
      failedDataQueue := w.plus.failedDataQueue ++ [packet]
      accepted := w.plus.accepted ++ [packet] } } := by
  simp only [withPacket, PlusClient.sendPacket, offline, PlusClient.addFailedData]

theorem withPacket_online (w : EarlyRun Address) (packet : NetlibPacket)
    (current : w.plus.client = some inner) : w.withPacket packet = { w with plus := { w.plus with
      client := some (inner.sendAsync packet), accepted := w.plus.accepted ++ [packet] } } := by
  simp only [withPacket, PlusClient.sendPacket, current]

theorem early_withPacket (inv : Early net w) (isUp : ∀ inner ∈ w.plus.client, inner.up)
    {packet : NetlibPacket} (stamp : packet.stamp = w.plus.accepted.length)
    (behind : w.plus.client = none ∨ w.plus.failedDataQueue = []) :
    Early net (w.withPacket packet) := by
  have line := inv.line
  cases current : w.plus.client with
  | none =>
    rw [withPacket_offline w packet current]
    refine ⟨inv.current, ?_, ?_, numbered_concat inv.numbered stamp⟩
    · unfold handed waiting at line ⊢
      rw [current] at line ⊢
      show _ = w.plus.accepted ++ [packet]
      rw [← line]
      simp
    · intro inner impossible
      have impossible : w.plus.client = some inner := impossible
      rw [current] at impossible
      contradiction
  | some inner =>
    have empty : w.plus.failedDataQueue = [] := by
      rcases behind with offline | empty
      · rw [current] at offline
        contradiction
      · exact empty
    obtain ⟨kept, apart⟩ := inv.current inner current
    obtain ⟨still, joined⟩ := kept.line_sendAsync apart (isUp inner current) packet
    rw [withPacket_online w packet current]
    refine ⟨?_, ?_, fun _ _ => Or.inl empty, numbered_concat inv.numbered stamp⟩
    · rintro _ ⟨⟩
      exact ⟨kept.sendAsync packet, still⟩
    · rw [handed_waiting current, empty, List.append_nil] at line
      rw [handed_waiting rfl, joined]
      show _ ++ _ ++ w.plus.failedDataQueue = w.plus.accepted ++ [packet]
      rw [empty, ← line]
      simp

theorem behind_of_inOrder (inv : Early net w) (isUp : ∀ inner ∈ w.plus.client, inner.up)
    {packet : NetlibPacket} (stamp : packet.stamp = w.plus.accepted.length)
    (order : (w.withPacket packet).InOrder) :
    w.plus.client = none ∨ w.plus.failedDataQueue = [] := by
  cases current : w.plus.client with
  | none => exact Or.inl rfl
  | some inner =>
    right
    obtain ⟨kept, apart⟩ := inv.current inner current
    obtain ⟨_, joined⟩ := kept.line_sendAsync apart (isUp inner current) packet
    have before := inv.line
    have after := order.line
    rw [withPacket_online w packet current, handed_waiting rfl, joined] at after
    rw [handed_waiting current] at before
    have after : w.written ++ (inner.queued ++ inner.backlog ++ [packet]) ++
        w.plus.failedDataQueue = w.plus.accepted ++ [packet] := after
    rw [← before] at after
    have swapped : packet :: w.plus.failedDataQueue = w.plus.failedDataQueue ++ [packet] := by
      simpa using after
    cases queue : w.plus.failedDataQueue with
    | nil => rfl
    | cons first rest =>
      -- The packet is the first of the queue, but the queue has only older ones.
      rw [queue, List.cons_append] at swapped
      obtain rfl := (List.cons.inj swapped).1
      have old : packet.stamp ∈ w.plus.accepted.map NetlibPacket.stamp := by
        refine List.mem_map_of_mem ?_
        rw [← before, queue]
        exact List.mem_append_right _ List.mem_cons_self
      rw [inv.numbered, List.mem_range, stamp] at old
      exact absurd old (Nat.lt_irrefl _)

theorem early_resetClient (inv : Early net w) (offline : w.plus.client = none) (ip : BitVec 32)
    (tcpPort : BitVec 16) (flags : BitVec 64) :
    Early net { w with plus := w.plus.resetClient net ip tcpPort flags } := by
  have line := inv.line
  have ledger := @NetLib.Client.sameLedger_startConnect _ net {} (.ipNumber ip) tcpPort
    (flags ||| clientEnableReconnectOnFirstConnect ||| clientFlagKeepAlive)
  have queues := @NetLib.Client.sameQueues_startConnect _ net {} (.ipNumber ip) tcpPort
    (flags ||| clientEnableReconnectOnFirstConnect ||| clientFlagKeepAlive)
  have free : w.plus.releaseClient = w.plus := by
    unfold PlusClient.releaseClient
    rw [offline]
  unfold PlusClient.resetClient
  rw [free]
  have session : (PlusClient.newClient net ip tcpPort flags).core.connectedSession = none :=
    ledger.session rfl
  refine ⟨?_, ?_, ?_, inv.numbered⟩
  · rintro _ ⟨⟩
    refine ⟨InnerClient.kept_newClient ip tcpPort flags, ?_⟩
    intro s found
    rw [session] at found
    contradiction
  · have none : (PlusClient.newClient net ip tcpPort flags).queued ++
        (PlusClient.newClient net ip tcpPort flags).backlog = [] := by
      rw [InnerClient.queued_backlog]
      show List.filterMap _ (NetLib.Client.line (NetLib.Client.startConnect net _ _ _ _)) = []
      rw [queues.line]
      rfl
    rw [handed_waiting rfl, none]
    unfold handed waiting at line
    rw [offline] at line
    simpa using line
  · rintro _ ⟨⟩
    exact Or.inr (Or.inl session)

theorem early_clientHandler (inv : Early net w) {event : ClientEvent}
    (current : w.plus.client = some inner) (isUp : inner.up) (handler : event.isHandler = true)
    (handled : inner.handle net maxPacketSize event = some next) {plus : PlusClient Address}
    (ended : { w.plus with client := some next }.connectedHandlers
      (inner.core.reportsConnection event) = some plus) :
    Early net { plus := plus, written := w.written ++ inner.writes event } := by
  have line := inv.line
  rw [handed_waiting current] at line
  obtain ⟨kept, apart⟩ := inv.current inner current
  obtain ⟨still, moved⟩ := kept.line_handle apart isUp handler handled
  have after := kept.handle handled (Or.inl handler)
  have whole : w.written ++ inner.writes event ++ (next.queued ++ next.backlog) ++
      w.plus.failedDataQueue = w.plus.accepted := by
    rw [← line, ← moved]
    simp
  unfold PlusClient.connectedHandlers at ended
  cases reports : inner.core.reportsConnection event with
  | false =>
    rw [reports] at ended
    cases ended
    refine ⟨?_, ?_, ?_, inv.numbered⟩
    · rintro _ ⟨⟩
      exact ⟨after, still⟩
    · rw [handed_waiting rfl]
      exact whole
    · rintro _ ⟨⟩
      obtain ⟨core, stepped, shape⟩ := Option.map_eq_some_iff.mp handled
      have recorded := NetLib.Client.step_recorded stepped handler
      rcases inv.resent inner current with empty | before
      · exact Or.inl empty
      · rcases recorded.connection before with impossible | kept
        · rw [reports] at impossible
          contradiction
        · rw [← shape]
          exact Or.inr kept
  | true =>
    rw [reports] at ended
    simp only [↓reduceIte] at ended
    obtain ⟨empty, ⟨none, rfl⟩ | ⟨other, found, rfl⟩⟩ :=
      PlusClient.resendFailedData_some (w := { w.plus with client := some next }) rfl ended
    · refine ⟨?_, ?_, fun _ _ => Or.inl empty, inv.numbered⟩
      · rintro _ ⟨⟩
        exact ⟨after, still⟩
      · rw [handed_waiting rfl]
        exact whole
    · obtain rfl := Option.some.inj found
      obtain ⟨apart, all⟩ := after.line_sendAll still
        (InnerClient.up_of_reports isUp reports handled) w.plus.failedDataQueue
      refine ⟨?_, ?_, fun _ _ => Or.inl rfl, inv.numbered⟩
      · rintro _ ⟨⟩
        exact ⟨(after.sendAll _).1, apart⟩
      · rw [handed_waiting rfl, all]
        show _ ++ _ ++ [] = w.plus.accepted
        rw [← whole]
        simp

theorem early_step (inv : Early net w) (first : w.plus.firstConnection e)
    (moved : w.step net maxPacketSize e = some v) :
    (w.plus.sendsBehindEarly e → Early net v) ∧ (v.InOrder → w.plus.sendsBehindEarly e) := by
  obtain ⟨plus, stepped, rfl⟩ := Option.map_eq_some_iff.mp moved
  unfold PlusClient.step at stepped
  split at stepped
  · contradiction
  · cases e with
    | sendAsync data pHint =>
      cases stepped
      simp only [PlusClient.writes, List.append_nil]
      exact ⟨early_withPacket inv first rfl, behind_of_inOrder inv first rfl⟩
    | sendCopyAsync data =>
      cases stepped
      simp only [PlusClient.writes, List.append_nil]
      exact ⟨early_withPacket inv first rfl, behind_of_inOrder inv first rfl⟩
    | resetClient ip tcpPort flags =>
      cases stepped
      simp only [PlusClient.writes, List.append_nil]
      exact ⟨fun _ => early_resetClient inv first ip tcpPort flags, fun _ => trivial⟩
    | clientHandler event =>
      obtain ⟨inner, current, stepped⟩ := Option.bind_eq_some_iff.mp stepped
      split at stepped
      · rename_i handler
        obtain ⟨next, handled, ended⟩ := Option.bind_eq_some_iff.mp stepped
        refine ⟨fun _ => ?_, fun _ => trivial⟩
        simp only [PlusClient.writes, current, Option.elim_some]
        exact early_clientHandler inv current (first inner current) handler handled ended
      · contradiction
    | releaseClient | retiredHandler | destroy => exact absurd first id

theorem early_initial : Early net ({} : EarlyRun Address) :=
  ⟨by simp, rfl, by simp, rfl⟩

/-- In every run up to the loss of the first connection that sends nothing past a packet of
    failed_data_queue, the packets come to the session in the order of the calls, and the
    next packet keeps that order exactly when it passes none either. -/
theorem early_data_in_order (run : Reach (step net maxPacketSize) keepsOrder {} w) :
    w.InOrder ∧ ∀ e v, w.plus.firstConnection e → w.step net maxPacketSize e = some v →
      (v.InOrder ↔ w.plus.sendsBehindEarly e) := by
  have inv : Early net w := by
    refine reach_invariant (Early net) early_initial ?_ run
    intro s e t inv guard moved
    exact (early_step inv guard.1 moved).1 guard.2
  refine ⟨inv.inOrder, ?_⟩
  intro e v first moved
  obtain ⟨keeps, only⟩ := early_step inv first moved
  exact ⟨only, fun behind => (keeps behind).inOrder⟩

def sendsBeforeConnection : List PlusEvent :=
  [.sendAsync (uint32Bytes 4) 1, .resetClient 0x0100007f 80 0, .clientHandler (.connectDone none),
    .clientHandler (.runNotification 0), .sendCopyAsync (uint32Bytes 4)]

theorem in_order_before_connection : ∃ w, Reach (step NetLib.Client.localhost 0x80000)
    keepsOrder {} w ∧ w.handed.map NetlibPacket.stamp = [0, 1] ∧ w.InOrder := by
  obtain ⟨w, run, test⟩ := execWithin_any (step NetLib.Client.localhost 0x80000) keepsOrder {}
    sendsBeforeConnection (fun w => decide (w.handed.map NetlibPacket.stamp = [0, 1]))
    (by decide +kernel)
  exact ⟨w, run, of_decide_eq_true test, (early_data_in_order run).1⟩

/-- A packet sent after ResetClient overtakes the one sent before it. -/
theorem early_data_overtaken : ¬ ∀ w : EarlyRun (BitVec 32),
    Reach (step NetLib.Client.localhost 0x80000) (fun w e => w.plus.firstConnection e) {} w →
      w.InOrder := by
  intro all
  obtain ⟨w, run, test⟩ := execWithin_any (step NetLib.Client.localhost 0x80000)
    (fun w e => w.plus.firstConnection e) {}
    [.sendAsync (uint32Bytes 4) 1, .resetClient 0x0100007f 80 0, .sendAsync (uint32Bytes 4) 2,
      .clientHandler (.connectDone none), .clientHandler (.runNotification 0)]
    (fun w => decide (w.handed.map NetlibPacket.stamp = [1, 0] ∧
      w.plus.accepted.map NetlibPacket.stamp = [0, 1])) (by decide +kernel)
  obtain ⟨handed, accepted⟩ := of_decide_eq_true test
  have order := (all w run).handed.map NetlibPacket.stamp
  rw [handed, accepted] at order
  contradiction

end EarlyRun

end LaluneServer.NetLibPlus
