import LaluneServer.NetLibPlus.ResendLoop

/- Who holds the packets of a NetLibPlus client. A NetLib client that is replaced keeps what
   it still carries, so the packets stay with failed_data_queue and the current client
   exactly as long as no client is replaced that carries some. -/
namespace LaluneServer.NetLibPlus
open NetLib Transition

namespace InnerClient
variable {Address : Type*} {net : Addresses Address} {maxPacketSize : Nat}
  {inner next : InnerClient Address} {event : ClientEvent} {packet : NetlibPacket}

structure Kept (net : Addresses Address) (inner : InnerClient Address) : Prop where
  sound : ∃ p, NetLib.Client.Sound net p inner.core
  accounted : inner.core.Accounted
  sent : inner.sent.length = inner.core.accepted.length

def Drained (inner : InnerClient Address) : Prop :=
  ∀ (n : Nat) (packet : NetlibPacket), inner.sent[n]? = some (some packet) →
    ∃ q ∈ inner.core.finished, q.stamp = n

theorem mem_content {packets : List NetlibPacket} : packet ∈ packets.filterMap inner.content ↔
    ∃ q ∈ packets, inner.sent[q.stamp]? = some (some packet) := by
  simp only [List.mem_filterMap, content]
  constructor
  · rintro ⟨q, member, found⟩
    exact ⟨q, member, Option.join_eq_some_iff.mp found⟩
  · rintro ⟨q, member, found⟩
    exact ⟨q, member, Option.join_eq_some_iff.mpr found⟩

theorem Kept.located (kept : Kept net inner) {n : Nat}
    (given : inner.sent[n]? = some (some packet)) :
    ∃ q ∈ sessionPackets inner.core.connectedSession ++ inner.core.failedDataQueue ++
      inner.core.sendFinishes ++ inner.core.finished ++ inner.core.released, q.stamp = n := by
  obtain ⟨inside, _⟩ := List.getElem?_eq_some_iff.mp given
  rw [kept.sent] at inside
  have member : inner.core.accepted[n] ∈ (inner.core.accepted : Multiset NetlibPacket) :=
    List.getElem_mem inside
  rw [← kept.accounted.places] at member
  refine ⟨inner.core.accepted[n], by simpa [NetLib.Client.places] using member, ?_⟩
  have numbered := congrArg (fun stamps => stamps[n]?) kept.accounted.numbered
  simpa [inside] using numbered

theorem Kept.cases (kept : Kept net inner) (given : some packet ∈ inner.sent) :
    packet ∈ inner.carried ∨ packet ∈ inner.finished ∨ packet ∈ inner.released := by
  obtain ⟨n, given⟩ := List.mem_iff_getElem?.mp given
  obtain ⟨q, member, rfl⟩ := kept.located given
  rcases List.mem_append.mp member with before | done
  · rcases List.mem_append.mp before with way | sent
    · exact Or.inl (mem_content.mpr ⟨q, way, given⟩)
    · exact Or.inr (Or.inl (mem_content.mpr ⟨q, sent, given⟩))
  · exact Or.inr (Or.inr (mem_content.mpr ⟨q, done, given⟩))

theorem Kept.apart (kept : Kept net inner) {q r : NetlibPacket} (sent : q ∈ inner.core.finished)
    (gone : r ∈ inner.core.released) : q.stamp ≠ r.stamp := by
  intro same
  have places := kept.accounted.places
  have stays : ∀ s, s ∈ inner.core.finished ∨ s ∈ inner.core.released →
      s ∈ inner.core.accepted := by
    intro s member
    rw [← Multiset.mem_coe, ← places]
    simp only [NetLib.Client.places, Multiset.mem_add, Multiset.mem_coe]
    tauto
  have distinct : (inner.core.accepted.map NetlibPacket.stamp).Nodup := by
    rw [kept.accounted.numbered]
    exact List.nodup_range
  obtain rfl :=
    List.inj_on_of_nodup_map distinct (stays q (Or.inl sent)) (stays r (Or.inr gone)) same
  have once := kept.accounted.conserved.once
  unfold NetLib.Client.places at once
  exact Multiset.disjoint_left.mp (Multiset.nodup_add.mp once).2.2
    (Multiset.mem_add.mpr (Or.inr sent)) gone

theorem Drained.released (drained : inner.Drained) (kept : Kept net inner) :
    inner.released = [] := by
  refine List.eq_nil_iff_forall_not_mem.mpr ?_
  intro packet member
  obtain ⟨r, gone, given⟩ := mem_content.mp member
  obtain ⟨q, sent, same⟩ := drained r.stamp packet given
  exact kept.apart sent gone same

theorem Drained.finished (drained : inner.Drained) (given : some packet ∈ inner.sent) :
    packet ∈ inner.finished := by
  obtain ⟨n, given⟩ := List.mem_iff_getElem?.mp given
  obtain ⟨q, sent, rfl⟩ := drained n packet given
  exact mem_content.mpr ⟨q, sent, given⟩

/-- A client that carries nothing and released nothing has sent everything. -/
theorem Kept.drained (kept : Kept net inner) (nothing : inner.carried = [])
    (released : inner.core.released = []) : inner.Drained := by
  intro n packet given
  obtain ⟨q, member, rfl⟩ := kept.located given
  rw [released, List.append_nil] at member
  rcases List.mem_append.mp member with way | sent
  · have carried : packet ∈ inner.carried := mem_content.mpr ⟨q, way, given⟩
    rw [nothing] at carried
    contradiction
  · exact ⟨q, sent, rfl⟩

theorem Kept.sendAsync (kept : Kept net inner) (packet : NetlibPacket) :
    Kept net (inner.sendAsync packet) := by
  obtain ⟨p, sound⟩ := kept.sound
  obtain ⟨q, _, _, next⟩ := NetLib.Client.moves_accept sound packet.data false packet.pHint
  obtain ⟨_, accepted, _⟩ :=
    NetLib.Client.accept_ledger inner.core packet.data false packet.pHint
  refine ⟨⟨q, next⟩, NetLib.Client.accounted_accept kept.accounted _ _ _, ?_⟩
  show (inner.sent ++ [some packet]).length = (inner.core.accept _ _ _).accepted.length
  rw [accepted, List.length_append, List.length_append, kept.sent]
  rfl

theorem sendAsync_ledger (inner : InnerClient Address) (packet : NetlibPacket) :
    (inner.sendAsync packet).core.finished = inner.core.finished ∧
    (inner.sendAsync packet).core.released = inner.core.released ∧
    (inner.sendAsync packet).core.notifications = inner.core.notifications ∧
    (inner.core.connectedSession = none →
      (inner.sendAsync packet).core.connectedSession = none) := by
  obtain ⟨_, _, kept⟩ := NetLib.Client.accept_ledger inner.core packet.data false packet.pHint
  exact ⟨kept.finished, kept.released, kept.notifications, kept.session⟩

theorem sent_sendAll (inner : InnerClient Address) (packets : List NetlibPacket) :
    (packets.foldl InnerClient.sendAsync inner).sent = inner.sent ++ packets.map some := by
  induction packets generalizing inner with
  | nil => exact (List.append_nil _).symm
  | cons packet rest ih =>
    rw [List.foldl_cons, ih]
    simp [InnerClient.sendAsync]

theorem Kept.sendAll (kept : Kept net inner) (packets : List NetlibPacket) :
    Kept net (packets.foldl InnerClient.sendAsync inner) ∧
    (packets.foldl InnerClient.sendAsync inner).core.released = inner.core.released := by
  induction packets generalizing inner with
  | nil => exact ⟨kept, rfl⟩
  | cons packet rest ih =>
    obtain ⟨next, released⟩ := ih (kept.sendAsync packet)
    exact ⟨next, released.trans (sendAsync_ledger inner packet).2.1⟩

theorem Kept.disconnect (kept : Kept net inner) :
    Kept net { inner with core := inner.core.disconnect } := by
  obtain ⟨p, sound⟩ := kept.sound
  have same := NetLib.Client.sameQueues_disconnect inner.core
  refine ⟨?_, kept.accounted.moved same.onlyMoved, ?_⟩
  · rcases NetLib.Client.moves_disconnect sound with ⟨q, _, _, next⟩ | ⟨_, next⟩
    · exact ⟨q, next⟩
    · exact ⟨_, next⟩
  · show inner.sent.length = inner.core.disconnect.accepted.length
    rw [same.accepted]
    exact kept.sent

theorem kept_newClient (ip : BitVec 32) (tcpPort : BitVec 16) (flags : BitVec 64) :
    Kept net (PlusClient.newClient net ip tcpPort flags) := by
  have start : NetLib.Client.Accounted ({} : NetLib.Client Address) := ⟨rfl, rfl⟩
  have same := @NetLib.Client.sameQueues_startConnect _ net {} (.ipNumber ip) tcpPort
    (flags ||| clientEnableReconnectOnFirstConnect ||| clientFlagKeepAlive)
  refine ⟨?_, start.moved same.onlyMoved, ?_⟩
  · rcases NetLib.Client.startConnect_cases (NetLib.Client.sound_initial net) (.ipNumber ip)
      tcpPort (flags ||| clientEnableReconnectOnFirstConnect ||| clientFlagKeepAlive) with
      ⟨q, _, _, next⟩ | ⟨_, _, next⟩
    · exact ⟨q, next⟩
    · exact ⟨_, next⟩
  · exact (congrArg List.length same.accepted).symm

theorem handle_sent (moved : inner.handle net maxPacketSize event = some next) {n : Nat} :
    next.sent[n]? = some (some packet) ↔ inner.sent[n]? = some (some packet) := by
  obtain ⟨core, _, rfl⟩ := Option.map_eq_some_iff.mp moved
  simp only
  split
  · rw [List.getElem?_append]
    split
    · rfl
    · rename_i beyond
      rw [List.getElem?_eq_none (Nat.not_lt.mp beyond)]
      cases n - inner.sent.length with
      | zero => simp
      | succ k => simp
  · rfl

theorem handle_ledger (moved : inner.handle net maxPacketSize event = some next)
    (possible : event.isHandler = true ∨ event = .destroy) :
    next.sent.length + inner.core.accepted.length =
      inner.sent.length + next.core.accepted.length ∧
    inner.core.finished ⊆ next.core.finished := by
  obtain ⟨core, stepped, rfl⟩ := Option.map_eq_some_iff.mp moved
  rcases possible with handler | rfl
  · have recorded := NetLib.Client.step_recorded stepped handler
    refine ⟨?_, recorded.finished⟩
    have accepted := recorded.accepted
    simp only
    split
    · rename_i keepAlive
      rw [if_pos keepAlive] at accepted
      rw [List.length_append, List.length_singleton]
      omega
    · rename_i other
      rw [if_neg other] at accepted
      omega
  · unfold NetLib.Client.step at stepped
    split at stepped
    · contradiction
    · simp only at stepped
      split at stepped
      · contradiction
      · simp only [NetLib.Client.runHandler] at stepped
        split at stepped
        · cases stepped
          exact ⟨rfl, List.Subset.refl _⟩
        · contradiction

theorem Kept.handle (kept : Kept net inner)
    (moved : inner.handle net maxPacketSize event = some next)
    (possible : event.isHandler = true ∨ event = .destroy) : Kept net next := by
  obtain ⟨p, sound⟩ := kept.sound
  have lengths := (handle_ledger moved possible).1
  have before := kept.sent
  obtain ⟨core, stepped, rfl⟩ := Option.map_eq_some_iff.mp moved
  obtain ⟨q, follows⟩ := NetLib.Client.step_follows sound stepped
  refine ⟨⟨q, follows.sound⟩, NetLib.Client.step_accounted sound kept.accounted stepped, ?_⟩
  omega

theorem Drained.handle (drained : inner.Drained)
    (moved : inner.handle net maxPacketSize event = some next)
    (possible : event.isHandler = true ∨ event = .destroy) : next.Drained := by
  intro n packet given
  obtain ⟨q, sent, same⟩ := drained n packet ((handle_sent moved).mp given)
  exact ⟨q, (handle_ledger moved possible).2 sent, same⟩

end InnerClient

namespace PlusClient
variable {Address : Type*} {net : Addresses Address} {maxPacketSize : Nat}
  {w v : PlusClient Address} {inner next : InnerClient Address} {packet : NetlibPacket}

/-- A packet whose SendFinishHandler has not run is in failed_data_queue or with the
    current client, the queue is handed over as soon as that client has connected,
    and only the destructor releases a packet. -/
structure Custody (w : PlusClient Address) : Prop where
  held : w.destroyed = false → ∀ packet ∈ w.accepted, packet ∉ w.finishedPackets →
    packet ∈ w.failedDataQueue ∨ ∃ inner ∈ w.client, packet ∈ inner.carried
  resent : ∀ inner ∈ w.client, w.failedDataQueue = [] ∨ inner.core.connectedSession = none ∨
    inner.core.connectionPosted
  kept : w.destroyed = false → w.releasedPackets = []

/-- ResetClient and ReleaseClient come only when the current client carries no packet. -/
def replacesDrained (w : PlusClient Address) : PlusEvent → Prop
  | .resetClient .. | .releaseClient => ∀ inner ∈ w.client, inner.carried = []
  | _ => True

instance (w : PlusClient Address) : (e : PlusEvent) → Decidable (w.replacesDrained e)
  | .resetClient .. | .releaseClient =>
    inferInstanceAs (Decidable (∀ inner ∈ w.client, inner.carried = []))
  | .sendAsync .. | .sendCopyAsync _ | .clientHandler _ | .retiredHandler .. | .destroy =>
    isTrue trivial

/-- What a run must keep to: no call drops a packet, and no call is stuck. -/
def keepsPackets (w : PlusClient Address) (e : PlusEvent) : Prop :=
  w.replacesDrained e ∧ w.resendsToClient e

instance (w : PlusClient Address) (e : PlusEvent) : Decidable (w.keepsPackets e) :=
  inferInstanceAs (Decidable (_ ∧ _))

/-- The invariant: the clients that were replaced have sent all they were given, and every
    packet was given to some client or waits in failed_data_queue. -/
structure InCustody (net : Addresses Address) (w : PlusClient Address) : Prop where
  current : ∀ inner ∈ w.client, inner.Kept net ∧ inner.core.released = []
  retired : ∀ inner ∈ w.retired, inner.Kept net ∧ inner.Drained
  given : w.destroyed = false → ∀ packet ∈ w.accepted,
    packet ∈ w.failedDataQueue ∨ ∃ inner ∈ w.clients, some packet ∈ inner.sent
  resent : ∀ inner ∈ w.client, w.failedDataQueue = [] ∨ inner.core.connectedSession = none ∨
    inner.core.connectionPosted
  released : w.destroyed = false → w.released = []

theorem mem_clients : inner ∈ w.clients ↔ w.client = some inner ∨ inner ∈ w.retired := by
  simp [clients]

theorem InCustody.custody (inv : InCustody net w) : w.Custody := by
  refine ⟨?_, inv.resent, ?_⟩
  · intro alive packet accepted waiting
    rcases inv.given alive packet accepted with queued | ⟨inner, member, given⟩
    · exact Or.inl queued
    · have unfinished : packet ∉ inner.finished := fun sent =>
        waiting (List.mem_flatMap.mpr ⟨inner, member, sent⟩)
      rcases mem_clients.mp member with current | retired
      · obtain ⟨kept, released⟩ := inv.current inner current
        rcases kept.cases given with carried | sent | gone
        · exact Or.inr ⟨inner, current, carried⟩
        · exact absurd sent unfinished
        · rw [InnerClient.released, released] at gone
          contradiction
      · exact absurd ((inv.retired inner retired).2.finished given) unfinished
  · intro alive
    unfold releasedPackets
    rw [inv.released alive, List.nil_append, List.flatMap_eq_nil_iff]
    intro inner member
    rcases mem_clients.mp member with current | retired
    · rw [InnerClient.released, (inv.current inner current).2]
      rfl
    · obtain ⟨kept, drained⟩ := inv.retired inner retired
      exact drained.released kept

theorem inCustody_sendPacket (inv : InCustody net w) :
    InCustody net ({ w with accepted := w.accepted ++ [packet] }.sendPacket packet) := by
  rcases Option.eq_none_or_eq_some w.client with current | ⟨inner, current⟩
  · have shape : { w with accepted := w.accepted ++ [packet] }.sendPacket packet = { w with
        failedDataQueue := w.failedDataQueue ++ [packet]
        accepted := w.accepted ++ [packet] } := by
      simp only [sendPacket, current, addFailedData]
    rw [shape]
    refine ⟨inv.current, inv.retired, ?_, ?_, inv.released⟩
    · intro alive other accepted
      rcases List.mem_append.mp accepted with before | last
      · exact (inv.given alive other before).imp_left (List.mem_append_left _)
      · exact Or.inl (List.mem_append_right _ last)
    · intro inner impossible
      have impossible : w.client = some inner := impossible
      rw [current] at impossible
      contradiction
  · have shape : { w with accepted := w.accepted ++ [packet] }.sendPacket packet = { w with
        client := some (inner.sendAsync packet), accepted := w.accepted ++ [packet] } := by
      simp only [sendPacket, current]
    rw [shape]
    obtain ⟨kept, released⟩ := inv.current inner current
    obtain ⟨_, kept_released, notifications, session⟩ := inner.sendAsync_ledger packet
    refine ⟨?_, inv.retired, ?_, ?_, inv.released⟩
    · intro other same
      obtain rfl := Option.some.inj same
      exact ⟨kept.sendAsync packet, kept_released.trans released⟩
    · intro alive other accepted
      rcases List.mem_append.mp accepted with before | last
      · refine (inv.given alive other before).imp_right ?_
        rintro ⟨holder, member, sent⟩
        rcases mem_clients.mp member with same | retired
        · obtain rfl := Option.some.inj (current.symm.trans same)
          exact ⟨_, mem_clients.mpr (Or.inl rfl), List.mem_append_left _ sent⟩
        · exact ⟨holder, mem_clients.mpr (Or.inr retired), sent⟩
      · obtain rfl := List.mem_singleton.mp last
        exact Or.inr ⟨_, mem_clients.mpr (Or.inl rfl),
          List.mem_append_right _ (List.mem_singleton_self _)⟩
    · intro other same
      obtain rfl := Option.some.inj same
      refine (inv.resent inner current).imp_right ?_
      rintro (none | posted)
      · exact Or.inl (session none)
      · refine Or.inr ?_
        unfold NetLib.Client.connectionPosted
        rw [notifications]
        exact posted

theorem inCustody_connectedHandlers (current : ∀ inner ∈ w.client, inner.Kept net ∧
      inner.core.released = [])
    (retired : ∀ inner ∈ w.retired, inner.Kept net ∧ inner.Drained)
    (given : w.destroyed = false → ∀ packet ∈ w.accepted,
      packet ∈ w.failedDataQueue ∨ ∃ inner ∈ w.clients, some packet ∈ inner.sent)
    (released : w.destroyed = false → w.released = []) {reports : Bool}
    (resent : reports = false → ∀ inner ∈ w.client, w.failedDataQueue = [] ∨
      inner.core.connectedSession = none ∨ inner.core.connectionPosted)
    (ended : w.connectedHandlers reports = some v) : InCustody net v := by
  unfold connectedHandlers at ended
  cases reports with
  | false =>
    cases ended
    exact ⟨current, retired, given, resent rfl, released⟩
  | true =>
    simp only [↓reduceIte] at ended
    obtain ⟨empty, ⟨_, rfl⟩ | ⟨inner, found, rfl⟩⟩ := resendFailedData_some rfl ended
    · exact ⟨current, retired, given, fun _ _ => Or.inl empty, released⟩
    · obtain ⟨kept, unreleased⟩ := current inner found
      obtain ⟨next, same⟩ := kept.sendAll w.failedDataQueue
      have sent := inner.sent_sendAll w.failedDataQueue
      refine ⟨?_, retired, ?_, fun _ _ => Or.inl rfl, released⟩
      · rintro _ ⟨⟩
        exact ⟨next, same.trans unreleased⟩
      · intro alive packet accepted
        refine Or.inr ?_
        rcases given alive packet accepted with queued | ⟨holder, member, before⟩
        · refine ⟨_, mem_clients.mpr (Or.inl rfl), ?_⟩
          rw [sent]
          exact List.mem_append_right _ (List.mem_map_of_mem queued)
        · rcases mem_clients.mp member with same_client | old
          · obtain rfl := Option.some.inj (found.symm.trans same_client)
            refine ⟨_, mem_clients.mpr (Or.inl rfl), ?_⟩
            rw [sent]
            exact List.mem_append_left _ before
          · exact ⟨holder, mem_clients.mpr (Or.inr old), before⟩

theorem inCustody_releaseClient (inv : InCustody net w)
    (drained : ∀ inner ∈ w.client, inner.carried = []) :
    InCustody net w.releaseClient ∧ w.releaseClient.client = none := by
  unfold releaseClient
  cases current : w.client with
  | none => exact ⟨inv, current⟩
  | some inner =>
    obtain ⟨kept, released⟩ := inv.current inner current
    have sent := kept.drained (drained inner current) released
    have same := NetLib.Client.sameQueues_disconnect inner.core
    refine ⟨⟨by simp, ?_, ?_, by simp, inv.released⟩, rfl⟩
    · intro other member
      rcases List.mem_append.mp member with before | last
      · exact inv.retired other before
      · obtain rfl := List.mem_singleton.mp last
        refine ⟨kept.disconnect, ?_⟩
        intro n packet given
        obtain ⟨q, done, number⟩ := sent n packet given
        exact ⟨q, same.finished ▸ done, number⟩
    · intro alive packet accepted
      refine (inv.given alive packet accepted).imp_right ?_
      rintro ⟨holder, member, given⟩
      rcases mem_clients.mp member with same_client | old
      · obtain rfl := Option.some.inj (current.symm.trans same_client)
        exact ⟨_, mem_clients.mpr (Or.inr (List.mem_append_right _ (List.mem_singleton_self _))),
          given⟩
      · exact ⟨holder, mem_clients.mpr (Or.inr (List.mem_append_left _ old)), given⟩

theorem inCustody_resetClient (inv : InCustody net w)
    (drained : ∀ inner ∈ w.client, inner.carried = []) (ip : BitVec 32) (tcpPort : BitVec 16)
    (flags : BitVec 64) : InCustody net (w.resetClient net ip tcpPort flags) := by
  obtain ⟨freed, none⟩ := inCustody_releaseClient inv drained
  have same := @NetLib.Client.sameLedger_startConnect _ net {} (.ipNumber ip) tcpPort
    (flags ||| clientEnableReconnectOnFirstConnect ||| clientFlagKeepAlive)
  unfold resetClient
  generalize w.releaseClient = v at freed none
  refine ⟨?_, freed.retired, ?_, ?_, freed.released⟩
  · rintro _ ⟨⟩
    exact ⟨InnerClient.kept_newClient ip tcpPort flags, same.released⟩
  · intro alive packet accepted
    refine (freed.given alive packet accepted).imp_right ?_
    rintro ⟨holder, member, given⟩
    rcases mem_clients.mp member with impossible | old
    · rw [none] at impossible
      contradiction
    · exact ⟨holder, mem_clients.mpr (Or.inr old), given⟩
  · rintro _ ⟨⟩
    exact Or.inr (Or.inl (same.session rfl))

theorem accept_sends (w : PlusClient Address) (data : Bytes) (copy : Bool) (pHint : BitVec 64) :
    ∃ packet, w.accept data copy pHint =
      { w with accepted := w.accepted ++ [packet] }.sendPacket packet :=
  ⟨{ data := data, copy := copy, pHint := pHint, stamp := w.accepted.length }, rfl⟩

theorem inCustody_clientHandler (inv : InCustody net w) {event : ClientEvent}
    (current : w.client = some inner) (handler : event.isHandler = true)
    (handled : inner.handle net maxPacketSize event = some next)
    (ended : { w with client := some next }.connectedHandlers
      (inner.core.reportsConnection event) = some v) : InCustody net v := by
  obtain ⟨kept, released⟩ := inv.current inner current
  obtain ⟨core, stepped, shape⟩ := Option.map_eq_some_iff.mp handled
  have recorded : NetLib.Client.Recorded event inner.core next.core := by
    rw [← shape]
    exact NetLib.Client.step_recorded stepped handler
  refine inCustody_connectedHandlers (w := { w with client := some next }) ?_ inv.retired ?_
    inv.released ?_ ended
  · intro other same
    obtain rfl := Option.some.inj same
    exact ⟨kept.handle handled (Or.inl handler), recorded.released.trans released⟩
  · intro alive packet accepted
    refine (inv.given alive packet accepted).imp_right ?_
    rintro ⟨holder, member, given⟩
    rcases mem_clients.mp member with same | retired
    · obtain rfl := Option.some.inj (current.symm.trans same)
      obtain ⟨n, given⟩ := List.mem_iff_getElem?.mp given
      exact ⟨next, mem_clients.mpr (Or.inl rfl),
        List.mem_of_getElem? ((InnerClient.handle_sent handled).mpr given)⟩
    · exact ⟨holder, mem_clients.mpr (Or.inr retired), given⟩
  · intro silent other same
    obtain rfl := Option.some.inj same
    rcases inv.resent inner current with empty | before
    · exact Or.inl empty
    · rcases recorded.connection before with reports | after
      · rw [silent] at reports
        contradiction
      · exact Or.inr after

theorem inCustody_retiredHandler (inv : InCustody net w) {index : Nat} {event : ClientEvent}
    (retired : w.retired[index]? = some inner)
    (possible : event.isHandler = true ∨ event = .destroy)
    (handled : inner.handle net maxPacketSize event = some next)
    (ended : { w with retired := w.retired.set index next }.connectedHandlers
      (inner.core.reportsConnection event) = some v) : InCustody net v := by
  obtain ⟨inside, rfl⟩ := List.getElem?_eq_some_iff.mp retired
  obtain ⟨kept, drained⟩ := inv.retired _ (List.getElem_mem inside)
  refine inCustody_connectedHandlers (w := { w with retired := w.retired.set index next })
    inv.current ?_ ?_ inv.released (fun _ => inv.resent) ended
  · intro other member
    rcases List.mem_or_eq_of_mem_set member with before | rfl
    · exact inv.retired other before
    · exact ⟨kept.handle handled possible, drained.handle handled possible⟩
  · intro alive packet accepted
    refine (inv.given alive packet accepted).imp_right ?_
    rintro ⟨holder, member, given⟩
    rcases mem_clients.mp member with same | old
    · exact ⟨holder, mem_clients.mpr (Or.inl same), given⟩
    · obtain ⟨i, place, rfl⟩ := List.mem_iff_getElem.mp old
      by_cases replaced : i = index
      · subst replaced
        obtain ⟨n, given⟩ := List.mem_iff_getElem?.mp given
        exact ⟨next, mem_clients.mpr (Or.inr (List.mem_set place next)),
          List.mem_of_getElem? ((InnerClient.handle_sent handled).mpr given)⟩
      · refine ⟨w.retired[i], mem_clients.mpr (Or.inr ?_), given⟩
        exact List.mem_iff_getElem?.mpr ⟨i, by
          rw [List.getElem?_set_ne (Ne.symm replaced), List.getElem?_eq_getElem place]⟩

theorem inCustody_step (inv : InCustody net w) {e : PlusEvent} (drained : w.replacesDrained e)
    (moved : step net maxPacketSize w e = some v) : InCustody net v := by
  unfold step at moved
  split at moved
  · contradiction
  · cases e with
    | sendAsync data pHint =>
      cases moved
      obtain ⟨packet, shape⟩ := w.accept_sends data false pHint
      rw [sendAsync, shape]
      exact inCustody_sendPacket inv
    | sendCopyAsync data =>
      cases moved
      obtain ⟨packet, shape⟩ := w.accept_sends (data.take (readUint32 data)) true 0
      rw [sendCopyAsync, shape]
      exact inCustody_sendPacket inv
    | resetClient ip tcpPort flags =>
      cases moved
      exact inCustody_resetClient inv drained ip tcpPort flags
    | releaseClient =>
      cases moved
      exact (inCustody_releaseClient inv drained).1
    | clientHandler event =>
      obtain ⟨inner, current, moved⟩ := Option.bind_eq_some_iff.mp moved
      split at moved
      · rename_i handler
        obtain ⟨next, handled, ended⟩ := Option.bind_eq_some_iff.mp moved
        exact inCustody_clientHandler inv current handler handled ended
      · contradiction
    | retiredHandler index event =>
      obtain ⟨inner, retired, moved⟩ := Option.bind_eq_some_iff.mp moved
      split at moved
      · rename_i possible
        obtain ⟨next, handled, ended⟩ := Option.bind_eq_some_iff.mp moved
        exact inCustody_retiredHandler inv retired possible handled ended
      · contradiction
    | destroy =>
      simp only at moved
      split at moved
      · cases moved
        refine ⟨inv.current, inv.retired, nofun, fun _ _ => Or.inl rfl, nofun⟩
      · contradiction

theorem inCustody_initial : InCustody net ({} : PlusClient Address) :=
  ⟨by simp, by simp, by simp, by simp, fun _ => rfl⟩

def firstAddress : List PlusEvent :=
  [.sendAsync (uint32Bytes 4) 1, .resetClient 0x0100007f 80 0, .clientHandler (.connectDone none),
    .clientHandler (.runNotification 0), .clientHandler (.writeDone none),
    .clientHandler (.runSendFinish 0), .clientHandler .delegateReturned]

end PlusClient

end LaluneServer.NetLibPlus
