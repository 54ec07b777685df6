import LaluneServer.NetLibPlus.Custody

/- What ResendFailedData hands over. A posted ConnectedHandler that runs after ReleaseClient
   finds no NetLib client, and then its loop does not end. -/
namespace LaluneServer.NetLibPlus
open NetLib Transition

def InnerClient.given {Address : Type*} (inner : InnerClient Address) : List NetlibPacket :=
  inner.sent.filterMap id

namespace PlusClient
variable {Address : Type*} (net : Addresses Address) (maxPacketSize : Nat) (w : PlusClient Address)

/-- The loop ends, and then the NetLib client was given every packet of the queue once, or
    without a client the packets are still in the queue. -/
structure ResendsOnce : Prop where
  ends : ∃ v, w.ResendsTo v
  handed : ∀ v, w.ResendsTo v → ∀ inner ∈ w.client, ∃ after ∈ v.client,
    after.sent = inner.sent ++ w.failedDataQueue.map some ∧
      ∀ packet ∈ w.failedDataQueue, after.sent.count (some packet) = 1
  kept : ∀ v, w.ResendsTo v → w.client = none → v.failedDataQueue = w.failedDataQueue

def held : Multiset NetlibPacket :=
  w.failedDataQueue + w.client.elim [] InnerClient.given + w.retired.flatMap InnerClient.given

structure GivenOnce : Prop where
  places : w.destroyed = false → w.held = (w.accepted : Multiset NetlibPacket)
  numbered : w.accepted.map NetlibPacket.stamp = List.range w.accepted.length

variable {net maxPacketSize} {w} {u v : PlusClient Address} {inner next : InnerClient Address}
  {e : PlusEvent} {packet : NetlibPacket}

theorem given_sendAll (inner : InnerClient Address) (packets : List NetlibPacket) :
    (packets.foldl InnerClient.sendAsync inner).given = inner.given ++ packets := by
  unfold InnerClient.given
  rw [InnerClient.sent_sendAll, List.filterMap_append]
  simp [List.filterMap_map]

theorem given_handle {event : ClientEvent}
    (moved : inner.handle net maxPacketSize event = some next) : next.given = inner.given := by
  obtain ⟨core, _, rfl⟩ := Option.map_eq_some_iff.mp moved
  unfold InnerClient.given
  simp only
  split
  · rw [List.filterMap_append]
    exact List.append_nil _
  · rfl

theorem given_newClient (ip : BitVec 32) (tcpPort : BitVec 16) (flags : BitVec 64) :
    (newClient net ip tcpPort flags).given = [] := rfl

theorem GivenOnce.moved (once : w.GivenOnce) (accepted : v.accepted = w.accepted)
    (held : v.destroyed = false → w.destroyed = false ∧ v.held = w.held) : v.GivenOnce := by
  refine ⟨?_, ?_⟩
  · intro alive
    obtain ⟨before, same⟩ := held alive
    rw [same, once.places before, accepted]
  · rw [accepted]
    exact once.numbered

theorem givenOnce_accept (once : w.GivenOnce) (data : Bytes) (copy : Bool) (pHint : BitVec 64) :
    (w.accept data copy pHint).GivenOnce := by
  have places := once.places
  let packet : NetlibPacket :=
    { data := data, copy := copy, pHint := pHint, stamp := w.accepted.length }
  have numbered : (w.accepted ++ [packet]).map NetlibPacket.stamp =
      List.range (w.accepted ++ [packet]).length := by
    rw [List.map_append, once.numbered, List.length_append, List.length_singleton,
      List.range_succ]
    rfl
  have shape : w.accept data copy pHint =
      { w with accepted := w.accepted ++ [packet] }.sendPacket packet := rfl
  rw [shape]
  cases current : w.client with
  | none =>
    simp only [sendPacket, addFailedData]
    refine ⟨fun alive => ?_, numbered⟩
    show _ = ((w.accepted ++ [packet] : List NetlibPacket) : Multiset NetlibPacket)
    rw [← Multiset.coe_add, ← places alive]
    simp only [held, current, Option.elim_none, ← Multiset.coe_add]
    abel
  | some inner =>
    have given : (inner.sendAsync packet).given = inner.given ++ [packet] :=
      given_sendAll inner [packet]
    simp only [sendPacket]
    refine ⟨fun alive => ?_, numbered⟩
    show _ = ((w.accepted ++ [packet] : List NetlibPacket) : Multiset NetlibPacket)
    rw [← Multiset.coe_add, ← places alive]
    simp only [held, current, Option.elim_some, given, ← Multiset.coe_add]
    abel

theorem givenOnce_handled (once : w.GivenOnce) {event : ClientEvent}
    (current : w.client = some inner)
    (handled : inner.handle net maxPacketSize event = some next) :
    GivenOnce { w with client := some next } := by
  refine once.moved rfl (fun alive => ⟨alive, ?_⟩)
  unfold held
  simp only [current, Option.elim_some, given_handle handled]

theorem givenOnce_retired (once : w.GivenOnce) {index : Nat} {event : ClientEvent}
    (retired : w.retired[index]? = some inner)
    (handled : inner.handle net maxPacketSize event = some next) :
    GivenOnce { w with retired := w.retired.set index next } := by
  obtain ⟨inside, rfl⟩ := List.getElem?_eq_some_iff.mp retired
  refine once.moved rfl (fun alive => ⟨alive, ?_⟩)
  unfold held
  have same : (w.retired.set index next).flatMap InnerClient.given =
      w.retired.flatMap InnerClient.given := by
    rw [List.flatMap_def, List.map_set, given_handle handled, List.flatMap_def]
    have place : index < (w.retired.map InnerClient.given).length := by
      rw [List.length_map]
      exact inside
    congr 1
    rw [← List.getElem_map InnerClient.given (h := place), List.set_getElem_self]
  rw [same]

theorem givenOnce_connectedHandlers (once : w.GivenOnce) {reports : Bool}
    (ended : w.connectedHandlers reports = some v) : v.GivenOnce := by
  unfold connectedHandlers at ended
  split at ended
  · obtain ⟨empty, ⟨_, rfl⟩ | ⟨inner, current, rfl⟩⟩ := resendFailedData_some rfl ended
    · exact once
    · refine once.moved rfl (fun alive => ⟨alive, ?_⟩)
      simp only [held, current, Option.elim_some, given_sendAll, ← Multiset.coe_add,
        Multiset.coe_nil]
      abel
  · cases ended
    exact once

theorem releaseClient_held (w : PlusClient Address) : w.releaseClient.client = none ∧
    w.releaseClient.held = w.held ∧ w.releaseClient.accepted = w.accepted ∧
    w.releaseClient.destroyed = w.destroyed := by
  unfold releaseClient
  cases current : w.client with
  | none => exact ⟨current, rfl, rfl, rfl⟩
  | some inner =>
    refine ⟨rfl, ?_, rfl, rfl⟩
    have same : InnerClient.given { inner with core := inner.core.disconnect } = inner.given := rfl
    simp only [held, current, Option.elim_none, Option.elim_some, List.flatMap_append,
      List.flatMap_singleton, same, ← Multiset.coe_add, Multiset.coe_nil]
    abel

theorem givenOnce_releaseClient (once : w.GivenOnce) : w.releaseClient.GivenOnce := by
  obtain ⟨_, held, accepted, destroyed⟩ := w.releaseClient_held
  exact once.moved accepted (fun alive => ⟨destroyed ▸ alive, held⟩)

theorem givenOnce_resetClient (once : w.GivenOnce) (ip : BitVec 32) (tcpPort : BitVec 16)
    (flags : BitVec 64) : (w.resetClient net ip tcpPort flags).GivenOnce := by
  have released := givenOnce_releaseClient once
  have free := w.releaseClient_held.1
  refine released.moved rfl (fun alive => ⟨alive, ?_⟩)
  unfold resetClient held
  simp only [free, Option.elim_some, Option.elim_none, given_newClient]

theorem givenOnce_startsResend (once : w.GivenOnce)
    (starts : w.startsResend net maxPacketSize e = some u) : u.GivenOnce := by
  unfold startsResend at starts
  split at starts
  · contradiction
  · cases e with
    | clientHandler event =>
      obtain ⟨inner, current, starts⟩ := Option.bind_eq_some_iff.mp starts
      split at starts
      · obtain ⟨next, handled, rfl⟩ := Option.map_eq_some_iff.mp starts
        exact givenOnce_handled once current handled
      · contradiction
    | retiredHandler index event =>
      obtain ⟨inner, retired, starts⟩ := Option.bind_eq_some_iff.mp starts
      split at starts
      · obtain ⟨next, handled, rfl⟩ := Option.map_eq_some_iff.mp starts
        exact givenOnce_retired once retired handled
      · contradiction
    | _ => contradiction

theorem givenOnce_step (once : w.GivenOnce) (moved : w.step net maxPacketSize e = some v) :
    v.GivenOnce := by
  unfold step at moved
  split at moved
  · contradiction
  · cases e with
    | sendAsync data pHint =>
      cases moved
      exact givenOnce_accept once data false pHint
    | sendCopyAsync data =>
      cases moved
      exact givenOnce_accept once _ true 0
    | resetClient ip tcpPort flags =>
      cases moved
      exact givenOnce_resetClient once ip tcpPort flags
    | releaseClient =>
      cases moved
      exact givenOnce_releaseClient once
    | clientHandler event =>
      obtain ⟨inner, current, moved⟩ := Option.bind_eq_some_iff.mp moved
      split at moved
      · obtain ⟨next, handled, ended⟩ := Option.bind_eq_some_iff.mp moved
        exact givenOnce_connectedHandlers (givenOnce_handled once current handled) ended
      · contradiction
    | retiredHandler index event =>
      obtain ⟨inner, retired, moved⟩ := Option.bind_eq_some_iff.mp moved
      split at moved
      · obtain ⟨next, handled, ended⟩ := Option.bind_eq_some_iff.mp moved
        exact givenOnce_connectedHandlers (givenOnce_retired once retired handled) ended
      · contradiction
    | destroy =>
      simp only at moved
      split at moved
      · cases moved
        exact ⟨nofun, once.numbered⟩
      · contradiction

theorem givenOnce_initial : GivenOnce ({} : PlusClient Address) := ⟨fun _ => rfl, rfl⟩

theorem GivenOnce.apart (once : w.GivenOnce) (alive : w.destroyed = false)
    (current : w.client = some inner) :
    (w.failedDataQueue ++ inner.given).Nodup := by
  have distinct : w.held.Nodup := by
    rw [once.places alive, Multiset.coe_nodup]
    refine List.Nodup.of_map NetlibPacket.stamp ?_
    rw [once.numbered]
    exact List.nodup_range
  unfold held at distinct
  rw [current] at distinct
  exact Multiset.coe_nodup.mp (Multiset.nodup_add.mp distinct).1

theorem resendsOnce_online (once : w.GivenOnce) (alive : w.destroyed = false)
    (current : w.client = some inner) : w.ResendsOnce := by
  have given : ∀ v, w.ResendsTo v → ∃ after, v.client = some after ∧
      after.sent = inner.sent ++ w.failedDataQueue.map some := by
    intro v ends
    obtain ⟨_, ⟨none, rfl⟩ | ⟨other, found, rfl⟩⟩ :=
      resendFailedData_some rfl (resendsTo_iff.mp ends)
    · exact ⟨inner, current, by rw [none]; simp⟩
    · obtain rfl := Option.some.inj (current.symm.trans found)
      exact ⟨_, rfl, inner.sent_sendAll w.failedDataQueue⟩
  refine ⟨?_, ?_, fun v _ offline => ?_⟩
  · refine resendsTo_some_iff.mpr (Or.inl ?_)
    rw [current]
    rfl
  · intro v ends other found
    obtain rfl := Option.some.inj (current.symm.trans found)
    obtain ⟨after, client, sent⟩ := given v ends
    refine ⟨after, client, sent, ?_⟩
    intro packet queued
    obtain ⟨distinct, _, apart⟩ := List.nodup_append.mp (once.apart alive current)
    have before : inner.sent.count (some packet) = 0 := by
      refine List.count_eq_zero_of_not_mem (fun sent => ?_)
      exact apart packet queued packet (List.mem_filterMap.mpr ⟨some packet, sent, rfl⟩) rfl
    rw [sent, List.count_append, before, Nat.zero_add,
      List.count_map_of_injective _ _ (Option.some_injective _)]
    exact List.count_eq_one_of_mem distinct queued
  · rw [current] at offline
    contradiction

theorem resendsOnce_iff (once : w.GivenOnce) (alive : w.destroyed = false) :
    w.ResendsOnce ↔ w.client.isSome ∨ w.failedDataQueue = [] := by
  constructor
  · intro resends
    exact resendsTo_some_iff.mp resends.ends
  · intro possible
    cases current : w.client with
    | some inner => exact resendsOnce_online once alive current
    | none =>
      rw [current] at possible
      have empty := possible.resolve_left Bool.false_ne_true
      refine ⟨⟨w, 0, rfl, empty⟩, ?_, ?_⟩
      · intro v ends inner impossible
        rw [current] at impossible
        contradiction
      · rintro v ⟨n, turns, done⟩ _
        rw [done, empty]

/-- In every run, ResendFailedData ends and hands every packet over once exactly when it finds
    a NetLib client or an empty queue. -/
theorem resends_once_iff_client (run : Reach (step net maxPacketSize) always {} w)
    (starts : w.startsResend net maxPacketSize e = some u) :
    u.ResendsOnce ↔ w.client ≠ none ∨ w.failedDataQueue = [] := by
  have once : w.GivenOnce := by
    refine reach_invariant GivenOnce givenOnce_initial ?_ run
    intro s e t once _ moved
    exact givenOnce_step once moved
  obtain ⟨alive, queue, client, _⟩ := startsResend_step starts
  rw [resendsOnce_iff (givenOnce_startsResend once starts) alive, queue, client,
    Option.isSome_iff_ne_none]

def connectedWithQueue : List PlusEvent :=
  [.sendAsync (uint32Bytes 4) 1, .resetClient 0x0100007f 80 0, .clientHandler (.connectDone none)]

theorem resends_once_after_connect : ∃ w u,
    Reach (step NetLib.Client.localhost 0x80000) always {} w ∧
    w.startsResend NetLib.Client.localhost 0x80000 (.clientHandler (.runNotification 0)) = some u ∧
    u.failedDataQueue.length = 1 ∧ u.ResendsOnce := by
  obtain ⟨w, run, test⟩ := execWithin_any (step NetLib.Client.localhost 0x80000)
    (fun _ _ => True) {} connectedWithQueue (fun w => decide (w.client.isSome = true ∧
      ((w.startsResend NetLib.Client.localhost 0x80000 (.clientHandler (.runNotification 0))).map
        fun u => u.failedDataQueue.length) = some 1)) (by decide +kernel)
  obtain ⟨online, starts⟩ := of_decide_eq_true test
  obtain ⟨u, starts, length⟩ := Option.map_eq_some_iff.mp starts
  have online : w.client ≠ none := Option.isSome_iff_ne_none.mp online
  exact ⟨w, u, run, starts, length, (resends_once_iff_client run starts).mpr (Or.inl online)⟩

/-- ConnectedHandler, posted before ReleaseClient, runs after it. -/
theorem resend_without_client : ¬ ∀ (w u : PlusClient (BitVec 32)) (e : PlusEvent),
    Reach (step NetLib.Client.localhost 0x80000) always {} w →
      w.startsResend NetLib.Client.localhost 0x80000 e = some u → u.ResendsOnce := by
  intro all
  obtain ⟨w, run, test⟩ := execWithin_any (step NetLib.Client.localhost 0x80000)
    (fun _ _ => True) {} (connectedWithQueue ++ [.releaseClient])
    (fun w => decide (((w.startsResend NetLib.Client.localhost 0x80000
      (.retiredHandler 0 (.runNotification 0))).map fun u =>
        (u.client.isNone, u.failedDataQueue.length)) = some (true, 1))) (by decide +kernel)
  obtain ⟨u, starts, state⟩ := Option.map_eq_some_iff.mp (of_decide_eq_true test)
  obtain ⟨offline, length⟩ := Prod.mk.inj state
  obtain ⟨v, ends⟩ := (all w u _ run starts).ends
  refine not_resendsTo_offline (Option.isNone_iff_eq_none.mp offline) ?_ ends
  intro empty
  rw [empty] at length
  contradiction

end PlusClient

end LaluneServer.NetLibPlus
