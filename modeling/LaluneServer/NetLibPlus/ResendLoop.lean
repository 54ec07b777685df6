import LaluneServer.NetLibPlus.Client

/- The loop of ResendFailedData. It takes a packet, sends it and only then removes the front
   of the queue, so without a NetLib client it turns the queue around forever. -/
namespace LaluneServer.NetLibPlus
open NetLib

namespace PlusClient
variable {Address : Type*} (net : Addresses Address) (maxPacketSize : Nat) (w : PlusClient Address)

def resendTurn : PlusClient Address :=
  match w.failedDataQueue with
  | [] => w
  | packet :: _ =>
    let sent := w.sendPacket packet
    { sent with failedDataQueue := sent.failedDataQueue.tail }

def ResendsTo (v : PlusClient Address) : Prop :=
  ∃ n, resendTurn^[n] w = v ∧ v.failedDataQueue = []

/-- The state in which the handlers of an event call ResendFailedData, if they do. -/
def startsResend (event : PlusEvent) : Option (PlusClient Address) :=
  if w.destroyed then none
  else
    match event with
    | .clientHandler event => w.client.bind fun inner =>
        if inner.core.reportsConnection event then
          (inner.handle net maxPacketSize event).map fun next => { w with client := some next }
        else none
    | .retiredHandler index event => w.retired[index]?.bind fun inner =>
        if inner.core.reportsConnection event then
          (inner.handle net maxPacketSize event).map fun next =>
            { w with retired := w.retired.set index next }
        else none
    | _ => none

/-- No ConnectedHandler or ReconnectedHandler of a replaced client finds packets in the queue
    and no NetLib client. -/
def resendsToClient : PlusEvent → Prop
  | .retiredHandler index event => ∀ inner ∈ w.retired[index]?,
      inner.core.reportsConnection event = true → w.client.isSome ∨ w.failedDataQueue = []
  | _ => True

instance : (e : PlusEvent) → Decidable (w.resendsToClient e)
  | .retiredHandler index event => inferInstanceAs (Decidable (∀ inner ∈ w.retired[index]?,
      inner.core.reportsConnection event = true → w.client.isSome ∨ w.failedDataQueue = []))
  | .sendAsync .. | .sendCopyAsync _ | .resetClient .. | .releaseClient | .clientHandler _
  | .destroy => isTrue trivial

variable {net maxPacketSize} {w} {u v : PlusClient Address} {inner next : InnerClient Address}
  {e : PlusEvent} {packet : NetlibPacket}

theorem resendTurn_offline (offline : w.client = none) : w.resendTurn.client = none ∧
    w.resendTurn.failedDataQueue.length = w.failedDataQueue.length := by
  unfold resendTurn
  split
  · exact ⟨offline, rfl⟩
  · rename_i packet rest queue
    simp [sendPacket, offline, addFailedData, queue]

theorem resendTurns_offline (offline : w.client = none) (n : Nat) :
    (resendTurn^[n] w).failedDataQueue.length = w.failedDataQueue.length := by
  induction n generalizing w with
  | zero => rfl
  | succ n ih =>
    obtain ⟨still, length⟩ := resendTurn_offline offline
    rw [Function.iterate_succ_apply, ih still, length]

theorem not_resendsTo_offline (offline : w.client = none) (waits : w.failedDataQueue ≠ []) :
    ¬ w.ResendsTo v := by
  rintro ⟨n, rfl, empty⟩
  have length := resendTurns_offline offline n
  rw [empty] at length
  exact waits (List.length_eq_zero_iff.mp length.symm)

theorem resendTurn_online (current : w.client = some inner) {rest : List NetlibPacket}
    (queue : w.failedDataQueue = packet :: rest) : w.resendTurn = { w with
      failedDataQueue := rest, client := some (inner.sendAsync packet) } := by
  unfold resendTurn
  rw [queue]
  simp only [sendPacket, current, queue, List.tail_cons]

theorem resendsTo_iff : w.ResendsTo v ↔ resendFailedData w.failedDataQueue w = some v := by
  constructor
  · rintro ⟨n, turns, empty⟩
    induction n generalizing w with
    | zero =>
      obtain rfl : w = v := turns
      rw [empty]
      rfl
    | succ n ih =>
      cases queue : w.failedDataQueue with
      | nil =>
        have turn : w.resendTurn = w := by
          unfold resendTurn
          rw [queue]
        have again := ih (w := w) (by rw [← turns, Function.iterate_succ_apply, turn])
        rwa [queue] at again
      | cons packet rest =>
        cases current : w.client with
        | none =>
          have waits : w.failedDataQueue ≠ [] := by
            rw [queue]
            exact List.cons_ne_nil packet rest
          exact absurd ⟨n + 1, turns, empty⟩ (not_resendsTo_offline current waits)
        | some inner =>
          have again := ih (w := w.resendTurn) turns
          rw [resendTurn_online current queue] at again
          unfold resendFailedData
          rw [current]
          simp only [sendPacket]
          exact again
  · generalize packets : w.failedDataQueue = queue
    intro ended
    induction queue generalizing w with
    | nil =>
      obtain rfl : w = v := Option.some.inj ended
      exact ⟨0, rfl, packets⟩
    | cons packet rest ih =>
      unfold resendFailedData at ended
      cases current : w.client with
      | none => simp [current] at ended
      | some inner =>
        simp only [current, sendPacket] at ended
        obtain ⟨n, turns, empty⟩ := ih rfl ended
        refine ⟨n + 1, ?_, empty⟩
        rw [Function.iterate_succ_apply, resendTurn_online current packets]
        exact turns

theorem resendFailedData_some {packets : List NetlibPacket} (queue : w.failedDataQueue = packets)
    (ended : resendFailedData packets w = some v) : v.failedDataQueue = [] ∧
      ((packets = [] ∧ v = w) ∨ ∃ inner, w.client = some inner ∧
        v = { w with
          failedDataQueue := [], client := some (packets.foldl InnerClient.sendAsync inner) }) := by
  induction packets generalizing w with
  | nil =>
    cases ended
    exact ⟨queue, Or.inl ⟨rfl, rfl⟩⟩
  | cons packet rest ih =>
    unfold resendFailedData at ended
    cases current : w.client with
    | none => simp [current] at ended
    | some inner =>
      simp only [current, sendPacket] at ended
      obtain ⟨empty, ⟨rfl, same⟩ | ⟨other, found, shape⟩⟩ := ih rfl ended
      · refine ⟨empty, Or.inr ⟨inner, rfl, ?_⟩⟩
        rw [same]
        rfl
      · refine ⟨empty, Or.inr ⟨inner, rfl, ?_⟩⟩
        cases found
        rw [shape]
        rfl

theorem resendFailedData_online {packets : List NetlibPacket} (online : w.client ≠ none) :
    ∃ v, resendFailedData packets w = some v := by
  induction packets generalizing w with
  | nil => exact ⟨w, rfl⟩
  | cons packet rest ih =>
    obtain ⟨inner, current⟩ := Option.ne_none_iff_exists'.mp online
    unfold resendFailedData
    simp only [current, sendPacket]
    exact ih (Option.some_ne_none _)

theorem isHandler_of_reports {c : NetLib.Client Address} {event : ClientEvent}
    (reports : c.reportsConnection event = true) : event.isHandler = true := by
  cases event with
  | runNotification index => rfl
  | _ => contradiction

theorem resendsTo_some_iff :
    (∃ v, w.ResendsTo v) ↔ w.client.isSome ∨ w.failedDataQueue = [] := by
  constructor
  · rintro ⟨v, ends⟩
    by_contra neither
    obtain ⟨offline, waits⟩ := not_or.mp neither
    exact not_resendsTo_offline (Option.not_isSome_iff_eq_none.mp offline) waits ends
  · rintro (online | empty)
    · obtain ⟨v, ended⟩ := resendFailedData_online (Option.isSome_iff_ne_none.mp online)
      exact ⟨v, resendsTo_iff.mpr ended⟩
    · exact ⟨w, 0, rfl, empty⟩

theorem startsResend_step (starts : w.startsResend net maxPacketSize e = some u) :
    u.destroyed = false ∧ u.failedDataQueue = w.failedDataQueue ∧
      (u.client.isSome ↔ w.client.isSome) ∧
      w.step net maxPacketSize e = resendFailedData u.failedDataQueue u := by
  unfold startsResend at starts
  unfold step
  split at starts
  · contradiction
  · rename_i alive
    rw [if_neg alive]
    have alive := Bool.eq_false_iff.mpr alive
    cases e with
    | clientHandler event =>
      obtain ⟨inner, current, starts⟩ := Option.bind_eq_some_iff.mp starts
      split at starts
      · rename_i reports
        obtain ⟨next, handled, rfl⟩ := Option.map_eq_some_iff.mp starts
        refine ⟨alive, rfl, ?_, ?_⟩
        · rw [current]
          exact iff_of_true rfl rfl
        · simp only [current, Option.bind_some, isHandler_of_reports reports, ↓reduceIte, handled,
            connectedHandlers, reports]
      · contradiction
    | retiredHandler index event =>
      obtain ⟨inner, retired, starts⟩ := Option.bind_eq_some_iff.mp starts
      split at starts
      · rename_i reports
        obtain ⟨next, handled, rfl⟩ := Option.map_eq_some_iff.mp starts
        refine ⟨alive, rfl, Iff.rfl, ?_⟩
        simp only [retired, Option.bind_some, isHandler_of_reports reports, true_or, ↓reduceIte,
          handled, connectedHandlers, reports]
      · contradiction
    | _ => contradiction

/-- The loop that the handlers of an event start ends exactly where it has somewhere to put
    the packets. -/
theorem startsResend_ends (starts : w.startsResend net maxPacketSize e = some u) :
    (∃ v, u.ResendsTo v) ↔ w.resendsToClient e := by
  obtain ⟨_, queue, client, _⟩ := startsResend_step starts
  rw [resendsTo_some_iff, queue, client]
  unfold startsResend at starts
  split at starts
  · contradiction
  · cases e with
    | clientHandler event =>
      obtain ⟨inner, current, _⟩ := Option.bind_eq_some_iff.mp starts
      rw [current]
      exact iff_of_true (Or.inl rfl) trivial
    | retiredHandler index event =>
      obtain ⟨inner, retired, starts⟩ := Option.bind_eq_some_iff.mp starts
      split at starts
      · rename_i reports
        constructor
        · intro possible _ _ _
          exact possible
        · intro possible
          exact possible inner retired reports
      · contradiction
    | _ => contradiction

end PlusClient

end LaluneServer.NetLibPlus
