import LaluneServer.Lib.DeadlineTimer
import LaluneServer.Pvp.ControlSocket

/- Which receives of PvpServer are outstanding. The control connection has one operation
   at a time; every successful connect also starts a chain of async_receive_from, which
   continues from its own completions and ends with none. A datagram is written to
   _message_buffer and _remote_endpoint when its receive completes, and read when the
   handler runs. Sends and the heart beat are left out. -/
namespace LaluneServer.Pvp
open DeadlineTimer NetLib Transition

/-- The operations of one kind on a socket: those that wait and the queued handlers. -/
structure Operation where
  pending : Nat := 0
  succeeded : Nat := 0
  failed : Nat := 0
  deriving DecidableEq, Repr

namespace Operation
variable (o : Operation)

def outstanding : Nat := o.pending + o.succeeded + o.failed

def post : Operation := { o with pending := o.pending + 1 }

/-- close() ends what waits; a queued handler stays as it is. -/
def cancel : Operation := { o with pending := 0, failed := o.failed + o.pending }

def complete (success : Bool) : Option Operation :=
  if o.pending = 0 then none
  else if success then
    some { o with pending := o.pending - 1, succeeded := o.succeeded + 1 }
  else some { o with pending := o.pending - 1, failed := o.failed + 1 }

def take (success : Bool) : Option Operation :=
  if success then
    if o.succeeded = 0 then none else some { o with succeeded := o.succeeded - 1 }
  else if o.failed = 0 then none else some { o with failed := o.failed - 1 }

@[simp] theorem post_outstanding : o.post.outstanding = o.outstanding + 1 := by
  simp only [outstanding, post]
  omega

@[simp] theorem cancel_outstanding : o.cancel.outstanding = o.outstanding := by
  simp only [outstanding, cancel]
  omega

variable {o} {p : Operation} {success : Bool}

theorem complete_outstanding (completed : o.complete success = some p) :
    p.outstanding = o.outstanding := by
  unfold complete at completed
  split at completed
  · contradiction
  · split at completed
    · cases completed
      simp only [outstanding]
      omega
    · cases completed
      simp only [outstanding]
      omega

theorem take_outstanding (taken : o.take success = some p) :
    p.outstanding + 1 = o.outstanding := by
  unfold take at taken
  split at taken
  · split at taken
    · contradiction
    · cases taken
      simp only [outstanding]
      omega
  · split at taken
    · contradiction
    · cases taken
      simp only [outstanding]
      omega

end Operation

structure Datagram where
  endpoint : String
  bytes : Bytes
  deriving DecidableEq

def MessageBuffer : Type := { bytes : Bytes // bytes.length = 1024 }

instance : DecidableEq MessageBuffer := inferInstanceAs (DecidableEq (Subtype _))

def MessageBuffer.write (buffer : MessageBuffer) (bytes : Bytes) : MessageBuffer :=
  ⟨overwrite buffer.1 bytes, (overwrite_length buffer.1 bytes).trans buffer.2⟩

theorem MessageBuffer.take_write (buffer : MessageBuffer) {bytes : Bytes}
    (fits : bytes.length ≤ 1024) : (buffer.write bytes).1.take bytes.length = bytes := by
  have room := buffer.2
  simp only [write, overwrite, room, List.take_take, Nat.min_eq_left fits, List.take_left']

inductive Completion
  | received (arrived : Datagram)
  | failed
  deriving DecidableEq

/-- The operations of PvpServer; `dispatched` pairs what arrived with what dispatchMessage
    was given. -/
structure ReceiveChains where
  connects : Operation := {}
  receives : Operation := {}
  reconnectTimer : Timer := {}
  receivefroms : Nat := 0
  completions : List Completion := []
  messageBuffer : MessageBuffer
  remoteEndpoint : String
  dispatched : List (Datagram × Datagram) := []
  deriving DecidableEq

inductive ReceiveEvent
  | connectCompletes (success : Bool)
  | connectHandler (success : Bool)
  | receiveCompletes (success : Bool)
  | receiveHandler (success : Bool)
  | timerExpires
  | reconnectTrigger (success : Bool)
  | datagramArrives (endpoint : String) (bytes : Bytes)
  | receivefromFails
  | receivefromHandler
  deriving DecidableEq

namespace ReceiveChains
variable (s : ReceiveChains)

def connect : ReceiveChains :=
  { s with connects := s.connects.cancel.post, receives := s.receives.cancel }

def reconnect : ReceiveChains := { s with reconnectTimer := s.reconnectTimer.expiresFromNow }

def receive : ReceiveChains := { s with receives := s.receives.post }

def receivefrom : ReceiveChains := { s with receivefroms := s.receivefroms + 1 }

def start : ReceiveChains := s.receivefrom.receive

def connectHandler (success : Bool) : ReceiveChains := if success then s.start else s.reconnect

def receiveHandler (success : Bool) : ReceiveChains := if success then s.receive else s.reconnect

def reconnectTrigger (success : Bool) : ReceiveChains := if success then s.connect else s

def found (size : Nat) : Datagram := ⟨s.remoteEndpoint, s.messageBuffer.1.take size⟩

def receivefromHandler : Completion → ReceiveChains
  | .received arrived => { s with
      dispatched := s.dispatched ++ [(arrived, s.found arrived.bytes.length)] }.receivefrom
  | .failed => s.receivefrom

def init (messageBuffer : MessageBuffer) (remoteEndpoint : String) : ReceiveChains :=
  { messageBuffer := messageBuffer, remoteEndpoint := remoteEndpoint : ReceiveChains }.connect

/-- A datagram that is too long for the buffer is cut off. -/
def step : ReceiveEvent → Option ReceiveChains
  | .connectCompletes success => (s.connects.complete success).map fun connects =>
      { s with connects := connects }
  | .connectHandler success => (s.connects.take success).map fun connects =>
      { s with connects := connects }.connectHandler success
  | .receiveCompletes success => (s.receives.complete success).map fun receives =>
      { s with receives := receives }
  | .receiveHandler success => (s.receives.take success).map fun receives =>
      { s with receives := receives }.receiveHandler success
  | .timerExpires => s.reconnectTimer.expire.map fun timer => { s with reconnectTimer := timer }
  | .reconnectTrigger success =>
    (if success then s.reconnectTimer.takeExpired else s.reconnectTimer.takeAborted).map
      fun timer => { s with reconnectTimer := timer }.reconnectTrigger success
  | .datagramArrives endpoint bytes =>
    if s.receivefroms = 0 then none
    else some { s with
      receivefroms := s.receivefroms - 1
      completions := s.completions ++ [.received ⟨endpoint, bytes.take 1024⟩]
      messageBuffer := s.messageBuffer.write (bytes.take 1024)
      remoteEndpoint := endpoint }
  | .receivefromFails =>
    if s.receivefroms = 0 then none
    else some { s with
      receivefroms := s.receivefroms - 1
      completions := s.completions ++ [.failed] }
  | .receivefromHandler =>
    match s.completions with
    | [] => none
    | completion :: rest => some ({ s with completions := rest }.receivefromHandler completion)

def connected : ReceiveEvent → Bool
  | .connectHandler success => success
  | _ => false

def OneControl (s : ReceiveChains) : Prop :=
  s.connects.outstanding + s.receives.outstanding + s.reconnectTimer.live = 1

/-- Each of n connects has started a chain of receives; a single chain reads what arrived. -/
structure Chains (n : Nat) (s : ReceiveChains) : Prop where
  count : s.receivefroms + s.completions.length = n
  waiting : n ≤ 1 → ∀ arrived, .received arrived ∈ s.completions →
    s.found arrived.bytes.length = arrived
  intact : n ≤ 1 → ∀ pair ∈ s.dispatched, pair.2 = pair.1

section
variable {s} {t : ReceiveChains} {n : Nat} {e : ReceiveEvent}

theorem oneControl_connect (free : s.connects.outstanding + s.receives.outstanding = 0)
    (silent : s.reconnectTimer.live = 0) : s.connect.OneControl := by
  simp only [OneControl, connect, Operation.post_outstanding, Operation.cancel_outstanding]
  omega

theorem oneControl_reconnect (free : s.connects.outstanding + s.receives.outstanding = 0)
    (silent : s.reconnectTimer.live = 0) : s.reconnect.OneControl := by
  have expired : s.reconnectTimer.expired = 0 := by
    unfold Timer.live at silent
    omega
  simp only [OneControl, reconnect, Timer.expiresFromNow_live]
  omega

theorem oneControl_step (one : s.OneControl) (moved : s.step e = some t) : t.OneControl := by
  unfold OneControl at one
  cases e with
  | connectCompletes success =>
    obtain ⟨connects, completed, rfl⟩ := Option.map_eq_some_iff.mp moved
    have same := Operation.complete_outstanding completed
    simp only [OneControl]
    omega
  | connectHandler success =>
    obtain ⟨connects, taken, rfl⟩ := Option.map_eq_some_iff.mp moved
    have fewer := Operation.take_outstanding taken
    cases success with
    | true =>
      simp only [OneControl, connectHandler, start, receivefrom, receive, if_true,
        Operation.post_outstanding]
      omega
    | false => exact oneControl_reconnect (by simp only; omega) (by simp only; omega)
  | receiveCompletes success =>
    obtain ⟨receives, completed, rfl⟩ := Option.map_eq_some_iff.mp moved
    have same := Operation.complete_outstanding completed
    simp only [OneControl]
    omega
  | receiveHandler success =>
    obtain ⟨receives, taken, rfl⟩ := Option.map_eq_some_iff.mp moved
    have fewer := Operation.take_outstanding taken
    cases success with
    | true =>
      simp only [OneControl, receiveHandler, receive, if_true, Operation.post_outstanding]
      omega
    | false => exact oneControl_reconnect (by simp only; omega) (by simp only; omega)
  | timerExpires =>
    obtain ⟨timer, fired, rfl⟩ := Option.map_eq_some_iff.mp moved
    have same := (Timer.expire_spec fired).2.1
    simp only [OneControl]
    omega
  | reconnectTrigger success =>
    obtain ⟨timer, taken, rfl⟩ := Option.map_eq_some_iff.mp moved
    cases success with
    | true =>
      have fewer := (Timer.takeExpired_spec taken).2.1
      exact oneControl_connect (by simp only; omega) (by simp only; omega)
    | false =>
      have same := (Timer.takeAborted_spec taken).2.1
      simp only [OneControl, reconnectTrigger, Bool.false_eq_true, if_false]
      omega
  | datagramArrives endpoint bytes =>
    simp only [step] at moved
    split at moved
    · contradiction
    · obtain rfl := Option.some.inj moved
      exact one
  | receivefromFails =>
    simp only [step] at moved
    split at moved
    · contradiction
    · obtain rfl := Option.some.inj moved
      exact one
  | receivefromHandler =>
    simp only [step] at moved
    split at moved
    · contradiction
    · rename_i completion rest queued
      obtain rfl := Option.some.inj moved
      cases completion with
      | received arrived => exact one
      | failed => exact one

theorem Chains.started (chains : Chains n s) (count : t.receivefroms = s.receivefroms + 1)
    (same : t.completions = s.completions) (pairs : t.dispatched = s.dispatched) :
    Chains (n + 1) t := by
  constructor
  · rw [count, same, ← chains.count]
    omega
  · intro single arrived queued
    have none_yet := chains.count
    rw [same] at queued
    have some_queued := List.length_pos_of_mem queued
    omega
  · intro single
    rw [pairs]
    exact chains.intact (by omega)

theorem chains_connectHandler (chains : Chains n s) (success : Bool) :
    Chains (n + if success then 1 else 0) (s.connectHandler success) := by
  cases success with
  | true => exact chains.started rfl rfl rfl
  | false => exact ⟨chains.count, chains.waiting, chains.intact⟩

theorem chains_datagramArrives (chains : Chains n s) (endpoint : String) (bytes : Bytes)
    (waits : s.receivefroms ≠ 0) : Chains n { s with
      receivefroms := s.receivefroms - 1
      completions := s.completions ++ [.received ⟨endpoint, bytes.take 1024⟩]
      messageBuffer := s.messageBuffer.write (bytes.take 1024)
      remoteEndpoint := endpoint } := by
  have count := chains.count
  constructor
  · show s.receivefroms - 1 + (s.completions ++ [_]).length = n
    rw [List.length_append, List.length_singleton]
    omega
  · intro single arrived queued
    have first : s.completions = [] := List.eq_nil_of_length_eq_zero (by omega)
    rw [first] at queued
    obtain rfl : arrived = ⟨endpoint, bytes.take 1024⟩ := by
      simpa using queued
    have fits : (bytes.take 1024).length ≤ 1024 := List.length_take_le 1024 bytes
    simp only [found, MessageBuffer.take_write _ fits]
  · exact chains.intact

theorem chains_receivefromHandler (chains : Chains n s) {completion : Completion}
    {rest : List Completion} (queued : s.completions = completion :: rest) :
    Chains n ({ s with completions := rest }.receivefromHandler completion) := by
  have count := chains.count
  rw [queued, List.length_cons] at count
  have waiting : n ≤ 1 → ∀ arrived, .received arrived ∈ rest →
      s.found arrived.bytes.length = arrived := by
    intro single arrived later
    exact chains.waiting single arrived (by rw [queued]; exact List.mem_cons_of_mem _ later)
  cases completion with
  | received arrived =>
    refine ⟨?_, waiting, ?_⟩
    · simp only [receivefromHandler, receivefrom]
      omega
    · intro single pair member
      rcases List.mem_append.mp member with old | new
      · exact chains.intact single pair old
      · rw [List.mem_singleton.mp new]
        exact chains.waiting single arrived (by rw [queued]; exact List.mem_cons_self)
  | failed =>
    refine ⟨?_, waiting, chains.intact⟩
    simp only [receivefromHandler, receivefrom]
    omega

theorem chains_step (chains : Chains n s) (moved : s.step e = some t) :
    Chains (n + if connected e then 1 else 0) t := by
  cases e with
  | connectCompletes success =>
    obtain ⟨connects, _, rfl⟩ := Option.map_eq_some_iff.mp moved
    exact ⟨chains.count, chains.waiting, chains.intact⟩
  | connectHandler success =>
    obtain ⟨connects, _, rfl⟩ := Option.map_eq_some_iff.mp moved
    have kept : Chains n { s with connects := connects } :=
      ⟨chains.count, chains.waiting, chains.intact⟩
    exact chains_connectHandler kept success
  | receiveCompletes success =>
    obtain ⟨receives, _, rfl⟩ := Option.map_eq_some_iff.mp moved
    exact ⟨chains.count, chains.waiting, chains.intact⟩
  | receiveHandler success =>
    obtain ⟨receives, _, rfl⟩ := Option.map_eq_some_iff.mp moved
    cases success with
    | true => exact ⟨chains.count, chains.waiting, chains.intact⟩
    | false => exact ⟨chains.count, chains.waiting, chains.intact⟩
  | timerExpires =>
    obtain ⟨timer, _, rfl⟩ := Option.map_eq_some_iff.mp moved
    exact ⟨chains.count, chains.waiting, chains.intact⟩
  | reconnectTrigger success =>
    obtain ⟨timer, _, rfl⟩ := Option.map_eq_some_iff.mp moved
    cases success with
    | true => exact ⟨chains.count, chains.waiting, chains.intact⟩
    | false => exact ⟨chains.count, chains.waiting, chains.intact⟩
  | datagramArrives endpoint bytes =>
    simp only [step] at moved
    split at moved
    · contradiction
    · rename_i waits
      obtain rfl := Option.some.inj moved
      exact chains_datagramArrives chains endpoint bytes waits
  | receivefromFails =>
    simp only [step] at moved
    split at moved
    · contradiction
    · rename_i waits
      obtain rfl := Option.some.inj moved
      have count := chains.count
      refine ⟨?_, ?_, chains.intact⟩
      · show s.receivefroms - 1 + (s.completions ++ [_]).length = n
        rw [List.length_append, List.length_singleton]
        omega
      · intro single arrived queued
        exact chains.waiting single arrived (by simpa using queued)
  | receivefromHandler =>
    simp only [step] at moved
    split at moved
    · contradiction
    · rename_i completion rest queued
      obtain rfl := Option.some.inj moved
      exact chains_receivefromHandler chains queued

def connectsIn (events : List ReceiveEvent) : Nat := events.countP connected

theorem chains_of_run {messageBuffer : MessageBuffer} {remoteEndpoint : String}
    {events : List ReceiveEvent}
    (ran : exec step (init messageBuffer remoteEndpoint) events = some s) :
    s.OneControl ∧ Chains (connectsIn events) s := by
  induction events using List.reverseRecOn generalizing s with
  | nil =>
    obtain rfl := Option.some.inj ran
    exact ⟨rfl, rfl, by simp [init, connect], by simp [init, connect]⟩
  | append_singleton events e ih =>
    obtain ⟨before, earlier, moved⟩ := exec_concat ran
    obtain ⟨one, chains⟩ := ih earlier
    refine ⟨oneControl_step one moved, ?_⟩
    have next := chains_step chains moved
    rw [connectsIn, List.countP_append, List.countP_singleton]
    exact next

/-- One receive at a time on each socket, and nothing that arrived is mixed up. -/
structure OneReceive (s : ReceiveChains) : Prop where
  datagrams : s.receivefroms + s.completions.length ≤ 1
  control : s.receives.outstanding ≤ 1
  intact : ∀ pair ∈ s.dispatched, pair.2 = pair.1

/-- The control socket never has a second receive; the game socket has one for each
    successful connect. -/
theorem one_receive_iff_one_connect {messageBuffer : MessageBuffer} {remoteEndpoint : String}
    {events : List ReceiveEvent}
    (ran : exec step (init messageBuffer remoteEndpoint) events = some s) :
    s.receives.outstanding ≤ 1 ∧ (s.OneReceive ↔ connectsIn events ≤ 1) := by
  obtain ⟨one, chains⟩ := chains_of_run ran
  have control : s.receives.outstanding ≤ 1 := by
    unfold OneControl at one
    omega
  refine ⟨control, ?_⟩
  constructor
  · intro clean
    rw [← chains.count]
    exact clean.datagrams
  · intro single
    exact ⟨by rw [chains.count]; exact single, control, chains.intact single⟩

end

def blankBuffer : MessageBuffer := ⟨List.replicate 1024 0, List.length_replicate⟩

def connectedOnce : List ReceiveEvent :=
  [.connectCompletes false, .connectHandler false, .timerExpires, .reconnectTrigger true,
    .connectCompletes true, .connectHandler true, .datagramArrives "a" [1], .receivefromHandler]

theorem one_receive_after_failed_connect : ∃ s : ReceiveChains,
    exec step (init blankBuffer "") connectedOnce = some s ∧ s.OneReceive ∧
      s.dispatched = [(⟨"a", [1]⟩, ⟨"a", [1]⟩)] := by
  obtain ⟨s, ran, test⟩ := (Option.any_eq_true (fun s : ReceiveChains =>
    decide (s.dispatched = [(⟨"a", [1]⟩, ⟨"a", [1]⟩)]))
    (exec step (init blankBuffer "") connectedOnce)).mp (by decide +kernel)
  exact ⟨s, ran, (one_receive_iff_one_connect ran).2.mpr (by decide), of_decide_eq_true test⟩

def connectedTwice : List ReceiveEvent :=
  [.connectCompletes true, .connectHandler true, .receiveCompletes false, .receiveHandler false,
    .timerExpires, .reconnectTrigger true, .connectCompletes true, .connectHandler true,
    .datagramArrives "a" [1], .datagramArrives "b" [2], .receivefromHandler]

/-- The first datagram is dispatched with the endpoint and the bytes of the second. -/
theorem datagrams_mixed_up_after_reconnect : ¬ ∀ (events : List ReceiveEvent)
    (s : ReceiveChains), exec step (init blankBuffer "") events = some s → s.OneReceive := by
  intro all
  obtain ⟨s, ran, test⟩ := (Option.any_eq_true (fun s : ReceiveChains =>
    decide (s.dispatched = [(⟨"a", [1]⟩, ⟨"b", [2]⟩)]))
    (exec step (init blankBuffer "") connectedTwice)).mp (by decide +kernel)
  have mixed : s.dispatched = [(⟨"a", [1]⟩, ⟨"b", [2]⟩)] := of_decide_eq_true test
  have clean := (all connectedTwice s ran).intact (⟨"a", [1]⟩, ⟨"b", [2]⟩) (by simp [mixed])
  exact absurd clean (by decide)

end ReceiveChains

end LaluneServer.Pvp
