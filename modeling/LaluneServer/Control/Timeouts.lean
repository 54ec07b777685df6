import LaluneServer.Control.ControlServer

/- The timers of the registered servers. A handler of a timer remembers the address only.
   Setting a timer anew or deleting it takes back a wait, but not a handler that is queued
   already. Handlers that run with an error do nothing and are left out, and so are the
   messages that change no entry. Disconnects are not reported to the delegate. -/
namespace LaluneServer.Control

open Std (TreeMap)
open Transition

/-- The server with config.timeout_sec, the clock in microseconds, the expiry times of the
    timers that wait and the queued ServerTimeout handlers; then a ghost: the time at which
    timeout_sec will have passed since the latest sign of life of an address. -/
structure TimedServer where
  control : ControlServer
  timeoutSec : Int
  now : Int := 0
  timers : IPPort → Option Int := fun _ => none
  queued : List IPPort := []
  due : IPPort → Int := fun _ => 0

inductive TimedEvent
  | sayHello (session : Session) (remoteIp : BitVec 32) (hello : Hello)
  | keepAlive (session : Session)
  | startupTimer
  | loadConfig (timeoutSec : Int)
  | elapse (microseconds : Nat)
  | expire (ipPort : IPPort)
  | runTimeout (index : Nat)
  deriving DecidableEq, Repr

namespace TimedServer
variable (anyHello : Bool) (w : TimedServer)

def timeout : Int := w.now + 1000000 * w.timeoutSec

def named (remoteIp : BitVec 32) (hello : Hello) : IPPort :=
  (remoteIp, Int32.ofBitVec hello.myListeningPort)

def refreshed : TimedEvent → Option IPPort
  | .sayHello _ remoteIp hello =>
    if hello.isServerStart = 1 then some (named remoteIp hello) else none
  | .keepAlive session => w.control.recvKeepAliveHandler session
  | _ => none

/-- The entry that an event shows to be alive. A Hello without is_server_start sets no
    timer; whether it counts all the same is left open. -/
def signOfLife : TimedEvent → Option IPPort
  | .sayHello _ remoteIp hello =>
    if hello.isServerStart = 1 ∨ anyHello = true ∧ named remoteIp hello ∈ w.control.serversInfo
    then some (named remoteIp hello) else none
  | .keepAlive session => w.control.recvKeepAliveHandler session
  | _ => none

def handle : TimedEvent → Option TimedServer
  | .sayHello session remoteIp hello =>
    some { w with control := (w.control.sayHello session remoteIp hello).1 }
  | .keepAlive session => some { w with control := (w.control.react (.keepAlive session)).1 }
  | .startupTimer => some { w with control := w.control.startupTimer.1 }
  | .loadConfig timeoutSec => some { w with timeoutSec := timeoutSec }
  | .elapse microseconds => some { w with now := w.now + microseconds }
  | .expire ipPort => (w.timers ipPort).bind fun time =>
      if time ≤ w.now then
        some { w with
          timers := Function.update w.timers ipPort none
          queued := w.queued ++ [ipPort] }
      else none
  | .runTimeout index => w.queued[index]?.map fun ipPort => { w with
      control := (w.control.serverTimeout ipPort).1
      timers := Function.update w.timers ipPort none
      queued := w.queued.eraseIdx index }

def step (event : TimedEvent) : Option TimedServer :=
  (w.handle event).map fun v => { v with
    timers := match w.refreshed event with
      | some ipPort => Function.update v.timers ipPort (some w.timeout)
      | none => v.timers
    due := match w.signOfLife anyHello event with
      | some ipPort => Function.update v.due ipPort w.timeout
      | none => v.due }

def RemovesOnlyDue : Prop :=
  ∀ index v, w.step anyHello (.runTimeout index) = some v →
    ∀ ipPort ∈ w.control.serversInfo, ipPort ∉ v.control.serversInfo → w.due ipPort ≤ w.now

/-- The server of which an event is a sign of life stays until its timer expires once more,
    and that is not before timeout_sec have passed. -/
def Saves (event : TimedEvent) (v : TimedServer) : Prop :=
  ∀ ipPort, w.signOfLife anyHello event = some ipPort →
    (∀ u, Reach (step anyHello) (fun _ e => e ≠ .expire ipPort) v u →
      ipPort ∈ u.control.serversInfo) ∧
    ∀ time, v.timers ipPort = some time → w.timeout ≤ time

/-- No sign of life comes from an address for which a ServerTimeout is queued, and one that
    sets no timer comes only when the timer runs for timeout_sec more. -/
def inTime (event : TimedEvent) : Prop :=
  ∀ ipPort ∈ w.signOfLife anyHello event, ipPort ∉ w.queued ∧
    (w.refreshed event = none → ∀ time ∈ w.timers ipPort, w.timeout ≤ time)

instance (event : TimedEvent) : Decidable (w.inTime anyHello event) :=
  have (ipPort : IPPort) : Decidable (ipPort ∉ w.queued ∧
      (w.refreshed event = none → ∀ time ∈ w.timers ipPort, w.timeout ≤ time)) := inferInstance
  (w.signOfLife anyHello event).decidableForallMem

/-- The invariant: a timer that waits and a handler that is queued belong to a server whose
    time they keep; a handler may also be left over from one that is gone. -/
structure Timed : Prop where
  waits : ∀ ipPort time, w.timers ipPort = some time → w.due ipPort ≤ time
  queued : ∀ ipPort ∈ w.queued, ipPort ∈ w.control.serversInfo → w.due ipPort ≤ w.now

end TimedServer

namespace ControlServer
variable {control : ControlServer} {ipPort other : IPPort}

theorem mem_serverTimeout : other ∈ (control.serverTimeout ipPort).1.serversInfo ↔
    ipPort ≠ other ∧ other ∈ control.serversInfo := by
  unfold serverTimeout
  split
  · rename_i unknown
    refine ⟨fun known => ⟨?_, known⟩, And.right⟩
    rintro rfl
    rw [TreeMap.mem_iff_isSome_getElem?, unknown] at known
    contradiction
  · simp only [removeServer]
    rw [TreeMap.mem_erase, Ne, Std.compare_eq_iff_eq]

theorem mem_helloStarted (session : Session) (serverType : BitVec 32) :
    other ∈ (control.helloStarted session ipPort serverType).1.serversInfo ↔
      ipPort = other ∨ other ∈ control.serversInfo := by
  unfold helloStarted
  split
  · simp only [helloNew, addServer]
    rw [TreeMap.mem_insertIfNew, Std.compare_eq_iff_eq]
  · rename_i addr found
    refine ⟨Or.inr, ?_⟩
    rintro (rfl | known)
    · refine TreeMap.mem_iff_isSome_getElem?.mpr ?_
      show control.serversInfo[ipPort]?.isSome = true
      rw [found]
      rfl
    · exact known

theorem mem_sayHello (session : Session) (remoteIp : BitVec 32) (hello : Hello) :
    other ∈ (control.sayHello session remoteIp hello).1.serversInfo ↔
      hello.isServerStart = 1 ∧ TimedServer.named remoteIp hello = other ∨
        other ∈ control.serversInfo := by
  unfold sayHello
  dsimp only
  split
  · rename_i started
    rw [mem_helloStarted]
    simp [started, TimedServer.named, attach]
  · rename_i running
    exact ⟨Or.inr, fun known => known.resolve_left (fun named => running named.1)⟩

end ControlServer

namespace TimedServer
variable {anyHello : Bool} {w v : TimedServer} {e : TimedEvent} {ipPort : IPPort}

theorem refreshed_of_signOfLife (alive : w.signOfLife anyHello e = some ipPort) :
    w.refreshed e = some ipPort ∨ w.refreshed e = none := by
  cases e with
  | sayHello session remoteIp hello =>
    simp only [signOfLife] at alive
    split at alive
    · simp only [refreshed]
      split
      · exact Or.inl alive
      · exact Or.inr rfl
    · contradiction
  | keepAlive session => exact Or.inl alive
  | _ => exact Or.inr rfl

theorem signOfLife_of_refreshed (refreshed : w.refreshed e = some ipPort) :
    w.signOfLife anyHello e = some ipPort := by
  cases e with
  | sayHello session remoteIp hello =>
    simp only [TimedServer.refreshed] at refreshed
    split at refreshed
    · rename_i started
      simp only [signOfLife]
      rw [if_pos (Or.inl started)]
      exact refreshed
    · contradiction
  | keepAlive session => exact refreshed
  | _ => contradiction

structure Alive (w : TimedServer) (e : TimedEvent) (ipPort : IPPort) (v : TimedServer) :
    Prop where
  queued : v.queued = w.queued
  now : v.now = w.now
  due : v.due = Function.update w.due ipPort w.timeout
  timers : w.refreshed e = some ipPort ∧
      v.timers = Function.update w.timers ipPort (some w.timeout) ∨
    w.refreshed e = none ∧ v.timers = w.timers
  registered : ipPort ∈ v.control.serversInfo
  others : ∀ other, ipPort ≠ other →
    (other ∈ v.control.serversInfo ↔ other ∈ w.control.serversInfo)

theorem alive_of_step (alive : w.signOfLife anyHello e = some ipPort)
    (moved : w.step anyHello e = some v) : Alive w e ipPort v := by
  obtain ⟨u, handled, rfl⟩ := Option.map_eq_some_iff.mp moved
  have kept : u.queued = w.queued ∧ u.now = w.now ∧ u.due = w.due ∧ u.timers = w.timers := by
    cases e with
    | sayHello | keepAlive =>
      cases handled
      exact ⟨rfl, rfl, rfl, rfl⟩
    | _ => contradiction
  have servers : ∀ other, other ∈ u.control.serversInfo ↔
      ipPort = other ∨ other ∈ w.control.serversInfo := by
    intro other
    cases e with
    | sayHello session remoteIp hello =>
      cases handled
      simp only [signOfLife] at alive
      split at alive
      · rename_i counted
        obtain rfl := Option.some.inj alive
        rw [ControlServer.mem_sayHello]
        constructor
        · exact fun known => known.imp_left And.right
        · rintro (rfl | known)
          · exact counted.imp (fun started => ⟨started, rfl⟩) And.right
          · exact Or.inr known
      · contradiction
    | keepAlive session =>
      cases handled
      have known := (Option.filter_eq_some_iff.mp alive).2
      constructor
      · exact Or.inr
      · rintro (rfl | known)
        · exact of_decide_eq_true known
        · exact known
    | _ => contradiction
  obtain ⟨queued, now, due, timers⟩ := kept
  refine ⟨queued, now, ?_, ?_, (servers ipPort).mpr (Or.inl rfl), ?_⟩
  · simp only [alive, due]
  · rcases refreshed_of_signOfLife alive with set | none
    · simp only [set, timers, true_and, true_or]
    · simp only [none, timers, true_and, or_true]
  · intro other apart
    rw [servers, or_iff_right apart]

inductive Quiet (w : TimedServer) (v : TimedServer) : TimedEvent → Prop
  | same {e : TimedEvent} (queued : v.queued = w.queued) (timers : v.timers = w.timers)
      (due : v.due = w.due) (now : w.now ≤ v.now)
      (servers : ∀ other, other ∈ v.control.serversInfo ↔ other ∈ w.control.serversInfo) :
      Quiet w v e
  | expire {ipPort : IPPort} {time : Int} (waits : w.timers ipPort = some time)
      (past : time ≤ w.now) (shape : v = { w with
        timers := Function.update w.timers ipPort none
        queued := w.queued ++ [ipPort] }) : Quiet w v (.expire ipPort)
  | runTimeout {index : Nat} {ipPort : IPPort} (posted : w.queued[index]? = some ipPort)
      (shape : v = { w with
        control := (w.control.serverTimeout ipPort).1
        timers := Function.update w.timers ipPort none
        queued := w.queued.eraseIdx index }) : Quiet w v (.runTimeout index)

theorem quiet_of_step (quiet : w.signOfLife anyHello e = none)
    (moved : w.step anyHello e = some v) : Quiet w v e := by
  obtain ⟨u, handled, rfl⟩ := Option.map_eq_some_iff.mp moved
  have unset : w.refreshed e = none := by
    refine Option.eq_none_iff_forall_ne_some.mpr (fun k set => ?_)
    rw [signOfLife_of_refreshed set] at quiet
    contradiction
  simp only [quiet, unset]
  cases e with
  | sayHello session remoteIp hello =>
    cases handled
    refine .same rfl rfl rfl (Int.le_refl _) (fun other => ?_)
    show other ∈ (w.control.sayHello session remoteIp hello).1.serversInfo ↔ _
    rw [ControlServer.mem_sayHello, or_iff_right]
    rintro ⟨started, _⟩
    simp only [refreshed, if_pos started] at unset
    contradiction
  | keepAlive session =>
    cases handled
    exact .same rfl rfl rfl (Int.le_refl _) (fun _ => Iff.rfl)
  | startupTimer =>
    cases handled
    exact .same rfl rfl rfl (Int.le_refl _) (fun _ => Iff.rfl)
  | loadConfig timeoutSec =>
    cases handled
    exact .same rfl rfl rfl (Int.le_refl _) (fun _ => Iff.rfl)
  | elapse microseconds =>
    cases handled
    exact .same rfl rfl rfl (Int.le_add_of_nonneg_right (Int.natCast_nonneg _)) (fun _ => Iff.rfl)
  | expire ipPort =>
    obtain ⟨time, waits, handled⟩ := Option.bind_eq_some_iff.mp handled
    split at handled
    · rename_i past
      cases handled
      exact .expire waits past rfl
    · contradiction
  | runTimeout index =>
    obtain ⟨ipPort, posted, rfl⟩ := Option.map_eq_some_iff.mp handled
    exact .runTimeout posted rfl

theorem stays_until_expiry (known : ipPort ∈ w.control.serversInfo) (free : ipPort ∉ w.queued)
    (run : Reach (step anyHello) (fun _ e => e ≠ .expire ipPort) w v) :
    ipPort ∈ v.control.serversInfo := by
  suffices both : ipPort ∈ v.control.serversInfo ∧ ipPort ∉ v.queued from both.1
  refine reach_invariant (fun v => ipPort ∈ v.control.serversInfo ∧ ipPort ∉ v.queued)
    ⟨known, free⟩ ?_ run
  rintro s e t ⟨known, free⟩ other moved
  cases sign : s.signOfLife anyHello e with
  | some k =>
    have alive := alive_of_step sign moved
    rw [alive.queued]
    refine ⟨?_, free⟩
    by_cases here : k = ipPort
    · exact here ▸ alive.registered
    · exact (alive.others ipPort here).mpr known
  | none =>
    cases quiet_of_step sign moved with
    | same queued _ _ _ servers =>
      rw [queued]
      exact ⟨(servers ipPort).mpr known, free⟩
    | @expire k time waits past shape =>
      subst shape
      refine ⟨known, ?_⟩
      rintro member
      rcases List.mem_append.mp member with before | last
      · exact free before
      · exact other (congrArg TimedEvent.expire (List.mem_singleton.mp last).symm)
    | @runTimeout index k posted shape =>
      subst shape
      have apart : k ≠ ipPort := fun same => free (same ▸ List.mem_of_getElem? posted)
      exact ⟨ControlServer.mem_serverTimeout.mpr ⟨apart, known⟩,
        fun member => free (List.mem_of_mem_eraseIdx member)⟩

theorem waits_of_clear {timers : IPPort → Option Int} {other : IPPort} {time : Int}
    (waits : Function.update timers other none ipPort = some time) : timers ipPort = some time := by
  by_cases here : ipPort = other
  · subst here
    rw [Function.update_self] at waits
    contradiction
  · rwa [Function.update_of_ne here] at waits

theorem timed_step (timed : w.Timed) (inTime : w.inTime anyHello e)
    (moved : w.step anyHello e = some v) : v.Timed := by
  cases sign : w.signOfLife anyHello e with
  | some k =>
    have alive := alive_of_step sign moved
    obtain ⟨free, late⟩ := inTime k sign
    constructor
    · intro ipPort time waits
      rw [alive.due]
      by_cases here : ipPort = k
      · subst here
        rw [Function.update_self]
        rcases alive.timers with ⟨_, set⟩ | ⟨none, same⟩
        · rw [set, Function.update_self] at waits
          exact (Option.some.inj waits).le
        · rw [same] at waits
          exact late none time waits
      · rw [Function.update_of_ne here]
        refine timed.waits ipPort time ?_
        rcases alive.timers with ⟨_, set⟩ | ⟨_, same⟩
        · rwa [set, Function.update_of_ne here] at waits
        · rwa [same] at waits
    · intro ipPort posted known
      rw [alive.queued] at posted
      have apart : ipPort ≠ k := fun same => free (same ▸ posted)
      rw [alive.due, alive.now, Function.update_of_ne apart]
      exact timed.queued ipPort posted ((alive.others ipPort apart.symm).mp known)
  | none =>
    cases quiet_of_step sign moved with
    | same queued timers due now servers =>
      constructor
      · rw [timers, due]
        exact timed.waits
      · intro ipPort posted known
        rw [queued] at posted
        rw [due]
        exact (timed.queued ipPort posted ((servers ipPort).mp known)).trans now
    | @expire k time waits past shape =>
      subst shape
      constructor
      · intro ipPort other still
        exact timed.waits ipPort other (waits_of_clear still)
      · intro ipPort posted known
        rcases List.mem_append.mp posted with before | last
        · exact timed.queued ipPort before known
        · obtain rfl := List.mem_singleton.mp last
          exact (timed.waits ipPort time waits).trans past
    | @runTimeout index k posted shape =>
      subst shape
      constructor
      · intro ipPort other still
        exact timed.waits ipPort other (waits_of_clear still)
      · intro ipPort member known
        exact timed.queued ipPort (List.mem_of_mem_eraseIdx member)
          (ControlServer.mem_serverTimeout.mp known).2

theorem Timed.removesOnlyDue (timed : w.Timed) : w.RemovesOnlyDue anyHello := by
  intro index v moved ipPort known gone
  have quiet : w.signOfLife anyHello (.runTimeout index) = none := rfl
  cases quiet_of_step quiet moved with
  | same _ _ _ _ servers => exact absurd ((servers ipPort).mpr known) gone
  | @runTimeout _ k posted shape =>
    subst shape
    by_cases here : k = ipPort
    · subst here
      exact timed.queued k (List.mem_of_getElem? posted) known
    · exact absurd (ControlServer.mem_serverTimeout.mpr ⟨here, known⟩) gone

theorem runTimeout_removes (anyHello : Bool) {index : Nat}
    (posted : w.queued[index]? = some ipPort) :
    ∃ u, w.step anyHello (.runTimeout index) = some u ∧ ipPort ∉ u.control.serversInfo := by
  unfold step handle
  simp only [posted, Option.map_some]
  refine ⟨_, rfl, ?_⟩
  exact fun known => (ControlServer.mem_serverTimeout.mp known).1 rfl

theorem saves_iff (moved : w.step anyHello e = some v) :
    w.Saves anyHello e v ↔ w.inTime anyHello e := by
  constructor
  · intro saves ipPort sign
    obtain ⟨stays, late⟩ := saves ipPort sign
    have alive := alive_of_step sign moved
    constructor
    · intro posted
      rw [← alive.queued] at posted
      obtain ⟨index, found⟩ := List.mem_iff_getElem?.mp posted
      -- The handler that is queued already runs next.
      obtain ⟨u, ran, gone⟩ := runTimeout_removes anyHello found
      exact gone (stays u (.tail _ .refl TimedEvent.noConfusion ran))
    · intro unset time waits
      rcases alive.timers with ⟨set, _⟩ | ⟨_, same⟩
      · rw [set] at unset
        contradiction
      · exact late time (same ▸ waits)
  · intro inTime ipPort sign
    obtain ⟨free, late⟩ := inTime ipPort sign
    have alive := alive_of_step sign moved
    constructor
    · intro u run
      refine stays_until_expiry alive.registered ?_ run
      rw [alive.queued]
      exact free
    · intro time waits
      rcases alive.timers with ⟨_, set⟩ | ⟨none, same⟩
      · rw [set, Function.update_self] at waits
        exact (Option.some.inj waits).le
      · exact late none time (same ▸ waits)

/-- In every run without a sign of life from a server for which a ServerTimeout is queued,
    ServerTimeout removes a server only when its time is over; and the next sign of life
    saves the server exactly when nothing is queued for it. -/
theorem refreshed_server_stays {serverTypeMax : Nat} {timeoutSec : Int}
    (run : Reach (step anyHello) (inTime anyHello)
      { control := ControlServer.initialized serverTypeMax, timeoutSec := timeoutSec } w) :
    w.RemovesOnlyDue anyHello ∧ ∀ e v, w.step anyHello e = some v →
      (w.Saves anyHello e v ↔ w.inTime anyHello e) := by
  have timed : w.Timed := by
    refine reach_invariant Timed ⟨fun _ _ waits => ?_, fun _ posted => ?_⟩ ?_ run
    · contradiction
    · contradiction
    intro s e t timed inTime moved
    exact timed_step timed inTime moved
  exact ⟨timed.removesOnlyDue, fun e v moved => saves_iff moved⟩

section examples

def silence : List TimedEvent := [.sayHello 0 0x0a000001 ⟨80, 1, 1⟩, .elapse 60000000]

theorem stays_after_keepAlive : ∃ w v, Reach (step true) (inTime true)
    { control := ControlServer.initialized 4, timeoutSec := 60 } w ∧
    w.step true (.keepAlive 0) = some v ∧ w.timers (0x0a000001, 80) = some w.now ∧
      w.Saves true (.keepAlive 0) v := by
  obtain ⟨w, run, test⟩ := execWithin_any (step true) (inTime true)
    { control := ControlServer.initialized 4, timeoutSec := 60 } silence
    (fun w => decide (w.timers (0x0a000001, 80) = some w.now ∧ w.inTime true (.keepAlive 0)))
    (by decide +kernel)
  obtain ⟨waits, inTime⟩ := of_decide_eq_true test
  obtain ⟨v, moved⟩ : ∃ v, w.step true (.keepAlive 0) = some v := ⟨_, rfl⟩
  exact ⟨w, v, run, moved, waits, ((refreshed_server_stays run).2 _ v moved).mpr inTime⟩

/-- The timer expires, then a keep-alive sets it anew, then the queued handler runs. -/
theorem removed_after_keepAlive : ¬ ∀ w, Reach (step true) (fun _ _ => True)
    { control := ControlServer.initialized 4, timeoutSec := 60 } w → w.RemovesOnlyDue true := by
  intro all
  obtain ⟨w, run, test⟩ := execWithin_any (step true) (fun _ _ => True)
    { control := ControlServer.initialized 4, timeoutSec := 60 }
    (silence ++ [.expire (0x0a000001, 80), .keepAlive 0])
    (fun w => decide ((0x0a000001, 80) ∈ w.control.serversInfo ∧
      w.now < w.due (0x0a000001, 80) ∧ w.queued = [(0x0a000001, 80)])) (by decide +kernel)
  obtain ⟨known, early, posted⟩ := of_decide_eq_true test
  have found : w.queued[0]? = some (0x0a000001, 80) := by rw [posted]; rfl
  obtain ⟨v, ran, gone⟩ := runTimeout_removes true found
  exact absurd (all w run 0 v ran _ known gone) (Int.not_le.mpr early)

end examples

end TimedServer

end LaluneServer.Control
