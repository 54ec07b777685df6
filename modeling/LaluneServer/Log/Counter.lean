import LaluneServer.Lib.DeadlineTimer
import LaluneServer.Lib.Transition
import Std.Data.TreeMap.Lemmas

/- The counters of the log: calls are counted by index3, and the timer of a counter logs
   its value and sets it to 0. -/
namespace LaluneServer.Log

open DeadlineTimer
open Std (TreeMap)

structure Record where
  index3 : String
  value : BitVec 32
  startTime : BitVec 64
  deriving DecidableEq, Repr

/-- `armed` is a ghost: how often async_wait was called on the timer. -/
structure Counter where
  index3 : String
  intervalSecs : BitVec 32
  startTime : BitVec 64 := 0
  cntValue : BitVec 32 := 1
  timer : Timer := {}
  armed : Nat := 0
  deriving DecidableEq, Repr

namespace Counter

variable (c : Counter)

def arm : Counter := { c with timer := c.timer.expiresFromNow, armed := c.armed + 1 }

def refreshTimer (now : BitVec 64) : Counter := { c with startTime := now }.arm

def changeInterval (newInterval : BitVec 32) : Counter :=
  { c with intervalSecs := newInterval }.arm

def cancel : Counter := { c with timer := c.timer.cancel }

def record : Record := ⟨c.index3, c.cntValue, c.startTime⟩

/-- `timer_expired` after its record: it goes on only without an error. -/
def timerExpired (error : Bool) (now : BitVec 64) : Counter :=
  { (if error then c else c.refreshTimer now) with cntValue := 0 }

end Counter

/-- The counters that were made, `__log_counters` with their positions, what was logged,
    and, as a ghost, the index3 of every accepted IncreaseCounter. -/
structure LogCounters where
  counters : List Counter := []
  logCounters : TreeMap String Nat := ∅
  stopped : Bool := false
  records : List Record := []
  accepted : List String := []

inductive Event
  | increaseCounter (index3 : String) (countInterval : BitVec 32) (now : BitVec 64)
  | updateCounterInterval (index3 : String) (newInterval : BitVec 32)
  | stopAllCounters
  | expire (i : Nat)
  | runExpired (i : Nat) (now : BitVec 64)
  | runCancelled (i : Nat)
  deriving DecidableEq, Repr

namespace LogCounters

variable (w : LogCounters)

def modifyCounter (i : Nat) (change : Counter → Counter) : LogCounters :=
  { w with counters := w.counters.modify i change }

/-- The branch of IncreaseCounter that makes a counter. -/
def insertCounter (index3 : String) (countInterval : BitVec 32) (now : BitVec 64) :
    LogCounters :=
  { w with
    counters := w.counters ++
      [{ index3 := index3, intervalSecs := countInterval : Counter }.refreshTimer now]
    logCounters := w.logCounters.insert index3 w.counters.length
    accepted := w.accepted ++ [index3] }

def increaseCounter (index3 : String) (countInterval : BitVec 32) (now : BitVec 64) :
    LogCounters :=
  match w.logCounters[index3]? with
  | none =>
    if w.stopped then w else w.insertCounter index3 countInterval now
  | some i =>
    { w.modifyCounter i (fun c => { c with cntValue := c.cntValue + 1 }) with
      accepted := w.accepted ++ [index3] }

def updateCounterInterval (index3 : String) (newInterval : BitVec 32) : LogCounters :=
  match w.logCounters[index3]? with
  | none => w
  | some i =>
    if newInterval ≠ 0 then w.modifyCounter i (fun c => c.changeInterval newInterval)
    else { w.modifyCounter i Counter.cancel with logCounters := w.logCounters.erase index3 }

def listedCounters : List Nat := w.logCounters.toList.map Prod.snd

def logStopAllCounters : LogCounters :=
  { w with
    counters := w.listedCounters.foldl (fun counters i => counters.modify i Counter.cancel)
      w.counters
    logCounters := ∅
    stopped := true }

def timerExpired (i : Nat) (c : Counter) (timer : Timer) (error : Bool) (now : BitVec 64) :
    LogCounters :=
  { w.modifyCounter i (fun c => { c with timer := timer }.timerExpired error now) with
    records := w.records ++ [c.record] }

def step : Event → Option LogCounters
  | .increaseCounter index3 countInterval now =>
    some (w.increaseCounter index3 countInterval now)
  | .updateCounterInterval index3 newInterval =>
    some (w.updateCounterInterval index3 newInterval)
  | .stopAllCounters => some w.logStopAllCounters
  | .expire i =>
    w.counters[i]?.bind (fun c => c.timer.expire.map (fun timer =>
      w.modifyCounter i (fun c => { c with timer := timer })))
  | .runExpired i now =>
    w.counters[i]?.bind (fun c => c.timer.takeExpired.map (fun timer =>
      w.timerExpired i c timer false now))
  | .runCancelled i =>
    w.counters[i]?.bind (fun c => c.timer.takeAborted.map (fun timer =>
      w.timerExpired i c timer true 0))

def Listed (i : Nat) (c : Counter) : Prop := w.logCounters[c.index3]? = some i

instance (i : Nat) (c : Counter) : Decidable (w.Listed i c) :=
  inferInstanceAs (Decidable (_ = _))

def logged (index3 : String) : Nat :=
  (w.records.map (fun r => if r.index3 = index3 then r.value.toNat else 0)).sum

def held (index3 : String) : Nat :=
  (w.counters.map (fun c => if c.index3 = index3 then c.cntValue.toNat else 0)).sum

/-- Every accepted call was logged or is still held, and a counter that was released (it is
    not listed and no handler keeps it alive) holds nothing. -/
structure Conserved : Prop where
  sums : ∀ index3, w.logged index3 + w.held index3 = w.accepted.count index3
  released : ∀ i c, w.counters[i]? = some c → ¬w.Listed i c → c.timer.waits = 0 → c.cntValue = 0

/-- No counter that was removed from `__log_counters` is armed in any continuation. -/
def NeverRearmed : Prop :=
  ∀ i c, w.counters[i]? = some c → ¬w.Listed i c → ∀ t, Transition.Reach step Transition.always w t →
    ∀ c', t.counters[i]? = some c' → c'.armed = c.armed

def remaining : Nat := (w.counters.map (fun c => c.timer.waits)).sum

def isHandler : Event → Bool
  | .runExpired .. => true
  | .runCancelled _ => true
  | _ => false

/-- Every continuation uses the remaining handlers up, and one can run until none is left. -/
def Drains : Prop :=
  ∀ es t, Transition.exec step w es = some t →
    es.countP isHandler + t.remaining = w.remaining ∧
      (t.remaining = 0 ∨ ∃ i, (t.step (.runCancelled i)).isSome)

def counterOf (index3 : String) : Option Counter :=
  w.logCounters[index3]?.bind (fun i => w.counters[i]?)

/-- A counter is cancelled with no expiry handler queued, and counts up to 2^32 - 1. -/
def Quiet : Event → Prop
  | .increaseCounter index3 _ _ =>
    (w.counterOf index3).all (fun c => c.cntValue ≠ BitVec.allOnes 32) = true
  | .updateCounterInterval index3 newInterval =>
    newInterval = 0 → (w.counterOf index3).all (fun c => c.timer.expired = 0) = true
  | .stopAllCounters =>
    w.listedCounters.all (fun i => w.counters[i]?.all (fun c => c.timer.expired = 0)) = true
  | .expire _ | .runExpired .. | .runCancelled _ => True

instance : ∀ e, Decidable (w.Quiet e)
  | .increaseCounter .. => inferInstanceAs (Decidable (_ = _))
  | .updateCounterInterval .. => inferInstanceAs (Decidable (_ → _))
  | .stopAllCounters => inferInstanceAs (Decidable (_ = _))
  | .expire _ | .runExpired .. | .runCancelled _ => inferInstanceAs (Decidable True)

end LogCounters

end LaluneServer.Log
