import LaluneServer.Log.LogOptions

/- Runs of the log: calls are counted, timers expire, and new options arrive at any time. -/
namespace LaluneServer.Log.LogModule

open LogCounters Transition

variable {Data : Type*}

inductive OptionEvent (Data : Type*)
  | setIndex12
  | log (index3 : String) (now : BitVec 64)
  | receiveOptions (data : Data)
  | stopAllCounters
  | expire (i : Nat)
  | runExpired (i : Nat) (now : BitVec 64)
  | runCancelled (i : Nat)
  deriving DecidableEq, Repr

def timerStep (s : LogModule) (e : Event) : Option LogModule :=
  (s.counters.step e).map fun counters => { s with counters := counters }

def step (parse : Data → Option PbLogOptions) (s : LogModule) :
    OptionEvent Data → Option LogModule
  | .setIndex12 => some { s with anonymous := false }
  | .log index3 now => some (s.log index3 now)
  | .receiveOptions data => some (s.processLogOptions parse data).2
  | .stopAllCounters => s.timerStep .stopAllCounters
  | .expire i => s.timerStep (.expire i)
  | .runExpired i now => s.timerStep (.runExpired i now)
  | .runCancelled i => s.timerStep (.runCancelled i)

def UpdateReaches (parse : Data → Option PbLogOptions) (s : LogModule) : OptionEvent Data → Prop
  | .receiveOptions data => ∀ pb, parse data = some pb → s.Reaches pb
  | _ => True

structure Running (s : LogModule) : Prop where
  well : s.counters.WellListed
  right : s.IntervalsRight

variable {s t : LogModule} {parse : Data → Option PbLogOptions}

theorem running_log (running : Running s) (index3 : String) (now : BitVec 64) :
    Running (s.log index3 now) := by
  unfold log
  simp only
  split
  · rename_i counts
    have interval : (s.openStream index3).countInterval ≠ 0 := counts.2
    refine ⟨wellListed_increase running.well _ _ _, fun other x runs => ?_⟩
    rcases runningInterval_increase running.well index3 other
      (s.openStream index3).countInterval now with kept | ⟨rfl, started⟩
    · exact running.right other x (kept ▸ runs)
    · have same : x = (s.openStream other).countInterval :=
        Option.some.inj (runs.symm.trans started)
      have effective : (s.openStream other).countInterval = s.effectiveInterval other := by
        revert interval
        unfold openStream effectiveInterval
        cases s.optionsMap[other]? with
        | some op => exact fun _ => rfl
        | none =>
          cases s.anonymous with
          | true => exact fun nothing => absurd rfl nothing
          | false => exact fun _ => rfl
      exact ⟨same.trans effective, same ▸ interval⟩
  · exact running

def isTimer : Event → Bool
  | .increaseCounter .. => false
  | .updateCounterInterval .. => false
  | _ => true

theorem runningInterval_timer {w u : LogCounters} {e : Event} (moved : w.step e = some u)
    (timer : isTimer e = true) (index3 : String) {interval : BitVec 32}
    (runs : u.runningInterval index3 = some interval) :
    w.runningInterval index3 = some interval := by
  have kept : ∀ (i : Nat) (c : Counter) (timer : DeadlineTimer.Timer) (error : Bool)
      (now : BitVec 64), (w.timerExpired i c timer error now).runningInterval index3 =
        w.runningInterval index3 := by
    intro i c timer error now
    have same : ∀ c : Counter,
        ({ c with timer := timer }.timerExpired error now).intervalSecs = c.intervalSecs := by
      intro c
      cases error with
      | false => rfl
      | true => rfl
    exact runningInterval_modify (w := w) i _ same index3
  cases e with
  | increaseCounter index3 countInterval now => contradiction
  | updateCounterInterval index3 newInterval => contradiction
  | stopAllCounters =>
    cases moved
    simp [runningInterval, counterOf, logStopAllCounters] at runs
  | expire i =>
    simp only [LogCounters.step, Option.bind_eq_some_iff, Option.map_eq_some_iff] at moved
    obtain ⟨c, _, timer, _, rfl⟩ := moved
    exact (runningInterval_modify (w := w) i (fun c => { c with timer := timer }) (fun _ => rfl)
      index3).symm.trans runs
  | runExpired i now =>
    simp only [LogCounters.step, Option.bind_eq_some_iff, Option.map_eq_some_iff] at moved
    obtain ⟨c, _, timer, _, rfl⟩ := moved
    exact (kept i c timer false now).symm.trans runs
  | runCancelled i =>
    simp only [LogCounters.step, Option.bind_eq_some_iff, Option.map_eq_some_iff] at moved
    obtain ⟨c, _, timer, _, rfl⟩ := moved
    exact (kept i c timer true 0).symm.trans runs

theorem running_timer (running : Running s) {e : Event} (moved : s.timerStep e = some t)
    (timer : isTimer e = true) : Running t := by
  obtain ⟨u, stepped, rfl⟩ := Option.map_eq_some_iff.mp moved
  refine ⟨wellListed_step running.well stepped, fun index3 interval runs => ?_⟩
  exact running.right index3 interval (runningInterval_timer stepped timer index3 runs)

theorem running_options (running : Running s) (data : Data) :
    ((s.processLogOptions parse data).2.IntervalsRight ↔
      ∀ pb, parse data = some pb → s.Reaches pb) ∧
    ((∀ pb, parse data = some pb → s.Reaches pb) →
      Running (s.processLogOptions parse data).2) := by
  unfold processLogOptions
  cases parsed : parse data with
  | none => exact ⟨iff_of_true running.right (fun pb found => by contradiction), fun _ => running⟩
  | some pb =>
    have updated : (s.applyOptions pb).IntervalsRight ↔ s.Reaches pb :=
      applyOptions_right_iff running.well running.right
    have same : (∀ other, some pb = some other → s.Reaches other) ↔ s.Reaches pb :=
      ⟨fun all => all pb rfl, fun reaches other found => Option.some.inj found ▸ reaches⟩
    rw [same]
    exact ⟨updated, fun reaches => ⟨applyOptions_wellListed running.well, updated.mpr reaches⟩⟩

theorem option_step (running : Running s) {e : OptionEvent Data} (moved : step parse s e = some t) :
    (t.IntervalsRight ↔ UpdateReaches parse s e) ∧ (UpdateReaches parse s e → Running t) := by
  have quiet : Running t → (t.IntervalsRight ↔ True) ∧ (True → Running t) :=
    fun kept => ⟨iff_of_true kept.right trivial, fun _ => kept⟩
  cases e with
  | setIndex12 =>
    cases moved
    exact quiet ⟨running.well, running.right⟩
  | log index3 now =>
    cases moved
    exact quiet (running_log running index3 now)
  | receiveOptions data =>
    cases moved
    exact running_options running data
  | stopAllCounters => exact quiet (running_timer running moved rfl)
  | expire i => exact quiet (running_timer running moved rfl)
  | runExpired i now => exact quiet (running_timer running moved rfl)
  | runCancelled i => exact quiet (running_timer running moved rfl)

theorem running_initial : Running {} := by
  refine ⟨fun index3 i listed => ?_, fun index3 interval runs => ?_⟩
  · simp at listed
  · simp [runningInterval, counterOf] at runs

/-- In every run whose messages reach the counters without an option, every counter that
    runs has the interval that counts, which is not 0; the next message changes that
    exactly if it misses such a counter. -/
theorem counters_follow_options_while_reached (parse : Data → Option PbLogOptions)
    (run : Reach (step parse) (UpdateReaches parse) {} s) :
    s.IntervalsRight ∧
      ∀ e t, step parse s e = some t → (t.IntervalsRight ↔ UpdateReaches parse s e) := by
  obtain ⟨_, right, next⟩ := reach_exactly Running IntervalsRight running_initial
    (fun _ running => running.right) (fun _ _ _ running moved => option_step running moved) run
  exact ⟨right, next⟩

def hourlyLogin : PbLogOptions where
  countInterval := 24 * 3600
  logOption := [⟨⟨3000, 3600, 1⟩, "login"⟩]

theorem counter_follows_new_option :
    ∃ s, Reach (step some) (UpdateReaches some) {} s ∧ s.IntervalsRight := by
  have started : Reach (step some) (UpdateReaches some) {}
      (({ anonymous := false } : LogModule).log "login" 0) :=
    .tail (.log "login" 0) (.tail .setIndex12 .refl trivial rfl) trivial rfl
  have reaches : UpdateReaches some (({ anonymous := false } : LogModule).log "login" 0)
      (.receiveOptions hourlyLogin) := by
    intro pb same index3 interval _ _
    cases same
    exact Or.inl rfl
  have updated := Reach.tail (.receiveOptions hourlyLogin) started reaches rfl
  exact ⟨_, updated, (counters_follow_options_while_reached some updated).1⟩

/-- The global interval becomes a minute while a counter runs for a day. -/
theorem counter_keeps_old_global :
    ¬∀ s, Reach (step some) always {} s → s.IntervalsRight := by
  intro right
  obtain ⟨s, run, facts⟩ := execWithin_any (step some) (fun _ _ => True) {}
    [.setIndex12, .log "login" 0, .receiveOptions { countInterval := 60 }]
    (fun s => decide (s.counters.runningInterval "login" = some 86400 ∧
      s.effectiveInterval "login" = 60)) (by decide +kernel)
  obtain ⟨runs, effective⟩ := of_decide_eq_true facts
  have same := (right s run "login" _ runs).1
  rw [effective] at same
  exact absurd same (by decide)

end LaluneServer.Log.LogModule
