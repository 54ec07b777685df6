import LaluneServer.Log.CounterRuns

/- The options of the log: ProcessLogOptions takes a new set of them from the log server,
   and LogStream counts a call under the interval in force. Critical sections of
   _log_shared_mutex are steps; a call is counted under the options it was opened with. -/
namespace LaluneServer.Log

open InverseIndex ListUpdate Transition
open Std (TreeMap)

structure LogOption where
  logLevel : BitVec 32
  countInterval : BitVec 32
  enableDetail : BitVec 32
  deriving DecidableEq, Repr

structure PbLogOption extends LogOption where
  index3 : String
  deriving DecidableEq, Repr

/-- kit::log::LogOptions; an absent field reads 0. -/
structure PbLogOptions where
  logLevel : BitVec 32 := 0
  countInterval : BitVec 32 := 0
  enableDetail : BitVec 32 := 0
  logOption : List PbLogOption := []
  deriving DecidableEq, Repr

structure LogModule where
  globalLogLevel : BitVec 32 := 3000
  globalCountInterval : BitVec 32 := 24 * 3600
  globalEnableDetail : BitVec 32 := 1
  /-- global_index1 is still empty. -/
  anonymous : Bool := true
  optionsMap : TreeMap String LogOption := ∅
  counters : LogCounters := {}

namespace LogModule

variable (s : LogModule)

def openStream (index3 : String) : LogOption :=
  match s.optionsMap[index3]? with
  | none =>
    if s.anonymous then ⟨s.globalLogLevel, 0, 0⟩
    else ⟨s.globalLogLevel, s.globalCountInterval, s.globalEnableDetail⟩
  | some op => op

def log (index3 : String) (now : BitVec 64) : LogModule :=
  let op := s.openStream index3
  if s.globalLogLevel ≤ op.logLevel ∧ op.countInterval ≠ 0 then
    { s with counters := s.counters.increaseCounter index3 op.countInterval now }
  else s

/-- The body of the loop over the options of the message. -/
def takeOption (lo : PbLogOption) : LogModule :=
  match s.optionsMap[lo.index3]? with
  | some old =>
    { s with
      counters :=
        if old.countInterval ≠ lo.countInterval then
          s.counters.updateCounterInterval lo.index3 lo.countInterval
        else s.counters
      optionsMap := s.optionsMap.insert lo.index3 lo.toLogOption }
  | none =>
    { s with
      optionsMap := s.optionsMap.insert lo.index3 lo.toLogOption
      counters :=
        if s.globalCountInterval ≠ lo.countInterval then
          s.counters.updateCounterInterval lo.index3 lo.countInterval
        else s.counters }

/-- The body of the loop over the options that the message does not name. -/
def dropOption (index3 : String) : LogModule :=
  match s.optionsMap[index3]? with
  | some old =>
    { s with
      counters :=
        if old.countInterval ≠ s.globalCountInterval then
          s.counters.updateCounterInterval index3 s.globalCountInterval
        else s.counters
      optionsMap := s.optionsMap.erase index3 }
  | none => s

def setGlobals (pb : PbLogOptions) : LogModule :=
  { s with
    globalLogLevel := pb.logLevel
    globalCountInterval := pb.countInterval
    globalEnableDetail := pb.enableDetail }

/-- options_will_be_deleted when the loop over the message is done. -/
def optionsWillBeDeleted (pb : PbLogOptions) : List String :=
  s.optionsMap.keys.filter fun index3 => index3 ∉ pb.logOption.map PbLogOption.index3

def applyOptions (pb : PbLogOptions) : LogModule :=
  (s.optionsWillBeDeleted pb).foldl dropOption (pb.logOption.foldl takeOption (s.setGlobals pb))

/-- The parser of the message is a parameter; it gives nothing where it fails. -/
def processLogOptions {Data : Type*} (parse : Data → Option PbLogOptions) (data : Data) :
    Bool × LogModule :=
  match parse data with
  | some pb => (true, s.applyOptions pb)
  | none => (false, s)

def effectiveInterval (index3 : String) : BitVec 32 :=
  (s.optionsMap[index3]?.map LogOption.countInterval).getD s.globalCountInterval

end LogModule

namespace LogCounters

variable {w t : LogCounters}

def runningInterval (w : LogCounters) (index3 : String) : Option (BitVec 32) :=
  (w.counterOf index3).map Counter.intervalSecs

theorem runningInterval_modify (i : Nat) (change : Counter → Counter)
    (same : ∀ c, (change c).intervalSecs = c.intervalSecs) (index3 : String) :
    (w.modifyCounter i change).runningInterval index3 = w.runningInterval index3 := by
  unfold runningInterval counterOf modifyCounter
  cases w.logCounters[index3]? with
  | none => rfl
  | some j =>
    simp only [Option.bind_some, List.getElem?_modify]
    cases w.counters[j]? with
    | none => rfl
    | some c =>
      simp only [Option.map_eq_map, Option.map_some]
      split
      · rw [same]
      · rfl

theorem positions_apart (well : WellListed w) {index3 other : String} (differ : index3 ≠ other)
    {i j : Nat} (listed : w.logCounters[index3]? = some i) (held : w.logCounters[other]? = some j) :
    i ≠ j := by
  rintro rfl
  obtain ⟨c, present, named⟩ := well index3 i listed
  obtain ⟨d, again, namedToo⟩ := well other i held
  rw [present, Option.some.injEq] at again
  subst again
  exact differ (named.symm.trans namedToo)

theorem runningInterval_change (well : WellListed w) {index3 : String} {i : Nat}
    (listed : w.logCounters[index3]? = some i) (newInterval : BitVec 32) (other : String) :
    (w.modifyCounter i fun c => c.changeInterval newInterval).runningInterval other =
      if index3 = other then some newInterval else w.runningInterval other := by
  unfold runningInterval counterOf modifyCounter
  simp only
  by_cases same : index3 = other
  · obtain ⟨c, present, _⟩ := well index3 i listed
    subst same
    simp [listed, present, Counter.changeInterval, Counter.arm]
  · rw [if_neg same]
    cases held : w.logCounters[other]? with
    | none => rfl
    | some j => simp [positions_apart well same listed held]

theorem runningInterval_remove (well : WellListed w) {index3 : String} {i : Nat}
    (listed : w.logCounters[index3]? = some i) (other : String) :
    { w.modifyCounter i Counter.cancel with
      logCounters := w.logCounters.erase index3 }.runningInterval other =
      if index3 = other then none else w.runningInterval other := by
  unfold runningInterval counterOf modifyCounter
  simp only [find_erase]
  by_cases same : index3 = other
  · rw [if_pos same, if_pos same]
    rfl
  · rw [if_neg same, if_neg same]
    cases held : w.logCounters[other]? with
    | none => rfl
    | some j => simp [positions_apart well same listed held]

/-- Only the counter of the index3 gets the new interval, or stops at the interval 0. -/
theorem runningInterval_update (well : WellListed w) (index3 other : String)
    (newInterval : BitVec 32) :
    (w.updateCounterInterval index3 newInterval).runningInterval other =
      if index3 = other then
        if newInterval = 0 then none else (w.runningInterval other).map fun _ => newInterval
      else w.runningInterval other := by
  unfold updateCounterInterval
  cases listed : w.logCounters[index3]? with
  | none =>
    by_cases same : index3 = other
    · subst same
      have idle : w.runningInterval index3 = none := by
        unfold runningInterval counterOf
        rw [listed]
        rfl
      rw [if_pos rfl]
      simp only [idle, Option.map_none, ite_self]
    · rw [if_neg same]
  | some i =>
    obtain ⟨c, present, _⟩ := well index3 i listed
    have running : w.runningInterval index3 = some c.intervalSecs := by
      unfold runningInterval
      rw [counterOf_listed listed present]
      rfl
    by_cases zero : newInterval = 0
    · simp only [if_neg (not_not.mpr zero), if_pos zero]
      exact runningInterval_remove well listed other
    · simp only [if_pos zero, if_neg zero]
      rw [runningInterval_change well listed]
      split
      · rename_i same
        rw [← same, running]
        rfl
      · rfl

theorem wellListed_update (well : WellListed w) (index3 : String) (newInterval : BitVec 32) :
    WellListed (w.updateCounterInterval index3 newInterval) :=
  wellListed_step well (e := .updateCounterInterval index3 newInterval) rfl

theorem runningInterval_increase (well : WellListed w) (index3 other : String)
    (countInterval : BitVec 32) (now : BitVec 64) :
    (w.increaseCounter index3 countInterval now).runningInterval other =
        w.runningInterval other ∨
      other = index3 ∧ (w.increaseCounter index3 countInterval now).runningInterval other =
        some countInterval := by
  unfold increaseCounter
  cases listed : w.logCounters[index3]? with
  | some i =>
    exact Or.inl (runningInterval_modify (w := w) i
      (fun c => { c with cntValue := c.cntValue + 1 }) (fun _ => rfl) other)
  | none =>
    by_cases stopped : w.stopped = true
    · simp only [if_pos stopped]
      exact Or.inl trivial
    · simp only [if_neg stopped]
      unfold runningInterval counterOf insertCounter
      simp only [find_insert]
      by_cases same : index3 = other
      · right
        simp [same, Counter.refreshTimer, Counter.arm]
      · left
        rw [if_neg same]
        cases held : w.logCounters[other]? with
        | none => rfl
        | some j =>
          obtain ⟨c, present, _⟩ := well other j held
          have inside := (List.getElem?_eq_some_iff.mp present).1
          simp [List.getElem?_append_left inside]

theorem wellListed_increase (well : WellListed w) (index3 : String) (countInterval : BitVec 32)
    (now : BitVec 64) : WellListed (w.increaseCounter index3 countInterval now) :=
  wellListed_step well (e := .increaseCounter index3 countInterval now) rfl

end LogCounters

namespace LogModule

open LogCounters

variable {s t : LogModule}

def RightAt (s : LogModule) (index3 : String) : Prop :=
  ∀ interval, s.counters.runningInterval index3 = some interval →
    interval = s.effectiveInterval index3 ∧ interval ≠ 0

def IntervalsRight (s : LogModule) : Prop := ∀ index3, s.RightAt index3

structure Settles (s t : LogModule) (index3 : String) (interval : BitVec 32) : Prop where
  counters : t.counters = if s.effectiveInterval index3 ≠ interval then
    s.counters.updateCounterInterval index3 interval else s.counters
  effective : ∀ other, t.effectiveInterval other =
    if index3 = other then interval else s.effectiveInterval other

theorem settles_takeOption (s : LogModule) (lo : PbLogOption) :
    Settles s (s.takeOption lo) lo.index3 lo.countInterval := by
  have inserted : ∀ other, ((s.optionsMap.insert lo.index3 lo.toLogOption)[other]?.map
      LogOption.countInterval).getD s.globalCountInterval =
      if lo.index3 = other then lo.countInterval else s.effectiveInterval other := by
    intro other
    rw [find_insert]
    split
    · rfl
    · rfl
  unfold takeOption
  cases old : s.optionsMap[lo.index3]? with
  | some op =>
    have known : s.effectiveInterval lo.index3 = op.countInterval := by
      simp [effectiveInterval, old]
    refine ⟨?_, inserted⟩
    rw [known]
  | none =>
    have unknown : s.effectiveInterval lo.index3 = s.globalCountInterval := by
      simp [effectiveInterval, old]
    refine ⟨?_, inserted⟩
    rw [unknown]

theorem settles_dropOption (s : LogModule) (index3 : String) :
    s.dropOption index3 = s ∨
      Settles s (s.dropOption index3) index3 s.globalCountInterval := by
  unfold dropOption
  cases old : s.optionsMap[index3]? with
  | none => exact Or.inl rfl
  | some op =>
    right
    have known : s.effectiveInterval index3 = op.countInterval := by
      simp [effectiveInterval, old]
    refine ⟨?_, fun other => ?_⟩
    · rw [known]
    · show ((s.optionsMap.erase index3)[other]?.map LogOption.countInterval).getD
        s.globalCountInterval = _
      rw [find_erase]
      split
      · rfl
      · rfl

section settles
variable {index3 other : String} {interval : BitVec 32}

theorem Settles.wellListed (settles : Settles s t index3 interval)
    (well : s.counters.WellListed) : t.counters.WellListed := by
  rw [settles.counters]
  split
  · exact wellListed_update well index3 interval
  · exact well

theorem Settles.rightAt_changed (settles : Settles s t index3 interval)
    (well : s.counters.WellListed) (change : s.effectiveInterval index3 ≠ interval) :
    t.RightAt index3 := by
  intro now running
  rw [settles.counters, if_pos change, runningInterval_update well, if_pos rfl] at running
  rw [settles.effective, if_pos rfl]
  by_cases zero : interval = 0
  · rw [if_pos zero] at running
    contradiction
  · rw [if_neg zero, Option.map_eq_some_iff] at running
    obtain ⟨_, _, same⟩ := running
    exact ⟨same.symm, same ▸ zero⟩

theorem Settles.unchanged (settles : Settles s t index3 interval)
    (well : s.counters.WellListed) (other : String)
    (apart : index3 = other → s.effectiveInterval other = interval) :
    t.counters.runningInterval other = s.counters.runningInterval other ∧
      t.effectiveInterval other = s.effectiveInterval other := by
  rw [settles.counters, settles.effective]
  by_cases same : index3 = other
  · have kept := apart same
    subst same
    rw [if_neg (not_not.mpr kept), if_pos rfl]
    exact ⟨rfl, kept.symm⟩
  · refine ⟨?_, if_neg same⟩
    split
    · rw [runningInterval_update well, if_neg same]
    · rfl

theorem Settles.rightAt (settles : Settles s t index3 interval) (well : s.counters.WellListed)
    (right : s.RightAt other) : t.RightAt other := by
  by_cases change : index3 = other ∧ s.effectiveInterval other ≠ interval
  · obtain ⟨rfl, change⟩ := change
    exact settles.rightAt_changed well change
  · have kept := settles.unchanged well other
      (fun same => not_not.mp (fun differ => change ⟨same, differ⟩))
    unfold RightAt
    rw [kept.1, kept.2]
    exact right

end settles

section message
variable {index3 : String}

theorem takeOptions_wellListed (options : List PbLogOption) (well : s.counters.WellListed) :
    (options.foldl takeOption s).counters.WellListed := by
  induction options generalizing s with
  | nil => exact well
  | cons lo options ih => exact ih ((settles_takeOption s lo).wellListed well)

theorem takeOptions_rightAt (options : List PbLogOption) (well : s.counters.WellListed)
    (right : s.RightAt index3) : (options.foldl takeOption s).RightAt index3 := by
  induction options generalizing s with
  | nil => exact right
  | cons lo options ih =>
    have settles := settles_takeOption s lo
    exact ih (settles.wellListed well) (settles.rightAt well right)

theorem takeOptions_reach (options : List PbLogOption) (well : s.counters.WellListed)
    (named : ∃ lo ∈ options, lo.index3 = index3 ∧ lo.countInterval ≠ s.effectiveInterval index3) :
    (options.foldl takeOption s).RightAt index3 := by
  induction options generalizing s with
  | nil => simp at named
  | cons lo options ih =>
    have settles := settles_takeOption s lo
    by_cases here : lo.index3 = index3 ∧ lo.countInterval ≠ s.effectiveInterval index3
    · obtain ⟨rfl, differ⟩ := here
      exact takeOptions_rightAt options (settles.wellListed well)
        (settles.rightAt_changed well (Ne.symm differ))
    · have kept := settles.unchanged well index3
        (fun same => not_not.mp (fun differ => here ⟨same, Ne.symm differ⟩))
      apply ih (settles.wellListed well)
      obtain ⟨later, member, name, differ⟩ := named
      rcases List.mem_cons.mp member with rfl | inTail
      · exact absurd ⟨name, differ⟩ here
      · exact ⟨later, inTail, name, by rwa [kept.2]⟩

theorem takeOptions_unchanged (options : List PbLogOption) (well : s.counters.WellListed)
    (same : ∀ lo ∈ options, lo.index3 = index3 → lo.countInterval = s.effectiveInterval index3) :
    (options.foldl takeOption s).counters.runningInterval index3 =
        s.counters.runningInterval index3 ∧
      (options.foldl takeOption s).effectiveInterval index3 = s.effectiveInterval index3 := by
  induction options generalizing s with
  | nil => exact ⟨rfl, rfl⟩
  | cons lo options ih =>
    have settles := settles_takeOption s lo
    have kept := settles.unchanged well index3
      (fun name => (same lo List.mem_cons_self name).symm)
    obtain ⟨running, effective⟩ := ih (settles.wellListed well) (fun next member name => by
      rw [kept.2]
      exact same next (List.mem_cons_of_mem lo member) name)
    exact ⟨running.trans kept.1, effective.trans kept.2⟩

theorem dropOptions_wellListed (names : List String) (well : s.counters.WellListed) :
    (names.foldl dropOption s).counters.WellListed := by
  induction names generalizing s with
  | nil => exact well
  | cons name names ih =>
    rw [List.foldl_cons]
    rcases settles_dropOption s name with idle | settles
    · rw [idle]
      exact ih well
    · exact ih (settles.wellListed well)

theorem dropOptions_rightAt (names : List String) (well : s.counters.WellListed)
    (right : s.RightAt index3) : (names.foldl dropOption s).RightAt index3 := by
  induction names generalizing s with
  | nil => exact right
  | cons name names ih =>
    rw [List.foldl_cons]
    rcases settles_dropOption s name with idle | settles
    · rw [idle]
      exact ih well right
    · exact ih (settles.wellListed well) (settles.rightAt well right)

theorem dropOptions_unchanged (names : List String) (well : s.counters.WellListed)
    (apart : index3 ∉ names) :
    (names.foldl dropOption s).counters.runningInterval index3 =
        s.counters.runningInterval index3 ∧
      (names.foldl dropOption s).effectiveInterval index3 = s.effectiveInterval index3 := by
  induction names generalizing s with
  | nil => exact ⟨rfl, rfl⟩
  | cons name names ih =>
    rw [List.mem_cons, not_or] at apart
    rw [List.foldl_cons]
    rcases settles_dropOption s name with idle | settles
    · rw [idle]
      exact ih well apart.2
    · have kept := settles.unchanged well index3
        (fun same => absurd same.symm apart.1)
      obtain ⟨running, effective⟩ := ih (settles.wellListed well) apart.2
      exact ⟨running.trans kept.1, effective.trans kept.2⟩

theorem optionsWillBeDeleted_known {pb : PbLogOptions}
    (doomed : index3 ∈ s.optionsWillBeDeleted pb) : s.optionsMap[index3]? ≠ none := by
  have key := (List.mem_filter.mp doomed).1
  rw [Std.TreeMap.mem_keys, Std.TreeMap.mem_iff_isSome_getElem?] at key
  intro absent
  rw [absent] at key
  contradiction

end message

/-- The message reaches each counter that runs without an option: the global interval stays,
    or one of the options for it has an interval other than the new global one. -/
def Reaches (s : LogModule) (pb : PbLogOptions) : Prop :=
  ∀ index3 interval, s.counters.runningInterval index3 = some interval →
    s.optionsMap[index3]? = none → s.globalCountInterval = pb.countInterval ∨
      ∃ lo ∈ pb.logOption, lo.index3 = index3 ∧ lo.countInterval ≠ pb.countInterval

section update
variable {index3 : String} {pb : PbLogOptions}

theorem applyOptions_wellListed (well : s.counters.WellListed) :
    (s.applyOptions pb).counters.WellListed :=
  dropOptions_wellListed _ (takeOptions_wellListed _ (s := s.setGlobals pb) well)

theorem applyOptions_rightAt_known (well : s.counters.WellListed) (right : s.RightAt index3)
    (known : s.optionsMap[index3]? ≠ none) : (s.applyOptions pb).RightAt index3 := by
  obtain ⟨op, held⟩ := Option.ne_none_iff_exists'.mp known
  have start : (s.setGlobals pb).RightAt index3 := by
    intro interval running
    have same : (s.setGlobals pb).effectiveInterval index3 = s.effectiveInterval index3 := by
      simp [effectiveInterval, setGlobals, held]
    rw [same]
    exact right interval running
  have taken := takeOptions_wellListed pb.logOption (s := s.setGlobals pb) well
  exact dropOptions_rightAt _ taken (takeOptions_rightAt _ (s := s.setGlobals pb) well start)

/-- Without an option the counter is right exactly if the message reaches it. -/
theorem applyOptions_rightAt_unknown (well : s.counters.WellListed) (right : s.RightAt index3)
    (unknown : s.optionsMap[index3]? = none) :
    (s.applyOptions pb).RightAt index3 ↔
      ∀ interval, s.counters.runningInterval index3 = some interval →
        s.globalCountInterval = pb.countInterval ∨
          ∃ lo ∈ pb.logOption, lo.index3 = index3 ∧ lo.countInterval ≠ pb.countInterval := by
  have old : s.effectiveInterval index3 = s.globalCountInterval := by
    simp [effectiveInterval, unknown]
  have new : (s.setGlobals pb).effectiveInterval index3 = pb.countInterval := by
    simp [effectiveInterval, setGlobals, unknown]
  have taken := takeOptions_wellListed pb.logOption (s := s.setGlobals pb) well
  constructor
  · intro settled interval running
    by_contra missed
    rw [not_or, not_exists] at missed
    obtain ⟨moved, quiet⟩ := missed
    have equal : ∀ lo ∈ pb.logOption, lo.index3 = index3 →
        lo.countInterval = (s.setGlobals pb).effectiveInterval index3 := by
      intro lo member name
      rw [new]
      by_contra differ
      exact quiet lo ⟨member, name, differ⟩
    obtain ⟨keeps, stays⟩ := takeOptions_unchanged pb.logOption (s := s.setGlobals pb) well equal
    have spared : index3 ∉ s.optionsWillBeDeleted pb :=
      fun doomed => optionsWillBeDeleted_known doomed unknown
    obtain ⟨keepsToo, staysToo⟩ := dropOptions_unchanged _ taken spared
    have after : (s.applyOptions pb).counters.runningInterval index3 = some interval :=
      keepsToo.trans (keeps.trans running)
    have wrong := (settled interval after).1
    have effective : (s.applyOptions pb).effectiveInterval index3 = pb.countInterval :=
      staysToo.trans (stays.trans new)
    have started := (right interval running).1
    rw [effective] at wrong
    rw [old] at started
    exact moved (started.symm.trans wrong)
  · intro reached
    have settled : (pb.logOption.foldl takeOption (s.setGlobals pb)).RightAt index3 := by
      by_cases named : ∃ lo ∈ pb.logOption, lo.index3 = index3 ∧
          lo.countInterval ≠ pb.countInterval
      · exact takeOptions_reach pb.logOption (s := s.setGlobals pb) well (by rwa [new])
      · apply takeOptions_rightAt pb.logOption (s := s.setGlobals pb) well
        intro interval running
        have kept := (reached interval running).resolve_right named
        rw [new, ← kept, ← old]
        exact right interval running
    exact dropOptions_rightAt _ taken settled

theorem applyOptions_right_iff (well : s.counters.WellListed) (right : s.IntervalsRight) :
    (s.applyOptions pb).IntervalsRight ↔ s.Reaches pb := by
  constructor
  · intro settled index3 interval running unknown
    exact (applyOptions_rightAt_unknown well (right index3) unknown).mp (settled index3)
      interval running
  · intro reaches index3
    by_cases unknown : s.optionsMap[index3]? = none
    · exact (applyOptions_rightAt_unknown well (right index3) unknown).mpr
        (fun interval running => reaches index3 interval running unknown)
    · exact applyOptions_rightAt_known well (right index3) unknown

end update

end LogModule

end LaluneServer.Log
