import LaluneServer.Lib.InverseIndex
import LaluneServer.Lib.ListUpdate
import LaluneServer.Log.Counter

/- The counters lose no call and stop: what each step leaves in the counters that are
   listed and in those that were removed. -/
namespace LaluneServer.Log

open DeadlineTimer InverseIndex ListUpdate Transition
open Std (TreeMap)

namespace LogCounters

variable {w t : LogCounters}

theorem mem_listedCounters {i : Nat} :
    i ∈ w.listedCounters ↔ ∃ index3 : String, w.logCounters[index3]? = some i := by
  simp only [listedCounters, List.mem_map, Prod.exists, exists_eq_right,
    TreeMap.mem_toList_iff_getElem?_eq_some]

def WellListed (w : LogCounters) : Prop :=
  ∀ (index3 : String) (i : Nat), w.logCounters[index3]? = some i →
    ∃ c, w.counters[i]? = some c ∧ c.index3 = index3

inductive Occurs (w : LogCounters) : LogCounters → Prop
  | idle : Occurs w w
  | created {index3 : String} (countInterval : BitVec 32) (now : BitVec 64)
      (absent : w.logCounters[index3]? = none) (running : w.stopped = false) :
      Occurs w (w.insertCounter index3 countInterval now)
  | counted {index3 : String} {i : Nat} (listed : w.logCounters[index3]? = some i) :
      Occurs w { w.modifyCounter i (fun c => { c with cntValue := c.cntValue + 1 }) with
        accepted := w.accepted ++ [index3] }
  | changed {index3 : String} {i : Nat} (newInterval : BitVec 32)
      (listed : w.logCounters[index3]? = some i) :
      Occurs w (w.modifyCounter i (fun c => c.changeInterval newInterval))
  | removed {index3 : String} {i : Nat} (listed : w.logCounters[index3]? = some i) :
      Occurs w { w.modifyCounter i Counter.cancel with
        logCounters := w.logCounters.erase index3 }
  | stopped : Occurs w w.logStopAllCounters
  | expired {i : Nat} {c : Counter} {timer : Timer} (present : w.counters[i]? = some c)
      (fired : c.timer.expire = some timer) :
      Occurs w (w.modifyCounter i (fun c => { c with timer := timer }))
  | ranExpired {i : Nat} {c : Counter} {timer : Timer} (now : BitVec 64)
      (present : w.counters[i]? = some c) (taken : c.timer.takeExpired = some timer) :
      Occurs w (w.timerExpired i c timer false now)
  | ranCancelled {i : Nat} {c : Counter} {timer : Timer}
      (present : w.counters[i]? = some c) (taken : c.timer.takeAborted = some timer) :
      Occurs w (w.timerExpired i c timer true 0)

theorem occurs_of_step {e : Event} (moved : w.step e = some t) : Occurs w t := by
  cases e with
  | increaseCounter index3 countInterval now =>
    cases moved
    unfold increaseCounter
    split
    · rename_i absent
      split
      · exact .idle
      · rename_i running
        exact .created countInterval now absent (by simpa using running)
    · exact .counted ‹_›
  | updateCounterInterval index3 newInterval =>
    cases moved
    unfold updateCounterInterval
    split
    · exact .idle
    · split
      · exact .changed newInterval ‹_›
      · exact .removed ‹_›
  | stopAllCounters =>
    cases moved
    exact .stopped
  | expire i =>
    simp only [step, Option.bind_eq_some_iff, Option.map_eq_some_iff] at moved
    obtain ⟨c, present, timer, fired, rfl⟩ := moved
    exact .expired present fired
  | runExpired i now =>
    simp only [step, Option.bind_eq_some_iff, Option.map_eq_some_iff] at moved
    obtain ⟨c, present, timer, taken, rfl⟩ := moved
    exact .ranExpired now present taken
  | runCancelled i =>
    simp only [step, Option.bind_eq_some_iff, Option.map_eq_some_iff] at moved
    obtain ⟨c, present, timer, taken, rfl⟩ := moved
    exact .ranCancelled present taken

@[simp] theorem arm_index3 (c : Counter) : c.arm.index3 = c.index3 := rfl

@[simp] theorem cancel_index3 (c : Counter) : c.cancel.index3 = c.index3 := rfl

@[simp] theorem refreshTimer_index3 (c : Counter) (now : BitVec 64) :
    (c.refreshTimer now).index3 = c.index3 := rfl

@[simp] theorem changeInterval_index3 (c : Counter) (newInterval : BitVec 32) :
    (c.changeInterval newInterval).index3 = c.index3 := rfl

@[simp] theorem timerExpired_index3 (c : Counter) (error : Bool) (now : BitVec 64) :
    (c.timerExpired error now).index3 = c.index3 := by
  cases error with
  | false => rfl
  | true => rfl

theorem cancel_cancel (c : Counter) : c.cancel.cancel = c.cancel := by
  simp [Counter.cancel, Timer.cancel]

theorem stopped_counters (i : Nat) : w.logStopAllCounters.counters[i]? =
    w.counters[i]?.map (fun c => if i ∈ w.listedCounters then c.cancel else c) :=
  getElem?_foldl_modify cancel_cancel w.listedCounters w.counters i

section wellListed

theorem WellListed.modify (well : WellListed w) (i : Nat) {change : Counter → Counter}
    (same : ∀ c, (change c).index3 = c.index3) : WellListed (w.modifyCounter i change) := by
  intro index3 j listed
  obtain ⟨c, present, named⟩ := well index3 j listed
  refine ⟨_, getElem?_modify_of_some present, ?_⟩
  split
  · rw [same, named]
  · exact named

theorem wellListed_step {e : Event} (well : WellListed w) (moved : w.step e = some t) :
    WellListed t := by
  cases occurs_of_step moved with
  | idle => exact well
  | created countInterval now absent running =>
    intro index3 i listed
    simp only [insertCounter, find_insert] at listed
    split at listed
    · rename_i same
      cases listed
      exact ⟨_, List.getElem?_concat_length, same⟩
    · obtain ⟨c, present, named⟩ := well index3 i listed
      have inside := (List.getElem?_eq_some_iff.mp present).1
      exact ⟨c, (List.getElem?_append_left inside).trans present, named⟩
  | counted _ => exact well.modify _ (fun _ => rfl)
  | changed newInterval _ => exact well.modify _ (fun _ => rfl)
  | removed _ =>
    intro index3 i listed
    simp only [find_erase] at listed
    split at listed
    · contradiction
    · exact well.modify _ cancel_index3 index3 i listed
  | stopped =>
    intro index3 i listed
    simp [logStopAllCounters] at listed
  | expired _ _ => exact well.modify _ (fun _ => rfl)
  | ranExpired now _ _ => exact well.modify _ (fun _ => by simp)
  | ranCancelled _ _ => exact well.modify _ (fun _ => by simp)

theorem WellListed.listed (well : WellListed w) {index3 : String} {i : Nat} {c : Counter}
    (listed : w.logCounters[index3]? = some i) (present : w.counters[i]? = some c) :
    w.Listed i c ∧ c.index3 = index3 := by
  obtain ⟨c', present', named⟩ := well index3 i listed
  rw [present, Option.some.injEq] at present'
  subst present'
  exact ⟨by rw [Listed, named, listed], named⟩

end wellListed

section frozen

/-- A removed counter whose handlers all end with an error, armed so often. -/
def Frozen (i armed : Nat) (w : LogCounters) : Prop :=
  ∃ c, w.counters[i]? = some c ∧ ¬w.Listed i c ∧ c.timer.live = 0 ∧ c.armed = armed

theorem Frozen.modify {i armed : Nat} (frozen : Frozen i armed w) {j : Nat}
    {change : Counter → Counter}
    (harmless : i = j → ∀ c, w.counters[i]? = some c → ¬w.Listed i c → c.timer.live = 0 →
      (change c).index3 = c.index3 ∧ (change c).timer.live = 0 ∧
        (change c).armed = c.armed) : Frozen i armed (w.modifyCounter j change) := by
  obtain ⟨c, present, unlisted, quiet, count⟩ := frozen
  refine ⟨_, getElem?_modify_of_some present, ?_⟩
  by_cases same : j = i
  · obtain ⟨named, still, often⟩ := harmless same.symm c present unlisted quiet
    rw [if_pos same]
    refine ⟨?_, still, often.trans count⟩
    rw [Listed, named]
    exact unlisted
  · rw [if_neg same]
    exact ⟨unlisted, quiet, count⟩

theorem Frozen.modify_listed {i armed : Nat} (frozen : Frozen i armed w) (well : WellListed w)
    {index3 : String} {j : Nat} (listed : w.logCounters[index3]? = some j)
    (change : Counter → Counter) : Frozen i armed (w.modifyCounter j change) := by
  refine frozen.modify (fun same c present unlisted _ => ?_)
  subst same
  exact absurd (well.listed listed present).1 unlisted

theorem frozen_step {i armed : Nat} {e : Event} (frozen : Frozen i armed w)
    (well : WellListed w) (moved : w.step e = some t) : Frozen i armed t := by
  cases occurs_of_step moved with
  | idle => exact frozen
  | created countInterval now absent running =>
    obtain ⟨c, present, unlisted, quiet, count⟩ := frozen
    have inside := (List.getElem?_eq_some_iff.mp present).1
    refine ⟨c, (List.getElem?_append_left inside).trans present, ?_, quiet, count⟩
    simp only [Listed, insertCounter, find_insert]
    split
    · simp only [Option.some.injEq]
      omega
    · exact unlisted
  | counted listed => exact frozen.modify_listed well listed _
  | changed newInterval listed => exact frozen.modify_listed well listed _
  | @removed index3 j listed =>
    obtain ⟨c, present, unlisted, quiet, count⟩ :=
      frozen.modify_listed well listed Counter.cancel
    refine ⟨c, present, ?_, quiet, count⟩
    simp only [Listed, find_erase]
    split
    · simp
    · exact unlisted
  | stopped =>
    obtain ⟨c, present, unlisted, quiet, count⟩ := frozen
    have apart : i ∉ w.listedCounters := by
      intro member
      obtain ⟨index3, listed⟩ := mem_listedCounters.mp member
      exact unlisted (well.listed listed present).1
    refine ⟨c, ?_, ?_, quiet, count⟩
    · rw [stopped_counters, present, Option.map_some, if_neg apart]
    · simp [Listed, logStopAllCounters]
  | expired present fired =>
    refine frozen.modify (fun same c there _ quiet => ?_)
    subst same
    rw [present, Option.some.injEq] at there
    subst there
    have := (Timer.expire_spec fired).2.2.2
    simp only [Timer.live] at quiet
    omega
  | ranExpired now present taken =>
    refine frozen.modify (fun same c there _ quiet => ?_)
    subst same
    rw [present, Option.some.injEq] at there
    subst there
    have := (Timer.takeExpired_spec taken).2.1
    omega
  | ranCancelled present taken =>
    refine frozen.modify (fun same c there _ quiet => ⟨rfl, ?_, rfl⟩)
    subst same
    rw [present, Option.some.injEq] at there
    subst there
    exact (Timer.takeAborted_spec taken).2.1.trans quiet

theorem frozen_run {i armed : Nat} (frozen : Frozen i armed w) (well : WellListed w)
    (run : Reach step always w t) : Frozen i armed t := by
  have both : Frozen i armed t ∧ WellListed t :=
    reach_invariant (fun t => Frozen i armed t ∧ WellListed t) ⟨frozen, well⟩
      (fun s e t inv _ moved => ⟨frozen_step inv.1 inv.2 moved, wellListed_step inv.2 moved⟩) run
  exact both.1

/-- A removed counter with an expiry handler in the queue will be armed again. -/
theorem armed_again {i : Nat} {c : Counter} (present : w.counters[i]? = some c)
    (unlisted : ¬w.Listed i c) (queued : c.timer.expired ≠ 0) : ¬w.NeverRearmed := by
  intro never
  obtain ⟨timer, taken⟩ : ∃ timer, c.timer.takeExpired = some timer :=
    ⟨_, if_neg queued⟩
  have moved : w.step (.runExpired i 0) = some (w.timerExpired i c timer false 0) := by
    simp [step, present, taken]
  have again := never i c present unlisted _ (.tail (.runExpired i 0) .refl trivial moved)
    ({ c with timer := timer }.timerExpired false 0)
    ((getElem?_modify_of_some present).trans (congrArg some (if_pos rfl)))
  simp [Counter.timerExpired, Counter.refreshTimer, Counter.arm] at again

end frozen

/-- A listed counter has a wait that will end without an error; a removed one has none, and
    holds nothing once its handlers are done. -/
def Sound (w : LogCounters) (i : Nat) (c : Counter) : Prop :=
  (w.Listed i c → 0 < c.timer.live) ∧
    (¬w.Listed i c → c.timer.live = 0 ∧ (c.timer.waits = 0 → c.cntValue = 0))

structure Kept (w : LogCounters) : Prop where
  well : WellListed w
  sound : ∀ i c, w.counters[i]? = some c → Sound w i c
  sums : ∀ index3, w.logged index3 + w.held index3 = w.accepted.count index3
  stopped : w.stopped = true → ∀ index3 : String, w.logCounters[index3]? = none

section kept

theorem Kept.conserved (kept : Kept w) : w.Conserved :=
  ⟨kept.sums, fun i c present unlisted => ((kept.sound i c present).2 unlisted).2⟩

theorem Kept.neverRearmed (kept : Kept w) : w.NeverRearmed := by
  intro i c present unlisted t run c' present'
  have quiet := ((kept.sound i c present).2 unlisted).1
  obtain ⟨_, again, _, _, count⟩ :=
    frozen_run ⟨c, present, unlisted, quiet, rfl⟩ kept.well run
  rw [present', Option.some.injEq] at again
  subst again
  exact count

theorem sound_modify (kept : Kept w) {i : Nat} {c : Counter} {change : Counter → Counter}
    (present : w.counters[i]? = some c) (good : Sound w i (change c)) :
    ∀ j c', (w.modifyCounter i change).counters[j]? = some c' → Sound w j c' := by
  intro j c' present'
  obtain ⟨old, held, rfl⟩ := getElem?_modify_some present'
  by_cases same : i = j
  · subst same
    rw [present, Option.some.injEq] at held
    subst held
    rw [if_pos rfl]
    exact good
  · rw [if_neg same]
    exact kept.sound j old held

theorem held_modify_same {change : Counter → Counter}
    (same : ∀ c, (change c).index3 = c.index3 ∧ (change c).cntValue = c.cntValue) (i : Nat)
    (index3 : String) : (w.modifyCounter i change).held index3 = w.held index3 := by
  refine sum_map_modify_same _ (fun c => ?_) w.counters i
  rw [(same c).1, (same c).2]

theorem kept_modify_timer (kept : Kept w) {i : Nat} {c : Counter}
    {change : Counter → Counter} (present : w.counters[i]? = some c)
    (same : ∀ c, (change c).index3 = c.index3 ∧ (change c).cntValue = c.cntValue)
    (good : Sound w i (change c)) : Kept (w.modifyCounter i change) :=
  { well := kept.well.modify i (fun c => (same c).1)
    sound := sound_modify kept present good
    sums := fun index3 => by
      rw [held_modify_same same]
      exact kept.sums index3
    stopped := kept.stopped }

theorem kept_created (kept : Kept w) {index3 : String} (countInterval : BitVec 32)
    (now : BitVec 64) (absent : w.logCounters[index3]? = none) (running : w.stopped = false)
    (well : WellListed (w.insertCounter index3 countInterval now)) :
    Kept (w.insertCounter index3 countInterval now) := by
  refine ⟨well, fun i c present => ?_, fun other => ?_, fun stopped => ?_⟩
  · rcases Nat.lt_or_ge i w.counters.length with old | new
    · rw [insertCounter, List.getElem?_append_left old] at present
      have before := kept.sound i c present
      have same : (w.insertCounter index3 countInterval now).Listed i c ↔ w.Listed i c := by
        simp only [Listed, insertCounter, find_insert]
        split
        · rename_i named
          rw [← named, absent]
          simp only [Option.some.injEq, reduceCtorEq, iff_false]
          omega
        · rfl
      exact ⟨fun listed => before.1 (same.mp listed),
        fun unlisted => before.2 (fun listed => unlisted (same.mpr listed))⟩
    · rw [insertCounter, List.getElem?_append_right new, List.getElem?_singleton] at present
      split at present
      · rename_i last
        cases present
        have here : i = w.counters.length := by omega
        refine ⟨fun _ => ?_, fun unlisted => absurd ?_ unlisted⟩
        · simp [Counter.refreshTimer, Counter.arm]
        · simp [Listed, insertCounter, here]
      · contradiction
  · have before := kept.sums other
    simp only [logged, held, insertCounter, List.map_append, List.sum_append,
      List.count_append] at before ⊢
    by_cases same : index3 = other
    · subst same
      simp only [List.map_cons, refreshTimer_index3, if_true, List.map_nil, List.sum_cons,
        List.sum_nil, List.count_singleton_self]
      have one : ((({ index3 := index3, intervalSecs := countInterval } :
          Counter).refreshTimer now).cntValue).toNat = 1 := rfl
      omega
    · simp only [List.map_cons, refreshTimer_index3, same, if_false, List.map_nil,
        List.sum_cons, List.sum_nil, List.count_singleton, beq_iff_eq]
      omega
  · rw [insertCounter, running] at stopped
    contradiction

theorem kept_counted (kept : Kept w) {index3 : String} {i : Nat} {c : Counter}
    (listed : w.logCounters[index3]? = some i) (present : w.counters[i]? = some c)
    (room : c.cntValue ≠ BitVec.allOnes 32) :
    Kept { w.modifyCounter i (fun c => { c with cntValue := c.cntValue + 1 }) with
      accepted := w.accepted ++ [index3] } := by
  obtain ⟨here, named⟩ := kept.well.listed listed present
  refine ⟨kept.well.modify i (fun _ => rfl), ?_, fun other => ?_, kept.stopped⟩
  · refine sound_modify kept present ⟨fun _ => ?_, fun unlisted => absurd here unlisted⟩
    exact (kept.sound i c present).1 here
  · have before := kept.sums other
    have sum := sum_map_modify
      (fun c : Counter => if c.index3 = other then c.cntValue.toNat else 0)
      (fun c => { c with cntValue := c.cntValue + 1 }) present
    have grown : (c.cntValue + 1).toNat = c.cntValue.toNat + 1 := by
      have := c.cntValue.isLt
      have : c.cntValue.toNat ≠ 2 ^ 32 - 1 := fun full => room (BitVec.eq_of_toNat_eq full)
      rw [BitVec.toNat_add]
      change (c.cntValue.toNat + 1) % 2 ^ 32 = c.cntValue.toNat + 1
      omega
    simp only [logged, held, modifyCounter, List.count_append, List.count_singleton, beq_iff_eq]
      at before ⊢
    by_cases same : index3 = other
    · rw [if_pos (named.trans same), if_pos (named.trans same), grown] at sum
      rw [if_pos same]
      omega
    · have apart : ¬c.index3 = other := fun equal => same (named.symm.trans equal)
      rw [if_neg apart, if_neg apart] at sum
      rw [if_neg same]
      omega

theorem sound_cancel (kept : Kept w) {i : Nat} {c : Counter}
    (present : w.counters[i]? = some c) (listed : w.Listed i c) (quiet : c.timer.expired = 0) :
    c.cancel.timer.live = 0 ∧ c.cancel.timer.waits ≠ 0 := by
  have live := (kept.sound i c present).1 listed
  simp only [Counter.cancel, Timer.cancel_live, Timer.cancel_waits, quiet, true_and]
  simp only [Timer.live, Timer.waits] at live ⊢
  omega

theorem kept_removed (kept : Kept w) {index3 : String} {i : Nat} {c : Counter}
    (listed : w.logCounters[index3]? = some i) (present : w.counters[i]? = some c)
    (quiet : c.timer.expired = 0)
    (well : WellListed { w.modifyCounter i Counter.cancel with
      logCounters := w.logCounters.erase index3 }) :
    Kept { w.modifyCounter i Counter.cancel with
      logCounters := w.logCounters.erase index3 } := by
  obtain ⟨here, named⟩ := kept.well.listed listed present
  refine ⟨well, fun j c' present' => ?_, fun other => ?_, fun stopped => ?_⟩
  · obtain ⟨old, held, rfl⟩ := getElem?_modify_some present'
    by_cases same : i = j
    · subst same
      rw [present, Option.some.injEq] at held
      subst held
      obtain ⟨still, waiting⟩ := sound_cancel kept present here quiet
      rw [if_pos rfl]
      refine ⟨fun listed' => ?_, fun _ => ⟨still, fun none_left => absurd none_left waiting⟩⟩
      simp [Listed, named] at listed'
    · rw [if_neg same]
      have before := kept.sound j old held
      have unchanged : Listed { w with logCounters := w.logCounters.erase index3 } j old ↔
          w.Listed j old := by
        simp only [Listed, find_erase]
        split
        · rename_i equal
          rw [← equal, listed]
          simp only [reduceCtorEq, Option.some.injEq, same]
        · rfl
      exact ⟨fun listed' => before.1 (unchanged.mp listed'),
        fun unlisted => before.2 (fun listed' => unlisted (unchanged.mpr listed'))⟩
  · have sum : (w.modifyCounter i Counter.cancel).held other = w.held other :=
      held_modify_same (fun c => ⟨cancel_index3 c, by rfl⟩) i other
    have before := kept.sums other
    simp only [held, logged, modifyCounter] at sum before ⊢
    omega
  · have none_listed := kept.stopped stopped index3
    rw [listed] at none_listed
    contradiction

theorem held_stopped (other : String) : w.logStopAllCounters.held other = w.held other := by
  have general : ∀ (positions : List Nat) (counters : List Counter),
      ((positions.foldl (fun counters i => counters.modify i Counter.cancel) counters).map
        (fun c => if c.index3 = other then c.cntValue.toNat else 0)).sum =
      (counters.map (fun c => if c.index3 = other then c.cntValue.toNat else 0)).sum := by
    intro positions
    induction positions with
    | nil => exact fun _ => rfl
    | cons i positions ih =>
      intro counters
      rw [List.foldl_cons, ih]
      exact sum_map_modify_same _ (fun c => by rfl) counters i
  exact general w.listedCounters w.counters

theorem kept_stopped (kept : Kept w)
    (quiet : ∀ i ∈ w.listedCounters, ∀ c, w.counters[i]? = some c → c.timer.expired = 0) :
    Kept w.logStopAllCounters := by
  have none_listed : ∀ index3 : String, w.logStopAllCounters.logCounters[index3]? = none := by
    intro index3
    simp [logStopAllCounters]
  refine ⟨fun index3 i listed => ?_, fun i c present => ?_, fun other => ?_,
    fun _ => none_listed⟩
  · rw [none_listed] at listed
    contradiction
  · rw [stopped_counters, Option.map_eq_some_iff] at present
    obtain ⟨old, held, rfl⟩ := present
    refine ⟨fun listed => absurd listed (by simp [Listed, none_listed]), fun _ => ?_⟩
    split
    · rename_i member
      obtain ⟨index3, listed⟩ := mem_listedCounters.mp member
      have here := (kept.well.listed listed held).1
      obtain ⟨still, waiting⟩ := sound_cancel kept held here (quiet i member old held)
      exact ⟨still, fun none_left => absurd none_left waiting⟩
    · rename_i apart
      refine (kept.sound i old held).2 (fun listed => apart ?_)
      exact mem_listedCounters.mpr ⟨_, listed⟩
  · rw [held_stopped]
    exact kept.sums other

theorem kept_handler (kept : Kept w) {i : Nat} {c : Counter} {timer : Timer} {error : Bool}
    {now : BitVec 64} (present : w.counters[i]? = some c)
    (good : Sound w i ({ c with timer := timer }.timerExpired error now)) :
    Kept (w.timerExpired i c timer error now) := by
  refine ⟨kept.well.modify i (fun _ => by simp), sound_modify kept present good,
    fun other => ?_, kept.stopped⟩
  have sum := sum_map_modify
    (fun c : Counter => if c.index3 = other then c.cntValue.toNat else 0)
    (fun c => { c with timer := timer }.timerExpired error now) present
  have before := kept.sums other
  have empty : ({ c with timer := timer }.timerExpired error now).cntValue.toNat = 0 := rfl
  simp only [timerExpired_index3, empty, ite_self, Nat.add_zero] at sum
  simp only [logged, held, LogCounters.timerExpired, modifyCounter, Counter.record,
    List.map_append, List.map_cons, List.map_nil, List.sum_append, List.sum_cons,
    List.sum_nil] at before ⊢
  omega

theorem wrapped_loses (kept : Kept w) {index3 : String} {i : Nat} {c : Counter}
    (listed : w.logCounters[index3]? = some i) (present : w.counters[i]? = some c)
    (full : c.cntValue = BitVec.allOnes 32) :
    ¬Conserved { w.modifyCounter i (fun c => { c with cntValue := c.cntValue + 1 }) with
      accepted := w.accepted ++ [index3] } := by
  intro conserved
  have named := (kept.well.listed listed present).2
  have before := kept.sums index3
  have after := conserved.sums index3
  have sum := sum_map_modify
    (fun c : Counter => if c.index3 = index3 then c.cntValue.toNat else 0)
    (fun c => { c with cntValue := c.cntValue + 1 }) present
  have lost : (c.cntValue + 1).toNat = 0 := by rw [full]; rfl
  have most : c.cntValue.toNat = 2 ^ 32 - 1 := by rw [full]; rfl
  rw [if_pos named, if_pos named, lost, most] at sum
  simp only [logged, held, modifyCounter, List.count_append, List.count_singleton_self]
    at before after
  omega

theorem counterOf_listed {index3 : String} {i : Nat} {c : Counter}
    (listed : w.logCounters[index3]? = some i) (present : w.counters[i]? = some c) :
    w.counterOf index3 = some c := by
  simp [counterOf, listed, present]

theorem right_iff_quiet {e : Event} (good : w.Quiet e → Kept t)
    (bad : ¬w.Quiet e → ¬(t.Conserved ∧ t.NeverRearmed)) :
    (t.Conserved ∧ t.NeverRearmed ↔ w.Quiet e) ∧ (w.Quiet e → Kept t) :=
  exactly_step (fun kept => ⟨kept.conserved, kept.neverRearmed⟩) good bad

theorem increase_step (kept : Kept w) {index3 : String} {countInterval : BitVec 32}
    {now : BitVec 64} (well : WellListed t) (moved : w.increaseCounter index3 countInterval now = t) :
    (t.Conserved ∧ t.NeverRearmed ↔ w.Quiet (.increaseCounter index3 countInterval now)) ∧
      (w.Quiet (.increaseCounter index3 countInterval now) → Kept t) := by
  unfold increaseCounter at moved
  cases listed : w.logCounters[index3]? with
  | none =>
    refine right_iff_quiet (fun _ => ?_)
      (fun loud => absurd (by simp [Quiet, counterOf, listed]) loud)
    simp only [listed] at moved
    split at moved
    · exact moved ▸ kept
    · rename_i running
      subst moved
      exact kept_created kept countInterval now listed (by simpa using running) well
  | some i =>
    obtain ⟨c, present, _⟩ := kept.well index3 i listed
    have found := counterOf_listed listed present
    simp only [listed] at moved
    subst moved
    refine right_iff_quiet (fun quiet => ?_) (fun loud right => ?_)
    · simp only [Quiet, found, Option.all_some, decide_eq_true_eq] at quiet
      exact kept_counted kept listed present quiet
    · simp only [Quiet, found, Option.all_some, decide_eq_true_eq, ne_eq, not_not] at loud
      exact wrapped_loses kept listed present loud right.1

theorem update_step (kept : Kept w) {index3 : String} {newInterval : BitVec 32}
    (well : WellListed t) (moved : w.updateCounterInterval index3 newInterval = t) :
    (t.Conserved ∧ t.NeverRearmed ↔ w.Quiet (.updateCounterInterval index3 newInterval)) ∧
      (w.Quiet (.updateCounterInterval index3 newInterval) → Kept t) := by
  unfold updateCounterInterval at moved
  cases listed : w.logCounters[index3]? with
  | none =>
    simp only [listed] at moved
    exact right_iff_quiet (fun _ => moved ▸ kept)
      (fun loud => absurd (by simp [Quiet, counterOf, listed]) loud)
  | some i =>
    obtain ⟨c, present, named⟩ := kept.well index3 i listed
    have here := (kept.well.listed listed present).1
    have found := counterOf_listed listed present
    simp only [listed] at moved
    by_cases zero : newInterval = 0
    · rw [if_neg (not_not.mpr zero)] at moved
      subst moved
      refine right_iff_quiet (fun quiet => ?_) (fun loud right => ?_)
      · have none_queued := quiet zero
        simp only [found, Option.all_some, decide_eq_true_eq] at none_queued
        exact kept_removed kept listed present none_queued well
      · simp only [Quiet, zero, found, Option.all_some, decide_eq_true_eq,
          true_implies] at loud
        have removed : (w.counters.modify i Counter.cancel)[i]? = some c.cancel :=
          (getElem?_modify_of_some present).trans (congrArg some (if_pos rfl))
        exact armed_again (c := c.cancel) removed (by simp [Listed, named]) loud right.2
    · rw [if_pos zero] at moved
      subst moved
      refine right_iff_quiet (fun _ => ?_)
        (fun loud => absurd (fun equal => absurd equal zero) loud)
      refine kept_modify_timer kept present (fun _ => ⟨rfl, rfl⟩)
        ⟨fun _ => ?_, fun unlisted => absurd here unlisted⟩
      simp [Counter.changeInterval, Counter.arm]

theorem stop_step (kept : Kept w) :
    (w.logStopAllCounters.Conserved ∧ w.logStopAllCounters.NeverRearmed ↔
      w.Quiet .stopAllCounters) ∧ (w.Quiet .stopAllCounters → Kept w.logStopAllCounters) := by
  refine right_iff_quiet (fun quiet => ?_) (fun loud right => ?_)
  · refine kept_stopped kept (fun i member c present => ?_)
    have queued := List.all_eq_true.mp quiet i member
    simpa [present] using queued
  · obtain ⟨i, member, queued⟩ : ∃ i ∈ w.listedCounters,
        ¬w.counters[i]?.all (fun c => c.timer.expired = 0) = true := by
      simpa [Quiet] using loud
    cases present : w.counters[i]? with
    | none => simp [present] at queued
    | some c =>
      simp only [present, Option.all_some, decide_eq_true_eq] at queued
      refine armed_again (i := i) (c := c.cancel) ?_ ?_ queued right.2
      · rw [stopped_counters, present, Option.map_some, if_pos member]
      · simp [Listed, logStopAllCounters]

theorem counters_step {e : Event} (kept : Kept w) (moved : w.step e = some t) :
    (t.Conserved ∧ t.NeverRearmed ↔ w.Quiet e) ∧ (w.Quiet e → Kept t) := by
  have well := wellListed_step kept.well moved
  cases e with
  | increaseCounter index3 countInterval now =>
    exact increase_step kept well (Option.some.inj moved)
  | updateCounterInterval index3 newInterval =>
    exact update_step kept well (Option.some.inj moved)
  | stopAllCounters =>
    cases moved
    exact stop_step kept
  | expire i =>
    simp only [step, Option.bind_eq_some_iff, Option.map_eq_some_iff] at moved
    obtain ⟨c, present, timer, fired, rfl⟩ := moved
    refine right_iff_quiet (fun _ => ?_) (fun loud => absurd trivial loud)
    obtain ⟨waits, live, _⟩ := Timer.expire_spec fired
    have before := kept.sound i c present
    exact kept_modify_timer kept present (fun _ => ⟨rfl, rfl⟩)
      ⟨fun listed => live ▸ before.1 listed,
        fun unlisted => ⟨live.trans (before.2 unlisted).1,
          fun zero => (before.2 unlisted).2 (waits ▸ zero)⟩⟩
  | runExpired i now =>
    simp only [step, Option.bind_eq_some_iff, Option.map_eq_some_iff] at moved
    obtain ⟨c, present, timer, taken, rfl⟩ := moved
    refine right_iff_quiet (fun _ => ?_) (fun loud => absurd trivial loud)
    refine kept_handler kept present ⟨fun _ => ?_, fun unlisted => ?_⟩
    · simp [Counter.timerExpired, Counter.refreshTimer, Counter.arm]
    · have live := ((kept.sound i c present).2 unlisted).1
      have := (Timer.takeExpired_spec taken).2.1
      omega
  | runCancelled i =>
    simp only [step, Option.bind_eq_some_iff, Option.map_eq_some_iff] at moved
    obtain ⟨c, present, timer, taken, rfl⟩ := moved
    refine right_iff_quiet (fun _ => ?_) (fun loud => absurd trivial loud)
    have live := (Timer.takeAborted_spec taken).2.1
    have before := kept.sound i c present
    exact kept_handler kept present
      ⟨fun listed => live ▸ before.1 listed,
        fun unlisted => ⟨live.trans (before.2 unlisted).1, fun _ => rfl⟩⟩

theorem kept_initial : Kept {} := by
  exact ⟨fun _ _ listed => by simp at listed, fun _ _ present => by simp at present,
    fun _ => rfl, fun stopped => by simp at stopped⟩

end kept

section draining

theorem unlisted_of_stopped (kept : Kept w) (stopped : w.stopped = true) (i : Nat)
    (c : Counter) : ¬w.Listed i c := by
  rw [Listed, kept.stopped stopped]
  simp

theorem listedCounters_of_stopped (kept : Kept w) (stopped : w.stopped = true) :
    w.listedCounters = [] := by
  refine List.eq_nil_iff_forall_not_mem.mpr (fun i member => ?_)
  obtain ⟨index3, listed⟩ := mem_listedCounters.mp member
  rw [kept.stopped stopped] at listed
  contradiction

theorem quiet_of_stopped (kept : Kept w) (stopped : w.stopped = true) (e : Event) :
    w.Quiet e := by
  cases e with
  | increaseCounter index3 countInterval now =>
    simp [Quiet, counterOf, kept.stopped stopped index3]
  | updateCounterInterval index3 newInterval =>
    intro _
    simp [counterOf, kept.stopped stopped index3]
  | stopAllCounters => simp [Quiet, listedCounters_of_stopped kept stopped]
  | expire i => trivial
  | runExpired i now => trivial
  | runCancelled i => trivial

theorem drain_step {e : Event} (kept : Kept w) (stopped : w.stopped = true)
    (moved : w.step e = some t) :
    t.stopped = true ∧ (if isHandler e then 1 else 0) + t.remaining = w.remaining := by
  have silent (i : Nat) (c : Counter) (present : w.counters[i]? = some c) :
      c.timer.live = 0 :=
    ((kept.sound i c present).2 (unlisted_of_stopped kept stopped i c)).1
  cases e with
  | increaseCounter index3 countInterval now =>
    cases moved
    simp [increaseCounter, kept.stopped stopped index3, stopped, isHandler]
  | updateCounterInterval index3 newInterval =>
    cases moved
    simp [updateCounterInterval, kept.stopped stopped index3, stopped, isHandler]
  | stopAllCounters =>
    cases moved
    simp [logStopAllCounters, remaining, listedCounters_of_stopped kept stopped, isHandler]
  | expire i =>
    simp only [step, Option.bind_eq_some_iff, Option.map_eq_some_iff] at moved
    obtain ⟨c, present, timer, fired, rfl⟩ := moved
    have := silent i c present
    have := (Timer.expire_spec fired).2.2.2
    simp only [Timer.live] at *
    omega
  | runExpired i now =>
    simp only [step, Option.bind_eq_some_iff, Option.map_eq_some_iff] at moved
    obtain ⟨c, present, timer, taken, rfl⟩ := moved
    have := silent i c present
    have := (Timer.takeExpired_spec taken).2.1
    omega
  | runCancelled i =>
    simp only [step, Option.bind_eq_some_iff, Option.map_eq_some_iff] at moved
    obtain ⟨c, present, timer, taken, rfl⟩ := moved
    have sum := sum_map_modify (fun c : Counter => c.timer.waits)
      (fun c => { c with timer := timer }.timerExpired true 0) present
    have waits := (Timer.takeAborted_spec taken).1
    have after : ({ c with timer := timer }.timerExpired true 0).timer.waits = timer.waits := rfl
    refine ⟨stopped, ?_⟩
    simp only [remaining, LogCounters.timerExpired, modifyCounter, isHandler, if_true]
    omega

theorem handler_enabled (kept : Kept w) (stopped : w.stopped = true) :
    w.remaining = 0 ∨ ∃ i, (w.step (.runCancelled i)).isSome := by
  by_cases waiting : ∃ c ∈ w.counters, c.timer.waits ≠ 0
  · obtain ⟨c, member, waits⟩ := waiting
    obtain ⟨i, present⟩ := List.mem_iff_getElem?.mp member
    have live := ((kept.sound i c present).2 (unlisted_of_stopped kept stopped i c)).1
    have aborted : c.timer.aborted ≠ 0 := by
      simp only [Timer.live, Timer.waits] at live waits
      omega
    right
    exact ⟨i, by simp [step, present, Timer.takeAborted, aborted]⟩
  · left
    refine List.sum_eq_zero_iff_forall_eq_nat.mpr (fun n member => ?_)
    obtain ⟨c, counter, rfl⟩ := List.mem_map.mp member
    exact not_not.mp (fun waits => waiting ⟨c, counter, waits⟩)

theorem drains_of_stopped (kept : Kept w) (stopped : w.stopped = true) : w.Drains := by
  intro es
  induction es generalizing w with
  | nil =>
    intro t ran
    cases ran
    exact ⟨by simp, handler_enabled kept stopped⟩
  | cons e es ih =>
    intro t ran
    rw [exec_cons, Option.bind_eq_some_iff] at ran
    obtain ⟨u, moved, rest⟩ := ran
    have still := (counters_step kept moved).2 (quiet_of_stopped kept stopped e)
    obtain ⟨stays, once⟩ := drain_step kept stopped moved
    obtain ⟨count, done⟩ := ih still stays t rest
    refine ⟨?_, done⟩
    rw [List.countP_cons]
    omega

end draining

/-- No call is lost and no removed counter is armed again as long as counters are cancelled
    with no expiry handler queued and do not wrap; the first other step breaks one of them.
    After LogStopAllCounters the handlers that remain run out. -/
theorem counters_conserve_and_stop_while_quiet (run : Reach step Quiet {} w) :
    w.Conserved ∧ w.NeverRearmed ∧ (w.stopped = true → w.Drains) ∧
      ∀ e t, w.step e = some t → (t.Conserved ∧ t.NeverRearmed ↔ w.Quiet e) := by
  obtain ⟨kept, right, next⟩ := reach_exactly Kept (fun w => w.Conserved ∧ w.NeverRearmed)
    kept_initial (fun _ kept => ⟨kept.conserved, kept.neverRearmed⟩)
    (fun _ _ _ kept moved => counters_step kept moved) run
  exact ⟨right.1, right.2, drains_of_stopped kept, next⟩

theorem counters_conserve_over_stop : ∃ w, Reach step Quiet {} w ∧
    (w.stopped = true ∧ w.records.map Record.value = [2, 1, 1] ∧ w.remaining = 0) ∧
    w.Conserved ∧ w.NeverRearmed ∧ (w.stopped = true → w.Drains) ∧
      ∀ e t, w.step e = some t → (t.Conserved ∧ t.NeverRearmed ↔ w.Quiet e) := by
  obtain ⟨w, run, facts⟩ := execWithin_any step Quiet {}
    [.increaseCounter "a" 60 0, .increaseCounter "a" 60 0, .expire 0, .runExpired 0 1,
      .increaseCounter "a" 60 0, .updateCounterInterval "a" 30, .runCancelled 0,
      .increaseCounter "a" 30 0, .stopAllCounters, .runCancelled 0]
    (fun w => decide (w.stopped = true ∧ w.records.map Record.value = [2, 1, 1] ∧
      w.remaining = 0)) (by decide +kernel)
  exact ⟨w, run, of_decide_eq_true facts, counters_conserve_and_stop_while_quiet run⟩

/-- The timer has expired, but its handler has not run, when all counters are stopped. -/
theorem armed_after_stop : ¬∀ w, Reach step always {} w → w.Conserved ∧ w.NeverRearmed := by
  intro all
  obtain ⟨w, run, facts⟩ := execWithin_any step (fun _ _ => True) {}
    [.increaseCounter "a" 60 0, .expire 0, .stopAllCounters]
    (fun w => w.counters[0]?.any (fun c => decide (¬w.Listed 0 c ∧ c.timer.expired ≠ 0)))
    (by decide +kernel)
  obtain ⟨c, present, test⟩ := (Option.any_eq_true _ _).mp facts
  obtain ⟨unlisted, queued⟩ := of_decide_eq_true test
  exact armed_again present unlisted queued (all w run).2

end LogCounters

end LaluneServer.Log
