import LaluneServer.AutoMatch.Steps

/- The players who wait: the table by map and the table by session. -/
namespace LaluneServer.AutoMatch

open Std (TreeMap)
open Transition InverseIndex AutoMatchServer World

def World.available (w : World) (region : Int) : ServerList :=
  connectedServers w.isConnected (w.ams.serverList region)

/-- A session waits for one map at most, is not matched with itself and does not
    leave while it waits. -/
def Orderly (w : World) : Event → Prop
  | .matchRequest session request _ _ =>
    (w.ams.waitingUsers[matchKey request]? = none → w.ams.session2matchkey[session]? = none) ∧
      ∀ opponent ∈ w.ams.waitingUsers[matchKey request]?, opponent.2 ≠ request.userId →
        w.available 0 ≠ [] → opponent.1 ≠ session
  | .userDisconnected session => w.ams.session2matchkey[session]? = none
  | _ => True

instance (w : World) : ∀ e, Decidable (Orderly w e)
  | .matchRequest .. => inferInstanceAs (Decidable (_ ∧ ∀ _ ∈ _, _))
  | .userDisconnected session =>
    inferInstanceAs (Decidable (w.ams.session2matchkey[session]? = none))
  | .createGameResponse .. => inferInstanceAs (Decidable True)
  | .serverRegister .. => inferInstanceAs (Decidable True)
  | .serverHeartBeat .. => inferInstanceAs (Decidable True)
  | .serverDisconnected _ => inferInstanceAs (Decidable True)
  | .serverTimeout .. => inferInstanceAs (Decidable True)

structure Consistent (w : World) : Prop where
  inverse : Inverse Prod.fst w.ams.waitingUsers w.ams.session2matchkey
  forgotten : ∀ s ∈ w.cancelled, w.ams.session2matchkey[s]? = none
  two_sessions : ∀ entry ∈ w.created, entry.2.sessions.1 ≠ entry.2.sessions.2

structure Agreement (w : World) : Prop where
  inverse : ∀ (s : Session) (k : MatchKey), w.ams.session2matchkey[s]? = some k ↔
    ∃ user, w.ams.waitingUsers[k]? = some (s, user)
  one_slot : ∀ (s : Session) (k l : MatchKey) (user other : String),
    w.ams.waitingUsers[k]? = some (s, user) → w.ams.waitingUsers[l]? = some (s, other) → k = l
  forgotten : ∀ s ∈ w.cancelled, w.ams.session2matchkey[s]? = none ∧
    ∀ (k : MatchKey) (user : String), w.ams.waitingUsers[k]? ≠ some (s, user)
  two_sessions : ∀ entry ∈ w.created, entry.2.sessions.1 ≠ entry.2.sessions.2

theorem inverse_iff (index : TreeMap MatchKey WaitingUser) (back : TreeMap Session MatchKey) :
    Inverse Prod.fst index back ↔
      ∀ (s : Session) (k : MatchKey), back[s]? = some k ↔ ∃ user, index[k]? = some (s, user) := by
  have owned (s : Session) (k : MatchKey) :
      (∃ v, index[k]? = some v ∧ v.1 = s) ↔ ∃ user, index[k]? = some (s, user) := by
    constructor
    · rintro ⟨⟨_, user⟩, held, rfl⟩
      exact ⟨user, held⟩
    · rintro ⟨user, held⟩
      exact ⟨_, held, rfl⟩
  simp only [Inverse, owned]

theorem agreement_iff_consistent (w : World) : Agreement w ↔ Consistent w := by
  constructor
  · intro agreed
    exact ⟨(inverse_iff _ _).mpr agreed.inverse, fun s left => (agreed.forgotten s left).1,
      agreed.two_sessions⟩
  · intro consistent
    refine ⟨(inverse_iff _ _).mp consistent.inverse, ?_, ?_, consistent.two_sessions⟩
    · intro s k l user other first second
      exact owner_once consistent.inverse first second rfl
    · intro s left
      have unused := consistent.forgotten s left
      exact ⟨unused, fun k user held => owns_nothing consistent.inverse unused held rfl⟩

section steps
variable {w t : World} {order : PrioritySort}

theorem consistent_of_same_queue (consistent : Consistent w) (queue : SameQueue w.ams t.ams)
    (same_cancelled : t.cancelled = w.cancelled) (same_created : t.created = w.created) :
    Consistent t := by
  obtain ⟨waiting, back⟩ := queue
  refine ⟨?_, ?_, ?_⟩
  · rw [waiting, back]
    exact consistent.inverse
  · rw [same_cancelled, back]
    exact consistent.forgotten
  · rw [same_created]
    exact consistent.two_sessions

theorem waits_consistent_iff (consistent : Consistent w) {key : MatchKey} {user : WaitingUser}
    (free : w.ams.waitingUsers[key]? = none) (present : user.1 ∉ w.cancelled) :
    Consistent (w.record { ams := w.ams.startWaiting key user }) ↔
      w.ams.session2matchkey[user.1]? = none := by
  constructor
  · intro kept
    exact (inverse_insertIfNew_iff consistent.inverse free).mp kept.inverse
  · intro unused
    refine ⟨(inverse_insertIfNew_iff consistent.inverse free).mpr unused, ?_, ?_⟩
    · intro s left
      have apart : user.1 ≠ s := by
        rintro rfl
        exact present left
      simp only [record, startWaiting, find_insertIfNew, apart, false_and, if_false]
      exact consistent.forgotten s left
    · simpa only [record, List.append_nil] using consistent.two_sessions

theorem pairs_consistent_iff (consistent : Consistent w) {key : MatchKey} {outcome : Outcome}
    {opponent : WaitingUser} (held : w.ams.waitingUsers[key]? = some opponent)
    (queue : SameQueue w.ams outcome.ams) :
    Consistent (w.record { outcome with ams := outcome.ams.leaveQueue key opponent }) ↔
      ∀ entry ∈ outcome.created, entry.2.sessions.1 ≠ entry.2.sessions.2 := by
  obtain ⟨waiting, back⟩ := queue
  constructor
  · intro kept entry new
    exact kept.two_sessions entry (List.mem_append_right _ new)
  · intro apart
    refine ⟨?_, ?_, ?_⟩
    · simp only [record, leaveQueue, waiting, back]
      exact inverse_erase consistent.inverse held
    · intro s left
      simp only [record, leaveQueue, back, find_erase]
      split
      · rfl
      · exact consistent.forgotten s left
    · intro entry member
      rcases List.mem_append.mp member with old | new
      · exact consistent.two_sessions entry old
      · exact apart entry new

theorem pair_two_sessions_iff {gameId : String} {rolls : Rolls × Rolls}
    {opponent user : WaitingUser} :
    (∀ entry ∈ (w.ams.pairUsers w.isConnected gameId rolls 0 opponent user).created,
        entry.2.sessions.1 ≠ entry.2.sessions.2) ↔
      (opponent.2 ≠ user.2 → w.available 0 ≠ [] → opponent.1 ≠ user.1) := by
  rw [pairUsers_created]
  split
  · rename_i same
    simp [same]
  · rename_i differ
    simp only [List.forall_mem_map, newGame]
    constructor
    · intro all _ offered
      obtain ⟨info, member⟩ := List.exists_mem_of_ne_nil _ offered
      exact all info member
    · intro apart info member
      exact apart differ (List.ne_nil_of_mem member)

theorem cancel_consistent_iff (consistent : Consistent w) {session : Session} :
    Consistent
        { w with
          ams := w.ams.matchCancel session
          disconnected := session :: w.disconnected
          cancelled := session :: w.cancelled } ↔
      w.ams.session2matchkey[session]? = none := by
  constructor
  · intro kept
    have unused := kept.forgotten session List.mem_cons_self
    rwa [matchCancel_session2matchkey] at unused
  · intro unused
    rw [matchCancel_of_idle unused]
    refine ⟨consistent.inverse, ?_, consistent.two_sessions⟩
    intro s left
    rcases List.mem_cons.mp left with rfl | earlier
    · exact unused
    · exact consistent.forgotten s earlier

theorem consistent_step_iff (consistent : Consistent w) {e : Event}
    (moved : step order w e = some t) : Consistent t ↔ Orderly w e := by
  have framed (kept : Consistent t) (fine : Orderly w e) : Consistent t ↔ Orderly w e :=
    ⟨fun _ => fine, fun _ => kept⟩
  cases e with
  | matchRequest session request gameId rolls =>
    simp only [step, Option.ite_none_right_eq_some, Option.some.injEq] at moved
    obtain ⟨present, rfl⟩ := moved
    cases waiting : w.ams.waitingUsers[matchKey request]? with
    | none =>
      rw [matchRequest_waits waiting, waits_consistent_iff consistent waiting present]
      simp [Orderly, waiting]
    | some opponent =>
      rw [matchRequest_pairs waiting, pairs_consistent_iff consistent waiting pairUsers_frame,
        pair_two_sessions_iff]
      simp [Orderly, waiting]
  | userDisconnected session =>
    simp only [step, Option.ite_none_right_eq_some, Option.some.injEq] at moved
    obtain ⟨_, rfl⟩ := moved
    exact cancel_consistent_iff consistent
  | createGameResponse server response =>
    simp only [step, Option.ite_none_right_eq_some, Option.some.injEq] at moved
    obtain ⟨_, rfl⟩ := moved
    obtain ⟨queue, nothing⟩ := createGameResponseGot_frame w.ams response
    refine framed (consistent_of_same_queue consistent queue rfl ?_) trivial
    simp [record, nothing]
  | serverRegister session reg =>
    cases moved
    exact framed (consistent_of_same_queue consistent ⟨rfl, rfl⟩ rfl (List.append_nil _)) trivial
  | serverHeartBeat session beat =>
    cases moved
    exact framed (consistent_of_same_queue consistent (serverHeartBeat_frame beat).1 rfl rfl)
      trivial
  | serverDisconnected session =>
    cases moved
    exact framed (consistent_of_same_queue consistent ⟨rfl, rfl⟩ rfl rfl) trivial
  | serverTimeout region id =>
    cases moved
    exact framed (consistent_of_same_queue consistent (serverTimeout_frame id).1 rfl rfl) trivial

theorem orderly_runs_consistent (run : Reach (step order) Orderly {} w) : Consistent w := by
  refine reach_invariant Consistent ?_ ?_ run
  · exact ⟨inverse_empty, by simp, by simp⟩
  · intro s e u consistent fine moved
    exact (consistent_step_iff consistent moved).mpr fine

end steps

/-- Orderly runs keep the tables of the matchmaker in agreement, and the first
    disorderly step of a run ends it. -/
theorem tables_agree_while_orderly (order : PrioritySort) {w : World}
    (run : Reach (step order) Orderly {} w) :
    Agreement w ∧ ∀ e t, step order w e = some t → (Agreement t ↔ Orderly w e) := by
  have consistent := orderly_runs_consistent run
  refine ⟨(agreement_iff_consistent w).mpr consistent, ?_⟩
  intro e t moved
  rw [agreement_iff_consistent]
  exact consistent_step_iff consistent moved

section examples

def rolls : Rolls × Rolls := ((1, 2, 3), (0, 3, 3))

def playedMatch : List Event :=
  [.serverRegister 9 ⟨"10.0.0.1", 6677, 0, 1⟩, .matchRequest 1 ⟨"desert", "alice"⟩ "g1" rolls,
    .matchRequest 2 ⟨"desert", "bob"⟩ "g1" rolls, .createGameResponse ⟨"10.0.0.1", 6677⟩ ⟨"g1", 0⟩,
    .userDisconnected 1, .userDisconnected 2]

theorem tables_agree_after_played_match : ∃ w,
    Reach (step insertionOrder) Orderly {} w ∧ w.cancelled = [2, 1] ∧ w.created.length = 1 ∧
      Agreement w := by
  obtain ⟨w, run, facts⟩ := execWithin_any (step insertionOrder) Orderly {} playedMatch
    (fun w => decide (w.cancelled = [2, 1] ∧ w.created.length = 1)) (by decide +kernel)
  obtain ⟨cancelled, created⟩ := of_decide_eq_true facts
  exact ⟨w, run, cancelled, created, (tables_agree_while_orderly insertionOrder run).1⟩

def abandonedPlace : List Event :=
  [.matchRequest 1 ⟨"desert", "alice"⟩ "g1" rolls, .matchRequest 1 ⟨"ice", "alice"⟩ "g2" rolls,
    .userDisconnected 1]

theorem ghost_waits_for_second_map : ¬ ∀ order w,
    Reach (step order) always {} w → Agreement w := by
  intro all
  obtain ⟨w, run, facts⟩ := execWithin_any (step insertionOrder) (fun _ _ => True) {} abandonedPlace
    (fun w => decide (1 ∈ w.cancelled ∧
      w.ams.waitingUsers[((0, "ice") : MatchKey)]? = some (1, "alice"))) (by decide +kernel)
  obtain ⟨left, waiting⟩ := of_decide_eq_true facts
  exact ((all insertionOrder w run).forgotten 1 left).2 _ _ waiting

end examples

end LaluneServer.AutoMatch
