import LaluneServer.Match.MatchServer

/- When the groups of the match server are right: the two queues stay aligned as long as
   requests and responses alternate in an orderly way. -/
namespace LaluneServer.Match

open NetLib ServerCommon Transition

theorem popUsers_spec (n : Nat) (queue : List Session) :
    popUsers n queue =
      if n ≤ queue.length then some (queue.take n, queue.drop n) else none := by
  induction n generalizing queue with
  | zero => simp [popUsers]
  | succ n ih =>
    cases queue with
    | nil => simp [popUsers]
    | cons first queue =>
      rw [popUsers, ih]
      by_cases enough : n ≤ queue.length
      · simp [enough]
      · simp [enough]

/-- The queues hold what has arrived and was requested since the last response; at most
    one game is outstanding. -/
structure Aligned (w : World) : Prop where
  emptied : w.emptied = false
  arrived : 2 * w.answers.length ≤ w.arrivals.length
  waiting : w.server.user = w.arrivals.drop (2 * w.answers.length)
  requested : w.answers.length ≤ w.sent.length
  queued : w.server.gameId = (w.sent.drop w.answers.length).map GameRequest.gameId
  requests : w.sent.map (fun request => request.arrival / 2) = List.range w.sent.length
  shape : (w.server.gameId.length = 0 ∧ w.server.user.length ≤ 1) ∨
    (w.server.gameId.length = 1 ∧ 1 ≤ w.server.user.length ∧ w.server.user.length ≤ 3)
  answers : ∀ j release, w.answers[j]? = some release →
    release.users.length = 2 ∧ release.users = (w.arrivals.drop (2 * j)).take 2 ∧
      (w.sent[j]?).map GameRequest.gameId = some release.gameId

section
variable {types : MessageTypes} {w t : World} {session : Session} {uuid : String}

theorem Aligned.users_length (inv : Aligned w) :
    w.arrivals.length = 2 * w.answers.length + w.server.user.length := by
  have := inv.arrived
  rw [inv.waiting, List.length_drop]
  omega

theorem Aligned.games_length (inv : Aligned w) :
    w.sent.length = w.answers.length + w.server.gameId.length := by
  have := inv.requested
  rw [inv.queued, List.length_map, List.length_drop]
  omega

theorem Aligned.grouped (inv : Aligned w) : Grouped 2 w := by
  refine ⟨inv.emptied, inv.requests, ?_, inv.answers⟩
  have users := inv.users_length
  have games := inv.games_length
  rcases inv.shape with ⟨none_queued, few⟩ | ⟨one_queued, _, few⟩
  · omega
  · omega

theorem Aligned.answers_append (inv : Aligned w) (arrivals : List Session)
    (sent : List GameRequest) : ∀ j release, w.answers[j]? = some release →
    release.users.length = 2 ∧
      release.users = ((w.arrivals ++ arrivals).drop (2 * j)).take 2 ∧
      ((w.sent ++ sent)[j]?).map GameRequest.gameId = some release.gameId := by
  intro j release present
  obtain ⟨two, users, game⟩ := inv.answers j release present
  have before : j < w.answers.length := (List.getElem?_eq_some_iff.mp present).1
  have arrived := inv.arrived
  have requested := inv.requested
  refine ⟨two, ?_, ?_⟩
  · rw [List.drop_append_of_le_length (by omega), List.take_append_of_le_length, ← users]
    rw [List.length_drop]
    omega
  · rw [List.getElem?_append_left (by omega)]
    exact game

theorem matchRequest_first (empty : w.server.user = [])
    (moved : w.matchRequest types session uuid = some t) :
    t = { w with
      server := { user := [session], gameId := w.server.gameId ++ [uuid] }
      arrivals := w.arrivals ++ [session]
      sent := w.sent ++ [⟨types.syncBattleCreateGame, uuid, w.arrivals.length⟩] } := by
  simp only [World.matchRequest, MatchServer.matchRequest, empty, List.nil_append,
    List.length_singleton, userPlayerNum, if_true, Option.ite_none_right_eq_some,
    Option.some.injEq] at moved
  exact moved.2.symm

theorem matchRequest_later (some_wait : w.server.user ≠ [])
    (moved : w.matchRequest types session uuid = some t) :
    t = { w with
      server := { w.server with user := w.server.user ++ [session] }
      arrivals := w.arrivals ++ [session] } := by
  have more : (w.server.user ++ [session]).length ≠ userPlayerNum := by
    simpa [userPlayerNum] using some_wait
  simp only [World.matchRequest, MatchServer.matchRequest, if_neg more,
    Option.some.injEq] at moved
  exact moved.symm

theorem createGameResponse_short (few : w.server.user.length < 2) :
    (w.createGameResponse types).emptied = true := by
  unfold World.createGameResponse MatchServer.createGameResponse
  cases w.server.gameId with
  | nil => rfl
  | cons gameIdOne gameId =>
    have short : ¬combatPlayerNum ≤ w.server.user.length := Nat.not_le.mpr few
    simp [popUsers_spec, short]

theorem createGameResponse_enough {gameIdOne : String} {gameId : List String}
    (queued : w.server.gameId = gameIdOne :: gameId) (enough : 2 ≤ w.server.user.length) :
    w.createGameResponse types = { w with
      server := { user := w.server.user.drop 2, gameId := gameId }
      answers := w.answers ++
        [⟨types.automatchMatchRequest, gameIdOne, w.server.user.take 2⟩] } := by
  have popped : popUsers combatPlayerNum w.server.user =
      some (w.server.user.take 2, w.server.user.drop 2) := by
    rw [popUsers_spec]
    exact if_pos enough
  simp [World.createGameResponse, MatchServer.createGameResponse, queued, popped]

theorem aligned_first (inv : Aligned w) (empty : w.server.user = [])
    (moved : w.matchRequest types session uuid = some t) : Aligned t := by
  have users := inv.users_length
  have games := inv.games_length
  have arrived := inv.arrived
  have requested := inv.requested
  have none_queued : w.server.gameId = [] := by
    rcases inv.shape with ⟨none_queued, _⟩ | ⟨_, some_wait, _⟩
    · exact List.length_eq_zero_iff.mp none_queued
    · simp [empty] at some_wait
  simp only [empty, none_queued, List.length_nil, Nat.add_zero] at users games
  have group : w.arrivals.length / 2 = w.sent.length := by omega
  rw [matchRequest_first empty moved]
  refine ⟨inv.emptied, ?_, ?_, ?_, ?_, ?_, ?_, inv.answers_append _ _⟩
  · simp only [List.length_append, List.length_singleton]
    omega
  · rw [List.drop_append_of_le_length arrived, ← inv.waiting, empty, List.nil_append]
  · simp only [List.length_append, List.length_singleton]
    omega
  · rw [List.drop_append_of_le_length requested, List.map_append, ← inv.queued]
    rfl
  · rw [List.map_append, inv.requests, List.length_append, List.length_singleton,
      List.range_succ]
    simp [group]
  · simp [none_queued]

theorem aligned_later (inv : Aligned w) (some_wait : w.server.user ≠ [])
    (few : w.server.user.length ≤ 2) (queued : w.server.gameId.length = 1)
    (moved : w.matchRequest types session uuid = some t) : Aligned t := by
  have answers := inv.answers_append [session] []
  simp only [List.append_nil] at answers
  rw [matchRequest_later some_wait moved]
  refine ⟨inv.emptied, ?_, ?_, inv.requested, inv.queued, inv.requests, ?_, answers⟩
  · have := inv.arrived
    simp only [List.length_append, List.length_singleton]
    omega
  · rw [List.drop_append_of_le_length inv.arrived, ← inv.waiting]
  · have := List.length_pos_of_ne_nil some_wait
    right
    simp only [List.length_append, List.length_singleton]
    omega

theorem aligned_released (types : MessageTypes) (inv : Aligned w) (enough : 2 ≤ w.server.user.length) :
    Aligned (w.createGameResponse types) := by
  have users := inv.users_length
  have games := inv.games_length
  obtain ⟨one_queued, few⟩ : w.server.gameId.length = 1 ∧ w.server.user.length ≤ 3 := by
    rcases inv.shape with ⟨_, few⟩ | ⟨one_queued, _, few⟩
    · omega
    · exact ⟨one_queued, few⟩
  obtain ⟨gameIdOne, queued⟩ := List.length_eq_one_iff.mp one_queued
  rw [createGameResponse_enough queued enough]
  refine ⟨inv.emptied, ?_, ?_, ?_, ?_, inv.requests, ?_, ?_⟩
  · simp only [List.length_append, List.length_singleton]
    omega
  · simp only [List.length_append, List.length_singleton, Nat.mul_add]
    rw [← List.drop_drop, ← inv.waiting]
  · simp only [List.length_append, List.length_singleton]
    omega
  · have all_answered : (w.sent.drop (w.answers.length + 1)) = [] := by
      rw [List.drop_eq_nil_iff]
      omega
    simp [all_answered]
  · left
    simp only [List.length_nil, List.length_drop, true_and]
    omega
  · intro j release present
    rcases Nat.lt_trichotomy j w.answers.length with old | rfl | beyond
    · rw [List.getElem?_append_left old] at present
      exact inv.answers j release present
    · rw [List.getElem?_concat_length, Option.some.injEq] at present
      subst present
      have first := congrArg List.head? inv.queued
      rw [queued, List.head?_map, List.head?_drop] at first
      exact ⟨by simp [enough], by rw [← inv.waiting], first.symm⟩
    · rw [List.getElem?_eq_none (by simp; omega)] at present
      contradiction

theorem request_iff_orderly (inv : Aligned w)
    (moved : w.matchRequest types session uuid = some t) :
    (Grouped 2 t ↔ (w.server.user.length % 2 = 1 →
      w.server.user.length = 1 ∧ w.server.gameId ≠ [])) ∧ (Grouped 2 t → Aligned t) := by
  have users := inv.users_length
  have games := inv.games_length
  by_cases empty : w.server.user = []
  · have aligned := aligned_first inv empty moved
    exact ⟨⟨fun _ => by simp [empty], fun _ => aligned.grouped⟩, fun _ => aligned⟩
  · by_cases room : w.server.user.length ≤ 2 ∧ w.server.gameId.length = 1
    · have aligned := aligned_later inv empty room.1 room.2 moved
      have one : w.server.gameId ≠ [] := List.ne_nil_of_length_pos (by omega)
      exact ⟨⟨fun _ odd => ⟨by omega, one⟩, fun _ => aligned.grouped⟩, fun _ => aligned⟩
    · -- the user completes a group that has no request
      have some_wait := List.length_pos_of_ne_nil empty
      have left_over : ¬Grouped 2 t := by
        intro grouped
        have complete := grouped.complete
        rw [matchRequest_later empty moved] at complete
        simp only [List.length_append, List.length_singleton] at complete
        rcases inv.shape with ⟨none_queued, few⟩ | ⟨one_queued, _, few⟩
        · omega
        · omega
      refine ⟨⟨fun grouped => absurd grouped left_over, fun orderly => ?_⟩,
        fun grouped => absurd grouped left_over⟩
      rcases inv.shape with ⟨none_queued, few⟩ | ⟨one_queued, _, few⟩
      · have queued := (orderly (by omega)).2
        exact absurd (List.length_eq_zero_iff.mp none_queued) queued
      · have := (orderly (by omega)).1
        omega

theorem response_iff_orderly (types : MessageTypes) (inv : Aligned w) :
    (Grouped 2 (w.createGameResponse types) ↔ 2 ≤ w.server.user.length) ∧
      (Grouped 2 (w.createGameResponse types) → Aligned (w.createGameResponse types)) := by
  by_cases enough : 2 ≤ w.server.user.length
  · have aligned := aligned_released types inv enough
    exact ⟨⟨fun _ => enough, fun _ => aligned.grouped⟩, fun _ => aligned⟩
  · have short : ¬Grouped 2 (w.createGameResponse types) := by
      intro grouped
      have kept := grouped.emptied
      rw [createGameResponse_short (Nat.not_le.mp enough)] at kept
      contradiction
    exact ⟨⟨fun grouped => absurd grouped short, fun two => absurd two enough⟩,
      fun grouped => absurd grouped short⟩

theorem grouped_step {e : Event} (inv : Aligned w) (moved : w.step types e = some t) :
    (Grouped 2 t ↔ Orderly types w e) ∧ (Grouped 2 t → Aligned t) := by
  cases e with
  | connected =>
    cases moved
    have aligned : Aligned { w with client := true } :=
      ⟨inv.emptied, inv.arrived, inv.waiting, inv.requested, inv.queued, inv.requests,
        inv.shape, inv.answers⟩
    exact ⟨⟨fun _ => trivial, fun _ => aligned.grouped⟩, fun _ => aligned⟩
  | userFrame session data uuid =>
    simp only [World.step, Option.ite_none_left_eq_some] at moved
    obtain ⟨_, moved⟩ := moved
    by_cases request : isMessage types.automatchMatchRequest data
    · rw [if_pos request] at moved
      have outcome := request_iff_orderly inv moved
      exact ⟨⟨fun grouped _ => outcome.1.mp grouped, fun orderly => outcome.1.mpr (orderly request)⟩,
        outcome.2⟩
    · rw [if_neg request, Option.some.injEq] at moved
      subst moved
      exact ⟨⟨fun _ other => absurd other request, fun _ => inv.grouped⟩, fun _ => inv⟩
  | battleFrame data =>
    simp only [World.step, Option.ite_none_left_eq_some] at moved
    obtain ⟨_, moved⟩ := moved
    by_cases response : isMessage types.syncBattleCreateGameResponse data
    · rw [if_pos response, Option.ite_none_right_eq_some, Option.some.injEq] at moved
      obtain ⟨_, rfl⟩ := moved
      have outcome := response_iff_orderly types inv
      exact ⟨⟨fun grouped _ => outcome.1.mp grouped, fun orderly => outcome.1.mpr (orderly response)⟩,
        outcome.2⟩
    · rw [if_neg response, Option.some.injEq] at moved
      subst moved
      exact ⟨⟨fun _ other => absurd other response, fun _ => inv.grouped⟩, fun _ => inv⟩

theorem aligned_initial : Aligned {} :=
  ⟨rfl, by simp, rfl, by simp, rfl, rfl, by simp, by simp⟩

end

/-- The groups of two that the release takes are right as long as every message is
    orderly, and the first one that is not breaks them. -/
theorem groups_right_while_orderly (types : MessageTypes) {w : World}
    (run : Reach (World.step types) (Orderly types) {} w) :
    Grouped 2 w ∧ ∀ e t, w.step types e = some t → (Grouped 2 t ↔ Orderly types w e) := by
  refine (reach_exactly Aligned (Grouped 2) aligned_initial (fun _ inv => inv.grouped)
    (fun s e t inv moved => ?_) run).2
  obtain ⟨orderly, aligned⟩ := grouped_step inv moved
  exact ⟨orderly, fun allowed => aligned (orderly.mpr allowed)⟩

def exampleTypes : MessageTypes := ⟨1, 2, 3⟩

def exampleFrame (type : Nat) : Bytes := buildMsg type {} []

theorem groups_right_over_two_games : ∃ w,
    Reach (World.step exampleTypes) (Orderly exampleTypes) {} w ∧
      (w.answers.map Release.users = [[11, 12], [13, 14]] ∧ w.sent.length = 2) ∧
      Grouped 2 w ∧ ∀ e t, w.step exampleTypes e = some t →
        (Grouped 2 t ↔ Orderly exampleTypes w e) := by
  obtain ⟨w, run, facts⟩ := execWithin_any (World.step exampleTypes) (Orderly exampleTypes) {}
    [.connected, .userFrame 11 (exampleFrame 1) "a", .userFrame 12 (exampleFrame 1) "",
      .battleFrame (exampleFrame 3), .userFrame 13 (exampleFrame 1) "b",
      .userFrame 14 (exampleFrame 1) "", .battleFrame (exampleFrame 3)]
    (fun w => decide (w.answers.map Release.users = [[11, 12], [13, 14]] ∧ w.sent.length = 2))
    (by decide +kernel)
  exact ⟨w, run, of_decide_eq_true facts, groups_right_while_orderly exampleTypes run⟩

/-- The response to the request of the first user finds nobody behind that user. -/
theorem single_user_empties_queue : ¬∃ size, 0 < size ∧ ∀ types w,
    Reach (World.step types) always {} w → Grouped size w := by
  rintro ⟨size, _, all⟩
  obtain ⟨w, run, facts⟩ := execWithin_any (World.step exampleTypes) (fun _ _ => True) {}
    [.connected, .userFrame 11 (exampleFrame 1) "a", .battleFrame (exampleFrame 3)]
    (fun w => w.emptied) (by decide +kernel)
  have kept := (all exampleTypes w run).emptied
  rw [facts] at kept
  contradiction

end LaluneServer.Match
