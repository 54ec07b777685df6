import LaluneServer.AutoMatch.Queue

/- The games of matched players: which battle servers are asked for a game, and which
   server the players are told. -/
namespace LaluneServer.AutoMatch

open Std (TreeMap)
open Transition InverseIndex AutoMatchServer World

def paired (w : World) (request : MatchRequest) : Prop :=
  ∃ opponent ∈ w.ams.waitingUsers[matchKey request]?, opponent.2 ≠ request.userId

instance (w : World) (request : MatchRequest) : Decidable (paired w request) :=
  inferInstanceAs (Decidable (∃ _ ∈ _, _))

def DistinctIds (w : World) : Event → Prop
  | .matchRequest _ _ gameId _ => ∀ entry ∈ w.created, entry.1 ≠ gameId
  | _ => True

def SingleServer (w : World) : Event → Prop
  | .matchRequest _ request _ _ => paired w request → (w.available 0).length ≤ 1
  | _ => True

def Unambiguous (w : World) (e : Event) : Prop := DistinctIds w e ∧ SingleServer w e

instance (w : World) : ∀ e, Decidable (DistinctIds w e)
  | .matchRequest .. => inferInstanceAs (Decidable (∀ _ ∈ _, _))
  | .userDisconnected _ => inferInstanceAs (Decidable True)
  | .createGameResponse .. => inferInstanceAs (Decidable True)
  | .serverRegister .. => inferInstanceAs (Decidable True)
  | .serverHeartBeat .. => inferInstanceAs (Decidable True)
  | .serverDisconnected _ => inferInstanceAs (Decidable True)
  | .serverTimeout .. => inferInstanceAs (Decidable True)

instance (w : World) : ∀ e, Decidable (SingleServer w e)
  | .matchRequest .. => inferInstanceAs (Decidable (_ → _))
  | .userDisconnected _ => inferInstanceAs (Decidable True)
  | .createGameResponse .. => inferInstanceAs (Decidable True)
  | .serverRegister .. => inferInstanceAs (Decidable True)
  | .serverHeartBeat .. => inferInstanceAs (Decidable True)
  | .serverDisconnected _ => inferInstanceAs (Decidable True)
  | .serverTimeout .. => inferInstanceAs (Decidable True)

instance (w : World) (e : Event) : Decidable (Unambiguous w e) :=
  inferInstanceAs (Decidable (_ ∧ _))

def askedSession (gameId : String) (reply : Reply) : Option Session :=
  match reply.message with
  | .createGame request => if request.gameId = gameId then some reply.session else none
  | _ => none

def requestsFor (gameId : String) (replies : List Reply) : List Session :=
  replies.filterMap (askedSession gameId)

def tellsSuccess (reply : Reply) (response : MatchResponse) : Prop :=
  reply.message = .matchResponse response ∧ response.retValue = .success

def Truthful (w : World) : Prop :=
  ∀ reply ∈ w.replies, ∀ response, tellsSuccess reply response →
    (⟨response.gameServerIp, response.gameServerPort⟩, ⟨response.gameUuid, 0⟩) ∈ w.answers

structure Dispatched (w : World) : Prop where
  filed : ∀ (id : String) (game : GameInfo), w.ams.games[id]? = some game → (id, game) ∈ w.created
  one_server : ∀ a ∈ w.created, ∀ b ∈ w.created, a.1 = b.1 → a.2.server = b.2.server
  requested : ∀ gameId, requestsFor gameId w.replies ≠ [] → ∃ entry ∈ w.created, entry.1 = gameId
  truthful : Truthful w

section outcomes
variable {isConnected : Session → Bool} {gameId : String} {rolls : Rolls × Rolls}
variable {ams : AutoMatchServer} {opponent user : WaitingUser} {region : Int}

theorem requestsFor_append (gameId : String) (first later : List Reply) :
    requestsFor gameId (first ++ later) = requestsFor gameId first ++ requestsFor gameId later :=
  List.filterMap_append

theorem requestsFor_replyBoth (gameId : String) (sessions : Session × Session)
    (response : MatchResponse) : requestsFor gameId (replyBoth sessions response) = [] := rfl

theorem requestsFor_pairUsers (id : String) :
    requestsFor id (ams.pairUsers isConnected gameId rolls region opponent user).replies =
      if opponent.2 ≠ user.2 ∧ gameId = id then
        (connectedServers isConnected (ams.serverList region)).map PvPServerInfo.session
      else [] := by
  rw [pairUsers_replies]
  by_cases same : opponent.2 = user.2
  · simp [same, requestsFor_replyBoth]
  · have no_more : ∀ (empty : Bool), requestsFor id
        (if empty then replyBoth (opponent.1, user.1)
          { retValue := .noServer, retInfo := "没有找到可用的服务器" } else []) = [] := by
      intro empty
      cases empty with
      | false => rfl
      | true => rfl
    rw [if_neg same, requestsFor_append, no_more, List.append_nil]
    simp only [requestsFor, List.filterMap_map, ne_eq, same, not_false_eq_true, true_and]
    split
    · rename_i this_game
      rw [← List.filterMap_eq_map]
      congr 1
      funext info
      simp [askedSession, gameRequest, this_game]
    · rename_i other_game
      rw [List.filterMap_eq_nil_iff]
      intro info _
      simp [askedSession, gameRequest, other_game]

theorem pairUsers_no_success (reply : Reply) (response : MatchResponse)
    (member : reply ∈ (ams.pairUsers isConnected gameId rolls region opponent user).replies) :
    ¬tellsSuccess reply response := by
  rintro ⟨tells, success⟩
  rw [pairUsers_replies] at member
  split at member
  · simp only [replyBoth, List.mem_cons, List.not_mem_nil, or_false] at member
    rcases member with rfl | rfl
    · cases tells
      contradiction
    · cases tells
      contradiction
  · rcases List.mem_append.mp member with asks | none_found
    · obtain ⟨info, _, rfl⟩ := List.mem_map.mp asks
      contradiction
    · split at none_found
      · simp only [replyBoth, List.mem_cons, List.not_mem_nil, or_false] at none_found
        rcases none_found with rfl | rfl
        · cases tells
          contradiction
        · cases tells
          contradiction
      · contradiction

end outcomes

section steps
variable {w t : World} {order : PrioritySort}

theorem dispatched_of_quiet (dispatched : Dispatched w)
    (games : ∀ (id : String) (game : GameInfo),
      t.ams.games[id]? = some game → w.ams.games[id]? = some game)
    (created : t.created = w.created)
    (replies : ∃ more, t.replies = w.replies ++ more ∧ (∀ id, requestsFor id more = []) ∧
      ∀ reply ∈ more, ∀ response, tellsSuccess reply response →
        (⟨response.gameServerIp, response.gameServerPort⟩, ⟨response.gameUuid, 0⟩) ∈ t.answers)
    (answers : ∀ answer ∈ w.answers, answer ∈ t.answers) : Dispatched t := by
  obtain ⟨more, same, no_request, truth⟩ := replies
  refine ⟨?_, ?_, ?_, ?_⟩
  · intro id game held
    rw [created]
    exact dispatched.filed id game (games id game held)
  · rw [created]
    exact dispatched.one_server
  · intro gameId asks
    rw [same, requestsFor_append, no_request, List.append_nil] at asks
    rw [created]
    exact dispatched.requested gameId asks
  · intro reply member response success
    rw [same] at member
    rcases List.mem_append.mp member with old | new
    · exact answers _ (dispatched.truthful reply old response success)
    · exact truth reply new response success

theorem dispatched_of_silent (dispatched : Dispatched w) (games : t.ams.games = w.ams.games)
    (created : t.created = w.created) (replies : t.replies = w.replies)
    (answers : t.answers = w.answers) : Dispatched t := by
  refine dispatched_of_quiet dispatched ?_ created ⟨[], by simpa using replies, ?_, ?_⟩ ?_
  · intro id game held
    rwa [games] at held
  · intro id
    rfl
  · intro reply member
    contradiction
  · intro answer member
    rwa [answers]

theorem created_of_pair {gameId : String} {rolls : Rolls × Rolls} {opponent user : WaitingUser}
    (single : opponent.2 ≠ user.2 → (w.available 0).length ≤ 1)
    {a b : String × GameInfo}
    (first : a ∈ (w.ams.pairUsers w.isConnected gameId rolls 0 opponent user).created)
    (second : b ∈ (w.ams.pairUsers w.isConnected gameId rolls 0 opponent user).created) :
    a = b ∧ a.1 = gameId := by
  rw [pairUsers_created] at first second
  split at first
  · contradiction
  · rename_i differ
    rw [if_neg differ] at second
    obtain ⟨info, one, rfl⟩ := List.mem_map.mp first
    obtain ⟨other, two, rfl⟩ := List.mem_map.mp second
    have same : info = other := by
      cases list : connectedServers w.isConnected (w.ams.serverList 0) with
      | nil =>
        rw [list] at one
        contradiction
      | cons head tail =>
        have short : (head :: tail).length ≤ 1 := list ▸ single differ
        have alone : tail = [] := List.eq_nil_of_length_eq_zero (by simpa using short)
        rw [list, alone, List.mem_singleton] at one two
        rw [one, two]
    rw [same]
    exact ⟨rfl, rfl⟩

theorem dispatched_of_pair (dispatched : Dispatched w) {key : MatchKey} {gameId : String}
    {rolls : Rolls × Rolls} {opponent user : WaitingUser}
    (distinct : ∀ entry ∈ w.created, entry.1 ≠ gameId)
    (single : opponent.2 ≠ user.2 → (w.available 0).length ≤ 1)
    (after : t = w.record
      { w.ams.pairUsers w.isConnected gameId rolls 0 opponent user with
        ams := (w.ams.pairUsers w.isConnected gameId rolls 0 opponent user).ams.leaveQueue key
          opponent }) : Dispatched t := by
  subst after
  refine ⟨?_, ?_, ?_, ?_⟩
  · intro id game held
    simp only [record, leaveQueue, pairUsers_games] at held
    refine List.mem_append.mpr ?_
    split at held
    · rename_i new
      obtain ⟨differ, rfl, _⟩ := new
      obtain ⟨info, chosen, rfl⟩ := Option.map_eq_some_iff.mp held
      right
      rw [pairUsers_created, if_neg differ]
      exact List.mem_map_of_mem (List.mem_of_mem_head? chosen)
    · exact Or.inl (dispatched.filed id game held)
  · intro a first b second same
    rcases List.mem_append.mp first with old | new
    · rcases List.mem_append.mp second with old' | new'
      · exact dispatched.one_server a old b old' same
      · exact absurd (same.trans (created_of_pair single new' new').2) (distinct a old)
    · rcases List.mem_append.mp second with old' | new'
      · exact absurd (same.symm.trans (created_of_pair single new new).2) (distinct b old')
      · rw [(created_of_pair single new new').1]
  · intro id asks
    simp only [record, requestsFor_append] at asks
    by_cases old : requestsFor id w.replies = []
    · have new := asks
      rw [old, List.nil_append, requestsFor_pairUsers] at new
      split at new
      · rename_i this_game
        obtain ⟨differ, rfl⟩ := this_game
        obtain ⟨_, member⟩ := List.exists_mem_of_ne_nil _ new
        obtain ⟨info, chosen, _⟩ := List.mem_map.mp member
        refine ⟨(gameId, newGame (gameRequest gameId rolls opponent user)
          (opponent.1, user.1) info), List.mem_append_right _ ?_, rfl⟩
        rw [pairUsers_created, if_neg differ]
        exact List.mem_map_of_mem chosen
      · contradiction
    · obtain ⟨entry, member, same⟩ := dispatched.requested id old
      exact ⟨entry, List.mem_append_left _ member, same⟩
  · intro reply member response success
    rcases List.mem_append.mp member with old | new
    · exact dispatched.truthful reply old response success
    · exact absurd success (pairUsers_no_success reply response new)

theorem dispatched_of_answer (dispatched : Dispatched w) {server : IpPort}
    {response : CreateGameResponse} (answers : w.asked server response.gameId) :
    Dispatched { w.record (w.ams.createGameResponseGot response) with
      answers := (server, response) :: w.answers } := by
  have kept : ∀ answer ∈ w.answers, answer ∈ (server, response) :: w.answers :=
    fun _ => List.mem_cons_of_mem _
  cases held : w.ams.games[response.gameId]? with
  | none =>
    rw [createGameResponseGot_of_unknown held]
    refine dispatched_of_quiet dispatched (fun _ _ => id) (List.append_nil _)
      ⟨[], rfl, fun _ => rfl, ?_⟩ kept
    intro reply member
    contradiction
  | some game =>
    rw [createGameResponseGot_of_game held]
    refine dispatched_of_quiet dispatched ?_ (List.append_nil _) ⟨_, rfl, fun _ => rfl, ?_⟩ kept
    · intro id other found
      simp only [record, find_erase] at found
      split at found
      · contradiction
      · exact found
    · intro reply member told success
      have result : told = createGameResult game response := by
        simp only [replyBoth, List.mem_cons, List.not_mem_nil, or_false] at member
        rcases member with rfl | rfl
        · exact (Message.matchResponse.inj success.1).symm
        · exact (Message.matchResponse.inj success.1).symm
      obtain ⟨_, succeeded⟩ := success
      rw [result] at succeeded ⊢
      unfold createGameResult at succeeded ⊢
      split at succeeded
      · rename_i zero
        rw [if_pos zero]
        obtain ⟨entry, member, same_id, same_server⟩ := answers
        have named : game.server = server := by
          rw [← same_server]
          exact dispatched.one_server _ (dispatched.filed _ _ held) _ member same_id.symm
        rw [← named, ← zero]
        exact List.mem_cons_self
      · contradiction

theorem dispatched_step (dispatched : Dispatched w) {e : Event} (fine : Unambiguous w e)
    (moved : step order w e = some t) : Dispatched t := by
  obtain ⟨distinct, single⟩ := fine
  cases e with
  | matchRequest session request gameId rolls =>
    simp only [step, Option.ite_none_right_eq_some, Option.some.injEq] at moved
    obtain ⟨_, rfl⟩ := moved
    cases waiting : w.ams.waitingUsers[matchKey request]? with
    | none =>
      rw [matchRequest_waits waiting]
      exact dispatched_of_silent dispatched rfl (List.append_nil _) (List.append_nil _) rfl
    | some opponent =>
      rw [matchRequest_pairs waiting]
      refine dispatched_of_pair dispatched distinct ?_ rfl
      intro differ
      exact single ⟨opponent, waiting, differ⟩
  | userDisconnected session =>
    simp only [step, Option.ite_none_right_eq_some, Option.some.injEq] at moved
    obtain ⟨_, rfl⟩ := moved
    exact dispatched_of_silent dispatched matchCancel_games rfl rfl rfl
  | createGameResponse server response =>
    simp only [step, Option.ite_none_right_eq_some, Option.some.injEq] at moved
    obtain ⟨answers, rfl⟩ := moved
    exact dispatched_of_answer dispatched answers
  | serverRegister session reg =>
    cases moved
    refine dispatched_of_quiet dispatched (fun _ _ => id) (List.append_nil _)
      ⟨_, rfl, fun _ => rfl, ?_⟩ (fun _ => id)
    intro reply member response success
    rw [List.mem_singleton.mp member] at success
    exact absurd success.1 (by simp)
  | serverHeartBeat session beat =>
    cases moved
    exact dispatched_of_silent dispatched (serverHeartBeat_frame beat).2 rfl rfl rfl
  | serverDisconnected session =>
    cases moved
    exact dispatched_of_silent dispatched rfl rfl rfl rfl
  | serverTimeout region id =>
    cases moved
    exact dispatched_of_silent dispatched (serverTimeout_frame id).2 rfl rfl rfl

theorem unambiguous_runs_dispatched (run : Reach (step order) Unambiguous {} w) :
    Dispatched w := by
  refine reach_invariant Dispatched ?_ ?_ run
  · exact ⟨by simp, by simp, by simp [requestsFor], by simp [Truthful]⟩
  · intro s e u dispatched fine moved
    exact dispatched_step dispatched fine moved

theorem requests_of_match (dispatched : Dispatched w) {session : Session}
    {request : MatchRequest} {gameId : String} {rolls : Rolls × Rolls} (pair : paired w request)
    (distinct : DistinctIds w (.matchRequest session request gameId rolls))
    (moved : step order w (.matchRequest session request gameId rolls) = some t) :
    requestsFor gameId t.replies = (w.available 0).map PvPServerInfo.session := by
  obtain ⟨opponent, waiting, differ⟩ := pair
  simp only [step, Option.ite_none_right_eq_some, Option.some.injEq] at moved
  obtain ⟨_, rfl⟩ := moved
  have unused : requestsFor gameId w.replies = [] := by
    by_contra asks
    obtain ⟨entry, member, same⟩ := dispatched.requested gameId asks
    exact distinct entry member same
  rw [matchRequest_pairs waiting]
  simp only [record, requestsFor_append, unused, List.nil_append, requestsFor_pairUsers]
  rw [if_pos ⟨differ, trivial⟩]
  rfl

end steps

/-- While at most one battle server is connected at each match, a success names the
    server that answered; and a match asks exactly one server when there is no other. -/
theorem truthful_with_single_server (order : PrioritySort) {w : World}
    (run : Reach (step order) Unambiguous {} w) :
    Truthful w ∧ ∀ session request gameId rolls t, paired w request → w.available 0 ≠ [] →
      DistinctIds w (.matchRequest session request gameId rolls) →
      step order w (.matchRequest session request gameId rolls) = some t →
      ((∃ info ∈ w.available 0, requestsFor gameId t.replies = [info.session]) ↔
        SingleServer w (.matchRequest session request gameId rolls)) := by
  have dispatched := unambiguous_runs_dispatched run
  refine ⟨dispatched.truthful, ?_⟩
  intro session request gameId rolls t pair offered distinct moved
  rw [requests_of_match dispatched pair distinct moved]
  constructor
  · rintro ⟨info, _, asks⟩ _
    have one := congrArg List.length asks
    rw [List.length_map] at one
    exact le_of_eq one
  · intro single
    obtain ⟨info, member⟩ := List.exists_mem_of_ne_nil _ offered
    have length : (w.available 0).length = 1 :=
      le_antisymm (single pair) (List.length_pos_of_mem member)
    obtain ⟨other, list⟩ := List.length_eq_one_iff.mp length
    exact ⟨other, by rw [list]; exact List.mem_singleton_self _, by rw [list]; rfl⟩

section examples

theorem truthful_after_played_match : ∃ w,
    Reach (step insertionOrder) Unambiguous {} w ∧ w.replies.length = 4 ∧ Truthful w := by
  obtain ⟨w, run, facts⟩ := execWithin_any (step insertionOrder) Unambiguous {} playedMatch
    (fun w => decide (w.replies.length = 4)) (by decide +kernel)
  exact ⟨w, run, of_decide_eq_true facts, (truthful_with_single_server insertionOrder run).1⟩

def secondServerAnswers : List Event :=
  [.serverRegister 8 ⟨"10.0.0.1", 6677, 0, 1⟩, .serverRegister 9 ⟨"10.0.0.2", 6677, 0, 2⟩,
    .matchRequest 1 ⟨"desert", "alice"⟩ "g1" rolls, .matchRequest 2 ⟨"desert", "bob"⟩ "g1" rolls,
    .createGameResponse ⟨"10.0.0.2", 6677⟩ ⟨"g1", 0⟩]

/-- The loop over the servers has no break: the players are told the first server. -/
theorem told_server_that_did_not_answer : ¬ ∀ order w,
    Reach (step order) DistinctIds {} w → Truthful w := by
  intro all
  obtain ⟨w, run, facts⟩ := execWithin_any (step insertionOrder) DistinctIds {}
    secondServerAnswers
    (fun w => decide (w.answers = [(⟨"10.0.0.2", 6677⟩, ⟨"g1", 0⟩)] ∧
      ∃ reply ∈ w.replies, reply.message = .matchResponse
        { retValue := .success, gameUuid := "g1", gameServerIp := "10.0.0.1", gameServerPort := 6677
          gameInitData := addForce (addForce {} "alice" rolls.1) "bob" rolls.2 }))
    (by decide +kernel)
  obtain ⟨answered, reply, member, tells⟩ := of_decide_eq_true facts
  have truth := all insertionOrder w run reply member _ ⟨tells, rfl⟩
  rw [answered] at truth
  simp at truth

end examples

end LaluneServer.AutoMatch
