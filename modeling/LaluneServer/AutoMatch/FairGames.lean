import LaluneServer.AutoMatch.Dispatch
import LaluneServer.Lib.SortedPicks

/- What the matchmaker sends to battle servers and players is a fair game: two forces of two
   different users, each of three different heros, for the sessions that asked. -/
namespace LaluneServer.AutoMatch

open Std (TreeMap)
open Transition InverseIndex AutoMatchServer World SortedPicks

def FairPick (heros : List String) : Prop :=
  heros.Sublist allHeros ∧ heros.length = heroPickCount

instance (heros : List String) : Decidable (FairPick heros) :=
  inferInstanceAs (Decidable (_ ∧ _))

theorem pickHeros_iff (heros : List String) :
    (∃ rolls, pickHeros rolls = heros) ↔ FairPick heros := by
  have room : heroPickCount ≤ allHeros.length := by decide
  unfold FairPick
  rw [← chosen_iff_sublist "" room]
  constructor
  · rintro ⟨⟨r, s, t⟩, rfl⟩
    refine ⟨[r % 4, s % 4, t % 4].insertionSort (· ≤ ·), List.length_insertionSort .., ?_, ?_, ?_⟩
    · exact List.pairwise_insertionSort (· ≤ ·) _
    · intro a member
      rw [List.mem_insertionSort] at member
      simp only [List.mem_cons, List.not_mem_nil, or_false] at member
      have small : allHeros.length - heroPickCount = 3 := by decide
      omega
    · unfold pickHeros spread
      rw [List.map_map]
      rfl
  · rintro ⟨numbers, long, sorted, below, rfl⟩
    obtain ⟨r, s, t, rfl⟩ := List.length_eq_three.mp long
    simp only [List.mem_cons, List.not_mem_nil, or_false, forall_eq_or_imp, forall_eq] at below
    have small : allHeros.length - heroPickCount = 3 := by decide
    have same : [r % 4, s % 4, t % 4] = [r, s, t] := by
      rw [Nat.mod_eq_of_lt (by omega), Nat.mod_eq_of_lt (by omega), Nat.mod_eq_of_lt (by omega)]
    refine ⟨(r, s, t), ?_⟩
    have choices : allHeros.length - heroPickCount + 1 = 4 := by decide
    unfold pickHeros spread
    simp only [choices, same]
    rw [sorted.insertionSort_eq, List.map_map]
    rfl

def forceOf (userId : String) (forceId : Nat) (heros : List String) : ForceData :=
  { userId := userId, forceId := forceId, units := heros.map fun name => ⟨name, 1⟩ }

def FairGame (requests : List WaitingUser) (game : GameInfo) : Prop :=
  ∃ first second, FairPick first ∧ FairPick second ∧
    ∃ user other, user ≠ other ∧ (game.sessions.1, user) ∈ requests ∧
      (game.sessions.2, other) ∈ requests ∧
      game.gameInitData.forces = [forceOf user 1 first, forceOf other 2 second]

theorem FairGame.mono {requests more : List WaitingUser} {game : GameInfo}
    (fair : FairGame requests game) : FairGame (requests ++ more) game := by
  obtain ⟨first, second, picked, picked', user, other, apart, asked, asked', forces⟩ := fair
  exact ⟨first, second, picked, picked', user, other, apart, List.mem_append_left _ asked,
    List.mem_append_left _ asked', forces⟩

theorem forces_gameRequest (gameId : String) (rolls : Rolls × Rolls) (opponent user : WaitingUser) :
    (gameRequest gameId rolls opponent user).gameInitData.forces =
      [forceOf opponent.2 1 (pickHeros rolls.1), forceOf user.2 2 (pickHeros rolls.2)] := rfl

structure Lobby where
  world : World := {}
  requests : List WaitingUser := []

def requestOf : Event → List WaitingUser
  | .matchRequest session request _ _ => [(session, request.userId)]
  | _ => []

namespace Lobby

variable (order : PrioritySort)

def step (l : Lobby) (e : Event) : Option Lobby :=
  (l.world.step order e).map fun world => ⟨world, l.requests ++ requestOf e⟩

def distinctIds (l : Lobby) (e : Event) : Prop := DistinctIds l.world e

instance (l : Lobby) (e : Event) : Decidable (l.distinctIds e) :=
  inferInstanceAs (Decidable (DistinctIds l.world e))

def Covers (created : List (String × GameInfo)) (reply : Reply) : Prop :=
  match reply.message with
  | .createGame request => ∃ game, (request.gameId, game) ∈ created ∧
      game.gameInitData = request.gameInitData
  | .matchResponse response => response.retValue = .success →
      ∃ game, (response.gameUuid, game) ∈ created ∧
        game.gameInitData = response.gameInitData ∧
        (reply.session = game.sessions.1 ∨ reply.session = game.sessions.2)
  | .registerResponse _ => True

structure Fair (l : Lobby) : Prop where
  waiting : ∀ (key : MatchKey) (user : WaitingUser),
    l.world.ams.waitingUsers[key]? = some user → user ∈ l.requests
  filed : ∀ (id : String) (game : GameInfo), l.world.ams.games[id]? = some game →
    (id, game) ∈ l.world.created
  games : ∀ entry ∈ l.world.created, FairGame l.requests entry.2
  one_game : ∀ a ∈ l.world.created, ∀ b ∈ l.world.created, a.1 = b.1 →
    a.2.gameInitData = b.2.gameInitData ∧ a.2.sessions = b.2.sessions
  replies : ∀ reply ∈ l.world.replies, Covers l.world.created reply

variable {order} {l m : Lobby} {e : Event}

theorem Covers.mono {created more : List (String × GameInfo)} {reply : Reply}
    (covers : Covers created reply) : Covers (created ++ more) reply := by
  unfold Covers at covers ⊢
  split
  · rename_i request message
    rw [message] at covers
    obtain ⟨game, held, same⟩ := covers
    exact ⟨game, List.mem_append_left _ held, same⟩
  · rename_i response message
    rw [message] at covers
    intro success
    obtain ⟨game, held, same⟩ := covers success
    exact ⟨game, List.mem_append_left _ held, same⟩
  · trivial

theorem Fair.of_quiet (fair : l.Fair) {world : World} {more : List WaitingUser}
    {said : List Reply} (created : world.created = l.world.created)
    (replies : world.replies = l.world.replies ++ said)
    (quiet : ∀ reply ∈ said, Covers l.world.created reply)
    (waiting : ∀ (key : MatchKey) (user : WaitingUser),
      world.ams.waitingUsers[key]? = some user → user ∈ l.requests ++ more)
    (games : ∀ (id : String) (game : GameInfo), world.ams.games[id]? = some game →
      l.world.ams.games[id]? = some game) : Fair ⟨world, l.requests ++ more⟩ := by
  refine ⟨waiting, ?_, ?_, ?_, ?_⟩
  · intro id game held
    rw [created]
    exact fair.filed id game (games id game held)
  · intro entry held
    rw [created] at held
    exact (fair.games entry held).mono
  · rw [created]
    exact fair.one_game
  · intro reply held
    rw [replies] at held
    rw [created]
    rcases List.mem_append.mp held with old | new
    · exact fair.replies reply old
    · exact quiet reply new

theorem Fair.of_match (fair : l.Fair) (rolls : Rolls × Rolls) (servers : ServerList)
    {opponent user : WaitingUser} {world : World} {gameId : String} {said : List Reply}
    (waited : opponent ∈ l.requests) (apart : opponent.2 ≠ user.2)
    (fresh : ∀ entry ∈ l.world.created, entry.1 ≠ gameId)
    (created : world.created = l.world.created ++ servers.map (fun info =>
      (gameId, newGame (gameRequest gameId rolls opponent user) (opponent.1, user.1) info)))
    (replies : world.replies = l.world.replies ++ said)
    (talk : ∀ reply ∈ said, Covers world.created reply)
    (waiting : ∀ (key : MatchKey) (other : WaitingUser),
      world.ams.waitingUsers[key]? = some other → other ∈ l.requests)
    (games : ∀ (id : String) (game : GameInfo), world.ams.games[id]? = some game →
      l.world.ams.games[id]? = some game ∨ (id, game) ∈ world.created) :
    Fair ⟨world, l.requests ++ [user]⟩ := by
  have new : ∀ entry ∈ servers.map (fun info =>
      (gameId, newGame (gameRequest gameId rolls opponent user) (opponent.1, user.1) info)),
      entry.1 = gameId ∧
        entry.2.gameInitData = (gameRequest gameId rolls opponent user).gameInitData ∧
        entry.2.sessions = (opponent.1, user.1) := by
    intro entry held
    obtain ⟨info, _, rfl⟩ := List.mem_map.mp held
    exact ⟨rfl, rfl, rfl⟩
  refine ⟨?_, ?_, ?_, ?_, ?_⟩
  · intro key other held
    exact List.mem_append_left _ (waiting key other held)
  · intro id game held
    rcases games id game held with old | made
    · rw [created]
      exact List.mem_append_left _ (fair.filed id game old)
    · exact made
  · intro entry held
    rw [created] at held
    rcases List.mem_append.mp held with old | made
    · exact (fair.games entry old).mono
    · obtain ⟨_, initData, sessions⟩ := new entry made
      refine ⟨pickHeros rolls.1, pickHeros rolls.2, (pickHeros_iff _).mp ⟨_, rfl⟩,
        (pickHeros_iff _).mp ⟨_, rfl⟩, opponent.2, user.2, apart, ?_, ?_, ?_⟩
      · rw [sessions]
        exact List.mem_append_left _ waited
      · rw [sessions]
        exact List.mem_append_right _ List.mem_cons_self
      · rw [initData]
        exact forces_gameRequest gameId rolls opponent user
  · intro a held b held' same
    rw [created] at held held'
    rcases List.mem_append.mp held with old | made
    · rcases List.mem_append.mp held' with old' | made'
      · exact fair.one_game a old b old' same
      · exact absurd (same.trans (new b made').1) (fresh a old)
    · rcases List.mem_append.mp held' with old' | made'
      · exact absurd (same.symm.trans (new a made).1) (fresh b old')
      · obtain ⟨_, initData, sessions⟩ := new a made
        obtain ⟨_, initData', sessions'⟩ := new b made'
        exact ⟨initData.trans initData'.symm, sessions.trans sessions'.symm⟩
  · intro reply held
    rw [replies] at held
    rcases List.mem_append.mp held with old | said
    · rw [created]
      exact (fair.replies reply old).mono
    · exact talk reply said

theorem covers_replyBoth {created : List (String × GameInfo)} {sessions : Session × Session}
    {response : MatchResponse} (failed : response.retValue ≠ .success) :
    ∀ reply ∈ replyBoth sessions response, Covers created reply := by
  intro reply held
  simp only [replyBoth, List.mem_cons, List.not_mem_nil, or_false] at held
  rcases held with rfl | rfl
  · exact fun success => absurd success failed
  · exact fun success => absurd success failed

theorem covers_pairUsers {ams : AutoMatchServer} {isConnected : Session → Bool} {region : Int}
    {gameId : String} {rolls : Rolls × Rolls} {opponent user : WaitingUser}
    {before : List (String × GameInfo)} :
    ∀ reply ∈ (ams.pairUsers isConnected gameId rolls region opponent user).replies,
      Covers (before ++
        (ams.pairUsers isConnected gameId rolls region opponent user).created) reply := by
  intro reply held
  rw [pairUsers_replies] at held
  rw [pairUsers_created]
  split at held
  · exact covers_replyBoth (by decide) reply held
  · rename_i apart
    rw [if_neg apart]
    rcases List.mem_append.mp held with asked | refused
    · obtain ⟨info, chosen, rfl⟩ := List.mem_map.mp asked
      exact ⟨newGame (gameRequest gameId rolls opponent user) (opponent.1, user.1) info,
        List.mem_append_right _ (List.mem_map_of_mem chosen), rfl⟩
    · split at refused
      · exact covers_replyBoth (by decide) reply refused
      · contradiction

theorem waiting_leaveQueue {ams : AutoMatchServer} {key other : MatchKey}
    {opponent user : WaitingUser}
    (held : (ams.leaveQueue key opponent).waitingUsers[other]? = some user) :
    ams.waitingUsers[other]? = some user := by
  simp only [leaveQueue, find_erase] at held
  split at held
  · contradiction
  · exact held

theorem fair_matchRequest (fair : l.Fair) {session : Session} {request : MatchRequest}
    {gameId : String} {rolls : Rolls × Rolls}
    (fresh : ∀ entry ∈ l.world.created, entry.1 ≠ gameId) :
    Fair ⟨l.world.record (l.world.ams.matchRequest l.world.isConnected gameId rolls session
      request), l.requests ++ [(session, request.userId)]⟩ := by
  cases waiting : l.world.ams.waitingUsers[matchKey request]? with
  | none =>
    rw [matchRequest_waits waiting]
    have silent : ∀ reply ∈ ([] : List Reply), Covers l.world.created reply := by
      intro reply held
      exact absurd held List.not_mem_nil
    refine fair.of_quiet (List.append_nil _) rfl silent ?_ (fun _ _ held => held)
    intro key user held
    simp only [record, startWaiting, find_insertIfNew] at held
    split at held
    · cases held
      exact List.mem_append_right _ List.mem_cons_self
    · exact List.mem_append_left _ (fair.waiting key user held)
  | some opponent =>
    rw [matchRequest_pairs waiting]
    have waited := fair.waiting _ opponent waiting
    have others : ∀ (key : MatchKey) (user : WaitingUser),
        ((l.world.ams.pairUsers l.world.isConnected gameId rolls 0 opponent
          (session, request.userId)).ams.leaveQueue (matchKey request)
            opponent).waitingUsers[key]? = some user → user ∈ l.requests := by
      intro key user held
      have held := waiting_leaveQueue held
      rw [pairUsers_frame.1] at held
      exact fair.waiting key user held
    by_cases same : opponent.2 = request.userId
    · refine fair.of_quiet ?_ rfl ?_ ?_ ?_
      · simp only [record, pairUsers_created, if_pos same, List.append_nil]
      · rw [pairUsers_replies, if_pos same]
        exact covers_replyBoth (by decide)
      · intro key user held
        exact List.mem_append_left _ (others key user held)
      · intro id game held
        simp only [record, leaveQueue, pairUsers_games, ne_eq, same, not_true_eq_false, false_and,
          if_false] at held
        exact held
    · refine fair.of_match rolls (connectedServers l.world.isConnected
        (l.world.ams.serverList 0)) waited same fresh ?_ rfl ?_ others ?_
      · simp only [record, pairUsers_created, if_neg same]
      · exact covers_pairUsers
      · intro id game held
        simp only [record, leaveQueue, pairUsers_games] at held
        split at held
        · rename_i new
          obtain ⟨_, rfl, _⟩ := new
          right
          obtain ⟨info, first, rfl⟩ := Option.map_eq_some_iff.mp held
          simp only [record, pairUsers_created, if_neg same]
          exact List.mem_append_right _ (List.mem_map_of_mem (List.mem_of_mem_head? first))
        · exact Or.inl held

theorem fair_createGameResponse (fair : l.Fair) (response : CreateGameResponse)
    {answers : List (IpPort × CreateGameResponse)} :
    Fair ⟨{ l.world.record (l.world.ams.createGameResponseGot response) with
      answers := answers }, l.requests ++ []⟩ := by
  cases held : l.world.ams.games[response.gameId]? with
  | none =>
    rw [createGameResponseGot_of_unknown held]
    have silent : ∀ reply ∈ ([] : List Reply), Covers l.world.created reply := by
      intro reply held
      exact absurd held List.not_mem_nil
    exact fair.of_quiet (List.append_nil _) rfl silent
      (fun key user held => List.mem_append_left _ (fair.waiting key user held))
      (fun _ _ held => held)
  | some game =>
    rw [createGameResponseGot_of_game held]
    refine fair.of_quiet (List.append_nil _) rfl ?_
      (fun key user held => List.mem_append_left _ (fair.waiting key user held)) ?_
    · intro reply told
      unfold createGameResult at told
      split at told
      · simp only [replyBoth, List.mem_cons, List.not_mem_nil, or_false] at told
        have known := fair.filed _ game held
        rcases told with rfl | rfl
        · exact fun _ => ⟨game, known, rfl, Or.inl rfl⟩
        · exact fun _ => ⟨game, known, rfl, Or.inr rfl⟩
      · exact covers_replyBoth (by simp) reply told
    · intro id other kept
      simp only [record, find_erase] at kept
      split at kept
      · contradiction
      · exact kept

theorem waiting_matchCancel {ams : AutoMatchServer} {session : Session} {key : MatchKey}
    {user : WaitingUser} (held : (ams.matchCancel session).waitingUsers[key]? = some user) :
    ams.waitingUsers[key]? = some user := by
  unfold matchCancel at held
  split at held
  · exact held
  · simp only [find_erase] at held
    split at held
    · contradiction
    · exact held

theorem fair_step (fair : l.Fair) (fresh : l.distinctIds e) (moved : step order l e = some m) :
    m.Fair := by
  obtain ⟨world, happened, rfl⟩ := Option.map_eq_some_iff.mp moved
  have silent : ∀ reply ∈ ([] : List Reply), Covers l.world.created reply := by
    intro reply held
    exact absurd held List.not_mem_nil
  have unheard : l.world.replies = l.world.replies ++ [] := (List.append_nil _).symm
  have sameQueue {after : AutoMatchServer} (queue : SameQueue l.world.ams after)
      (key : MatchKey) (user : WaitingUser) (held : after.waitingUsers[key]? = some user) :
      user ∈ l.requests ++ [] := by
    rw [queue.1] at held
    exact List.mem_append_left _ (fair.waiting key user held)
  cases e with
  | matchRequest session request gameId rolls =>
    obtain ⟨_, same⟩ := Option.ite_none_right_eq_some.mp happened
    cases same
    exact fair_matchRequest fair fresh
  | userDisconnected session =>
    obtain ⟨_, same⟩ := Option.ite_none_right_eq_some.mp happened
    cases same
    refine fair.of_quiet rfl unheard silent ?_ ?_
    · intro key user held
      exact List.mem_append_left _ (fair.waiting key user (waiting_matchCancel held))
    · intro id game held
      have games : (l.world.ams.matchCancel session).games = l.world.ams.games :=
        matchCancel_games
      rw [← games]
      exact held
  | createGameResponse server response =>
    obtain ⟨_, same⟩ := Option.ite_none_right_eq_some.mp happened
    cases same
    exact fair_createGameResponse fair response
  | serverRegister session reg =>
    cases happened
    have registered : ∀ reply ∈ [(⟨session, .registerResponse ⟨0⟩⟩ : Reply)],
        Covers l.world.created reply := by
      intro reply held
      rw [List.mem_singleton.mp held]
      exact trivial
    exact fair.of_quiet (List.append_nil _) rfl registered (sameQueue ⟨rfl, rfl⟩)
      (fun _ _ held => held)
  | serverHeartBeat session beat =>
    cases happened
    obtain ⟨queue, games⟩ : SameQueue l.world.ams (l.world.ams.serverHeartBeat session beat) ∧ _ :=
      serverHeartBeat_frame beat
    refine fair.of_quiet rfl unheard silent (sameQueue queue) ?_
    intro id game held
    rw [← games]
    exact held
  | serverDisconnected session =>
    cases happened
    exact fair.of_quiet rfl unheard silent (sameQueue ⟨rfl, rfl⟩) (fun _ _ held => held)
  | serverTimeout region id =>
    cases happened
    obtain ⟨queue, games⟩ : SameQueue l.world.ams (l.world.ams.serverTimeout region id) ∧ _ :=
      serverTimeout_frame id
    refine fair.of_quiet rfl unheard silent (sameQueue queue) ?_
    intro id game held
    rw [← games]
    exact held

theorem fair_start : ({} : Lobby).Fair := by
  refine ⟨?_, ?_, ?_, ?_, ?_⟩
  · intro key user held
    simp at held
  · intro id game held
    simp at held
  · intro entry held
    exact absurd held List.not_mem_nil
  · intro a held
    exact absurd held List.not_mem_nil
  · intro reply held
    exact absurd held List.not_mem_nil

/-- In runs whose game ids are distinct every battle server is asked for a fair game, its
    players are told of the very game that the servers were asked for, and any heros may be
    picked. -/
theorem games_are_fair (order : PrioritySort) (run : Reach (step order) distinctIds {} l) :
    (∀ reply ∈ l.world.replies, ∀ request, reply.message = .createGame request →
      ∃ game, FairGame l.requests game ∧ game.gameInitData = request.gameInitData) ∧
    (∀ reply ∈ l.world.replies, ∀ response, tellsSuccess reply response →
      ∃ game, FairGame l.requests game ∧ game.gameInitData = response.gameInitData ∧
        (reply.session = game.sessions.1 ∨ reply.session = game.sessions.2)) ∧
    (∀ told ∈ l.world.replies, ∀ response, tellsSuccess told response →
      ∀ asked ∈ l.world.replies, ∀ request, asked.message = .createGame request →
        request.gameId = response.gameUuid → request.gameInitData = response.gameInitData) ∧
    ∀ heros, (∃ rolls, pickHeros rolls = heros) ↔ FairPick heros := by
  have fair : l.Fair := reach_invariant Fair fair_start
    (fun _ _ _ fair fresh moved => fair_step fair fresh moved) run
  have asked : ∀ reply ∈ l.world.replies, ∀ request, reply.message = .createGame request →
      ∃ game, (request.gameId, game) ∈ l.world.created ∧
        game.gameInitData = request.gameInitData := by
    intro reply held request message
    have covers := fair.replies reply held
    unfold Covers at covers
    rw [message] at covers
    exact covers
  have told : ∀ reply ∈ l.world.replies, ∀ response, tellsSuccess reply response →
      ∃ game, (response.gameUuid, game) ∈ l.world.created ∧
        game.gameInitData = response.gameInitData ∧
        (reply.session = game.sessions.1 ∨ reply.session = game.sessions.2) := by
    rintro reply held response ⟨message, success⟩
    have covers := fair.replies reply held
    unfold Covers at covers
    rw [message] at covers
    exact covers success
  refine ⟨?_, ?_, ?_, pickHeros_iff⟩
  · intro reply held request message
    obtain ⟨game, created, same⟩ := asked reply held request message
    exact ⟨game, fair.games _ created, same⟩
  · intro reply held response success
    obtain ⟨game, created, same, player⟩ := told reply held response success
    exact ⟨game, fair.games _ created, same, player⟩
  · intro reply held response success other held' request message sameId
    obtain ⟨game, created, same, _⟩ := told reply held response success
    obtain ⟨game', created', same'⟩ := asked other held' request message
    rw [← same, ← same']
    exact (fair.one_game _ created' _ created sameId).1

def twoServers : List Event :=
  [.serverRegister 8 ⟨"10.0.0.2", 6677, 0, 2⟩, .serverRegister 9 ⟨"10.0.0.1", 6677, 0, 1⟩,
    .matchRequest 1 ⟨"desert", "alice"⟩ "g1" rolls, .matchRequest 2 ⟨"desert", "bob"⟩ "g1" rolls,
    .createGameResponse ⟨"10.0.0.2", 6677⟩ ⟨"g1", 0⟩]

def successOf (reply : Reply) : Option MatchResponse :=
  match reply.message with
  | .matchResponse response => if response.retValue = .success then some response else none
  | _ => none

theorem tellsSuccess_of {reply : Reply} {response : MatchResponse}
    (told : response ∈ successOf reply) : tellsSuccess reply response := by
  unfold successOf at told
  split at told
  · rename_i message
    obtain ⟨success, same⟩ := Option.ite_none_right_eq_some.mp told
    cases same
    exact ⟨message, success⟩
  · contradiction

theorem both_servers_asked : ∃ l : Lobby, Reach (step insertionOrder) distinctIds {} l ∧
    l.world.replies.length = 6 ∧
    ∀ asked ∈ l.world.replies, ∀ request, asked.message = .createGame request →
      request.gameId = "g1" → request.gameInitData.forces =
        [forceOf "alice" 1 ["panda", "dracula", "enchantress"],
          forceOf "bob" 2 ["saber", "zeus", "enchantress"]] := by
  obtain ⟨l, run, facts⟩ := execWithin_any (step insertionOrder) distinctIds {} twoServers
    (fun l => decide (l.world.replies.length = 6 ∧ ∃ told ∈ l.world.replies,
      ∃ response ∈ successOf told, response.gameUuid = "g1" ∧ response.gameInitData.forces =
        [forceOf "alice" 1 ["panda", "dracula", "enchantress"],
          forceOf "bob" 2 ["saber", "zeus", "enchantress"]])) (by decide +kernel)
  obtain ⟨six, told, held, response, answer, uuid, forces⟩ := of_decide_eq_true facts
  refine ⟨l, run, six, ?_⟩
  intro asked held' request sent sameId
  have same := (games_are_fair insertionOrder run).2.2.1 told held response
    (tellsSuccess_of answer) asked held' request sent (sameId.trans uuid.symm)
  rw [same]
  exact forces

end Lobby

end LaluneServer.AutoMatch
