import LaluneServer.AutoMatch.Server

/- What each operation of the matchmaker does to its tables. -/
namespace LaluneServer.AutoMatch

open Std (TreeMap)
open InverseIndex

section selection
variable (isConnected : Session → Bool) (request : CreateGame) (sessions : Session × Session)

def connectedServers (list : ServerList) : ServerList :=
  list.filter (fun info => isConnected info.session)

variable (list : ServerList) (games : TreeMap String GameInfo)

theorem askServers_replies :
    (askServers isConnected request sessions list games).replies =
      (connectedServers isConnected list).map
        (fun info => ⟨info.session, .createGame request⟩) := by
  induction list generalizing games with
  | nil => rfl
  | cons info rest ih =>
    unfold askServers
    split
    · rename_i connected
      simp [connectedServers, connected, ih]
    · rename_i apart
      simpa [connectedServers, apart] using ih games

theorem askServers_created :
    (askServers isConnected request sessions list games).created =
      (connectedServers isConnected list).map
        (fun info => (request.gameId, newGame request sessions info)) := by
  induction list generalizing games with
  | nil => rfl
  | cons info rest ih =>
    unfold askServers
    split
    · rename_i connected
      simp [connectedServers, connected, ih]
    · rename_i apart
      simpa [connectedServers, apart] using ih games

theorem askServers_found :
    (askServers isConnected request sessions list games).found =
      !(connectedServers isConnected list).isEmpty := by
  induction list generalizing games with
  | nil => rfl
  | cons info rest ih =>
    unfold askServers
    split
    · rename_i connected
      simp [connectedServers, connected]
    · rename_i apart
      simpa [connectedServers, apart] using ih games

theorem askServers_games (id : String) :
    (askServers isConnected request sessions list games).games[id]? =
      if request.gameId = id ∧ games[request.gameId]? = none then
        (connectedServers isConnected list).head?.map (newGame request sessions)
      else games[id]? := by
  induction list generalizing games with
  | nil =>
    simp only [askServers, connectedServers, List.filter_nil, List.head?_nil, Option.map_none]
    split
    · rename_i fresh
      rw [← fresh.1, fresh.2]
    · rfl
  | cons info rest ih =>
    unfold askServers
    split
    · rename_i connected
      simp only [ih, find_insertIfNew, connectedServers, List.filter_cons, connected, if_true,
        List.head?_cons, Option.map_some]
      by_cases free : games[request.gameId]? = none
      · simp [free]
      · simp [free]
    · rename_i apart
      simpa [connectedServers, apart] using ih games

end selection

section operations
variable {isConnected : Session → Bool} {gameId : String} {rolls : Rolls × Rolls}
variable {ams : AutoMatchServer} {session : Session} {request : MatchRequest}
variable {opponent user : WaitingUser} {region : Int}

namespace AutoMatchServer

def SameQueue (before after : AutoMatchServer) : Prop :=
  after.waitingUsers = before.waitingUsers ∧ after.session2matchkey = before.session2matchkey

theorem matchRequest_waits (free : ams.waitingUsers[matchKey request]? = none) :
    ams.matchRequest isConnected gameId rolls session request =
      { ams := ams.startWaiting (matchKey request) (session, request.userId) } := by
  simp only [matchRequest, free]

theorem matchRequest_pairs (held : ams.waitingUsers[matchKey request]? = some opponent) :
    ams.matchRequest isConnected gameId rolls session request =
      { ams.pairUsers isConnected gameId rolls 0 opponent (session, request.userId) with
        ams := (ams.pairUsers isConnected gameId rolls 0 opponent
          (session, request.userId)).ams.leaveQueue (matchKey request) opponent } := by
  simp only [matchRequest, held]
  rfl

def gameRequest (gameId : String) (rolls : Rolls × Rolls) (opponent user : WaitingUser) :
    CreateGame :=
  ⟨gameId, addForce (addForce {} opponent.2 rolls.1) user.2 rolls.2⟩

theorem pairUsers_created :
    (ams.pairUsers isConnected gameId rolls region opponent user).created =
      if opponent.2 = user.2 then [] else
        (connectedServers isConnected (ams.serverList region)).map (fun info =>
          (gameId, newGame (gameRequest gameId rolls opponent user) (opponent.1, user.1) info)) := by
  unfold pairUsers
  split
  · rfl
  · exact askServers_created ..

theorem pairUsers_frame :
    SameQueue ams (ams.pairUsers isConnected gameId rolls region opponent user).ams := by
  unfold pairUsers
  split
  · exact ⟨rfl, rfl⟩
  · exact ⟨rfl, rfl⟩

theorem pairUsers_replies :
    (ams.pairUsers isConnected gameId rolls region opponent user).replies =
      if opponent.2 = user.2 then
        replyBoth (opponent.1, user.1) { retValue := .illegalRequest }
      else
        (connectedServers isConnected (ams.serverList region)).map (fun info =>
          ⟨info.session, .createGame (gameRequest gameId rolls opponent user)⟩) ++
        if (connectedServers isConnected (ams.serverList region)).isEmpty then
          replyBoth (opponent.1, user.1)
            { retValue := .noServer, retInfo := "没有找到可用的服务器" }
        else [] := by
  unfold pairUsers
  split
  · rfl
  · simp only [offerGame, askServers_replies, askServers_found, gameRequest]
    cases (connectedServers isConnected (ams.serverList region)).isEmpty with
    | false => rfl
    | true => rfl

theorem pairUsers_games (id : String) :
    (ams.pairUsers isConnected gameId rolls region opponent user).ams.games[id]? =
      if opponent.2 ≠ user.2 ∧ gameId = id ∧ ams.games[gameId]? = none then
        (connectedServers isConnected (ams.serverList region)).head?.map
          (newGame (gameRequest gameId rolls opponent user) (opponent.1, user.1))
      else ams.games[id]? := by
  unfold pairUsers
  split
  · rename_i same
    simp [same]
  · rename_i differ
    simp only [offerGame, askServers_games, gameRequest, ne_eq, differ, not_false_eq_true,
      true_and]

theorem matchCancel_of_idle (idle : ams.session2matchkey[session]? = none) :
    ams.matchCancel session = ams := by
  simp only [matchCancel, idle]

theorem matchCancel_session2matchkey :
    (ams.matchCancel session).session2matchkey = ams.session2matchkey := by
  unfold matchCancel
  split
  · rfl
  · rfl

theorem matchCancel_games : (ams.matchCancel session).games = ams.games := by
  unfold matchCancel
  split
  · rfl
  · rfl

theorem createGameResponseGot_of_unknown {response : CreateGameResponse}
    (unknown : ams.games[response.gameId]? = none) :
    ams.createGameResponseGot response = { ams := ams } := by
  simp only [createGameResponseGot, unknown]

theorem createGameResponseGot_of_game {response : CreateGameResponse} {game : GameInfo}
    (filed : ams.games[response.gameId]? = some game) :
    ams.createGameResponseGot response =
      { ams := { ams with games := ams.games.erase response.gameId }
        replies := replyBoth game.sessions (createGameResult game response) } := by
  simp only [createGameResponseGot, filed]

theorem createGameResponseGot_frame (ams : AutoMatchServer) (response : CreateGameResponse) :
    SameQueue ams (ams.createGameResponseGot response).ams ∧
      (ams.createGameResponseGot response).created = [] := by
  unfold createGameResponseGot
  split
  · exact ⟨⟨rfl, rfl⟩, rfl⟩
  · exact ⟨⟨rfl, rfl⟩, rfl⟩

theorem serverTimeout_frame (id : IpPort) :
    SameQueue ams (ams.serverTimeout region id) ∧
      (ams.serverTimeout region id).games = ams.games := by
  unfold serverTimeout
  split
  · exact ⟨⟨rfl, rfl⟩, rfl⟩
  · exact ⟨⟨rfl, rfl⟩, rfl⟩

theorem serverHeartBeat_frame (beat : PvPServerHeartBeat) :
    SameQueue ams (ams.serverHeartBeat session beat) ∧
      (ams.serverHeartBeat session beat).games = ams.games := by
  unfold serverHeartBeat
  split
  · exact ⟨⟨rfl, rfl⟩, rfl⟩
  · exact ⟨⟨rfl, rfl⟩, rfl⟩

end AutoMatchServer

end operations

end LaluneServer.AutoMatch
