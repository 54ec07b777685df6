import LaluneServer.AutoMatch.FairGames
import LaluneServer.Pvp.Games

/- The matchmaker and its battle servers over their control connections. A battle server
   registers and beats, is asked for games and answers; both directions of a connection are
   queues of whole messages, and what is on the way is lost with the connection. What the
   socket of a battle server makes of the bytes is the next layer, `SocketService`. -/
namespace LaluneServer.Pvp

open AutoMatch (CreateGame CreateGameResponse IpPort Lobby Message PrioritySort
  PvPServerHeartBeat PvPServerRegister Reply Rolls Session)
open Std (TreeMap)
open DeadlineTimer Transition

inductive BattleMessage
  | register (request : PvPServerRegister)
  | heartBeat (beat : PvPServerHeartBeat)
  | createGameResponse (response : CreateGameResponse)
  deriving DecidableEq, Repr

namespace PvpServer

/-- Region and priority are not set. -/
def registerToControlServer (address : IpPort) : BattleMessage :=
  .register { ip := address.ip, port := address.port, region := 0, priority := 0 }

def sendHeartbeat (address : IpPort) : BattleMessage :=
  .heartBeat { ip := address.ip, port := address.port }

def start (address : IpPort) : List BattleMessage :=
  [registerToControlServer address, sendHeartbeat address]

/-- A failed registration is only logged. -/
def parseControlMessage (s : PvpServer) (gameTime : BitVec 32) :
    Message → PvpServer × List BattleMessage
  | .createGame request =>
    let handled := s.handleCreateGameRequest gameTime request
    (handled.1, [.createGameResponse handled.2])
  | .registerResponse _ => (s, [])
  | .matchResponse _ => (s, [])

end PvpServer

/-- A control connection, with what is on the way to the matchmaker and to the server. -/
structure Link where
  server : Nat
  up : List BattleMessage := []
  down : List Message := []
  lost : Bool := false
  deriving DecidableEq, Repr

/-- `ended` holds the games that were destroyed, as they were before it. -/
structure BattleService where
  lobby : Lobby := {}
  links : TreeMap Session Link := ∅
  servers : Nat → PvpServer := fun _ => {}
  ended : List (Nat × GameEntry) := []

inductive BattleEvent (Data : Type*) where
  | matchRequest (session : Session) (request : AutoMatch.MatchRequest) (gameId : String)
      (rolls : Rolls × Rolls)
  | userDisconnected (session : Session)
  | serverTimeout (region : Int) (id : IpPort)
  | connect (session : Session) (server : Nat)
  | heartBeatTrigger (session : Session)
  | lose (session : Session)
  | serverDisconnected (session : Session)
  | receive (session : Session)
  | parseControlMessage (session : Session) (gameTime : BitVec 32)
  | game (server : Nat) (event : ServerEvent Data)

def BattleMessage.event (session : Session) (address : IpPort) :
    BattleMessage → AutoMatch.Event
  | .register request => .serverRegister session request
  | .heartBeat beat => .serverHeartBeat session beat
  | .createGameResponse response => .createGameResponse address response

def messagesFor (session : Session) (replies : List Reply) : List Message :=
  (replies.filter (fun reply => reply.session = session)).map Reply.message

def Link.push (replies : List Reply) (session : Session) (link : Link) : Link :=
  if link.lost then link else { link with down := link.down ++ messagesFor session replies }

namespace BattleService
variable {Data : Type*}

def handle (b : BattleService) (order : PrioritySort) (event : AutoMatch.Event) :
    Option BattleService :=
  (b.lobby.step order event).map fun lobby =>
    { b with
      lobby := lobby
      links := b.links.map (Link.push
        (lobby.world.replies.drop b.lobby.world.replies.length)) }

def setServer (b : BattleService) (server : Nat) (s : PvpServer) : BattleService :=
  { b with
    servers := Function.update b.servers server s
    ended := b.ended ++ (((b.servers server).games.filter (fun entry =>
      entry.created ∉ s.games.map GameEntry.created)).map (fun entry => (server, entry))) }

def openLink (b : BattleService) (session : Session) : Option Link :=
  b.links[session]?.filter (fun link => !link.lost)

def parsed (b : BattleService) (session : Session) (link : Link) (gameTime : BitVec 32)
    (message : Message) : BattleService :=
  let handled := (b.servers link.server).parseControlMessage gameTime message
  { b.setServer link.server handled.1 with
    links := b.links.insert session { link with up := link.up ++ handled.2 } }

variable (order : PrioritySort) (address : Nat → IpPort) (codec : GameCodec Data)

/-- Which address a server has is left open, and so is when its timers fire. -/
def step (b : BattleService) : BattleEvent Data → Option BattleService
  | .matchRequest session request gameId rolls =>
    b.handle order (.matchRequest session request gameId rolls)
  | .userDisconnected session => b.handle order (.userDisconnected session)
  | .serverTimeout region id => b.handle order (.serverTimeout region id)
  | .connect session server =>
    if b.links.contains session then none
    else some { b with
      links := b.links.insert session
        { server := server, up := PvpServer.start (address server) } }
  | .heartBeatTrigger session => (b.openLink session).map fun link =>
      { b with
        links := b.links.insert session
          { link with up := link.up ++ [PvpServer.sendHeartbeat (address link.server)] } }
  | .lose session => (b.openLink session).map fun link =>
      { b with links := b.links.insert session { link with up := [], down := [], lost := true } }
  | .serverDisconnected session =>
    if b.links[session]?.any Link.lost then b.handle order (.serverDisconnected session)
    else none
  | .receive session => (b.openLink session).bind fun link =>
      match link.up with
      | [] => none
      | message :: rest =>
        { b with links := b.links.insert session { link with up := rest } }.handle order
          (message.event session (address link.server))
  | .parseControlMessage session gameTime => (b.openLink session).bind fun link =>
      match link.down with
      | [] => none
      | message :: rest => some (b.parsed session { link with down := rest } gameTime message)
  | .game server event =>
    match event with
    | .createGame _ _ => none
    | _ => ((b.servers server).step codec event).map (b.setServer server)

def distinctIds (b : BattleService) : BattleEvent Data → Prop
  | .matchRequest session request gameId rolls =>
    b.lobby.distinctIds (.matchRequest session request gameId rolls)
  | _ => True

instance (b : BattleService) : ∀ e : BattleEvent Data, Decidable (b.distinctIds e)
  | .matchRequest session request gameId rolls =>
    inferInstanceAs (Decidable (b.lobby.distinctIds (.matchRequest session request gameId rolls)))
  | .userDisconnected _ => inferInstanceAs (Decidable True)
  | .serverTimeout .. => inferInstanceAs (Decidable True)
  | .connect .. => inferInstanceAs (Decidable True)
  | .heartBeatTrigger _ => inferInstanceAs (Decidable True)
  | .lose _ => inferInstanceAs (Decidable True)
  | .serverDisconnected _ => inferInstanceAs (Decidable True)
  | .receive _ => inferInstanceAs (Decidable True)
  | .parseControlMessage .. => inferInstanceAs (Decidable True)
  | .game .. => inferInstanceAs (Decidable True)

end BattleService

namespace PvpServer

section lasting
variable {Data : Type*} {codec : GameCodec Data} {s next : PvpServer} {t : TerminalEntry}
  {entry : GameEntry}

def Idle (s : PvpServer) : Prop :=
  ∀ entry ∈ s.games, entry.server.state = .waiting → entry.server.timer = {}

def SameGame (old entry : GameEntry) : Prop :=
  entry.created = old.created ∧ entry.gameId = old.gameId ∧
    entry.server.gameInitData = old.server.gameInitData

theorem SameGame.trans {first second third : GameEntry} (one : SameGame first second)
    (two : SameGame second third) : SameGame first third :=
  ⟨two.1.trans one.1, two.2.1.trans one.2.1, two.2.2.trans one.2.2⟩

structure Keeps (s next : PvpServer) : Prop where
  idle : s.Idle → next.Idle
  ids : next.games.map GameEntry.gameId = s.games.map GameEntry.gameId
  games : ∀ old ∈ s.games, ∃ entry ∈ next.games, SameGame old entry

theorem keeps_of_same (games : next.games = s.games) : Keeps s next := by
  constructor
  · intro idle entry member
    rw [games] at member
    exact idle entry member
  · rw [games]
  · intro old member
    exact ⟨old, games ▸ member, rfl, rfl, rfl⟩

theorem Keeps.trans {middle : PvpServer} (first : Keeps s middle) (second : Keeps middle next) :
    Keeps s next := by
  refine ⟨fun idle => second.idle (first.idle idle), second.ids.trans first.ids, ?_⟩
  intro old member
  obtain ⟨entry, held, same⟩ := first.games old member
  obtain ⟨last, kept, same'⟩ := second.games entry held
  exact ⟨last, kept, same.trans same'⟩

theorem keeps_setGame (distinct : s.Distinct) (member : entry ∈ s.games)
    {server : PvpGameServer Nat} (initData : server.gameInitData = entry.server.gameInitData)
    (idle : (entry.server.state = .waiting → entry.server.timer = {}) →
      server.state = .waiting → server.timer = {}) :
    Keeps s (s.setGame entry.created server) := by
  constructor
  · intro before changed held
    obtain ⟨old, present, rfl⟩ := List.mem_map.mp held
    split
    · exact idle (before entry member)
    · exact before old present
  · exact setGame_map GameEntry.gameId _ _ (fun _ => rfl)
  · intro old present
    refine ⟨_, List.mem_map_of_mem present, ?_⟩
    split
    · rename_i same
      obtain rfl := List.inj_on_of_nodup_map distinct.numbers present member same
      exact ⟨rfl, rfl, initData⟩
    · exact ⟨rfl, rfl, rfl⟩

theorem keeps_enterGame (distinct : s.Distinct) (member : entry ∈ s.games) :
    Keeps s (s.enterGame t entry) := by
  obtain ⟨terminals, added⟩ := PvpGameServer.addTerminal_fields entry.server t.terminal
  refine (keeps_setGame distinct member ?_ ?_).trans (keeps_of_same rfl)
  · rw [added]
  · rw [added]
    exact fun idle => idle

theorem keeps_quitGame (distinct : s.Distinct) (t : TerminalEntry) : Keeps s (s.quitGame t) := by
  unfold quitGame
  split
  · rename_i game held
    have leaves : Keeps s (s.setGame game.created (game.server.deleteTerminal t.terminal)) :=
      keeps_setGame distinct (lock_member held) rfl (fun idle => idle)
    exact leaves.trans (keeps_of_same rfl)
  · exact keeps_of_same rfl

theorem keeps_acceptMessage (distinct : s.Distinct) (key : String) (data : Data) :
    Keeps s (s.acceptMessage codec key data) := by
  unfold acceptMessage
  split
  · rename_i t _
    split
    · rename_i game held
      rcases PvpGameServer.handleMessage_cases codec game.server data t.terminal with
        ⟨_, same | ⟨_, started⟩⟩ | ⟨op, _, added⟩
      · rw [same]
        exact keeps_setGame distinct (lock_member held) rfl (fun idle => idle)
      · rw [started]
        refine keeps_setGame distinct (lock_member held) rfl (fun _ waiting => ?_)
        simp [PvpGameServer.start] at waiting
      · rw [added]
        exact keeps_setGame distinct (lock_member held) rfl (fun idle => idle)
    · exact keeps_of_same rfl
  · exact keeps_of_same rfl

theorem keeps_parseMessage (distinct : s.Distinct) {order : List GameEntry}
    (perm : order.Perm s.games) (t : TerminalEntry) (data : Data) :
    Keeps s (s.parseMessage codec t data order) := by
  have looks : Keeps s (s.lookForGame codec t data order) ∧
      (s.lookForGame codec t data order).Distinct := by
    unfold lookForGame
    split
    · exact ⟨keeps_of_same rfl, distinct⟩
    · split
      · split
        · rename_i game first
          have member := perm.mem_iff.mp (List.mem_of_find?_eq_some first)
          have advances : Advances codec s (s.enterGame t game) :=
            advances_enterGame distinct member
          exact ⟨keeps_enterGame distinct member, distinct_of_advances distinct advances⟩
        · exact ⟨keeps_of_same rfl, distinct⟩
      · exact ⟨keeps_of_same rfl, distinct⟩
  exact looks.1.trans (keeps_acceptMessage looks.2 t.key data)

structure Lasting (s next : PvpServer) : Prop where
  idle : next.Idle
  ids : ∀ entry ∈ next.games, ∃ old ∈ s.games, old.gameId = entry.gameId
  games : ∀ old ∈ s.games, (∃ entry ∈ next.games, SameGame old entry) ∨
    old.created ∉ next.games.map GameEntry.created ∧ old.server.state = .running ∧
      old.server.terminals = []

theorem Keeps.lasting (keeps : Keeps s next) (idle : s.Idle) : Lasting s next := by
  refine ⟨keeps.idle idle, fun entry member => ?_,
    fun old member => .inl (keeps.games old member)⟩
  have listed : entry.gameId ∈ s.games.map GameEntry.gameId :=
    keeps.ids ▸ List.mem_map_of_mem member
  exact List.mem_map.mp listed

theorem running_of_wait (idle : s.Idle) (member : entry ∈ s.games)
    (waits : entry.server.timer ≠ {}) : entry.server.state = .running := by
  cases state : entry.server.state with
  | waiting => exact absurd (idle entry member state) waits
  | running => rfl

theorem keeps_timer {timer : Timer} (distinct : s.Distinct) (idle : s.Idle)
    (member : entry ∈ s.games) (waits : entry.server.timer ≠ {}) :
    Keeps s (s.setGame entry.created { entry.server with timer := timer }) := by
  refine keeps_setGame distinct member rfl (fun _ waiting => ?_)
  have running := running_of_wait idle member waits
  rw [show entry.server.state = .waiting from waiting] at running
  contradiction

theorem games_ended (distinct : s.Distinct) (member : entry ∈ s.games)
    (server : PvpGameServer Nat) (old : GameEntry) :
    old ∈ ((s.setGame entry.created server).deleteGame entry.gameId).games ↔
      old ∈ s.games ∧ old ≠ entry := by
  have ids : ((s.setGame entry.created server).games.map GameEntry.gameId).Nodup := by
    rw [setGame_map GameEntry.gameId _ _ (fun _ => rfl)]
    exact distinct.ids
  constructor
  · intro kept
    obtain ⟨changed, other⟩ := mem_eraseP_gameId ids kept
    obtain ⟨before, held, moved⟩ := List.mem_map.mp changed
    split at moved
    · rename_i same
      rw [List.inj_on_of_nodup_map distinct.numbers held member same] at moved
      rw [← moved] at other
      exact absurd rfl other
    · subst moved
      exact ⟨held, fun same => other (by rw [same])⟩
  · rintro ⟨held, apart⟩
    have changed : old ∈ (s.setGame entry.created server).games := by
      refine List.mem_map.mpr ⟨old, held, if_neg (fun same => apart ?_)⟩
      exact List.inj_on_of_nodup_map distinct.numbers held member same
    refine (List.mem_eraseP_of_neg ?_).mpr changed
    simp only [decide_eq_true_eq]
    exact fun same => apart (List.inj_on_of_nodup_map distinct.ids held member same)

theorem lasting_gameTick {timer : Timer} (distinct : s.Distinct) (idle : s.Idle)
    (member : entry ∈ s.games) (waits : entry.server.timer ≠ {}) :
    Lasting s (s.gameTick codec entry timer) := by
  have running := running_of_wait idle member waits
  simp only [gameTick]
  split
  · rename_i deleted
    have alone := (PvpGameServer.update_spec codec { entry.server with
      timer := timer.expiresFromNow } frameMillisec).2.2.1.mp deleted
    rw [distinct.named entry member]
    constructor
    · intro kept held
      exact idle kept ((games_ended distinct member _ kept).mp held).1
    · intro kept held
      exact ⟨kept, ((games_ended distinct member _ kept).mp held).1, rfl⟩
    · intro old held
      by_cases same : old = entry
      · subst same
        refine .inr ⟨fun kept => ?_, running, alone⟩
        obtain ⟨other, remains, number⟩ := List.mem_map.mp kept
        obtain ⟨present, apart⟩ := (games_ended distinct held _ other).mp remains
        exact apart (List.inj_on_of_nodup_map distinct.numbers present held number)
      · exact .inl ⟨old, (games_ended distinct member _ old).mpr ⟨held, same⟩, rfl, rfl, rfl⟩
  · rename_i survives
    have alive : ({ entry.server with timer := timer }.triggerUpdate codec).deletesGame = false :=
      Bool.eq_false_of_not_eq_true survives
    have kept := (PvpGameServer.update_spec codec { entry.server with
      timer := timer.expiresFromNow } frameMillisec).2.2.2 alive
    refine (keeps_setGame distinct member ?_ ?_).lasting idle
    · rw [PvpGameServer.triggerUpdate, kept]
    · rw [PvpGameServer.triggerUpdate, kept]
      intro _ waiting
      rw [show entry.server.state = .waiting from waiting] at running
      contradiction

theorem lasting_step {event : ServerEvent Data} (distinct : s.Distinct) (idle : s.Idle)
    (own : ∀ gameTime request, event ≠ .createGame gameTime request)
    (moved : s.step codec event = some next) : Lasting s next := by
  cases event with
  | createGame gameTime request => exact absurd rfl (own gameTime request)
  | newEndpoint key =>
    cases moved
    have same : (s.addTerminal key).games = s.games := by
      unfold addTerminal
      split
      · rfl
      · rfl
    exact (keeps_of_same same).lasting idle
  | parseMessage key data order =>
    simp only [step] at moved
    split at moved
    · rename_i perm
      obtain ⟨t, _, rfl⟩ := Option.map_eq_some_iff.mp moved
      exact (keeps_parseMessage distinct perm t data).lasting idle
    · contradiction
  | terminalTimeout key =>
    obtain ⟨t, _, rfl⟩ := Option.map_eq_some_iff.mp moved
    have quits : Keeps s (s.terminalTimeout t) := (keeps_quitGame distinct t).trans
      (keeps_of_same rfl)
    exact quits.lasting idle
  | expire created =>
    obtain ⟨entry, found, moved⟩ := Option.bind_eq_some_iff.mp moved
    obtain ⟨timer, fired, rfl⟩ := Option.map_eq_some_iff.mp moved
    obtain ⟨member, rfl⟩ := findGame_created found
    refine (keeps_timer distinct idle member (fun none_set => ?_)).lasting idle
    rw [none_set] at fired
    contradiction
  | triggerUpdate created =>
    obtain ⟨entry, found, moved⟩ := Option.bind_eq_some_iff.mp moved
    obtain ⟨timer, taken, rfl⟩ := Option.map_eq_some_iff.mp moved
    refine lasting_gameTick distinct idle (findGame_created found).1 (fun none_set => ?_)
    rw [none_set] at taken
    contradiction
  | triggerUpdateAborted created =>
    obtain ⟨entry, found, moved⟩ := Option.bind_eq_some_iff.mp moved
    obtain ⟨timer, taken, rfl⟩ := Option.map_eq_some_iff.mp moved
    obtain ⟨member, rfl⟩ := findGame_created found
    refine (keeps_timer distinct idle member (fun none_set => ?_)).lasting idle
    rw [none_set] at taken
    contradiction

theorem createGame_new {request : CreateGame} (gameTime : BitVec 32)
    (new : ∀ entry ∈ s.games, entry.gameId ≠ request.gameId) :
    ∃ entry : GameEntry, (s.handleCreateGameRequest gameTime request).2 = ⟨request.gameId, 0⟩ ∧
      (s.handleCreateGameRequest gameTime request).1.games = s.games ++ [entry] ∧
      entry.gameId = request.gameId ∧ entry.server.gameInitData = request.gameInitData ∧
      entry.server.timer = {} := by
  have absent : s.games.any (fun entry => entry.gameId = request.gameId) = false := by
    simpa using new
  unfold handleCreateGameRequest addGame
  rw [absent]
  exact ⟨_, rfl, rfl, rfl, rfl, rfl⟩

end lasting

end PvpServer

end LaluneServer.Pvp
