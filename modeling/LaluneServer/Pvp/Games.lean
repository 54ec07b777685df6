import LaluneServer.Pvp.GameServer

/- PvpServer: the games that the matchmaker created and the terminals that enter them. A
   terminal finds its game by the user that enters. Not modelled: sockets, heart beats, and
   which datagrams of a terminal reach parseMessage, so that any may. -/
namespace LaluneServer.Pvp

open AutoMatch (CreateGame CreateGameResponse GameInitData)
open DeadlineTimer Transition

/-- A game in `_games`. The number of games created before it stands for the object. -/
structure GameEntry where
  gameId : String
  created : Nat
  server : PvpGameServer Nat
  deriving DecidableEq, Repr

/-- A terminal in `_terminals`, with the object that its weak pointer was set to. -/
structure TerminalEntry where
  key : String
  terminal : Nat
  gameServer : Option Nat := none
  deriving DecidableEq, Repr

structure PvpServer where
  games : List GameEntry := []
  terminals : List TerminalEntry := []
  gamesCreated : Nat := 0
  terminalsCreated : Nat := 0

def enterGameOf {Data : Type*} (codec : GameCodec Data) (data : Data) : Option String :=
  (codec.parse data).bind fun message =>
    if message.type = .userOperation ∧ message.userOperation.operationType = .enterGame then
      some message.userOperation.userId
    else none

/-- The loop over `_games`, which come in some order. -/
def findGameServerByUserId (order : List GameEntry) (userId : String) : Option GameEntry :=
  order.find? (fun entry => entry.server.containsUser userId)

namespace PvpServer
variable {Data : Type*} (codec : GameCodec Data) (s : PvpServer)

/-- A game with the id is not replaced. -/
def addGame (gameId : String) (server : PvpGameServer Nat) : Option PvpServer :=
  if s.games.any (fun entry => entry.gameId = gameId) then none
  else some { s with
    games := s.games ++ [⟨gameId, s.gamesCreated, server⟩]
    gamesCreated := s.gamesCreated + 1 }

def deleteGame (gameId : String) : PvpServer :=
  { s with games := s.games.eraseP (fun entry => entry.gameId = gameId) }

/-- The game time of a new game is whatever its memory held. -/
def handleCreateGameRequest (gameTime : BitVec 32) (request : CreateGame) :
    PvpServer × CreateGameResponse :=
  match s.addGame request.gameId
      { gameTime := gameTime, gameId := request.gameId, gameInitData := request.gameInitData } with
  | some next => (next, ⟨request.gameId, 0⟩)
  | none => (s, ⟨request.gameId, 1⟩)

def setGame (created : Nat) (server : PvpGameServer Nat) : PvpServer :=
  { s with
    games := s.games.map (fun entry =>
      if entry.created = created then { entry with server := server } else entry) }

def setGameServer (key : String) (gameServer : Option Nat) : PvpServer :=
  { s with
    terminals := s.terminals.map (fun entry =>
      if entry.key = key then { entry with gameServer := gameServer } else entry) }

def findTerminal (key : String) : Option TerminalEntry :=
  s.terminals.find? (fun entry => entry.key = key)

def addTerminal (key : String) : PvpServer :=
  match s.findTerminal key with
  | some _ => s
  | none => { s with
      terminals := s.terminals ++ [{ key := key, terminal := s.terminalsCreated }]
      terminalsCreated := s.terminalsCreated + 1 }

def deleteTerminal (terminal : Nat) : PvpServer :=
  { s with terminals := s.terminals.eraseP (fun entry => entry.terminal = terminal) }

/-- `_game_server.lock()`: only `_games` keeps a game alive. -/
def lock (t : TerminalEntry) : Option GameEntry :=
  t.gameServer.bind fun created => s.games.find? (fun entry => entry.created = created)

def enterGame (t : TerminalEntry) (game : GameEntry) : PvpServer :=
  (s.setGame game.created (game.server.addTerminal t.terminal)).setGameServer t.key
    (some game.created)

def quitGame (t : TerminalEntry) : PvpServer :=
  match s.lock t with
  | some game =>
    (s.setGame game.created (game.server.deleteTerminal t.terminal)).setGameServer t.key none
  | none => s

/-- The first half of parseMessage. -/
def lookForGame (t : TerminalEntry) (data : Data) (order : List GameEntry) : PvpServer :=
  match s.lock t with
  | some _ => s
  | none =>
    match enterGameOf codec data with
    | some userId =>
      match findGameServerByUserId order userId with
      | some game => s.enterGame t game
      | none => s
    | none => s

/-- The second half of parseMessage. -/
def acceptMessage (key : String) (data : Data) : PvpServer :=
  match s.findTerminal key with
  | some t =>
    match s.lock t with
    | some game => s.setGame game.created (game.server.handleMessage codec data t.terminal).1
    | none => s
  | none => s

def parseMessage (t : TerminalEntry) (data : Data) (order : List GameEntry) : PvpServer :=
  (s.lookForGame codec t data order).acceptMessage codec t.key data

def terminalTimeout (t : TerminalEntry) : PvpServer := (s.quitGame t).deleteTerminal t.terminal

def gameTick (entry : GameEntry) (timer : Timer) : PvpServer :=
  let updated := { entry.server with timer := timer }.triggerUpdate codec
  if updated.deletesGame then
    (s.setGame entry.created updated.game).deleteGame entry.server.gameId
  else s.setGame entry.created updated.game

end PvpServer

inductive ServerEvent (Data : Type*) where
  | createGame (gameTime : BitVec 32) (request : CreateGame)
  | newEndpoint (key : String)
  | parseMessage (key : String) (data : Data) (order : List GameEntry)
  | terminalTimeout (key : String)
  | expire (created : Nat)
  | triggerUpdate (created : Nat)
  | triggerUpdateAborted (created : Nat)

namespace PvpServer
variable {Data : Type*} (codec : GameCodec Data) (s : PvpServer)

def findGame (created : Nat) : Option GameEntry :=
  s.games.find? (fun entry => entry.created = created)

/-- The order is that in which parseMessage meets the games. -/
def step : ServerEvent Data → Option PvpServer
  | .createGame gameTime request => some (s.handleCreateGameRequest gameTime request).1
  | .newEndpoint key => some (s.addTerminal key)
  | .parseMessage key data order =>
    if order.Perm s.games then
      (s.findTerminal key).map fun t => s.parseMessage codec t data order
    else none
  | .terminalTimeout key => (s.findTerminal key).map s.terminalTimeout
  | .expire created => (s.findGame created).bind fun entry =>
      entry.server.timer.expire.map fun timer =>
        s.setGame created { entry.server with timer := timer }
  | .triggerUpdate created => (s.findGame created).bind fun entry =>
      entry.server.timer.takeExpired.map fun timer => s.gameTick codec entry timer
  | .triggerUpdateAborted created => (s.findGame created).bind fun entry =>
      entry.server.timer.takeAborted.map fun timer =>
        s.setGame created { entry.server with timer := timer }

def gameOf (key : String) : Option Nat :=
  (s.findTerminal key).bind fun t => (s.lock t).map GameEntry.created

def listing (userId : String) : List GameEntry :=
  s.games.filter (fun entry => entry.server.containsUser userId)

def newest (userId : String) : Option Nat := ((s.listing userId).map GameEntry.created).max?

/-- In every order of the games the terminal gets to the newest game of the user. -/
def EntersNewest (key : String) (data : Data) (userId : String) : Prop :=
  ∀ order : List GameEntry, order.Perm s.games →
    ∃ next, s.step codec (.parseMessage key data order) = some next ∧
      next.gameOf key = s.newest userId

section
variable {codec} {s} {t : TerminalEntry} {entry : GameEntry} {next : PvpServer}

theorem findGame_created {created : Nat} (found : s.findGame created = some entry) :
    entry ∈ s.games ∧ entry.created = created := by
  exact ⟨List.mem_of_find?_eq_some found, by simpa using List.find?_some found⟩

theorem findGame_setGame (created other : Nat) (server : PvpGameServer Nat) :
    (s.setGame created server).findGame other = (s.findGame other).map (fun entry =>
      if entry.created = created then { entry with server := server } else entry) := by
  unfold findGame setGame
  rw [List.find?_map]
  congr 2
  funext entry
  by_cases same : entry.created = created
  · simp [same]
  · simp [same]

theorem lock_eq (t : TerminalEntry) : s.lock t = t.gameServer.bind s.findGame := rfl

theorem findTerminal_setGame (created : Nat) (server : PvpGameServer Nat) (key : String) :
    (s.setGame created server).findTerminal key = s.findTerminal key := rfl

theorem lock_setGame (created : Nat) (server : PvpGameServer Nat) (t : TerminalEntry) :
    ((s.setGame created server).lock t).map GameEntry.created =
      (s.lock t).map GameEntry.created := by
  cases held : t.gameServer with
  | none => rw [lock_eq, lock_eq, held]; rfl
  | some stamp =>
    rw [lock_eq, lock_eq, held, Option.bind_some, Option.bind_some, findGame_setGame,
      Option.map_map]
    congr 1
    funext entry
    simp only [Function.comp_apply]
    split <;> rfl

theorem gameOf_setGame (created : Nat) (server : PvpGameServer Nat) (key : String) :
    (s.setGame created server).gameOf key = s.gameOf key := by
  unfold gameOf
  rw [findTerminal_setGame]
  cases s.findTerminal key with
  | none => rfl
  | some t => exact lock_setGame created server t

theorem gameOf_acceptMessage (key other : String) (data : Data) :
    (s.acceptMessage codec key data).gameOf other = s.gameOf other := by
  unfold acceptMessage
  split
  · split
    · exact gameOf_setGame _ _ other
    · rfl
  · rfl

theorem findTerminal_key {key : String} (found : s.findTerminal key = some t) : t.key = key := by
  simpa using List.find?_some found

theorem findTerminal_setGameServer (key : String) (gameServer : Option Nat) :
    (s.setGameServer key gameServer).findTerminal key =
      (s.findTerminal key).map (fun t => { t with gameServer := gameServer }) := by
  have keyed : ((fun entry : TerminalEntry => decide (entry.key = key)) ∘ fun entry =>
      if entry.key = key then { entry with gameServer := gameServer } else entry) =
      fun entry => decide (entry.key = key) := by
    funext entry
    by_cases same : entry.key = key
    · simp [same]
    · simp [same]
  simp only [findTerminal, setGameServer, List.find?_map, keyed]
  cases found : s.terminals.find? (fun entry => entry.key = key) with
  | none => rfl
  | some t => simp only [Option.map_some, findTerminal_key (s := s) found, if_true]

theorem gameOf_enterGame (found : s.findTerminal t.key = some t) (member : entry ∈ s.games) :
    (s.enterGame t entry).gameOf t.key = some entry.created := by
  unfold gameOf enterGame
  rw [findTerminal_setGameServer, findTerminal_setGame, found, Option.map_some, Option.bind_some]
  have exists_game : s.findGame entry.created ≠ none := by
    intro missing
    have absent := List.find?_eq_none.mp missing entry member
    simp at absent
  obtain ⟨game, held⟩ := Option.ne_none_iff_exists'.mp exists_game
  have still : ((s.setGame entry.created (entry.server.addTerminal t.terminal)).findGame
      entry.created).map GameEntry.created = some entry.created := by
    rw [findGame_setGame, held, Option.map_some, Option.map_some]
    simp only [(findGame_created held).2, if_true]
  exact still

theorem gameOf_parseMessage {data : Data} {userId : String} {order : List GameEntry}
    (found : s.findTerminal t.key = some t) (free : s.lock t = none)
    (enters : enterGameOf codec data = some userId) (perm : order.Perm s.games) :
    (s.parseMessage codec t data order).gameOf t.key =
      (findGameServerByUserId order userId).map GameEntry.created := by
  unfold parseMessage
  rw [gameOf_acceptMessage]
  simp only [lookForGame, free, enters]
  cases first : findGameServerByUserId order userId with
  | none => simp only [gameOf, found, Option.bind_some, free, Option.map_none]
  | some entry =>
    exact gameOf_enterGame found (perm.mem_iff.mp (List.mem_of_find?_eq_some first))

structure Distinct (s : PvpServer) : Prop where
  numbers : (s.games.map GameEntry.created).Nodup
  ids : (s.games.map GameEntry.gameId).Nodup
  below : ∀ entry ∈ s.games, entry.created < s.gamesCreated
  named : ∀ entry ∈ s.games, entry.server.gameId = entry.gameId

def RunsTo (codec : GameCodec Data) (before after : PvpGameServer Nat) : Prop :=
  after.gameId = before.gameId ∧ ∀ r : GameRun Nat Data, r.game = some before →
    ∃ q : GameRun Nat Data, Reach (GameRun.step codec) always r q ∧ q.game = some after

structure Advances (codec : GameCodec Data) (s next : PvpServer) : Prop where
  numbers : List.Sublist (next.games.map GameEntry.created) (s.games.map GameEntry.created)
  ids : List.Sublist (next.games.map GameEntry.gameId) (s.games.map GameEntry.gameId)
  count : next.gamesCreated = s.gamesCreated
  games : ∀ entry ∈ next.games, ∃ old ∈ s.games, old.created = entry.created ∧
    old.gameId = entry.gameId ∧ RunsTo codec old.server entry.server

theorem runsTo_refl (server : PvpGameServer Nat) : RunsTo codec server server :=
  ⟨rfl, fun r held => ⟨r, .refl, held⟩⟩

theorem runsTo_trans {a b c : PvpGameServer Nat} (first : RunsTo codec a b)
    (second : RunsTo codec b c) : RunsTo codec a c := by
  refine ⟨second.1.trans first.1, fun r held => ?_⟩
  obtain ⟨q, run, middle⟩ := first.2 r held
  obtain ⟨p, more, last⟩ := second.2 q middle
  exact ⟨p, reach_trans run more, last⟩

theorem runsTo_step {before after : PvpGameServer Nat} (event : GameEvent Nat Data)
    (same : after.gameId = before.gameId) (moves : ∀ r : GameRun Nat Data, r.game = some before →
      ∃ q, r.step codec event = some q ∧ q.game = some after) : RunsTo codec before after := by
  refine ⟨same, fun r held => ?_⟩
  obtain ⟨q, moved, last⟩ := moves r held
  exact ⟨q, .tail event .refl trivial moved, last⟩

theorem advances_of_same (games : next.games = s.games)
    (count : next.gamesCreated = s.gamesCreated) : Advances codec s next := by
  refine ⟨by rw [games], by rw [games], count, fun entry member => ?_⟩
  rw [games] at member
  exact ⟨entry, member, rfl, rfl, runsTo_refl _⟩

theorem advances_trans {middle : PvpServer} (first : Advances codec s middle)
    (second : Advances codec middle next) : Advances codec s next := by
  refine ⟨second.numbers.trans first.numbers, second.ids.trans first.ids,
    second.count.trans first.count, fun entry member => ?_⟩
  obtain ⟨between, kept, number, id, later⟩ := second.games entry member
  obtain ⟨old, held, number', id', earlier⟩ := first.games between kept
  exact ⟨old, held, number'.trans number, id'.trans id, runsTo_trans earlier later⟩

theorem distinct_of_advances (distinct : s.Distinct) (advances : Advances codec s next) :
    next.Distinct := by
  refine ⟨distinct.numbers.sublist advances.numbers, distinct.ids.sublist advances.ids, ?_, ?_⟩
  · intro entry member
    obtain ⟨old, held, number, _⟩ := advances.games entry member
    rw [advances.count, ← number]
    exact distinct.below old held
  · intro entry member
    obtain ⟨old, held, _, id, runs⟩ := advances.games entry member
    rw [runs.1, distinct.named old held, id]

theorem setGame_map {Value : Type*} (field : GameEntry → Value) (created : Nat)
    (server : PvpGameServer Nat)
    (kept : ∀ entry : GameEntry, field { entry with server := server } = field entry) :
    (s.setGame created server).games.map field = s.games.map field := by
  unfold setGame
  rw [List.map_map]
  congr 1
  funext entry
  simp only [Function.comp_apply]
  split
  · exact kept entry
  · rfl

theorem advances_setGame (distinct : s.Distinct) (member : entry ∈ s.games)
    {server : PvpGameServer Nat} (runs : RunsTo codec entry.server server) :
    Advances codec s (s.setGame entry.created server) := by
  refine ⟨?_, ?_, rfl, fun moved changed => ?_⟩
  · rw [setGame_map GameEntry.created _ _ (fun _ => rfl)]
  · rw [setGame_map GameEntry.gameId _ _ (fun _ => rfl)]
  · obtain ⟨old, held, rfl⟩ := List.mem_map.mp changed
    refine ⟨old, held, by split <;> rfl, by split <;> rfl, ?_⟩
    split
    · rename_i same
      rw [List.inj_on_of_nodup_map distinct.numbers held member same]
      exact runs
    · exact runsTo_refl _

theorem findGame_member {created : Nat} (found : s.findGame created = some entry) :
    entry ∈ s.games := (findGame_created found).1

theorem lock_member (held : s.lock t = some entry) : entry ∈ s.games := by
  obtain ⟨created, _, found⟩ := Option.bind_eq_some_iff.mp held
  exact findGame_member found

theorem advances_enterGame (distinct : s.Distinct) (member : entry ∈ s.games) :
    Advances codec s (s.enterGame t entry) := by
  obtain ⟨terminals, added⟩ := PvpGameServer.addTerminal_fields entry.server t.terminal
  have joins : RunsTo codec entry.server (entry.server.addTerminal t.terminal) :=
    runsTo_step (.addTerminal t.terminal) (by rw [added])
      (fun r held => ⟨_, by rw [GameRun.step, held]; rfl, rfl⟩)
  exact advances_trans (advances_setGame distinct member joins) (advances_of_same rfl rfl)

theorem advances_quitGame (distinct : s.Distinct) (t : TerminalEntry) :
    Advances codec s (s.quitGame t) := by
  unfold quitGame
  split
  · rename_i game held
    have leaves : RunsTo codec game.server (game.server.deleteTerminal t.terminal) :=
      runsTo_step (.deleteTerminal t.terminal) rfl
        (fun r held => ⟨_, by rw [GameRun.step, held]; rfl, rfl⟩)
    exact advances_trans (advances_setGame distinct (lock_member held) leaves)
      (advances_of_same rfl rfl)
  · exact advances_of_same rfl rfl

theorem advances_acceptMessage (distinct : s.Distinct) (key : String) (data : Data) :
    Advances codec s (s.acceptMessage codec key data) := by
  unfold acceptMessage
  split
  · rename_i t _
    split
    · rename_i game held
      have handles : RunsTo codec game.server (game.server.handleMessage codec data t.terminal).1 :=
        runsTo_step (.handleMessage data t.terminal) (PvpGameServer.handleMessage_gameId _ _)
          (fun r held => ⟨_, by rw [GameRun.step, held]; rfl, rfl⟩)
      exact advances_setGame distinct (lock_member held) handles
    · exact advances_of_same rfl rfl
  · exact advances_of_same rfl rfl

theorem advances_parseMessage (distinct : s.Distinct) {order : List GameEntry}
    (perm : order.Perm s.games) (t : TerminalEntry) (data : Data) :
    Advances codec s (s.parseMessage codec t data order) := by
  have looks : Advances codec s (s.lookForGame codec t data order) := by
    unfold lookForGame
    split
    · exact advances_of_same rfl rfl
    · split
      · split
        · rename_i first
          exact advances_enterGame distinct (perm.mem_iff.mp (List.mem_of_find?_eq_some first))
        · exact advances_of_same rfl rfl
      · exact advances_of_same rfl rfl
  exact advances_trans looks (advances_acceptMessage (distinct_of_advances distinct looks) t.key data)

theorem advances_timer {timer : Timer} (distinct : s.Distinct) (member : entry ∈ s.games)
    (event : GameEvent Nat Data) (moves : ∀ r : GameRun Nat Data, r.game = some entry.server →
      r.step codec event = some { r with game := some { entry.server with timer := timer } }) :
    Advances codec s (s.setGame entry.created { entry.server with timer := timer }) :=
  advances_setGame distinct member
    (runsTo_step event rfl (fun r held => ⟨_, moves r held, rfl⟩))

theorem mem_eraseP_gameId {games : List GameEntry} {gameId : String}
    (distinct : (games.map GameEntry.gameId).Nodup)
    (member : entry ∈ games.eraseP (fun entry => entry.gameId = gameId)) :
    entry ∈ games ∧ entry.gameId ≠ gameId := by
  induction games with
  | nil => simp at member
  | cons first rest ih =>
    obtain ⟨fresh, distinct⟩ := List.nodup_cons.mp distinct
    by_cases same : first.gameId = gameId
    · rw [List.eraseP_cons_of_pos (by simp [same])] at member
      refine ⟨List.mem_cons_of_mem _ member, fun twice => fresh ?_⟩
      rw [same, ← twice]
      exact List.mem_map_of_mem member
    · rw [List.eraseP_cons_of_neg (by simp [same])] at member
      rcases List.mem_cons.mp member with rfl | later
      · exact ⟨List.mem_cons_self, same⟩
      · obtain ⟨kept, other⟩ := ih distinct later
        exact ⟨List.mem_cons_of_mem _ kept, other⟩

theorem advances_ended (distinct : s.Distinct) (member : entry ∈ s.games)
    (server : PvpGameServer Nat) :
    Advances codec s ((s.setGame entry.created server).deleteGame entry.gameId) := by
  have numbers := setGame_map (s := s) GameEntry.created entry.created server (fun _ => rfl)
  have ids := setGame_map (s := s) GameEntry.gameId entry.created server (fun _ => rfl)
  refine ⟨?_, ?_, rfl, fun kept remains => ?_⟩
  · rw [← numbers]
    exact List.eraseP_sublist.map _
  · rw [← ids]
    exact List.eraseP_sublist.map _
  · obtain ⟨changed, other⟩ := mem_eraseP_gameId (by rw [ids]; exact distinct.ids) remains
    obtain ⟨old, held, moved⟩ := List.mem_map.mp changed
    split at moved
    · rename_i same
      rw [List.inj_on_of_nodup_map distinct.numbers held member same] at moved
      rw [← moved] at other
      exact absurd rfl other
    · rw [moved] at held
      exact ⟨kept, held, rfl, rfl, runsTo_refl _⟩

theorem advances_gameTick {timer : Timer} (distinct : s.Distinct) (member : entry ∈ s.games)
    (taken : entry.server.timer.takeExpired = some timer) :
    Advances codec s (s.gameTick codec entry timer) := by
  have kept := (PvpGameServer.update_spec codec
    { entry.server with timer := timer.expiresFromNow } frameMillisec).2.2.2
  simp only [gameTick]
  split
  · rw [distinct.named entry member]
    exact advances_ended distinct member _
  · rename_i survives
    have alive : ({ entry.server with timer := timer }.triggerUpdate codec).deletesGame = false :=
      Bool.eq_false_of_not_eq_true survives
    have ticks : RunsTo codec entry.server
        ({ entry.server with timer := timer }.triggerUpdate codec).game := by
      refine runsTo_step .triggerUpdate ?_ (fun r held => ⟨r.record entry.server.terminals
        ({ entry.server with timer := timer }.triggerUpdate codec), ?_, ?_⟩)
      · rw [PvpGameServer.triggerUpdate, kept alive]
      · rw [GameRun.step, held, Option.bind_some, taken, Option.map_some]
      · simp only [GameRun.record, alive, Bool.false_eq_true, if_false]
    exact advances_setGame distinct member ticks

theorem distinct_addGame {gameId : String} {server : PvpGameServer Nat} (distinct : s.Distinct)
    (named : server.gameId = gameId) (added : s.addGame gameId server = some next) :
    next.Distinct := by
  unfold addGame at added
  split at added
  · contradiction
  · rename_i free
    cases added
    constructor
    · rw [List.map_append, List.map_singleton]
      refine List.nodup_append.mpr ⟨distinct.numbers, List.nodup_singleton _, ?_⟩
      rintro old member new last rfl
      obtain ⟨entry, held, same⟩ := List.mem_map.mp member
      rw [List.mem_singleton.mp last] at same
      exact absurd same (Nat.ne_of_lt (distinct.below entry held))
    · rw [List.map_append, List.map_singleton]
      refine List.nodup_append.mpr ⟨distinct.ids, List.nodup_singleton _, ?_⟩
      rintro old member new last rfl
      obtain ⟨entry, held, same⟩ := List.mem_map.mp member
      rw [List.mem_singleton.mp last] at same
      exact free (List.any_eq_true.mpr ⟨entry, held, by simp [same]⟩)
    · intro entry member
      rcases List.mem_append.mp member with old | new
      · exact Nat.lt_succ_of_lt (distinct.below entry old)
      · rw [List.mem_singleton.mp new]
        exact Nat.lt_succ_self _
    · intro entry member
      rcases List.mem_append.mp member with old | new
      · exact distinct.named entry old
      · rw [List.mem_singleton.mp new]
        exact named

structure Inv (codec : GameCodec Data) (s : PvpServer) : Prop where
  distinct : s.Distinct
  runs : ∀ entry ∈ s.games, ∃ gameTime init, ∃ r : GameRun Nat Data,
    Reach (GameRun.step codec) always (GameRun.created gameTime entry.gameId init) r ∧
      r.game = some entry.server

theorem inv_of_advances (inv : Inv codec s) (advances : Advances codec s next) :
    Inv codec next := by
  refine ⟨distinct_of_advances inv.distinct advances, fun entry member => ?_⟩
  obtain ⟨old, held, _, id, _, moves⟩ := advances.games entry member
  obtain ⟨gameTime, init, r, run, game⟩ := inv.runs old held
  obtain ⟨q, more, last⟩ := moves r game
  rw [id] at run
  exact ⟨gameTime, init, q, reach_trans run more, last⟩

theorem inv_createGame (inv : Inv codec s) (gameTime : BitVec 32) (request : CreateGame) :
    Inv codec (s.handleCreateGameRequest gameTime request).1 := by
  unfold handleCreateGameRequest
  split
  · rename_i next added
    change Inv codec next
    refine ⟨distinct_addGame inv.distinct (by rfl) added, fun entry member => ?_⟩
    unfold addGame at added
    split at added
    · contradiction
    · cases added
      rcases List.mem_append.mp member with old | new
      · exact inv.runs entry old
      · rw [List.mem_singleton.mp new]
        exact ⟨gameTime, request.gameInitData, _, .refl, rfl⟩
  · exact inv

theorem step_inv {event : ServerEvent Data} (inv : Inv codec s)
    (moved : s.step codec event = some next) : Inv codec next := by
  cases event with
  | createGame gameTime request =>
    cases moved
    exact inv_createGame inv gameTime request
  | newEndpoint key =>
    cases moved
    unfold addTerminal
    split
    · exact inv
    · exact inv_of_advances inv (advances_of_same rfl rfl)
  | parseMessage key data order =>
    simp only [step] at moved
    split at moved
    · rename_i perm
      obtain ⟨t, _, rfl⟩ := Option.map_eq_some_iff.mp moved
      exact inv_of_advances inv (advances_parseMessage inv.distinct perm t data)
    · contradiction
  | terminalTimeout key =>
    obtain ⟨t, _, rfl⟩ := Option.map_eq_some_iff.mp moved
    exact inv_of_advances inv (advances_trans (advances_quitGame inv.distinct t)
      (advances_of_same rfl rfl))
  | expire created =>
    obtain ⟨entry, found, moved⟩ := Option.bind_eq_some_iff.mp moved
    obtain ⟨timer, fired, rfl⟩ := Option.map_eq_some_iff.mp moved
    obtain ⟨member, rfl⟩ := findGame_created found
    exact inv_of_advances inv (advances_timer inv.distinct member .expire (fun r held => by
      rw [GameRun.step, held, Option.bind_some, fired, Option.map_some]))
  | triggerUpdate created =>
    obtain ⟨entry, found, moved⟩ := Option.bind_eq_some_iff.mp moved
    obtain ⟨timer, taken, rfl⟩ := Option.map_eq_some_iff.mp moved
    exact inv_of_advances inv
      (advances_gameTick inv.distinct (findGame_created found).1 taken)
  | triggerUpdateAborted created =>
    obtain ⟨entry, found, moved⟩ := Option.bind_eq_some_iff.mp moved
    obtain ⟨timer, taken, rfl⟩ := Option.map_eq_some_iff.mp moved
    obtain ⟨member, rfl⟩ := findGame_created found
    exact inv_of_advances inv (advances_timer inv.distinct member .triggerUpdateAborted
      (fun r held => by rw [GameRun.step, held, Option.bind_some, taken, Option.map_some]))

theorem inv_initial : Inv codec {} := by
  refine ⟨⟨List.nodup_nil, List.nodup_nil, ?_, ?_⟩, ?_⟩
  all_goals
    intro entry member
    cases member

theorem inv_of_run (run : Reach (step codec) always {} s) : Inv codec s :=
  reach_invariant (Inv codec) inv_initial (fun _ _ _ inv _ moved => step_inv inv moved) run

theorem games_in_lockstep (run : Reach (step codec) always {} s) (member : entry ∈ s.games) :
    ∃ r : GameRun Nat Data, r.game = some entry.server ∧
      (r.ticks.length * frameMillisec < 2 ^ 31 → r.Lockstep codec) := by
  obtain ⟨_, _, r, history, game⟩ := (inv_of_run run).runs entry member
  exact ⟨r, game, GameRun.lockstep_broadcast history⟩

theorem entersNewest_iff_first {key : String} {data : Data} {userId : String}
    (found : s.findTerminal key = some t) (free : s.lock t = none)
    (enters : enterGameOf codec data = some userId) :
    s.EntersNewest codec key data userId ↔ ∀ order : List GameEntry, order.Perm s.games →
      (findGameServerByUserId order userId).map GameEntry.created = s.newest userId := by
  obtain rfl := findTerminal_key found
  have moves (order : List GameEntry) (perm : order.Perm s.games) :
      s.step codec (.parseMessage t.key data order) =
        some (s.parseMessage codec t data order) := by
    simp only [step, perm, if_true, found, Option.map_some]
  constructor
  · intro right order perm
    obtain ⟨next, moved, entered⟩ := right order perm
    rw [moves order perm] at moved
    cases moved
    rw [← entered, gameOf_parseMessage found free enters perm]
  · intro first order perm
    refine ⟨_, moves order perm, ?_⟩
    rw [gameOf_parseMessage found free enters perm, first order perm]

theorem findGame_put_first {userId : String} (listed : entry ∈ s.listing userId) :
    (entry :: s.games.erase entry).Perm s.games ∧
      findGameServerByUserId (entry :: s.games.erase entry) userId = some entry := by
  obtain ⟨member, lists⟩ := List.mem_filter.mp listed
  exact ⟨(List.perm_cons_erase member).symm, List.find?_cons_of_pos lists⟩

theorem findGame_of_perm (userId : String) {order : List GameEntry} (perm : order.Perm s.games) :
    ∃ found : List GameEntry, found.Perm (s.listing userId) ∧
      findGameServerByUserId order userId = found.head? :=
  ⟨_, perm.filter _, List.head?_filter.symm⟩

/-- In every reachable state, an EnterGame leads to the newest game of the user, whatever the
    order of the games, exactly when at most one existing game lists the user. -/
theorem enters_newest_iff {key : String} {data : Data} {userId : String}
    (run : Reach (step codec) always {} s) (found : s.findTerminal key = some t)
    (free : s.lock t = none) (enters : enterGameOf codec data = some userId) :
    s.EntersNewest codec key data userId ↔ (s.listing userId).length ≤ 1 := by
  have numbers : ((s.listing userId).map GameEntry.created).Nodup :=
    (inv_of_run run).distinct.numbers.sublist (List.filter_sublist.map _)
  rw [entersNewest_iff_first found free enters]
  constructor
  · intro first
    by_contra several
    match listed : s.listing userId with
    | [] => simp [listed] at several
    | [_] => simp [listed] at several
    | one :: other :: rest =>
      have oneListed : one ∈ s.listing userId := by simp [listed]
      have otherListed : other ∈ s.listing userId := by simp [listed]
      have here := findGame_put_first oneListed
      have there := findGame_put_first otherListed
      have firstHere := first _ here.1
      have firstThere := first _ there.1
      rw [here.2] at firstHere
      rw [there.2, ← firstHere] at firstThere
      rw [listed] at numbers
      simp only [List.map_cons, List.nodup_cons, List.mem_cons, not_or] at numbers
      exact numbers.1.1 (Option.some.inj firstThere).symm
  · intro few order perm
    obtain ⟨games, same, first⟩ := findGame_of_perm userId perm
    rw [first, newest]
    match listed : s.listing userId with
    | [] =>
      rw [listed] at same
      rw [same.eq_nil]
      rfl
    | [one] =>
      rw [listed] at same
      rw [List.perm_singleton.mp same]
      rfl
    | _ :: _ :: _ => simp [listed] at few

end

open GameRun (plainCodec operation)

def matchOf (gameId first second : String) : CreateGame :=
  { gameId := gameId, gameInitData := { forces := [⟨first, 1, []⟩, ⟨second, 2, []⟩] } }

theorem enters_only_game : ∃ s : PvpServer, Reach (step plainCodec) always {} s ∧
    s.EntersNewest plainCodec "k" (operation .enterGame "a") "a" := by
  obtain ⟨s, run, facts⟩ := execWithin_any (step plainCodec) (fun _ _ => True) {}
    [.createGame 0 (matchOf "g" "a" "b"), .createGame 0 (matchOf "h" "c" "d"), .newEndpoint "k"]
    (fun s => s.findTerminal "k" = some ⟨"k", 0, none⟩ ∧ s.lock ⟨"k", 0, none⟩ = none ∧
      (s.listing "a").length ≤ 1) (by decide +kernel)
  obtain ⟨found, free, one⟩ := of_decide_eq_true facts
  exact ⟨s, run, (enters_newest_iff run found free rfl).mpr one⟩

/-- A match that never started is met before the player's next match. -/
theorem player_enters_old_game :
    ¬∀ (s : PvpServer) (t : TerminalEntry), Reach (step plainCodec) always {} s →
      s.findTerminal "k" = some t → s.lock t = none →
        s.EntersNewest plainCodec "k" (operation .enterGame "a") "a" := by
  intro claim
  obtain ⟨s, run, facts⟩ := execWithin_any (step plainCodec) (fun _ _ => True) {}
    [.createGame 0 (matchOf "g" "a" "b"), .createGame 0 (matchOf "h" "a" "c"), .newEndpoint "k"]
    (fun s => s.findTerminal "k" = some ⟨"k", 0, none⟩ ∧ s.lock ⟨"k", 0, none⟩ = none ∧
      (s.step plainCodec (.parseMessage "k" (operation .enterGame "a") s.games)).map
        (fun next => next.gameOf "k") = some (some 0) ∧ s.newest "a" = some 1) (by decide +kernel)
  obtain ⟨found, free, entered, newest⟩ := of_decide_eq_true facts
  obtain ⟨next, moved, right⟩ := claim s _ run found free s.games (List.Perm.refl _)
  rw [moved, Option.map_some, right, newest] at entered
  simp at entered

end PvpServer

end LaluneServer.Pvp
