import LaluneServer.AutoMatch.Server
import LaluneServer.Lib.DeadlineTimer

/- PvpGameServer: one game of the battle server. It collects the operations of the players
   and sends them, once in a frame, to every terminal in the game. -/
namespace LaluneServer.Pvp

open AutoMatch (GameInitData)
open DeadlineTimer Transition

inductive OperationType
  | enterGame
  | quitGame
  | move
  | useSkill
  deriving DecidableEq, Repr

structure UserOperation where
  userId : String := ""
  opType : Option OperationType := none
  gameId : Option (BitVec 32) := none
  unitId : Option (BitVec 32) := none
  skillId : Option (BitVec 32) := none
  dirX : Option (BitVec 32) := none
  dirY : Option (BitVec 32) := none
  timestamp : Option (BitVec 32) := none
  skillRange : Option (BitVec 32) := none
  deriving DecidableEq, Repr

def UserOperation.operationType (op : UserOperation) : OperationType := op.opType.getD .enterGame

structure UserOperationPackage where
  operations : List UserOperation := []
  timestamp : Option (BitVec 32) := none
  deriving DecidableEq, Repr

inductive MessageType
  | heartBeat
  | gameInitData
  | userOperation
  | userOperationPackage
  deriving DecidableEq, Repr

structure GameMessage where
  type : MessageType
  gameInitData : Option GameInitData := none
  userOp : Option UserOperation := none
  userOpPackage : Option UserOperationPackage := none
  deriving DecidableEq, Repr

def GameMessage.userOperation (message : GameMessage) : UserOperation := message.userOp.getD {}

structure GameCodec (Data : Type*) where
  parse : Data → Option GameMessage
  serialize : GameMessage → Data

inductive GameState
  | waiting
  | running
  deriving DecidableEq, Repr

def frameRate : Nat := 30

def frameMillisec : Nat := 1000 / frameRate

/-- `_game_time` has no value before start(). -/
structure PvpGameServer (Terminal : Type*) where
  gameInitData : GameInitData := {}
  wrappedOperations : UserOperationPackage := {}
  state : GameState := .waiting
  gameId : String := ""
  terminals : List Terminal := []
  timer : Timer := {}
  gameTime : BitVec 32
  deriving DecidableEq, Repr

/-- What update leaves behind: the game, the package, the calls of sendMessage and whether
    it calls deleteGame. -/
structure Updated (Terminal Data : Type*) where
  game : PvpGameServer Terminal
  package : UserOperationPackage
  sent : List (Terminal × Data)
  deletesGame : Bool

def packageMessage (package : UserOperationPackage) : GameMessage :=
  { type := .userOperationPackage, userOpPackage := some package }

namespace PvpGameServer
variable {Terminal Data : Type*} [DecidableEq Terminal] (codec : GameCodec Data)
  (game : PvpGameServer Terminal)

def start : PvpGameServer Terminal :=
  { game with state := .running, gameTime := 0, timer := game.timer.expiresFromNow }

def stop : PvpGameServer Terminal :=
  { game with timer := game.timer.cancel, state := .waiting }

def update (millisec : Nat) : Updated Terminal Data :=
  let package := { game.wrappedOperations with timestamp := some game.gameTime }
  let operationsString := codec.serialize (packageMessage package)
  let sent := game.terminals.map (fun term => (term, operationsString))
  let next := { game with
    gameTime := game.gameTime + BitVec.ofNat 32 millisec
    wrappedOperations := {} }
  if game.terminals.length = 0 then
    { game := next.stop, package := package, sent := sent, deletesGame := true }
  else { game := next, package := package, sent := sent, deletesGame := false }

def triggerUpdate : Updated Terminal Data :=
  { game with timer := game.timer.expiresFromNow }.update codec frameMillisec

def addOperation (userOp : UserOperation) : PvpGameServer Terminal :=
  { game with
    wrappedOperations := { game.wrappedOperations with
      operations := game.wrappedOperations.operations ++ [userOp] } }

def handleMessage (data : Data) (terminal : Terminal) :
    PvpGameServer Terminal × List (Terminal × Data) :=
  match codec.parse data with
  | none => (game, [])
  | some gameMessage =>
    match gameMessage.type with
    | .userOperation =>
      match gameMessage.userOperation.operationType with
      | .enterGame =>
        if game.state = .waiting then
          (if game.terminals.length = 2 then game.start else game,
            [(terminal, codec.serialize
              { type := .gameInitData, gameInitData := some game.gameInitData })])
        -- without the break of the branch above, into the case QuitGame
        else (game, [])
      | .quitGame => (game, [])
      | _ => (game.addOperation gameMessage.userOperation, [])
    | .heartBeat => (game, if game.state = .waiting then [(terminal, data)] else [])
    | _ => (game, [])

def containsTerminal (terminal : Terminal) : Bool :=
  game.terminals.any (fun term => term = terminal)

def addTerminal (terminal : Terminal) : PvpGameServer Terminal :=
  if game.containsTerminal terminal then game
  else { game with terminals := game.terminals ++ [terminal] }

def deleteTerminal (terminal : Terminal) : PvpGameServer Terminal :=
  { game with terminals := game.terminals.erase terminal }

def containsUser (userId : String) : Bool :=
  game.gameInitData.forces.any (fun force => force.userId = userId)

end PvpGameServer

structure Tick (Terminal Data : Type*) where
  registered : List Terminal
  package : UserOperationPackage
  sent : List (Terminal × Data)

/-- A game until deleteGame destroys it, with two ghosts: its ticks and the operations that
    were passed to handleMessage. -/
structure GameRun (Terminal Data : Type*) where
  game : Option (PvpGameServer Terminal)
  ticks : List (Tick Terminal Data) := []
  received : List UserOperation := []

inductive GameEvent (Terminal Data : Type*) where
  | handleMessage (data : Data) (terminal : Terminal)
  | addTerminal (terminal : Terminal)
  | deleteTerminal (terminal : Terminal)
  | expire
  | triggerUpdate
  | triggerUpdateAborted
  deriving DecidableEq, Repr

def operationOf {Data : Type*} (codec : GameCodec Data) (data : Data) : Option UserOperation :=
  (codec.parse data).bind fun message =>
    if message.type = .userOperation ∧ message.userOperation.operationType ≠ .enterGame ∧
        message.userOperation.operationType ≠ .quitGame then
      some message.userOperation
    else none

namespace GameRun
variable {Terminal Data : Type*} [DecidableEq Terminal] (codec : GameCodec Data)
  (r : GameRun Terminal Data)

def created (gameTime : BitVec 32) (gameId : String) (gameInitData : GameInitData) :
    GameRun Terminal Data :=
  { game := some { gameTime := gameTime, gameId := gameId, gameInitData := gameInitData } }

def record (registered : List Terminal) (updated : Updated Terminal Data) :
    GameRun Terminal Data :=
  { r with
    game := if updated.deletesGame then none else some updated.game
    ticks := r.ticks ++ [⟨registered, updated.package, updated.sent⟩] }

def step (event : GameEvent Terminal Data) : Option (GameRun Terminal Data) :=
  r.game.bind fun game =>
    match event with
    | .handleMessage data terminal =>
      some { r with
        game := some (game.handleMessage codec data terminal).1
        received := r.received ++ (operationOf codec data).toList }
    | .addTerminal terminal => some { r with game := some (game.addTerminal terminal) }
    | .deleteTerminal terminal => some { r with game := some (game.deleteTerminal terminal) }
    | .expire => game.timer.expire.map fun timer =>
        { r with game := some { game with timer := timer } }
    | .triggerUpdate => game.timer.takeExpired.map fun timer =>
        r.record game.terminals ({ game with timer := timer }.triggerUpdate codec)
    | .triggerUpdateAborted => game.timer.takeAborted.map fun timer =>
        { r with game := some { game with timer := timer } }

def pending : List UserOperation :=
  (r.game.map (fun game => game.wrappedOperations.operations)).getD []

/-- The packages of all ticks have consecutive times, each went once to every terminal of
    its tick, and with what is pending they hold the operations received, in order. As long
    as the game exists no package was for nobody. -/
structure Lockstep : Prop where
  timestamps : ∀ k tick, r.ticks[k]? = some tick →
    ∃ time : BitVec 32, tick.package.timestamp = some time ∧ time.toNat = k * frameMillisec
  broadcast : ∀ tick ∈ r.ticks, ∀ terminal,
    tick.sent.filter (fun message => message.1 = terminal) =
      if terminal ∈ tick.registered then
        [(terminal, codec.serialize (packageMessage tick.package))]
      else []
  operations : r.ticks.flatMap (fun tick => tick.package.operations) ++ r.pending = r.received
  heard : r.game.isSome → ∀ tick ∈ r.ticks, tick.registered ≠ []

end GameRun

section
variable {Terminal Data : Type*} {codec : GameCodec Data} {game : PvpGameServer Terminal}
  {r s : GameRun Terminal Data}

namespace PvpGameServer

theorem update_spec (codec : GameCodec Data) (game : PvpGameServer Terminal) (millisec : Nat) :
    (game.update codec millisec).package =
        { game.wrappedOperations with timestamp := some game.gameTime } ∧
      (game.update codec millisec).sent = game.terminals.map (fun term =>
        (term, codec.serialize (packageMessage (game.update codec millisec).package))) ∧
      ((game.update codec millisec).deletesGame = true ↔ game.terminals = []) ∧
      ((game.update codec millisec).deletesGame = false →
        (game.update codec millisec).game = { game with
          gameTime := game.gameTime + BitVec.ofNat 32 millisec
          wrappedOperations := {} }) := by
  unfold update
  split
  · rename_i empty
    exact ⟨rfl, rfl, by simp [List.length_eq_zero_iff.mp empty], fun kept => by simp at kept⟩
  · rename_i some_terminal
    refine ⟨rfl, rfl, ?_, fun _ => rfl⟩
    constructor
    · intro deleted
      simp at deleted
    · intro empty
      simp [empty] at some_terminal

structure Alive (n : Nat) (game : PvpGameServer Terminal) : Prop where
  distinct : game.terminals.Nodup
  idle : game.state = .waiting → n = 0 ∧ game.timer.live = 0
  time : game.state = .running → game.gameTime = BitVec.ofNat 32 (n * frameMillisec)

theorem alive_start {n : Nat} (alive : game.Alive n) (waiting : game.state = .waiting) :
    game.start.Alive n := by
  obtain ⟨rfl, _⟩ := alive.idle waiting
  exact ⟨alive.distinct, fun still => by simp [start] at still, fun _ => by simp [start]⟩

theorem alive_timer {n : Nat} {timer : Timer} (alive : game.Alive n)
    (live : timer.live = game.timer.live) : { game with timer := timer }.Alive n :=
  ⟨alive.distinct, fun waiting => ⟨(alive.idle waiting).1, live.trans (alive.idle waiting).2⟩,
    alive.time⟩

theorem handleMessage_cases (codec : GameCodec Data) (game : PvpGameServer Terminal) (data : Data)
    (terminal : Terminal) :
    (operationOf codec data = none ∧ ((game.handleMessage codec data terminal).1 = game ∨
        game.state = .waiting ∧ (game.handleMessage codec data terminal).1 = game.start)) ∨
      ∃ op, operationOf codec data = some op ∧
        (game.handleMessage codec data terminal).1 = game.addOperation op := by
  unfold handleMessage operationOf
  cases codec.parse data with
  | none => exact .inl ⟨rfl, .inl rfl⟩
  | some message =>
    cases kind : message.type with
    | userOperation =>
      cases named : message.userOperation.operationType with
      | enterGame =>
        simp only [Option.bind_some, kind, named]
        refine .inl ⟨by simp, ?_⟩
        by_cases waiting : game.state = .waiting
        · simp only [waiting, if_true]
          split
          · exact .inr ⟨trivial, rfl⟩
          · exact .inl rfl
        · simp only [waiting, if_false]
          exact .inl trivial
      | quitGame =>
        simp only [Option.bind_some, kind, named]
        exact .inl ⟨by simp, .inl trivial⟩
      | move =>
        simp only [Option.bind_some, kind, named]
        exact .inr ⟨message.userOperation, by simp, rfl⟩
      | useSkill =>
        simp only [Option.bind_some, kind, named]
        exact .inr ⟨message.userOperation, by simp, rfl⟩
    | _ =>
      simp only [Option.bind_some, kind]
      exact .inl ⟨by simp, .inl trivial⟩

theorem alive_handleMessage {n : Nat} (alive : game.Alive n) (data : Data) (terminal : Terminal) :
    (game.handleMessage codec data terminal).1.Alive n := by
  rcases handleMessage_cases codec game data terminal with
    ⟨_, same | ⟨waiting, started⟩⟩ | ⟨op, _, added⟩
  · rw [same]
    exact alive
  · rw [started]
    exact alive_start alive waiting
  · rw [added]
    exact ⟨alive.distinct, alive.idle, alive.time⟩

theorem handleMessage_gameId (data : Data) (terminal : Terminal) :
    (game.handleMessage codec data terminal).1.gameId = game.gameId := by
  rcases handleMessage_cases codec game data terminal with
    ⟨_, same | ⟨_, started⟩⟩ | ⟨op, _, added⟩
  · rw [same]
  · rw [started]
    rfl
  · rw [added]
    rfl

theorem handleMessage_operations (data : Data) (terminal : Terminal) :
    (game.handleMessage codec data terminal).1.wrappedOperations.operations =
      game.wrappedOperations.operations ++ (operationOf codec data).toList := by
  rcases handleMessage_cases codec game data terminal with
    ⟨nothing, same | ⟨_, started⟩⟩ | ⟨op, found, added⟩
  · rw [same, nothing, Option.toList_none, List.append_nil]
  · rw [started, nothing, Option.toList_none, List.append_nil]
    rfl
  · rw [added, found]
    rfl

variable [DecidableEq Terminal]

theorem containsTerminal_iff (terminal : Terminal) :
    game.containsTerminal terminal = true ↔ terminal ∈ game.terminals := by
  simp [containsTerminal]

theorem addTerminal_nodup (distinct : game.terminals.Nodup) (terminal : Terminal) :
    (game.addTerminal terminal).terminals.Nodup := by
  unfold addTerminal
  split
  · exact distinct
  · rename_i absent
    rw [containsTerminal_iff] at absent
    exact List.nodup_append.mpr ⟨distinct, List.nodup_singleton terminal, by
      intro term member other same
      rw [List.mem_singleton.mp same]
      rintro rfl
      exact absent member⟩

theorem addTerminal_fields (game : PvpGameServer Terminal) (terminal : Terminal) :
    ∃ terminals, game.addTerminal terminal = { game with terminals := terminals } := by
  unfold addTerminal
  split
  · exact ⟨game.terminals, rfl⟩
  · exact ⟨_, rfl⟩

theorem sent_filter {terminals : List Terminal} (distinct : terminals.Nodup) (bytes : Data)
    (terminal : Terminal) :
    (terminals.map (fun term => (term, bytes))).filter (fun message => message.1 = terminal) =
      if terminal ∈ terminals then [(terminal, bytes)] else [] := by
  induction terminals with
  | nil => rfl
  | cons first rest ih =>
    obtain ⟨fresh, distinct⟩ := List.nodup_cons.mp distinct
    rw [List.map_cons, List.filter_cons, ih distinct]
    by_cases same : first = terminal
    · subst same
      simp [fresh]
    · simp [same, Ne.symm same]

end PvpGameServer

namespace GameRun
open PvpGameServer

variable [DecidableEq Terminal]

structure Inv (codec : GameCodec Data) (r : GameRun Terminal Data) : Prop where
  times : ∀ k tick, r.ticks[k]? = some tick →
    tick.package.timestamp = some (BitVec.ofNat 32 (k * frameMillisec))
  broadcast : ∀ tick ∈ r.ticks, ∀ terminal,
    tick.sent.filter (fun message => message.1 = terminal) =
      if terminal ∈ tick.registered then
        [(terminal, codec.serialize (packageMessage tick.package))]
      else []
  operations : r.ticks.flatMap (fun tick => tick.package.operations) ++ r.pending = r.received
  heard : r.game.isSome → ∀ tick ∈ r.ticks, tick.registered ≠ []
  alive : ∀ game ∈ r.game, game.Alive r.ticks.length

theorem inv_between {next : PvpGameServer Terminal} {more : List UserOperation}
    (inv : Inv codec r) (held : r.game = some game) (alive : next.Alive r.ticks.length)
    (operations : next.wrappedOperations.operations = game.wrappedOperations.operations ++ more) :
    Inv codec { r with game := some next, received := r.received ++ more } := by
  refine ⟨inv.times, inv.broadcast, ?_, fun _ => inv.heard (by simp [held]), ?_⟩
  · have before := inv.operations
    simp only [pending, held, Option.map_some, Option.getD_some] at before ⊢
    rw [operations, ← List.append_assoc, before]
  · rintro _ ⟨⟩
    exact alive

theorem inv_quiet {next : PvpGameServer Terminal} (inv : Inv codec r)
    (held : r.game = some game) (alive : next.Alive r.ticks.length)
    (same : next.wrappedOperations = game.wrappedOperations) :
    Inv codec { r with game := some next } := by
  have operations : next.wrappedOperations.operations = game.wrappedOperations.operations ++ [] := by
    rw [same, List.append_nil]
  have between := inv_between inv held alive operations
  rwa [List.append_nil] at between

theorem inv_tick {timer : Timer} (inv : Inv codec r) (held : r.game = some game)
    (taken : game.timer.takeExpired = some timer) :
    Inv codec (r.record game.terminals ({ game with timer := timer }.triggerUpdate codec)) := by
  have alive := inv.alive game held
  -- a timer that has fired was started, so the game is running
  have running : game.state = .running := by
    cases kept : game.state with
    | running => rfl
    | waiting =>
      have spec := Timer.takeExpired_spec taken
      have idle := (alive.idle kept).2
      omega
  have before := inv.operations
  simp only [pending, held, Option.map_some, Option.getD_some] at before
  obtain ⟨package, sent, deleted, kept⟩ := update_spec codec
    { game with timer := timer.expiresFromNow } frameMillisec
  change Inv codec (r.record game.terminals
    ({ game with timer := timer.expiresFromNow }.update codec frameMillisec))
  generalize { game with timer := timer.expiresFromNow }.update codec frameMillisec = updated
    at package sent deleted kept ⊢
  constructor
  · intro k tick found
    simp only [record, List.getElem?_append, List.getElem?_singleton] at found
    split at found
    · exact inv.times k tick found
    · split at found
      · rename_i early first
        cases found
        have last : k = r.ticks.length := by omega
        rw [package, alive.time running, last]
      · contradiction
  · intro tick member terminal
    rcases List.mem_append.mp member with old | new
    · exact inv.broadcast tick old terminal
    · rw [List.mem_singleton.mp new, sent]
      exact sent_filter alive.distinct _ terminal
  · have emptied : (r.record game.terminals updated).pending = [] := by
      unfold pending record
      cases gone : updated.deletesGame with
      | true => rfl
      | false => simp [kept gone]
    rw [emptied, List.append_nil]
    simp only [record, List.flatMap_append, List.flatMap_singleton, package]
    exact before
  · intro exists_still tick member
    cases gone : updated.deletesGame with
    | true => simp [record, gone] at exists_still
    | false =>
      rcases List.mem_append.mp member with old | new
      · exact inv.heard (by simp [held]) tick old
      · rw [List.mem_singleton.mp new]
        intro empty
        simp [deleted.mpr empty] at gone
  · intro next survives
    cases gone : updated.deletesGame with
    | true => simp [record, gone] at survives
    | false =>
      simp only [record, gone, kept gone, Bool.false_eq_true, if_false] at survives
      cases survives
      refine ⟨alive.distinct, fun waiting => ?_, fun _ => ?_⟩
      · simp [running] at waiting
      · simp only [alive.time running, record, List.length_append, List.length_singleton,
          Nat.add_mul, Nat.one_mul, BitVec.ofNat_add]

theorem step_inv {event : GameEvent Terminal Data} (inv : Inv codec r)
    (moved : r.step codec event = some s) : Inv codec s := by
  obtain ⟨game, held, moved⟩ := Option.bind_eq_some_iff.mp moved
  have alive := inv.alive game held
  cases event with
  | handleMessage data terminal =>
    cases moved
    exact inv_between inv held (alive_handleMessage alive data terminal)
      (handleMessage_operations data terminal)
  | addTerminal terminal =>
    cases moved
    have distinct := addTerminal_nodup alive.distinct terminal
    obtain ⟨terminals, added⟩ := addTerminal_fields game terminal
    rw [added] at distinct ⊢
    exact inv_quiet inv held ⟨distinct, alive.idle, alive.time⟩ rfl
  | deleteTerminal terminal =>
    cases moved
    exact inv_quiet inv held ⟨alive.distinct.erase terminal, alive.idle, alive.time⟩ rfl
  | expire =>
    obtain ⟨timer, fired, rfl⟩ := Option.map_eq_some_iff.mp moved
    exact inv_quiet inv held (alive_timer alive (Timer.expire_spec fired).2.1) rfl
  | triggerUpdate =>
    obtain ⟨timer, taken, rfl⟩ := Option.map_eq_some_iff.mp moved
    exact inv_tick inv held taken
  | triggerUpdateAborted =>
    obtain ⟨timer, taken, rfl⟩ := Option.map_eq_some_iff.mp moved
    exact inv_quiet inv held (alive_timer alive (Timer.takeAborted_spec taken).2.1) rfl

theorem inv_created (gameTime : BitVec 32) (gameId : String) (gameInitData : GameInitData) :
    Inv codec (created gameTime gameId gameInitData : GameRun Terminal Data) := by
  refine ⟨by simp [created], by simp [created], rfl, by simp [created], ?_⟩
  rintro _ ⟨⟩
  exact ⟨List.nodup_nil, fun _ => ⟨rfl, rfl⟩, fun running => by simp at running⟩

/-- In every run of a game, from its creation on, the packages are in lockstep. -/
theorem lockstep_broadcast {gameTime : BitVec 32} {gameId : String} {gameInitData : GameInitData}
    (run : Reach (step codec) always (created gameTime gameId gameInitData) r)
    (few : r.ticks.length * frameMillisec < 2 ^ 31) : r.Lockstep codec := by
  have inv : Inv codec r := reach_invariant (Inv codec) (inv_created gameTime gameId gameInitData)
    (fun _ _ _ inv _ moved => step_inv inv moved) run
  refine ⟨fun k tick found => ⟨_, inv.times k tick found, ?_⟩, inv.broadcast, inv.operations,
    inv.heard⟩
  obtain ⟨early, _⟩ := List.getElem?_eq_some_iff.mp found
  have bound : k * frameMillisec ≤ r.ticks.length * frameMillisec :=
    Nat.mul_le_mul_right _ (Nat.le_of_lt early)
  rw [BitVec.toNat_ofNat]
  exact Nat.mod_eq_of_lt (by omega)

end GameRun

end

namespace GameRun

def plainCodec : GameCodec GameMessage := { parse := some, serialize := id }

def operation (opType : OperationType) (userId : String) : GameMessage :=
  { type := .userOperation, userOp := some { userId := userId, opType := some opType } }

def twoPlayers : List (GameEvent Nat GameMessage) :=
  [.addTerminal 1, .addTerminal 2, .handleMessage (operation .move "a") 1,
    .handleMessage (operation .enterGame "b") 2, .expire, .triggerUpdate,
    .handleMessage (operation .useSkill "b") 2, .expire, .triggerUpdate,
    .deleteTerminal 1, .deleteTerminal 2, .expire, .triggerUpdate]

theorem lockstep_of_two_players : ∃ r : GameRun Nat GameMessage,
    (r.game.isNone ∧ r.received.map UserOperation.userId = ["a", "b"] ∧
      r.ticks.map (fun tick => tick.registered) = [[1, 2], [1, 2], []]) ∧
    r.Lockstep plainCodec := by
  obtain ⟨r, run, facts⟩ := execWithin_any (step plainCodec) (fun _ _ => True)
    (created 7 "g" {}) twoPlayers
    (fun r => r.game.isNone ∧ r.received.map UserOperation.userId = ["a", "b"] ∧
      r.ticks.map (fun tick => tick.registered) = [[1, 2], [1, 2], []]) (by decide +kernel)
  obtain ⟨gone, received, ticks⟩ := of_decide_eq_true facts
  have three : r.ticks.length = 3 := by
    have lengths := congrArg List.length ticks
    rwa [List.length_map] at lengths
  exact ⟨r, ⟨gone, received, ticks⟩, lockstep_broadcast run (by rw [three]; decide)⟩

end GameRun

end LaluneServer.Pvp
