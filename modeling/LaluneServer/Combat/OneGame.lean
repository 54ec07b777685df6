import LaluneServer.NetLib.Packet
import Std.Data.TreeMap.Lemmas

/- One game of the combat servers: OneGame over TCP sessions and OneGameUdp over
   endpoints. -/
namespace LaluneServer.Combat

open NetLib
open Std (TreeMap)

abbrev Session := Nat

abbrev Endpoint := BitVec 32 × BitVec 16

instance : Ord Endpoint := lexOrd

structure GameAction where
  content : Bytes
  timeFromGameStart : BitVec 64
  deriving DecidableEq, Repr

structure GameStart where
  randSeed : Nat
  timePerFrame : Nat
  deriving DecidableEq, Repr

inductive MessageType
  | connectToGame
  | gameAction
  | other
  deriving DecidableEq, Repr

/-- The message type, and what the fields read after ParseFromArray, whether or not it
    succeeded. -/
structure BattleCodec where
  msgType : Bytes → MessageType
  playerUid : Bytes → BitVec 32
  gameAction : Bytes → GameAction

inductive Output (Player : Type)
  | connectToGameResponse (player : Player) (team : Nat)
  | startTime (time : BitVec 64)
  | gameStart (start : GameStart) (players : List Player)
  | gameActions (actions : List GameAction) (players : List Player)
  deriving DecidableEq, Repr

/-- The start time is not initialized. -/
structure Game (Player : Type) [Ord Player] where
  clientConnect : TreeMap Player (BitVec 32) := ∅
  startTime : BitVec 64
  actions : List GameAction := []

abbrev OneGame := Game Session

abbrev OneGameUdp := Game Endpoint

def playerNum : Nat := 6

def newGameStart : GameStart := { randSeed := 0, timePerFrame := 1000 / 33 }

namespace Game

variable {Player : Type} [Ord Player]

def connectToGame (codec : BattleCodec) (game : Game Player) (player : Player) (data : Bytes)
    (now : BitVec 64) : Game Player × List (Output Player) :=
  let clientConnect := game.clientConnect.insert player (codec.playerUid data)
  let response := Output.connectToGameResponse player (clientConnect.size % 2)
  if clientConnect.size = playerNum then
    ({ game with clientConnect := clientConnect, startTime := now },
      [response, .startTime now, .gameStart newGameStart clientConnect.keys])
  else ({ game with clientConnect := clientConnect }, [response])

def delConnect (game : Game Player) (player : Player) : Game Player :=
  { game with clientConnect := game.clientConnect.erase player }

def timed (codec : BattleCodec) (game : Game Player) (data : Bytes) (now : BitVec 64) :
    GameAction :=
  { codec.gameAction data with timeFromGameStart := now - game.startTime }

end Game

namespace OneGame

/-- Everything that waits in `actions` is sent with the new one. -/
def battleGameAction (codec : BattleCodec) (game : OneGame) (data : Bytes) (now : BitVec 64) :
    OneGame × List (Output Session) :=
  ({ game with actions := [] },
    [.gameActions (game.actions ++ [game.timed codec data now]) game.clientConnect.keys])

end OneGame

namespace OneGameUdp

/-- The action is parsed for each player anew. -/
def battleGameAction (codec : BattleCodec) (game : OneGameUdp) (data : Bytes)
    (now : BitVec 64) : OneGameUdp × List (Output Endpoint) :=
  (game, game.clientConnect.keys.map
    (fun player => .gameActions [game.timed codec data now] [player]))

end OneGameUdp

end LaluneServer.Combat
