import LaluneServer.Combat.OneGame
import LaluneServer.Lib.BufferRead
import LaluneServer.Lib.Transition

/- CombatServer over UDP: the games by id, the game of each endpoint and the receives that
   are outstanding. What a handler reads is checked against the bytes that were received,
   because the rest of the buffer is not initialized. The parser does not see how many bytes
   there are. Not modelled: the console output and the sends. They answer from buffers of their
   own, MSG_LENGTH bytes long, of which they hand MSG_LENGTH + 1 bytes to async_send_to. -/
namespace LaluneServer.Combat

open NetLib BufferRead Transition
open Std (TreeMap)

/-- MSG_LENGTH is the first field; MSG_TYPE and the size of the header are defined outside,
    and so are the numbers of the message types and the fields of ConnectToGame. -/
structure UdpCodec where
  typeOffset : Nat
  headerBaseSize : Nat
  lengthFirst : 4 ≤ typeOffset
  messageType : Nat → MessageType
  accessToken : Bytes → String
  battle : BattleCodec

inductive ReceiveError
  | messageSize
  | other
  deriving DecidableEq, Repr

structure Completion where
  error : Option ReceiveError
  endpoint : Endpoint
  data : Bytes
  fits : data.length ≤ 200
  now : BitVec 64

inductive Fault
  | readOutside
  | nullGame
  deriving DecidableEq, Repr

/-- A shared_ptr that is null is `none`. -/
structure CombatServerUdp where
  gameidToOnegame : TreeMap String (Option OneGameUdp) := ∅
  ptrToGameid : TreeMap Endpoint String := ∅
  receives : Nat := 0

namespace UdpCodec
variable (codec : UdpCodec) (data : Bytes)

def read (offset : Nat) (size : Int) : Except Fault Bytes :=
  match readRange data offset size with
  | some bytes => .ok bytes
  | none => .error .readOutside

def msgType : Except Fault MessageType :=
  (read data codec.typeOffset 4).map fun field => codec.messageType (readUint32 field)

def msgDataLen (field : Bytes) : BitVec 32 :=
  BitVec.ofNat 32 (readUint32 field) - BitVec.ofNat 32 codec.headerBaseSize

/-- The bytes that ParseFromArray gets; its size is an int. -/
def msgData : Except Fault Bytes := do
  let field ← read data 0 4
  read data codec.headerBaseSize (codec.msgDataLen field).toInt

end UdpCodec

namespace CombatServerUdp
variable (codec : UdpCodec) (server : CombatServerUdp) (c : Completion)

def receive : CombatServerUdp := { server with receives := server.receives + 1 }

def onegameOf (id : String) : Except Fault OneGameUdp :=
  match server.gameidToOnegame[id]? with
  | some (some game) => .ok game
  | _ => .error .nullGame

def gameidOf (endpoint : Endpoint) : String × CombatServerUdp :=
  match server.ptrToGameid[endpoint]? with
  | some id => (id, server)
  | none => ("", { server with ptrToGameid := server.ptrToGameid.insert endpoint "" })

/-- The messages of the players: the datagram is parsed for each of them. -/
def battleGameAction (game : OneGameUdp) : Except Fault OneGameUdp :=
  if game.clientConnect.isEmpty then .ok game
  else do
    let payload ← codec.msgData c.data
    .ok (OneGameUdp.battleGameAction codec.battle game payload c.now).1

def connectToGame : Except Fault CombatServerUdp := do
  let payload ← codec.msgData c.data
  let id := codec.accessToken payload
  let game ← server.onegameOf id
  let joined := (game.connectToGame codec.battle c.endpoint payload c.now).1
  .ok { server with
    gameidToOnegame := server.gameidToOnegame.insert id (some joined)
    ptrToGameid := server.ptrToGameid.insert c.endpoint id }

def gameAction : Except Fault CombatServerUdp :=
  let found := server.gameidOf c.endpoint
  if found.1 ∈ found.2.gameidToOnegame then do
    let game ← found.2.onegameOf found.1
    let game ← battleGameAction codec c game
    .ok { found.2 with gameidToOnegame := found.2.gameidToOnegame.insert found.1 (some game) }
  else .ok found.2

def handle : MessageType → Except Fault CombatServerUdp
  | .connectToGame => server.connectToGame codec c
  | .gameAction => server.gameAction codec c
  | .other => .ok server

/-- An error other than message_size ends the chain of receives. -/
def receivedFinishend : Except Fault CombatServerUdp :=
  if c.error = none ∨ c.error = some .messageSize then do
    let type ← codec.msgType c.data
    let handled ← server.handle codec c type
    .ok handled.receive
  else .ok server

end CombatServerUdp

inductive UdpEvent
  | createGame (id : String) (fresh : BitVec 64)
  | received (c : Completion)

namespace CombatServerUdp
variable (codec : UdpCodec) (server : CombatServerUdp)

def initial : CombatServerUdp := receive {}

def complete (c : Completion) : Except Fault CombatServerUdp :=
  { server with receives := server.receives - 1 }.receivedFinishend codec c

/-- After a fault there is no next state. -/
def step : UdpEvent → Option CombatServerUdp
  | .createGame id fresh => some { server with
      gameidToOnegame := server.gameidToOnegame.insert id (some { startTime := fresh }) }
  | .received c =>
    if server.receives = 0 then none
    else
      match server.complete codec c with
      | .ok next => some next
      | .error _ => none

def Survives (c : Completion) : Prop :=
  ∃ next, server.complete codec c = .ok next ∧ next.receives = 1

def wholeMessage (data : Bytes) : Prop :=
  codec.headerBaseSize ≤ readUint32 data ∧ readUint32 data ≤ data.length

instance (data : Bytes) : Decidable (wholeMessage codec data) :=
  inferInstanceAs (Decidable (_ ∧ _))

/-- A game uses all the data that the length field promises, and a player joins a known game.
    The action of an endpoint without a game, or with a game without players, uses no data. -/
def usable (c : Completion) : MessageType → Prop
  | .connectToGame => wholeMessage codec c.data ∧
      codec.accessToken ((c.data.take (readUint32 c.data)).drop codec.headerBaseSize) ∈
        server.gameidToOnegame
  | .gameAction => ∀ game ∈ (server.gameidToOnegame[(server.gameidOf c.endpoint).1]?).join,
      game.clientConnect.isEmpty = false → wholeMessage codec c.data
  | .other => True

def harmless (c : Completion) : Prop :=
  (c.error = none ∨ c.error = some .messageSize) ∧ codec.typeOffset + 4 ≤ c.data.length ∧
    server.usable codec c (codec.messageType (readUint32 (c.data.drop codec.typeOffset)))

end CombatServerUdp

namespace UdpCodec
variable (codec : UdpCodec) {data : Bytes}

theorem read_nat {offset n : Nat} (inside : offset + n ≤ data.length) :
    read data offset (n : Nat) = .ok ((data.drop offset).take n) := by
  unfold read
  rw [readRange_nat inside]

theorem read_outside {offset : Nat} {size : Int}
    (outside : ¬ (0 ≤ size ∧ offset + size.toNat ≤ data.length)) :
    read data offset size = .error .readOutside := by
  have none : readRange data offset size = none := by
    by_contra some
    exact outside (readRange_ne_none.mp some)
  unfold read
  rw [none]

theorem msgType_ok (inside : codec.typeOffset + 4 ≤ data.length) :
    codec.msgType data = .ok (codec.messageType (readUint32 (data.drop codec.typeOffset))) := by
  unfold msgType
  rw [show (4 : Int) = (4 : Nat) from rfl, read_nat inside, Except.map, readUint32_take]
  rw [List.length_drop]
  omega

theorem msgType_error (outside : ¬ codec.typeOffset + 4 ≤ data.length) :
    codec.msgType data = .error .readOutside := by
  unfold msgType
  rw [read_outside (fun inside => outside inside.2)]
  rfl

theorem msgData_read (long : 4 ≤ data.length) : codec.msgData data =
    read data codec.headerBaseSize (BitVec.ofNat 32 (readUint32 data) -
      BitVec.ofNat 32 codec.headerBaseSize).toInt := by
  have front : read data 0 (4 : Nat) = .ok ((data.drop 0).take 4) := read_nat (by omega)
  unfold msgData
  rw [show (4 : Int) = (4 : Nat) from rfl, front, List.drop_zero]
  show read _ _ (codec.msgDataLen (data.take 4)).toInt = _
  rw [msgDataLen, readUint32_take long]

theorem msgData_ok (long : 4 ≤ data.length) (fits : data.length ≤ 200)
    (whole : CombatServerUdp.wholeMessage codec data) : codec.msgData data =
      .ok ((data.take (readUint32 data)).drop codec.headerBaseSize) := by
  obtain ⟨header, inside⟩ := whole
  have size : (BitVec.ofNat 32 (readUint32 data) - BitVec.ofNat 32 codec.headerBaseSize).toNat =
      readUint32 data - codec.headerBaseSize := by
    bv_omega
  rw [codec.msgData_read long, BitVec.toInt_eq_toNat_of_lt (by omega), size,
    read_nat (by omega), List.drop_take]

theorem msgData_error (long : 4 ≤ data.length) (fits : data.length ≤ 200)
    (partly : ¬ CombatServerUdp.wholeMessage codec data) :
    codec.msgData data = .error .readOutside := by
  rw [codec.msgData_read long, read_outside]
  rintro ⟨nonnegative, inside⟩
  refine partly ?_
  have short := readUint32_lt data
  have value := BitVec.toInt_eq_toNat_cond
    (BitVec.ofNat 32 (readUint32 data) - BitVec.ofNat 32 codec.headerBaseSize)
  have small : codec.headerBaseSize ≤ 200 := by omega
  have total := BitVec.toNat_ofNat (readUint32 data) 32
  have front := BitVec.toNat_ofNat codec.headerBaseSize 32
  have difference := BitVec.toNat_sub (BitVec.ofNat 32 (readUint32 data))
    (BitVec.ofNat 32 codec.headerBaseSize)
  unfold CombatServerUdp.wholeMessage
  split at value
  · omega
  · omega

end UdpCodec

namespace CombatServerUdp
variable {codec : UdpCodec} {server next : CombatServerUdp} {c : Completion}

def NoNull (server : CombatServerUdp) : Prop :=
  ∀ (id : String) (game : Option OneGameUdp), server.gameidToOnegame[id]? = some game → game ≠ none

theorem onegameOf_ok (noNull : server.NoNull) {id : String} (known : id ∈ server.gameidToOnegame) :
    ∃ game, server.gameidToOnegame[id]? = some (some game) ∧ server.onegameOf id = .ok game := by
  rw [TreeMap.mem_iff_isSome_getElem?, Option.isSome_iff_exists] at known
  obtain ⟨pointer, found⟩ := known
  obtain ⟨game, rfl⟩ := Option.ne_none_iff_exists'.mp (noNull id pointer found)
  refine ⟨game, found, ?_⟩
  unfold onegameOf
  rw [found]

theorem onegameOf_error {id : String} (unknown : id ∉ server.gameidToOnegame) :
    server.onegameOf id = .error .nullGame := by
  rw [TreeMap.mem_iff_isSome_getElem?, Option.not_isSome_iff_eq_none] at unknown
  unfold onegameOf
  rw [unknown]

def Keeps (server next : CombatServerUdp) : Prop :=
  next.receives = server.receives ∧ (server.NoNull → next.NoNull)

theorem noNull_insert (noNull : server.NoNull) (id : String) (game : OneGameUdp)
    (table : next.gameidToOnegame = server.gameidToOnegame.insert id (some game)) :
    next.NoNull := by
  intro other pointer found
  rw [table, TreeMap.getElem?_insert] at found
  split at found
  · cases found
    exact Option.some_ne_none game
  · exact noNull other pointer found

theorem connectToGame_ok (noNull : server.NoNull) (long : 4 ≤ c.data.length)
    (fits : server.usable codec c .connectToGame) :
    ∃ next, server.connectToGame codec c = .ok next ∧ server.Keeps next := by
  obtain ⟨whole, known⟩ := fits
  obtain ⟨game, _, found⟩ := onegameOf_ok noNull known
  unfold connectToGame
  rw [codec.msgData_ok long c.fits whole]
  simp only [bind, Except.bind, found]
  exact ⟨_, rfl, rfl, fun noNull => noNull_insert noNull _ _ rfl⟩

theorem connectToGame_error (long : 4 ≤ c.data.length)
    (wrong : ¬ server.usable codec c .connectToGame) :
    ∃ fault, server.connectToGame codec c = .error fault := by
  unfold connectToGame
  by_cases whole : wholeMessage codec c.data
  · rw [codec.msgData_ok long c.fits whole]
    have unknown := onegameOf_error (fun known => wrong ⟨whole, known⟩)
    simp only [bind, Except.bind, unknown]
    exact ⟨_, rfl⟩
  · rw [codec.msgData_error long c.fits whole]
    exact ⟨_, rfl⟩

theorem gameidOf_table (server : CombatServerUdp) (endpoint : Endpoint) :
    (server.gameidOf endpoint).2.gameidToOnegame = server.gameidToOnegame ∧
      (server.gameidOf endpoint).2.receives = server.receives := by
  unfold gameidOf
  split
  · exact ⟨rfl, rfl⟩
  · exact ⟨rfl, rfl⟩

theorem gameidOf_fst (server : CombatServerUdp) (endpoint : Endpoint) :
    (server.gameidOf endpoint).1 = server.ptrToGameid[endpoint]?.getD "" := by
  unfold gameidOf
  cases server.ptrToGameid[endpoint]? with
  | some id => rfl
  | none => rfl

theorem usable_receives (codec : UdpCodec) (server : CombatServerUdp) (c : Completion)
    (receives : Nat) (type : MessageType) :
    usable codec { server with receives := receives } c type ↔ server.usable codec c type := by
  cases type with
  | connectToGame => exact Iff.rfl
  | gameAction =>
    unfold usable
    rw [gameidOf_fst, gameidOf_fst]
  | other => exact Iff.rfl

theorem battleGameAction_ok (long : 4 ≤ c.data.length) {game : OneGameUdp}
    (fits : game.clientConnect.isEmpty = false → wholeMessage codec c.data) :
    ∃ after, battleGameAction codec c game = .ok after := by
  unfold battleGameAction
  split
  · exact ⟨game, rfl⟩
  · rename_i players
    rw [codec.msgData_ok long c.fits (fits (Bool.eq_false_iff.mpr players))]
    exact ⟨_, rfl⟩

theorem gameAction_ok (noNull : server.NoNull) (long : 4 ≤ c.data.length)
    (fits : server.usable codec c .gameAction) :
    ∃ next, server.gameAction codec c = .ok next ∧ server.Keeps next := by
  obtain ⟨table, receives⟩ := server.gameidOf_table c.endpoint
  have same : (server.gameidOf c.endpoint).2.NoNull := by
    unfold NoNull
    rw [table]
    exact noNull
  unfold gameAction
  dsimp only
  split
  · rename_i known
    obtain ⟨game, found, pointer⟩ := onegameOf_ok same known
    have player : game ∈ (server.gameidToOnegame[(server.gameidOf c.endpoint).1]?).join := by
      rw [← table, found]
      rfl
    obtain ⟨after, acted⟩ := battleGameAction_ok long (fits game player)
    simp only [bind, Except.bind, pointer, acted]
    exact ⟨_, rfl, receives, fun _ => noNull_insert same _ after rfl⟩
  · exact ⟨_, rfl, receives, fun _ => same⟩

theorem gameAction_error (long : 4 ≤ c.data.length)
    (wrong : ¬ server.usable codec c .gameAction) :
    ∃ fault, server.gameAction codec c = .error fault := by
  obtain ⟨table, _⟩ := server.gameidOf_table c.endpoint
  obtain ⟨game, wrong⟩ := not_forall.mp wrong
  obtain ⟨player, wrong⟩ := not_forall.mp wrong
  obtain ⟨players, partly⟩ := not_forall.mp wrong
  have found := Option.join_eq_some_iff.mp player
  have known : (server.gameidOf c.endpoint).1 ∈
      (server.gameidOf c.endpoint).2.gameidToOnegame := by
    rw [table, TreeMap.mem_iff_isSome_getElem?, found]
    rfl
  have pointer : (server.gameidOf c.endpoint).2.onegameOf (server.gameidOf c.endpoint).1 =
      .ok game := by
    unfold onegameOf
    rw [table, found]
  unfold gameAction battleGameAction
  simp only [if_pos known, bind, Except.bind, pointer, players, Bool.false_eq_true, ↓reduceIte,
    codec.msgData_error long c.fits partly]
  exact ⟨_, rfl⟩

theorem handle_ok (noNull : server.NoNull) (long : 4 ≤ c.data.length) {type : MessageType}
    (fits : server.usable codec c type) :
    ∃ next, server.handle codec c type = .ok next ∧ server.Keeps next := by
  cases type with
  | connectToGame => exact connectToGame_ok noNull long fits
  | gameAction => exact gameAction_ok noNull long fits
  | other => exact ⟨server, rfl, rfl, id⟩

theorem handle_error (long : 4 ≤ c.data.length) {type : MessageType}
    (wrong : ¬ server.usable codec c type) :
    ∃ fault, server.handle codec c type = .error fault := by
  cases type with
  | connectToGame => exact connectToGame_error long wrong
  | gameAction => exact gameAction_error long wrong
  | other => exact absurd trivial wrong

theorem complete_ok (noNull : server.NoNull) (one : server.receives = 1)
    (harmless : server.harmless codec c) :
    ∃ next, server.complete codec c = .ok next ∧ next.NoNull ∧ next.receives = 1 := by
  obtain ⟨error, typed, fits⟩ := harmless
  have long : 4 ≤ c.data.length := by
    have first := codec.lengthFirst
    omega
  have waiting : NoNull { server with receives := server.receives - 1 } := noNull
  obtain ⟨handled, run, receives, kept⟩ :=
    handle_ok waiting long ((usable_receives codec server c _ _).mpr fits)
  have again : handled.receives + 1 = 1 := by
    rw [receives, one]
  refine ⟨handled.receive, ?_, kept noNull, again⟩
  unfold complete receivedFinishend
  rw [if_pos error, codec.msgType_ok typed]
  simp only [bind, Except.bind, run]

theorem survives_iff (noNull : server.NoNull) (one : server.receives = 1) :
    server.Survives codec c ↔ server.harmless codec c := by
  constructor
  · rintro ⟨next, run, outstanding⟩
    unfold complete receivedFinishend at run
    by_cases error : c.error = none ∨ c.error = some .messageSize
    · rw [if_pos error] at run
      by_cases typed : codec.typeOffset + 4 ≤ c.data.length
      · refine ⟨error, typed, ?_⟩
        by_contra wrong
        have long : 4 ≤ c.data.length := by
          have first := codec.lengthFirst
          omega
        have still := (usable_receives codec server c (server.receives - 1) _).not.mpr wrong
        obtain ⟨fault, failed⟩ := handle_error long still
        rw [codec.msgType_ok typed] at run
        simp only [bind, Except.bind, failed] at run
        contradiction
      · rw [codec.msgType_error typed] at run
        contradiction
    · -- The chain of receives ends here.
      rw [if_neg error] at run
      cases run
      rw [one] at outstanding
      contradiction
  · intro harmless
    obtain ⟨next, run, _, outstanding⟩ := complete_ok noNull one harmless
    exact ⟨next, run, outstanding⟩

def harmlessEvent (codec : UdpCodec) (server : CombatServerUdp) : UdpEvent → Prop
  | .createGame _ _ => True
  | .received c => server.harmless codec c

theorem initial_noNull : initial.NoNull := by
  intro id game found
  have empty : initial.gameidToOnegame[id]? = none := TreeMap.getElem?_emptyc
  rw [empty] at found
  contradiction

theorem step_keeps (noNull : server.NoNull) (one : server.receives = 1) {e : UdpEvent}
    (allowed : harmlessEvent codec server e) (moved : server.step codec e = some next) :
    next.NoNull ∧ next.receives = 1 := by
  cases e with
  | createGame id fresh =>
    cases moved
    exact ⟨noNull_insert noNull id { startTime := fresh } rfl, one⟩
  | received c =>
    obtain ⟨done, run, kept⟩ := complete_ok noNull one allowed
    have outstanding : server.receives ≠ 0 := by
      omega
    unfold step at moved
    simp only [if_neg outstanding, run] at moved
    cases moved
    exact kept

theorem handled_iff_harmless (run : Reach (step codec) (harmlessEvent codec) initial server) :
    server.receives = 1 ∧
      ∀ c : Completion, server.Survives codec c ↔ server.harmless codec c := by
  have kept : server.NoNull ∧ server.receives = 1 := by
    refine reach_invariant (fun server => server.NoNull ∧ server.receives = 1)
      ⟨initial_noNull, rfl⟩ ?_ run
    intro server e next kept allowed moved
    exact step_keeps kept.1 kept.2 allowed moved
  exact ⟨kept.2, fun c => survives_iff kept.1 kept.2⟩

def shortCodec : UdpCodec where
  typeOffset := 4
  headerBaseSize := 8
  lengthFirst := by decide
  messageType n := if n = 1 then .connectToGame else if n = 2 then .gameAction else .other
  accessToken data := String.ofList (data.map fun byte => Char.ofNat byte.toNat)
  battle :=
    { msgType := fun _ => .other
      playerUid := fun _ => 0
      gameAction := fun data => { content := data, timeFromGameStart := 0 } }

def datagram (data : Bytes) (fits : data.length ≤ 200) : Completion where
  error := none
  endpoint := (0x7f000001, 4000)
  data := data
  fits := fits
  now := 0

def join : Completion := datagram [9, 0, 0, 0, 1, 0, 0, 0, 0x67] (by decide)

def oneGameStarted : CombatServerUdp where
  gameidToOnegame := (∅ : TreeMap String (Option OneGameUdp)).insert "g" (some { startTime := 0 })
  receives := 1

theorem join_harmless : oneGameStarted.harmless shortCodec join := by
  have token : shortCodec.accessToken ((join.data.take (readUint32 join.data)).drop
      shortCodec.headerBaseSize) = "g" := by
    decide
  have known : "g" ∈ oneGameStarted.gameidToOnegame := TreeMap.mem_insert_self
  refine ⟨Or.inl rfl, by decide, by decide, ?_⟩
  rw [token]
  exact known

theorem handled_iff_harmless_join :
    Reach (step shortCodec) (harmlessEvent shortCodec) initial oneGameStarted ∧
      oneGameStarted.receives = 1 ∧ oneGameStarted.Survives shortCodec join := by
  have run : Reach (step shortCodec) (harmlessEvent shortCodec) initial oneGameStarted :=
    .tail (.createGame "g" 0) .refl trivial rfl
  obtain ⟨one, served⟩ := handled_iff_harmless run
  exact ⟨run, one, (served join).mpr join_harmless⟩

theorem not_every_datagram_handled : ¬ ∀ (codec : UdpCodec) (server : CombatServerUdp)
    (c : Completion), Reach (step codec) always initial server → server.receives ≠ 0 →
      server.Survives codec c := by
  intro served
  have fault : initial.complete shortCodec (datagram [] (by decide)) = .error .readOutside := by
    rfl
  obtain ⟨next, run, _⟩ := served shortCodec initial (datagram [] (by decide)) .refl (by decide)
  rw [fault] at run
  contradiction

end CombatServerUdp

end LaluneServer.Combat
