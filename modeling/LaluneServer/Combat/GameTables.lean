import LaluneServer.Combat.CombatServer
import LaluneServer.Lib.InverseIndex

/- The three containers of the TCP combat server agree as long as sessions join once
   and the game that is being filled exists. -/
namespace LaluneServer.Combat

open NetLib InverseIndex Transition
open Std (TreeMap)

namespace CombatServer

structure TablesRight (server : CombatServer) : Prop where
  joined : ∀ (session : Session) (id : Uuid), server.ptrToGameid[session]? = some id →
    ∃ game : OneGame, server.gameidToOnegame[id]? = some (some game) ∧
      session ∈ game.clientConnect
  once : ∀ (session : Session) (id : Uuid) (game : OneGame) (id' : Uuid) (game' : OneGame),
    server.gameidToOnegame[id]? = some (some game) →
      server.gameidToOnegame[id']? = some (some game') → session ∈ game.clientConnect →
        session ∈ game'.clientConnect → id = id'

def Unbound (server : CombatServer) (session : Session) : Prop :=
  server.ptrToGameid[session]? = none ∨
    server.ptrToGameid[session]? = some server.nowGameId

/-- There is no game; or the current one exists, and the session has joined none or joins
    the current one, which is not full, again. -/
def Welcome (server : CombatServer) (session : Session) : Prop :=
  server.gameidToOnegame.size = 0 ∨
    (server.gameidToOnegame[server.nowGameId]?).join.any (fun game =>
      server.ptrToGameid[session]? = none ∨
        (server.ptrToGameid[session]? = some server.nowGameId ∧
          game.clientConnect.size ≠ playerNum)) = true

instance (server : CombatServer) (session : Session) : Decidable (server.Welcome session) :=
  inferInstanceAs (Decidable (_ ∨ _))

def Expects (server : CombatServer) (session : Session) : MessageType → Prop
  | .connectToGame => server.Welcome session
  | .gameAction => server.ptrToGameid[session]? ≠ none
  | .other => True

instance (server : CombatServer) (session : Session) :
    ∀ type, Decidable (server.Expects session type)
  | .connectToGame => inferInstanceAs (Decidable (server.Welcome session))
  | .gameAction => inferInstanceAs (Decidable (_ ≠ _))
  | .other => inferInstanceAs (Decidable True)

structure Tidy (server : CombatServer) : Prop where
  players : ∀ (id : Uuid) entry, server.gameidToOnegame[id]? = some entry →
    ∃ game : OneGame, entry = some game ∧
      ∀ session, session ∈ game.clientConnect ↔ server.ptrToGameid[session]? = some id
  games : ∀ (session : Session) (id : Uuid), server.ptrToGameid[session]? = some id →
    ∃ entry, server.gameidToOnegame[id]? = some entry

end CombatServer

def Careful (codec : BattleCodec) (w : World) : Event → Prop
  | .connected _ => True
  | .recv session data _ _ _ => w.server.Expects session (codec.msgType data)
  | .disconnected session => w.server.ptrToGameid[session]? ≠ none

instance (codec : BattleCodec) (w : World) : ∀ e, Decidable (Careful codec w e)
  | .connected _ => inferInstanceAs (Decidable True)
  | .recv session data _ _ _ =>
    inferInstanceAs (Decidable (w.server.Expects session (codec.msgType data)))
  | .disconnected _ => inferInstanceAs (Decidable (_ ≠ _))

def GamesPresent (w : World) : Prop := w.missing = false ∧ w.server.TablesRight

structure Kept (w : World) : Prop where
  missing : w.missing = false
  tidy : w.server.Tidy
  generated : ∀ (id : Uuid) entry, w.server.gameidToOnegame[id]? = some entry → id ∈ w.used
  named : nilUuid ∉ w.used

namespace CombatServer

section tidy
variable {server : CombatServer} {session : Session} {id : Uuid} {game : OneGame}

theorem Tidy.game_of (tidy : server.Tidy) (under : server.ptrToGameid[session]? = some id) :
    ∃ game : OneGame, server.gameidToOnegame[id]? = some (some game) ∧
      ∀ session, session ∈ game.clientConnect ↔ server.ptrToGameid[session]? = some id := by
  obtain ⟨entry, held⟩ := tidy.games session id under
  obtain ⟨game, rfl, players⟩ := tidy.players id entry held
  exact ⟨game, held, players⟩

theorem Tidy.put (tidy : server.Tidy) (held : server.gameidToOnegame[id]? = some (some game))
    {changed : OneGame} (same : changed.clientConnect = game.clientConnect) :
    (server.putOnegame id changed).Tidy := by
  refine ⟨fun other entry present => ?_, fun session other under => ?_⟩
  · simp only [putOnegame, find_insert] at present ⊢
    split at present
    · rename_i here
      subst here
      cases present
      obtain ⟨game', equal, players⟩ := tidy.players _ _ held
      cases equal
      exact ⟨changed, rfl, by rw [same]; exact players⟩
    · exact tidy.players other entry present
  · simp only [putOnegame, find_insert] at under ⊢
    split
    · exact ⟨_, rfl⟩
    · exact tidy.games session other under

theorem Tidy.newGame (tidy : server.Tidy) (absent : server.gameidToOnegame[id]? = none)
    (fresh : BitVec 64) : (server.newGame id fresh).Tidy := by
  refine ⟨fun other entry present => ?_, fun session other under => ?_⟩
  · simp only [CombatServer.newGame, putOnegame, find_insert] at present ⊢
    split at present
    · rename_i here
      subst here
      cases present
      refine ⟨_, rfl, fun session => ⟨fun member => ?_, fun under => ?_⟩⟩
      · simp at member
      · obtain ⟨entry, held⟩ := tidy.games session _ under
        rw [absent] at held
        contradiction
    · exact tidy.players other entry present
  · simp only [CombatServer.newGame, putOnegame, find_insert] at under ⊢
    split
    · exact ⟨_, rfl⟩
    · exact tidy.games session other under

theorem Tidy.join (tidy : server.Tidy) (held : server.gameidToOnegame[id]? = some (some game))
    (unbound : server.ptrToGameid[session]? = none ∨ server.ptrToGameid[session]? = some id)
    {changed : OneGame} (entered : ∀ other, other ∈ changed.clientConnect ↔
      session = other ∨ other ∈ game.clientConnect) :
    Tidy { server.putOnegame id changed with
      ptrToGameid := server.ptrToGameid.insert session id } := by
  obtain ⟨game', equal, players⟩ := tidy.players _ _ held
  cases equal
  refine ⟨fun other entry present => ?_, fun other id' under => ?_⟩
  · simp only [putOnegame, find_insert] at present ⊢
    split at present
    · rename_i here
      subst here
      cases present
      refine ⟨changed, rfl, fun other => ?_⟩
      rw [entered, players]
      by_cases same : session = other
      · simp [same]
      · simp [same]
    · rename_i apart
      obtain ⟨game', rfl, players'⟩ := tidy.players other entry present
      refine ⟨game', rfl, fun other' => ?_⟩
      rw [players']
      by_cases same : session = other'
      · subst same
        rw [if_pos rfl]
        rcases unbound with free | under
        · simp [free, apart]
        · simp [under, apart]
      · rw [if_neg same]
  · simp only [putOnegame, find_insert] at under ⊢
    split at under
    · cases under
      exact ⟨some changed, if_pos rfl⟩
    · split
      · exact ⟨_, rfl⟩
      · exact tidy.games other id' under

theorem Tidy.tablesRight (tidy : server.Tidy) : server.TablesRight := by
  constructor
  · intro session id under
    obtain ⟨game, held, players⟩ := tidy.game_of under
    exact ⟨game, held, (players session).mpr under⟩
  · intro session id game id' game' held held' member member'
    obtain ⟨_, equal, players⟩ := tidy.players id _ held
    obtain ⟨_, equal', players'⟩ := tidy.players id' _ held'
    cases equal
    cases equal'
    have under := (players session).mp member
    rw [(players' session).mp member', Option.some.injEq] at under
    exact under.symm

theorem onegameOf_held {entry : Option OneGame} (held : server.gameidToOnegame[id]? = some entry) :
    server.onegameOf id = (entry, server) := by
  unfold onegameOf
  rw [held]

theorem gameidOf_under (under : server.ptrToGameid[session]? = some id) :
    server.gameidOf session = (id, server) := by
  unfold gameidOf
  rw [under]

theorem gameidOf_free (free : server.ptrToGameid[session]? = none) :
    server.gameidOf session = (nilUuid,
      { server with ptrToGameid := server.ptrToGameid.insert session nilUuid }) := by
  unfold gameidOf
  rw [free]

theorem Tidy.free_of_empty (tidy : server.Tidy) (empty : server.gameidToOnegame.size = 0)
    (session : Session) : server.ptrToGameid[session]? = none := by
  cases under : server.ptrToGameid[session]? with
  | none => rfl
  | some id =>
    obtain ⟨entry, held⟩ := tidy.games session id under
    rw [TreeMap.getElem?_of_isEmpty (by simpa [TreeMap.isEmpty_eq_size_eq_zero] using empty)] at held
    contradiction

end tidy

section connect
variable {server chosen : CombatServer} {session : Session} {uuid : Uuid} {fresh : BitVec 64}

theorem chooseGame_cases (tidy : server.Tidy) (uuid : Uuid) (fresh : BitVec 64) :
    (server.gameidToOnegame.size = 0 ∧
      server.chooseGame uuid fresh = some (server.newGame uuid fresh)) ∨
    (server.gameidToOnegame.size ≠ 0 ∧ server.gameidToOnegame[server.nowGameId]? = none ∧
      server.chooseGame uuid fresh = none) ∨
    (∃ game : OneGame, server.gameidToOnegame.size ≠ 0 ∧
      server.gameidToOnegame[server.nowGameId]? = some (some game) ∧
      server.chooseGame uuid fresh =
        some (if game.clientConnect.size = playerNum then server.newGame uuid fresh
          else server)) := by
  unfold chooseGame
  by_cases empty : server.gameidToOnegame.size = 0
  · exact .inl ⟨empty, if_pos empty⟩
  · rw [if_neg empty]
    cases held : server.gameidToOnegame[server.nowGameId]? with
    | none =>
      refine .inr (.inl ⟨empty, rfl, ?_⟩)
      simp [onegameOf, held]
    | some entry =>
      obtain ⟨game, rfl, _⟩ := tidy.players _ _ held
      refine .inr (.inr ⟨game, empty, rfl, ?_⟩)
      simp [onegameOf_held held]

theorem newGame_held : (server.newGame uuid fresh).gameidToOnegame[uuid]? =
    some (some { startTime := fresh }) := by
  simp [newGame, putOnegame]

theorem chooseGame_spec (tidy : server.Tidy) (absent : server.gameidToOnegame[uuid]? = none)
    (choice : server.chooseGame uuid fresh = some chosen) :
    chosen.Tidy ∧ chosen.ptrToGameid = server.ptrToGameid ∧
      (∃ game : OneGame, chosen.gameidToOnegame[chosen.nowGameId]? = some (some game)) ∧
      ∀ id entry, chosen.gameidToOnegame[id]? = some entry →
        id = uuid ∨ server.gameidToOnegame[id]? = some entry := by
  have new : (server.newGame uuid fresh).Tidy ∧
      (server.newGame uuid fresh).ptrToGameid = server.ptrToGameid ∧
      (∃ game : OneGame, (server.newGame uuid fresh).gameidToOnegame[
        (server.newGame uuid fresh).nowGameId]? = some (some game)) ∧
      ∀ id entry, (server.newGame uuid fresh).gameidToOnegame[id]? = some entry →
        id = uuid ∨ server.gameidToOnegame[id]? = some entry := by
    refine ⟨tidy.newGame absent fresh, rfl, ⟨_, newGame_held⟩, fun id entry held => ?_⟩
    simp only [newGame, putOnegame, find_insert] at held
    split at held
    · exact .inl (Eq.symm ‹_›)
    · exact .inr held
  rcases chooseGame_cases tidy uuid fresh with
    ⟨_, outcome⟩ | ⟨_, _, outcome⟩ | ⟨game, _, held, outcome⟩
  · rw [outcome, Option.some.injEq] at choice
    exact choice ▸ new
  · rw [outcome] at choice
    contradiction
  · rw [outcome, Option.some.injEq] at choice
    split at choice
    · exact choice ▸ new
    · exact choice ▸ ⟨tidy, rfl, ⟨game, held⟩, fun _ _ => .inr⟩

theorem welcome_iff (tidy : server.Tidy) (absent : server.gameidToOnegame[uuid]? = none)
    (session : Session) (fresh : BitVec 64) :
    server.Welcome session ↔
      ∃ chosen, server.chooseGame uuid fresh = some chosen ∧ chosen.Unbound session := by
  have unused : server.ptrToGameid[session]? ≠ some uuid := by
    intro under
    obtain ⟨entry, held⟩ := tidy.games session uuid under
    rw [absent] at held
    contradiction
  rcases chooseGame_cases tidy uuid fresh with
    ⟨empty, outcome⟩ | ⟨some_game, gone, outcome⟩ | ⟨game, some_game, held, outcome⟩
  · exact iff_of_true (.inl empty) ⟨_, outcome, .inl (tidy.free_of_empty empty session)⟩
  · simp [Welcome, outcome, some_game, gone]
  · by_cases full : game.clientConnect.size = playerNum
    · simp [Welcome, Unbound, outcome, some_game, held, full, newGame, putOnegame, unused]
    · simp [Welcome, Unbound, outcome, some_game, held, full]

variable {codec : BattleCodec} {data : Bytes} {now : BitVec 64}

theorem connectToGame_entered (game : OneGame) (other : Session) :
    other ∈ (game.connectToGame codec session data now).1.clientConnect ↔
      session = other ∨ other ∈ game.clientConnect := by
  have entered : (game.connectToGame codec session data now).1.clientConnect =
      game.clientConnect.insert session (codec.playerUid data) := by
    unfold Game.connectToGame
    dsimp only
    split
    · rfl
    · rfl
  rw [entered, TreeMap.mem_insert, Std.compare_eq_iff_eq]

theorem connectToGame_joins {game : OneGame}
    (choice : server.chooseGame uuid fresh = some chosen)
    (held : chosen.gameidToOnegame[chosen.nowGameId]? = some (some game)) :
    server.connectToGame codec session data uuid fresh now =
      some ({ chosen.putOnegame chosen.nowGameId
                (game.connectToGame codec session data now).1 with
              ptrToGameid := chosen.ptrToGameid.insert session chosen.nowGameId },
        (game.connectToGame codec session data now).2) := by
  simp [connectToGame, choice, onegameOf_held held, putOnegame]

theorem connectToGame_welcome (tidy : server.Tidy)
    (absent : server.gameidToOnegame[uuid]? = none) (welcome : server.Welcome session) :
    ∃ handled, server.connectToGame codec session data uuid fresh now = some handled ∧
      handled.1.Tidy ∧ ∀ id entry, handled.1.gameidToOnegame[id]? = some entry →
        id = uuid ∨ ∃ old, server.gameidToOnegame[id]? = some old := by
  obtain ⟨chosen, choice, unbound⟩ := (welcome_iff tidy absent session fresh).mp welcome
  obtain ⟨chosenTidy, _, ⟨game, held⟩, ids⟩ := chooseGame_spec tidy absent choice
  refine ⟨_, connectToGame_joins choice held,
    chosenTidy.join held unbound (connectToGame_entered game), fun id entry present => ?_⟩
  simp only [putOnegame, find_insert] at present
  split at present
  · rename_i current
    rcases ids id _ (current ▸ held) with new | old
    · exact .inl new
    · exact .inr ⟨_, old⟩
  · rcases ids id entry present with new | old
    · exact .inl new
    · exact .inr ⟨_, old⟩

theorem connectToGame_unwelcome (tidy : server.Tidy)
    (absent : server.gameidToOnegame[uuid]? = none) (unwelcome : ¬server.Welcome session)
    {handled : CombatServer × List (Output Session)}
    (joined : server.connectToGame codec session data uuid fresh now = some handled) :
    ¬handled.1.TablesRight := by
  cases choice : server.chooseGame uuid fresh with
  | none => simp [connectToGame, choice] at joined
  | some chosen =>
    have bound : ¬chosen.Unbound session := fun unbound =>
      unwelcome ((welcome_iff tidy absent session fresh).mpr ⟨chosen, choice, unbound⟩)
    obtain ⟨chosenTidy, _, ⟨game, held⟩, _⟩ := chooseGame_spec tidy absent choice
    rw [connectToGame_joins choice held, Option.some.injEq] at joined
    cases under : chosen.ptrToGameid[session]? with
    | none => exact absurd (.inl under) bound
    | some id =>
      have apart : chosen.nowGameId ≠ id := fun same => bound (.inr (same ▸ under))
      obtain ⟨old, heldOld, players⟩ := chosenTidy.game_of under
      intro right
      subst joined
      refine apart (right.once session chosen.nowGameId
        (game.connectToGame codec session data now).1 id old ?_ ?_ ?_ ?_)
      · exact (find_insert ..).trans (if_pos rfl)
      · exact (find_insert ..).trans ((if_neg apart).trans heldOld)
      · exact (connectToGame_entered game session).mpr (.inl rfl)
      · exact (players session).mpr under

theorem battleGameAction_joined (codec : BattleCodec) (data : Bytes) (now : BitVec 64)
    (tidy : server.Tidy) {id : Uuid} (under : server.ptrToGameid[session]? = some id) :
    ∃ handled, server.battleGameAction codec session data now = some handled ∧
      handled.1.Tidy ∧ ∀ (other : Uuid) entry, handled.1.gameidToOnegame[other]? = some entry →
        ∃ old, server.gameidToOnegame[other]? = some old := by
  obtain ⟨game, held, _⟩ := tidy.game_of under
  have present : server.gameidToOnegame.contains id = true := by
    rw [TreeMap.contains_eq_isSome_getElem?, held]
    rfl
  have acted : server.battleGameAction codec session data now =
      some (server.putOnegame id (OneGame.battleGameAction codec game data now).1,
        (OneGame.battleGameAction codec game data now).2) := by
    simp [battleGameAction, gameidOf_under under, onegameOf_held held, present]
  refine ⟨_, acted, tidy.put held rfl, fun other entry kept => ?_⟩
  simp only [putOnegame, find_insert] at kept
  split at kept
  · rename_i same
    exact ⟨_, same ▸ held⟩
  · exact ⟨entry, kept⟩

theorem battleGameAction_free (unnamed : server.gameidToOnegame[nilUuid]? = none)
    (free : server.ptrToGameid[session]? = none)
    {handled : CombatServer × List (Output Session)}
    (acted : server.battleGameAction codec session data now = some handled) :
    ¬handled.1.TablesRight := by
  have absent : server.gameidToOnegame.contains nilUuid = false := by
    rw [TreeMap.contains_eq_isSome_getElem?, unnamed]
    rfl
  simp only [battleGameAction, gameidOf_free free, absent, Bool.false_eq_true, if_false,
    Option.some.injEq] at acted
  subst acted
  intro right
  obtain ⟨game, held, _⟩ := right.joined session nilUuid ((find_insert ..).trans (if_pos rfl))
  rw [unnamed] at held
  contradiction

theorem dropEmpty_games (id other : Uuid) (left : OneGame) :
    ((server.putOnegame id left).dropEmpty id left).gameidToOnegame[other]? =
      if id = other then (if left.clientConnect.size = 0 then none else some (some left))
      else server.gameidToOnegame[other]? := by
  have some_game : (server.putOnegame id left).gameidToOnegame.size ≠ 0 := by
    intro empty
    have filled : (server.gameidToOnegame.insert id (some left)).isEmpty = false :=
      TreeMap.isEmpty_insert
    rw [TreeMap.isEmpty_eq_size_eq_zero] at filled
    exact absurd empty (by simpa [putOnegame] using filled)
  unfold dropEmpty
  by_cases empty : left.clientConnect.size = 0
  · rw [if_pos ⟨some_game, empty⟩, if_pos empty]
    simp only [putOnegame, find_erase, find_insert]
    split
    · rfl
    · rfl
  · rw [if_neg (fun both => empty both.2), if_neg empty]
    exact find_insert ..

theorem dropEmpty_ptrToGameid (id : Uuid) (left : OneGame) :
    (server.dropEmpty id left).ptrToGameid = server.ptrToGameid := by
  unfold dropEmpty
  split
  · rfl
  · rfl

theorem delConnect_left (game : OneGame) (other : Session) :
    other ∈ (game.delConnect session).clientConnect ↔
      session ≠ other ∧ other ∈ game.clientConnect := by
  rw [Game.delConnect, TreeMap.mem_erase, ne_eq, Std.compare_eq_iff_eq]

theorem Tidy.leave (tidy : server.Tidy) {id : Uuid} {game : OneGame}
    (under : server.ptrToGameid[session]? = some id)
    (held : server.gameidToOnegame[id]? = some (some game)) :
    Tidy { (server.putOnegame id (game.delConnect session)).dropEmpty id
        (game.delConnect session) with
      ptrToGameid := server.ptrToGameid.erase session } := by
  obtain ⟨_, equal, players⟩ := tidy.players _ _ held
  cases equal
  refine ⟨fun other entry present => ?_, fun other id' under' => ?_⟩
  · rw [dropEmpty_games] at present
    split at present
    · rename_i here
      subst here
      split at present
      · contradiction
      · cases present
        refine ⟨_, rfl, fun other => ?_⟩
        rw [delConnect_left, players, find_erase]
        by_cases same : session = other
        · simp [same]
        · simp [same]
    · rename_i apart
      obtain ⟨game', rfl, players'⟩ := tidy.players other entry present
      refine ⟨game', rfl, fun other' => ?_⟩
      rw [players', find_erase]
      by_cases same : session = other'
      · subst same
        simp [under, apart]
      · rw [if_neg same]
  · rw [find_erase] at under'
    split at under'
    · contradiction
    · rename_i apart
      simp only [dropEmpty_games]
      split
      · rename_i here
        subst here
        have stays := (delConnect_left game other).mpr ⟨apart, (players other).mpr under'⟩
        split
        · rename_i empty
          have none_left : (game.delConnect session).clientConnect.keys = [] :=
            List.eq_nil_of_length_eq_zero (TreeMap.length_keys.trans empty)
          rw [← TreeMap.mem_keys, none_left] at stays
          contradiction
        · exact ⟨_, rfl⟩
      · exact tidy.games other id' under'

theorem disconnectedHandler_joined (tidy : server.Tidy) {id : Uuid}
    (under : server.ptrToGameid[session]? = some id) :
    ∃ left, server.disconnectedHandler session = some left ∧ left.Tidy ∧
      ∀ (other : Uuid) entry, left.gameidToOnegame[other]? = some entry →
        ∃ old, server.gameidToOnegame[other]? = some old := by
  obtain ⟨game, held, _⟩ := tidy.game_of under
  have left : server.disconnectedHandler session =
      some { (server.putOnegame id (game.delConnect session)).dropEmpty id
          (game.delConnect session) with
        ptrToGameid := server.ptrToGameid.erase session } := by
    simp [disconnectedHandler, gameidOf_under under, onegameOf_held held,
      dropEmpty_ptrToGameid, putOnegame]
  refine ⟨_, left, tidy.leave under held, fun other entry kept => ?_⟩
  rw [dropEmpty_games] at kept
  split at kept
  · rename_i same
    exact ⟨_, same ▸ held⟩
  · exact ⟨entry, kept⟩

theorem disconnectedHandler_free (unnamed : server.gameidToOnegame[nilUuid]? = none)
    (free : server.ptrToGameid[session]? = none) :
    server.disconnectedHandler session = none := by
  simp [disconnectedHandler, gameidOf_free free, onegameOf, unnamed]

end connect

end CombatServer

section steps
variable {codec : BattleCodec} {w t : World}

theorem Kept.gamesPresent (kept : Kept w) : GamesPresent w :=
  ⟨kept.missing, kept.tidy.tablesRight⟩

theorem recv_outcome (codec : BattleCodec) (session : Session) (data : Bytes)
    (fresh now : BitVec 64) (kept : Kept w) {uuid : Uuid} (new : uuid ∉ w.used) :
    (w.server.Expects session (codec.msgType data) → ∃ handled,
      w.server.recvFinishHandler codec session data uuid fresh now = some handled ∧
        handled.1.Tidy ∧ ∀ (id : Uuid) entry, handled.1.gameidToOnegame[id]? = some entry →
          id = uuid ∨ ∃ old, w.server.gameidToOnegame[id]? = some old) ∧
    (¬w.server.Expects session (codec.msgType data) → ∀ handled,
      w.server.recvFinishHandler codec session data uuid fresh now = some handled →
        ¬handled.1.TablesRight) := by
  have absent : ∀ id ∉ w.used, w.server.gameidToOnegame[id]? = none := by
    intro id unused
    cases held : w.server.gameidToOnegame[id]? with
    | none => rfl
    | some entry => exact absurd (kept.generated id entry held) unused
  unfold CombatServer.recvFinishHandler
  cases codec.msgType data with
  | connectToGame =>
    exact ⟨CombatServer.connectToGame_welcome kept.tidy (absent uuid new),
      fun unwelcome _ joined =>
        CombatServer.connectToGame_unwelcome kept.tidy (absent uuid new) unwelcome joined⟩
  | gameAction =>
    constructor
    · intro joined
      obtain ⟨id, under⟩ := Option.ne_none_iff_exists'.mp joined
      obtain ⟨handled, acted, tidy, ids⟩ :=
        CombatServer.battleGameAction_joined codec data now kept.tidy under
      exact ⟨handled, acted, tidy, fun id entry held => .inr (ids id entry held)⟩
    · intro free handled acted
      exact CombatServer.battleGameAction_free (absent nilUuid kept.named)
        (not_not.mp free) acted
  | other =>
    exact ⟨fun _ => ⟨_, rfl, kept.tidy, fun id entry held => .inr ⟨entry, held⟩⟩,
      fun unexpected => absurd trivial unexpected⟩

theorem gamesPresent_step {e : Event} (kept : Kept w) (moved : w.step codec e = some t) :
    (GamesPresent t ↔ Careful codec w e) ∧ (Careful codec w e → Kept t) := by
  cases e with
  | connected session =>
    simp only [World.step, Option.ite_none_left_eq_some, Option.some.injEq] at moved
    obtain ⟨_, rfl⟩ := moved
    exact exactly_step Kept.gamesPresent (fun _ => ⟨kept.missing, kept.tidy, kept.generated, kept.named⟩)
      (fun careless => absurd trivial careless)
  | recv session data uuid fresh now =>
    simp only [World.step, Option.ite_none_left_eq_some, not_or] at moved
    obtain ⟨⟨_, _, new, named⟩, moved⟩ := moved
    obtain ⟨expected, unexpected⟩ :=
      recv_outcome codec session data fresh now kept new
    cases outcome : w.server.recvFinishHandler codec session data uuid fresh now with
    | none =>
      rw [outcome, Option.some.injEq] at moved
      subst moved
      refine exactly_step Kept.gamesPresent (fun careful => ?_) (fun _ present => ?_)
      · obtain ⟨handled, done, _⟩ := expected careful
        rw [outcome] at done
        contradiction
      · exact absurd present.1 (by simp)
    | some handled =>
      rw [outcome, Option.some.injEq] at moved
      subst moved
      refine exactly_step Kept.gamesPresent (fun careful => ?_) (fun careless present => ?_)
      · obtain ⟨_, done, tidy, ids⟩ := expected careful
        rw [outcome, Option.some.injEq] at done
        subst done
        refine ⟨kept.missing, tidy, fun id entry held => ?_, ?_⟩
        · rcases ids id entry held with rfl | ⟨old, before⟩
          · exact List.mem_cons_self ..
          · exact List.mem_cons_of_mem _ (kept.generated id old before)
        · exact fun member => (List.mem_cons.mp member).elim (fun same => named same.symm)
            kept.named
      · exact unexpected careless handled outcome present.2
  | disconnected session =>
    simp only [World.step, Option.ite_none_left_eq_some] at moved
    obtain ⟨_, moved⟩ := moved
    cases under : w.server.ptrToGameid[session]? with
    | none =>
      have unnamed : w.server.gameidToOnegame[nilUuid]? = none := by
        cases held : w.server.gameidToOnegame[nilUuid]? with
        | none => rfl
        | some entry => exact absurd (kept.generated _ entry held) kept.named
      rw [CombatServer.disconnectedHandler_free unnamed under, Option.some.injEq] at moved
      subst moved
      refine exactly_step Kept.gamesPresent (fun careful => absurd under careful) (fun _ present => ?_)
      exact absurd present.1 (by simp)
    | some id =>
      obtain ⟨left, done, tidy, ids⟩ := CombatServer.disconnectedHandler_joined kept.tidy under
      rw [done, Option.some.injEq] at moved
      subst moved
      refine exactly_step Kept.gamesPresent (fun _ => ⟨kept.missing, tidy, fun id entry held => ?_, kept.named⟩)
        (fun careless => absurd (by simp [Careful, under]) careless)
      obtain ⟨old, before⟩ := ids id entry held
      exact kept.generated id old before

theorem kept_initial : Kept {} := ⟨rfl, ⟨by simp, by simp⟩, by simp, by simp⟩

end steps

/-- Every game that is used exists and the tables agree as long as sessions join before
    they act or leave, join one game only and find the current game; the first step that
    is different breaks them. -/
theorem games_present_while_careful (codec : BattleCodec) {w : World}
    (run : Reach (World.step codec) (Careful codec) {} w) :
    GamesPresent w ∧ ∀ e t, w.step codec e = some t → (GamesPresent t ↔ Careful codec w e) := by
  exact (reach_exactly Kept GamesPresent kept_initial (fun _ kept => kept.gamesPresent)
    (fun _ _ _ kept moved => gamesPresent_step kept moved) run).2

def byteCodec : BattleCodec :=
  { msgType := fun data =>
      if data.head? = some 0 then .connectToGame
      else if data.head? = some 1 then .gameAction else .other
    playerUid := fun data => (data.getD 1 0).setWidth 32
    gameAction := fun data => ⟨data.drop 1, 0⟩ }

theorem games_present_after_leave : ∃ w,
    Reach (World.step byteCodec) (Careful byteCodec) {} w ∧
      (w.server.gameidToOnegame.size = 1 ∧ w.sent.length = 3 ∧ w.sessions = [2]) ∧
      GamesPresent w ∧ ∀ e t, w.step byteCodec e = some t →
        (GamesPresent t ↔ Careful byteCodec w e) := by
  obtain ⟨w, run, facts⟩ := execWithin_any (World.step byteCodec) (Careful byteCodec) {}
    [.connected 1, .connected 2, .recv 1 [0, 11] 100 0 0, .recv 2 [0, 12] 101 0 0,
      .disconnected 1, .recv 2 [1, 5] 102 0 7]
    (fun w => decide (w.server.gameidToOnegame.size = 1 ∧ w.sent.length = 3 ∧
      w.sessions = [2])) (by decide +kernel)
  exact ⟨w, run, of_decide_eq_true facts, games_present_while_careful byteCodec run⟩

/-- A session leaves without having joined. -/
theorem missing_game_at_disconnect : ¬∀ codec w,
    Reach (World.step codec) always {} w → GamesPresent w := by
  intro all
  obtain ⟨w, run, facts⟩ := execWithin_any (World.step byteCodec) (fun _ _ => True) {}
    [.connected 1, .disconnected 1] (fun w => w.missing) (by decide +kernel)
  have present := (all byteCodec w run).1
  rw [facts] at present
  contradiction

end LaluneServer.Combat
