import LaluneServer.Combat.GameTables

/- Lockstep: the players of a game hear the same actions in the same order. Beside the
   server stands what no part of it keeps: each game's actions in the order in which they
   came, where in that order a session came in and left, and who came in before whom. -/
namespace LaluneServer.Combat

open NetLib InverseIndex Transition
open Std (TreeMap)

structure Stay where
  game : Uuid
  first : Nat
  last : Option Nat := none
  deriving DecidableEq, Repr

/-- The world with the actions of all games in the order in which they came, and the
    sessions in the order in which they joined. -/
structure Recorded where
  world : World := {}
  log : List (Uuid × GameAction) := []
  stays : TreeMap Session Stay := ∅
  joins : List Session := []

def actionsOf (log : List (Uuid × GameAction)) (id : Uuid) : List GameAction :=
  (log.filter (fun entry => entry.1 = id)).map Prod.snd

def Stay.segment (stay : Stay) (actions : List GameAction) : List GameAction :=
  (actions.take (stay.last.getD actions.length)).drop stay.first

def heardIn (session : Session) : Output Session → List GameAction
  | .gameActions actions players => if session ∈ players then actions else []
  | _ => []

def heard (session : Session) (sent : List (Output Session)) : List GameAction :=
  sent.flatMap (heardIn session)

def CombatServer.acted (codec : BattleCodec) (server : CombatServer) :
    Event → List (Uuid × GameAction)
  | .recv session data _ _ now =>
    match codec.msgType data, server.ptrToGameid[session]? with
    | .gameAction, some id =>
      match server.gameidToOnegame[id]? with
      | some (some game) => [(id, game.timed codec data now)]
      | _ => []
    | _, _ => []
  | _ => []

namespace Recorded

def staying (codec : BattleCodec) (r : Recorded) (after : World) : Event → TreeMap Session Stay
  | .connected _ => r.stays
  | .recv session data _ _ _ =>
    match codec.msgType data, after.server.ptrToGameid[session]?, r.stays[session]? with
    | .connectToGame, some id, none =>
      r.stays.insert session { game := id, first := (actionsOf r.log id).length }
    | _, _, _ => r.stays
  | .disconnected session =>
    match r.stays[session]? with
    | some stay =>
      r.stays.insert session { stay with last := some (actionsOf r.log stay.game).length }
    | none => r.stays

def joining (codec : BattleCodec) (r : Recorded) (after : World) : Event → List Session
  | .recv session data _ _ _ =>
    match codec.msgType data, after.server.ptrToGameid[session]?, r.stays[session]? with
    | .connectToGame, some _, none => r.joins ++ [session]
    | _, _, _ => r.joins
  | _ => r.joins

def step (codec : BattleCodec) (r : Recorded) (e : Event) : Option Recorded :=
  (r.world.step codec e).map (fun after =>
    { world := after
      log := r.log ++ r.world.server.acted codec e
      stays := r.staying codec after e
      joins := r.joining codec after e })

def Later (stays : TreeMap Session Stay) (session later : Session) : Prop :=
  ∀ stay stay', stays[session]? = some stay → stays[later]? = some stay' →
    stay.game = stay'.game → stay.first ≤ stay'.first

structure InOrder (joins : List Session) (stays : TreeMap Session Stay) : Prop where
  member : ∀ session, session ∈ joins ↔ ∃ stay, stays[session]? = some stay
  nodup : joins.Nodup
  later : joins.Pairwise (Later stays)

structure InStep (r : Recorded) : Prop where
  kept : Kept r.world
  empty : ∀ (id : Uuid) (game : OneGame),
    r.world.server.gameidToOnegame[id]? = some (some game) → game.actions = []
  playing : ∀ (session : Session) (id : Uuid), r.world.server.ptrToGameid[session]? = some id ↔
    ∃ stay, r.stays[session]? = some stay ∧ stay.game = id ∧ stay.last = none
  within : ∀ (session : Session) stay, r.stays[session]? = some stay →
    stay.first ≤ (actionsOf r.log stay.game).length ∧
      ∀ last ∈ stay.last, last ≤ (actionsOf r.log stay.game).length
  stayed : ∀ (session : Session) stay, r.stays[session]? = some stay →
    heard session r.world.sent = stay.segment (actionsOf r.log stay.game)
  strange : ∀ session : Session, r.stays[session]? = none → heard session r.world.sent = []
  nodup : r.world.sessions.Nodup
  gone : ∀ (session : Session) stay, r.stays[session]? = some stay → stay.last ≠ none →
    session ∈ r.world.ended ∧ session ∉ r.world.sessions
  order : InOrder r.joins r.stays

end Recorded

section record
variable {log : List (Uuid × GameAction)} {id other : Uuid} {action : GameAction}

theorem actionsOf_same : actionsOf (log ++ [(id, action)]) id = actionsOf log id ++ [action] := by
  simp [actionsOf]

theorem actionsOf_apart (apart : id ≠ other) :
    actionsOf (log ++ [(id, action)]) other = actionsOf log other := by
  simp [actionsOf, apart]

theorem heard_append (session : Session) (sent more : List (Output Session)) :
    heard session (sent ++ more) = heard session sent ++ heard session more :=
  List.flatMap_append

theorem segment_open {game : Uuid} {first : Nat} (actions : List GameAction) :
    Stay.segment { game := game, first := first } actions = actions.drop first := by
  simp [Stay.segment]

theorem segment_grows {stay : Stay} {actions : List GameAction} (present : stay.last = none)
    (within : stay.first ≤ actions.length) :
    stay.segment (actions ++ [action]) = stay.segment actions ++ [action] := by
  simp only [Stay.segment, present, Option.getD_none, List.take_length]
  exact List.drop_append_of_le_length within

theorem segment_settled {stay : Stay} {actions : List GameAction} {last : Nat}
    (left : stay.last = some last) (within : last ≤ actions.length) :
    stay.segment (actions ++ [action]) = stay.segment actions := by
  simp [Stay.segment, left, List.take_append_of_le_length within]

end record

section handlers
variable {codec : BattleCodec} {server : CombatServer} {session : Session} {id : Uuid}
variable {data : Bytes} {uuid : Uuid} {fresh now : BitVec 64}

theorem heard_connectToGame (game : OneGame) (listener : Session) :
    heard listener (game.connectToGame codec session data now).2 = [] := by
  unfold Game.connectToGame
  dsimp only
  split
  · rfl
  · rfl

theorem connectToGame_actions (game : OneGame) :
    (game.connectToGame codec session data now).1.actions = game.actions := by
  unfold Game.connectToGame
  dsimp only
  split
  · rfl
  · rfl

theorem newGame_empty
    (empty : ∀ (id : Uuid) (game : OneGame),
      server.gameidToOnegame[id]? = some (some game) → game.actions = [])
    (id : Uuid) (game : OneGame)
    (held : (server.newGame uuid fresh).gameidToOnegame[id]? = some (some game)) :
    game.actions = [] := by
  simp only [CombatServer.newGame, CombatServer.putOnegame, find_insert] at held
  split at held
  · cases held
    rfl
  · exact empty id game held

theorem chooseGame_empty {chosen : CombatServer} (tidy : server.Tidy)
    (empty : ∀ (id : Uuid) (game : OneGame),
      server.gameidToOnegame[id]? = some (some game) → game.actions = [])
    (choice : server.chooseGame uuid fresh = some chosen) (id : Uuid) (game : OneGame)
    (held : chosen.gameidToOnegame[id]? = some (some game)) : game.actions = [] := by
  rcases CombatServer.chooseGame_cases tidy uuid fresh with
    ⟨_, outcome⟩ | ⟨_, _, outcome⟩ | ⟨current, _, _, outcome⟩
  · rw [outcome, Option.some.injEq] at choice
    exact newGame_empty empty id game (choice ▸ held)
  · rw [outcome] at choice
    contradiction
  · rw [outcome, Option.some.injEq] at choice
    split at choice
    · exact newGame_empty empty id game (choice ▸ held)
    · exact empty id game (choice ▸ held)

theorem connectToGame_result (codec : BattleCodec) (data : Bytes) (fresh now : BitVec 64)
    (tidy : server.Tidy)
    (absent : server.gameidToOnegame[uuid]? = none)
    (empty : ∀ (id : Uuid) (game : OneGame),
      server.gameidToOnegame[id]? = some (some game) → game.actions = [])
    (welcome : server.Welcome session) :
    ∃ handled joined, server.connectToGame codec session data uuid fresh now = some handled ∧
      handled.1.ptrToGameid = server.ptrToGameid.insert session joined ∧
      (server.ptrToGameid[session]? = none ∨ server.ptrToGameid[session]? = some joined) ∧
      (∀ listener, heard listener handled.2 = []) ∧
      ∀ (id : Uuid) (game : OneGame),
        handled.1.gameidToOnegame[id]? = some (some game) → game.actions = [] := by
  obtain ⟨chosen, choice, unbound⟩ :=
    (CombatServer.welcome_iff tidy absent session fresh).mp welcome
  obtain ⟨_, same, ⟨game, held⟩, _⟩ := CombatServer.chooseGame_spec tidy absent choice
  refine ⟨_, chosen.nowGameId, CombatServer.connectToGame_joins choice held, ?_, ?_,
    heard_connectToGame game, ?_⟩
  · rw [same]
  · rw [← same]
    exact unbound
  · intro id other present
    simp only [CombatServer.putOnegame, find_insert] at present
    split at present
    · cases present
      rw [connectToGame_actions]
      exact chooseGame_empty tidy empty choice _ game held
    · exact chooseGame_empty tidy empty choice id other present

theorem battleGameAction_result (codec : BattleCodec) (data : Bytes) (now : BitVec 64)
    (tidy : server.Tidy)
    (empty : ∀ (id : Uuid) (game : OneGame),
      server.gameidToOnegame[id]? = some (some game) → game.actions = [])
    (under : server.ptrToGameid[session]? = some id) :
    ∃ (handled : CombatServer × List (Output Session)) (game : OneGame),
      server.gameidToOnegame[id]? = some (some game) ∧
      server.battleGameAction codec session data now = some handled ∧
      handled.1.ptrToGameid = server.ptrToGameid ∧
      (∀ listener, heard listener handled.2 =
        if server.ptrToGameid[listener]? = some id then [game.timed codec data now] else []) ∧
      ∀ (other : Uuid) (game' : OneGame),
        handled.1.gameidToOnegame[other]? = some (some game') → game'.actions = [] := by
  obtain ⟨game, held, players⟩ := tidy.game_of under
  have present : server.gameidToOnegame.contains id = true := by
    rw [TreeMap.contains_eq_isSome_getElem?, held]
    rfl
  have acted : server.battleGameAction codec session data now =
      some (server.putOnegame id (OneGame.battleGameAction codec game data now).1,
        (OneGame.battleGameAction codec game data now).2) := by
    simp [CombatServer.battleGameAction, CombatServer.gameidOf_under under,
      CombatServer.onegameOf_held held, present]
  refine ⟨_, game, held, acted, rfl, fun listener => ?_, fun other game' kept => ?_⟩
  · simp [heard, heardIn, OneGame.battleGameAction, empty id game held, players]
  · simp only [CombatServer.putOnegame, find_insert] at kept
    split at kept
    · cases kept
      rfl
    · exact empty other game' kept

theorem disconnectedHandler_result (tidy : server.Tidy)
    (empty : ∀ (id : Uuid) (game : OneGame),
      server.gameidToOnegame[id]? = some (some game) → game.actions = [])
    (under : server.ptrToGameid[session]? = some id) :
    ∃ left, server.disconnectedHandler session = some left ∧
      left.ptrToGameid = server.ptrToGameid.erase session ∧
      ∀ (other : Uuid) (game : OneGame),
        left.gameidToOnegame[other]? = some (some game) → game.actions = [] := by
  obtain ⟨game, held, _⟩ := tidy.game_of under
  have left : server.disconnectedHandler session =
      some { (server.putOnegame id (game.delConnect session)).dropEmpty id
          (game.delConnect session) with
        ptrToGameid := server.ptrToGameid.erase session } := by
    simp [CombatServer.disconnectedHandler, CombatServer.gameidOf_under under,
      CombatServer.onegameOf_held held, CombatServer.dropEmpty_ptrToGameid,
      CombatServer.putOnegame]
  refine ⟨_, left, rfl, fun other game' kept => ?_⟩
  rw [CombatServer.dropEmpty_games] at kept
  split at kept
  · split at kept
    · contradiction
    · cases kept
      exact empty id game held
  · exact empty other game' kept

end handlers

namespace Recorded

section order
variable {joins : List Session} {stays : TreeMap Session Stay} {session : Session} {stay : Stay}

theorem inOrder_join (order : InOrder joins stays) (new : stays[session]? = none)
    (last : ∀ (other : Session) stay', stays[other]? = some stay' → stay'.game = stay.game →
      stay'.first ≤ stay.first) :
    InOrder (joins ++ [session]) (stays.insert session stay) := by
  have absent : session ∉ joins := by
    intro member
    obtain ⟨old, held⟩ := (order.member session).mp member
    rw [new] at held
    contradiction
  have kept : ∀ other ∈ joins, (stays.insert session stay)[other]? = stays[other]? := by
    intro other member
    rw [find_insert, if_neg]
    rintro rfl
    exact absent member
  refine ⟨fun other => ?_, ?_, ?_⟩
  · rw [List.mem_append, List.mem_singleton, order.member, find_insert]
    by_cases here : session = other
    · simp [here]
    · simp [here, Ne.symm here]
  · exact List.nodup_append.mpr ⟨order.nodup, List.nodup_singleton _, by
      rintro other member _ (_ | _) rfl
      · exact absent member
      · contradiction⟩
  · refine List.pairwise_append.mpr ⟨?_, List.pairwise_singleton _ _, ?_⟩
    · refine order.later.imp_of_mem ?_
      intro first second firstIn secondIn later old old' held held'
      rw [kept first firstIn] at held
      rw [kept second secondIn] at held'
      exact later old old' held held'
    · intro first firstIn second secondIn old new' held held' game
      obtain rfl := List.mem_singleton.mp secondIn
      rw [kept first firstIn] at held
      rw [find_insert, if_pos rfl, Option.some.injEq] at held'
      subst held'
      exact last first old held game

theorem inOrder_leave (order : InOrder joins stays) (held : stays[session]? = some stay)
    (left : Option Nat) :
    InOrder joins (stays.insert session { stay with last := left }) := by
  have before : ∀ (other : Session) stay',
      (stays.insert session { stay with last := left })[other]? = some stay' →
        ∃ old, stays[other]? = some old ∧ old.game = stay'.game ∧ old.first = stay'.first := by
    intro other stay' found
    rw [find_insert] at found
    split at found
    · rename_i here
      subst here
      cases found
      exact ⟨stay, held, rfl, rfl⟩
    · exact ⟨stay', found, rfl, rfl⟩
  refine ⟨fun other => ?_, order.nodup, ?_⟩
  · rw [order.member, find_insert]
    by_cases here : session = other
    · subst here
      simp [held]
    · simp [here]
  · refine order.later.imp ?_
    intro first second later old old' found found' game
    obtain ⟨stay₁, found₁, game₁, first₁⟩ := before first old found
    obtain ⟨stay₂, found₂, game₂, first₂⟩ := before second old' found'
    rw [← first₁, ← first₂]
    exact later stay₁ stay₂ found₁ found₂ (by rw [game₁, game₂, game])

end order

section steps
variable {codec : BattleCodec} {r : Recorded}

theorem inStep_connected (fine : r.InStep) {session : Session}
    (new : session ∉ r.world.sessions) (unended : session ∉ r.world.ended)
    (kept : Kept { r.world with sessions := session :: r.world.sessions }) :
    InStep { r with world := { r.world with sessions := session :: r.world.sessions } } := by
  refine ⟨kept, fine.empty, fine.playing, fine.within, fine.stayed, fine.strange,
    List.nodup_cons.mpr ⟨new, fine.nodup⟩, fun other stay held left => ?_, fine.order⟩
  obtain ⟨ended, away⟩ := fine.gone other stay held left
  refine ⟨ended, fun member => ?_⟩
  rcases List.mem_cons.mp member with rfl | connected
  · exact unended ended
  · exact away connected

theorem inStep_quiet (fine : r.InStep) {after : World} (kept : Kept after)
    (empty : ∀ (id : Uuid) (game : OneGame),
      after.server.gameidToOnegame[id]? = some (some game) → game.actions = [])
    (same : ∀ session : Session,
      after.server.ptrToGameid[session]? = r.world.server.ptrToGameid[session]?)
    (silent : ∀ listener, heard listener after.sent = heard listener r.world.sent)
    (sessions : after.sessions = r.world.sessions) (ended : after.ended = r.world.ended) :
    InStep { r with world := after } := by
  refine ⟨kept, empty, ?_, fine.within, ?_, ?_, ?_, ?_, fine.order⟩
  · intro session id
    rw [same]
    exact fine.playing session id
  · intro session stay held
    rw [silent]
    exact fine.stayed session stay held
  · intro session free
    rw [silent]
    exact fine.strange session free
  · rw [sessions]
    exact fine.nodup
  · rw [sessions, ended]
    exact fine.gone

theorem InStep.under_of_connected (fine : r.InStep) {session : Session} {stay : Stay}
    (connected : session ∈ r.world.sessions) (held : r.stays[session]? = some stay) :
    r.world.server.ptrToGameid[session]? = some stay.game := by
  have present : stay.last = none := by
    by_contra left
    exact (fine.gone session stay held left).2 connected
  exact (fine.playing session stay.game).mpr ⟨stay, held, rfl, present⟩

theorem inStep_join (fine : r.InStep) {after : World} {session : Session} {joined : Uuid}
    (kept : Kept after)
    (empty : ∀ (id : Uuid) (game : OneGame),
      after.server.gameidToOnegame[id]? = some (some game) → game.actions = [])
    (table : after.server.ptrToGameid = r.world.server.ptrToGameid.insert session joined)
    (silent : ∀ listener, heard listener after.sent = heard listener r.world.sent)
    (sessions : after.sessions = r.world.sessions) (ended : after.ended = r.world.ended)
    (new : r.stays[session]? = none) :
    InStep { r with
      world := after
      stays := r.stays.insert session
        { game := joined, first := (actionsOf r.log joined).length }
      joins := r.joins ++ [session] } := by
  refine ⟨kept, empty, ?_, ?_, ?_, ?_, ?_, ?_, inOrder_join fine.order new ?_⟩
  · intro other id
    rw [table, find_insert, find_insert]
    split
    · simp [eq_comm]
    · exact fine.playing other id
  · intro other stay held
    rw [find_insert] at held
    split at held
    · cases held
      exact ⟨le_rfl, fun last left => by simp at left⟩
    · exact fine.within other stay held
  · intro other stay held
    rw [find_insert] at held
    rw [silent]
    split at held
    · rename_i same
      cases held
      subst same
      rw [segment_open, List.drop_length]
      exact fine.strange session new
    · exact fine.stayed other stay held
  · intro other free
    rw [find_insert] at free
    rw [silent]
    split at free
    · contradiction
    · exact fine.strange other free
  · rw [sessions]
    exact fine.nodup
  · intro other stay held left
    rw [find_insert] at held
    rw [sessions, ended]
    split at held
    · cases held
      exact absurd rfl left
    · exact fine.gone other stay held left
  · rintro other stay held rfl
    exact (fine.within other stay held).1

theorem inStep_action (fine : r.InStep) {after : World} {id : Uuid} {action : GameAction}
    (kept : Kept after)
    (empty : ∀ (id : Uuid) (game : OneGame),
      after.server.gameidToOnegame[id]? = some (some game) → game.actions = [])
    (same : ∀ session : Session,
      after.server.ptrToGameid[session]? = r.world.server.ptrToGameid[session]?)
    (sent : ∀ listener, heard listener after.sent = heard listener r.world.sent ++
      if r.world.server.ptrToGameid[listener]? = some id then [action] else [])
    (sessions : after.sessions = r.world.sessions) (ended : after.ended = r.world.ended) :
    InStep { r with world := after, log := r.log ++ [(id, action)] } := by
  have longer : ∀ other, (actionsOf r.log other).length ≤
      (actionsOf (r.log ++ [(id, action)]) other).length := by
    intro other
    by_cases here : id = other
    · subst here
      simp [actionsOf_same]
    · rw [actionsOf_apart here]
  refine ⟨kept, empty, ?_, ?_, ?_, ?_, ?_, ?_, fine.order⟩
  · intro session other
    rw [same]
    exact fine.playing session other
  · intro session stay held
    obtain ⟨first, last⟩ := fine.within session stay held
    exact ⟨first.trans (longer _), fun n left => (last n left).trans (longer _)⟩
  · intro session stay held
    obtain ⟨first, settled⟩ := fine.within session stay held
    rw [sent, fine.stayed session stay held]
    by_cases here : id = stay.game
    · subst here
      rw [actionsOf_same]
      cases left : stay.last with
      | none =>
        rw [if_pos ((fine.playing session _).mpr ⟨stay, held, rfl, left⟩),
          segment_grows left first]
      | some last =>
        rw [if_neg, List.append_nil, segment_settled left (settled last left)]
        intro under
        obtain ⟨other, heldOther, _, present⟩ := (fine.playing session _).mp under
        rw [held] at heldOther
        cases heldOther
        rw [left] at present
        contradiction
    · rw [actionsOf_apart here, if_neg, List.append_nil]
      intro under
      obtain ⟨other, heldOther, game, _⟩ := (fine.playing session _).mp under
      rw [held] at heldOther
      cases heldOther
      exact here game.symm
  · intro session free
    rw [sent, fine.strange session free, if_neg, List.append_nil]
    intro under
    obtain ⟨stay, held, _⟩ := (fine.playing session _).mp under
    rw [free] at held
    contradiction
  · rw [sessions]
    exact fine.nodup
  · rw [sessions, ended]
    exact fine.gone

theorem inStep_leave (fine : r.InStep) {left : CombatServer} {session : Session} {stay : Stay}
    (kept : Kept { r.world with
      server := left
      sessions := r.world.sessions.erase session
      ended := session :: r.world.ended })
    (empty : ∀ (id : Uuid) (game : OneGame),
      left.gameidToOnegame[id]? = some (some game) → game.actions = [])
    (table : left.ptrToGameid = r.world.server.ptrToGameid.erase session)
    (held : r.stays[session]? = some stay) (present : stay.last = none) :
    InStep { r with
      world := { r.world with
        server := left
        sessions := r.world.sessions.erase session
        ended := session :: r.world.ended }
      stays := r.stays.insert session
        { stay with last := some (actionsOf r.log stay.game).length } } := by
  obtain ⟨first, _⟩ := fine.within session stay held
  refine ⟨kept, empty, ?_, ?_, ?_, ?_, fine.nodup.erase session, ?_,
    inOrder_leave fine.order held _⟩
  · intro other id
    simp only [table, find_erase, find_insert]
    split
    · simp
    · exact fine.playing other id
  · intro other stay' held'
    simp only [find_insert] at held'
    split at held'
    · cases held'
      refine ⟨first, fun last here => ?_⟩
      cases here
      exact le_rfl
    · exact fine.within other stay' held'
  · intro other stay' held'
    simp only [find_insert] at held'
    split at held'
    · rename_i same
      cases held'
      subst same
      rw [fine.stayed session stay held]
      simp [Stay.segment, present]
    · exact fine.stayed other stay' held'
  · intro other free
    simp only [find_insert] at free
    split at free
    · contradiction
    · exact fine.strange other free
  · intro other stay' held' away
    simp only [find_insert] at held'
    split at held'
    · rename_i same
      subst same
      exact ⟨List.mem_cons_self .., fine.nodup.not_mem_erase⟩
    · obtain ⟨ended, out⟩ := fine.gone other stay' held' away
      exact ⟨List.mem_cons_of_mem _ ended, fun member => out (List.mem_of_mem_erase member)⟩

theorem inStep_recv (fine : r.InStep) {session : Session} {data : Bytes} {uuid : Uuid}
    {fresh now : BitVec 64} {t : Recorded}
    (expected : r.world.server.Expects session (codec.msgType data))
    (moved : r.step codec (.recv session data uuid fresh now) = some t) : t.InStep := by
  obtain ⟨after, stepped, rfl⟩ := Option.map_eq_some_iff.mp moved
  have kept : Kept after := (gamesPresent_step fine.kept stepped).2 expected
  simp only [World.step, Option.ite_none_left_eq_some, not_or, not_not] at stepped
  obtain ⟨⟨_, connected, new, _⟩, stepped⟩ := stepped
  have absent : r.world.server.gameidToOnegame[uuid]? = none := by
    cases held : r.world.server.gameidToOnegame[uuid]? with
    | none => rfl
    | some entry => exact absurd (fine.kept.generated uuid entry held) new
  cases type : codec.msgType data with
  | connectToGame =>
    rw [type] at expected
    obtain ⟨handled, joined, result, table, unbound, silent, empty⟩ :=
      connectToGame_result codec data fresh now fine.kept.tidy absent fine.empty expected
    simp only [CombatServer.recvFinishHandler, type, result, Option.some.injEq] at stepped
    subst stepped
    have quiet : ∀ listener, heard listener (r.world.sent ++ handled.2) =
        heard listener r.world.sent := by
      intro listener
      rw [heard_append, silent, List.append_nil]
    cases held : r.stays[session]? with
    | some stay =>
      have under := fine.under_of_connected connected held
      have again : stay.game = joined := by
        rcases unbound with free | bound
        · rw [free] at under
          contradiction
        · rw [bound] at under
          exact (Option.some.inj under).symm
      have unchanged : ∀ other : Session, handled.1.ptrToGameid[other]? =
          r.world.server.ptrToGameid[other]? := by
        intro other
        rw [table, find_insert]
        split
        · rename_i here
          rw [← here, under, again]
        · rfl
      have stays := inStep_quiet fine kept empty unchanged quiet rfl rfl
      simpa [CombatServer.acted, staying, joining, type, held] using stays
    | none =>
      have joins := inStep_join fine kept empty table quiet rfl rfl held
      have now_under : handled.1.ptrToGameid[session]? = some joined := by
        rw [table, find_insert, if_pos rfl]
      simpa [CombatServer.acted, staying, joining, type, held, now_under] using joins
  | gameAction =>
    rw [type] at expected
    obtain ⟨id, under⟩ := Option.ne_none_iff_exists'.mp expected
    obtain ⟨handled, game, held, result, same, sent, empty⟩ :=
      battleGameAction_result codec data now fine.kept.tidy fine.empty under
    simp only [CombatServer.recvFinishHandler, type, result, Option.some.injEq] at stepped
    subst stepped
    have heardNow : ∀ listener, heard listener (r.world.sent ++ handled.2) =
        heard listener r.world.sent ++
          if r.world.server.ptrToGameid[listener]? = some id then
            [game.timed codec data now] else [] := by
      intro listener
      rw [heard_append, sent]
    have acts := inStep_action fine kept empty (fun other => by rw [same]) heardNow rfl rfl
    simpa [CombatServer.acted, staying, joining, type, under, held] using acts
  | other =>
    simp only [CombatServer.recvFinishHandler, type, Option.some.injEq] at stepped
    subst stepped
    have quiet := inStep_quiet fine kept fine.empty (fun _ => rfl)
      (fun listener => by simp) rfl rfl
    simpa [CombatServer.acted, staying, joining, type] using quiet

theorem inStep_step (fine : r.InStep) {e : Event} {t : Recorded}
    (careful : Careful codec r.world e) (moved : r.step codec e = some t) : t.InStep := by
  cases e with
  | connected session =>
    obtain ⟨after, stepped, rfl⟩ := Option.map_eq_some_iff.mp moved
    have kept : Kept after := (gamesPresent_step fine.kept stepped).2 careful
    simp only [World.step, Option.ite_none_left_eq_some, not_or, Option.some.injEq] at stepped
    obtain ⟨⟨_, new, unended⟩, rfl⟩ := stepped
    simpa [CombatServer.acted, staying, joining] using
      inStep_connected fine new unended kept
  | recv session data uuid fresh now => exact inStep_recv fine careful moved
  | disconnected session =>
    obtain ⟨after, stepped, rfl⟩ := Option.map_eq_some_iff.mp moved
    have kept : Kept after := (gamesPresent_step fine.kept stepped).2 careful
    obtain ⟨id, under⟩ := Option.ne_none_iff_exists'.mp careful
    obtain ⟨stay, held, _, present⟩ := (fine.playing session id).mp under
    obtain ⟨left, result, table, empty⟩ :=
      disconnectedHandler_result fine.kept.tidy fine.empty under
    simp only [World.step, Option.ite_none_left_eq_some, result, Option.some.injEq] at stepped
    obtain ⟨_, rfl⟩ := stepped
    simpa [CombatServer.acted, staying, joining, held] using
      inStep_leave fine kept empty table held present

theorem inStep_initial : ({} : Recorded).InStep := by
  refine ⟨kept_initial, ?_, ?_, ?_, ?_, ?_, ?_, ?_, ?_⟩
  · simp
  · simp
  · simp
  · simp
  · intro session _
    rfl
  · exact List.nodup_nil
  · simp
  · exact ⟨by simp, List.nodup_nil, List.Pairwise.nil⟩

end steps

/-- Of two players of one game, the one that joined later has heard the end of what the
    other one has heard. -/
theorem InStep.suffix {r : Recorded} (fine : r.InStep) {session later : Session} {id : Uuid}
    (order : [session, later].Sublist r.joins)
    (under : r.world.server.ptrToGameid[session]? = some id)
    (under' : r.world.server.ptrToGameid[later]? = some id) :
    heard later r.world.sent <:+ heard session r.world.sent := by
  obtain ⟨stay, held, game, present⟩ := (fine.playing session id).mp under
  obtain ⟨stay', held', game', present'⟩ := (fine.playing later id).mp under'
  have mine : heard session r.world.sent = (actionsOf r.log id).drop stay.first := by
    rw [fine.stayed session stay held, game]
    simp [Stay.segment, present]
  have others : heard later r.world.sent = (actionsOf r.log id).drop stay'.first := by
    rw [fine.stayed later stay' held', game']
    simp [Stay.segment, present']
  have first : stay.first ≤ stay'.first :=
    List.pairwise_iff_forall_sublist.mp fine.order.later order stay stay' held held'
      (game.trans game'.symm)
  rw [mine, others, ← Nat.add_sub_cancel' first, ← List.drop_drop]
  exact List.drop_suffix _ _

/-- Each session hears the actions of one game only, all that come between its join and
    its leaving, in the one order in which the server received them. -/
theorem actions_in_one_order (codec : BattleCodec) {r : Recorded}
    (run : Reach (Recorded.step codec) (fun r e => Careful codec r.world e) {} r) :
    (∀ (session : Session) stay, r.stays[session]? = some stay →
      heard session r.world.sent = stay.segment (actionsOf r.log stay.game)) ∧
    (∀ session : Session, r.stays[session]? = none → heard session r.world.sent = []) ∧
    (∀ (session : Session) (id : Uuid), r.world.server.ptrToGameid[session]? = some id ↔
      ∃ stay, r.stays[session]? = some stay ∧ stay.game = id ∧ stay.last = none) ∧
    InOrder r.joins r.stays ∧
    ∀ (session later : Session) (id : Uuid), [session, later].Sublist r.joins →
      r.world.server.ptrToGameid[session]? = some id →
        r.world.server.ptrToGameid[later]? = some id →
          heard later r.world.sent <:+ heard session r.world.sent := by
  have fine : r.InStep := reach_invariant Recorded.InStep inStep_initial
    (fun _ _ _ fine careful moved => inStep_step fine careful moved) run
  exact ⟨fine.stayed, fine.strange, fine.playing, fine.order,
    fun _ _ _ order under under' => fine.suffix order under under'⟩

theorem actions_of_three : ∃ r : Recorded,
    ((r.world.server.ptrToGameid[2]? = some 100 ∧ r.world.server.ptrToGameid[3]? = some 100) ∧
      (heard 1 r.world.sent).map GameAction.content = [[5], [6]] ∧
      (heard 2 r.world.sent).map GameAction.content = [[6], [7]] ∧
      (heard 3 r.world.sent).map GameAction.content = [[7]] ∧ r.joins = [1, 2, 3]) ∧
    heard 3 r.world.sent <:+ heard 2 r.world.sent := by
  obtain ⟨r, run, facts⟩ := execWithin_any (Recorded.step byteCodec)
    (fun r e => Careful byteCodec r.world e) {}
    [.connected 1, .connected 2, .connected 3, .recv 1 [0, 11] 100 0 0,
      .recv 1 [1, 5] 101 0 7, .recv 2 [0, 12] 102 0 0, .recv 2 [1, 6] 103 0 8,
      .disconnected 1, .recv 3 [0, 13] 104 0 0, .recv 3 [1, 7] 105 0 9]
    (fun r => decide ((r.world.server.ptrToGameid[2]? = some 100 ∧
      r.world.server.ptrToGameid[3]? = some 100) ∧
      (heard 1 r.world.sent).map GameAction.content = [[5], [6]] ∧
      (heard 2 r.world.sent).map GameAction.content = [[6], [7]] ∧
      (heard 3 r.world.sent).map GameAction.content = [[7]] ∧ r.joins = [1, 2, 3]))
    (by decide +kernel)
  have facts := of_decide_eq_true facts
  obtain ⟨_, _, _, _, shared⟩ := actions_in_one_order byteCodec run
  have order : [2, 3].Sublist r.joins := by
    rw [facts.2.2.2.2]
    exact List.sublist_cons_self 1 [2, 3]
  exact ⟨r, facts, shared 2 3 100 order facts.1.1 facts.1.2⟩

end Recorded

end LaluneServer.Combat
