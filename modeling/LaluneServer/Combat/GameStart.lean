import LaluneServer.Combat.OneGame
import LaluneServer.Lib.InverseIndex

/- When a game starts: the joins and leaves under which GAME_START is sent once and to
   two teams of three. Lists of moves and of outputs have the latest at the front. -/
namespace LaluneServer.Combat

open NetLib InverseIndex
open Std (TreeMap TransOrd LawfulEqOrd)

inductive Move (Player : Type)
  | join (player : Player) (data : Bytes) (now : BitVec 64)
  | leave (player : Player)
  deriving DecidableEq, Repr

variable {Player : Type}

namespace Game

variable [Ord Player]

def move (codec : BattleCodec) (game : Game Player) :
    Move Player → Game Player × List (Output Player)
  | .join player data now => game.connectToGame codec player data now
  | .leave player => (game.delConnect player, [])

def life (codec : BattleCodec) (fresh : BitVec 64) :
    List (Move Player) → Game Player × List (Output Player)
  | [] => ({ startTime := fresh }, [])
  | move :: past =>
    let before := life codec fresh past
    let after := before.1.move codec move
    (after.1, after.2.reverse ++ before.2)

end Game

section outputs
variable [DecidableEq Player]

def toldTeam (player : Player) : List (Output Player) → Option Nat
  | [] => none
  | .connectToGameResponse other team :: earlier =>
    if other = player then some team else toldTeam player earlier
  | _ :: earlier => toldTeam player earlier

def isGameStart : Output Player → Bool
  | .gameStart _ _ => true
  | _ => false

def isStartTime : Output Player → Bool
  | .startTime _ => true
  | _ => false

def FairAt (players : List Player) (earlier : List (Output Player)) : Prop :=
  players.length = 6 ∧
    players.countP (fun player => toldTeam player earlier = some 0) = 3 ∧
    players.countP (fun player => toldTeam player earlier = some 1) = 3

structure FairOnce (outputs : List (Output Player)) : Prop where
  starts : outputs.countP isGameStart ≤ 1
  times : outputs.countP isStartTime ≤ 1
  fair : ∀ start players earlier, (.gameStart start players :: earlier) <:+ outputs →
    FairAt players earlier

def connected : List (Move Player) → List Player
  | [] => []
  | .join player _ _ :: past =>
    if player ∈ connected past then connected past else player :: connected past
  | .leave player :: past => (connected past).erase player

def othersAtJoin (player : Player) : List (Move Player) → Option Nat
  | [] => none
  | .join other _ _ :: past =>
    if other = player then some ((connected past).erase player).length
    else othersAtJoin player past
  | .leave _ :: past => othersAtJoin player past

def SixConnected : List (Move Player) → Prop
  | [] => False
  | .join player data now :: past =>
    (connected (.join player data now :: past)).length = 6 ∨ SixConnected past
  | .leave _ :: past => SixConnected past

def Balanced (moves : List (Move Player)) : Prop :=
  (connected moves).countP
    (fun player => (othersAtJoin player moves).any (fun others => others % 2 = 0)) = 3

def OneFairStart : List (Move Player) → Prop
  | [] => True
  | .join player data now :: past =>
    OneFairStart past ∧ ((connected (.join player data now :: past)).length = 6 →
      ¬SixConnected past ∧ Balanced (.join player data now :: past))
  | .leave _ :: past => OneFairStart past

section moves

theorem connected_nodup (moves : List (Move Player)) : (connected moves).Nodup := by
  induction moves with
  | nil => simp [connected]
  | cons move past ih =>
    cases move with
    | join player data now =>
      simp only [connected]
      split
      · exact ih
      · rename_i absent
        exact List.nodup_cons.mpr ⟨absent, ih⟩
    | leave player => exact ih.erase player

theorem connected_join_length (player : Player) (data : Bytes) (now : BitVec 64)
    (past : List (Move Player)) : (connected (.join player data now :: past)).length =
      ((connected past).erase player).length + 1 := by
  by_cases present : player ∈ connected past
  · have := List.length_pos_of_mem present
    simp only [connected, if_pos present, List.length_erase_of_mem present]
    omega
  · simp only [connected, if_neg present, List.length_cons, List.erase_of_not_mem present]

theorem othersAtJoin_of_connected {player : Player} {moves : List (Move Player)}
    (member : player ∈ connected moves) : (othersAtJoin player moves).isSome := by
  induction moves with
  | nil => simp [connected] at member
  | cons move past ih =>
    cases move with
    | join other data now =>
      by_cases same : other = player
      · simp [othersAtJoin, same]
      · simp only [othersAtJoin, if_neg same]
        refine ih ?_
        simp only [connected] at member
        split at member
        · exact member
        · exact (List.mem_cons.mp member).resolve_left (Ne.symm same)
    | leave other => exact ih (List.mem_of_mem_erase member)

end moves

section life
variable [Ord Player] [TransOrd Player] [LawfulEqOrd Player]
variable (codec : BattleCodec) (fresh : BitVec 64)

theorem mem_clientConnect (moves : List (Move Player)) (player : Player) :
    player ∈ (Game.life codec fresh moves).1.clientConnect ↔ player ∈ connected moves := by
  induction moves with
  | nil => simp [Game.life, connected]
  | cons move past ih =>
    cases move with
    | join other data now =>
      have entered : (Game.life codec fresh (.join other data now :: past)).1.clientConnect =
          (Game.life codec fresh past).1.clientConnect.insert other (codec.playerUid data) := by
        simp only [Game.life, Game.move, Game.connectToGame]
        split
        · rfl
        · rfl
      rw [entered, TreeMap.mem_insert, Std.compare_eq_iff_eq, ih]
      simp only [connected]
      split
      · rename_i present
        exact ⟨fun either => either.elim (fun same => same ▸ present) id, .inr⟩
      · rw [List.mem_cons]
        exact or_congr_left eq_comm
    | leave other =>
      simp only [Game.life, Game.move, Game.delConnect, connected]
      rw [TreeMap.mem_erase, ih, (connected_nodup past).mem_erase_iff]
      refine and_congr_left (fun _ => ?_)
      rw [ne_eq, Std.compare_eq_iff_eq, ne_comm]

theorem keys_perm_connected (moves : List (Move Player)) :
    (Game.life codec fresh moves).1.clientConnect.keys.Perm (connected moves) := by
  refine (List.perm_ext_iff_of_nodup TreeMap.nodup_keys (connected_nodup moves)).mpr ?_
  intro player
  rw [TreeMap.mem_keys]
  exact mem_clientConnect codec fresh moves player

theorem size_clientConnect (moves : List (Move Player)) :
    (Game.life codec fresh moves).1.clientConnect.size = (connected moves).length := by
  rw [← TreeMap.length_keys]
  exact (keys_perm_connected codec fresh moves).length_eq

theorem life_join (player : Player) (data : Bytes) (now : BitVec 64)
    (past : List (Move Player)) :
    (Game.life codec fresh (.join player data now :: past)).2 =
      (if (connected (.join player data now :: past)).length = 6 then
        [.gameStart newGameStart
          (Game.life codec fresh (.join player data now :: past)).1.clientConnect.keys,
          .startTime now] else []) ++
        .connectToGameResponse player
          ((connected (.join player data now :: past)).length % 2) ::
        (Game.life codec fresh past).2 := by
  rw [← size_clientConnect codec fresh]
  simp only [Game.life, Game.move, Game.connectToGame, playerNum]
  by_cases six : ((Game.life codec fresh past).1.clientConnect.insert player
      (codec.playerUid data)).size = 6
  · simp [six]
  · simp [six]

theorem toldTeam_life (player : Player) (moves : List (Move Player)) :
    toldTeam player (Game.life codec fresh moves).2 =
      (othersAtJoin player moves).map (fun others => (others + 1) % 2) := by
  induction moves with
  | nil => rfl
  | cons move past ih =>
    cases move with
    | join other data now =>
      have answered : toldTeam player (Game.life codec fresh (.join other data now :: past)).2 =
          toldTeam player (.connectToGameResponse other
            ((connected (.join other data now :: past)).length % 2) ::
              (Game.life codec fresh past).2) := by
        rw [life_join]
        split
        · rfl
        · rfl
      rw [answered, connected_join_length]
      by_cases same : other = player
      · simp [toldTeam, othersAtJoin, same]
      · simp [toldTeam, othersAtJoin, same, ih]
    | leave other => exact ih

theorem countP_isGameStart (moves : List (Move Player)) :
    (Game.life codec fresh moves).2.countP isGameStart = 0 ↔ ¬SixConnected moves := by
  induction moves with
  | nil => simp [Game.life, SixConnected]
  | cons move past ih =>
    cases move with
    | join player data now =>
      rw [life_join, SixConnected]
      split
      · rename_i six
        simp [six, isGameStart]
      · rename_i other
        simpa [other, isGameStart] using ih
    | leave player => exact ih

theorem countP_isStartTime (moves : List (Move Player)) :
    (Game.life codec fresh moves).2.countP isStartTime =
      (Game.life codec fresh moves).2.countP isGameStart := by
  induction moves with
  | nil => rfl
  | cons move past ih =>
    cases move with
    | join player data now =>
      rw [life_join]
      split
      · simp [List.countP_cons, isGameStart, isStartTime, ih]
      · simp [isGameStart, isStartTime, ih]
    | leave player => exact ih

theorem fairAt_iff_balanced (moves : List (Move Player)) (six : (connected moves).length = 6) :
    FairAt (Game.life codec fresh moves).1.clientConnect.keys (Game.life codec fresh moves).2 ↔
      Balanced moves := by
  have perm := keys_perm_connected codec fresh moves
  have even : (connected moves).countP
      (fun player => toldTeam player (Game.life codec fresh moves).2 = some 1) =
      (connected moves).countP
        (fun player => (othersAtJoin player moves).any (fun others => others % 2 = 0)) := by
    refine List.countP_congr (fun player _ => ?_)
    rw [toldTeam_life]
    cases othersAtJoin player moves with
    | none => simp
    | some others =>
      simp only [Option.map_some, Option.some.injEq, decide_eq_true_eq, Option.any_some]
      omega
  have odd : (connected moves).countP
      (fun player => toldTeam player (Game.life codec fresh moves).2 = some 0) =
      (connected moves).countP (fun player =>
        ¬(othersAtJoin player moves).any (fun others => others % 2 = 0)) := by
    refine List.countP_congr (fun player member => ?_)
    rw [toldTeam_life]
    obtain ⟨others, joined⟩ := Option.isSome_iff_exists.mp (othersAtJoin_of_connected member)
    simp only [joined, Option.map_some, Option.some.injEq, decide_eq_true_eq, Option.any_some]
    omega
  have whole : (connected moves).length = _ + _ := List.length_eq_countP_add_countP
    (fun player => (othersAtJoin player moves).any (fun others => others % 2 = 0))
  rw [FairAt, perm.length_eq, perm.countP_eq, perm.countP_eq, odd, even, Balanced]
  omega

end life

section clean
variable {joins : List (Player × Bytes × BitVec 64)}

def joinMoves (joins : List (Player × Bytes × BitVec 64)) : List (Move Player) :=
  joins.map (fun join => .join join.1 join.2.1 join.2.2)

theorem connected_joinMoves (distinct : (joins.map Prod.fst).Nodup) :
    connected (joinMoves joins) = joins.map Prod.fst := by
  induction joins with
  | nil => rfl
  | cons join past ih =>
    obtain ⟨absent, rest⟩ := List.nodup_cons.mp distinct
    have before := ih rest
    simp only [joinMoves, List.map_cons] at before ⊢
    rw [connected, before, if_neg absent]

theorem countP_joinMoves (distinct : (joins.map Prod.fst).Nodup) :
    (joins.map Prod.fst).countP (fun player =>
      (othersAtJoin player (joinMoves joins)).any (fun others => others % 2 = 0)) =
        (joins.length + 1) / 2 := by
  induction joins with
  | nil => simp
  | cons join past ih =>
    obtain ⟨absent, rest⟩ := List.nodup_cons.mp distinct
    have before := ih rest
    have newest : othersAtJoin join.1 (joinMoves (join :: past)) = some past.length := by
      simp only [joinMoves, List.map_cons, othersAtJoin, if_true]
      rw [← joinMoves, connected_joinMoves rest, List.erase_of_not_mem absent, List.length_map]
    have older : (past.map Prod.fst).countP (fun player =>
        (othersAtJoin player (joinMoves (join :: past))).any (fun others => others % 2 = 0)) =
        (past.length + 1) / 2 := by
      rw [← before]
      refine List.countP_congr (fun player member => ?_)
      have other : join.1 ≠ player := fun same => absent (same ▸ member)
      simp only [joinMoves, List.map_cons, othersAtJoin, if_neg other]
    rw [List.map_cons, List.countP_cons, older, newest, List.length_cons, Option.any_some]
    by_cases parity : past.length % 2 = 0
    · rw [if_pos (decide_eq_true parity)]
      omega
    · rw [if_neg (by simpa using parity)]
      omega

theorem sixConnected_joinMoves (distinct : (joins.map Prod.fst).Nodup)
    (few : joins.length < 6) : ¬SixConnected (joinMoves joins) := by
  induction joins with
  | nil => exact id
  | cons join past ih =>
    have now := congrArg List.length (connected_joinMoves distinct)
    have before := ih (List.nodup_cons.mp distinct).2 (by simp only [List.length_cons] at few; omega)
    simp only [joinMoves, List.map_cons, SixConnected, not_or] at now before ⊢
    refine ⟨?_, before⟩
    rw [now]
    simp only [List.length_cons, List.length_map] at few ⊢
    omega

theorem oneFairStart_joinMoves (distinct : (joins.map Prod.fst).Nodup) :
    OneFairStart (joinMoves joins) := by
  induction joins with
  | nil => trivial
  | cons join past ih =>
    have rest := (List.nodup_cons.mp distinct).2
    refine ⟨ih rest, fun six => ⟨?_, ?_⟩⟩
    · refine sixConnected_joinMoves rest ?_
      have now := congrArg List.length (connected_joinMoves distinct)
      simp only [joinMoves, List.map_cons] at now
      rw [six] at now
      simp only [List.length_cons, List.length_map] at now
      omega
    · change Balanced (joinMoves (join :: past))
      change (connected (joinMoves (join :: past))).length = 6 at six
      rw [connected_joinMoves distinct, List.length_map] at six
      rw [Balanced, connected_joinMoves distinct, countP_joinMoves distinct, six]

end clean

section trace
variable {outputs : List (Output Player)} {player : Player} {team : Nat}
variable {start : GameStart} {players : List Player} {time : BitVec 64}

theorem fairAt_gameStart :
    FairAt players (.gameStart start players :: outputs) ↔ FairAt players outputs := Iff.rfl

theorem fairOnce_of_silent (no_starts : outputs.countP isGameStart = 0)
    (no_times : outputs.countP isStartTime = 0) : FairOnce outputs := by
  refine ⟨by omega, by omega, fun start players earlier suffix => ?_⟩
  have sent : 0 < outputs.countP isGameStart :=
    List.countP_pos_iff.mpr ⟨_, suffix.subset (List.mem_cons_self ..), rfl⟩
  omega

theorem fairOnce_response :
    FairOnce (.connectToGameResponse player team :: outputs) ↔ FairOnce outputs := by
  constructor
  · intro fair
    refine ⟨?_, ?_, fun start players earlier suffix => ?_⟩
    · simpa [isGameStart] using fair.starts
    · simpa [isStartTime] using fair.times
    · exact fair.fair start players earlier (suffix.trans (List.suffix_cons _ _))
  · intro fair
    refine ⟨?_, ?_, fun start players earlier suffix => ?_⟩
    · simpa [isGameStart] using fair.starts
    · simpa [isStartTime] using fair.times
    · rcases List.suffix_cons_iff.mp suffix with whole | before
      · simp at whole
      · exact fair.fair start players earlier before

theorem fairOnce_start :
    FairOnce (.gameStart start players :: .startTime time :: outputs) ↔
      outputs.countP isGameStart = 0 ∧ outputs.countP isStartTime = 0 ∧
        FairAt players (.startTime time :: outputs) := by
  constructor
  · intro fair
    have starts := fair.starts
    have times := fair.times
    simp only [List.countP_cons, isGameStart, isStartTime, if_true, Bool.false_eq_true,
      if_false] at starts times
    exact ⟨by omega, by omega, fair.fair start players _ (List.suffix_refl _)⟩
  · rintro ⟨no_starts, no_times, fair⟩
    refine ⟨?_, ?_, fun other others earlier suffix => ?_⟩
    · simp [List.countP_cons, isGameStart, no_starts]
    · simp [List.countP_cons, isStartTime, no_times]
    · rcases List.suffix_cons_iff.mp suffix with whole | before
      · cases whole
        exact fair
      · rcases List.suffix_cons_iff.mp before with whole | before
        · simp at whole
        · have second : 0 < outputs.countP isGameStart :=
            List.countP_pos_iff.mpr ⟨_, before.subset (List.mem_cons_self ..), rfl⟩
          omega

end trace

theorem fairOnce_iff_oneFairStart [Ord Player] [TransOrd Player] [LawfulEqOrd Player]
    (codec : BattleCodec) (fresh : BitVec 64) (moves : List (Move Player)) :
    FairOnce (Game.life codec fresh moves).2 ↔ OneFairStart moves := by
  induction moves with
  | nil => exact ⟨fun _ => trivial, fun _ => fairOnce_of_silent rfl rfl⟩
  | cons move past ih =>
    cases move with
    | join player data now =>
      have outputs := life_join codec fresh player data now past
      by_cases six : (connected (.join player data now :: past)).length = 6
      · have fair := fairAt_iff_balanced codec fresh (.join player data now :: past) six
        rw [if_pos six, six, List.cons_append, List.singleton_append] at outputs
        rw [outputs, fairAt_gameStart] at fair
        have single := countP_isGameStart codec fresh past
        have times := countP_isStartTime codec fresh past
        rw [outputs, fairOnce_start, List.countP_cons_of_neg (by simp [isGameStart]),
          List.countP_cons_of_neg (by simp [isStartTime]), times, single, fair]
        constructor
        · rintro ⟨unstarted, _, balanced⟩
          have silent := single.mpr unstarted
          exact ⟨ih.mp (fairOnce_of_silent silent (times.trans silent)),
            fun _ => ⟨unstarted, balanced⟩⟩
        · rintro ⟨_, only⟩
          obtain ⟨unstarted, balanced⟩ := only six
          exact ⟨unstarted, unstarted, balanced⟩
      · rw [if_neg six] at outputs
        rw [outputs, List.nil_append, fairOnce_response, ih]
        simp [OneFairStart, six]
    | leave player => exact ih

end outputs

def OneGame.life (codec : BattleCodec) (fresh : BitVec 64) (moves : List (Move Session)) :
    OneGame × List (Output Session) :=
  Game.life codec fresh moves

def OneGameUdp.life (codec : BattleCodec) (fresh : BitVec 64)
    (joins : List (Endpoint × Bytes × BitVec 64)) : OneGameUdp × List (Output Endpoint) :=
  Game.life codec fresh (joinMoves joins)

/-- A game starts once and fair just when at most one join leaves six players connected
    and, of these, three joined last while an even number of others was connected. -/
theorem game_starts_once_and_fair_iff (codec : BattleCodec) (fresh : BitVec 64) :
    (∀ moves, FairOnce (OneGame.life codec fresh moves).2 ↔ OneFairStart moves) ∧
    (∀ joins, FairOnce (OneGameUdp.life codec fresh joins).2 ↔
      OneFairStart (joinMoves joins)) :=
  ⟨fun moves => fairOnce_iff_oneFairStart codec fresh moves,
    fun _ => fairOnce_iff_oneFairStart codec fresh _⟩

def exampleCodec : BattleCodec :=
  { msgType := fun _ => .connectToGame
    playerUid := fun _ => 0
    gameAction := fun _ => ⟨[], 0⟩ }

/-- Six sessions join and the last one leaves and joins again; over UDP it just joins
    again. -/
theorem started_twice :
    ¬(∀ codec fresh moves, FairOnce (OneGame.life codec fresh moves).2) ∧
    ¬(∀ codec fresh joins, FairOnce (OneGameUdp.life codec fresh joins).2) := by
  constructor
  · intro all
    have starts := (all exampleCodec 0 ([Move.join 6 [] 0, .leave 6] ++
      joinMoves ([6, 5, 4, 3, 2, 1].map (fun session => (session, [], 0))))).starts
    exact absurd starts (by decide +kernel)
  · intro all
    have starts := (all exampleCodec 0
      ([6, 6, 5, 4, 3, 2, 1].map (fun port => ((0x0a000001, port), [], 0)))).starts
    exact absurd starts (by decide +kernel)

end LaluneServer.Combat
