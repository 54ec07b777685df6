import LaluneServer.AutoMatch.Queue

/- What the two players of a match are told. Battle servers may answer in any order, late,
   twice, or for games that they were not asked for. -/
namespace LaluneServer.AutoMatch

open Std (TreeMap)
open Transition InverseIndex AutoMatchServer

structure Match where
  gameId : String
  sessions : Session × Session
  deriving DecidableEq, Repr

structure Answer where
  gameId : String
  session : Session
  response : MatchResponse
  deriving DecidableEq, Repr

structure Matchmaking where
  ams : AutoMatchServer := {}
  made : List Match := []
  answers : List Answer := []

/-- What IsConnected says is part of a request. -/
inductive MatchEvent
  | matchRequest (session : Session) (request : MatchRequest) (isConnected : Session → Bool)
      (gameId : String) (rolls : Rolls × Rolls)
  | matchCancel (session : Session)
  | createGameResponse (response : CreateGameResponse)
  | serverRegister (session : Session) (reg : PvPServerRegister)
  | serverHeartBeat (session : Session) (beat : PvPServerHeartBeat)
  | serverTimeout (region : Int) (id : IpPort)

def answerOf (gameId : String) (reply : Reply) : Option Answer :=
  match reply.message with
  | .matchResponse response => some ⟨gameId, reply.session, response⟩
  | _ => none

def answersOf (gameId : String) (replies : List Reply) : List Answer :=
  replies.filterMap (answerOf gameId)

def newMatch (ams : AutoMatchServer) (session : Session) (request : MatchRequest)
    (gameId : String) : List Match :=
  (ams.waitingUsers[matchKey request]?).toList.map (fun opponent => ⟨gameId, opponent.1, session⟩)

namespace Matchmaking
variable (order : PrioritySort) (w : Matchmaking)

def answersTo (gameId : String) : List Answer := w.answers.filter (fun a => a.gameId = gameId)

def record (made : List Match) (gameId : String) (outcome : Outcome) : Matchmaking :=
  { ams := outcome.ams
    made := w.made ++ made
    answers := w.answers ++ answersOf gameId outcome.replies }

def step : MatchEvent → Option Matchmaking
  | .matchRequest session request isConnected gameId rolls =>
    some (w.record (newMatch w.ams session request gameId) gameId
      (w.ams.matchRequest isConnected gameId rolls session request))
  | .matchCancel session => some { w with ams := w.ams.matchCancel session }
  | .createGameResponse response =>
    some (w.record [] response.gameId (w.ams.createGameResponseGot response))
  | .serverRegister session reg => some { w with ams := (w.ams.serverRegister order session reg).ams }
  | .serverHeartBeat session beat => some { w with ams := w.ams.serverHeartBeat session beat }
  | .serverTimeout region id => some { w with ams := w.ams.serverTimeout region id }

def freshId : MatchEvent → Prop
  | .matchRequest session request _ gameId _ =>
    ∀ m ∈ newMatch w.ams session request gameId, ∀ other ∈ w.made, other.gameId ≠ m.gameId
  | _ => True

instance : ∀ e, Decidable (w.freshId e)
  | .matchRequest .. => inferInstanceAs (Decidable (∀ _ ∈ _, ∀ _ ∈ _, _))
  | .matchCancel _ => inferInstanceAs (Decidable True)
  | .createGameResponse _ => inferInstanceAs (Decidable True)
  | .serverRegister .. => inferInstanceAs (Decidable True)
  | .serverHeartBeat .. => inferInstanceAs (Decidable True)
  | .serverTimeout .. => inferInstanceAs (Decidable True)

/-- A request that completes a match comes on another session than the one that waits. The
    source compares the user ids only. -/
def twoSessions : MatchEvent → Prop
  | .matchRequest session request _ gameId _ =>
    ∀ m ∈ newMatch w.ams session request gameId, m.sessions.1 ≠ m.sessions.2
  | _ => True

instance : ∀ e, Decidable (w.twoSessions e)
  | .matchRequest .. => inferInstanceAs (Decidable (∀ _ ∈ _, _))
  | .matchCancel _ | .createGameResponse _ | .serverRegister .. | .serverHeartBeat ..
  | .serverTimeout .. => inferInstanceAs (Decidable True)

def betweenTwo (e : MatchEvent) : Prop := w.freshId e ∧ w.twoSessions e

instance (e : MatchEvent) : Decidable (w.betweenTwo e) := inferInstanceAs (Decidable (_ ∧ _))

def bothTold (m : Match) (response : MatchResponse) : List Answer :=
  [⟨m.gameId, m.sessions.1, response⟩, ⟨m.gameId, m.sessions.2, response⟩]

/-- A match has no answer yet, or one that went to both players; there are no others. -/
structure SameAnswer (w : Matchmaking) : Prop where
  answered : ∀ m ∈ w.made, w.answersTo m.gameId = [] ∨
    ∃ response, w.answersTo m.gameId = bothTold m response
  known : ∀ a ∈ w.answers, ∃ m ∈ w.made, m.gameId = a.gameId

def AnsweredOnce (m : Match) : Prop :=
  ∀ session ∈ [m.sessions.1, m.sessions.2],
    (w.answersTo m.gameId).countP (fun a => a.session = session) ≤ 1

structure OneAnswer (w : Matchmaking) : Prop extends SameAnswer w where
  once : ∀ m ∈ w.made, w.AnsweredOnce m

structure Answering (w : Matchmaking) : Prop extends SameAnswer w where
  waiting : ∀ (id : String) (game : GameInfo), w.ams.games[id]? = some game →
    (∃ m ∈ w.made, m.gameId = id) ∧
      ∀ m ∈ w.made, m.gameId = id → m.sessions = game.sessions ∧ w.answersTo id = []

section replies
variable {isConnected : Session → Bool} {gameId : String} {rolls : Rolls × Rolls}
variable {ams : AutoMatchServer} {opponent user : WaitingUser} {region : Int}

theorem answersOf_append (first later : List Reply) :
    answersOf gameId (first ++ later) = answersOf gameId first ++ answersOf gameId later :=
  List.filterMap_append

theorem answersOf_replyBoth (sessions : Session × Session) (response : MatchResponse) :
    answersOf gameId (replyBoth sessions response) = bothTold ⟨gameId, sessions⟩ response := rfl

theorem answersOf_gameRequests (list : ServerList) (request : CreateGame) :
    answersOf gameId (list.map (fun info => ⟨info.session, .createGame request⟩)) = [] := by
  induction list with
  | nil => rfl
  | cons info rest ih => exact ih

theorem pairUsers_answers :
    (∃ response, answersOf gameId
      (ams.pairUsers isConnected gameId rolls region opponent user).replies =
        bothTold ⟨gameId, opponent.1, user.1⟩ response ∧
      ∀ id : String, (ams.pairUsers isConnected gameId rolls region opponent user).ams.games[id]? =
        ams.games[id]?) ∨
    (answersOf gameId (ams.pairUsers isConnected gameId rolls region opponent user).replies = [] ∧
      ∀ (id : String) (game : GameInfo),
        (ams.pairUsers isConnected gameId rolls region opponent user).ams.games[id]? = some game →
        (id = gameId ∧ game.sessions = (opponent.1, user.1)) ∨ ams.games[id]? = some game) := by
  rw [pairUsers_replies]
  by_cases same : opponent.2 = user.2
  · left
    rw [if_pos same]
    refine ⟨_, answersOf_replyBoth _ _, ?_⟩
    intro id
    rw [pairUsers_games, if_neg (fun both => both.1 same)]
  · rw [if_neg same, answersOf_append, answersOf_gameRequests, List.nil_append]
    cases none_found : (connectedServers isConnected (ams.serverList region)).isEmpty with
    | true =>
      left
      refine ⟨_, answersOf_replyBoth _ _, ?_⟩
      intro id
      rw [pairUsers_games, List.isEmpty_iff.mp none_found]
      split
      · rename_i fresh
        rw [← fresh.2.1, fresh.2.2]
        rfl
      · rfl
    | false =>
      right
      refine ⟨rfl, ?_⟩
      intro id game filed
      rw [pairUsers_games] at filed
      split at filed
      · rename_i fresh
        obtain ⟨info, _, rfl⟩ := Option.map_eq_some_iff.mp filed
        exact Or.inl ⟨fresh.2.1.symm, rfl⟩
      · exact Or.inr filed

end replies

section steps
variable {w t : Matchmaking} {order : PrioritySort}

theorem answering_of_quiet (inv : Answering w) {ams : AutoMatchServer}
    (games : ams.games = w.ams.games) : Answering { w with ams := ams } := by
  refine ⟨⟨inv.answered, inv.known⟩, ?_⟩
  intro id game filed
  exact inv.waiting id game (games ▸ filed)

theorem answersTo_append (more : List Answer) (ams : AutoMatchServer) (made : List Match)
    (id : String) :
    answersTo ⟨ams, made, w.answers ++ more⟩ id =
      w.answersTo id ++ more.filter (fun a => a.gameId = id) :=
  List.filter_append ..

theorem filter_bothTold (m : Match) (response : MatchResponse) (id : String) :
    (bothTold m response).filter (fun a => a.gameId = id) =
      if m.gameId = id then bothTold m response else [] := by
  by_cases here : m.gameId = id
  · simp [bothTold, here]
  · simp [bothTold, here]

theorem answersTo_unknown (inv : Answering w) {id : String}
    (fresh : ∀ m ∈ w.made, m.gameId ≠ id) : w.answersTo id = [] := by
  refine List.filter_eq_nil_iff.mpr ?_
  intro a member
  obtain ⟨m, made, same⟩ := inv.known a member
  have apart := fresh m made
  rw [same] at apart
  simpa using apart

theorem answering_new (inv : Answering w) {m : Match} (fresh : ∀ n ∈ w.made, n.gameId ≠ m.gameId)
    {ams : AutoMatchServer} {more : List Answer}
    (told : (∃ response, more = bothTold m response ∧
        ∀ id : String, ams.games[id]? = w.ams.games[id]?) ∨
      (more = [] ∧ ∀ (id : String) (game : GameInfo), ams.games[id]? = some game →
        (id = m.gameId ∧ game.sessions = m.sessions) ∨ w.ams.games[id]? = some game)) :
    Answering ⟨ams, w.made ++ [m], w.answers ++ more⟩ := by
  have none_before := answersTo_unknown inv fresh
  have elsewhere : ∀ id, m.gameId ≠ id → answersTo ⟨ams, w.made ++ [m], w.answers ++ more⟩ id =
      w.answersTo id := by
    intro id apart
    rw [answersTo_append]
    rcases told with ⟨response, rfl, _⟩ | ⟨rfl, _⟩
    · rw [filter_bothTold, if_neg apart, List.append_nil]
    · rw [List.filter_nil, List.append_nil]
  have apart_of_filed : ∀ (id : String) (game : GameInfo), w.ams.games[id]? = some game →
      m.gameId ≠ id := by
    intro id game filed same
    obtain ⟨⟨n, made, named⟩, _⟩ := inv.waiting id game filed
    exact fresh n made (named.trans same.symm)
  have old : ∀ (id : String) (game : GameInfo), w.ams.games[id]? = some game →
      (∃ n ∈ w.made ++ [m], n.gameId = id) ∧ ∀ n ∈ w.made ++ [m], n.gameId = id →
        n.sessions = game.sessions ∧
          answersTo ⟨ams, w.made ++ [m], w.answers ++ more⟩ id = [] := by
    intro id game filed
    have apart := apart_of_filed id game filed
    obtain ⟨⟨n, made, named⟩, all⟩ := inv.waiting id game filed
    refine ⟨⟨n, List.mem_append_left _ made, named⟩, ?_⟩
    intro k member same
    rcases List.mem_append.mp member with before | now
    · rw [elsewhere id apart]
      exact all k before same
    · rw [List.mem_singleton.mp now] at same
      exact absurd same apart
  refine ⟨⟨?_, ?_⟩, ?_⟩
  · intro k member
    rcases List.mem_append.mp member with before | now
    · rw [elsewhere k.gameId (fresh k before).symm]
      exact inv.answered k before
    · rw [List.mem_singleton.mp now, answersTo_append, none_before, List.nil_append]
      rcases told with ⟨response, rfl, _⟩ | ⟨rfl, _⟩
      · exact Or.inr ⟨response, by rw [filter_bothTold, if_pos rfl]⟩
      · exact Or.inl rfl
  · intro a member
    rcases List.mem_append.mp member with before | now
    · obtain ⟨n, made, same⟩ := inv.known a before
      exact ⟨n, List.mem_append_left _ made, same⟩
    · refine ⟨m, List.mem_append_right _ (List.mem_singleton_self m), ?_⟩
      rcases told with ⟨response, rfl, _⟩ | ⟨rfl, _⟩
      · simp only [bothTold, List.mem_cons, List.not_mem_nil, or_false] at now
        rcases now with rfl | rfl <;> rfl
      · contradiction
  · intro id game filed
    rcases told with ⟨response, _, same⟩ | ⟨rfl, games⟩
    · exact old id game ((same id).symm.trans filed)
    · rcases games id game filed with ⟨rfl, sessions⟩ | before
      · refine ⟨⟨m, List.mem_append_right _ (List.mem_singleton_self m), rfl⟩, ?_⟩
        intro k member same
        rcases List.mem_append.mp member with before | now
        · exact absurd same (fresh k before)
        · rw [List.mem_singleton.mp now, List.append_nil]
          exact ⟨sessions.symm, none_before⟩
      · exact old id game before

theorem answering_response (inv : Answering w) {response : CreateGameResponse} {game : GameInfo}
    (filed : w.ams.games[response.gameId]? = some game) :
    Answering (w.record [] response.gameId (w.ams.createGameResponseGot response)) := by
  obtain ⟨⟨m, made, named⟩, all⟩ := inv.waiting _ game filed
  obtain ⟨sessions, silent⟩ := all m made named
  have told : answersOf response.gameId
      (replyBoth game.sessions (createGameResult game response)) =
        bothTold m (createGameResult game response) := by
    rw [answersOf_replyBoth, ← sessions, ← named]
  rw [createGameResponseGot_of_game filed]
  unfold record
  rw [told, List.append_nil]
  refine ⟨⟨?_, ?_⟩, ?_⟩
  · intro k member
    rw [answersTo_append, filter_bothTold]
    by_cases here : m.gameId = k.gameId
    · obtain ⟨same, _⟩ := all k member (here.symm.trans named)
      rw [if_pos here, ← here, named, silent, List.nil_append]
      refine Or.inr ⟨createGameResult game response, ?_⟩
      rw [bothTold, bothTold, here, same, sessions]
    · rw [if_neg here, List.append_nil]
      exact inv.answered k member
  · intro a member
    rcases List.mem_append.mp member with before | now
    · exact inv.known a before
    · refine ⟨m, made, ?_⟩
      simp only [bothTold, List.mem_cons, List.not_mem_nil, or_false] at now
      rcases now with rfl | rfl <;> rfl
  · intro id other found
    simp only [find_erase] at found
    split at found
    · contradiction
    · rename_i apart
      obtain ⟨known, others⟩ := inv.waiting id other found
      refine ⟨known, ?_⟩
      intro k member same
      obtain ⟨sessions, silent⟩ := others k member same
      refine ⟨sessions, ?_⟩
      rw [answersTo_append, filter_bothTold, if_neg (named ▸ apart), List.append_nil]
      exact silent

theorem answering_step {e : MatchEvent} (inv : Answering w) (fresh : w.freshId e)
    (moved : w.step order e = some t) : Answering t := by
  cases e with
  | matchRequest session request isConnected gameId rolls =>
    cases moved
    cases waiting : w.ams.waitingUsers[matchKey request]? with
    | none =>
      rw [matchRequest_waits waiting]
      have quiet : Answering { w with
          ams := w.ams.startWaiting (matchKey request) (session, request.userId) } :=
        answering_of_quiet inv rfl
      simpa [record, newMatch, waiting, answersOf] using quiet
    | some opponent =>
      have unused : ∀ n ∈ w.made, n.gameId ≠ gameId := by
        intro n made
        exact fresh ⟨gameId, opponent.1, session⟩ (by simp [newMatch, waiting]) n made
      rw [matchRequest_pairs waiting]
      simp only [record, newMatch, waiting, Option.toList_some, List.map_cons, List.map_nil]
      exact answering_new inv (m := ⟨gameId, opponent.1, session⟩) unused pairUsers_answers
  | matchCancel session =>
    cases moved
    exact answering_of_quiet inv matchCancel_games
  | createGameResponse response =>
    cases moved
    cases filed : w.ams.games[response.gameId]? with
    | none =>
      rw [createGameResponseGot_of_unknown filed]
      simpa [record, answersOf] using inv
    | some game => exact answering_response inv filed
  | serverRegister session reg =>
    cases moved
    exact answering_of_quiet inv rfl
  | serverHeartBeat session beat =>
    cases moved
    exact answering_of_quiet inv (serverHeartBeat_frame beat).2
  | serverTimeout region id =>
    cases moved
    exact answering_of_quiet inv (serverTimeout_frame id).2

theorem answering_run (run : Reach (step order) freshId {} w) : Answering w := by
  refine reach_invariant Answering ?_ ?_ run
  · exact ⟨⟨by simp, by simp⟩, by simp⟩
  · intro s e t inv fresh moved
    exact answering_step inv fresh moved

theorem apart_run (run : Reach (step order) betweenTwo {} w) :
    ∀ m ∈ w.made, m.sessions.1 ≠ m.sessions.2 := by
  refine reach_invariant (fun w => ∀ m ∈ w.made, m.sessions.1 ≠ m.sessions.2) (by simp) ?_ run
  intro s e t apart allowed moved m member
  cases e with
  | matchRequest session request isConnected gameId rolls =>
    cases moved
    rcases List.mem_append.mp member with before | now
    · exact apart m before
    · exact allowed.2 m now
  | createGameResponse response =>
    cases moved
    rcases List.mem_append.mp member with before | none
    · exact apart m before
    · contradiction
  | matchCancel | serverRegister | serverHeartBeat | serverTimeout =>
    cases moved
    exact apart m member

theorem countP_bothTold (m : Match) (response : MatchResponse) (session : Session) :
    (bothTold m response).countP (fun a => a.session = session) =
      (if m.sessions.1 = session then 1 else 0) + (if m.sessions.2 = session then 1 else 0) := by
  simp only [bothTold, List.countP_cons, List.countP_nil, decide_eq_true_eq]
  omega

theorem answeredOnce_iff (same : SameAnswer w) {m : Match} (made : m ∈ w.made) :
    w.AnsweredOnce m ↔ w.answersTo m.gameId = [] ∨ m.sessions.1 ≠ m.sessions.2 := by
  unfold AnsweredOnce
  rcases same.answered m made with silent | ⟨response, told⟩
  · rw [silent]
    exact iff_of_true (fun _ _ => Nat.zero_le 1) (Or.inl rfl)
  · rw [told]
    simp only [countP_bothTold, List.mem_cons, List.not_mem_nil, or_false, forall_eq_or_imp,
      forall_eq, ↓reduceIte]
    constructor
    · rintro ⟨first, _⟩
      refine Or.inr (fun alike => ?_)
      rw [if_pos alike.symm] at first
      omega
    · rintro (nothing | apart)
      · exact absurd nothing (List.cons_ne_nil _ _)
      · rw [if_neg apart.symm, if_neg apart]
        omega

/-- However the battle servers answer, both players of a match are told the same, and each of
    them once while every match is between two sessions. One between a session and itself is
    answered twice. -/
theorem one_answer_per_match (order : PrioritySort) {w : Matchmaking} :
    (Reach (step order) betweenTwo {} w → OneAnswer w) ∧
    (Reach (step order) freshId {} w → SameAnswer w ∧ ∀ m ∈ w.made,
      w.answersTo m.gameId ≠ [] → (w.AnsweredOnce m ↔ m.sessions.1 ≠ m.sessions.2)) := by
  constructor
  · intro run
    have same := (answering_run (reach_weaken (fun _ _ => And.left) run)).toSameAnswer
    refine ⟨same, fun m made => ?_⟩
    exact (answeredOnce_iff same made).mpr (Or.inr (apart_run run m made))
  · intro run
    have same := (answering_run run).toSameAnswer
    refine ⟨same, fun m made answered => ?_⟩
    rw [answeredOnce_iff same made]
    exact or_iff_right answered

end steps

section examples

def contradictingServers : List MatchEvent :=
  [.serverRegister 8 ⟨"10.0.0.1", 6677, 0, 1⟩, .serverRegister 9 ⟨"10.0.0.2", 6677, 0, 2⟩,
    .matchRequest 1 ⟨"desert", "alice"⟩ (fun _ => true) "g1" rolls,
    .matchRequest 2 ⟨"desert", "bob"⟩ (fun _ => true) "g1" rolls,
    .createGameResponse ⟨"g1", 3⟩, .createGameResponse ⟨"g1", 0⟩, .createGameResponse ⟨"g1", 0⟩]

theorem one_answer_of_two_servers : ∃ w,
    Reach (step insertionOrder) betweenTwo {} w ∧ w.answers.length = 2 ∧ OneAnswer w ∧
      ∀ m ∈ w.made, w.answersTo m.gameId ≠ [] →
        (w.AnsweredOnce m ↔ m.sessions.1 ≠ m.sessions.2) := by
  obtain ⟨w, run, facts⟩ := execWithin_any (step insertionOrder) betweenTwo {}
    contradictingServers (fun w => decide (w.answers.length = 2)) (by decide +kernel)
  obtain ⟨one, exactly⟩ := one_answer_per_match insertionOrder (w := w)
  have fresh := reach_weaken (fun _ _ => And.left) run
  exact ⟨w, run, of_decide_eq_true facts, one run, (exactly fresh).2⟩

/-- A session asks for a game twice and is matched with itself. -/
theorem matched_with_itself : ¬ ∀ (order : PrioritySort) (w : Matchmaking),
    Reach (step order) freshId {} w → OneAnswer w := by
  intro all
  obtain ⟨w, run, facts⟩ := execWithin_any (step insertionOrder) freshId {}
    [.matchRequest 1 ⟨"desert", "alice"⟩ (fun _ => true) "g1" rolls,
      .matchRequest 1 ⟨"desert", "alice"⟩ (fun _ => true) "g1" rolls]
    (fun w => decide (w.made = [⟨"g1", 1, 1⟩] ∧
      (w.answersTo "g1").countP (fun a => a.session = 1) = 2)) (by decide +kernel)
  obtain ⟨made, twice⟩ := of_decide_eq_true facts
  have member : (⟨"g1", 1, 1⟩ : Match) ∈ w.made := by
    rw [made]
    exact List.mem_singleton_self _
  have once := (all insertionOrder w run).once _ member 1 List.mem_cons_self
  rw [twice] at once
  contradiction

end examples

end Matchmaking

end LaluneServer.AutoMatch
