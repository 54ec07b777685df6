import LaluneServer.Gateway.Frames

/- The numbers attached to user sessions, and what the back-end servers are told of
   them. -/
namespace LaluneServer.Gateway

open Std (TreeMap)
open NetLib ServerCommon GatewayServer Transition InverseIndex

def afterLogin (types : ServerTypes) (registry : NetLibPlus.Registry) (data : Bytes) : Bool :=
  ¬msgLength data < msgHeaderBaseSize ∧ types.notForwarded (serverType types data) = false ∧
    (backEnd registry (serverType types data)).isSome ∧
    types.beforeLogin (serverType types data) = false

def Anonymous (types : ServerTypes) (w : World) : Event → Prop
  | .userFrame session data registry =>
    afterLogin types registry data = true → w.gateway.getAttachedData session = 0
  | _ => True

instance (types : ServerTypes) (w : World) : ∀ e, Decidable (Anonymous types w e)
  | .userFrame .. => inferInstanceAs (Decidable (_ → _))
  | .connected _ => inferInstanceAs (Decidable True)
  | .disconnected .. => inferInstanceAs (Decidable True)
  | .backEndReply .. => inferInstanceAs (Decidable True)

/-- A frame with a uid comes from a session that the uid is attached to, and the uid
    is not a temporary id. -/
def NoForgedUid (w : World) : Prop :=
  ∀ sent ∈ w.forwards, ∀ uid, sent.header.uid = some uid →
    sent.attached = uid.toInt ∧ sent.attached ∉ w.handedOut

section handler
variable {types : ServerTypes} {g : GatewayServer} {registry : NetLibPlus.Registry}
variable {session : Session} {data : Bytes}

theorem recvFinishHandler_cases (types : ServerTypes) (g : GatewayServer)
    (registry : NetLibPlus.Registry) (session : Session) (data : Bytes) :
    (afterLogin types registry data = false ∧
      g.recvFinishHandler types registry session data = { gateway := g }) ∨
    (afterLogin types registry data = false ∧ ∃ serverId,
      g.recvFinishHandler types registry session data =
        g.forwardBeforeLogin session serverId data) ∨
    (afterLogin types registry data = true ∧ ∃ serverId,
      g.recvFinishHandler types registry session data =
        g.forwardAfterLogin session serverId data) := by
  unfold recvFinishHandler afterLogin
  by_cases short : msgLength data < msgHeaderBaseSize
  · left
    simp [short]
  · rw [if_neg short]
    cases dropped : types.notForwarded (serverType types data) with
    | true =>
      left
      simp
    | false =>
      cases known : backEnd registry (serverType types data) with
      | none =>
        left
        simp
      | some serverId =>
        cases before : types.beforeLogin (serverType types data) with
        | true =>
          right
          left
          exact ⟨by simp, serverId, by simp⟩
        | false =>
          right
          right
          exact ⟨by simp [short], serverId, by simp⟩

theorem disconnectedHandler_attachedData :
    (g.disconnectedHandler session).attachedData = g.attachedData := by
  unfold disconnectedHandler
  dsimp only
  split
  · rfl
  · split
    · rfl
    · rfl

theorem attachTmpUserId_old (attached : g.getAttachedData session ≠ 0) :
    g.attachTmpUserId session = (g.getAttachedData session, g, []) := by
  unfold attachTmpUserId
  rw [if_neg attached]

theorem attachTmpUserId_new (unattached : g.getAttachedData session = 0) :
    g.attachTmpUserId session =
      (g.availableTmpIds.getId.1.toInt,
        { user2session := g.user2session.insert (-g.availableTmpIds.getId.1.toInt) session
          availableTmpIds := g.availableTmpIds.getId.2
          attachedData := g.attachedData.insert session g.availableTmpIds.getId.1.toInt },
        [g.availableTmpIds.getId.1.toInt]) := by
  unfold attachTmpUserId
  rw [if_pos unattached]
  rfl

end handler

def Temporary (w : World) : Prop :=
  ∀ s, w.gateway.getAttachedData s ≠ 0 →
    w.gateway.getAttachedData s ∈ w.handedOut ∧
      ∃ id : BitVec 32, w.gateway.getAttachedData s = id.toInt

def NoUid (w : World) : Prop := ∀ sent ∈ w.forwards, sent.header.uid = none

theorem NoUid.noForgedUid {w : World} (none_sent : NoUid w) : NoForgedUid w := by
  intro sent member uid named
  rw [none_sent sent member] at named
  contradiction

section steps
variable {types : ServerTypes} {parser : HeaderExParser} {w t : World} {e : Event}

theorem temporary_beforeLogin (temporary : Temporary w) (session : Session) (serverId : Int)
    (data : Bytes) : Temporary (w.record (w.gateway.forwardBeforeLogin session serverId data)) := by
  by_cases unattached : w.gateway.getAttachedData session = 0
  · intro s attached
    simp only [World.record, forwardBeforeLogin, attachTmpUserId_new unattached,
      getAttachedData, find_insert] at attached ⊢
    split at attached
    · rename_i here
      rw [if_pos here]
      exact ⟨by simp, _, rfl⟩
    · rename_i apart
      rw [if_neg apart]
      obtain ⟨given, number⟩ := temporary s attached
      exact ⟨List.mem_append_left _ given, number⟩
  · intro s attached
    simp only [World.record, forwardBeforeLogin, attachTmpUserId_old unattached,
      List.append_nil] at attached ⊢
    exact temporary s attached

theorem forged_afterLogin (temporary : Temporary w) {session : Session} (serverId : Int)
    (data : Bytes) (attached : w.gateway.getAttachedData session ≠ 0) :
    ¬NoForgedUid (w.record (w.gateway.forwardAfterLogin session serverId data)) := by
  intro unforged
  obtain ⟨given, id, number⟩ := temporary session attached
  have sent := unforged
    (send session (w.gateway.getAttachedData session) serverId
      { uid := some (BitVec.ofInt 32 (w.gateway.getAttachedData session)) } data)
    (by simp [World.record, forwardAfterLogin, attached]) _ rfl
  refine sent.2 ?_
  simp only [World.record, forwardAfterLogin, if_neg attached]
  exact List.mem_append_left _ given

theorem temporary_step (temporary : Temporary w) (moved : w.step types parser e = some t) :
    Temporary t := by
  cases e with
  | connected session =>
    simp only [World.step, Option.ite_none_left_eq_some, Option.some.injEq] at moved
    obtain ⟨_, rfl⟩ := moved
    exact temporary
  | userFrame session data registry =>
    simp only [World.step, Option.ite_none_right_eq_some, Option.some.injEq] at moved
    obtain ⟨_, rfl⟩ := moved
    rcases recvFinishHandler_cases types w.gateway registry session data with
      ⟨_, outcome⟩ | ⟨_, serverId, outcome⟩ | ⟨_, serverId, outcome⟩
    · rw [outcome]
      simpa [Temporary, World.record] using temporary
    · rw [outcome]
      exact temporary_beforeLogin temporary session serverId data
    · rw [outcome]
      unfold forwardAfterLogin
      dsimp only
      split
      · simpa [Temporary, World.record] using temporary
      · simpa [Temporary, World.record] using temporary
  | disconnected session handlerCalled =>
    simp only [World.step, Option.ite_none_right_eq_some, Option.some.injEq] at moved
    obtain ⟨_, rfl⟩ := moved
    cases handlerCalled with
    | false => exact temporary
    | true =>
      simp only [Temporary, getAttachedData, if_true, disconnectedHandler_attachedData]
      exact temporary
  | backEndReply forward type proto =>
    simp only [World.step, Option.ite_none_right_eq_some, Option.map_eq_some_iff] at moved
    obtain ⟨_, asked, _, rfl⟩ := moved
    exact temporary

theorem uid_step (temporary : Temporary w) (none_sent : NoUid w)
    (moved : w.step types parser e = some t) :
    (NoForgedUid t ↔ Anonymous types w e) ∧ (Anonymous types w e → NoUid t) := by
  have quiet {u : World} (fine : Anonymous types w e) (kept : NoUid u) :
      (NoForgedUid u ↔ Anonymous types w e) ∧ (Anonymous types w e → NoUid u) :=
    ⟨⟨fun _ => fine, fun _ => kept.noForgedUid⟩, fun _ => kept⟩
  cases e with
  | connected session =>
    simp only [World.step, Option.ite_none_left_eq_some, Option.some.injEq] at moved
    obtain ⟨_, rfl⟩ := moved
    exact quiet trivial none_sent
  | userFrame session data registry =>
    simp only [World.step, Option.ite_none_right_eq_some, Option.some.injEq] at moved
    obtain ⟨_, rfl⟩ := moved
    rcases recvFinishHandler_cases types w.gateway registry session data with
      ⟨other, outcome⟩ | ⟨other, serverId, outcome⟩ | ⟨needs, serverId, outcome⟩
    · rw [outcome]
      refine quiet ?_ ?_
      · simp [Anonymous, other]
      · simpa [NoUid, World.record] using none_sent
    · rw [outcome]
      refine quiet ?_ ?_
      · simp [Anonymous, other]
      · intro sent member
        rcases List.mem_append.mp member with old | new
        · exact none_sent sent old
        · simp only [forwardBeforeLogin, Option.toList_some, List.mem_singleton] at new
          rw [new]
          rfl
    · rw [outcome]
      by_cases unattached : w.gateway.getAttachedData session = 0
      · refine quiet (fun _ => unattached) ?_
        simpa [NoUid, World.record, forwardAfterLogin, unattached] using none_sent
      · have forged := forged_afterLogin temporary serverId data unattached
        have loud : ¬Anonymous types w (.userFrame session data registry) :=
          fun fine => unattached (fine needs)
        exact ⟨iff_of_false forged loud, fun fine => absurd fine loud⟩
  | disconnected session handlerCalled =>
    simp only [World.step, Option.ite_none_right_eq_some, Option.some.injEq] at moved
    obtain ⟨_, rfl⟩ := moved
    exact quiet trivial none_sent
  | backEndReply forward type proto =>
    simp only [World.step, Option.ite_none_right_eq_some, Option.map_eq_some_iff] at moved
    obtain ⟨_, asked, _, rfl⟩ := moved
    exact quiet trivial none_sent

end steps

/-- No uid is forged while sessions with a number send no frame that needs a login,
    and the first such frame forges one. -/
theorem no_forged_uid_while_anonymous (types : ServerTypes) (parser : HeaderExParser) {w : World}
    (run : Reach (World.step types parser) (Anonymous types) {} w) :
    NoForgedUid w ∧ ∀ e t, w.step types parser e = some t →
      (NoForgedUid t ↔ Anonymous types w e) := by
  have sound : Temporary w ∧ NoUid w := by
    refine reach_invariant (fun w => Temporary w ∧ NoUid w) ?_ ?_ run
    · exact ⟨by simp [Temporary, getAttachedData], by simp [NoUid]⟩
    · intro s e t before fine moved
      exact ⟨temporary_step before.1 moved, (uid_step before.1 before.2 moved).2 fine⟩
  refine ⟨sound.2.noForgedUid, ?_⟩
  intro e t moved
  exact (uid_step sound.1 sound.2 moved).1

section examples

def twoBackEnds : NetLibPlus.Registry :=
  { serverinfos := ((∅ : TreeMap Int NetLibPlus.ServerInfo).insert 5 ⟨0x0a000001, 80, 2, 5⟩).insert
      6 ⟨0x0a000002, 80, 8, 6⟩
    serveridGroupbyType := ((∅ : TreeMap Int (Std.TreeSet Int)).insert 2
      ((∅ : Std.TreeSet Int).insert 5)).insert 8 ((∅ : Std.TreeSet Int).insert 6) }

def battleFrame : Bytes := msgHeader 12 80001 0

def requestBeforeLogin : List Event :=
  [.connected 1, .userFrame 1 battleFrame twoBackEnds, .userFrame 1 versionFrame twoBackEnds,
    .backEndReply 0 20002 [8, 9], .disconnected 1 false]

theorem no_forged_uid_before_login : ∃ w,
    Reach (World.step exampleTypes straightParser) (Anonymous exampleTypes) {} w ∧
      w.forwards.length = 1 ∧ NoForgedUid w := by
  obtain ⟨w, run, facts⟩ := execWithin_any (World.step exampleTypes straightParser)
    (Anonymous exampleTypes) {} requestBeforeLogin (fun w => decide (w.forwards.length = 1))
    (by decide +kernel)
  exact ⟨w, run, of_decide_eq_true facts,
    (no_forged_uid_while_anonymous exampleTypes straightParser run).1⟩

/-- After a request before login the temporary id goes out as a uid. -/
theorem temporary_id_forwarded_as_uid : ¬ ∀ types parser w,
    Reach (World.step types parser) always {} w → NoForgedUid w := by
  intro all
  obtain ⟨w, run, facts⟩ := execWithin_any (World.step exampleTypes straightParser)
    (fun _ _ => True) {}
    [.connected 1, .userFrame 1 versionFrame twoBackEnds, .userFrame 1 battleFrame twoBackEnds]
    (fun w => decide (w.handedOut = [1] ∧
      ∃ sent ∈ w.forwards, sent.header.uid = some 1 ∧ sent.attached = 1)) (by decide +kernel)
  obtain ⟨given, sent, member, uid, attached⟩ := of_decide_eq_true facts
  have unforged := (all exampleTypes straightParser w run sent member 1 uid).2
  rw [attached, given] at unforged
  simp at unforged

end examples

end LaluneServer.Gateway
