import LaluneServer.Gateway.Routing

/- The life of a temporary id: in the attached number of its session, as a key of
   user2session and out of the pool. NetLib reports a disconnect through
   DisconnectedHandler(session, error, inner_error_code), which the delegate does not override. -/
namespace LaluneServer.Gateway

open Std (TreeMap)
open NetLib ServerCommon GatewayServer Transition InverseIndex

/-- The handler of the delegate is not called. -/
def NetLibReports : Event → Prop
  | .disconnected _ handlerCalled => handlerCalled = false
  | _ => True

def Room (w : World) : Event → Prop
  | .userFrame .. => w.gateway.attachedData.size + 1 < 2 ^ 31
  | _ => True

def KeepsIds (w : World) : Event → Prop
  | .disconnected session _ => w.gateway.getAttachedData session = 0
  | _ => True

def KeptRun (w : World) (e : Event) : Prop := NetLibReports e ∧ Room w e ∧ KeepsIds w e

instance : ∀ e, Decidable (NetLibReports e)
  | .connected _ => inferInstanceAs (Decidable True)
  | .userFrame .. => inferInstanceAs (Decidable True)
  | .disconnected _ called => inferInstanceAs (Decidable (called = false))
  | .backEndReply .. => inferInstanceAs (Decidable True)

instance (w : World) : ∀ e, Decidable (Room w e)
  | .connected _ => inferInstanceAs (Decidable True)
  | .userFrame .. => inferInstanceAs (Decidable (w.gateway.attachedData.size + 1 < 2 ^ 31))
  | .disconnected .. => inferInstanceAs (Decidable True)
  | .backEndReply .. => inferInstanceAs (Decidable True)

instance (w : World) : ∀ e, Decidable (KeepsIds w e)
  | .connected _ => inferInstanceAs (Decidable True)
  | .userFrame .. => inferInstanceAs (Decidable True)
  | .disconnected session _ => inferInstanceAs (Decidable (w.gateway.getAttachedData session = 0))
  | .backEndReply .. => inferInstanceAs (Decidable True)

instance (w : World) (e : Event) : Decidable (KeptRun w e) :=
  inferInstanceAs (Decidable (_ ∧ _ ∧ _))

def World.holds (w : World) (session : Session) (id : Int) : Prop :=
  (session ∈ w.served ∧ session ∉ w.left) ∧ w.gateway.attachedData[session]? = some id

/-- Live sessions with a temporary id are found under its negative and nobody else is, and
    the ids out of the pool are theirs. -/
structure TmpIdsExact (w : World) : Prop where
  entries : ∀ (k : Int) (s : Session), w.gateway.user2session[k]? = some s ↔ w.holds s (-k)
  pool : ∀ id, w.gateway.availableTmpIds.HeldOut id ↔ ∃ s, w.holds s id.toInt

structure TmpIds (w : World) : Prop where
  numbered : Numbered w.gateway
  served : ∀ (s : Session) (a : Int), w.gateway.attachedData[s]? = some a → s ∈ w.served
  stays : ∀ s ∈ w.left, w.gateway.attachedData[s]? = none
  pool : ∀ id, w.gateway.availableTmpIds.HeldOut id →
    ∃ s : Session, w.gateway.attachedData[s]? = some id.toInt

section pool
variable {g : GatewayServer} {session : Session}

theorem Numbered.pool_sound (numbered : Numbered g) : g.availableTmpIds.Sound := by
  refine ⟨?_, ?_, ?_⟩
  · have counted := numbered.counted
    show 1 ≤ g.availableTmpIds.nextId.toNat
    omega
  · rw [numbered.fresh]
    exact List.nodup_nil
  · simp [numbered.fresh]

theorem Numbered.heldOut (numbered : Numbered g) {id : BitVec 32}
    (attached : g.attachedData[session]? = some id.toInt) : g.availableTmpIds.HeldOut id := by
  obtain ⟨low, high⟩ := numbered.given session _ attached
  have value : id.toInt = id.toNat := by
    rw [BitVec.toInt_eq_toNat_cond] at low ⊢
    split at low
    · rename_i small
      rw [if_pos small]
    · have := id.isLt
      omega
  rw [value] at low high
  refine ⟨?_, ?_, by simp [numbered.fresh]⟩
  · show 1 ≤ id.toNat
    omega
  · show id.toNat < g.availableTmpIds.nextId.toNat
    omega

end pool

section steps
variable {types : ServerTypes} {parser : HeaderExParser} {w t : World} {e : Event}
variable {session : Session}

theorem TmpIds.holds_iff (ids : TmpIds w) (s : Session) (a : Int) :
    w.holds s a ↔ w.gateway.attachedData[s]? = some a := by
  refine ⟨And.right, ?_⟩
  intro attached
  refine ⟨⟨ids.served s a attached, ?_⟩, attached⟩
  intro left
  rw [ids.stays s left] at attached
  contradiction

theorem TmpIds.exact (ids : TmpIds w) : TmpIdsExact w := by
  constructor
  · intro k s
    rw [ids.holds_iff]
    exact ids.numbered.found k s
  · intro id
    simp only [ids.holds_iff]
    constructor
    · exact ids.pool id
    · rintro ⟨s, attached⟩
      exact ids.numbered.heldOut attached

theorem tmpIds_of_same (ids : TmpIds w) (gateway : t.gateway = w.gateway)
    (served : ∀ s ∈ w.served, s ∈ t.served)
    (left : ∀ s ∈ t.left, w.gateway.attachedData[s]? = none) : TmpIds t := by
  refine ⟨gateway ▸ ids.numbered, ?_, ?_, ?_⟩
  · intro s a attached
    exact served s (ids.served s a (gateway ▸ attached))
  · rw [gateway]
    exact left
  · rw [gateway]
    exact ids.pool

theorem tmpIds_beforeLogin (ids : TmpIds w) (room : w.gateway.attachedData.size + 1 < 2 ^ 31)
    (present : session ∈ w.served) (stays : session ∉ w.left) (serverId : Int) (data : Bytes) :
    TmpIds (w.record (w.gateway.forwardBeforeLogin session serverId data)) := by
  by_cases unattached : w.gateway.getAttachedData session = 0
  · obtain ⟨numbered, number⟩ := numbered_new ids.numbered unattached room
    have given : (w.gateway.attachTmpUserId session).1 =
        w.gateway.availableTmpIds.getId.1.toInt := by
      rw [attachTmpUserId_new unattached]
    have pool : (w.gateway.attachTmpUserId session).2.1.availableTmpIds =
        w.gateway.availableTmpIds.getId.2 := by
      rw [attachTmpUserId_new unattached]
    have lookup (s : Session) : (w.gateway.attachTmpUserId session).2.1.attachedData[s]? =
        if session = s then some w.gateway.availableTmpIds.getId.1.toInt
        else w.gateway.attachedData[s]? := by
      rw [attachTmpUserId_new unattached]
      exact find_insert ..
    refine ⟨numbered, ?_, ?_, ?_⟩
    · intro s a attached
      simp only [World.record, forwardBeforeLogin, lookup] at attached
      split at attached
      · rename_i here
        exact here ▸ present
      · exact ids.served s a attached
    · intro s left
      simp only [World.record, forwardBeforeLogin, lookup]
      rw [if_neg]
      · exact ids.stays s left
      · rintro rfl
        exact stays left
    · intro id held
      simp only [World.record, forwardBeforeLogin, pool, lookup] at held ⊢
      have can : AvailableIDs.CanGive w.gateway.availableTmpIds := by
        intro _
        have counted := ids.numbered.counted
        omega
      rcases (AvailableIDs.getId_heldOut ids.numbered.pool_sound can id).mp held with old | rfl
      · obtain ⟨s, attached⟩ := ids.pool id old
        have absent := (getAttachedData_eq_zero_iff ids.numbered).mp unattached
        refine ⟨s, ?_⟩
        rw [if_neg]
        · exact attached
        · rintro rfl
          rw [absent] at attached
          contradiction
      · exact ⟨session, if_pos rfl⟩
  · simp only [forwardBeforeLogin, attachTmpUserId_old unattached]
    exact tmpIds_of_same ids rfl (fun _ member => member) ids.stays

theorem tmpIds_userFrame (ids : TmpIds w) (room : w.gateway.attachedData.size + 1 < 2 ^ 31)
    (present : session ∈ w.served) (stays : session ∉ w.left) (data : Bytes)
    (registry : NetLibPlus.Registry) :
    TmpIds (w.record (w.gateway.recvFinishHandler types registry session data)) := by
  rcases recvFinishHandler_cases types w.gateway registry session data with
    ⟨_, outcome⟩ | ⟨_, serverId, outcome⟩ | ⟨_, serverId, outcome⟩
  · rw [outcome]
    exact tmpIds_of_same ids rfl (fun _ member => member) ids.stays
  · rw [outcome]
    exact tmpIds_beforeLogin ids room present stays serverId data
  · rw [outcome]
    unfold forwardAfterLogin
    dsimp only
    split
    · exact tmpIds_of_same ids rfl (fun _ member => member) ids.stays
    · exact tmpIds_of_same ids rfl (fun _ member => member) ids.stays

theorem left_entry (ids : TmpIds w) (attached : w.gateway.getAttachedData session ≠ 0)
    (gateway : t.gateway = w.gateway) (left : session ∈ t.left) : ¬TmpIdsExact t := by
  intro tidy
  have held := attachedData_of_ne attached
  have found := (ids.numbered.found (-w.gateway.getAttachedData session) session).mpr
    (by rw [Int.neg_neg]; exact held)
  rw [← gateway] at found
  exact ((tidy.entries _ session).mp found).1.2 left

theorem tmpIds_step (ids : TmpIds w) (reported : NetLibReports e) (room : Room w e)
    (moved : w.step types parser e = some t) :
    (TmpIdsExact t ↔ KeepsIds w e) ∧ (KeepsIds w e → TmpIds t) := by
  have kept {u : World} (fine : KeepsIds w e) (after : TmpIds u) :
      (TmpIdsExact u ↔ KeepsIds w e) ∧ (KeepsIds w e → TmpIds u) :=
    ⟨iff_of_true after.exact fine, fun _ => after⟩
  cases e with
  | connected session =>
    simp only [World.step, Option.ite_none_left_eq_some, Option.some.injEq] at moved
    obtain ⟨_, rfl⟩ := moved
    exact kept trivial (tmpIds_of_same ids rfl (fun _ => List.mem_cons_of_mem _) ids.stays)
  | userFrame session data registry =>
    simp only [World.step, Option.ite_none_right_eq_some, Option.some.injEq] at moved
    obtain ⟨⟨present, stays⟩, rfl⟩ := moved
    exact kept trivial (tmpIds_userFrame ids room present stays data registry)
  | disconnected session handlerCalled =>
    simp only [World.step, Option.ite_none_right_eq_some, Option.some.injEq] at moved
    obtain ⟨_, rfl⟩ := moved
    obtain rfl : handlerCalled = false := reported
    by_cases attached : w.gateway.getAttachedData session = 0
    · refine kept attached (tmpIds_of_same ids rfl (fun _ member => member) ?_)
      intro s left
      rcases List.mem_cons.mp left with rfl | before
      · exact (getAttachedData_eq_zero_iff ids.numbered).mp attached
      · exact ids.stays s before
    · have untidy := left_entry ids attached
        (t := { w with left := session :: w.left, gateway := w.gateway }) rfl List.mem_cons_self
      exact ⟨iff_of_false untidy attached, fun fine => absurd fine attached⟩
  | backEndReply forward type proto =>
    simp only [World.step, Option.ite_none_right_eq_some, Option.map_eq_some_iff] at moved
    obtain ⟨_, asked, _, rfl⟩ := moved
    exact kept trivial (tmpIds_of_same ids rfl (fun _ member => member) ids.stays)

theorem tmpIds_start : TmpIds {} := by
  refine ⟨⟨rfl, rfl, by simp, by simp, by simp⟩, by simp, by simp, ?_⟩
  intro id held
  exact absurd held (AvailableIDs.nothing_held_out id)

end steps

/-- The ids are where they belong while no session with a temporary id leaves, and the
    first that leaves is not forgotten. -/
theorem tmp_ids_exact_while_kept (types : ServerTypes) (parser : HeaderExParser) {w : World}
    (run : Reach (World.step types parser) KeptRun {} w) :
    TmpIdsExact w ∧ ∀ e t, NetLibReports e → Room w e → w.step types parser e = some t →
      (TmpIdsExact t ↔ KeepsIds w e) := by
  have ids : TmpIds w := by
    refine reach_invariant TmpIds tmpIds_start ?_ run
    intro s e t before fine moved
    exact (tmpIds_step before fine.1 fine.2.1 moved).2 fine.2.2
  refine ⟨ids.exact, ?_⟩
  intro e t reported room moved
  exact (tmpIds_step ids reported room moved).1

section examples

def askingAndLeaving : List Event :=
  [.connected 1, .connected 2, .userFrame 1 versionFrame twoBackEnds, .disconnected 2 false]

theorem tmp_ids_exact_after_request : ∃ w,
    Reach (World.step exampleTypes straightParser) KeptRun {} w ∧ w.handedOut = [1] ∧
      TmpIdsExact w := by
  obtain ⟨w, run, facts⟩ := execWithin_any (World.step exampleTypes straightParser) KeptRun {}
    askingAndLeaving (fun w => decide (w.handedOut = [1])) (by decide +kernel)
  exact ⟨w, run, of_decide_eq_true facts,
    (tmp_ids_exact_while_kept exampleTypes straightParser run).1⟩

/-- A session that has asked leaves: its entry stays. -/
theorem tmp_id_of_dead_session : ¬ ∀ types parser w,
    Reach (World.step types parser) (fun _ e => NetLibReports e) {} w → TmpIdsExact w := by
  intro all
  obtain ⟨w, run, facts⟩ := execWithin_any (World.step exampleTypes straightParser)
    (fun _ e => NetLibReports e) {}
    [.connected 1, .userFrame 1 versionFrame twoBackEnds, .disconnected 1 false]
    (fun w => decide (w.left = [1] ∧ w.gateway.user2session.toList = [(-1, 1)]))
    (by decide +kernel)
  obtain ⟨left, table⟩ := of_decide_eq_true facts
  have found : w.gateway.user2session[(-1 : Int)]? = some 1 := by
    rw [← TreeMap.mem_toList_iff_getElem?_eq_some, table]
    exact List.mem_singleton_self _
  refine (((all _ _ w run).entries (-1) 1).mp found).1.2 ?_
  rw [left]
  exact List.mem_singleton_self _

end examples

end LaluneServer.Gateway
