import LaluneServer.Gateway.UserIds

/- The way of a reply back to the session that asked. -/
namespace LaluneServer.Gateway

open Std (TreeMap)
open NetLib ServerCommon GatewayServer Transition InverseIndex

def FewSessions (w : World) : Event → Prop
  | .connected _ => w.served.length + 1 < 2 ^ 31
  | _ => True

instance (w : World) : ∀ e, Decidable (FewSessions w e)
  | .connected _ => inferInstanceAs (Decidable (w.served.length + 1 < 2 ^ 31))
  | .userFrame .. => inferInstanceAs (Decidable True)
  | .disconnected .. => inferInstanceAs (Decidable True)
  | .backEndReply .. => inferInstanceAs (Decidable True)

def ReachesRequester (w : World) : Prop :=
  ∀ delivery ∈ w.deliveries, delivery.receiver = delivery.requester

/-- The numbers attached to sessions are distinct, and each session is found under the
    negative of its number. -/
structure Numbered (g : GatewayServer) : Prop where
  fresh : g.availableTmpIds.availableIds = []
  counted : g.availableTmpIds.nextId.toNat = g.attachedData.size + 1
  given : ∀ (s : Session) (a : Int), g.attachedData[s]? = some a →
    1 ≤ a ∧ a < g.availableTmpIds.nextId.toNat
  distinct : ∀ (s u : Session) (a : Int), g.attachedData[s]? = some a →
    g.attachedData[u]? = some a → s = u
  found : ∀ (k : Int) (s : Session), g.user2session[k]? = some s ↔ g.attachedData[s]? = some (-k)

structure Routed (w : World) : Prop where
  numbered : Numbered w.gateway
  nodup : w.served.Nodup
  few : w.served.length < 2 ^ 31
  served : ∀ s, s ∈ w.gateway.attachedData → s ∈ w.served
  headers : ∀ sent ∈ w.forwards, ∃ a, w.gateway.attachedData[sent.session]? = some a ∧
    (sent.header = { operationId := some (BitVec.ofInt 32 a) } ∨
      sent.header = { uid := some (BitVec.ofInt 32 a) })
  reaches : ReachesRequester w

section numbers
variable {g : GatewayServer} {session : Session}

theorem getAttachedData_eq_zero_iff (numbered : Numbered g) :
    g.getAttachedData session = 0 ↔ g.attachedData[session]? = none := by
  unfold getAttachedData
  cases attached : g.attachedData[session]? with
  | none => simp
  | some a =>
    have positive := (numbered.given session a attached).1
    simp only [Option.getD_some, reduceCtorEq, iff_false]
    omega

theorem attachedData_of_ne (attached : g.getAttachedData session ≠ 0) :
    g.attachedData[session]? = some (g.getAttachedData session) := by
  unfold getAttachedData at attached ⊢
  cases held : g.attachedData[session]? with
  | none => simp [held] at attached
  | some a => rfl

theorem toInt_of_small {id : BitVec 32} (small : id.toNat < 2 ^ 31) : id.toInt = id.toNat :=
  BitVec.toInt_eq_toNat_of_lt (by omega)

theorem toInt_ofInt_of_small {a : Int} (low : 1 ≤ a) (high : a < 2 ^ 31) :
    (BitVec.ofInt 32 a).toInt = a := by
  rw [BitVec.toInt_ofInt]
  exact Int.bmod_eq_of_le (by omega) (by omega)

section insertion
variable {attached : TreeMap Session Int} {n : Int}

theorem distinct_insert (distinct : ∀ (s u : Session) (a : Int), attached[s]? = some a →
      attached[u]? = some a → s = u)
    (unused : ∀ s : Session, attached[s]? ≠ some n) (s u : Session) (a : Int)
    (first : (attached.insert session n)[s]? = some a)
    (second : (attached.insert session n)[u]? = some a) : s = u := by
  rw [find_insert] at first second
  split at first
  · rename_i here
    split at second
    · rename_i there
      rw [← here, ← there]
    · cases first
      exact absurd second (unused u)
  · split at second
    · cases second
      exact absurd first (unused s)
    · exact distinct s u a first second

theorem found_insert {names : TreeMap Int Session}
    (found : ∀ (k : Int) (s : Session), names[k]? = some s ↔ attached[s]? = some (-k))
    (absent : attached[session]? = none) (unused : ∀ s : Session, attached[s]? ≠ some n)
    (k : Int) (s : Session) :
    (names.insert (-n) session)[k]? = some s ↔ (attached.insert session n)[s]? = some (-k) := by
  rw [find_insert, find_insert]
  by_cases here : session = s
  · subst here
    rw [if_pos rfl]
    constructor
    · intro named
      split at named
      · rename_i key
        rw [← key, Int.neg_neg]
      · rw [found, absent] at named
        contradiction
    · intro same
      have key : -n = k := by
        rw [Option.some.inj same, Int.neg_neg]
      rw [if_pos key]
  · rw [if_neg here]
    split
    · rename_i key
      constructor
      · intro same
        exact absurd (Option.some.inj same) here
      · intro held
        rw [← key, Int.neg_neg] at held
        exact absurd held (unused s)
    · exact found k s

end insertion

theorem numbered_new (numbered : Numbered g) (unattached : g.getAttachedData session = 0)
    (room : g.attachedData.size + 1 < 2 ^ 31) :
    Numbered (g.attachTmpUserId session).2.1 ∧
      (g.attachTmpUserId session).1 = g.attachedData.size + 1 := by
  have absent := (getAttachedData_eq_zero_iff numbered).mp unattached
  obtain ⟨fresh, counted, given, distinct, found⟩ := numbered
  have next := AvailableIDs.getId_of_empty fresh
  have number : g.availableTmpIds.nextId.toInt = g.attachedData.size + 1 := by
    rw [toInt_of_small (by omega), counted]
    push_cast
    rfl
  have after : (g.availableTmpIds.nextId + 1).toNat = g.attachedData.size + 1 + 1 := by
    rw [← counted]
    bv_omega
  have not_member : session ∉ g.attachedData := by
    rw [TreeMap.mem_iff_isSome_getElem?, absent]
    simp
  have unused : ∀ s : Session, g.attachedData[s]? ≠ some (g.attachedData.size + 1 : Int) := by
    intro s held
    have bounds := given s _ held
    omega
  rw [attachTmpUserId_new unattached, next]
  refine ⟨⟨fresh, ?_, ?_, ?_, ?_⟩, number⟩ <;> simp only [number]
  · rw [after, TreeMap.size_insert]
    simp [not_member]
  · intro s a held
    rw [find_insert] at held
    rw [after]
    split at held
    · cases held
      omega
    · have bounds := given s a held
      omega
  · exact distinct_insert distinct unused
  · exact found_insert found absent unused

theorem disconnectedHandler_numbered (numbered : Numbered g) :
    Numbered (g.disconnectedHandler session) := by
  unfold disconnectedHandler
  dsimp only
  split
  · exact numbered
  · rename_i attached
    have held := attachedData_of_ne attached
    obtain ⟨low, _⟩ := numbered.given session _ held
    rw [if_neg (by omega)]
    refine ⟨numbered.fresh, numbered.counted, numbered.given, numbered.distinct, ?_⟩
    intro k s
    simp only [userSessionLeft, find_erase]
    split
    · rename_i key
      constructor
      · intro impossible
        contradiction
      · intro other
        have bounds := numbered.given s _ other
        omega
    · exact numbered.found k s

theorem reply_reaches (numbered : Numbered g) (few : g.attachedData.size + 1 ≤ 2 ^ 31)
    {a : Int} {receiver : Session} {header : HeaderEx}
    (attached : g.attachedData[session]? = some a)
    (echoed : header = { operationId := some (BitVec.ofInt 32 a) } ∨
      header = { uid := some (BitVec.ofInt 32 a) })
    (sent : (addressee header).bind g.getSessionById = some receiver) : receiver = session := by
  obtain ⟨low, high⟩ := numbered.given session a attached
  have number : (BitVec.ofInt 32 a).toInt = a := by
    refine toInt_ofInt_of_small low ?_
    rw [numbered.counted] at high
    omega
  rcases echoed with rfl | rfl
  · simp only [addressee, Option.map_some, Option.bind_some, number, getSessionById] at sent
    have held := (numbered.found _ receiver).mp sent
    rw [Int.neg_neg] at held
    exact numbered.distinct receiver session a held attached
  · simp only [addressee, Option.bind_some, number, getSessionById] at sent
    have held := (numbered.found _ receiver).mp sent
    have bounds := numbered.given receiver _ held
    omega

end numbers

section steps
variable {types : ServerTypes} {parser : HeaderExParser} {w t : World} {e : Event}

theorem Routed.size_le (routed : Routed w) : w.gateway.attachedData.size ≤ w.served.length := by
  rw [← TreeMap.length_keys]
  refine TreeMap.nodup_keys.length_le_of_subset ?_
  intro s member
  exact routed.served s (TreeMap.mem_keys.mp member)

theorem Routed.size_lt (routed : Routed w) {session : Session} (present : session ∈ w.served)
    (absent : w.gateway.attachedData[session]? = none) :
    w.gateway.attachedData.size + 1 ≤ w.served.length := by
  have not_member : session ∉ w.gateway.attachedData := by
    rw [TreeMap.mem_iff_isSome_getElem?, absent]
    simp
  rw [← TreeMap.length_keys, ← List.length_cons (a := session)]
  refine List.Nodup.length_le_of_subset ?_ ?_
  · exact List.nodup_cons.mpr ⟨fun key => not_member (TreeMap.mem_keys.mp key),
      TreeMap.nodup_keys⟩
  · intro s member
    rcases List.mem_cons.mp member with rfl | key
    · exact present
    · exact routed.served s (TreeMap.mem_keys.mp key)

theorem routed_record (routed : Routed w) {handedOut : List Int} {forward : Forward}
    (header : ∃ a, w.gateway.attachedData[forward.session]? = some a ∧
      (forward.header = { operationId := some (BitVec.ofInt 32 a) } ∨
        forward.header = { uid := some (BitVec.ofInt 32 a) })) :
    Routed (w.record { gateway := w.gateway, handedOut := handedOut, forward := some forward }) := by
  refine ⟨routed.numbered, routed.nodup, routed.few, routed.served, ?_, routed.reaches⟩
  intro sent member
  rcases List.mem_append.mp member with old | new
  · exact routed.headers sent old
  · rw [Option.toList_some, List.mem_singleton] at new
    rw [new]
    exact header

theorem routed_afterLogin (routed : Routed w) (session : Session) (serverId : Int) (data : Bytes) :
    Routed (w.record (w.gateway.forwardAfterLogin session serverId data)) := by
  unfold forwardAfterLogin
  dsimp only
  split
  · exact ⟨routed.numbered, routed.nodup, routed.few, routed.served,
      by simpa [World.record] using routed.headers, routed.reaches⟩
  · rename_i attached
    exact routed_record routed ⟨_, attachedData_of_ne attached, Or.inr rfl⟩

theorem routed_beforeLogin (routed : Routed w) {session : Session} (present : session ∈ w.served)
    (serverId : Int) (data : Bytes) :
    Routed (w.record (w.gateway.forwardBeforeLogin session serverId data)) := by
  by_cases unattached : w.gateway.getAttachedData session = 0
  · have absent := (getAttachedData_eq_zero_iff routed.numbered).mp unattached
    have room := routed.size_lt present absent
    have few := routed.few
    obtain ⟨numbered, number⟩ := numbered_new routed.numbered unattached (by omega)
    have lookup (s : Session) :
        (w.gateway.attachTmpUserId session).2.1.attachedData[s]? =
          if session = s then some (w.gateway.attachTmpUserId session).1
          else w.gateway.attachedData[s]? := by
      rw [attachTmpUserId_new unattached]
      exact find_insert ..
    refine ⟨numbered, routed.nodup, routed.few, ?_, ?_, routed.reaches⟩
    · intro s member
      rw [TreeMap.mem_iff_isSome_getElem?] at member
      simp only [World.record, forwardBeforeLogin, lookup] at member
      split at member
      · rename_i here
        rw [← here]
        exact present
      · exact routed.served s (TreeMap.mem_iff_isSome_getElem?.mpr member)
    · intro sent member
      simp only [World.record, forwardBeforeLogin, lookup]
      rcases List.mem_append.mp member with old | new
      · obtain ⟨a, held, header⟩ := routed.headers sent old
        refine ⟨a, ?_, header⟩
        rw [if_neg]
        · exact held
        · intro here
          rw [← here, absent] at held
          contradiction
      · simp only [forwardBeforeLogin, Option.toList_some, List.mem_singleton] at new
        subst new
        exact ⟨_, if_pos rfl, Or.inl rfl⟩
  · simp only [forwardBeforeLogin, attachTmpUserId_old unattached]
    exact routed_record routed ⟨_, attachedData_of_ne unattached, Or.inl rfl⟩

theorem routed_deliver (routed : Routed w) {asked : Forward} (member : asked ∈ w.forwards)
    {type : Nat} {proto : Bytes} (sendable : Sendable proto) :
    Routed (w.deliver parser asked (replyMsgEx type asked.header proto)) := by
  refine ⟨routed.numbered, routed.nodup, routed.few, routed.served, routed.headers, ?_⟩
  intro delivery delivered
  rcases List.mem_append.mp delivered with old | new
  · exact routed.reaches delivery old
  · obtain ⟨sent, sent_here, rfl⟩ := List.mem_map.mp new
    rw [Option.mem_toList, recvReply_replyMsgEx parser asked.header sendable] at sent_here
    obtain ⟨id, named, found⟩ := Option.bind_eq_some_iff.mp sent_here
    obtain ⟨receiver, session_found, rfl⟩ := Option.map_eq_some_iff.mp found
    obtain ⟨a, attached, echoed⟩ := routed.headers asked member
    have size := routed.size_le
    have few := routed.few
    refine reply_reaches routed.numbered (by omega) attached echoed ?_
    rw [named]
    exact session_found

theorem routed_step (routed : Routed w) (few : FewSessions w e)
    (moved : w.step types parser e = some t) : Routed t := by
  cases e with
  | connected session =>
    simp only [World.step, Option.ite_none_left_eq_some, Option.some.injEq] at moved
    obtain ⟨new, rfl⟩ := moved
    refine ⟨routed.numbered, List.nodup_cons.mpr ⟨new, routed.nodup⟩, few, ?_, routed.headers,
      routed.reaches⟩
    intro s member
    exact List.mem_cons_of_mem _ (routed.served s member)
  | userFrame session data registry =>
    simp only [World.step, Option.ite_none_right_eq_some, Option.some.injEq] at moved
    obtain ⟨⟨present, _⟩, rfl⟩ := moved
    rcases recvFinishHandler_cases types w.gateway registry session data with
      ⟨_, outcome⟩ | ⟨_, serverId, outcome⟩ | ⟨_, serverId, outcome⟩
    · rw [outcome]
      exact ⟨routed.numbered, routed.nodup, routed.few, routed.served,
        by simpa [World.record] using routed.headers, routed.reaches⟩
    · rw [outcome]
      exact routed_beforeLogin routed present serverId data
    · rw [outcome]
      exact routed_afterLogin routed session serverId data
  | disconnected session handlerCalled =>
    simp only [World.step, Option.ite_none_right_eq_some, Option.some.injEq] at moved
    obtain ⟨_, rfl⟩ := moved
    cases handlerCalled with
    | false =>
      exact ⟨routed.numbered, routed.nodup, routed.few, routed.served, routed.headers,
        routed.reaches⟩
    | true =>
      refine ⟨disconnectedHandler_numbered routed.numbered, routed.nodup, routed.few, ?_, ?_,
        routed.reaches⟩
      · simp only [if_true, disconnectedHandler_attachedData]
        exact routed.served
      · simp only [if_true, disconnectedHandler_attachedData]
        exact routed.headers
  | backEndReply forward type proto =>
    simp only [World.step, Option.ite_none_right_eq_some, Option.map_eq_some_iff] at moved
    obtain ⟨⟨_, sendable⟩, asked, found, rfl⟩ := moved
    exact routed_deliver routed (List.mem_of_getElem? found) sendable

end steps

/-- With fewer than 2^31 sessions a reply goes to the session that asked, whatever the
    order of requests, disconnects and replies. -/
theorem replies_reach_requester (types : ServerTypes) (parser : HeaderExParser) {w : World}
    (run : Reach (World.step types parser) FewSessions {} w) : ReachesRequester w := by
  refine (reach_invariant Routed ?_ ?_ run).reaches
  · refine ⟨⟨rfl, rfl, ?_, ?_, ?_⟩, List.nodup_nil, by decide, ?_, ?_, ?_⟩
    · intro s a held
      simp at held
    · intro s u a held
      simp at held
    · intro k s
      simp
    · intro s member
      simp at member
    · intro sent member
      contradiction
    · intro delivery member
      contradiction
  · intro s e u routed few moved
    exact routed_step routed few moved

def replyAfterLeaving : List Event :=
  [.connected 1, .connected 2, .userFrame 1 versionFrame twoBackEnds,
    .userFrame 2 versionFrame twoBackEnds, .disconnected 1 false, .connected 3,
    .userFrame 3 versionFrame twoBackEnds, .backEndReply 1 20002 [8], .backEndReply 0 20002 [9],
    .backEndReply 2 20002 [10]]

theorem replies_reach_requester_after_leaving : ∃ w,
    Reach (World.step exampleTypes straightParser) FewSessions {} w ∧
      w.deliveries.map Delivery.receiver = [2, 1, 3] ∧ ReachesRequester w := by
  obtain ⟨w, run, facts⟩ := execWithin_any (World.step exampleTypes straightParser) FewSessions {}
    replyAfterLeaving (fun w => decide (w.deliveries.map Delivery.receiver = [2, 1, 3]))
    (by decide +kernel)
  exact ⟨w, run, of_decide_eq_true facts,
    replies_reach_requester exampleTypes straightParser run⟩

end LaluneServer.Gateway
