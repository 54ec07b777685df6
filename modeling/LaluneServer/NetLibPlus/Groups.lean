import LaluneServer.NetLibPlus.Registry

/- The groups by server type against the table of known servers. -/
namespace LaluneServer.NetLibPlus

open Std (TreeMap TreeSet)
open Transition InverseIndex

section
variable {delegate : Int → Bool} {r s : Registry}

def KeepsType (r : Registry) : Registry.Event → Prop
  | .updateServerInfo serverId _ _ serverType =>
    r.clientsShutdown = false → ∀ info ∈ r.serverinfos[serverId]?, info.serverType = serverType
  | .removeServerInfo .. => True

instance (r : Registry) : ∀ e, Decidable (KeepsType r e)
  | .updateServerInfo .. => inferInstanceAs (Decidable (_ → ∀ _ ∈ _, _))
  | .removeServerInfo .. => inferInstanceAs (Decidable True)

def InGroup (r : Registry) (serverType serverId : Int) : Prop :=
  ∃ ids, r.serveridGroupbyType[serverType]? = some ids ∧ serverId ∈ ids

def HasType (r : Registry) (serverType serverId : Int) : Prop :=
  ∃ info, r.serverinfos[serverId]? = some info ∧ info.serverType = serverType

def Grouped (r : Registry) : Prop :=
  ∀ serverType serverId, InGroup r serverType serverId ↔ HasType r serverType serverId

def Named (r : Registry) : Prop :=
  ∀ (id : Int), ∀ info ∈ r.serverinfos[id]?, info.serverId = id

theorem mem_group (r : Registry) (serverType serverId : Int) :
    serverId ∈ r.group serverType ↔ InGroup r serverType serverId := by
  unfold Registry.group InGroup
  cases r.serveridGroupbyType[serverType]? with
  | none => simp
  | some ids => simp

theorem collectInfo_foldl (ids : List Int) (known : ∀ id ∈ ids, r.serverinfos[id]? ≠ none)
    (found : Registry.Found) (agrees : ∀ id ∈ ids, found.infos[id]? = none ∨
      found.infos[id]? = r.serverinfos[id]?) (id : Int) :
    (ids.foldl r.collectInfo found).unexpected = found.unexpected ∧
      (ids.foldl r.collectInfo found).infos[id]? =
        if id ∈ ids then r.serverinfos[id]? else found.infos[id]? := by
  induction ids generalizing found with
  | nil => simp
  | cons first rest ih =>
    cases held : r.serverinfos[first]? with
    | none => exact absurd held (known first List.mem_cons_self)
    | some info =>
      have step : r.collectInfo found first =
          { found with infos := found.infos.insertIfNew first info } := by
        simp only [Registry.collectInfo, held]
      have at_first : (found.infos.insertIfNew first info)[first]? = some info := by
        rcases agrees first List.mem_cons_self with free | same
        · rw [find_insertIfNew_of_free free, if_pos rfl]
        · rw [held] at same
          rw [find_insertIfNew_of_some same, same]
      have elsewhere (id : Int) (apart : first ≠ id) :
          (found.infos.insertIfNew first info)[id]? = found.infos[id]? := by
        rw [find_insertIfNew, if_neg (fun both => apart both.1)]
      rw [List.foldl_cons, step]
      obtain ⟨quiet, lookup⟩ := ih (fun id member => known id (List.mem_cons_of_mem _ member))
        { found with infos := found.infos.insertIfNew first info } (by
          intro id member
          by_cases same : first = id
          · subst same
            right
            rw [at_first, held]
          · rw [elsewhere id same]
            exact agrees id (List.mem_cons_of_mem _ member))
      refine ⟨quiet, ?_⟩
      rw [lookup]
      by_cases later : id ∈ rest
      · simp [later]
      · by_cases same : first = id
        · subst same
          rw [if_neg later, if_pos List.mem_cons_self, held]
          exact at_first
        · simp [later, elsewhere id same, Ne.symm same]

theorem getClientsInfo_exact (grouped : Grouped r) (serverType : Int) :
    (r.getClientsInfo serverType).unexpected = [] ∧
      (r.clientsShutdown = false → ∀ (id : Int) (info : ServerInfo),
        (r.getClientsInfo serverType).infos[id]? = some info ↔
          r.serverinfos[id]? = some info ∧ info.serverType = serverType) := by
  have known : ∀ id ∈ r.group serverType, r.serverinfos[id]? ≠ none := by
    intro id member
    obtain ⟨info, held, _⟩ := (grouped serverType id).mp ((mem_group r serverType id).mp member)
    simp [held]
  have all := collectInfo_foldl _ known {} (fun id _ => Or.inl (by simp))
  unfold Registry.getClientsInfo
  split
  · rename_i down
    exact ⟨rfl, fun up => absurd (up.symm.trans down) (by simp)⟩
  · refine ⟨(all 0).1, ?_⟩
    intro _ id info
    rw [(all id).2]
    split
    · rename_i member
      obtain ⟨other, held, same⟩ :=
        (grouped serverType id).mp ((mem_group r serverType id).mp member)
      rw [held]
      constructor
      · rintro ⟨⟩
        exact ⟨rfl, same⟩
      · rintro ⟨here, _⟩
        exact here
    · rename_i absent
      constructor
      · intro impossible
        simp at impossible
      · rintro ⟨held, same⟩
        exact absurd ((mem_group r serverType id).mpr
          ((grouped serverType id).mpr ⟨info, held, same⟩)) absent

theorem inGroup_changeGroup (serverType : Int) (change : TreeSet Int → TreeSet Int)
    (t id : Int) :
    InGroup (r.changeGroup serverType change) t id ↔
      if serverType = t then id ∈ change (r.serveridGroupbyType[serverType]?.getD ∅)
      else InGroup r t id := by
  unfold InGroup Registry.changeGroup
  simp only [find_insert]
  split
  · simp
  · rfl

theorem mem_groupD (serverType id : Int) :
    id ∈ r.serveridGroupbyType[serverType]?.getD ∅ ↔ InGroup r serverType id := by
  unfold InGroup
  cases r.serveridGroupbyType[serverType]? with
  | none => simp
  | some ids => simp

theorem putInfo_tables (delegate : Int → Bool) (r : Registry) (info : ServerInfo) :
    (r.putInfo delegate info).serverinfos = r.serverinfos.insert info.serverId info ∧
      (r.putInfo delegate info).serveridGroupbyType = r.serveridGroupbyType := by
  unfold Registry.putInfo Registry.tryStartAClient
  split
  · exact ⟨rfl, rfl⟩
  · exact ⟨rfl, rfl⟩

theorem updateInfo_tables (delegate : Int → Bool) (serverId : Int) (ip : BitVec 32) (port serverType : Int)
    (named : ∀ info ∈ r.serverinfos[serverId]?, info.serverId = serverId) :
    (∀ id : Int, (r.updateInfo delegate serverId ip port serverType).serverinfos[id]? =
      if serverId = id then some ⟨ip, port, serverType, serverId⟩ else r.serverinfos[id]?) ∧
      (r.updateInfo delegate serverId ip port serverType).serveridGroupbyType =
        r.serveridGroupbyType := by
  have put := putInfo_tables delegate r ⟨ip, port, serverType, serverId⟩
  have written : (∀ id : Int,
      (r.putInfo delegate ⟨ip, port, serverType, serverId⟩).serverinfos[id]? =
        if serverId = id then some ⟨ip, port, serverType, serverId⟩ else r.serverinfos[id]?) ∧
      (r.putInfo delegate ⟨ip, port, serverType, serverId⟩).serveridGroupbyType =
        r.serveridGroupbyType := by
    refine ⟨?_, put.2⟩
    intro id
    rw [put.1, find_insert]
  unfold Registry.updateInfo
  cases held : r.serverinfos[serverId]? with
  | none => exact written
  | some info =>
    dsimp only
    split
    · exact written
    · rename_i same
      simp only [ne_eq, not_or, not_not] at same
      obtain ⟨rfl, rfl, rfl⟩ := same
      refine ⟨?_, rfl⟩
      intro id
      split
      · rename_i here
        have name := named info held
        rw [← here, held, ← name]
      · rfl

theorem grouped_update_iff (grouped : Grouped r) (named : Named r) (serverId : Int)
    (ip : BitVec 32) (port serverType : Int) :
    Grouped (r.updateServerInfo delegate serverId ip port serverType) ↔
      (r.clientsShutdown = false → ∀ info ∈ r.serverinfos[serverId]?,
        info.serverType = serverType) := by
  unfold Registry.updateServerInfo
  split
  · rename_i down
    simp [down, grouped]
  · rename_i up
    obtain ⟨infos, groups⟩ := updateInfo_tables delegate serverId ip port serverType
      (named serverId)
    have in_group (t id : Int) :
        InGroup ((r.updateInfo delegate serverId ip port serverType).changeGroup serverType
          (fun group => group.insert serverId)) t id ↔
          InGroup r t id ∨ (serverType = t ∧ serverId = id) := by
      rw [inGroup_changeGroup, groups]
      split
      · rename_i same
        subst same
        rw [TreeSet.mem_insert, Std.compare_eq_iff_eq, mem_groupD, or_comm]
        simp
      · rename_i apart
        simp [InGroup, groups, apart]
    have has_type (t id : Int) :
        HasType ((r.updateInfo delegate serverId ip port serverType).changeGroup serverType
          (fun group => group.insert serverId)) t id ↔
          if serverId = id then serverType = t else HasType r t id := by
      unfold HasType
      simp only [Registry.changeGroup, infos]
      split
      · simp
      · rfl
    constructor
    · intro kept _ info held
      have old : InGroup r info.serverType serverId := (grouped _ _).mpr ⟨info, held, rfl⟩
      have now := (kept _ _).mp ((in_group _ _).mpr (Or.inl old))
      rw [has_type, if_pos rfl] at now
      exact now.symm
    · intro keeps t id
      rw [in_group, has_type]
      split
      · rename_i here
        subst here
        constructor
        · rintro (old | ⟨same, _⟩)
          · obtain ⟨info, held, type⟩ := (grouped t serverId).mp old
            rw [← type]
            exact (keeps (by simpa using up) info held).symm
          · exact same
        · intro same
          exact Or.inr ⟨same, rfl⟩
      · rename_i apart
        rw [grouped t id]
        simp [apart]

theorem grouped_remove (grouped : Grouped r) (serverId : Int) (ip : BitVec 32)
    (port serverType : Int) : Grouped (r.removeServerInfo serverId ip port serverType) := by
  unfold Registry.removeServerInfo
  split
  · exact grouped
  · cases held : r.serverinfos[serverId]? with
    | none => exact grouped
    | some info =>
      dsimp only
      split
      · exact grouped
      · rename_i same
        simp only [ne_eq, not_or, not_not] at same
        obtain ⟨_, _, rfl⟩ := same
        intro t id
        have in_group : InGroup
            { r.changeGroup info.serverType (fun group => group.erase serverId) with
              clients := r.clients.erase serverId
              serverinfos := r.serverinfos.erase serverId } t id ↔
            InGroup (r.changeGroup info.serverType (fun group => group.erase serverId)) t id :=
          Iff.rfl
        rw [in_group, inGroup_changeGroup]
        unfold HasType
        simp only [find_erase]
        by_cases here : serverId = id
        · subst here
          have other_type (apart : info.serverType ≠ t) : ¬InGroup r t serverId := by
            intro member
            obtain ⟨other, there, type⟩ := (grouped t serverId).mp member
            rw [held] at there
            cases there
            exact apart type
          split
          · simp
          · rename_i apart
            simpa using other_type apart
        · rw [if_neg here]
          split
          · rename_i this_type
            subst this_type
            rw [TreeSet.mem_erase, Ne, Std.compare_eq_iff_eq, mem_groupD]
            simp only [here, not_false_eq_true, true_and]
            exact grouped _ id
          · exact grouped t id

theorem named_step (named : Named r) {e : Registry.Event} (moved : r.step delegate e = some s) :
    Named s := by
  cases e with
  | updateServerInfo serverId ip port serverType =>
    cases moved
    unfold Registry.updateServerInfo
    split
    · exact named
    · obtain ⟨infos, _⟩ := updateInfo_tables delegate serverId ip port serverType
        (named serverId)
      intro id info held
      simp only [Registry.changeGroup, Option.mem_def, infos] at held
      split at held
      · rename_i here
        cases held
        exact here
      · exact named id info held
  | removeServerInfo serverId ip port serverType =>
    cases moved
    unfold Registry.removeServerInfo
    split
    · exact named
    · split
      · split
        · exact named
        · intro id info held
          simp only [Option.mem_def, find_erase] at held
          split at held
          · contradiction
          · exact named id info held
      · exact named

theorem grouped_step_iff (grouped : Grouped r) (named : Named r) {e : Registry.Event}
    (moved : r.step delegate e = some s) : Grouped s ↔ KeepsType r e := by
  cases e with
  | updateServerInfo serverId ip port serverType =>
    cases moved
    exact grouped_update_iff grouped named serverId ip port serverType
  | removeServerInfo serverId ip port serverType =>
    cases moved
    exact ⟨fun _ => trivial, fun _ => grouped_remove grouped serverId ip port serverType⟩

end

structure GroupsExact (r : Registry) : Prop where
  grouped : ∀ serverType serverId, InGroup r serverType serverId ↔ HasType r serverType serverId
  found : r.clientsShutdown = false → ∀ (serverType id : Int) (info : ServerInfo),
    (r.getClientsInfo serverType).infos[id]? = some info ↔
      r.serverinfos[id]? = some info ∧ info.serverType = serverType
  expected : ∀ serverType, (r.getClientsInfo serverType).unexpected = []

theorem groupsExact_iff (r : Registry) : GroupsExact r ↔ Grouped r := by
  constructor
  · intro exact_groups
    exact exact_groups.grouped
  · intro grouped
    exact ⟨grouped, fun up serverType => (getClientsInfo_exact grouped serverType).2 up,
      fun serverType => (getClientsInfo_exact grouped serverType).1⟩

/-- The groups are exact while no id changes its type, and the first change of a type
    ends it. -/
theorem groups_exact_while_types_kept (delegate : Int → Bool) {r : Registry}
    (run : Reach (Registry.step delegate) KeepsType {} r) :
    GroupsExact r ∧ ∀ e s, r.step delegate e = some s → (GroupsExact s ↔ KeepsType r e) := by
  have sound : Grouped r ∧ Named r := by
    refine reach_invariant (fun r => Grouped r ∧ Named r) ?_ ?_ run
    · refine ⟨?_, ?_⟩
      · intro serverType serverId
        simp [InGroup, HasType]
      · intro id info held
        simp at held
    · intro s e t before keeps moved
      exact ⟨(grouped_step_iff before.1 before.2 moved).mpr keeps, named_step before.2 moved⟩
  refine ⟨(groupsExact_iff r).mpr sound.1, ?_⟩
  intro e s moved
  rw [groupsExact_iff]
  exact grouped_step_iff sound.1 sound.2 moved

section examples

def movedAndReturned : List Registry.Event :=
  [.updateServerInfo 1 0x0a000001 80 5, .updateServerInfo 2 0x0a000002 80 6,
    .updateServerInfo 1 0x0a000003 80 5, .removeServerInfo 2 0x0a000002 80 6,
    .updateServerInfo 2 0x0a000004 81 6]

theorem groups_exact_after_return : ∃ r,
    Reach (Registry.step (fun _ => true)) KeepsType {} r ∧ r.serverinfos.size = 2 ∧
      GroupsExact r := by
  obtain ⟨r, run, facts⟩ := execWithin_any (Registry.step (fun _ => true)) KeepsType {}
    movedAndReturned (fun r => decide (r.serverinfos.size = 2)) (by decide +kernel)
  exact ⟨r, run, of_decide_eq_true facts, (groups_exact_while_types_kept _ run).1⟩

/-- An update changes the type of an id, which stays in the group of its old type. -/
theorem stale_group_after_type_change : ¬ ∀ delegate r,
    Reach (Registry.step delegate) always {} r → GroupsExact r := by
  intro all
  obtain ⟨r, run, facts⟩ := execWithin_any (Registry.step (fun _ => true)) (fun _ _ => True) {}
    [.updateServerInfo 1 0x0a000001 80 5, .updateServerInfo 1 0x0a000002 80 6]
    (fun r => decide (1 ∈ r.group 5 ∧
      ∀ info ∈ r.serverinfos[(1 : Int)]?, info.serverType = 6)) (by decide +kernel)
  obtain ⟨member, changed⟩ := of_decide_eq_true facts
  obtain ⟨info, held, type⟩ := ((all _ r run).grouped 5 1).mp ((mem_group r 5 1).mp member)
  have now := changed info held
  omega

end examples

end LaluneServer.NetLibPlus
