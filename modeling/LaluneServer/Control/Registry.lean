import LaluneServer.Control.ControlServer

/- The directory, the id pool and the groups of the control server in every state. -/
namespace LaluneServer.Control

open Std (TreeMap TreeSet)
open Transition InverseIndex

namespace ControlServer

def FewServers (c : ControlServer) (e : Event) : Prop :=
  (c.react e).1.serversInfo.size < 2 ^ 32 - 1

instance (c : ControlServer) (e : Event) : Decidable (FewServers c e) :=
  inferInstanceAs (Decidable ((c.react e).1.serversInfo.size < 2 ^ 32 - 1))

def GroupsExact (c : ControlServer) : Prop :=
  ∀ (t : Int) (group : ServerGroup), c.serverGroups[t]? = some group →
    ∀ k, k ∈ group ↔ ∃ a, c.serversInfo[k]? = some a ∧ a.serverType.toInt = t

structure Registered (c : ControlServer) : Prop where
  pool : c.availableIds.Sound
  distinct : ∀ (k l : IPPort) (a b : AddressInfo), c.serversInfo[k]? = some a →
    c.serversInfo[l]? = some b → a.serverId = b.serverId → k = l
  held : ∀ id, c.availableIds.HeldOut id ↔
    ∃ (k : IPPort) (a : AddressInfo), c.serversInfo[k]? = some a ∧ a.serverId = id
  groups : ∀ (t : Int) (group : ServerGroup), c.serverGroups[t]? = some group →
    ∀ k, k ∈ group ↔ ∃ a, c.serversInfo[k]? = some a ∧ a.serverType.toInt = t

/-- Ids are distinct and never the id 0 of the control server, they are the ids held
    out of the pool, and each group is the set of the servers of its type. -/
structure RegistryInvariant (c : ControlServer) : Prop where
  distinct : ∀ (k l : IPPort) (a b : AddressInfo), c.serversInfo[k]? = some a →
    c.serversInfo[l]? = some b → a.serverId = b.serverId → k = l
  positive : ∀ (k : IPPort) (a : AddressInfo), c.serversInfo[k]? = some a → 1 ≤ a.serverId.toNat
  held : ∀ id, c.availableIds.HeldOut id ↔
    ∃ (k : IPPort) (a : AddressInfo), c.serversInfo[k]? = some a ∧ a.serverId = id
  groups : ∀ (t : Int) (group : ServerGroup), c.serverGroups[t]? = some group →
    ∀ k, k ∈ group ↔ ∃ a, c.serversInfo[k]? = some a ∧ a.serverType.toInt = t

section
variable {c d : ControlServer} {ipPort : IPPort} {serverType : BitVec 32}

theorem Registered.invariant (registered : Registered c) : RegistryInvariant c := by
  refine ⟨registered.distinct, ?_, registered.held, registered.groups⟩
  intro k a known
  exact ((registered.held a.serverId).mpr ⟨k, a, known, rfl⟩).1

theorem registered_of_same (registered : Registered c) (ids : d.availableIds = c.availableIds)
    (info : d.serversInfo = c.serversInfo) (groups : d.serverGroups = c.serverGroups) :
    Registered d := by
  refine ⟨?_, ?_, ?_, ?_⟩
  · rw [ids]
    exact registered.pool
  · rw [info]
    exact registered.distinct
  · rw [ids, info]
    exact registered.held
  · rw [groups, info]
    exact registered.groups

theorem changeGroup_find (change : ServerGroup → ServerGroup) (t : Int) :
    (c.changeGroup serverType change)[t]? =
      if serverType.toInt = t then (c.serverGroups[t]?).map change else c.serverGroups[t]? := by
  unfold changeGroup
  split
  · rename_i missing
    split
    · rename_i same
      rw [← same, missing]
      rfl
    · rfl
  · rename_i group found
    rw [find_insert]
    split
    · rename_i same
      rw [← same, found]
      rfl
    · rfl

theorem initialized_groups_empty (serverTypeMax : Nat) (t : Int) (group : ServerGroup)
    (found : (initialized serverTypeMax).serverGroups[t]? = some group) (k : IPPort) :
    k ∉ group := by
  have fold (types : List Nat) (groups : TreeMap Int ServerGroup)
      (empty : ∀ (t : Int) (group : ServerGroup), groups[t]? = some group → k ∉ group) :
      ∀ (t : Int) (group : ServerGroup),
        (types.foldl (fun groups (s : Nat) => groups.insert (s : Int) ∅) groups)[t]? = some group →
          k ∉ group := by
    induction types generalizing groups with
    | nil => exact empty
    | cons s rest ih =>
      refine ih _ ?_
      intro t group found
      rw [find_insert] at found
      split at found
      · cases found
        exact TreeSet.not_mem_emptyc
      · exact empty t group found
  refine fold _ _ ?_ t group found
  intro t group found
  simp at found

theorem registered_initialized (serverTypeMax : Nat) : Registered (initialized serverTypeMax) := by
  refine ⟨AvailableIDs.sound_new, ?_, ?_, ?_⟩
  · intro k l a b known
    simp [initialized] at known
  · intro id
    refine ⟨fun held => absurd held (AvailableIDs.nothing_held_out id), ?_⟩
    rintro ⟨k, a, known, _⟩
    simp [initialized] at known
  · intro t group found k
    refine ⟨fun member => absurd member (initialized_groups_empty _ t group found k), ?_⟩
    rintro ⟨a, known, _⟩
    simp [initialized] at known

theorem groups_addServer (groups : GroupsExact c) (free : c.serversInfo[ipPort]? = none) :
    GroupsExact (c.addServer ipPort serverType).1 := by
  intro t group found k
  simp only [addServer, find_insertIfNew_of_free free]
  simp only [addServer, changeGroup_find] at found
  split at found
  · rename_i this_type
    obtain ⟨old, present, rfl⟩ := Option.map_eq_some_iff.mp found
    rw [TreeSet.mem_insert, Std.compare_eq_iff_eq, groups t old present]
    split
    · rename_i here
      simp [here, this_type]
    · rename_i apart
      simp [apart]
  · rename_i other_type
    rw [groups t group found]
    split
    · rename_i here
      subst here
      simp [free, other_type]
    · rfl

theorem groups_removeServer (groups : GroupsExact c) {addr : AddressInfo}
    (known : c.serversInfo[ipPort]? = some addr) : GroupsExact (c.removeServer ipPort addr) := by
  intro t group found k
  simp only [removeServer, find_erase]
  simp only [removeServer, changeGroup_find] at found
  split at found
  · rename_i this_type
    obtain ⟨old, present, rfl⟩ := Option.map_eq_some_iff.mp found
    rw [TreeSet.mem_erase, Ne, Std.compare_eq_iff_eq, groups t old present]
    split
    · rename_i here
      simp [here]
    · rename_i apart
      simp [apart]
  · rename_i other_type
    rw [groups t group found]
    split
    · rename_i here
      subst here
      simp [known, other_type]
    · rfl

theorem canGive_of_few (registered : Registered c) (few : c.serversInfo.size + 1 < 2 ^ 32 - 1) :
    c.availableIds.CanGive := by
  intro empty
  have cover : ∀ id, c.availableIds.HeldOut id →
      id ∈ c.serversInfo.toList.map (fun entry => entry.2.serverId) := by
    intro id held
    obtain ⟨k, a, known, rfl⟩ := (registered.held id).mp held
    exact List.mem_map.mpr ⟨(k, a), TreeMap.mem_toList_iff_getElem?_eq_some.mpr known, rfl⟩
  have bound := AvailableIDs.nextId_le_of_cover empty cover
  rw [List.length_map, TreeMap.length_toList] at bound
  omega

theorem registered_addServer (registered : Registered c) (free : c.serversInfo[ipPort]? = none)
    (few : c.serversInfo.size + 1 < 2 ^ 32 - 1) :
    Registered (c.addServer ipPort serverType).1 := by
  have room := canGive_of_few registered few
  obtain ⟨fresh, _⟩ := AvailableIDs.getId_fresh registered.pool
  have unused (k : IPPort) (a : AddressInfo) (known : c.serversInfo[k]? = some a) :
      a.serverId ≠ c.availableIds.getId.1 := by
    intro same
    exact fresh ((registered.held _).mpr ⟨k, a, known, same⟩)
  refine ⟨AvailableIDs.getId_sound registered.pool room, ?_, ?_, ?_⟩
  · intro k l a b first second same
    simp only [addServer, find_insertIfNew_of_free free] at first second
    split at first
    · rename_i here
      cases first
      split at second
      · rename_i there
        rw [← here, ← there]
      · exact absurd same.symm (unused l b second)
    · split at second
      · cases second
        exact absurd same (unused k a first)
      · exact registered.distinct k l a b first second same
  · intro id
    simp only [addServer, find_insertIfNew_of_free free]
    rw [AvailableIDs.getId_heldOut registered.pool room, registered.held]
    constructor
    · rintro (⟨k, a, known, same⟩ | rfl)
      · refine ⟨k, a, ?_, same⟩
        rw [if_neg]
        · exact known
        · rintro rfl
          rw [free] at known
          contradiction
      · exact ⟨ipPort, _, if_pos rfl, rfl⟩
    · rintro ⟨k, a, known, same⟩
      split at known
      · cases known
        exact Or.inr same.symm
      · exact Or.inl ⟨k, a, known, same⟩
  · exact groups_addServer registered.groups free

theorem registered_removeServer (registered : Registered c) {addr : AddressInfo}
    (known : c.serversInfo[ipPort]? = some addr) : Registered (c.removeServer ipPort addr) := by
  have out : c.availableIds.HeldOut addr.serverId :=
    (registered.held _).mpr ⟨ipPort, addr, known, rfl⟩
  refine ⟨AvailableIDs.releaseId_sound registered.pool out, ?_, ?_, ?_⟩
  · intro k l a b first second same
    simp only [removeServer, find_erase] at first second
    split at first
    · contradiction
    · split at second
      · contradiction
      · exact registered.distinct k l a b first second same
  · intro id
    simp only [removeServer, find_erase]
    rw [AvailableIDs.releaseId_heldOut out, registered.held]
    constructor
    · rintro ⟨⟨k, a, there, same⟩, other⟩
      refine ⟨k, a, ?_, same⟩
      rw [if_neg]
      · exact there
      · rintro rfl
        rw [known] at there
        cases there
        exact other same.symm
    · rintro ⟨k, a, there, same⟩
      split at there
      · contradiction
      · rename_i apart
        refine ⟨⟨k, a, there, same⟩, ?_⟩
        rintro rfl
        exact apart (registered.distinct ipPort k addr a known there same.symm)
  · exact groups_removeServer registered.groups known

theorem registered_attach (registered : Registered c) (session : Session) (ipPort : IPPort) :
    Registered (c.attach session ipPort) :=
  registered_of_same registered rfl rfl rfl

theorem registered_sayHello (registered : Registered c) {session : Session}
    {remoteIp : BitVec 32} {hello : Hello}
    (few : (c.sayHello session remoteIp hello).1.serversInfo.size < 2 ^ 32 - 1) :
    Registered (c.sayHello session remoteIp hello).1 := by
  unfold sayHello at few ⊢
  split
  · rename_i started
    rw [if_pos started] at few
    revert few
    simp only [helloStarted]
    generalize (remoteIp, Int32.ofBitVec hello.myListeningPort) = ipPort
    have attached := registered_attach registered session ipPort
    cases known : (c.attach session ipPort).serversInfo[ipPort]? with
    | none =>
      intro few
      refine registered_addServer attached known ?_
      have grown : ((c.attach session ipPort).addServer ipPort hello.serverType).1.serversInfo.size =
          (c.attach session ipPort).serversInfo.size + 1 := by
        have absent : ipPort ∉ (c.attach session ipPort).serversInfo := by
          rw [TreeMap.mem_iff_isSome_getElem?, known]
          simp
        simp [addServer, TreeMap.size_insertIfNew, absent]
      rw [← grown]
      exact few
    | some addr =>
      intro _
      exact attached
  · exact registered_attach registered session _

theorem groups_react (groups : GroupsExact c) (e : Event) : GroupsExact (c.react e).1 := by
  cases e with
  | sayHello session remoteIp hello =>
    simp only [react, sayHello]
    split
    · simp only [helloStarted]
      split
      · rename_i free
        exact groups_addServer (c := c.attach session _) groups free
      · exact groups
    · exact groups
  | keepAlive session => exact groups
  | serverTimeout ipPort =>
    simp only [react, serverTimeout]
    split
    · exact groups
    · rename_i addr known
      exact groups_removeServer groups known
  | startupTimer => exact groups

theorem mem_serverGroups_changeGroup (c : ControlServer) (type : BitVec 32)
    (change : ServerGroup → ServerGroup) (t : Int) :
    t ∈ c.changeGroup type change ↔ t ∈ c.serverGroups := by
  rw [TreeMap.mem_iff_isSome_getElem?, TreeMap.mem_iff_isSome_getElem?, changeGroup_find]
  split
  · rw [Option.isSome_map]
  · rfl

theorem mem_serverGroups_react (c : ControlServer) (e : Event) (t : Int) :
    t ∈ (c.react e).1.serverGroups ↔ t ∈ c.serverGroups := by
  cases e with
  | sayHello session remoteIp hello =>
    simp only [react, sayHello]
    split
    · simp only [helloStarted]
      split
      · exact mem_serverGroups_changeGroup (c.attach session _) hello.serverType _ t
      · rfl
    · rfl
  | keepAlive session => rfl
  | serverTimeout ipPort =>
    simp only [react, serverTimeout]
    split
    · rfl
    · rename_i addr known
      exact mem_serverGroups_changeGroup c addr.serverType _ t
  | startupTimer => rfl

theorem registered_react (registered : Registered c) {e : Event} (few : FewServers c e) :
    Registered (c.react e).1 := by
  cases e with
  | sayHello session remoteIp hello => exact registered_sayHello registered few
  | keepAlive session => exact registered
  | serverTimeout ipPort =>
    simp only [react, serverTimeout]
    cases known : c.serversInfo[ipPort]? with
    | none => exact registered
    | some addr => exact registered_removeServer registered known
  | startupTimer => exact registered_of_same registered rfl rfl rfl

end

/-- The registry of the control server is in order in every state. -/
theorem registry_in_order {serverTypeMax : Nat} {c : ControlServer}
    (run : Reach step FewServers (initialized serverTypeMax) c) : RegistryInvariant c := by
  refine (reach_invariant Registered (registered_initialized serverTypeMax) ?_ run).invariant
  intro s e t registered few moved
  cases moved
  exact registered_react registered few

def recycledId : List Event :=
  [.sayHello 1 0x0a000001 ⟨80, 5, 1⟩, .sayHello 2 0x0a000002 ⟨80, 5, 1⟩,
    .sayHello 3 0x0a000003 ⟨80, 6, 1⟩, .keepAlive 1, .startupTimer, .serverTimeout (0x0a000001, 80),
    .sayHello 2 0x0a000002 ⟨80, 6, 1⟩, .sayHello 4 0x0a000004 ⟨80, 7, 1⟩]

theorem registry_in_order_after_recycling : ∃ c,
    Reach step FewServers (initialized 13) c ∧
      c.serversInfo.toList.map (fun entry => entry.2.serverId) = [2, 3, 1] ∧
      RegistryInvariant c := by
  obtain ⟨c, run, facts⟩ := execWithin_any step FewServers (initialized 13) recycledId
    (fun c => decide (c.serversInfo.toList.map (fun entry => entry.2.serverId) = [2, 3, 1]))
    (by decide +kernel)
  exact ⟨c, run, of_decide_eq_true facts, registry_in_order run⟩

end ControlServer

end LaluneServer.Control
