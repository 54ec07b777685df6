import LaluneServer.Control.Directory
import LaluneServer.Control.Registry
import LaluneServer.NetLibPlus.Groups

/- The copy of the directory that one server keeps, and what each address message does to
   it. ADDR_INFO_REFRESH removes nothing, and an address that carries the server's own id
   is skipped, so a copy is exact only after messages that fit it. -/
namespace LaluneServer.Control

open Std (TreeMap)
open InverseIndex NetLibPlus ServerCommon

def infoOf (addr : AddressInfo) : ServerInfo :=
  ⟨addr.ip, addr.port.toInt, addr.serverType.toInt, addr.serverId.toInt⟩

def Own (server : IPPort) (addr : AddressInfo) : Prop :=
  (addr.ip, Int32.ofBitVec addr.port) = server

instance (server : IPPort) (addr : AddressInfo) : Decidable (Own server addr) :=
  inferInstanceAs (Decidable (_ = _))

def Exact (control : ControlServer) (server : IPPort) (registry : Registry) : Prop :=
  ∀ (id : Int) (info : ServerInfo), id ≠ controlServerId →
    (registry.serverinfos[id]? = some info ↔ ∃ (k : IPPort) (addr : AddressInfo),
      k ≠ server ∧ control.serversInfo[k]? = some addr ∧ addr.serverId.toInt = id ∧
        info = infoOf addr)

/-- A message that can be followed: a refresh replaces all that is known, and no other
    server has the id of this one. -/
def Fits (server : IPPort) (node : Node) : Message → Prop
  | .addrInfoRefresh list =>
    (∀ id ∈ node.registry.serverinfos.keys, id ≠ controlServerId →
      ∃ addr ∈ list, addr.serverId.toInt = id ∧ ¬Own server addr) ∧
    ∀ addr ∈ list, addr.serverId = node.myServerId → Own server addr
  | .addrInfoAdd addr => addr.serverId = node.myServerId → Own server addr
  | _ => True

instance (server : IPPort) (node : Node) : (m : Message) → Decidable (Fits server node m)
  | .addrInfoRefresh _ => inferInstanceAs (Decidable ((∀ _ ∈ _, _ → ∃ _ ∈ _, _) ∧ ∀ _ ∈ _, _ → _))
  | .addrInfoAdd _ => inferInstanceAs (Decidable (_ → _))
  | .helloResult _ | .addrInfoRemove _ | .addrInfoRestart _ => isTrue trivial

def AllFit (delegate : Int → Bool) (server : IPPort) (node : Node) : List Message → Prop
  | [] => True
  | m :: rest => Fits server node m ∧ AllFit delegate server (node.recvFinishHandler delegate m) rest

structure Usable (node : Node) : Prop where
  up : node.registry.clientsShutdown = false
  named : Named node.registry

structure Copy (control : ControlServer) (server : IPPort) (node : Node) : Prop where
  entries : Exact control server node.registry
  myServerId : ∀ addr, control.serversInfo[server]? = some addr → addr.serverId = node.myServerId

section
variable {delegate : Int → Bool} {node : Node} {server : IPPort} {addr : AddressInfo}

theorem allFit_append {first second : List Message} :
    AllFit delegate server node (first ++ second) ↔ AllFit delegate server node first ∧
      AllFit delegate server (first.foldl (Node.recvFinishHandler delegate) node) second := by
  induction first generalizing node with
  | nil => simp [AllFit]
  | cons m rest ih =>
    rw [List.cons_append, AllFit, AllFit, ih, List.foldl_cons, and_assoc]

theorem updateServerInfo_up {r : Registry} (up : r.clientsShutdown = false) (serverId : Int)
    (ip : BitVec 32) (port serverType : Int) :
    (r.updateServerInfo delegate serverId ip port serverType).clientsShutdown = false := by
  unfold Registry.updateServerInfo Registry.updateInfo Registry.putInfo Registry.tryStartAClient
    Registry.changeGroup
  simp only [up, Bool.false_eq_true, ↓reduceIte]
  split
  · split
    · split <;> rfl
    · exact up
  · split <;> rfl

theorem usable_updateAddress (usable : Usable node) (addr : AddressInfo) :
    Usable (node.updateAddress delegate addr) := by
  unfold Node.updateAddress
  split
  · exact ⟨updateServerInfo_up usable.up _ _ _ _, @named_step delegate _ _ usable.named
      (.updateServerInfo addr.serverId.toInt addr.ip addr.port.toInt addr.serverType.toInt) rfl⟩
  · exact usable

theorem updateAddress_find (usable : Usable node) (addr : AddressInfo) (id : Int) :
    (node.updateAddress delegate addr).registry.serverinfos[id]? =
      if addr.serverId ≠ node.myServerId ∧ addr.serverId.toInt = id then some (infoOf addr)
      else node.registry.serverinfos[id]? := by
  unfold Node.updateAddress
  split
  · rename_i other
    unfold Registry.updateServerInfo
    rw [if_neg (by simp [usable.up])]
    obtain ⟨infos, _⟩ := updateInfo_tables delegate addr.serverId.toInt addr.ip addr.port.toInt
      addr.serverType.toInt (usable.named addr.serverId.toInt)
    simp only [Registry.changeGroup, infos, other, ne_eq, not_false_eq_true, true_and]
    rfl
  · rename_i same
    rw [if_neg (fun both => same both.1)]

theorem updateAddress_myServerId (node : Node) (addr : AddressInfo) :
    (node.updateAddress delegate addr).myServerId = node.myServerId := by
  unfold Node.updateAddress
  split
  · rfl
  · rfl

theorem usable_removeAddress (usable : Usable node) (addr : AddressInfo) :
    Usable (node.removeAddress addr) := by
  refine ⟨?_, @named_step (fun _ => true) _ _ usable.named (.removeServerInfo addr.serverId.toInt
    addr.ip addr.port.toInt addr.serverType.toInt) rfl⟩
  have up := usable.up
  unfold Node.removeAddress Registry.removeServerInfo
  simp only [up, Bool.false_eq_true, ↓reduceIte]
  split
  · split
    · exact up
    · exact up
  · exact up

theorem removeAddress_find (usable : Usable node) (addr : AddressInfo) (id : Int) :
    (node.removeAddress addr).registry.serverinfos[id]? =
      if addr.serverId.toInt = id ∧ node.registry.serverinfos[id]? = some (infoOf addr) then none
      else node.registry.serverinfos[id]? := by
  unfold Node.removeAddress Registry.removeServerInfo
  simp only [usable.up, Bool.false_eq_true, ↓reduceIte]
  cases held : node.registry.serverinfos[addr.serverId.toInt]? with
  | none =>
    simp only
    rw [if_neg]
    rintro ⟨rfl, known⟩
    rw [held] at known
    contradiction
  | some info =>
    have name := usable.named _ info held
    simp only
    split
    · rename_i other
      rw [if_neg]
      rintro ⟨rfl, known⟩
      obtain rfl := Option.some.inj (held.symm.trans known)
      simp [infoOf] at other
    · rename_i same
      simp only [ne_eq, not_or, not_not] at same
      obtain ⟨ip, port, type⟩ := same
      have found : info = infoOf addr := by
        cases info
        simp only at ip port type name
        rw [infoOf, ip, port, type, name]
      simp only [find_erase]
      by_cases here : addr.serverId.toInt = id
      · rw [if_pos here, if_pos ⟨here, by rw [← here, held, found]⟩]
      · rw [if_neg here, if_neg (fun both => here both.1)]

theorem updateAddresses_find (list : List AddressInfo)
    (distinct : ∀ a ∈ list, ∀ b ∈ list, a.serverId = b.serverId → a = b) (usable : Usable node)
    (id : Int) (info : ServerInfo) :
    (list.foldl (Node.updateAddress delegate) node).registry.serverinfos[id]? = some info ↔
      (∃ a ∈ list, a.serverId ≠ node.myServerId ∧ a.serverId.toInt = id ∧ info = infoOf a) ∨
      ((∀ a ∈ list, a.serverId ≠ node.myServerId → a.serverId.toInt ≠ id) ∧
        node.registry.serverinfos[id]? = some info) := by
  induction list generalizing node with
  | nil => simp
  | cons first rest ih =>
    have apart : ∀ a ∈ rest, ∀ b ∈ rest, a.serverId = b.serverId → a = b :=
      fun a one b two => distinct a (List.mem_cons_of_mem _ one) b (List.mem_cons_of_mem _ two)
    rw [List.foldl_cons, ih apart (usable_updateAddress usable first),
      updateAddress_find usable first id, updateAddress_myServerId]
    simp only [List.mem_cons, exists_eq_or_imp, forall_eq_or_imp]
    by_cases here : first.serverId ≠ node.myServerId ∧ first.serverId.toInt = id
    · rw [if_pos here]
      constructor
      · rintro (⟨a, member, facts⟩ | ⟨_, found⟩)
        · exact Or.inl (Or.inr ⟨a, member, facts⟩)
        · exact Or.inl (Or.inl ⟨here.1, here.2, (Option.some.inj found).symm⟩)
      · rintro ((⟨_, _, rfl⟩ | later) | ⟨⟨no, _⟩, _⟩)
        · by_cases again : ∃ a ∈ rest, a.serverId ≠ node.myServerId ∧ a.serverId.toInt = id
          · obtain ⟨a, member, other, same⟩ := again
            have equal : first = a := distinct first (List.mem_cons_self) a
              (List.mem_cons_of_mem _ member) (BitVec.toInt_inj.mp (here.2.trans same.symm))
            exact Or.inl ⟨a, member, other, same, by rw [equal]⟩
          · push Not at again
            exact Or.inr ⟨again, rfl⟩
        · exact Or.inl later
        · exact absurd here.2 (no here.1)
    · rw [if_neg here]
      have not_first : first.serverId ≠ node.myServerId → first.serverId.toInt ≠ id :=
        fun other same => here ⟨other, same⟩
      constructor
      · rintro (later | ⟨none, old⟩)
        · exact Or.inl (Or.inr later)
        · exact Or.inr ⟨⟨not_first, none⟩, old⟩
      · rintro ((⟨other, same, _⟩ | later) | ⟨⟨_, none⟩, old⟩)
        · exact absurd same (not_first other)
        · exact Or.inl later
        · exact Or.inr ⟨none, old⟩

theorem usable_updateAddresses (list : List AddressInfo) (usable : Usable node) :
    Usable (list.foldl (Node.updateAddress delegate) node) ∧
      (list.foldl (Node.updateAddress delegate) node).myServerId = node.myServerId := by
  induction list generalizing node with
  | nil => exact ⟨usable, rfl⟩
  | cons first rest ih =>
    obtain ⟨next, same⟩ := ih (usable_updateAddress usable first)
    exact ⟨next, same.trans (updateAddress_myServerId node first)⟩

theorem usable_recvFinishHandler (usable : Usable node) (m : Message) :
    Usable (node.recvFinishHandler delegate m) := by
  cases m with
  | helloResult serverId => exact ⟨usable.up, usable.named⟩
  | addrInfoRefresh list => exact (usable_updateAddresses list usable).1
  | addrInfoAdd addr => exact usable_updateAddress usable addr
  | addrInfoRemove addr => exact usable_removeAddress usable addr
  | addrInfoRestart serverId => exact usable

theorem usable_received (usable : Usable node) (messages : List Message) :
    Usable (messages.foldl (Node.recvFinishHandler delegate) node) := by
  induction messages generalizing node with
  | nil => exact usable
  | cons m rest ih => exact ih (usable_recvFinishHandler usable m)

theorem usable_initialized (controlServer : ServerInfo) :
    Usable (Node.initialized delegate controlServer) := by
  have empty : Named ({} : Registry) := by
    intro id info held
    simp at held
  exact ⟨updateServerInfo_up rfl _ _ _ _, @named_step delegate _ _ empty (.updateServerInfo
    controlServerId controlServer.ip controlServer.port controlServer.serverType) rfl⟩

end

def Addressed (control : ControlServer) : Prop :=
  ∀ (k : IPPort) (addr : AddressInfo), control.serversInfo[k]? = some addr → Own k addr

section
variable {delegate : Int → Bool} {c d : ControlServer} {server k : IPPort} {node : Node}
  {addr : AddressInfo}

theorem mem_generateAddressList : addr ∈ c.generateAddressList ↔
    ∃ k : IPPort, c.serversInfo[k]? = some addr := by
  unfold ControlServer.generateAddressList
  rw [List.mem_map]
  constructor
  · rintro ⟨⟨k, a⟩, member, rfl⟩
    exact ⟨k, TreeMap.mem_toList_iff_getElem?_eq_some.mp member⟩
  · rintro ⟨k, known⟩
    exact ⟨(k, addr), TreeMap.mem_toList_iff_getElem?_eq_some.mpr known, rfl⟩

theorem copy_refresh (registered : c.Registered) (addressed : Addressed c) (usable : Usable node)
    (myServerId : ∀ addr, c.serversInfo[server]? = some addr → addr.serverId = node.myServerId)
    (fits : Fits server node (.addrInfoRefresh c.generateAddressList)) :
    Copy c server (node.recvFinishHandler delegate (.addrInfoRefresh c.generateAddressList)) := by
  obtain ⟨listed, mine⟩ := fits
  have distinct : ∀ a ∈ c.generateAddressList, ∀ b ∈ c.generateAddressList,
      a.serverId = b.serverId → a = b := by
    intro a one b two same
    obtain ⟨k, first⟩ := mem_generateAddressList.mp one
    obtain ⟨l, second⟩ := mem_generateAddressList.mp two
    obtain rfl := registered.distinct k l a b first second same
    exact Option.some.inj (first.symm.trans second)
  refine ⟨?_, ?_⟩
  · intro id info other
    refine (updateAddresses_find c.generateAddressList distinct usable id info).trans ?_
    constructor
    · rintro (⟨a, member, apart, same, rfl⟩ | ⟨none, old⟩)
      · obtain ⟨k, known⟩ := mem_generateAddressList.mp member
        refine ⟨k, a, ?_, known, same, rfl⟩
        rintro rfl
        exact apart (myServerId a known)
      · have key : id ∈ node.registry.serverinfos.keys := by
          rw [TreeMap.mem_keys, TreeMap.mem_iff_isSome_getElem?, old]
          rfl
        obtain ⟨a, member, same, foreign⟩ := listed id key other
        exact absurd same (none a member (fun skipped => foreign (mine a member skipped)))
    · rintro ⟨k, a, foreign, known, same, rfl⟩
      have member := mem_generateAddressList.mpr ⟨k, known⟩
      refine Or.inl ⟨a, member, ?_, same, rfl⟩
      intro skipped
      have owner : _ = server := mine a member skipped
      exact foreign ((addressed k a known).symm.trans owner)
  · have same := (@usable_updateAddresses delegate _ c.generateAddressList usable).2
    intro a known
    exact (myServerId a known).trans same.symm

theorem copy_add (copy : Copy c server node) (usable : Usable node) (registered : d.Registered)
    (addressed : Addressed d) (foreign : k ≠ server)
    (known : ∀ l : IPPort, d.serversInfo[l]? = if k = l then some addr else c.serversInfo[l]?)
    (free : c.serversInfo[k]? = none) (fits : Fits server node (.addrInfoAdd addr)) :
    Copy d server (node.recvFinishHandler delegate (.addrInfoAdd addr)) := by
  have new : d.serversInfo[k]? = some addr := by rw [known, if_pos rfl]
  have told : addr.serverId ≠ node.myServerId := by
    intro skipped
    have owner : _ = server := fits skipped
    exact foreign ((addressed k addr new).symm.trans owner)
  refine ⟨?_, ?_⟩
  · intro id info other
    show (node.updateAddress delegate addr).registry.serverinfos[id]? = some info ↔ _
    rw [updateAddress_find usable addr id]
    by_cases here : addr.serverId.toInt = id
    · rw [if_pos ⟨told, here⟩]
      constructor
      · rintro ⟨⟩
        exact ⟨k, addr, foreign, new, here, rfl⟩
      · rintro ⟨l, a, _, there, same, rfl⟩
        obtain rfl := registered.distinct k l addr a new there
          (BitVec.toInt_inj.mp (here.trans same.symm))
        rw [Option.some.inj (new.symm.trans there)]
    · rw [if_neg (fun both => here both.2), copy.entries id info other]
      constructor
      · rintro ⟨l, a, apart, there, facts⟩
        refine ⟨l, a, apart, ?_, facts⟩
        rw [known, if_neg]
        · exact there
        · rintro rfl
          rw [free] at there
          contradiction
      · rintro ⟨l, a, apart, there, same, rfl⟩
        rw [known] at there
        split at there
        · cases there
          exact absurd same here
        · exact ⟨l, a, apart, there, same, rfl⟩
  · intro a there
    rw [known, if_neg foreign] at there
    exact (copy.myServerId a there).trans (updateAddress_myServerId node addr).symm

theorem copy_remove (copy : Copy c server node) (usable : Usable node) (registered : c.Registered)
    (known : c.serversInfo[k]? = some addr)
    (erased : ∀ l : IPPort, d.serversInfo[l]? = if k = l then none else c.serversInfo[l]?) :
    Copy d server (node.recvFinishHandler delegate (.addrInfoRemove addr)) := by
  refine ⟨?_, ?_⟩
  · intro id info other
    show (node.removeAddress addr).registry.serverinfos[id]? = some info ↔ _
    rw [removeAddress_find usable addr id]
    split
    · rename_i here
      obtain ⟨l, a, apart, there, same, _⟩ := (copy.entries id _ other).mp here.2
      refine ⟨fun none => by contradiction, ?_⟩
      rintro ⟨m, b, _, left, equal, _⟩
      rw [erased] at left
      split at left
      · contradiction
      · rename_i gone
        exact absurd (registered.distinct k m addr b known left
          (BitVec.toInt_inj.mp (here.1.trans equal.symm))) gone
    · rename_i kept
      rw [copy.entries id info other]
      constructor
      · rintro ⟨l, a, apart, there, same, rfl⟩
        refine ⟨l, a, apart, ?_, same, rfl⟩
        rw [erased, if_neg]
        · exact there
        · rintro rfl
          obtain rfl := Option.some.inj (known.symm.trans there)
          exact kept ⟨same, (copy.entries id _ other).mpr ⟨k, addr, apart, known, same, rfl⟩⟩
      · rintro ⟨l, a, apart, there, facts⟩
        rw [erased] at there
        split at there
        · contradiction
        · exact ⟨l, a, apart, there, facts⟩
  · intro a there
    rw [erased] at there
    split at there
    · contradiction
    · exact copy.myServerId a there

end

end LaluneServer.Control
