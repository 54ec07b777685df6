import LaluneServer.NetLibPlus.Registry
import Mathlib.Data.List.Induction
import Mathlib.Data.List.Nodup

/- The delegates of NetLibPlus and the order in which they and the addresses of the servers
   arrive. A client keeps the delegate and the flags that it was started with. -/
namespace LaluneServer.NetLibPlus

open Std (TreeMap TreeSet)
open InverseIndex

variable {Delegate : Type*}

structure DelegateAndFlag (Delegate : Type*) where
  delegateptr : Option Delegate := none
  flags : BitVec 64 := 0

structure StartedClient (Delegate : Type*) where
  delegate : Delegate
  address : ClientAddress
  flags : BitVec 64
  deriving DecidableEq, Repr

structure Library (Delegate : Type*) where
  clientsShutdown : Bool := false
  globalDelegateInfo : DelegateAndFlag Delegate := {}
  initInfo : TreeMap Int (DelegateAndFlag Delegate) := ∅
  clients : TreeMap Int (StartedClient Delegate) := ∅
  serverinfos : TreeMap Int ServerInfo := ∅
  serveridGroupbyType : TreeMap Int (TreeSet Int) := ∅

namespace Library
variable (lib : Library Delegate)

def selectDelegateAndFlag (serverType : Int) : DelegateAndFlag Delegate :=
  match lib.initInfo[serverType]? with
  | some found => found
  | none => lib.globalDelegateInfo

def tryStartAClient (info : ServerInfo) : Library Delegate :=
  let toUse := lib.selectDelegateAndFlag info.serverType
  match toUse.delegateptr with
  | some delegate =>
    { lib with
      clients := lib.clients.insert info.serverId ⟨delegate, ⟨info.ip, info.port⟩, toUse.flags⟩ }
  | none => lib

def putInfo (info : ServerInfo) : Library Delegate :=
  { lib with serverinfos := lib.serverinfos.insert info.serverId info }.tryStartAClient info

def updateInfo (info : ServerInfo) : Library Delegate :=
  match lib.serverinfos[info.serverId]? with
  | some known =>
    if known.ip ≠ info.ip ∨ known.port ≠ info.port ∨ known.serverType ≠ info.serverType then
      lib.putInfo info
    else lib
  | none => lib.putInfo info

def changeGroup (serverType serverId : Int) : Library Delegate :=
  { lib with
    serveridGroupbyType := lib.serveridGroupbyType.insert serverType
      ((lib.serveridGroupbyType[serverType]?.getD ∅).insert serverId) }

def updateServerInfo (info : ServerInfo) : Library Delegate :=
  if lib.clientsShutdown then lib
  else (lib.updateInfo info).changeGroup info.serverType info.serverId

/-- `NetLibPlus_InitializeClients(d, flags)`; a global delegate that is set stays. -/
def initializeClients (d : Delegate) (flags : BitVec 64) : Library Delegate :=
  if lib.clientsShutdown then lib
  else
    match lib.globalDelegateInfo.delegateptr with
    | some _ => lib
    | none => { lib with globalDelegateInfo := ⟨some d, flags⟩ }

def initializeClientsOfType (serverType : Int) (d : Delegate) (flags : BitVec 64) :
    Library Delegate :=
  if lib.clientsShutdown then lib
  else
    match lib.initInfo[serverType]? with
    | some _ => lib
    | none => { lib with initInfo := lib.initInfo.insert serverType ⟨some d, flags⟩ }

end Library

inductive Call (Delegate : Type*) where
  | initializeClients (d : Delegate) (flags : BitVec 64)
  | initializeClientsOfType (serverType : Int) (d : Delegate) (flags : BitVec 64)
  | updateServerInfo (info : ServerInfo)
  deriving DecidableEq, Repr

namespace Library

def perform (lib : Library Delegate) : Call Delegate → Library Delegate
  | .initializeClients d flags => lib.initializeClients d flags
  | .initializeClientsOfType serverType d flags => lib.initializeClientsOfType serverType d flags
  | .updateServerInfo info => lib.updateServerInfo info

def run (calls : List (Call Delegate)) : Library Delegate := calls.foldl perform {}

structure Shows (delegate : Int → Bool) (lib : Library Delegate) (registry : Registry) :
    Prop where
  delegates : ∀ t, delegate t = (lib.selectDelegateAndFlag t).delegateptr.isSome
  shutdown : registry.clientsShutdown = lib.clientsShutdown
  clients : ∀ id : Int, registry.clients[id]? = lib.clients[id]?.map StartedClient.address
  serverinfos : registry.serverinfos = lib.serverinfos
  groups : registry.serveridGroupbyType = lib.serveridGroupbyType

end Library

namespace Call

inductive Subject
  | globalDelegate
  | delegateOf (serverType : Int)
  | addressOf (serverId : Int)
  deriving DecidableEq, Repr

def subject : Call Delegate → Subject
  | .initializeClients .. => .globalDelegate
  | .initializeClientsOfType serverType .. => .delegateOf serverType
  | .updateServerInfo info => .addressOf info.serverId

def globalDelegate : Call Delegate → Option (Delegate × BitVec 64)
  | .initializeClients d flags => some (d, flags)
  | _ => none

def typedDelegate (serverType : Int) : Call Delegate → Option (Delegate × BitVec 64)
  | .initializeClientsOfType t d flags => if t = serverType then some (d, flags) else none
  | _ => none

def addressOf (serverId : Int) : Call Delegate → Option ServerInfo
  | .updateServerInfo info => if info.serverId = serverId then some info else none
  | _ => none

def isUpdate : Call Delegate → Bool
  | .updateServerInfo _ => true
  | _ => false

end Call

section specification
variable (calls others : List (Call Delegate))

def delegateFor (serverType : Int) : Option (Delegate × BitVec 64) :=
  (calls.findSome? (Call.typedDelegate serverType)).or (calls.findSome? Call.globalDelegate)

def startedFor (info : ServerInfo) (delegate : Delegate × BitVec 64) : StartedClient Delegate :=
  ⟨delegate.1, ⟨info.ip, info.port⟩, delegate.2⟩

def expectedClient (serverId : Int) : Option (StartedClient Delegate) :=
  (calls.findSome? (Call.addressOf serverId)).bind fun info =>
    (delegateFor calls info.serverType).map (startedFor info)

/-- At most one global delegate, one delegate for each type and one update for each id. -/
def OneOfEach : Prop := (calls.map Call.subject).Nodup

/-- Two interleavings of the same calls that keep the relative order of the updates. -/
structure Interleavings : Prop where
  perm : calls.Perm others
  updates : calls.filter Call.isUpdate = others.filter Call.isUpdate

def HasExpectedClients : Prop :=
  ∀ id : Int, (Library.run calls).clients[id]? = expectedClient calls id

def OrderDoesNotMatter : Prop :=
  (∀ id : Int, (Library.run calls).clients[id]? = (Library.run others).clients[id]?) ∧
    HasExpectedClients calls ∧ HasExpectedClients others

def DelegatesFirst : Prop :=
  ∀ before info after, calls = before ++ .updateServerInfo info :: after →
    delegateFor before info.serverType = delegateFor calls info.serverType

end specification

instance [DecidableEq Delegate] (calls : List (Call Delegate)) : Decidable (OneOfEach calls) :=
  inferInstanceAs (Decidable (List.Nodup _))

instance [DecidableEq Delegate] (calls others : List (Call Delegate)) :
    Decidable (Interleavings calls others) :=
  decidable_of_iff (calls.Perm others ∧ calls.filter Call.isUpdate = others.filter Call.isUpdate)
    ⟨fun both => ⟨both.1, both.2⟩, fun both => ⟨both.perm, both.updates⟩⟩

namespace Library

section frame
variable (lib : Library Delegate) (c : Call Delegate)

theorem initializeClients_sets (d : Delegate) (flags : BitVec 64) :
    ∃ info, lib.initializeClients d flags = { lib with globalDelegateInfo := info } := by
  unfold initializeClients
  split
  · exact ⟨_, rfl⟩
  · split
    · exact ⟨_, rfl⟩
    · exact ⟨_, rfl⟩

theorem initializeClientsOfType_sets (serverType : Int) (d : Delegate) (flags : BitVec 64) :
    ∃ info, lib.initializeClientsOfType serverType d flags = { lib with initInfo := info } := by
  unfold initializeClientsOfType
  split
  · exact ⟨_, rfl⟩
  · split
    · exact ⟨_, rfl⟩
    · exact ⟨_, rfl⟩

theorem tryStart_sets (info : ServerInfo) :
    ∃ clients, lib.tryStartAClient info = { lib with clients := clients } ∧
      ∀ id, info.serverId ≠ id → clients[id]? = lib.clients[id]? := by
  cases given : (lib.selectDelegateAndFlag info.serverType).delegateptr with
  | none => exact ⟨lib.clients, by simp only [tryStartAClient, given], fun _ _ => rfl⟩
  | some delegate =>
    simp only [tryStartAClient, given]
    refine ⟨_, rfl, fun id apart => ?_⟩
    rw [find_insert, if_neg apart]

theorem putInfo_sets (info : ServerInfo) :
    ∃ clients infos, lib.putInfo info = { lib with clients := clients, serverinfos := infos } ∧
      ∀ id, info.serverId ≠ id →
        clients[id]? = lib.clients[id]? ∧ infos[id]? = lib.serverinfos[id]? := by
  obtain ⟨clients, started, apart⟩ :=
    tryStart_sets { lib with serverinfos := lib.serverinfos.insert info.serverId info } info
  refine ⟨clients, _, started, fun id other => ⟨apart id other, ?_⟩⟩
  rw [find_insert, if_neg other]

theorem updateServerInfo_sets (info : ServerInfo) :
    ∃ clients infos groups, lib.updateServerInfo info =
        { lib with clients := clients, serverinfos := infos, serveridGroupbyType := groups } ∧
      ∀ id, info.serverId ≠ id →
        clients[id]? = lib.clients[id]? ∧ infos[id]? = lib.serverinfos[id]? := by
  obtain ⟨clients, infos, put, apart⟩ := putInfo_sets lib info
  unfold updateServerInfo updateInfo
  split
  · exact ⟨_, _, _, rfl, fun _ _ => ⟨rfl, rfl⟩⟩
  · split
    · split
      · exact ⟨clients, infos, _, by rw [put, changeGroup], apart⟩
      · exact ⟨_, _, _, rfl, fun _ _ => ⟨rfl, rfl⟩⟩
    · exact ⟨clients, infos, _, by rw [put, changeGroup], apart⟩

theorem perform_shutdown : (lib.perform c).clientsShutdown = lib.clientsShutdown := by
  cases c with
  | initializeClients d flags =>
    obtain ⟨_, sets⟩ := initializeClients_sets lib d flags
    rw [perform, sets]
  | initializeClientsOfType serverType d flags =>
    obtain ⟨_, sets⟩ := initializeClientsOfType_sets lib serverType d flags
    rw [perform, sets]
  | updateServerInfo info =>
    obtain ⟨_, _, _, sets, _⟩ := updateServerInfo_sets lib info
    rw [perform, sets]

theorem perform_elsewhere {id : Int} (apart : c.subject ≠ .addressOf id) :
    (lib.perform c).clients[id]? = lib.clients[id]? ∧
      (lib.perform c).serverinfos[id]? = lib.serverinfos[id]? := by
  cases c with
  | initializeClients d flags =>
    obtain ⟨_, sets⟩ := initializeClients_sets lib d flags
    rw [perform, sets]
    exact ⟨rfl, rfl⟩
  | initializeClientsOfType serverType d flags =>
    obtain ⟨_, sets⟩ := initializeClientsOfType_sets lib serverType d flags
    rw [perform, sets]
    exact ⟨rfl, rfl⟩
  | updateServerInfo info =>
    obtain ⟨_, _, _, sets, elsewhere⟩ := updateServerInfo_sets lib info
    rw [perform, sets]
    exact elsewhere id (fun same => apart (congrArg Call.Subject.addressOf same))

end frame

section runs
variable {calls : List (Call Delegate)}

theorem foldl_elsewhere {id : Int} (lib : Library Delegate)
    (apart : ∀ c ∈ calls, c.subject ≠ .addressOf id) :
    (calls.foldl perform lib).clients[id]? = lib.clients[id]? ∧
      (calls.foldl perform lib).serverinfos[id]? = lib.serverinfos[id]? := by
  induction calls generalizing lib with
  | nil => exact ⟨rfl, rfl⟩
  | cons c rest ih =>
    obtain ⟨client, info⟩ := perform_elsewhere lib c (apart c List.mem_cons_self)
    obtain ⟨clientLater, infoLater⟩ :=
      ih (lib.perform c) (fun c member => apart c (List.mem_cons_of_mem _ member))
    exact ⟨clientLater.trans client, infoLater.trans info⟩

theorem run_append (before after : List (Call Delegate)) :
    run (before ++ after) = after.foldl perform (run before) := by
  unfold run
  rw [List.foldl_append]

theorem run_snoc (before : List (Call Delegate)) (c : Call Delegate) :
    run (before ++ [c]) = (run before).perform c := by
  rw [run_append]
  rfl

theorem run_shutdown (calls : List (Call Delegate)) : (run calls).clientsShutdown = false := by
  induction calls using List.reverseRecOn with
  | nil => rfl
  | append_singleton before c ih => rw [run_snoc, perform_shutdown, ih]

def chosen (lib : Library Delegate) (serverType : Int) : Option (Delegate × BitVec 64) :=
  let toUse := lib.selectDelegateAndFlag serverType
  toUse.delegateptr.map (fun d => (d, toUse.flags))

/-- The first call for a type and the first global one are those that count. -/
theorem run_delegates (calls : List (Call Delegate)) :
    (∀ t : Int, (run calls).initInfo[t]? =
      (calls.findSome? (Call.typedDelegate t)).map (fun given => ⟨some given.1, given.2⟩)) ∧
    (run calls).globalDelegateInfo.delegateptr.map
        (fun d => (d, (run calls).globalDelegateInfo.flags)) =
      calls.findSome? Call.globalDelegate := by
  induction calls using List.reverseRecOn with
  | nil => simp [run]
  | append_singleton before c ih =>
    obtain ⟨typed, shared⟩ := ih
    rw [run_snoc]
    cases c with
    | initializeClients d flags =>
      simp only [perform, initializeClients, run_shutdown, List.findSome?_append,
        List.findSome?_cons, List.findSome?_nil, Call.typedDelegate, Call.globalDelegate,
        Option.or_none]
      rw [← shared]
      cases held : (run before).globalDelegateInfo.delegateptr with
      | some other => simp [held, typed]
      | none => simp [typed]
    | initializeClientsOfType serverType d flags =>
      simp only [perform, initializeClientsOfType, run_shutdown, List.findSome?_append,
        List.findSome?_cons, List.findSome?_nil, Call.typedDelegate, Call.globalDelegate,
        Option.or_none]
      cases held : (run before).initInfo[serverType]? with
      | some other =>
        refine ⟨fun t => ?_, shared⟩
        by_cases same : serverType = t
        · subst same
          rw [typed] at held
          obtain ⟨given, first, _⟩ := Option.map_eq_some_iff.mp held
          simp [typed, first]
        · simp [typed, same]
      | none =>
        refine ⟨fun t => ?_, shared⟩
        simp only [Bool.false_eq_true, if_false, find_insert]
        by_cases same : serverType = t
        · subst same
          rw [typed, Option.map_eq_none_iff] at held
          simp [held]
        · simp [typed, same]
    | updateServerInfo info =>
      obtain ⟨_, _, _, sets, _⟩ := updateServerInfo_sets (run before) info
      simp only [perform, sets, List.findSome?_append, List.findSome?_cons,
        List.findSome?_nil, Call.typedDelegate, Call.globalDelegate, Option.or_none]
      exact ⟨typed, shared⟩

theorem chosen_run (calls : List (Call Delegate)) (serverType : Int) :
    (run calls).chosen serverType = delegateFor calls serverType := by
  obtain ⟨typed, shared⟩ := run_delegates calls
  unfold chosen selectDelegateAndFlag delegateFor
  cases given : calls.findSome? (Call.typedDelegate serverType) with
  | some delegate => simp [typed, given]
  | none => simp [typed, given, shared]

theorem client_of_first_update {lib : Library Delegate} {info : ServerInfo}
    (running : lib.clientsShutdown = false) (unknown : lib.serverinfos[info.serverId]? = none)
    (idle : lib.clients[info.serverId]? = none) :
    (lib.updateServerInfo info).clients[info.serverId]? =
      (lib.chosen info.serverType).map (startedFor info) := by
  simp only [updateServerInfo, running, Bool.false_eq_true, if_false, updateInfo, unknown,
    putInfo, changeGroup, tryStartAClient, chosen, selectDelegateAndFlag, Option.map_map]
  split
  · rename_i delegate chosen
    rw [find_insert, if_pos rfl, chosen]
    rfl
  · rename_i nobody
    rw [nobody, Option.map_none, idle]

end runs

section refinement
variable {delegate : Int → Bool} {lib : Library Delegate} {registry : Registry}

theorem tryStart_shows (shows : Shows delegate lib registry) (info : ServerInfo) :
    Shows delegate (lib.tryStartAClient info) (registry.tryStartAClient delegate info) := by
  have toUse := shows.delegates info.serverType
  unfold Registry.tryStartAClient
  cases given : (lib.selectDelegateAndFlag info.serverType).delegateptr with
  | none =>
    have same : lib.tryStartAClient info = lib := by simp only [tryStartAClient, given]
    rw [given] at toUse
    rw [same, if_neg (by simp [toUse])]
    exact shows
  | some d =>
    rw [given] at toUse
    rw [if_pos (by simp [toUse])]
    simp only [tryStartAClient, given]
    refine ⟨shows.delegates, shows.shutdown, fun id => ?_, shows.serverinfos, shows.groups⟩
    rw [find_insert, find_insert]
    split
    · rfl
    · exact shows.clients id

theorem putInfo_shows (shows : Shows delegate lib registry) (info : ServerInfo) :
    Shows delegate (lib.putInfo info) (registry.putInfo delegate info) := by
  have stored : Shows delegate
      { lib with serverinfos := lib.serverinfos.insert info.serverId info }
      { registry with serverinfos := registry.serverinfos.insert info.serverId info } := by
    refine ⟨shows.delegates, shows.shutdown, shows.clients, ?_, shows.groups⟩
    exact congrArg (fun infos => infos.insert info.serverId info) shows.serverinfos
  exact tryStart_shows stored info

theorem updateInfo_shows (shows : Shows delegate lib registry) (info : ServerInfo) :
    Shows delegate (lib.updateInfo info)
      (registry.updateInfo delegate info.serverId info.ip info.port info.serverType) := by
  have put := putInfo_shows shows info
  unfold updateInfo Registry.updateInfo
  rw [shows.serverinfos]
  cases lib.serverinfos[info.serverId]? with
  | none => exact put
  | some known =>
    dsimp only
    split
    · exact put
    · exact shows

theorem updateServerInfo_shows (shows : Shows delegate lib registry) (info : ServerInfo) :
    Shows delegate (lib.updateServerInfo info)
      (registry.updateServerInfo delegate info.serverId info.ip info.port info.serverType) := by
  unfold updateServerInfo Registry.updateServerInfo
  rw [shows.shutdown]
  split
  · exact shows
  · have moved := updateInfo_shows shows info
    refine ⟨moved.delegates, moved.shutdown, moved.clients, moved.serverinfos, ?_⟩
    simp only [changeGroup, Registry.changeGroup, moved.groups]

end refinement

end Library

section
variable {calls others : List (Call Delegate)}

theorem findSome?_perm {Found : Type*} {find : Call Delegate → Option Found}
    {subject : Call.Subject} (about : ∀ c, find c ≠ none → c.subject = subject)
    (once : OneOfEach calls) (perm : calls.Perm others) :
    calls.findSome? find = others.findSome? find := by
  induction perm with
  | nil => rfl
  | cons c _ ih =>
    have rest : OneOfEach _ := (List.nodup_cons.mp once).2
    rw [List.findSome?_cons, List.findSome?_cons, ih rest]
  | swap a b rest =>
    have apart : b.subject ≠ a.subject := by
      intro same
      exact (List.nodup_cons.mp once).1 (by simp [same])
    rw [List.findSome?_cons, List.findSome?_cons, List.findSome?_cons, List.findSome?_cons]
    cases first : find a with
    | none => rfl
    | some x =>
      cases second : find b with
      | none => rfl
      | some y =>
        exact absurd ((about b (by simp [second])).trans (about a (by simp [first])).symm) apart
  | trans one two ih ih' => exact (ih once).trans (ih' ((one.map _).nodup_iff.mp once))

theorem subject_of_global (c : Call Delegate) (found : c.globalDelegate ≠ none) :
    c.subject = .globalDelegate := by
  cases c with
  | initializeClients d flags => rfl
  | _ => exact absurd rfl found

theorem subject_of_typed {serverType : Int} (c : Call Delegate)
    (found : c.typedDelegate serverType ≠ none) : c.subject = .delegateOf serverType := by
  cases c with
  | initializeClientsOfType t d flags =>
    by_cases same : t = serverType
    · rw [Call.subject, same]
    · exact absurd (if_neg same) found
  | _ => exact absurd rfl found

theorem subject_of_address {serverId : Int} (c : Call Delegate)
    (found : c.addressOf serverId ≠ none) : c.subject = .addressOf serverId := by
  cases c with
  | updateServerInfo info =>
    by_cases same : info.serverId = serverId
    · rw [Call.subject, same]
    · exact absurd (if_neg same) found
  | _ => exact absurd rfl found

theorem delegateFor_perm (once : OneOfEach calls) (perm : calls.Perm others) (serverType : Int) :
    delegateFor calls serverType = delegateFor others serverType := by
  unfold delegateFor
  rw [findSome?_perm subject_of_typed once perm, findSome?_perm subject_of_global once perm]

theorem expectedClient_perm (once : OneOfEach calls) (perm : calls.Perm others) (serverId : Int) :
    expectedClient calls serverId = expectedClient others serverId := by
  unfold expectedClient
  rw [findSome?_perm subject_of_address once perm]
  simp only [delegateFor_perm once perm]

theorem apart_of_split {before after : List (Call Delegate)} {info : ServerInfo}
    (once : OneOfEach (before ++ .updateServerInfo info :: after)) :
    ∀ c ∈ before ++ after, c.subject ≠ .addressOf info.serverId := by
  intro c member same
  unfold OneOfEach at once
  rw [List.map_append, List.map_cons, List.nodup_middle, ← List.map_append] at once
  exact (List.nodup_cons.mp once).1 (List.mem_map.mpr ⟨c, member, same⟩)

theorem unaddressed {serverId : Int} (apart : ∀ c ∈ calls, c.subject ≠ .addressOf serverId) :
    calls.findSome? (Call.addressOf serverId) = none := by
  rw [List.findSome?_eq_none_iff]
  intro c member
  by_contra found
  exact apart c member (subject_of_address c found)

theorem client_of_split {before after : List (Call Delegate)} {info : ServerInfo}
    (once : OneOfEach (before ++ .updateServerInfo info :: after)) :
    (Library.run (before ++ .updateServerInfo info :: after)).clients[info.serverId]? =
      (delegateFor before info.serverType).map (startedFor info) := by
  have apart := apart_of_split once
  obtain ⟨idle, unknown⟩ := Library.foldl_elsewhere ({} : Library Delegate)
    (fun c member => apart c (List.mem_append_left _ member))
  have later := Library.foldl_elsewhere ((Library.run before).updateServerInfo info)
    (fun c member => apart c (List.mem_append_right _ member))
  rw [Library.run_append, List.foldl_cons]
  refine later.1.trans ?_
  rw [Library.client_of_first_update (Library.run_shutdown before) (unknown.trans (by simp))
    (idle.trans (by simp)), Library.chosen_run]

theorem expected_of_split {before after : List (Call Delegate)} {info : ServerInfo}
    (once : OneOfEach (before ++ .updateServerInfo info :: after)) :
    expectedClient (before ++ .updateServerInfo info :: after) info.serverId =
      (delegateFor (before ++ .updateServerInfo info :: after) info.serverType).map
        (startedFor info) := by
  have early := unaddressed
    (fun c member => apart_of_split once c (List.mem_append_left after member))
  have found : (before ++ .updateServerInfo info :: after).findSome?
      (Call.addressOf info.serverId) = some info := by
    rw [List.findSome?_append, early, List.findSome?_cons]
    simp [Call.addressOf]
  rw [expectedClient, found, Option.bind_some]

theorem startedFor_injective (info : ServerInfo) :
    Function.Injective (startedFor info : Delegate × BitVec 64 → StartedClient Delegate) := by
  rintro ⟨d, flags⟩ ⟨d', flags'⟩ same
  obtain ⟨first, -, second⟩ := StartedClient.mk.inj same
  exact Prod.ext first second

/-- One order of the calls starts the expected clients exactly when each address finds its
    delegate there. -/
theorem expected_iff_delegatesFirst (once : OneOfEach calls) :
    HasExpectedClients calls ↔ DelegatesFirst calls := by
  constructor
  · rintro right before info after rfl
    have same := right info.serverId
    rw [client_of_split once, expected_of_split once] at same
    exact Option.map_injective (startedFor_injective info) same
  · intro first id
    by_cases addressed : ∃ c ∈ calls, c.subject = .addressOf id
    · obtain ⟨c, member, about⟩ := addressed
      cases c with
      | updateServerInfo info =>
        obtain rfl : info.serverId = id := Call.Subject.addressOf.inj about
        obtain ⟨before, after, rfl⟩ := List.append_of_mem member
        rw [client_of_split once, expected_of_split once, first before info after rfl]
      | _ => cases about
    · have apart : ∀ c ∈ calls, c.subject ≠ .addressOf id :=
        fun c member about => addressed ⟨c, member, about⟩
      have none_started := (Library.foldl_elsewhere ({} : Library Delegate) apart).1
      rw [expectedClient, unaddressed apart]
      exact none_started.trans (by simp)

def earlyAndLate : List (Call Nat) :=
  [.initializeClientsOfType 1 10 0, .updateServerInfo ⟨1, 80, 1, 0⟩,
    .initializeClients 20 0, .updateServerInfo ⟨2, 81, 2, 7⟩]

def delegatesThenAddresses : List (Call Nat) :=
  [.initializeClients 20 0, .initializeClientsOfType 1 10 0,
    .updateServerInfo ⟨1, 80, 1, 0⟩, .updateServerInfo ⟨2, 81, 2, 7⟩]

end

end LaluneServer.NetLibPlus
