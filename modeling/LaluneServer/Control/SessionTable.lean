import LaluneServer.Control.Registry
import LaluneServer.Control.Timeouts
import LaluneServer.Control.ConfigServer

/- The sessions of servers, by address, and what they are told. The NetLib server reports a
   disconnect through DisconnectedHandler(session, error, inner_error_code). That of
   ControlServerSessionDelegate has one parameter and does not override it, so the empty one
   of NetLib runs. -/
namespace LaluneServer.Control

open Std (TreeMap TreeSet)
open Transition InverseIndex ServerCommon

/-- The control server with its sessions, the Hellos it has handled, the newest first, and
    the server type in the latest Hello of a session. -/
structure SessionWorld where
  control : ControlServer
  connected : List Session := []
  reported : List Session := []
  hellos : List (Session × IPPort) := []
  serverTypes : Session → BitVec 32 := fun _ => 0

inductive SessionEvent
  | connected (session : Session)
  | sayHello (session : Session) (hello : Hello)
  | disconnected (session : Session)
  | keepAlive (session : Session)
  | serverTimeout (ipPort : IPPort)
  | startupTimer
  deriving DecidableEq, Repr

namespace SessionWorld
variable (remoteIp : Session → BitVec 32) (w : SessionWorld)

def initialized (serverTypeMax : Nat) : SessionWorld :=
  { control := ControlServer.initialized serverTypeMax }

/-- The session has connected, and no disconnect of it has been reported. -/
def live (session : Session) : Prop := session ∈ w.connected ∧ session ∉ w.reported

instance (session : Session) : Decidable (w.live session) := inferInstanceAs (Decidable (_ ∧ _))

def named (session : Session) (hello : Hello) : IPPort :=
  (remoteIp session, Int32.ofBitVec hello.myListeningPort)

def disconnectedHandler (control : ControlServer) (_ : Session) : ControlServer := control

def step : SessionEvent → Option SessionWorld
  | .connected session =>
    if session ∈ w.connected then none else some { w with connected := session :: w.connected }
  | .sayHello session hello =>
    if w.live session then
      some { w with
        control := (w.control.sayHello session (remoteIp session) hello).1
        hellos := (session, named remoteIp session hello) :: w.hellos
        serverTypes := Function.update w.serverTypes session hello.serverType }
    else none
  | .disconnected session =>
    if w.live session then
      some { w with
        control := disconnectedHandler w.control session
        reported := session :: w.reported }
    else none
  | .keepAlive session =>
    if w.live session then some { w with control := (w.control.react (.keepAlive session)).1 }
    else none
  | .serverTimeout ipPort =>
    some { w with control := (w.control.react (.serverTimeout ipPort)).1 }
  | .startupTimer => some { w with control := (w.control.react .startupTimer).1 }

/-- A session whose disconnect has not been reported, whose latest Hello named the address,
    and no other live session sent a later Hello naming it. -/
def Current (ipPort : IPPort) (session : Session) : Prop :=
  session ∉ w.reported ∧ ∃ later earlier, w.hellos = later ++ (session, ipPort) :: earlier ∧
    (∀ hello ∈ later, hello.1 ≠ session) ∧
      ∀ hello ∈ later, hello.2 = ipPort → hello.1 ∈ w.reported

def SessionTable : Prop :=
  ∀ (ipPort : IPPort) (session : Session),
    w.control.server2session[ipPort]? = some session ↔ w.Current ipPort session

def Broadcasts : Prop :=
  ∀ (message : Message) (session : Session),
    ⟨session, message⟩ ∈ w.control.informAddressInfo message ↔ ∃ ipPort, w.Current ipPort session

def ConfigPushes : Prop :=
  ∀ (serverType : Int) (rc : RefreshConfig) (session : Session),
    ⟨session, .refreshConfig rc⟩ ∈ w.control.sendConfigToServerGroup serverType rc ↔
      ∃ ipPort, w.Current ipPort session ∧ (w.serverTypes session).toInt = serverType

def leavesNothing : SessionEvent → Prop
  | .sayHello session hello => ∀ entry ∈ w.control.server2session.toList, entry.2 = session →
      entry.1 = named remoteIp session hello
  | .disconnected session => ∀ entry ∈ w.control.server2session.toList, entry.2 ≠ session
  | _ => True

instance : ∀ e, Decidable (w.leavesNothing remoteIp e)
  | .connected _ => inferInstanceAs (Decidable True)
  | .sayHello .. => inferInstanceAs (Decidable (∀ _ ∈ _, _ → _))
  | .disconnected _ => inferInstanceAs (Decidable (∀ _ ∈ _, _))
  | .keepAlive _ => inferInstanceAs (Decidable True)
  | .serverTimeout _ => inferInstanceAs (Decidable True)
  | .startupTimer => inferInstanceAs (Decidable True)

/-- A Hello names a type that has a group, and its server is registered under that type or
    becomes so. No server whose address leads to a session times out. -/
def keepsPushed : SessionEvent → Prop
  | .sayHello session hello => hello.serverType.toInt ∈ w.control.serverGroups ∧
      (∀ addr ∈ w.control.serversInfo[named remoteIp session hello]?,
        addr.serverType = hello.serverType) ∧
      (named remoteIp session hello ∉ w.control.serversInfo → hello.isServerStart = 1)
  | .serverTimeout ipPort => ipPort ∈ w.control.serversInfo → ipPort ∉ w.control.server2session
  | _ => True

instance : ∀ e, Decidable (w.keepsPushed remoteIp e)
  | .sayHello .. => inferInstanceAs (Decidable (_ ∧ (∀ _ ∈ _, _) ∧ (_ → _)))
  | .serverTimeout _ => inferInstanceAs (Decidable (_ → _))
  | .connected _ | .disconnected _ | .keepAlive _ | .startupTimer =>
    inferInstanceAs (Decidable True)

def keepsRight (e : SessionEvent) : Prop := w.leavesNothing remoteIp e ∧ w.keepsPushed remoteIp e

instance (e : SessionEvent) : Decidable (w.keepsRight remoteIp e) :=
  inferInstanceAs (Decidable (_ ∧ _))

def LastNamed : Prop :=
  ∀ ipPort : IPPort, w.control.server2session[ipPort]? =
    (w.hellos.find? (fun hello => hello.2 = ipPort)).map Prod.fst

def Enrolled : Prop :=
  ∀ (ipPort : IPPort) (session : Session), w.control.server2session[ipPort]? = some session →
    (w.serverTypes session).toInt ∈ w.control.serverGroups ∧
      ∃ addr, w.control.serversInfo[ipPort]? = some addr ∧ addr.serverType = w.serverTypes session

end SessionWorld

section control
variable (control : ControlServer) (session : Session) (remoteIp : BitVec 32) (hello : Hello)

theorem helloStarted_server2session (ipPort : IPPort) (serverType : BitVec 32) :
    (control.helloStarted session ipPort serverType).1.server2session =
      control.server2session := by
  unfold ControlServer.helloStarted
  split
  · rfl
  · rfl

theorem sayHello_server2session :
    (control.sayHello session remoteIp hello).1.server2session =
      control.server2session.insert (remoteIp, Int32.ofBitVec hello.myListeningPort) session := by
  unfold ControlServer.sayHello
  dsimp only
  split
  · rw [helloStarted_server2session]
    rfl
  · rfl

theorem serverTimeout_server2session (ipPort : IPPort) :
    (control.serverTimeout ipPort).1.server2session = control.server2session := by
  unfold ControlServer.serverTimeout
  split
  · rfl
  · rfl

variable {control}

theorem mem_sendConfigToServerGroup (exact : ControlServer.GroupsExact control) (serverType : Int)
    (rc : RefreshConfig) : ⟨session, .refreshConfig rc⟩ ∈
        control.sendConfigToServerGroup serverType rc ↔
      serverType ∈ control.serverGroups ∧ ∃ (ipPort : IPPort) (addr : AddressInfo),
        control.serversInfo[ipPort]? = some addr ∧ addr.serverType.toInt = serverType ∧
          control.server2session[ipPort]? = some session := by
  unfold ControlServer.sendConfigToServerGroup ControlServer.toServerGroup
  cases found : control.serverGroups[serverType]? with
  | none =>
    refine iff_of_false List.not_mem_nil ?_
    rintro ⟨present, _⟩
    rw [TreeMap.mem_iff_isSome_getElem?, found] at present
    contradiction
  | some group =>
    have present : serverType ∈ control.serverGroups := by
      rw [TreeMap.mem_iff_isSome_getElem?, found]
      rfl
    simp only [List.mem_filterMap, Option.map_eq_some_iff, Answer.mk.injEq, and_true,
      exists_eq_right, TreeSet.mem_toList, exact serverType group found]
    constructor
    · rintro ⟨ipPort, ⟨addr, known, type⟩, leads⟩
      exact ⟨present, ipPort, addr, known, type, leads⟩
    · rintro ⟨_, ipPort, addr, known, type, leads⟩
      exact ⟨ipPort, ⟨addr, known, type⟩, leads⟩

theorem sayHello_serversInfo_other {ipPort : IPPort}
    (apart : (remoteIp, Int32.ofBitVec hello.myListeningPort) ≠ ipPort) :
    (control.sayHello session remoteIp hello).1.serversInfo[ipPort]? =
      control.serversInfo[ipPort]? := by
  unfold ControlServer.sayHello
  dsimp only
  split
  · unfold ControlServer.helloStarted
    split
    · rename_i free
      simp only [ControlServer.helloNew, ControlServer.addServer, find_insertIfNew_of_free free,
        if_neg apart]
      rfl
    · rfl
  · rfl

theorem sayHello_serversInfo :
    (∃ addr, (control.sayHello session remoteIp hello).1.serversInfo[((remoteIp,
        Int32.ofBitVec hello.myListeningPort) : IPPort)]? = some addr ∧
      addr.serverType = hello.serverType) ↔
    (∀ addr ∈ control.serversInfo[((remoteIp, Int32.ofBitVec hello.myListeningPort) : IPPort)]?,
      addr.serverType = hello.serverType) ∧
    ((remoteIp, Int32.ofBitVec hello.myListeningPort) ∉ control.serversInfo →
      hello.isServerStart = 1) := by
  rw [TreeMap.mem_iff_isSome_getElem?]
  unfold ControlServer.sayHello
  dsimp only
  generalize ((remoteIp, Int32.ofBitVec hello.myListeningPort) : IPPort) = ipPort
  have attached : (control.attach session ipPort).serversInfo = control.serversInfo := rfl
  cases found : control.serversInfo[ipPort]? with
  | none =>
    by_cases started : hello.isServerStart = 1
    · rw [if_pos started]
      unfold ControlServer.helloStarted
      rw [attached, found]
      simp only [ControlServer.helloNew, ControlServer.addServer, attached,
        find_insertIfNew_of_free found, if_pos]
      simp [started]
    · rw [if_neg started, attached, found]
      simpa using started
  | some addr =>
    have kept : (if hello.isServerStart = 1 then
        ((control.attach session ipPort).helloStarted session ipPort hello.serverType).1
        else control.attach session ipPort).serversInfo[ipPort]? = some addr := by
      unfold ControlServer.helloStarted
      rw [attached, found]
      split
      · exact found
      · exact found
    split
    · rename_i started
      rw [if_pos started] at kept
      simp [kept]
    · rename_i other
      rw [if_neg other] at kept
      simp [kept]

end control

namespace SessionWorld
variable {remoteIp : Session → BitVec 32} {w t : SessionWorld} {e : SessionEvent}
variable {ipPort : IPPort} {session s : Session}

theorem current_cons_self (fresh : session ∉ w.reported) {hellos : List (Session × IPPort)}
    (same : w.hellos = (session, ipPort) :: hellos) (k : IPPort) :
    w.Current k session ↔ k = ipPort := by
  constructor
  · rintro ⟨_, later, earlier, split, others, _⟩
    rw [same] at split
    cases later with
    | nil =>
      rw [List.nil_append, List.cons.injEq, Prod.mk.injEq] at split
      exact split.1.2.symm
    | cons first more =>
      rw [List.cons_append, List.cons.injEq] at split
      exact absurd (congrArg Prod.fst split.1).symm (others first List.mem_cons_self)
  · rintro rfl
    exact ⟨fresh, [], hellos, same, by simp, by simp⟩

/-- A Hello of another session matters only for the address that it names. -/
theorem current_cons_other {u : SessionWorld} (apart : s ≠ session)
    (same : u.hellos = (session, ipPort) :: w.hellos) (reported : u.reported = w.reported)
    (fresh : session ∉ w.reported) (k : IPPort) :
    u.Current k s ↔ k ≠ ipPort ∧ w.Current k s := by
  constructor
  · rintro ⟨unreported, later, earlier, split, others, overridden⟩
    rw [same] at split
    rw [reported] at unreported overridden
    cases later with
    | nil =>
      rw [List.nil_append, List.cons.injEq, Prod.mk.injEq] at split
      exact absurd split.1.1.symm apart
    | cons first more =>
      rw [List.cons_append, List.cons.injEq] at split
      obtain ⟨head, rest⟩ := split
      subst head
      refine ⟨?_, unreported, more, earlier, rest, ?_, ?_⟩
      · rintro rfl
        exact fresh (overridden _ List.mem_cons_self rfl)
      · intro hello member
        exact others hello (List.mem_cons_of_mem _ member)
      · intro hello member
        exact overridden hello (List.mem_cons_of_mem _ member)
  · rintro ⟨elsewhere, unreported, later, earlier, split, others, overridden⟩
    rw [← reported] at unreported overridden
    refine ⟨unreported, (session, ipPort) :: later, earlier, ?_, ?_, ?_⟩
    · rw [same, split, List.cons_append]
    · intro hello member
      rcases List.mem_cons.mp member with rfl | old
      · exact apart.symm
      · exact others hello old
    · intro hello member names
      rcases List.mem_cons.mp member with rfl | old
      · exact absurd names.symm elsewhere
      · exact overridden hello old names

theorem table_sayHello (table : w.SessionTable) (fresh : session ∉ w.reported) (hello : Hello)
    {u : SessionWorld}
    (updated : u.control.server2session =
      w.control.server2session.insert (named remoteIp session hello) session)
    (hellos : u.hellos = (session, named remoteIp session hello) :: w.hellos)
    (reported : u.reported = w.reported) :
    u.SessionTable ↔ w.leavesNothing remoteIp (.sayHello session hello) := by
  have unreported : session ∉ u.reported := reported ▸ fresh
  constructor
  · rintro right ⟨k, s⟩ member rfl
    by_contra elsewhere
    have held := TreeMap.mem_toList_iff_getElem?_eq_some.mp member
    refine elsewhere ((current_cons_self unreported hellos k).mp ((right k s).mp ?_))
    rw [updated, find_insert, if_neg (Ne.symm elsewhere)]
    exact held
  · intro nothing k s
    rw [updated, find_insert]
    by_cases here : named remoteIp session hello = k
    · rw [if_pos here, Option.some.injEq]
      constructor
      · rintro rfl
        exact (current_cons_self unreported hellos k).mpr here.symm
      · intro current
        by_contra apart
        exact ((current_cons_other (Ne.symm apart) hellos reported fresh k).mp current).1 here.symm
    · rw [if_neg here]
      by_cases same : s = session
      · subst same
        refine iff_of_false ?_ ?_
        · intro held
          exact here (nothing (k, s) (TreeMap.mem_toList_iff_getElem?_eq_some.mpr held) rfl).symm
        · intro current
          exact here ((current_cons_self unreported hellos k).mp current).symm
      · rw [current_cons_other same hellos reported fresh k, table k s]
        exact ⟨fun current => ⟨Ne.symm here, current⟩, fun both => both.2⟩

theorem table_disconnected (table : w.SessionTable) (last : w.LastNamed) {u : SessionWorld}
    (same : u.control.server2session = w.control.server2session) (hellos : u.hellos = w.hellos)
    (reported : u.reported = session :: w.reported) :
    u.SessionTable ↔ w.leavesNothing remoteIp (.disconnected session) := by
  constructor
  · rintro right ⟨k, s⟩ member rfl
    have held := TreeMap.mem_toList_iff_getElem?_eq_some.mp member
    rw [← same] at held
    obtain ⟨unreported, _⟩ := (right k s).mp held
    rw [reported] at unreported
    exact unreported List.mem_cons_self
  · intro nothing k s
    rw [same]
    constructor
    · intro held
      have apart : s ≠ session := nothing (k, s) (TreeMap.mem_toList_iff_getElem?_eq_some.mpr held)
      obtain ⟨unreported, later, earlier, split, others, overridden⟩ := (table k s).mp held
      refine ⟨?_, later, earlier, hellos.trans split, others, ?_⟩
      · rw [reported, List.mem_cons, not_or]
        exact ⟨apart, unreported⟩
      · intro hello member names
        rw [reported]
        exact List.mem_cons_of_mem _ (overridden hello member names)
    · rintro ⟨unreported, later, earlier, split, others, overridden⟩
      rw [hellos] at split
      rw [reported] at unreported overridden
      -- The last Hello that names the address is that of the session in the table, which
      -- is live also after the disconnect.
      have newest := last k
      rw [split, List.find?_append] at newest
      cases found : later.find? (fun hello => hello.2 = k) with
      | none =>
        rw [found] at newest
        simpa using newest
      | some hello =>
        rw [found] at newest
        have held : w.control.server2session[k]? = some hello.1 := by simpa using newest
        have member := List.mem_of_find?_eq_some found
        have names : hello.2 = k := by simpa using List.find?_some found
        have apart := nothing (k, hello.1) (TreeMap.mem_toList_iff_getElem?_eq_some.mpr held)
        rcases List.mem_cons.mp (overridden hello member names) with gone | before
        · exact absurd gone apart
        · exact absurd before ((table k hello.1).mp held).1

theorem lastNamed_cons (last : w.LastNamed) {u : SessionWorld}
    (updated : u.control.server2session = w.control.server2session.insert ipPort session)
    (hellos : u.hellos = (session, ipPort) :: w.hellos) : u.LastNamed := by
  intro k
  rw [updated, hellos, find_insert, List.find?_cons]
  by_cases here : ipPort = k
  · simp [here]
  · simp only [here, ↓reduceIte, decide_false]
    exact last k

theorem table_of_same {u : SessionWorld}
    (same : u.control.server2session = w.control.server2session) (hellos : u.hellos = w.hellos)
    (reported : u.reported = w.reported) : u.SessionTable ↔ w.SessionTable := by
  unfold SessionTable Current
  rw [same, hellos, reported]

theorem lastNamed_of_same (last : w.LastNamed) {u : SessionWorld}
    (same : u.control.server2session = w.control.server2session) (hellos : u.hellos = w.hellos) :
    u.LastNamed := by
  unfold LastNamed
  rw [same, hellos]
  exact last

theorem table_step (table : w.SessionTable) (last : w.LastNamed)
    (moved : w.step remoteIp e = some t) :
    (t.SessionTable ↔ w.leavesNothing remoteIp e) ∧ t.LastNamed := by
  have quiet {u : SessionWorld} (same : u.control.server2session = w.control.server2session)
      (hellos : u.hellos = w.hellos) (reported : u.reported = w.reported)
      (trivially : w.leavesNothing remoteIp e) :
      (u.SessionTable ↔ w.leavesNothing remoteIp e) ∧ u.LastNamed :=
    ⟨iff_of_true ((table_of_same same hellos reported).mpr table) trivially,
      lastNamed_of_same last same hellos⟩
  cases e with
  | connected session =>
    simp only [step, Option.ite_none_left_eq_some, Option.some.injEq] at moved
    obtain ⟨_, rfl⟩ := moved
    exact quiet rfl rfl rfl trivial
  | sayHello session hello =>
    simp only [step, Option.ite_none_right_eq_some, Option.some.injEq] at moved
    obtain ⟨live, rfl⟩ := moved
    have updated := sayHello_server2session w.control session (remoteIp session) hello
    exact ⟨table_sayHello table live.2 hello updated rfl rfl, lastNamed_cons last updated rfl⟩
  | disconnected session =>
    simp only [step, Option.ite_none_right_eq_some, Option.some.injEq] at moved
    obtain ⟨_, rfl⟩ := moved
    exact ⟨table_disconnected table last rfl rfl rfl, lastNamed_of_same last rfl rfl⟩
  | keepAlive session =>
    simp only [step, Option.ite_none_right_eq_some, Option.some.injEq] at moved
    obtain ⟨_, rfl⟩ := moved
    exact quiet rfl rfl rfl trivial
  | serverTimeout ipPort =>
    cases moved
    exact quiet (serverTimeout_server2session w.control ipPort) rfl rfl trivial
  | startupTimer =>
    cases moved
    exact quiet rfl rfl rfl trivial

theorem empty_at_start (serverTypeMax : Nat) (k : IPPort) :
    (initialized serverTypeMax).control.server2session[k]? = none := by
  simp [initialized, ControlServer.initialized]

theorem SessionTable.broadcasts (table : w.SessionTable) : w.Broadcasts := by
  intro message session
  unfold ControlServer.informAddressInfo
  simp only [List.mem_map, Reply.mk.injEq, and_true]
  constructor
  · rintro ⟨⟨k, s⟩, member, rfl⟩
    exact ⟨k, (table k s).mp (TreeMap.mem_toList_iff_getElem?_eq_some.mp member)⟩
  · rintro ⟨k, current⟩
    exact ⟨(k, session),
      TreeMap.mem_toList_iff_getElem?_eq_some.mpr ((table k session).mpr current), rfl⟩

theorem Current.newest {k : IPPort} (current : w.Current k session) :
    w.hellos.find? (fun hello => hello.1 = session) = some (session, k) := by
  obtain ⟨_, later, earlier, split, others, _⟩ := current
  have none : later.find? (fun hello => hello.1 = session) = none := by
    simpa using others
  rw [split, List.find?_append, none]
  simp

theorem Current.unique {k l : IPPort} (here : w.Current k session) (there : w.Current l session) :
    k = l :=
  (Prod.mk.inj (Option.some.inj (here.newest.symm.trans there.newest))).2

theorem pushes_iff_enrolled (table : w.SessionTable) (exact : w.control.GroupsExact) :
    w.ConfigPushes ↔ w.Enrolled := by
  constructor
  · intro pushes k session held
    have current := (table k session).mp held
    have sent := (pushes _ ⟨none, []⟩ session).mpr ⟨k, current, rfl⟩
    obtain ⟨grouped, l, addr, known, type, leads⟩ :=
      (mem_sendConfigToServerGroup session exact _ _).mp sent
    obtain rfl := current.unique ((table l session).mp leads)
    exact ⟨grouped, addr, known, BitVec.eq_of_toInt_eq type⟩
  · intro enrolled serverType rc session
    rw [mem_sendConfigToServerGroup session exact]
    constructor
    · rintro ⟨_, k, addr, known, type, leads⟩
      obtain ⟨_, same, found, helloType⟩ := enrolled k session leads
      obtain rfl := Option.some.inj (known.symm.trans found)
      exact ⟨k, (table k session).mp leads, helloType ▸ type⟩
    · rintro ⟨k, current, rfl⟩
      have leads := (table k session).mpr current
      obtain ⟨grouped, addr, known, type⟩ := enrolled k session leads
      exact ⟨grouped, k, addr, known, congrArg BitVec.toInt type, leads⟩

theorem enrolled_sayHello (enrolled : w.Enrolled) {hello : Hello}
    (nothing : w.leavesNothing remoteIp (.sayHello session hello)) {u : SessionWorld}
    (control : u.control = (w.control.sayHello session (remoteIp session) hello).1)
    (types : u.serverTypes = Function.update w.serverTypes session hello.serverType) :
    u.Enrolled ↔ w.keepsPushed remoteIp (.sayHello session hello) := by
  have grouped (type : Int) : type ∈ u.control.serverGroups ↔ type ∈ w.control.serverGroups := by
    rw [control]
    exact w.control.mem_serverGroups_react (.sayHello session (remoteIp session) hello) type
  have listed := @sayHello_serversInfo w.control session (remoteIp session) hello
  constructor
  · intro all
    have here : u.control.server2session[named remoteIp session hello]? = some session := by
      rw [control, sayHello_server2session]
      exact (find_insert ..).trans (if_pos rfl)
    obtain ⟨group, addr, known, type⟩ := all _ session here
    rw [types, Function.update_self] at group type
    rw [control] at known
    exact ⟨(grouped _).mp group, listed.mp ⟨addr, known, type⟩⟩
  · rintro ⟨group, registered⟩ k s held
    rw [control, sayHello_server2session, find_insert] at held
    rw [grouped, types]
    split at held
    · rename_i here
      subst here
      obtain rfl := Option.some.inj held
      rw [Function.update_self, control]
      exact ⟨group, listed.mpr registered⟩
    · rename_i elsewhere
      have apart : s ≠ session := by
        rintro rfl
        exact elsewhere
          (nothing (k, s) (TreeMap.mem_toList_iff_getElem?_eq_some.mpr held) rfl).symm
      rw [Function.update_of_ne apart, control, sayHello_serversInfo_other _ _ _ elsewhere]
      exact enrolled k s held

theorem enrolled_serverTimeout (enrolled : w.Enrolled) {u : SessionWorld}
    (control : u.control = (w.control.serverTimeout ipPort).1)
    (types : u.serverTypes = w.serverTypes) :
    u.Enrolled ↔ w.keepsPushed remoteIp (.serverTimeout ipPort) := by
  have table : u.control.server2session = w.control.server2session := by
    rw [control, serverTimeout_server2session]
  have grouped (type : Int) : type ∈ u.control.serverGroups ↔ type ∈ w.control.serverGroups := by
    rw [control]
    exact w.control.mem_serverGroups_react (.serverTimeout ipPort) type
  constructor
  · intro all known leads
    obtain ⟨session, held⟩ := Option.isSome_iff_exists.mp (TreeMap.mem_iff_isSome_getElem?.mp leads)
    obtain ⟨_, addr, still, _⟩ := all ipPort session (table ▸ held)
    have there : ipPort ∈ (w.control.serverTimeout ipPort).1.serversInfo := by
      rw [TreeMap.mem_iff_isSome_getElem?, ← control, still]
      rfl
    exact (ControlServer.mem_serverTimeout.mp there).1 rfl
  · intro absent k s held
    rw [table] at held
    rw [grouped, types, control]
    obtain ⟨group, addr, known, type⟩ := enrolled k s held
    refine ⟨group, addr, ?_, type⟩
    unfold ControlServer.serverTimeout
    split
    · exact known
    · rename_i gone found
      simp only [ControlServer.removeServer, find_erase]
      rw [if_neg]
      · exact known
      · rintro rfl
        refine absent ?_ ?_
        · rw [TreeMap.mem_iff_isSome_getElem?, found]
          rfl
        · rw [TreeMap.mem_iff_isSome_getElem?, held]
          rfl

theorem enrolled_step (enrolled : w.Enrolled) (nothing : w.leavesNothing remoteIp e)
    (moved : w.step remoteIp e = some t) : t.Enrolled ↔ w.keepsPushed remoteIp e := by
  cases e with
  | sayHello session hello =>
    simp only [step, Option.ite_none_right_eq_some, Option.some.injEq] at moved
    obtain ⟨_, rfl⟩ := moved
    exact enrolled_sayHello enrolled nothing rfl rfl
  | serverTimeout ipPort =>
    cases moved
    exact enrolled_serverTimeout enrolled rfl rfl
  | startupTimer =>
    cases moved
    exact iff_of_true enrolled trivial
  | connected session =>
    simp only [step, Option.ite_none_left_eq_some, Option.some.injEq] at moved
    obtain ⟨_, rfl⟩ := moved
    exact iff_of_true enrolled trivial
  | disconnected session | keepAlive session =>
    simp only [step, Option.ite_none_right_eq_some, Option.some.injEq] at moved
    obtain ⟨_, rfl⟩ := moved
    exact iff_of_true enrolled trivial

theorem groupsExact_step (exact : w.control.GroupsExact) (moved : w.step remoteIp e = some t) :
    t.control.GroupsExact := by
  cases e with
  | sayHello session hello =>
    simp only [step, Option.ite_none_right_eq_some, Option.some.injEq] at moved
    obtain ⟨_, rfl⟩ := moved
    exact ControlServer.groups_react exact (.sayHello session (remoteIp session) hello)
  | serverTimeout ipPort =>
    cases moved
    exact ControlServer.groups_react exact (.serverTimeout ipPort)
  | startupTimer =>
    cases moved
    exact exact
  | connected session =>
    simp only [step, Option.ite_none_left_eq_some, Option.some.injEq] at moved
    obtain ⟨_, rfl⟩ := moved
    exact exact
  | disconnected session | keepAlive session =>
    simp only [step, Option.ite_none_right_eq_some, Option.some.injEq] at moved
    obtain ⟨_, rfl⟩ := moved
    exact exact

structure InOrder (w : SessionWorld) : Prop where
  table : w.SessionTable
  last : w.LastNamed
  exact : w.control.GroupsExact
  enrolled : w.Enrolled

theorem inOrder_initialized (serverTypeMax : Nat) : InOrder (initialized serverTypeMax) := by
  refine ⟨?_, ?_, (ControlServer.registered_initialized serverTypeMax).groups, ?_⟩
  · intro k s
    rw [empty_at_start]
    refine iff_of_false (by simp) ?_
    rintro ⟨_, later, earlier, split, _⟩
    simp [initialized] at split
  · intro k
    rw [empty_at_start]
    rfl
  · intro k s held
    rw [empty_at_start] at held
    contradiction

theorem InOrder.step (order : w.InOrder) (moved : w.step remoteIp e = some t) :
    (t.SessionTable ↔ w.leavesNothing remoteIp e) ∧
    (t.SessionTable ∧ t.ConfigPushes ↔ w.keepsRight remoteIp e) ∧
    (w.keepsRight remoteIp e → t.InOrder) := by
  obtain ⟨right, last⟩ := table_step order.table order.last moved
  have exact := groupsExact_step order.exact moved
  refine ⟨right, ?_, ?_⟩
  · constructor
    · rintro ⟨table, pushes⟩
      have nothing := right.mp table
      have enrolled := (pushes_iff_enrolled table exact).mp pushes
      exact ⟨nothing, (enrolled_step order.enrolled nothing moved).mp enrolled⟩
    · rintro ⟨nothing, pushed⟩
      have table := right.mpr nothing
      have enrolled := (enrolled_step order.enrolled nothing moved).mpr pushed
      exact ⟨table, (pushes_iff_enrolled table exact).mpr enrolled⟩
  · rintro ⟨nothing, pushed⟩
    exact ⟨right.mpr nothing, last, exact, (enrolled_step order.enrolled nothing moved).mpr pushed⟩

/-- The table and what goes out by it are right while sessions leave nothing behind in it and
    their servers stay in the groups of their types. The first step that does not makes them
    wrong. -/
theorem table_right_while_nothing_left (remoteIp : Session → BitVec 32) (serverTypeMax : Nat)
    {w : SessionWorld}
    (run : Reach (step remoteIp) (keepsRight remoteIp) (initialized serverTypeMax) w) :
    w.SessionTable ∧ w.Broadcasts ∧ w.ConfigPushes ∧ ∀ e t, w.step remoteIp e = some t →
      (t.SessionTable ↔ w.leavesNothing remoteIp e) ∧
      (t.SessionTable ∧ t.ConfigPushes ↔ w.keepsRight remoteIp e) := by
  have order : w.InOrder := by
    refine reach_invariant InOrder (inOrder_initialized serverTypeMax) ?_ run
    intro s e u before right moved
    exact (before.step moved).2.2 right
  refine ⟨order.table, order.table.broadcasts, ?_, ?_⟩
  · exact (pushes_iff_enrolled order.table order.exact).mpr order.enrolled
  · intro e t moved
    obtain ⟨table, pushes, _⟩ := order.step moved
    exact ⟨table, pushes⟩

section examples

def overlappingReconnect : List SessionEvent :=
  [.connected 1, .sayHello 1 ⟨80, 3, 1⟩, .connected 2, .sayHello 2 ⟨80, 3, 1⟩, .disconnected 1]

theorem table_right_after_reconnect : ∃ w,
    Reach (step fun _ => 0x0a000001) (keepsRight fun _ => 0x0a000001) (initialized 5) w ∧
      (w.reported = [1] ∧ w.control.sendConfigToServerGroup 3 ⟨none, []⟩ =
        [⟨2, .refreshConfig ⟨none, []⟩⟩]) ∧ w.SessionTable ∧ w.ConfigPushes := by
  obtain ⟨w, run, facts⟩ := execWithin_any (step fun _ => 0x0a000001)
    (keepsRight fun _ => 0x0a000001) (initialized 5) overlappingReconnect
    (fun w => decide (w.reported = [1] ∧ w.control.sendConfigToServerGroup 3 ⟨none, []⟩ =
      [⟨2, .refreshConfig ⟨none, []⟩⟩])) (by decide +kernel)
  obtain ⟨table, _, pushes, _⟩ := table_right_while_nothing_left _ 5 run
  exact ⟨w, run, of_decide_eq_true facts, table, pushes⟩

/-- A server says Hello and its session is lost: the table keeps the dead session. -/
theorem dead_session_in_table : ¬ ∀ remoteIp serverTypeMax w,
    Reach (step remoteIp) always (initialized serverTypeMax) w → w.SessionTable := by
  intro all
  obtain ⟨w, run, facts⟩ := execWithin_any (step fun _ => 0x0a000001) (fun _ _ => True)
    (initialized 5) [.connected 1, .sayHello 1 ⟨80, 3, 1⟩, .disconnected 1]
    (fun w => decide (w.reported = [1] ∧
      w.control.server2session.toList = [((0x0a000001, 80), 1)])) (by decide +kernel)
  obtain ⟨reported, table⟩ := of_decide_eq_true facts
  have held : w.control.server2session[((0x0a000001, 80) : IPPort)]? = some 1 := by
    rw [← TreeMap.mem_toList_iff_getElem?_eq_some, table]
    exact List.mem_singleton_self _
  have current := (all _ 5 w run (0x0a000001, 80) 1).mp held
  refine current.1 ?_
  rw [reported]
  exact List.mem_singleton_self _

end examples

end SessionWorld

end LaluneServer.Control
