import LaluneServer.Control.ConfigDelivery
import LaluneServer.Control.SessionTable

/- What each notice does to the config files that a server holds, and what each request makes
   the control server send to it. -/
namespace LaluneServer.Control

open Std (TreeMap TreeSet)
open Transition InverseIndex TaggedFields NetLibPlus ServerCommon

section contents
variable {files : List ConfigFile} {name : Bytes} {node : ConfigNode} {configs : Configs}

theorem lastContent_append (first second : List ConfigFile) (name : Bytes) :
    lastContent (first ++ second) name = (lastContent second name).or (lastContent first name) := by
  unfold lastContent
  rw [List.filterMap_append, List.getLast?_append]

theorem lastContent_cons (file : ConfigFile) (rest : List ConfigFile) (name : Bytes) :
    lastContent (file :: rest) name = (lastContent rest name).or
      (if file.fileName = name then some file.content else none) := by
  rw [← List.singleton_append, lastContent_append]
  congr 1
  unfold lastContent
  by_cases named : file.fileName = name
  · simp [named]
  · simp [named]

theorem lastContent_repeated {α : Type} {times : List α} (some : times ≠ []) :
    lastContent (times.flatMap fun _ => files) name = lastContent files name := by
  induction times with
  | nil => contradiction
  | cons time rest ih =>
    rw [List.flatMap_cons, lastContent_append]
    by_cases last : rest = []
    · rw [last]
      exact Option.none_or
    · rw [ih last, Option.or_self]

theorem content_map : (files.map fun file =>
      DelegateCall.onConfigRefresh file.fileName file.content).filterMap
        (DelegateCall.content name) =
    files.filterMap fun file => if file.fileName = name then some file.content else none := by
  rw [List.filterMap_map]
  rfl

theorem held_recvFinishHandler (node : ConfigNode) (notice : Notice) (name : Bytes) :
    (node.recvFinishHandler notice).held name =
      (lastContent (noticeFiles notice) name).or (node.held name) := by
  cases notice with
  | refreshConfig rc =>
    unfold ConfigNode.recvFinishHandler ConfigNode.held
    dsimp only
    split
    · rw [List.filterMap_append, List.getLast?_append, content_map]
      rfl
    · rw [List.filterMap_append, List.filterMap_append, content_map]
      simp only [DelegateCall.content, List.filterMap_cons, List.filterMap_nil, List.append_nil]
      exact List.getLast?_append
  | cmd2Server | refreshConfigResponse | fetchConfigResponse | commandResult =>
    unfold ConfigNode.recvFinishHandler ConfigNode.held
    rw [List.filterMap_append, List.getLast?_append]
    rfl
  | helloResult | addrInfoRefresh | addrInfoAdd | addrInfoRemove | addrInfoRestart => rfl

theorem held_foldl (notices : List Notice) (node : ConfigNode) (name : Bytes) :
    (notices.foldl ConfigNode.recvFinishHandler node).held name =
      (lastContent (notices.flatMap noticeFiles) name).or (node.held name) := by
  induction notices generalizing node with
  | nil => rfl
  | cons notice rest ih =>
    rw [List.foldl_cons, ih, held_recvFinishHandler, List.flatMap_cons, lastContent_append,
      Option.or_assoc]

def ConfigNode.InitializedOnce (node : ConfigNode) : Prop :=
  node.calls.count .onConfigInitialized = if node.isConfigInitialized then 1 else 0

theorem initializedOnce_recv (once : node.InitializedOnce) (notice : Notice) :
    (node.recvFinishHandler notice).InitializedOnce := by
  unfold ConfigNode.InitializedOnce at once ⊢
  cases notice with
  | refreshConfig rc =>
    have refreshes : (rc.file.map fun file =>
        DelegateCall.onConfigRefresh file.fileName file.content).count .onConfigInitialized = 0 := by
      refine List.count_eq_zero.mpr fun member => ?_
      obtain ⟨file, -, same⟩ := List.mem_map.mp member
      contradiction
    unfold ConfigNode.recvFinishHandler
    dsimp only
    split
    · rename_i before
      rw [List.count_append, refreshes, once, if_pos before]
    · rename_i before
      rw [List.count_append, List.count_append, refreshes, once, if_neg before]
      rfl
  | cmd2Server | refreshConfigResponse | fetchConfigResponse | commandResult =>
    unfold ConfigNode.recvFinishHandler
    rw [List.count_append, once]
    rfl
  | helloResult | addrInfoRefresh | addrInfoAdd | addrInfoRemove | addrInfoRestart => exact once

theorem readConfig_writeConfig (configs : Configs) (serverType other : BitVec 32)
    (file : ConfigFile) (name : Bytes) :
    (configs.writeConfig serverType file).readConfig other name =
      if serverType = other ∧ file.fileName = name then some file.content
      else configs.readConfig other name := by
  unfold Configs.writeConfig Configs.readConfig
  rw [find_insert]
  refine if_congr ?_ rfl rfl
  rw [Prod.mk.injEq]
  refine and_congr_left fun _ => ?_
  exact ⟨fun same => by simpa using congrArg Int32.toBitVec same, fun same => by rw [same]⟩

theorem readConfig_writes (serverType : BitVec 32) (files : List ConfigFile) (configs : Configs)
    (name : Bytes) :
    (files.foldl (fun configs file => configs.writeConfig serverType file) configs).readConfig
      serverType name = (lastContent files name).or (configs.readConfig serverType name) := by
  induction files generalizing configs with
  | nil => rfl
  | cons file rest ih =>
    rw [List.foldl_cons, ih, readConfig_writeConfig, lastContent_cons, Option.or_assoc]
    congr 1
    by_cases named : file.fileName = name
    · rw [if_pos ⟨rfl, named⟩, if_pos named]
      rfl
    · rw [if_neg (fun both => named both.2), if_neg named]
      rfl

theorem readConfig_writes_other {serverType other : BitVec 32} (apart : serverType ≠ other)
    (files : List ConfigFile) (configs : Configs) (name : Bytes) :
    (files.foldl (fun configs file => configs.writeConfig serverType file) configs).readConfig
      other name = configs.readConfig other name := by
  induction files generalizing configs with
  | nil => rfl
  | cons file rest ih =>
    rw [List.foldl_cons, ih, readConfig_writeConfig, if_neg (fun both => apart both.1)]

theorem lastContent_filesOf (configs : Configs) (serverType : BitVec 32) (name : Bytes) :
    lastContent (configs.filesOf serverType) name = configs.readConfig serverType name := by
  have entries : ∀ content, content ∈ (configs.filesOf serverType).filterMap
      (fun file => if file.fileName = name then some file.content else none) ↔
      configs.readConfig serverType name = some content := by
    intro content
    unfold Configs.readConfig
    rw [← TreeMap.mem_toList_iff_getElem?_eq_some]
    simp only [Configs.filesOf, List.mem_filterMap, List.mem_map, List.mem_filter,
      decide_eq_true_eq]
    constructor
    · rintro ⟨_, ⟨⟨⟨type, fileName⟩, text⟩, ⟨member, rfl⟩, rfl⟩, named⟩
      simp only [Option.ite_none_right_eq_some, Option.some.injEq] at named
      obtain ⟨rfl, rfl⟩ := named
      exact member
    · intro member
      exact ⟨⟨name, content⟩, ⟨_, ⟨member, rfl⟩, rfl⟩, if_pos rfl⟩
  unfold lastContent
  cases last : ((configs.filesOf serverType).filterMap
      fun file => if file.fileName = name then some file.content else none).getLast? with
  | none =>
    rw [List.getLast?_eq_none_iff] at last
    rw [last] at entries
    cases found : configs.readConfig serverType name with
    | none => rfl
    | some content => exact absurd ((entries content).mpr found) List.not_mem_nil
  | some content => exact ((entries content).mp (List.mem_of_getLast? last)).symm

end contents

section groups
variable {control : ControlServer} {t : Int} {group : ServerGroup} {k : IPPort}

theorem sayHello_groups {session : Session} {server : IPPort} {serverType : BitVec 32}
    (found : (control.sayHello session server.1
      (Directory.helloOf server serverType)).1.serverGroups[t]? = some group)
    (member : k ∈ group) :
    (∃ before : ServerGroup, control.serverGroups[t]? = some before ∧ k ∈ before) ∨
      k = server ∧ t = serverType.toInt := by
  have address : (server.1, Int32.ofBitVec server.2.toBitVec) = server := by
    rw [Int32.ofBitVec_toBitVec]
  unfold ControlServer.sayHello Directory.helloOf at found
  simp only [address, ↓reduceIte, ControlServer.helloStarted] at found
  split at found
  · simp only [ControlServer.helloNew, ControlServer.addServer] at found
    rw [ControlServer.changeGroup_find] at found
    split at found
    · rename_i same
      obtain ⟨before, known, rfl⟩ := Option.map_eq_some_iff.mp found
      rcases TreeSet.mem_insert.mp member with new | old
      · exact Or.inr ⟨(Std.compare_eq_iff_eq.mp new).symm, same.symm⟩
      · exact Or.inl ⟨before, known, old⟩
    · exact Or.inl ⟨group, found, member⟩
  · exact Or.inl ⟨group, found, member⟩

theorem serverTimeout_groups {ipPort : IPPort}
    (found : (control.serverTimeout ipPort).1.serverGroups[t]? = some group)
    (member : k ∈ group) :
    ∃ before : ServerGroup, control.serverGroups[t]? = some before ∧ k ∈ before := by
  unfold ControlServer.serverTimeout at found
  split at found
  · exact ⟨group, found, member⟩
  · simp only [ControlServer.removeServer] at found
    rw [ControlServer.changeGroup_find] at found
    split at found
    · obtain ⟨before, known, rfl⟩ := Option.map_eq_some_iff.mp found
      exact ⟨before, known, TreeSet.mem_of_mem_erase member⟩
    · exact ⟨group, found, member⟩

end groups

structure Grounded (typeOf : IPPort → BitVec 32) (d : Directory) : Prop where
  wired : Directory.Wired d
  hellos : ∀ s, ∀ hello ∈ (d.links s).up, hello.serverType = typeOf (d.links s).owner
  groups : ∀ (t : Int) (group : ServerGroup) (k : IPPort),
    d.control.serverGroups[t]? = some group → k ∈ group → t = (typeOf k).toInt

section directory
open Directory
variable {delegate : Int → Bool} {controlServer : ServerInfo} {typeOf : IPPort → BitVec 32}
  {d v : Directory} {server : IPPort} {session : Session}

theorem grounded_initialized (serverTypeMax : Nat) :
    Grounded typeOf (Directory.initialized delegate controlServer serverTypeMax) := by
  have inStep : InStep delegate (Directory.initialized delegate controlServer serverTypeMax) :=
    inStep_initialized serverTypeMax
  refine ⟨inStep.wired, nofun, ?_⟩
  intro t group k found member
  exact absurd member (ControlServer.initialized_groups_empty _ t group found k)

theorem grounded_connect (grounded : Grounded typeOf d) (moved : d.connect server = some v) :
    Grounded typeOf v := by
  unfold Directory.connect at moved
  split at moved
  · contradiction
  · cases moved
    have old : ∀ s, s < d.sessions →
        (d.setLink d.sessions { owner := server }).links s = d.links s :=
      fun s inside => setLink_other d _ (Nat.ne_of_lt inside)
    refine ⟨⟨?_, ?_, ?_⟩, ?_, grounded.groups⟩
    · intro k s held
      obtain ⟨inside, owner⟩ := grounded.wired.owners k s held
      refine ⟨Nat.lt_succ_of_lt inside, ?_⟩
      show ((d.setLink d.sessions _).links s).owner = k
      rw [old s inside, owner]
    · intro k s connection
      simp only [setConnection] at connection
      show s < d.sessions + 1 ∧ ((d.setLink d.sessions _).links s).owner = k
      split at connection
      · rename_i here
        obtain rfl := Option.some.inj connection
        rw [setLink_same]
        exact ⟨Nat.lt_succ_self _, here.symm⟩
      · obtain ⟨inside, owner⟩ := grounded.wired.connected k s connection
        rw [old s inside]
        exact ⟨Nat.lt_succ_of_lt inside, owner⟩
    · intro s hello member
      have member : hello ∈ ((d.setLink d.sessions { owner := server }).links s).up := member
      show s < d.sessions + 1 ∧ ∃ t, hello = helloOf ((d.setLink d.sessions _).links s).owner t
      by_cases here : s = d.sessions
      · rw [here, setLink_same] at member
        contradiction
      · rw [setLink_other d _ here] at member ⊢
        obtain ⟨inside, named⟩ := grounded.wired.hellos s hello member
        exact ⟨Nat.lt_succ_of_lt inside, named⟩
    · intro s hello member
      have member : hello ∈ ((d.setLink d.sessions { owner := server }).links s).up := member
      show hello.serverType = typeOf ((d.setLink d.sessions _).links s).owner
      by_cases here : s = d.sessions
      · rw [here, setLink_same] at member
        contradiction
      · rw [setLink_other d _ here] at member ⊢
        exact grounded.hellos s hello member

theorem grounded_setLink (grounded : Grounded typeOf d) {link : Link}
    (owner : link.owner = (d.links session).owner)
    (hellos : ∀ hello ∈ link.up, session < d.sessions ∧
      hello = helloOf (d.links session).owner (typeOf (d.links session).owner)) :
    Grounded typeOf (d.setLink session link) := by
  refine ⟨grounded.wired.setLink owner (fun hello member =>
    ⟨(hellos hello member).1, _, (hellos hello member).2⟩), ?_, grounded.groups⟩
  intro s hello member
  by_cases here : s = session
  · subst here
    rw [setLink_same] at member ⊢
    rw [(hellos hello member).2, owner]
    rfl
  · rw [setLink_other d _ here] at member ⊢
    exact grounded.hellos s hello member

theorem Grounded.hello (grounded : Grounded typeOf d) {hello : Hello}
    (member : hello ∈ (d.links session).up) : session < d.sessions ∧
      hello = helloOf (d.links session).owner (typeOf (d.links session).owner) := by
  obtain ⟨inside, t, rfl⟩ := grounded.wired.hellos session hello member
  exact ⟨inside, by rw [← grounded.hellos session _ member]; rfl⟩

theorem grounded_handleHello (grounded : Grounded typeOf d)
    (moved : d.handleHello session = some v) : Grounded typeOf v := by
  unfold handleHello at moved
  cases up : (d.links session).up with
  | nil => simp [up] at moved
  | cons hello rest =>
    have waiting : hello ∈ (d.links session).up := by
      rw [up]
      exact List.mem_cons_self
    obtain ⟨inside, rfl⟩ := grounded.hello waiting
    simp only [up, Option.some.injEq] at moved
    have linked : Grounded typeOf (d.setLink session { d.links session with
        up := rest, greeted := (d.links session).greeted || ! d.control.duringStartup }) := by
      refine grounded_setLink grounded rfl fun other member => grounded.hello ?_
      rw [up]
      exact List.mem_cons_of_mem _ member
    obtain ⟨addr, news, greeting⟩ := sayHello_greets d.control session (d.links session).owner
      (typeOf (d.links session).owner)
    have groups : ∀ (t : Int) (group : ServerGroup) (k : IPPort), (d.control.sayHello session
        (d.links session).owner.1 (helloOf (d.links session).owner
          (typeOf (d.links session).owner))).1.serverGroups[t]? = some group → k ∈ group →
        t = (typeOf k).toInt := by
      intro t group k found member
      rcases sayHello_groups found member with ⟨before, known, old⟩ | ⟨rfl, rfl⟩
      · exact grounded.groups t before k known old
      · rfl
    generalize d.control.sayHello session (d.links session).owner.1
      (helloOf (d.links session).owner (typeOf (d.links session).owner)) = reaction
      at moved greeting groups
    subst moved
    refine ⟨⟨?_, linked.wired.connected, linked.wired.hellos⟩, linked.hellos, groups⟩
    intro k s held
    simp only [reacted, greeting.sessions, find_insert] at held
    split at held
    · rename_i here
      obtain rfl := Option.some.inj held
      refine ⟨inside, ?_⟩
      show ((d.setLink session _).links session).owner = k
      rw [setLink_same]
      exact here
    · exact linked.wired.owners k s held

theorem grounded_reacted (grounded : Grounded typeOf d) {reaction : ControlServer × List Reply}
    (sessions : reaction.1.server2session = d.control.server2session)
    (groups : ∀ (t : Int) (group : ServerGroup) (k : IPPort),
      reaction.1.serverGroups[t]? = some group → k ∈ group →
        ∃ before : ServerGroup, d.control.serverGroups[t]? = some before ∧ k ∈ before) :
    Grounded typeOf (d.reacted reaction) := by
  refine ⟨⟨?_, grounded.wired.connected, grounded.wired.hellos⟩, grounded.hellos, ?_⟩
  · intro k s held
    exact grounded.wired.owners k s (sessions ▸ held)
  · intro t group k found member
    obtain ⟨before, known, old⟩ := groups t group k found member
    exact grounded.groups t before k known old

theorem grounded_lost (grounded : Grounded typeOf d) (nodes : IPPort → Node) :
    Grounded typeOf { d.setConnection server none with nodes := nodes } := by
  refine ⟨⟨grounded.wired.owners, ?_, grounded.wired.hellos⟩, grounded.hellos, grounded.groups⟩
  intro k s connection
  simp only [setConnection] at connection
  split at connection
  · contradiction
  · exact grounded.wired.connected k s connection

theorem grounded_step (grounded : Grounded typeOf d) {e : DirectoryEvent}
    (typed : ∀ server serverType, e = .sayHello server serverType → serverType = typeOf server)
    (moved : d.step delegate controlServer e = some v) : Grounded typeOf v := by
  cases e with
  | connect server => exact grounded_connect grounded moved
  | drop server =>
    cases moved
    exact grounded_lost grounded d.nodes
  | restart server =>
    cases moved
    exact grounded_lost grounded _
  | sayHello server serverType =>
    obtain ⟨session, connection, rfl⟩ := Option.map_eq_some_iff.mp moved
    obtain ⟨inside, owner⟩ := grounded.wired.connected server session connection
    refine grounded_setLink grounded rfl ?_
    intro hello member
    rcases List.mem_append.mp member with before | last
    · exact grounded.hello before
    · refine ⟨inside, ?_⟩
      rw [List.mem_singleton.mp last, owner, typed server serverType rfl]
  | handleHello session => exact grounded_handleHello grounded moved
  | serverTimeout ipPort =>
    cases moved
    refine grounded_reacted grounded (serverTimeout_server2session d.control ipPort) ?_
    exact fun t group k found member => serverTimeout_groups found member
  | startupTimer =>
    cases moved
    exact grounded_reacted grounded rfl (fun t group k found member => ⟨group, found, member⟩)
  | receive server =>
    obtain ⟨session, connection, moved⟩ := Option.bind_eq_some_iff.mp moved
    split at moved
    · contradiction
    · rename_i message rest down
      cases moved
      have linked : Grounded typeOf (d.setLink session { d.links session with down := rest }) :=
        grounded_setLink grounded rfl (fun hello member => grounded.hello member)
      exact ⟨⟨linked.wired.owners, linked.wired.connected, linked.wired.hellos⟩, linked.hellos,
        linked.groups⟩

theorem connections_step {e : DirectoryEvent} (moved : d.step delegate controlServer e = some v) :
    (∃ server, e = .connect server ∧ d.connections server = none ∧
        v = { d.setLink d.sessions { owner := server } with
          sessions := d.sessions + 1 }.setConnection server (some d.sessions)) ∨
      (∃ server, (e = .drop server ∨ e = .restart server) ∧ v.sessions = d.sessions ∧
        v.connections = (d.setConnection server none).connections) ∨
      (∀ server, e ≠ .drop server ∧ e ≠ .restart server) ∧ v.sessions = d.sessions ∧
        v.connections = d.connections := by
  cases e with
  | connect server =>
    simp only [Directory.step, Directory.connect] at moved
    split at moved
    · contradiction
    · rename_i free
      cases moved
      exact Or.inl ⟨server, rfl, by simpa using free, rfl⟩
  | drop server =>
    cases moved
    exact Or.inr (Or.inl ⟨server, Or.inl rfl, rfl, rfl⟩)
  | restart server =>
    cases moved
    exact Or.inr (Or.inl ⟨server, Or.inr rfl, rfl, rfl⟩)
  | sayHello server serverType =>
    obtain ⟨session, -, rfl⟩ := Option.map_eq_some_iff.mp moved
    exact Or.inr (Or.inr ⟨fun _ => ⟨nofun, nofun⟩, rfl, rfl⟩)
  | handleHello session =>
    simp only [Directory.step, handleHello] at moved
    split at moved
    · contradiction
    · cases moved
      exact Or.inr (Or.inr ⟨fun _ => ⟨nofun, nofun⟩, rfl, rfl⟩)
  | serverTimeout | startupTimer =>
    cases moved
    exact Or.inr (Or.inr ⟨fun _ => ⟨nofun, nofun⟩, rfl, rfl⟩)
  | receive server =>
    obtain ⟨session, -, moved⟩ := Option.bind_eq_some_iff.mp moved
    split at moved
    · contradiction
    · cases moved
      exact Or.inr (Or.inr ⟨fun _ => ⟨nofun, nofun⟩, rfl, rfl⟩)

end directory

namespace ConfigDirectory
variable {typeOf : IPPort → BitVec 32} {w : ConfigDirectory} {k : IPPort} {s : Session}

section told

theorem noticesTo_append (first second : List Answer) :
    noticesTo s (first ++ second) = noticesTo s first ++ noticesTo s second := by
  unfold noticesTo
  rw [List.filter_append, List.map_append]

theorem noticesTo_other {answer : Answer} (other : answer.session ≠ s) (rest : List Answer) :
    noticesTo s (answer :: rest) = noticesTo s rest := by
  unfold noticesTo
  rw [List.filter_cons_of_neg (by simpa using other)]

theorem toldFiles_append (first second : List Answer) :
    w.toldFiles (first ++ second) k = w.toldFiles first k ++ w.toldFiles second k := by
  unfold toldFiles told
  split
  · rfl
  · rw [noticesTo_append, List.flatMap_append]

theorem toldFiles_nil : w.toldFiles [] k = [] := by
  unfold toldFiles told
  split
  · rfl
  · rfl

theorem toldFiles_flatMap {α : Type} (list : List α) (answers : α → List Answer) :
    w.toldFiles (list.flatMap answers) k = list.flatMap fun a => w.toldFiles (answers a) k := by
  induction list with
  | nil => exact toldFiles_nil
  | cons a rest ih => rw [List.flatMap_cons, List.flatMap_cons, toldFiles_append, ih]

theorem toldFiles_silent {session : Session} {notice : Notice} (silent : noticeFiles notice = []) :
    w.toldFiles [⟨session, notice⟩] k = [] := by
  unfold toldFiles told
  split
  · rfl
  · rename_i current _
    by_cases here : session = current
    · simp [noticesTo, here, silent]
    · rw [noticesTo_other here]
      rfl

theorem noticesTo_group (grounded : Grounded typeOf w.directory)
    (connection : w.directory.connections k = some s) (notice : Notice) {group : List IPPort}
    (distinct : group.Nodup) :
    noticesTo s (group.filterMap fun ipPort => w.directory.control.server2session[ipPort]?.map
      fun session => ⟨session, notice⟩) =
        if k ∈ group ∧ w.directory.control.server2session[k]? = some s then [notice] else [] := by
  have once : ∀ a, w.directory.control.server2session[a]? = some s → a = k :=
    grounded.wired.once connection
  induction group with
  | nil => simp [noticesTo]
  | cons a rest ih =>
    obtain ⟨fresh, distinct⟩ := List.nodup_cons.mp distinct
    have others := ih distinct
    have elsewhere (apart : w.directory.control.server2session[a]? ≠ some s) :
        (k ∈ a :: rest ∧ w.directory.control.server2session[k]? = some s) ↔
          k ∈ rest ∧ w.directory.control.server2session[k]? = some s := by
      refine and_congr_left fun current => ?_
      rw [List.mem_cons]
      refine or_iff_right ?_
      rintro rfl
      exact apart current
    cases held : w.directory.control.server2session[a]? with
    | none =>
      rw [List.filterMap_cons_none (by rw [held]; rfl), others,
        if_congr (elsewhere (by rw [held]; exact Option.some_ne_none s |>.symm)) rfl rfl]
    | some session =>
      rw [List.filterMap_cons_some (by rw [held]; rfl)]
      by_cases here : session = s
      · subst here
        obtain rfl := once a held
        rw [if_neg (fun both => fresh both.1)] at others
        rw [if_pos ⟨List.mem_cons_self, held⟩, ← List.singleton_append, noticesTo_append, others]
        simp [noticesTo]
      · rw [noticesTo_other here, others, if_congr (elsewhere (by
          rw [held]
          exact fun same => here (Option.some.inj same))) rfl rfl]

theorem nodup_toList (group : ServerGroup) : group.toList.Nodup := by
  refine group.distinct_toList.imp fun apart same => apart ?_
  exact Std.compare_eq_iff_eq.mpr same

theorem told_covered (grounded : Grounded typeOf w.directory) (covered : w.Covered typeOf k)
    (notice : Notice) :
    w.told (w.directory.control.toServerGroup (typeOf k).toInt notice) k = [notice] := by
  obtain ⟨group, session, known, member, current, connection⟩ := covered
  unfold told ControlServer.toServerGroup
  simp only [connection, known]
  rw [noticesTo_group grounded connection notice (nodup_toList group),
    if_pos ⟨TreeSet.mem_toList.mpr member, current⟩]

theorem told_uncovered (grounded : Grounded typeOf w.directory) {t : Int}
    (uncovered : ¬ (t = (typeOf k).toInt ∧ w.Covered typeOf k)) (notice : Notice) :
    w.told (w.directory.control.toServerGroup t notice) k = [] := by
  unfold told ControlServer.toServerGroup
  cases connection : w.directory.connections k with
  | none => rfl
  | some session =>
    cases known : w.directory.control.serverGroups[t]? with
    | none => rfl
    | some group =>
      dsimp only
      rw [noticesTo_group grounded connection notice (nodup_toList group), if_neg]
      rintro ⟨member, current⟩
      have member := TreeSet.mem_toList.mp member
      obtain rfl := grounded.groups t group k known member
      exact uncovered ⟨rfl, group, session, known, member, current, connection⟩

end told

/-- What a reaction tells a server about a file of its type is what the control server holds
    after it, and a server of the group is told whatever changed and is still there. -/
structure Truthful (typeOf : IPPort → BitVec 32) (w : ConfigDirectory) (k : IPPort)
    (reaction : Configs × List Answer) : Prop where
  right : ∀ name, lastContent (w.toldFiles reaction.2 k) name = none ∨
    lastContent (w.toldFiles reaction.2 k) name = reaction.1.readConfig (typeOf k) name
  covered : w.Covered typeOf k → ∀ name, lastContent (w.toldFiles reaction.2 k) name = none →
    reaction.1.readConfig (typeOf k) name = w.configs.readConfig (typeOf k) name ∨
      reaction.1.readConfig (typeOf k) name = none

section requests

theorem truthful_silent {answers : List Answer} (silent : w.toldFiles answers k = []) :
    Truthful typeOf w k (w.configs, answers) :=
  ⟨fun name => Or.inl (by rw [silent]; rfl), fun _ _ _ => Or.inl rfl⟩

theorem toldFiles_initialize {session : Session} {init : Initialize} {configs : Configs}
    (owner : w.directory.connections k = some session) :
    w.toldFiles (ControlServer.answerInitialize configs session init).2 k =
      configs.filesOf init.serverType := by
  unfold toldFiles told ControlServer.answerInitialize
  simp [owner, noticesTo, noticeFiles]

theorem truthful_initialize {session : Session} {init : Initialize}
    (typed : w.directory.connections k = some session → init.serverType = typeOf k) :
    Truthful typeOf w k (ControlServer.answerInitialize w.configs session init) := by
  by_cases owner : w.directory.connections k = some session
  · have files : w.toldFiles (ControlServer.answerInitialize w.configs session init).2 k =
        w.configs.filesOf init.serverType := toldFiles_initialize owner
    refine ⟨fun name => Or.inr ?_, fun _ _ _ => Or.inl rfl⟩
    rw [files, lastContent_filesOf, typed owner]
    rfl
  · refine truthful_silent ?_
    unfold toldFiles told
    split
    · rfl
    · rename_i current connection
      rw [noticesTo_other]
      · rfl
      · rintro rfl
        exact owner connection

theorem refreshConfig_unknown {session : Session} {rc : RefreshConfig}
    (unknown : w.directory.control.serverGroups[(rc.serverType.getD 0).toInt]? = none) :
    w.directory.control.refreshConfig w.configs session rc = (w.configs, []) := by
  simp only [ControlServer.refreshConfig, unknown]

theorem refreshConfig_known {session : Session} {rc : RefreshConfig} {group : ServerGroup}
    (known : w.directory.control.serverGroups[(rc.serverType.getD 0).toInt]? = some group) :
    w.directory.control.refreshConfig w.configs session rc =
      (rc.file.foldl (fun configs file => configs.writeConfig (rc.serverType.getD 0) file) w.configs,
        rc.file.flatMap (fun _ => w.directory.control.sendConfigToServerGroup
          (rc.serverType.getD 0).toInt rc) ++ [⟨session, .refreshConfigResponse⟩]) := by
  simp only [ControlServer.refreshConfig, known]

theorem toldFiles_group_covered (grounded : Grounded typeOf w.directory)
    (covered : w.Covered typeOf k) (rc : RefreshConfig) :
    w.toldFiles (w.directory.control.sendConfigToServerGroup (typeOf k).toInt rc) k = rc.file := by
  unfold toldFiles ControlServer.sendConfigToServerGroup
  rw [told_covered grounded covered]
  simp [noticeFiles]

theorem toldFiles_group_uncovered (grounded : Grounded typeOf w.directory) {t : Int}
    (uncovered : ¬ (t = (typeOf k).toInt ∧ w.Covered typeOf k)) (rc : RefreshConfig) :
    w.toldFiles (w.directory.control.sendConfigToServerGroup t rc) k = [] := by
  unfold toldFiles ControlServer.sendConfigToServerGroup
  rw [told_uncovered grounded uncovered]
  rfl

theorem truthful_refreshConfig (grounded : Grounded typeOf w.directory) (session : Session)
    (rc : RefreshConfig) :
    Truthful typeOf w k (w.directory.control.refreshConfig w.configs session rc) := by
  cases known : w.directory.control.serverGroups[(rc.serverType.getD 0).toInt]? with
  | none =>
    rw [refreshConfig_unknown known]
    exact truthful_silent toldFiles_nil
  | some group =>
    rw [refreshConfig_known known]
    have files : w.toldFiles (rc.file.flatMap (fun _ =>
          w.directory.control.sendConfigToServerGroup (rc.serverType.getD 0).toInt rc) ++
        [⟨session, .refreshConfigResponse⟩]) k = rc.file.flatMap fun _ => w.toldFiles
          (w.directory.control.sendConfigToServerGroup (rc.serverType.getD 0).toInt rc) k := by
      rw [toldFiles_append, toldFiles_flatMap, toldFiles_silent rfl, List.append_nil]
    by_cases reached : (rc.serverType.getD 0).toInt = (typeOf k).toInt ∧ w.Covered typeOf k
    · obtain ⟨same, covered⟩ := reached
      have type : rc.serverType.getD 0 = typeOf k := BitVec.toInt_inj.mp same
      rw [type, toldFiles_group_covered grounded covered] at files
      rw [type]
      by_cases empty : rc.file = []
      · refine ⟨fun name => Or.inl ?_, fun _ name _ => Or.inl ?_⟩
        · rw [files, empty]
          rfl
        · rw [empty]
          rfl
      · have last : ∀ name, lastContent (rc.file.flatMap fun _ => rc.file) name =
            lastContent rc.file name := fun name => lastContent_repeated empty
        refine ⟨fun name => ?_, fun _ name silent => Or.inl ?_⟩
        · rw [files, last, readConfig_writes]
          cases lastContent rc.file name with
          | none => exact Or.inl rfl
          | some content => exact Or.inr rfl
        · rw [files, last] at silent
          rw [readConfig_writes, silent, Option.none_or]
    · rw [toldFiles_group_uncovered grounded reached] at files
      have silent : rc.file.flatMap (fun _ => ([] : List ConfigFile)) = [] := by simp
      refine ⟨fun name => Or.inl (by rw [files, silent]; rfl), fun covered name _ => Or.inl ?_⟩
      refine readConfig_writes_other ?_ _ _ _
      intro type
      exact reached ⟨by rw [type], covered⟩

theorem toldFiles_sendAllConfigs (grounded : Grounded typeOf w.directory)
    (covered : w.Covered typeOf k) (configs : Configs) :
    w.toldFiles (w.directory.control.sendAllConfigs configs) k = configs.filesOf (typeOf k) := by
  unfold ControlServer.sendAllConfigs Configs.filesOf
  rw [toldFiles_flatMap]
  induction configs.toList with
  | nil => rfl
  | cons entry rest ih =>
    rw [List.flatMap_cons, ih]
    by_cases type : entry.1.1 = Int32.ofBitVec (typeOf k)
    · have same : entry.1.1.toInt = (typeOf k).toInt := by rw [type, Int32.toInt_ofBitVec]
      rw [same, toldFiles_group_covered grounded covered,
        List.filter_cons_of_pos (by simpa using type)]
      rfl
    · rw [toldFiles_group_uncovered grounded, List.filter_cons_of_neg (by simpa using type)]
      · rfl
      · rintro ⟨same, -⟩
        refine type (Int32.toInt_inj.mp ?_)
        rw [same, Int32.toInt_ofBitVec]

theorem toldFiles_sendAllConfigs_uncovered (grounded : Grounded typeOf w.directory)
    (uncovered : ¬ w.Covered typeOf k) (configs : Configs) :
    w.toldFiles (w.directory.control.sendAllConfigs configs) k = [] := by
  unfold ControlServer.sendAllConfigs
  rw [toldFiles_flatMap]
  refine List.flatMap_eq_nil_iff.mpr fun entry _ => ?_
  exact toldFiles_group_uncovered grounded (fun reached => uncovered reached.2) _

theorem truthful_refreshAll (grounded : Grounded typeOf w.directory) (session : Session)
    (configs : Configs) (text : Bytes) :
    Truthful typeOf w k (configs, w.directory.control.sendAllConfigs configs ++
      [⟨session, .commandResult ⟨text, []⟩⟩]) := by
  have files : w.toldFiles (w.directory.control.sendAllConfigs configs ++
      [⟨session, .commandResult ⟨text, []⟩⟩]) k =
        w.toldFiles (w.directory.control.sendAllConfigs configs) k := by
    rw [toldFiles_append, toldFiles_silent rfl, List.append_nil]
  by_cases covered : w.Covered typeOf k
  · rw [toldFiles_sendAllConfigs grounded covered] at files
    refine ⟨fun name => Or.inr ?_, fun _ name silent => Or.inr ?_⟩
    · rw [files, lastContent_filesOf]
    · rw [files, lastContent_filesOf] at silent
      exact silent
  · rw [toldFiles_sendAllConfigs_uncovered grounded covered] at files
    exact ⟨fun name => Or.inl (by rw [files]; rfl), fun reached => absurd reached covered⟩

theorem truthful_runCommand (grounded : Grounded typeOf w.directory) (session : Session)
    (disk : Disk) (remoteIp : BitVec 32) (cmd : Option Command) :
    Truthful typeOf w k (w.directory.control.runCommand w.configs session disk remoteIp cmd) := by
  have silent : ∀ text : Bytes, w.toldFiles [⟨session, .commandResult ⟨text, []⟩⟩] k = [] :=
    fun _ => toldFiles_silent rfl
  unfold ControlServer.runCommand
  dsimp only
  split
  · cases cmd with
    | none => exact truthful_silent (silent _)
    | some cmd =>
      dsimp only
      split
      · exact truthful_silent (silent _)
      · split
        · exact truthful_refreshAll grounded session _ _
        · exact truthful_silent (silent _)
  · exact truthful_silent toldFiles_nil

theorem truthful_passCommand (grounded : Grounded typeOf w.directory) (cmd : Cmd2Server) :
    Truthful typeOf w k (w.directory.control.passCommand w.configs cmd) := by
  refine truthful_silent ?_
  by_cases reached : (cmd.toServerType.getD 0).toInt = (typeOf k).toInt ∧ w.Covered typeOf k
  · unfold toldFiles
    rw [reached.1, told_covered grounded reached.2]
    rfl
  · unfold toldFiles
    rw [told_uncovered grounded reached]
    rfl

theorem truthful_reaction (grounded : Grounded typeOf w.directory) {wire : WireFormat}
    {types : MessageTypes} {session : Session} {disk : Disk} {data : Bytes}
    (typed : typed typeOf wire types w (.recv session disk data)) :
    Truthful typeOf w k (w.reaction wire types session disk data) := by
  unfold reaction ControlServer.recvFinishHandler
  cases received : recvRequest wire types data with
  | none =>
    dsimp only
    split
    · exact truthful_runCommand grounded session disk _ none
    · exact truthful_silent toldFiles_nil
  | some request =>
    cases request with
    | toInitialize init =>
      refine truthful_initialize fun owner => ?_
      have named := typed _ received
      rw [(grounded.wired.connected k session owner).2] at named
      exact named
    | sayHello hello => exact truthful_silent toldFiles_nil
    | cmd2Server cmd => exact truthful_passCommand grounded cmd
    | refreshConfig rc => exact truthful_refreshConfig grounded session rc
    | fetchConfig fc => exact truthful_silent (toldFiles_silent rfl)
    | command cmd => exact truthful_runCommand grounded session disk _ (some cmd)

theorem inside_toServerGroup (grounded : Grounded typeOf w.directory) {t : Int} {notice : Notice}
    {answer : Answer} (member : answer ∈ w.directory.control.toServerGroup t notice) :
    answer.session < w.directory.sessions := by
  unfold ControlServer.toServerGroup at member
  split at member
  · contradiction
  · obtain ⟨ipPort, -, found⟩ := List.mem_filterMap.mp member
    obtain ⟨session, held, rfl⟩ := Option.map_eq_some_iff.mp found
    exact (grounded.wired.owners ipPort session held).1

theorem inside_refreshConfig (grounded : Grounded typeOf w.directory) {session : Session}
    (inside : session < w.directory.sessions) {rc : RefreshConfig} {answer : Answer}
    (member : answer ∈ (w.directory.control.refreshConfig w.configs session rc).2) :
    answer.session < w.directory.sessions := by
  unfold ControlServer.refreshConfig at member
  dsimp only at member
  split at member
  · contradiction
  · rcases List.mem_append.mp member with sent | last
    · obtain ⟨file, -, sent⟩ := List.mem_flatMap.mp sent
      exact inside_toServerGroup grounded sent
    · rw [List.mem_singleton.mp last]
      exact inside

theorem inside_reaction (grounded : Grounded typeOf w.directory) {wire : WireFormat}
    {types : MessageTypes} {session : Session} {disk : Disk} {data : Bytes}
    (inside : session < w.directory.sessions) {answer : Answer}
    (member : answer ∈ (w.reaction wire types session disk data).2) :
    answer.session < w.directory.sessions := by
  have own : ∀ notice : Notice, answer ∈ [⟨session, notice⟩] →
      answer.session < w.directory.sessions := by
    intro notice member
    rw [List.mem_singleton.mp member]
    exact inside
  have command : ∀ cmd remoteIp, answer ∈ (w.directory.control.runCommand w.configs session disk
      remoteIp cmd).2 → answer.session < w.directory.sessions := by
    intro cmd remoteIp member
    unfold ControlServer.runCommand at member
    dsimp only at member
    split at member
    · split at member
      · exact own _ member
      · split at member
        · exact own _ member
        · split at member
          · rcases List.mem_append.mp member with sent | last
            · obtain ⟨entry, -, sent⟩ := List.mem_flatMap.mp sent
              exact inside_toServerGroup grounded sent
            · exact own _ last
          · exact own _ member
    · contradiction
  unfold reaction ControlServer.recvFinishHandler at member
  cases received : recvRequest wire types data with
  | none =>
    rw [received] at member
    dsimp only at member
    split at member
    · exact command none _ member
    · contradiction
  | some request =>
    rw [received] at member
    cases request with
    | toInitialize init => exact own _ member
    | sayHello hello => contradiction
    | cmd2Server cmd => exact inside_toServerGroup grounded member
    | refreshConfig rc => exact inside_refreshConfig grounded inside member
    | fetchConfig fc => exact own _ member
    | command cmd => exact command (some cmd) _ member

end requests

end ConfigDirectory

end LaluneServer.Control
