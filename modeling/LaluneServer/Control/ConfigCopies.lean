import LaluneServer.Control.ConfigAnswers

/- Every server holds the config files of its type as the control server has them, except
   those it was cut off from. The notices of a session arrive in order: that is what
   `Language.Faithful` says of its packets. -/
namespace LaluneServer.Control

open Std (TreeMap)
open Transition TaggedFields NetLibPlus ServerCommon
open Directory (firstServer)

namespace ConfigDirectory
variable {typeOf : IPPort → BitVec 32} {w : ConfigDirectory} {k : IPPort}

structure Kept (typeOf : IPPort → BitVec 32) (w : ConfigDirectory) : Prop where
  grounded : Grounded typeOf w.directory
  fresh : ∀ s, w.directory.sessions ≤ s → w.down s = []
  arrives : ∀ server name, w.missed server name = false →
    (w.settled server).held name = w.configs.readConfig (typeOf server) name
  once : ∀ server, (w.nodes server).InitializedOnce

section runs
variable {delegate : Int → Bool} {controlServer : ServerInfo} {wire : WireFormat}
  {types : MessageTypes} {v : ConfigDirectory}

theorem held_settled (w : ConfigDirectory) (k : IPPort) (name : Bytes) :
    (w.settled k).held name =
      (lastContent ((w.pending k).flatMap noticeFiles) name).or ((w.nodes k).held name) :=
  held_foldl _ _ _

theorem kept_initialized (serverTypeMax : Nat) (disk : Disk) :
    Kept typeOf (initialized delegate controlServer typeOf serverTypeMax disk) := by
  refine ⟨grounded_initialized serverTypeMax, fun _ _ => rfl, ?_, fun _ => rfl⟩
  intro server name missed
  exact (Option.isNone_iff_eq_none.mp (by simpa [initialized] using missed)).symm

theorem pending_reacted (reaction : Configs × List Answer) (k : IPPort) :
    (w.reacted typeOf reaction).pending k = w.pending k ++ w.told reaction.2 k := by
  unfold pending told reacted
  dsimp only
  split
  · rfl
  · rfl

theorem kept_reacted (kept : Kept typeOf w) {reaction : Configs × List Answer}
    (truthful : ∀ k, Truthful typeOf w k reaction)
    (inside : ∀ answer ∈ reaction.2, answer.session < w.directory.sessions) :
    Kept typeOf (w.reacted typeOf reaction) := by
  refine ⟨kept.grounded, ?_, ?_, kept.once⟩
  · intro s unused
    show w.down s ++ noticesTo s reaction.2 = []
    rw [kept.fresh s unused, List.nil_append]
    unfold noticesTo
    rw [List.map_eq_nil_iff, List.filter_eq_nil_iff]
    intro answer member
    have := inside answer member
    simpa using Nat.ne_of_lt (Nat.lt_of_lt_of_le this unused)
  · intro k name missed
    have said := (truthful k).right name
    have before := kept.arrives k name
    have missed : (lastContent (w.toldFiles reaction.2 k) name).isNone = true →
        w.missed k name = false ∧ reaction.1.readConfig (typeOf k) name =
          w.configs.readConfig (typeOf k) name := by
      intro silent
      simpa [reacted, missedAfter, silent] using missed
    show _ = reaction.1.readConfig (typeOf k) name
    rw [held_settled, pending_reacted, List.flatMap_append, lastContent_append, Option.or_assoc]
    rw [held_settled] at before
    show (lastContent (w.toldFiles reaction.2 k) name).or _ = _
    cases last : lastContent (w.toldFiles reaction.2 k) name with
    | none =>
      rw [last] at missed
      obtain ⟨still, same⟩ := missed rfl
      rw [Option.none_or, same]
      exact before still
    | some content =>
      rw [last] at said
      rcases said with silent | right
      · contradiction
      · rw [Option.some_or]
        exact right

theorem pending_of_connection {u : ConfigDirectory} (same : u.down = w.down)
    (connection : u.directory.connections k = w.directory.connections k) :
    u.pending k = w.pending k := by
  unfold pending
  rw [same, connection]

theorem arrives_lost (kept : Kept typeOf w) {event : DirectoryEvent} {server : IPPort}
    (lost : event = .drop server ∨ event = .restart server) {d : Directory}
    (away : d.connections = (w.directory.setConnection server none).connections) (name : Bytes)
    (missed : (w.followed typeOf event d).missed k name = false) :
    ((w.followed typeOf event d).settled k).held name =
      w.configs.readConfig (typeOf k) name := by
  rw [held_settled]
  by_cases here : k = server
  · have nothing : (w.followed typeOf event d).pending k = [] := by
      unfold pending followed
      simp [away, Directory.setConnection, here]
    rw [nothing]
    rcases lost with rfl | rfl
    · simp only [followed, missedOver, here, true_and, Bool.or_eq_false_iff,
        decide_eq_false_iff_not, Bool.not_eq_true, Option.isSome_eq_false_iff,
        Option.isNone_iff_eq_none] at missed
      have before := kept.arrives server name missed.1
      rw [held_settled, missed.2, Option.none_or] at before
      rw [here]
      exact before
    · simp only [followed, missedOver, here, if_true, Option.isSome_eq_false_iff,
        Option.isNone_iff_eq_none] at missed
      rw [here, missed]
      simp [followed, nodesOver, lastContent, ConfigNode.held]
  · have same : (w.followed typeOf event d).pending k = w.pending k := by
      refine pending_of_connection rfl ?_
      show d.connections k = _
      rw [away]
      exact if_neg here
    have still : w.missed k name = false := by
      rcases lost with rfl | rfl
      · simpa [followed, missedOver, here] using missed
      · simpa [followed, missedOver, here] using missed
    have node : (w.followed typeOf event d).nodes k = w.nodes k := by
      rcases lost with rfl | rfl
      · rfl
      · exact if_neg here
    rw [same, node, ← held_settled]
    exact kept.arrives k name still

theorem kept_directory (kept : Kept typeOf w) {event : DirectoryEvent}
    (typed : typed typeOf wire types w (.directory event)) {d : Directory}
    (moved : w.directory.step delegate controlServer event = some d) :
    Kept typeOf (w.followed typeOf event d) := by
  have grounded : Grounded typeOf d := by
    refine grounded_step kept.grounded ?_ moved
    rintro server serverType rfl
    exact typed
  have once : ∀ k, ((w.followed typeOf event d).nodes k).InitializedOnce := by
    intro k
    cases event with
    | restart server =>
      show (if k = server then ({} : ConfigNode) else w.nodes k).InitializedOnce
      split
      · rfl
      · exact kept.once k
    | connect | drop | sayHello | handleHello | serverTimeout | startupTimer | receive =>
      exact kept.once k
  rcases connections_step moved with ⟨server, rfl, free, rfl⟩ | ⟨server, lost, sessions, away⟩ |
    ⟨other, sessions, same⟩
  · refine ⟨grounded, fun s unused => kept.fresh s (Nat.le_of_succ_le unused), ?_, once⟩
    intro k name missed
    have before := kept.arrives k name missed
    rw [held_settled] at before ⊢
    have quiet : (w.followed typeOf (.connect server) ({ w.directory.setLink
        w.directory.sessions { owner := server } with
          sessions := w.directory.sessions + 1 }.setConnection server
            (some w.directory.sessions))).pending k = w.pending k := by
      by_cases here : k = server
      · subst here
        have empty := kept.fresh w.directory.sessions (Nat.le_refl _)
        simp [pending, followed, Directory.setConnection, free, empty]
      · refine pending_of_connection rfl ?_
        exact if_neg here
    rw [quiet]
    exact before
  · refine ⟨grounded, fun s unused => kept.fresh s (sessions ▸ unused), ?_, once⟩
    exact fun k name missed => arrives_lost kept lost away name missed
  · refine ⟨grounded, fun s unused => kept.fresh s (sessions ▸ unused), ?_, once⟩
    intro k name missed
    have quiet : (w.followed typeOf event d).pending k = w.pending k :=
      pending_of_connection rfl (congrFun same k)
    rw [held_settled, quiet]
    cases event with
    | drop server => exact absurd rfl (other server).1
    | restart server => exact absurd rfl (other server).2
    | connect | sayHello | handleHello | serverTimeout | startupTimer | receive =>
      exact (held_settled w k name).symm.trans (kept.arrives k name missed)

theorem sessions_apart (grounded : Grounded typeOf w.directory) {server : IPPort}
    (different : k ≠ server) {s session : Session} (one : w.directory.connections k = some s)
    (other : w.directory.connections server = some session) : s ≠ session := by
  rintro rfl
  have owner := (grounded.wired.connected k s one).2
  exact different (owner.symm.trans (grounded.wired.connected server s other).2)

theorem receiveConfig_cases {server : IPPort} (moved : w.receiveConfig server = some v) :
    ∃ session notice rest, w.directory.connections server = some session ∧
      w.down session = notice :: rest ∧
      v = { w with
        down := fun s => if s = session then rest else w.down s
        nodes := fun k => if k = server then (w.nodes k).recvFinishHandler notice
          else w.nodes k } := by
  obtain ⟨session, connection, moved⟩ := Option.bind_eq_some_iff.mp moved
  cases down : w.down session with
  | nil => simp [down] at moved
  | cons notice rest =>
    simp only [down, Option.some.injEq] at moved
    exact ⟨session, notice, rest, connection, down, moved.symm⟩

theorem receiveConfig_frame {server : IPPort} (moved : w.receiveConfig server = some v) :
    v.configs = w.configs ∧ v.directory = w.directory := by
  obtain ⟨_, _, _, _, _, rfl⟩ := receiveConfig_cases moved
  exact ⟨rfl, rfl⟩

theorem sessions_le_step {event : DirectoryEvent} {d : Directory}
    (moved : w.directory.step delegate controlServer event = some d) :
    w.directory.sessions ≤ d.sessions := by
  rcases connections_step moved with ⟨server, -, -, rfl⟩ | ⟨server, -, same, -⟩ | ⟨-, same, -⟩
  · exact Nat.le_succ _
  · exact same.ge
  · exact same.ge

theorem kept_receive (kept : Kept typeOf w) {server : IPPort}
    (moved : w.receiveConfig server = some v) : Kept typeOf v := by
  obtain ⟨session, notice, rest, connection, down, rfl⟩ := receiveConfig_cases moved
  refine ⟨kept.grounded, ?_, ?_, ?_⟩
  · intro s unused
    have before := kept.fresh s unused
    by_cases here : s = session
    · rw [here, down] at before
      contradiction
    · simp only [here, if_false]
      exact before
  · intro k name missed
    rw [← kept.arrives k name missed]
    congr 1
    unfold settled pending
    dsimp only
    by_cases here : k = server
    · subst here
      simp [connection, down]
    · cases other : w.directory.connections k with
      | none => simp [here]
      | some s =>
        have apart := sessions_apart kept.grounded here other connection
        simp [here, apart]
  · intro k
    dsimp only
    split
    · exact initializedOnce_recv (kept.once k) notice
    · exact kept.once k

structure AllTold (kind : Notice → Prop) (w : ConfigDirectory) (k : IPPort) : Prop where
  onWay : ∀ notice ∈ w.pending k, kind notice
  given : ∀ name content, .onConfigRefresh name content ∈ (w.nodes k).calls →
    ∃ notice, kind notice ∧ ⟨name, content⟩ ∈ noticeFiles notice

theorem AllTold.imp {kind other : Notice → Prop} (implied : ∀ notice, kind notice → other notice)
    (told : AllTold kind w k) : AllTold other w k := by
  refine ⟨fun notice member => implied notice (told.onWay notice member), ?_⟩
  intro name content member
  obtain ⟨notice, right, inside⟩ := told.given name content member
  exact ⟨notice, implied notice right, inside⟩

theorem mem_calls_recv {node : ConfigNode} {notice : Notice} {name content : Bytes}
    (member : .onConfigRefresh name content ∈ (node.recvFinishHandler notice).calls) :
    .onConfigRefresh name content ∈ node.calls ∨ ⟨name, content⟩ ∈ noticeFiles notice := by
  cases notice with
  | refreshConfig rc =>
    have mapped : .onConfigRefresh name content ∈ node.calls ++
        rc.file.map fun file => DelegateCall.onConfigRefresh file.fileName file.content := by
      simp only [ConfigNode.recvFinishHandler] at member
      split at member
      · exact member
      · exact (List.mem_append.mp member).resolve_right (by simp)
    refine (List.mem_append.mp mapped).imp_right fun inside => ?_
    obtain ⟨file, listed, same⟩ := List.mem_map.mp inside
    cases same
    exact listed
  | _ => exact Or.inl (by simpa [ConfigNode.recvFinishHandler] using member)

theorem allTold_reacted {kind : Notice → Prop} (told : AllTold kind w k)
    {reaction : Configs × List Answer} (new : ∀ notice ∈ w.told reaction.2 k, kind notice) :
    AllTold kind (w.reacted typeOf reaction) k := by
  refine ⟨?_, told.given⟩
  rw [pending_reacted]
  exact List.forall_mem_append.mpr ⟨told.onWay, new⟩

theorem mem_told {answers : List Answer} {notice : Notice} : notice ∈ w.told answers k ↔
    ∃ answer ∈ answers, w.directory.connections k = some answer.session ∧
      answer.notice = notice := by
  unfold told noticesTo
  cases connection : w.directory.connections k with
  | none => simp
  | some session =>
    simp only [List.mem_map, List.mem_filter, decide_eq_true_eq, Option.some.injEq, and_assoc,
      @eq_comm _ session]

theorem group_typed (grounded : Grounded typeOf w.directory) {t : Int} {notice : Notice}
    {answer : Answer} (member : answer ∈ w.directory.control.toServerGroup t notice)
    (connection : w.directory.connections k = some answer.session) :
    answer.notice = notice ∧ t = (typeOf k).toInt := by
  have told : answer.notice ∈ w.told (w.directory.control.toServerGroup t notice) k :=
    mem_told.mpr ⟨answer, member, connection, rfl⟩
  by_cases reached : t = (typeOf k).toInt ∧ w.Covered typeOf k
  · obtain ⟨rfl, covered⟩ := reached
    rw [told_covered grounded covered, List.mem_singleton] at told
    exact ⟨told, rfl⟩
  · rw [told_uncovered grounded reached] at told
    contradiction

theorem mem_filesOf {configs : Configs} {serverType : BitVec 32} {file : ConfigFile}
    (member : file ∈ configs.filesOf serverType) :
    configs.readConfig serverType file.fileName = some file.content := by
  obtain ⟨⟨⟨type, name⟩, content⟩, found, rfl⟩ := List.mem_map.mp member
  obtain ⟨held, here⟩ := List.mem_filter.mp found
  obtain rfl : type = Int32.ofBitVec serverType := of_decide_eq_true here
  exact TreeMap.mem_toList_iff_getElem?_eq_some.mp held

theorem mem_sendAllConfigs {configs : Configs} {answer : Answer}
    (grounded : Grounded typeOf w.directory)
    (member : answer ∈ w.directory.control.sendAllConfigs configs)
    (connection : w.directory.connections k = some answer.session) :
    ∃ name content, answer.notice = .refreshConfig ⟨none, [⟨name, content⟩]⟩ ∧
      configs.readConfig (typeOf k) name = some content := by
  obtain ⟨⟨⟨type, name⟩, content⟩, held, sent⟩ := List.mem_flatMap.mp member
  obtain ⟨same, here⟩ := group_typed grounded sent connection
  refine ⟨name, content, same, ?_⟩
  have type : type = Int32.ofBitVec (typeOf k) := by
    refine Int32.toInt_inj.mp ?_
    rw [here, Int32.toInt_ofBitVec]
  rw [type] at held
  exact TreeMap.mem_toList_iff_getElem?_eq_some.mp held

theorem allTold_directory {kind : Notice → Prop} (kept : Kept typeOf w) (told : AllTold kind w k)
    {event : DirectoryEvent} {d : Directory}
    (moved : w.directory.step delegate controlServer event = some d) :
    AllTold kind (w.followed typeOf event d) k := by
  constructor
  · have fewer : (w.followed typeOf event d).pending k = [] ∨
        (w.followed typeOf event d).pending k = w.pending k := by
      rcases connections_step moved with ⟨server, rfl, free, rfl⟩ | ⟨server, -, -, away⟩ |
        ⟨-, -, same⟩
      · by_cases here : k = server
        · subst here
          have empty := kept.fresh w.directory.sessions (Nat.le_refl _)
          exact Or.inl (by simp [pending, followed, Directory.setConnection, empty])
        · exact Or.inr (pending_of_connection rfl (if_neg here))
      · by_cases here : k = server
        · refine Or.inl ?_
          unfold pending followed
          simp [away, Directory.setConnection, here]
        · refine Or.inr (pending_of_connection rfl ?_)
          show d.connections k = _
          rw [away]
          exact if_neg here
      · exact Or.inr (pending_of_connection rfl (congrFun same k))
    rcases fewer with nothing | same
    · rw [nothing]
      exact List.forall_mem_nil _
    · rw [same]
      exact told.onWay
  · intro name content member
    cases event with
    | restart server =>
      by_cases here : k = server
      · simp [followed, nodesOver, here] at member
      · simp only [followed, nodesOver, here, if_false] at member
        exact told.given name content member
    | connect | drop | sayHello | handleHello | serverTimeout | startupTimer | receive =>
      exact told.given name content member

theorem allTold_receive {kind : Notice → Prop} (kept : Kept typeOf w) (told : AllTold kind w k)
    {server : IPPort} (moved : w.receiveConfig server = some v) : AllTold kind v k := by
  obtain ⟨session, notice, rest, connection, down, rfl⟩ := receiveConfig_cases moved
  by_cases here : k = server
  · subst here
    have pending : w.pending k = notice :: rest := by
      simp [pending, connection, down]
    constructor
    · intro other member
      refine told.onWay other ?_
      rw [pending]
      have member : other ∈ rest := by simpa [ConfigDirectory.pending, connection] using member
      exact List.mem_cons_of_mem notice member
    · intro name content member
      have member : .onConfigRefresh name content ∈
          ((w.nodes k).recvFinishHandler notice).calls := by simpa using member
      rcases mem_calls_recv member with before | inside
      · exact told.given name content before
      · refine ⟨notice, told.onWay notice ?_, inside⟩
        rw [pending]
        exact List.mem_cons_self
  · constructor
    · intro other member
      refine told.onWay other ?_
      unfold ConfigDirectory.pending at member ⊢
      dsimp only at member
      cases current : w.directory.connections k with
      | none => simp [current] at member
      | some s =>
        have apart := sessions_apart kept.grounded here current connection
        simpa [current, apart] using member
    · intro name content member
      exact told.given name content (by simpa [here] using member)

theorem kept_step (kept : Kept typeOf w) {e : ConfigEvent} (typed : typed typeOf wire types w e)
    (moved : w.step delegate controlServer typeOf wire types e = some v) : Kept typeOf v := by
  cases e with
  | directory event =>
    obtain ⟨d, happened, rfl⟩ := Option.map_eq_some_iff.mp moved
    exact kept_directory kept typed happened
  | recv session disk data =>
    simp only [step, Option.ite_none_right_eq_some, Option.some.injEq] at moved
    obtain ⟨inside, rfl⟩ := moved
    exact kept_reacted kept (fun k => truthful_reaction kept.grounded typed)
      (fun answer member => inside_reaction kept.grounded inside member)
  | receive server => exact kept_receive kept moved

theorem Kept.delivered (kept : Kept typeOf w) : w.Delivered typeOf := by
  refine ⟨kept.arrives, ?_, ?_⟩
  · intro server name empty missed
    have arrives := kept.arrives server name missed
    unfold settled at arrives
    rw [empty] at arrives
    exact arrives
  · intro server
    have once := kept.once server
    unfold ConfigNode.InitializedOnce at once
    rw [once]
    split
    · exact Nat.le_refl 1
    · exact Nat.zero_le 1

theorem missed_reacted {reaction : Configs × List Answer} {name : Bytes}
    (missed : (w.reacted typeOf reaction).missed k name = true) :
    lastContent (w.toldFiles reaction.2 k) name = none ∧ (w.missed k name = true ∨
      reaction.1.readConfig (typeOf k) name ≠ w.configs.readConfig (typeOf k) name) := by
  simpa [reacted, missedAfter] using missed

theorem Kept.keepsUp (kept : Kept typeOf w) {e : ConfigEvent}
    (typed : ConfigDirectory.typed typeOf wire types w e)
    (moved : w.step delegate controlServer typeOf wire types e = some v) :
    w.KeepsUp typeOf wire types e v := by
  constructor
  · intro server covered connected name missed
    cases e with
    | directory event =>
      obtain ⟨d, -, rfl⟩ := Option.map_eq_some_iff.mp moved
      refine Or.inl ?_
      cases event with
      | drop other =>
        have apart : ¬server = other := fun same => connected same.symm
        simpa [followed, missedOver, apart] using missed
      | restart other =>
        have apart : ¬server = other := fun same => connected same.symm
        simpa [followed, missedOver, apart] using missed
      | connect | sayHello | handleHello | serverTimeout | startupTimer | receive => exact missed
    | recv session disk data =>
      simp only [step, Option.ite_none_right_eq_some, Option.some.injEq] at moved
      obtain ⟨-, rfl⟩ := moved
      obtain ⟨silent, reason⟩ := missed_reacted missed
      have truthful := truthful_reaction (k := server) kept.grounded typed
      rcases reason with before | changed
      · exact Or.inl before
      · exact Or.inr ((truthful.covered covered name silent).resolve_left changed)
    | receive other =>
      obtain ⟨session, -, moved⟩ := Option.bind_eq_some_iff.mp moved
      split at moved
      · contradiction
      · cases moved
        exact Or.inl missed
  · rintro session disk data init rfl request server owner name missed
    simp only [step, Option.ite_none_right_eq_some, Option.some.injEq] at moved
    obtain ⟨-, rfl⟩ := moved
    have answer : w.reaction wire types session disk data =
        ControlServer.answerInitialize w.configs session init := by
      unfold reaction ControlServer.recvFinishHandler
      rw [request]
      rfl
    have named : init.serverType = typeOf server := by
      have named := typed _ request
      rw [(kept.grounded.wired.connected server session owner).2] at named
      exact named
    rw [answer] at missed ⊢
    obtain ⟨silent, reason⟩ := missed_reacted missed
    have files : w.toldFiles (ControlServer.answerInitialize w.configs session init).2 server =
        w.configs.filesOf init.serverType := toldFiles_initialize owner
    rw [files, lastContent_filesOf, named] at silent
    exact ⟨reason.resolve_right (fun changed => changed rfl), silent⟩

/-- In every run each server holds, or is about to hold, each of its config files as the
    control server has it, unless the file was missed. -/
theorem configs_reach_servers {serverTypeMax : Nat} {disk : Disk}
    (run : Reach (step delegate controlServer typeOf wire types) (typed typeOf wire types)
      (initialized delegate controlServer typeOf serverTypeMax disk) w) :
    w.Delivered typeOf ∧ ∀ e v, typed typeOf wire types w e →
      w.step delegate controlServer typeOf wire types e = some v →
        w.KeepsUp typeOf wire types e v := by
  have kept : Kept typeOf w := by
    refine reach_invariant (Kept typeOf) (kept_initialized serverTypeMax disk) ?_ run
    exact fun _ _ _ kept typed moved => kept_step kept typed moved
  exact ⟨kept.delivered, fun e v typed moved => kept.keepsUp typed moved⟩

def asksAndFollows : List ConfigEvent :=
  [.directory (.connect firstServer),
    .recv 0 none ((Request.toInitialize ⟨5⟩).frame protobufWire numberedTypes),
    .receive firstServer, .directory (.sayHello firstServer 5), .directory (.handleHello 0),
    .recv 0 none ((Request.refreshConfig ⟨some 5, [⟨[97], [2]⟩]⟩).frame protobufWire numberedTypes),
    .receive firstServer]

theorem follows_new_version : ∃ w,
    Reach (step (fun _ => false) ⟨0x0a0000ff, 90, 1, 0⟩ (fun _ => 5) protobufWire numberedTypes)
      (typed (fun _ => 5) protobufWire numberedTypes)
      (initialized (fun _ => false) ⟨0x0a0000ff, 90, 1, 0⟩ (fun _ => 5) 13
        (some [((5, [97]), [1]), ((5, [98]), [3])])) w ∧
      w.Delivered (fun _ => 5) ∧ w.missed firstServer [97] = false ∧
      (w.nodes firstServer).calls = [.onConfigRefresh [97] [1], .onConfigRefresh [98] [3],
        .onConfigInitialized, .onConfigRefresh [97] [2]] := by
  obtain ⟨w, run, facts⟩ := execWithin_any
    (step (fun _ => false) ⟨0x0a0000ff, 90, 1, 0⟩ (fun _ => 5) protobufWire numberedTypes)
    (typed (fun _ => 5) protobufWire numberedTypes)
    (initialized (fun _ => false) ⟨0x0a0000ff, 90, 1, 0⟩ (fun _ => 5) 13
      (some [((5, [97]), [1]), ((5, [98]), [3])])) asksAndFollows
    (fun w => decide (w.missed firstServer [97] = false ∧
      (w.nodes firstServer).calls = [.onConfigRefresh [97] [1], .onConfigRefresh [98] [3],
        .onConfigInitialized, .onConfigRefresh [97] [2]])) (by decide +kernel)
  exact ⟨w, run, (configs_reach_servers run).1, of_decide_eq_true facts⟩

end runs

end ConfigDirectory

end LaluneServer.Control
