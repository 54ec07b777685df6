import LaluneServer.Version.Publishers

/- What publishers that race for the file of versions keep, what they lose, and what a client
   is told. Contents are compared by the versions that they describe: those of the file only
   grow, so a publication that comes too late is shorter than what it replaces. -/
namespace LaluneServer.Version

open Control NetLibPlus ServerCommon TaggedFields Transition
open ConfigDirectory VersionIformation

namespace VersionService

section clients
variable {first : String} {table : List VersionIformation}

theorem upgrades_of_linear (linear : Chains.Linear nowVersion nextVersion first table)
    (fits : ∀ entry ∈ table, entry.UrlsFit) : Upgrades first table := by
  constructor
  · rintro before behind rfl
    have passed : Chains.singlePass nowVersion nextVersion (before ++ behind)
        (Chains.stop nextVersion first before) = behind := by
      rw [Chains.singlePass_skip fun entry member => linear.of_append.ends member]
      exact Chains.singlePass_of_linked (Chains.linked_append.mp linear.linked).2
    rw [checkVersion_eq, passed,
      if_pos fun entry member => fits entry (List.mem_append_right before member)]
    refine ⟨_, rfl, ?_, fun path url => mem_file_iff behind path url, file_paths_nodup _⟩
    exact (Chains.stop_append first before behind).symm
  · intro version absent
    rw [checkVersion_eq, Chains.singlePass_absent absent, if_pos (List.forall_mem_nil _)]
    rfl

theorem checkVersion_congr {other : List VersionIformation} {version : String}
    (same : Chains.singlePass nowVersion nextVersion table version =
      Chains.singlePass nowVersion nextVersion other version) :
    checkVersion version table = checkVersion version other := by
  rw [checkVersion_eq, checkVersion_eq, same]

end clients

section tables
variable {json : JsonFile}

def contentsOf (calls : List DelegateCall) : List Bytes :=
  calls.filterMap fun call =>
    match call with
    | .onConfigRefresh _ content => some content
    | _ => none

theorem mem_contentsOf {calls : List DelegateCall} {content : Bytes} :
    content ∈ contentsOf calls ↔ ∃ name, .onConfigRefresh name content ∈ calls := by
  unfold contentsOf
  rw [List.mem_filterMap]
  constructor
  · rintro ⟨call, member, same⟩
    split at same
    · cases same
      exact ⟨_, member⟩
    · contradiction
  · rintro ⟨name, member⟩
    exact ⟨_, member, rfl⟩

theorem tableOf_foldl (calls : List DelegateCall) (versionInfor : List VersionIformation)
    (known : ∀ content ∈ contentsOf calls, (json.table content).isSome) :
    calls.foldl json.handleCall versionInfor = versionInfor ++
      ((contentsOf calls).map fun content => (json.table content).getD []).flatten := by
  induction calls generalizing versionInfor with
  | nil => exact (List.append_nil versionInfor).symm
  | cons call rest ih =>
    cases call with
    | onConfigRefresh name content =>
      have front : contentsOf (.onConfigRefresh name content :: rest) =
          content :: contentsOf rest := rfl
      rw [front, List.forall_mem_cons] at known
      obtain ⟨table, found⟩ := Option.isSome_iff_exists.mp known.1
      have pushed : json.handleCall versionInfor (.onConfigRefresh name content) =
          versionInfor ++ table :=
        congrArg Prod.fst (refresh_described found versionInfor)
      rw [List.foldl_cons, pushed, ih _ known.2, front, List.map_cons, found, List.flatten_cons,
        List.append_assoc]
      rfl
    | onConfigInitialized | onReceiveCmd | onReceiveOtherDataFromControlServer =>
      exact ih versionInfor known

theorem tableOf_eq {calls : List DelegateCall}
    (known : ∀ content ∈ contentsOf calls, (json.table content).isSome) :
    json.tableOf calls =
      ((contentsOf calls).map fun content => (json.table content).getD []).flatten :=
  tableOf_foldl calls [] known

end tables

section invariant
variable (json : JsonFile) (versionServer : BitVec 32) (typeOf : IPPort → BitVec 32)
  (start : List VersionIformation) (first : String) (s : VersionService)

/-- A content that described the versions at some time. It is the file if it has all. -/
def Known (content : Bytes) : Prop :=
  ∃ table, json.table content = some table ∧ table <+: s.entries start ∧
    (table = s.entries start →
      s.control.configs.readConfig versionServer versionFile = some content)

def Right (server : IPPort) : Notice → Prop
  | .refreshConfig rc => typeOf server = versionServer →
      ∀ file ∈ rc.file, s.Known json versionServer start file.content
  | .fetchConfigResponse cf => cf.fileName = versionFile →
      s.Known json versionServer start cf.content
  | _ => True

structure Prepared (sent : Publication) : Prop where
  inside : sent.session < s.control.directory.sessions
  known : s.Known json versionServer start sent.fetched
  follows : ∀ table, json.table sent.fetched = some table →
    json.table sent.content = some (table ++ [sent.update.entry]) ∧
      Continues first sent.update table
  fits : sent.update.entry.UrlsFit

structure Sound : Prop where
  kept : Kept typeOf s.control
  linear : Chains.Linear nowVersion nextVersion first (s.entries start)
  fits : ∀ entry ∈ s.entries start, entry.UrlsFit
  file : s.InFile json versionServer start
  only : ∀ name, (s.control.configs.readConfig versionServer name).isSome → name = versionFile
  told : ∀ server, AllTold (s.Right json versionServer typeOf start server) s.control server
  onWay : ∀ sent ∈ s.onWay, s.Prepared json versionServer start first sent

end invariant

section known
variable {json : JsonFile} {versionServer : BitVec 32} {typeOf : IPPort → BitVec 32}
  {start : List VersionIformation} {first : String} {s t : VersionService} {server : IPPort}

theorem known_same (published : t.published = s.published)
    (same : t.control.configs.readConfig versionServer versionFile =
      s.control.configs.readConfig versionServer versionFile) {content : Bytes}
    (known : s.Known json versionServer start content) :
    t.Known json versionServer start content := by
  unfold Known entries at known ⊢
  rw [published, same]
  exact known

theorem entries_more {update : UpdateVersion} (published : t.published = s.published ++ [update]) :
    t.entries start = s.entries start ++ [update.entry] := by
  unfold entries
  rw [published, List.map_append, ← List.append_assoc]
  rfl

theorem known_more {update : UpdateVersion} (published : t.published = s.published ++ [update])
    {content : Bytes} (known : s.Known json versionServer start content) :
    t.Known json versionServer start content := by
  obtain ⟨table, found, part, -⟩ := known
  refine ⟨table, found, ?_, ?_⟩
  · rw [entries_more published]
    exact part.trans (List.prefix_append _ _)
  · rintro rfl
    have longer := part.length_le
    rw [entries_more published, List.length_append] at longer
    exact absurd longer (Nat.not_succ_le_self _)

theorem right_mono (known : ∀ content, s.Known json versionServer start content →
    t.Known json versionServer start content) (notice : Notice)
    (right : s.Right json versionServer typeOf start server notice) :
    t.Right json versionServer typeOf start server notice := by
  cases notice with
  | refreshConfig rc => exact fun named file member => known _ (right named file member)
  | fetchConfigResponse cf => exact fun named => known _ (right named)
  | _ => trivial

theorem prepared_mono (known : ∀ content, s.Known json versionServer start content →
    t.Known json versionServer start content)
    (more : s.control.directory.sessions ≤ t.control.directory.sessions) {sent : Publication}
    (prepared : s.Prepared json versionServer start first sent) :
    t.Prepared json versionServer start first sent :=
  ⟨Nat.lt_of_lt_of_le prepared.inside more, known _ prepared.known, prepared.follows,
    prepared.fits⟩

theorem inFile_iff : s.InFile json versionServer start ↔
    ∃ content, s.control.configs.readConfig versionServer versionFile = some content ∧
      json.table content = some (s.entries start) :=
  Option.bind_eq_some_iff

theorem Sound.known_current (sound : s.Sound json versionServer typeOf start first)
    {content : Bytes}
    (current : s.control.configs.readConfig versionServer versionFile = some content) :
    s.Known json versionServer start content := by
  obtain ⟨other, found, described⟩ := inFile_iff.mp sound.file
  obtain rfl := Option.some.inj (found.symm.trans current)
  exact ⟨_, described, List.prefix_rfl, fun _ => found⟩

theorem Known.table {content : Bytes} (known : s.Known json versionServer start content) :
    (json.table content).isSome := by
  obtain ⟨table, found, -⟩ := known
  rw [found]
  rfl

end known

section requests
variable {json : JsonFile} {versionServer : BitVec 32} {typeOf : IPPort → BitVec 32}
  {start : List VersionIformation} {first : String} {s t : VersionService} {server : IPPort}
  {session : Session} {disk : Disk}

theorem Sound.known_read (sound : s.Sound json versionServer typeOf start first) {name : Bytes}
    {content : Bytes}
    (read : s.control.configs.readConfig versionServer name = some content) :
    s.Known json versionServer start content := by
  obtain rfl : name = versionFile := sound.only name (by rw [read]; rfl)
  exact sound.known_current read

theorem Reloads.same {configs : Configs} (reloads : Reloads versionServer configs disk)
    (name : Bytes) : (configs.initializeConfigs disk).readConfig versionServer name =
      configs.readConfig versionServer name := by
  rw [← lastContent_filesOf, reloads, lastContent_filesOf]

theorem command_configs (reloads : Reloads versionServer s.control.configs disk)
    (remoteIp : BitVec 32) (cmd : Option Command) (name : Bytes) :
    (s.control.directory.control.runCommand s.control.configs session disk remoteIp
      cmd).1.readConfig versionServer name = s.control.configs.readConfig versionServer name := by
  unfold ControlServer.runCommand
  dsimp only
  split
  · split
    · rfl
    · split
      · rfl
      · split
        · exact reloads.same name
        · rfl
  · rfl

theorem command_answers (sound : s.Sound json versionServer typeOf start first)
    (reloads : Reloads versionServer s.control.configs disk) {remoteIp : BitVec 32}
    {cmd : Option Command} {answer : Answer}
    (member : answer ∈ (s.control.directory.control.runCommand s.control.configs session disk
      remoteIp cmd).2)
    (connection : s.control.directory.connections server = some answer.session) :
    s.Right json versionServer typeOf start server answer.notice := by
  have result : ∀ text : Bytes, answer ∈ [⟨session, .commandResult ⟨text, []⟩⟩] →
      s.Right json versionServer typeOf start server answer.notice := by
    intro text member
    rw [List.mem_singleton.mp member]
    trivial
  unfold ControlServer.runCommand at member
  dsimp only at member
  split at member
  · split at member
    · exact result _ member
    · split at member
      · exact result _ member
      · split at member
        · rcases List.mem_append.mp member with sent | last
          · obtain ⟨name, content, same, read⟩ :=
              mem_sendAllConfigs sound.kept.grounded sent connection
            rw [same]
            intro named file member
            rw [List.mem_singleton.mp member]
            rw [named, reloads.same] at read
            exact sound.known_read read
          · exact result _ last
        · exact result _ member
  · contradiction

theorem request_configs {request : Request} (leaves : leavesFile versionServer request)
    (reloads : Reloads versionServer s.control.configs disk) (remoteIp : BitVec 32)
    (name : Bytes) :
    (s.control.directory.control.handle s.control.configs session disk remoteIp
      request).1.readConfig versionServer name =
        s.control.configs.readConfig versionServer name := by
  cases request with
  | refreshConfig rc =>
    simp only [ControlServer.handle, ControlServer.refreshConfig]
    split
    · rfl
    · exact readConfig_writes_other leaves _ _ _
  | command cmd => exact command_configs reloads remoteIp (some cmd) name
  | toInitialize | sayHello | cmd2Server | fetchConfig => rfl

theorem request_answers (sound : s.Sound json versionServer typeOf start first)
    {request : Request} (leaves : leavesFile versionServer request)
    (reloads : Reloads versionServer s.control.configs disk)
    (named : s.control.directory.connections server = some session →
      namesType (typeOf server) request) {remoteIp : BitVec 32} {answer : Answer}
    (member : answer ∈ (s.control.directory.control.handle s.control.configs session disk
      remoteIp request).2)
    (connection : s.control.directory.connections server = some answer.session) :
    s.Right json versionServer typeOf start server answer.notice := by
  cases request with
  | toInitialize init =>
    obtain rfl := List.mem_singleton.mp member
    intro version file inside
    have typed : init.serverType = typeOf server := named connection
    rw [typed, version] at inside
    exact sound.known_read (mem_filesOf inside)
  | sayHello hello => contradiction
  | cmd2Server cmd =>
    rw [(group_typed sound.kept.grounded member connection).1]
    trivial
  | refreshConfig rc =>
    simp only [ControlServer.handle, ControlServer.refreshConfig] at member
    split at member
    · contradiction
    · rcases List.mem_append.mp member with sent | last
      · obtain ⟨-, -, sent⟩ := List.mem_flatMap.mp sent
        obtain ⟨same, type⟩ := group_typed sound.kept.grounded sent connection
        rw [same]
        intro version
        exact absurd ((BitVec.toInt_inj.mp type).trans version) leaves
      · rw [List.mem_singleton.mp last]
        trivial
  | fetchConfig fc =>
    obtain rfl := List.mem_singleton.mp member
    intro (named : fc.fileName = versionFile)
    have type := leaves named
    obtain ⟨content, read, -⟩ := inFile_iff.mp sound.file
    show s.Known json versionServer start
      ((s.control.configs.readConfig (fc.serverType.getD 0) fc.fileName).getD [])
    rw [type, named, read]
    exact sound.known_current read
  | command cmd => exact command_answers sound reloads member connection

end requests

section steps
variable {json : JsonFile} {versionServer : BitVec 32} {typeOf : IPPort → BitVec 32}
  {start : List VersionIformation} {first : String} {s t : VersionService}
  {delegate : Int → Bool} {controlServer : ServerInfo} {wire : WireFormat} {types : MessageTypes}

theorem Sound.unwritten (sound : s.Sound json versionServer typeOf start first)
    (published : t.published = s.published)
    (same : ∀ name, t.control.configs.readConfig versionServer name =
      s.control.configs.readConfig versionServer name)
    (more : s.control.directory.sessions ≤ t.control.directory.sessions)
    (kept : Kept typeOf t.control)
    (told : ∀ server, AllTold (s.Right json versionServer typeOf start server) t.control server)
    (onWay : ∀ sent ∈ t.onWay, s.Prepared json versionServer start first sent) :
    t.Sound json versionServer typeOf start first := by
  have entries : t.entries start = s.entries start := by
    unfold VersionService.entries
    rw [published]
  have known : ∀ content, s.Known json versionServer start content →
      t.Known json versionServer start content :=
    fun _ => known_same published (same versionFile)
  refine ⟨kept, entries ▸ sound.linear, entries ▸ sound.fits, ?_, ?_, ?_, ?_⟩
  · unfold InFile
    rw [entries, same]
    exact sound.file
  · intro name held
    rw [same] at held
    exact sound.only name held
  · exact fun server => (told server).imp (right_mono known)
  · exact fun sent member => prepared_mono known more (onWay sent member)

theorem sound_recv (sound : s.Sound json versionServer typeOf start first) {session : Session}
    {disk : Disk} {data : Bytes} (inside : session < s.control.directory.sessions)
    (orderly : s.orderly json versionServer first typeOf wire types
      (.config (.recv session disk data))) :
    Sound json versionServer typeOf start first { s with
      control := s.control.reacted typeOf (s.control.reaction wire types session disk data) } := by
  obtain ⟨typed, reloads, leaves⟩ := orderly
  have grounded := sound.kept.grounded
  have kept := kept_reacted sound.kept (fun k => truthful_reaction (k := k) grounded typed)
    (fun answer member => inside_reaction grounded inside member)
  have reaction : (∀ name, (s.control.reaction wire types session disk data).1.readConfig
        versionServer name = s.control.configs.readConfig versionServer name) ∧
      ∀ server answer, answer ∈ (s.control.reaction wire types session disk data).2 →
        s.control.directory.connections server = some answer.session →
          s.Right json versionServer typeOf start server answer.notice := by
    unfold ConfigDirectory.reaction ControlServer.recvFinishHandler
    cases received : recvRequest wire types data with
    | none =>
      dsimp only
      split
      · exact ⟨command_configs reloads _ none, fun server answer member connection =>
          command_answers sound reloads member connection⟩
      · exact ⟨fun _ => rfl, nofun⟩
    | some request =>
      have leaves := leaves request received
      refine ⟨request_configs leaves reloads _, fun server answer member connection => ?_⟩
      refine request_answers sound leaves reloads (fun owner => ?_) member connection
      have named := typed request received
      rw [(grounded.wired.connected server session owner).2] at named
      exact named
  refine sound.unwritten rfl reaction.1 (Nat.le_refl _) kept ?_ sound.onWay
  intro server
  refine allTold_reacted (sound.told server) ?_
  intro notice member
  obtain ⟨answer, sent, connection, rfl⟩ := mem_told.mp member
  exact reaction.2 server answer sent connection

theorem sound_config (sound : s.Sound json versionServer typeOf start first) {e : ConfigEvent}
    (orderly : s.orderly json versionServer first typeOf wire types (.config e))
    {control : ConfigDirectory}
    (moved : s.control.step delegate controlServer typeOf wire types e = some control) :
    Sound json versionServer typeOf start first { s with control := control } := by
  cases e with
  | directory event =>
    obtain ⟨d, happened, rfl⟩ := Option.map_eq_some_iff.mp moved
    exact sound.unwritten rfl (fun _ => rfl) (sessions_le_step happened)
      (kept_directory sound.kept orderly happened)
      (fun server => allTold_directory sound.kept (sound.told server) happened) sound.onWay
  | recv session disk data =>
    simp only [ConfigDirectory.step, Option.ite_none_right_eq_some, Option.some.injEq] at moved
    obtain ⟨inside, rfl⟩ := moved
    exact sound_recv sound inside orderly
  | receive server =>
    obtain ⟨configs, directory⟩ := receiveConfig_frame moved
    exact sound.unwritten rfl (fun _ => by rw [configs]) (by rw [directory])
      (kept_receive sound.kept moved)
      (fun server => allTold_receive sound.kept (sound.told server) moved) sound.onWay

theorem table_bytesOf (json : JsonFile) (text : String) :
    json.table (bytesOf text) = described json.readJson text := by
  unfold JsonFile.table described JsonFile.readJson
  rw [bytesOf_textOf]

theorem entry_of_plain {update : UpdateVersion}
    (plain : ∀ part ∈ update.fileName ++ update.fileUrl, '|' ∉ part.toList) :
    update.node.versionIformation = update.entry := by
  obtain ⟨names, urls⟩ := List.forall_mem_append.mp plain
  unfold UpdateVersion.entry Node.versionIformation UpdateVersion.node
  dsimp only
  rw [getVerctor_joinParts names, getVerctor_joinParts urls]

theorem prepared_fetched {session : Session} {outputJson : PTree} {cf : ConfigFile}
    {sent : Publication} (inside : session < s.control.directory.sessions)
    (known : cf.fileName = versionFile → s.Known json versionServer start cf.content)
    (continues : ∀ update ∈ input outputJson, ∀ table ∈ json.table cf.content,
      Continues first update table)
    (published : json.onFetched session outputJson cf = some sent) :
    s.Prepared json versionServer start first sent := by
  unfold JsonFile.onFetched at published
  split at published
  · rename_i named
    obtain ⟨update, collected, published⟩ := Option.bind_eq_some_iff.mp published
    split at published
    · rename_i fileName outstr sent
      cases published
      obtain ⟨before, read, written⟩ := described_sendIformation json.read_write sent
      have continues := continues update collected before read
      refine ⟨inside, known named, ?_, input_urls_fit collected |>.le⟩
      intro table found
      obtain rfl : before = table := Option.some.inj (read.symm.trans found)
      refine ⟨?_, continues⟩
      rw [table_bytesOf, written, entry_of_plain continues.plain]
    · contradiction
    · contradiction
  · contradiction

theorem fetched_onWay {publisher : IPPort} {session : Session} {cf : ConfigFile}
    (found : s.fetched publisher = some (session, cf)) :
    s.control.directory.connections publisher = some session ∧
      .fetchConfigResponse cf ∈ s.control.pending publisher := by
  obtain ⟨other, connection, found⟩ := Option.bind_eq_some_iff.mp found
  split at found
  · rename_i cf rest down
    cases found
    exact ⟨connection, by simp [ConfigDirectory.pending, connection, down]⟩
  · contradiction

theorem sound_publish (sound : s.Sound json versionServer typeOf start first)
    {publisher : IPPort} {outputJson : PTree}
    (orderly : s.orderly json versionServer first typeOf wire types
      (.publish publisher outputJson))
    (moved : s.step json versionServer delegate controlServer typeOf wire types
      (.publish publisher outputJson) = some t) :
    t.Sound json versionServer typeOf start first := by
  obtain ⟨⟨session, cf⟩, found, moved⟩ := Option.bind_eq_some_iff.mp moved
  obtain ⟨control, received, rfl⟩ := Option.map_eq_some_iff.mp moved
  obtain ⟨configs, directory⟩ := receiveConfig_frame received
  refine sound.unwritten rfl (fun _ => by rw [configs]) (by rw [directory])
    (kept_receive sound.kept received)
    (fun server => allTold_receive sound.kept (sound.told server) received) ?_
  intro sent member
  rcases List.mem_append.mp member with before | new
  · exact sound.onWay sent before
  · obtain ⟨connection, waits⟩ := fetched_onWay found
    have inside := (sound.kept.grounded.wired.connected publisher session connection).1
    have right := (sound.told publisher).onWay _ waits
    have continues := orderly (session, cf) found
    exact prepared_fetched inside right continues (Option.mem_toList.mp new)

theorem kept_refreshed (kept : Kept typeOf s.control) {sent : Publication} (i : Nat)
    (inside : sent.session < s.control.directory.sessions) :
    Kept typeOf (s.refreshed versionServer typeOf i sent).control :=
  kept_reacted kept (fun k => truthful_refreshConfig (k := k) kept.grounded sent.session _)
    (fun _ member => inside_refreshConfig kept.grounded inside member)

theorem sound_unheard (sound : s.Sound json versionServer typeOf start first)
    (alone : s.hasGroup versionServer = false) {i : Nat} {sent : Publication}
    (waiting : sent ∈ s.onWay) :
    (s.refreshed versionServer typeOf i sent).Sound json versionServer typeOf start first := by
  have nobody : s.control.directory.control.serverGroups[versionServer.toInt]? = none :=
    Option.not_isSome_iff_eq_none.mp (Bool.eq_false_iff.mp alone)
  have kept : Kept typeOf (s.refreshed versionServer typeOf i sent).control :=
    kept_refreshed sound.kept i (sound.onWay sent waiting).inside
  have silent : s.control.directory.control.refreshConfig s.control.configs sent.session
      (sent.request versionServer) = (s.control.configs, []) := refreshConfig_unknown nobody
  refine sound.unwritten ?_ ?_ (Nat.le_refl _) kept ?_ ?_
  · show (if s.hasGroup versionServer then _ else _) = _
    rw [if_neg (by rw [alone]; exact Bool.false_ne_true)]
  · intro name
    unfold refreshed
    rw [silent]
    rfl
  · intro server
    unfold refreshed
    rw [silent]
    refine allTold_reacted (sound.told server) ?_
    intro notice member
    obtain ⟨_, none, _⟩ := mem_told.mp member
    contradiction
  · exact fun other member => sound.onWay other (List.mem_of_mem_eraseIdx member)

theorem refreshConfig_sent {sent : Publication} {group : ServerGroup}
    (known : s.control.directory.control.serverGroups[versionServer.toInt]? = some group) :
    s.control.directory.control.refreshConfig s.control.configs sent.session
      (sent.request versionServer) =
        (s.control.configs.writeConfig versionServer ⟨versionFile, sent.content⟩,
          s.control.directory.control.sendConfigToServerGroup versionServer.toInt
            (sent.request versionServer) ++ [⟨sent.session, .refreshConfigResponse⟩]) := by
  have answered : s.control.directory.control.refreshConfig s.control.configs sent.session
      (sent.request versionServer) = _ := refreshConfig_known known
  rw [answered]
  simp [Publication.request]

section written
variable {i : Nat} {sent : Publication} (sound : s.Sound json versionServer typeOf start first)
  (group : s.hasGroup versionServer = true) (waiting : sent ∈ s.onWay)

include group in
theorem refreshed_published : (s.refreshed versionServer typeOf i sent).published =
    s.published ++ [sent.update] := if_pos group

include group in
theorem refreshed_reads (name : Bytes) :
    (s.refreshed versionServer typeOf i sent).control.configs.readConfig versionServer name =
      if versionFile = name then some sent.content
      else s.control.configs.readConfig versionServer name := by
  obtain ⟨members, known⟩ := Option.isSome_iff_exists.mp group
  have written : (s.refreshed versionServer typeOf i sent).control.configs =
      s.control.configs.writeConfig versionServer ⟨versionFile, sent.content⟩ := by
    unfold refreshed ConfigDirectory.reacted
    rw [refreshConfig_sent known]
  rw [written, readConfig_writeConfig]
  exact if_congr (and_iff_right rfl) rfl rfl

include group in
theorem right_refreshed (grounded : Grounded typeOf s.control.directory)
    (known : (s.refreshed versionServer typeOf i sent).Known json versionServer start sent.content)
    {server : IPPort} {answer : Answer}
    (member : answer ∈ (s.control.directory.control.refreshConfig s.control.configs sent.session
      (sent.request versionServer)).2)
    (connection : s.control.directory.connections server = some answer.session) :
    (s.refreshed versionServer typeOf i sent).Right json versionServer typeOf start server
      answer.notice := by
  obtain ⟨members, held⟩ := Option.isSome_iff_exists.mp group
  rw [refreshConfig_sent held] at member
  rcases List.mem_append.mp member with toGroup | last
  · rw [(group_typed grounded toGroup connection).1]
    intro _ file inside
    rw [List.mem_singleton.mp inside]
    exact known
  · rw [List.mem_singleton.mp last]
    trivial

include sound group waiting

theorem inFile_refreshed : (s.refreshed versionServer typeOf i sent).InFile json versionServer
    start ↔ s.control.configs.readConfig versionServer versionFile = some sent.fetched := by
  have prepared := sound.onWay sent waiting
  obtain ⟨before, found, part, whole⟩ := prepared.known
  have new := (prepared.follows before found).1
  have entries : (s.refreshed versionServer typeOf i sent).entries start =
      s.entries start ++ [sent.update.entry] := entries_more (refreshed_published group)
  have same : (s.refreshed versionServer typeOf i sent).InFile json versionServer start ↔
      before = s.entries start := by
    unfold InFile
    rw [refreshed_reads group, if_pos rfl, Option.bind_some, new, entries, Option.some.injEq,
      List.append_left_inj]
  rw [same]
  refine ⟨whole, fun current => ?_⟩
  obtain ⟨content, read, described⟩ := inFile_iff.mp sound.file
  obtain rfl := Option.some.inj (read.symm.trans current)
  exact Option.some.inj (found.symm.trans described)

theorem sound_refreshed
    (current : s.control.configs.readConfig versionServer versionFile = some sent.fetched) :
    (s.refreshed versionServer typeOf i sent).Sound json versionServer typeOf start first := by
  have prepared := sound.onWay sent waiting
  have grounded := sound.kept.grounded
  have file : (s.refreshed versionServer typeOf i sent).InFile json versionServer start :=
    (inFile_refreshed sound group waiting).mpr current
  obtain ⟨content, read, described⟩ := inFile_iff.mp sound.file
  obtain rfl := Option.some.inj (read.symm.trans current)
  obtain ⟨new, continues⟩ := prepared.follows _ described
  have more : (s.refreshed versionServer typeOf i sent).entries start =
      s.entries start ++ [sent.update.entry] := entries_more (refreshed_published group)
  have known : ∀ content, s.Known json versionServer start content →
      (s.refreshed versionServer typeOf i sent).Known json versionServer start content :=
    fun _ => known_more (refreshed_published group)
  refine ⟨kept_refreshed sound.kept i prepared.inside, ?_, ?_, file, ?_, ?_, ?_⟩
  · rw [more]
    exact sound.linear.concat continues.from_newest continues.new
  · rw [more, List.forall_mem_append]
    exact ⟨sound.fits, fun entry member => List.mem_singleton.mp member ▸ prepared.fits⟩
  · intro name held
    rw [refreshed_reads group] at held
    split at held
    · rename_i here
      exact here.symm
    · exact sound.only name held
  · intro server
    refine allTold_reacted ((sound.told server).imp (right_mono known)) ?_
    intro notice member
    obtain ⟨answer, sentTo, connection, rfl⟩ := mem_told.mp member
    refine right_refreshed group grounded ?_ sentTo connection
    refine ⟨_, new, by rw [more], fun _ => ?_⟩
    rw [refreshed_reads group, if_pos rfl]
  · intro other member
    exact prepared_mono known (Nat.le_refl _) (sound.onWay other (List.mem_of_mem_eraseIdx member))

end written

theorem sound_step (sound : s.Sound json versionServer typeOf start first) {e : VersionEvent}
    (orderly : s.orderly json versionServer first typeOf wire types e)
    (upToDate : s.upToDate versionServer e)
    (moved : s.step json versionServer delegate controlServer typeOf wire types e = some t) :
    t.Sound json versionServer typeOf start first := by
  cases e with
  | config event =>
    obtain ⟨control, happened, rfl⟩ := Option.map_eq_some_iff.mp moved
    exact sound_config sound orderly happened
  | publish publisher outputJson => exact sound_publish sound orderly moved
  | refresh i =>
    obtain ⟨sent, found, rfl⟩ := Option.map_eq_some_iff.mp moved
    have waiting := List.mem_of_getElem? found
    cases group : s.hasGroup versionServer with
    | false => exact sound_unheard sound group waiting
    | true => exact sound_refreshed sound group waiting (upToDate sent found group)
  | lose i =>
    obtain ⟨sent, -, rfl⟩ := Option.map_eq_some_iff.mp moved
    refine sound.unwritten rfl (fun _ => rfl) (Nat.le_refl _) sound.kept sound.told ?_
    exact fun other member => sound.onWay other (List.mem_of_mem_eraseIdx member)

theorem inFile_step (sound : s.Sound json versionServer typeOf start first) {e : VersionEvent}
    (orderly : s.orderly json versionServer first typeOf wire types e)
    (moved : s.step json versionServer delegate controlServer typeOf wire types e = some t) :
    t.InFile json versionServer start ↔ s.upToDate versionServer e := by
  refine ⟨fun inFile => ?_, fun upToDate => (sound_step sound orderly upToDate moved).file⟩
  cases e with
  | refresh i =>
    obtain ⟨sent, found, rfl⟩ := Option.map_eq_some_iff.mp moved
    intro other same group
    obtain rfl := Option.some.inj (found.symm.trans same)
    exact (inFile_refreshed sound group (List.mem_of_getElem? found)).mp inFile
  | config | publish | lose => trivial

theorem sound_started {serverTypeMax : Nat} {disk : Disk}
    (started : Started json versionServer first start disk) :
    Sound json versionServer typeOf start first
      { control := initialized delegate controlServer typeOf serverTypeMax disk } := by
  obtain ⟨content, files, described⟩ := started.file
  have reads : ∀ name, (Configs.initializeConfigs ∅ disk).readConfig versionServer name =
      if versionFile = name then some content else none := by
    intro name
    rw [← lastContent_filesOf, files, lastContent_cons]
    rfl
  have entries : VersionService.entries start
      { control := initialized delegate controlServer typeOf serverTypeMax disk } = start :=
    List.append_nil start
  refine ⟨kept_initialized serverTypeMax disk, ?_, ?_, ?_, ?_, ?_, nofun⟩
  · rw [entries]
    exact started.linear
  · rw [entries]
    exact started.fits
  · rw [inFile_iff, entries]
    exact ⟨content, (reads versionFile).trans (if_pos rfl), described⟩
  · intro name held
    have held : ((Configs.initializeConfigs ∅ disk).readConfig versionServer name).isSome := held
    rw [reads] at held
    split at held
    · rename_i here
      exact here.symm
    · contradiction
  · exact fun server => ⟨nofun, nofun⟩

theorem mem_of_held {node : ConfigNode} {name content : Bytes}
    (held : node.held name = some content) : content ∈ contentsOf node.calls := by
  obtain ⟨call, member, given⟩ := List.mem_filterMap.mp (List.mem_of_getLast? held)
  unfold DelegateCall.content at given
  split at given
  · obtain ⟨-, same⟩ := Option.ite_none_right_eq_some.mp given
    obtain rfl := Option.some.inj same
    exact mem_contentsOf.mpr ⟨_, member⟩
  · contradiction

theorem Sound.given (sound : s.Sound json versionServer typeOf start first) {server : IPPort}
    (named : typeOf server = versionServer) {content : Bytes}
    (member : content ∈ contentsOf (s.control.nodes server).calls) :
    s.Known json versionServer start content := by
  obtain ⟨name, called⟩ := mem_contentsOf.mp member
  obtain ⟨notice, right, inside⟩ := (sound.told server).given name content called
  cases notice with
  | refreshConfig rc => exact right named ⟨name, content⟩ inside
  | _ => exact absurd inside List.not_mem_nil

theorem Sound.served (sound : s.Sound json versionServer typeOf start first) {server : IPPort}
    (named : typeOf server = versionServer) :
    s.Served json start server := by
  let tables := (contentsOf (s.control.nodes server).calls).map fun content =>
    (json.table content).getD []
  have table : json.tableOf (s.control.nodes server).calls = tables.flatten :=
    tableOf_eq fun content member => (sound.given named member).table
  have parts : ∀ table ∈ tables, table <+: s.entries start := by
    intro table member
    obtain ⟨content, given, rfl⟩ := List.mem_map.mp member
    obtain ⟨table, found, part, -⟩ := sound.given named given
    rw [found]
    exact part
  have answers : ∀ version, checkVersion version tables.flatten =
      checkVersion version ((s.entries start).take (Chains.longest tables)) := fun version =>
    checkVersion_congr (Chains.singlePass_prefixes sound.linear parts version)
  refine ⟨?_, ⟨_, List.take_prefix (Chains.longest tables) _, fun version => ?_⟩, ?_⟩
  · intro name content called table
    obtain ⟨_, found, -⟩ := sound.given named (mem_contentsOf.mpr ⟨name, called⟩)
    exact congrArg Prod.snd (refresh_described found table)
  · rw [table, answers]
  · intro nothing missed version
    obtain ⟨content, read, described⟩ := inFile_iff.mp sound.file
    have held := sound.kept.delivered.arrived server versionFile nothing missed
    rw [named, read] at held
    have whole : s.entries start ∈ tables := by
      refine List.mem_map.mpr ⟨content, mem_of_held held, ?_⟩
      rw [described]
      rfl
    rw [table, answers, List.take_of_length_le (Chains.length_le_longest whole)]

end steps

section runs
variable {json : JsonFile} {versionServer : BitVec 32} {typeOf : IPPort → BitVec 32}
  {start : List VersionIformation} {first : String} {s : VersionService} {delegate : Int → Bool}
  {controlServer : ServerInfo} {wire : WireFormat} {types : MessageTypes} {serverTypeMax : Nat}
  {disk : Disk}

theorem textOf_oneVersion {path url text : String} {tree : PTree}
    (ascii : textOf (bytesOf (oneVersion path url)) = oneVersion path url)
    (written : writeOneVersion path url tree = some text) : textOf (bytesOf text) = text := by
  unfold writeOneVersion at written
  split at written
  · obtain ⟨-, same⟩ := Option.ite_none_right_eq_some.mp written
    exact Option.some.inj same ▸ ascii
  · contradiction

def oneVersionFile : JsonFile where
  parse bytes := readOneVersion "a|" "b|" (textOf bytes)
  print tree := (writeOneVersion "a|" "b|" tree).map bytesOf
  parse_print := by
    intro tree bytes printed
    obtain ⟨text, written, rfl⟩ := Option.map_eq_some_iff.mp printed
    have same : textOf (bytesOf text) = text := textOf_oneVersion (by decide +kernel) written
    exact (congrArg (readOneVersion "a|" "b|") same).trans
      (read_writeOneVersion "a|" "b|" tree text written)

def addedFile : PTree :=
  .node "" [("from", .node "1.0" []), ("to", .node "1.1" []),
    ("A", .node "" [("", .node "" [("name", .node "a" []), ("path", .node "b" [])])]),
    ("D", .node "" [])]

def publisherAddress : IPPort := (0x0a000002, 7001)

def isPublisher (ipPort : IPPort) : BitVec 32 := if ipPort = publisherAddress then 14 else 2

def publishesOne : List VersionEvent :=
  [.config (.directory (.connect Directory.firstServer)),
    .config (.recv 0 none ((Request.toInitialize ⟨2⟩).frame protobufWire numberedTypes)),
    .config (.receive Directory.firstServer),
    .config (.directory (.sayHello Directory.firstServer 2)),
    .config (.directory (.handleHello 0)),
    .config (.directory (.connect publisherAddress)),
    .config (.recv 1 none ((Request.fetchConfig ⟨some 2, versionFile⟩).frame protobufWire
      numberedTypes)),
    .publish publisherAddress addedFile, .refresh 0,
    .config (.receive Directory.firstServer)]

end runs

end VersionService

end LaluneServer.Version
