import LaluneServer.Control.ConfigCopies
import LaluneServer.Version.Publishing

/- Version publishers and version servers at one control server. A publisher fetches the file
   of versions, appends its own and sends the whole file back, so two publishers can be at work
   on the same content. Requests arrive as they were sent: that is what `Language.Faithful`
   says of them. -/
namespace LaluneServer.Version

open Control NetLibPlus ServerCommon TaggedFields Transition

def textOf (bytes : Bytes) : String := String.ofList (bytes.map fun byte => Char.ofNat byte.toNat)

theorem bytesOf_textOf (bytes : Bytes) : bytesOf (textOf bytes) = bytes := by
  unfold bytesOf textOf
  rw [String.toList_ofList, List.map_map]
  refine List.map_id'' (fun byte => ?_) bytes
  have small : byte.toNat < 256 := byte.isLt
  have valid : byte.toNat.isValidChar := Or.inl (by omega)
  have same : (Char.ofNat byte.toNat).toNat = byte.toNat := by
    rw [Char.ofNat, dif_pos valid]
    rfl
  rw [Function.comp_apply, same, BitVec.ofNat_toNat, BitVec.setWidth_eq]

structure JsonFile where
  parse : Bytes → Option PTree
  print : PTree → Option Bytes
  parse_print : ∀ tree bytes, print tree = some bytes → parse bytes = some tree

namespace JsonFile
variable (json : JsonFile)

def readJson (text : String) : Option PTree := json.parse (bytesOf text)

def writeJson (tree : PTree) : Option String := (json.print tree).map textOf

theorem read_write (tree : PTree) (text : String) (written : json.writeJson tree = some text) :
    json.readJson text = some tree := by
  obtain ⟨bytes, printed, rfl⟩ := Option.map_eq_some_iff.mp written
  rw [readJson, bytesOf_textOf]
  exact json.parse_print tree bytes printed

def table (content : Bytes) : Option (List VersionIformation) :=
  described json.readJson (textOf content)

end JsonFile

def versionFile : Bytes := bytesOf UpdateVersion.configFileName

/-- What a publisher sent for a content that it had fetched. -/
structure Publication where
  session : Session
  fetched : Bytes
  update : UpdateVersion
  content : Bytes

def Publication.request (versionServer : BitVec 32) (sent : Publication) : RefreshConfig :=
  ⟨some versionServer, [⟨versionFile, sent.content⟩]⟩

/-- `onReceiveOtherDataFromControlServer` of VersionPublisher, for the answer to its fetch. An
    exception ends the process. -/
def JsonFile.onFetched (json : JsonFile) (session : Session) (outputJson : PTree)
    (cf : ConfigFile) : Option Publication :=
  if cf.fileName = versionFile then
    (input outputJson).bind fun update =>
      match update.sendIformation json.readJson json.writeJson (textOf cf.content) with
      | .refreshConfig _ outstr => some
          { session := session, fetched := cf.content, update := update,
            content := bytesOf outstr }
      | .nothing => none
      | .thrown => none
  else none

/-- The delegate of VersionServer. A command is parsed and dropped. -/
def JsonFile.handleCall (json : JsonFile) (versionInfor : List VersionIformation) :
    DelegateCall → List VersionIformation
  | .onConfigRefresh _ content => (onConfigRefresh json.readJson versionInfor (textOf content)).1
  | .onConfigInitialized | .onReceiveCmd .. | .onReceiveOtherDataFromControlServer _ =>
    versionInfor

def JsonFile.tableOf (json : JsonFile) (calls : List DelegateCall) : List VersionIformation :=
  calls.foldl json.handleCall []

def UpdateVersion.entry (update : UpdateVersion) : VersionIformation where
  filePath := update.fileName
  fileUrl := update.fileUrl
  nowVersion := update.proVersion
  nextVersion := update.nowVersion

/-- `published` is a ghost: the versions whose files were written, in that order. -/
structure VersionService where
  control : ConfigDirectory
  onWay : List Publication := []
  published : List UpdateVersion := []

inductive VersionEvent
  | config (event : ConfigEvent)
  | publish (publisher : IPPort) (outputJson : PTree)
  | refresh (i : Nat)
  | lose (i : Nat)

namespace VersionService
variable (json : JsonFile) (versionServer : BitVec 32)

section steps
variable (delegate : Int → Bool) (controlServer : ServerInfo) (typeOf : IPPort → BitVec 32)
  (wire : WireFormat) (types : MessageTypes) (s : VersionService)

/-- The answer that a publisher receives next, with its session. -/
def fetched (publisher : IPPort) : Option (Session × ConfigFile) :=
  (s.control.directory.connections publisher).bind fun session =>
    match s.control.down session with
    | .fetchConfigResponse cf :: _ => some (session, cf)
    | _ => none

/-- Without a group of version servers nothing is written. -/
def hasGroup : Bool := s.control.directory.control.serverGroups[versionServer.toInt]?.isSome

def refreshed (i : Nat) (sent : Publication) : VersionService where
  control := s.control.reacted typeOf (s.control.directory.control.refreshConfig
    s.control.configs sent.session (sent.request versionServer))
  onWay := s.onWay.eraseIdx i
  published := if s.hasGroup versionServer then s.published ++ [sent.update] else s.published

/-- Publications may arrive in any order. -/
def step : VersionEvent → Option VersionService
  | .config event =>
    (s.control.step delegate controlServer typeOf wire types event).map fun control =>
      { s with control := control }
  | .publish publisher outputJson => (s.fetched publisher).bind fun (session, cf) =>
      (s.control.receiveConfig publisher).map fun control =>
        { s with
          control := control
          onWay := s.onWay ++ (json.onFetched session outputJson cf).toList }
  | .refresh i => s.onWay[i]?.map (s.refreshed versionServer typeOf i)
  | .lose i => s.onWay[i]?.map fun _ => { s with onWay := s.onWay.eraseIdx i }

end steps

section guards
variable (first : String) (typeOf : IPPort → BitVec 32) (wire : WireFormat)
  (types : MessageTypes) (s : VersionService)

/-- Nobody but a publisher refreshes files of version servers, and who fetches the file of
    versions names them. -/
def leavesFile : Request → Prop
  | .refreshConfig rc => rc.serverType.getD 0 ≠ versionServer
  | .fetchConfig fc => fc.fileName = versionFile → fc.serverType.getD 0 = versionServer
  | _ => True

instance : (request : Request) → Decidable (leavesFile versionServer request)
  | .refreshConfig _ => inferInstanceAs (Decidable (¬ _ = _))
  | .fetchConfig _ => inferInstanceAs (Decidable (_ → _))
  | .toInitialize _ | .sayHello _ | .cmd2Server _ | .command _ => isTrue trivial

def Reloads (configs : Configs) (disk : Disk) : Prop :=
  (configs.initializeConfigs disk).filesOf versionServer = configs.filesOf versionServer

instance (configs : Configs) (disk : Disk) : Decidable (Reloads versionServer configs disk) :=
  inferInstanceAs (Decidable (_ = _))

structure Continues (update : UpdateVersion) (table : List VersionIformation) : Prop where
  from_newest : update.proVersion =
    Chains.stop VersionIformation.nextVersion first table
  new : update.nowVersion ∉ first :: table.map VersionIformation.nextVersion
  plain : ∀ part ∈ update.fileName ++ update.fileUrl, '|' ∉ part.toList

instance (update : UpdateVersion) (table : List VersionIformation) :
    Decidable (Continues first update table) :=
  decidable_of_iff (_ ∧ _ ∧ _) ⟨fun ⟨from_newest, new, plain⟩ => ⟨from_newest, new, plain⟩,
    fun ⟨from_newest, new, plain⟩ => ⟨from_newest, new, plain⟩⟩

/-- Only publishers write files of version servers, and what is published continues what was
    fetched. -/
def orderly : VersionEvent → Prop
  | .config (.recv session disk data) =>
    s.control.typed typeOf wire types (.recv session disk data) ∧
      Reloads versionServer s.control.configs disk ∧
      ∀ request ∈ recvRequest wire types data, leavesFile versionServer request
  | .config event => s.control.typed typeOf wire types event
  | .publish publisher outputJson => ∀ answer ∈ s.fetched publisher,
      ∀ update ∈ input outputJson, ∀ table ∈ json.table answer.2.content,
        Continues first update table
  | .refresh _ | .lose _ => True

/-- A publication that is written was made for the content that it replaces. -/
def upToDate : VersionEvent → Prop
  | .refresh i => ∀ sent ∈ s.onWay[i]?, s.hasGroup versionServer →
      s.control.configs.readConfig versionServer versionFile = some sent.fetched
  | _ => True

instance : (e : VersionEvent) → Decidable (s.orderly json versionServer first typeOf wire types e)
  | .config (.recv ..) => inferInstanceAs (Decidable (_ ∧ _ ∧ ∀ _ ∈ _, _))
  | .config (.directory event) =>
    inferInstanceAs (Decidable (s.control.typed typeOf wire types (.directory event)))
  | .config (.receive server) =>
    inferInstanceAs (Decidable (s.control.typed typeOf wire types (.receive server)))
  | .publish .. => inferInstanceAs (Decidable (∀ _ ∈ _, ∀ _ ∈ _, ∀ _ ∈ _, _))
  | .refresh _ | .lose _ => isTrue trivial

instance : (e : VersionEvent) → Decidable (s.upToDate versionServer e)
  | .refresh _ => inferInstanceAs (Decidable (∀ _ ∈ _, _ → _))
  | .config _ | .publish .. | .lose _ => isTrue trivial

structure Started (start : List VersionIformation) (disk : Disk) : Prop where
  file : ∃ content, (Configs.initializeConfigs ∅ disk).filesOf versionServer =
    [⟨versionFile, content⟩] ∧ json.table content = some start
  linear : Chains.Linear VersionIformation.nowVersion VersionIformation.nextVersion first start
  fits : ∀ entry ∈ start, entry.UrlsFit

end guards

section purpose
variable (start : List VersionIformation) (first : String) (s : VersionService)

def entries : List VersionIformation := start ++ s.published.map UpdateVersion.entry

def InFile : Prop :=
  (s.control.configs.readConfig versionServer versionFile).bind json.table =
    some (s.entries start)

structure Served (server : IPPort) : Prop where
  returned : ∀ name content, .onConfigRefresh name content ∈ (s.control.nodes server).calls →
    ∀ table, (onConfigRefresh json.readJson table (textOf content)).2 = .returned
  earlier : ∃ seen, seen <+: s.entries start ∧ ∀ version,
    checkVersion version (json.tableOf (s.control.nodes server).calls) = checkVersion version seen
  newest : s.control.pending server = [] → s.control.missed server versionFile = false →
    ∀ version, checkVersion version (json.tableOf (s.control.nodes server).calls) =
      checkVersion version (s.entries start)

end purpose

end VersionService

structure Upgraded (newest : String) (behind : List VersionIformation)
    (answer : CheckVersionResult) : Prop where
  nowVersion : answer.nowVersion = newest
  file : ∀ path url, (path, url) ∈ answer.file ↔ lastUrl behind path = some url
  once : (answer.file.map Prod.fst).Nodup

/-- A client with one of the versions is brought to the newest one, with the files of all
    entries behind its own, and any other client keeps what it has. -/
structure Upgrades (first : String) (table : List VersionIformation) : Prop where
  known : ∀ before behind, table = before ++ behind → ∃ answer,
    checkVersion (Chains.stop VersionIformation.nextVersion first before) table = some answer ∧
      Upgraded (Chains.stop VersionIformation.nextVersion first table) behind answer
  other : ∀ version, (∀ entry ∈ table, entry.nowVersion ≠ version) →
    checkVersion version table = some { nowVersion := version, file := [] }

end LaluneServer.Version
