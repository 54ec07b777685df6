import Mathlib.Logic.Function.Basic

/- The configs of the control server: the map in memory, the files, and the list of the known
   configs, a JSON array. The file system and rapidjson are parameters; every path that is
   opened exists or can be made. -/
namespace LaluneServer.Control

structure ServerTypeIds where
  gatewayServer : Int
  versionServer : Int
  accountServer : Int
  basicInfoServer : Int
  leagueServer : Int
  noticeServer : Int
  rankServer : Int
  asyncBattleServer : Int
  replayServer : Int
  statServer : Int
  autoMatchServer : Int
  syncBattleServer : Int
  controlServer : Int
  background : Int

def getServerTypeWrittenName (ids : ServerTypeIds) (serverType : Int) : String :=
  if serverType = ids.gatewayServer then "gateway"
  else if serverType = ids.versionServer then "version_server"
  else if serverType = ids.accountServer then "account_server"
  else if serverType = ids.basicInfoServer then "basic_info_server"
  else if serverType = ids.leagueServer then "league_server"
  else if serverType = ids.noticeServer then "notice_server"
  else if serverType = ids.rankServer then "rank_server"
  else if serverType = ids.asyncBattleServer then "async_battle_server"
  else if serverType = ids.replayServer then "replay_server"
  else if serverType = ids.statServer then "stat_server"
  else if serverType = ids.autoMatchServer then "auto_match_server"
  else if serverType = ids.syncBattleServer then "sync_battle_server"
  else if serverType = ids.controlServer then "control_server"
  else if serverType = ids.background then "background"
  else "default"

/-- The file system: the directory of the program, an absolute path with a slash at its end
    (empty when it is not known), and the file that fopen opens for a path. -/
structure Platform (File : Type*) where
  appDir : String
  resolve : String → File
  absolute : ∀ first ∈ appDir.toList.head?, first = '/'

def Platform.toAbsolutePath {File : Type*} (p : Platform File) (path : String) : String :=
  if path.toList.head? = some '/' then path else p.appDir ++ path

theorem Platform.toAbsolutePath_absolute {File : Type*} (p : Platform File) (path : String) :
    p.toAbsolutePath (p.toAbsolutePath path) = p.toAbsolutePath path := by
  unfold toAbsolutePath
  by_cases given : path.toList.head? = some '/'
  · simp only [given, if_true]
  · rw [if_neg given]
    cases dir : p.appDir.toList with
    | nil =>
      have none : p.appDir = "" := String.toList_eq_nil_iff.mp dir
      simp [none]
    | cons first rest =>
      have slash := p.absolute first (by rw [dir]; rfl)
      rw [if_pos]
      rw [String.toList_append, dir, slash]
      rfl

/-- rapidjson, as far as the list of the configs needs it. `parse` finds the items of an array
    in a text, `none` when the text is none; the accessors of an item are `none` when the member
    is missing or is no number, or no string. -/
structure JsonList (Item : Type*) where
  parse : String → Option (List Item)
  print : List Item → String
  object : Int → String → String → Item
  serverType : Item → Option Int
  fileName : Item → Option String
  parse_print : ∀ items, parse (print items) = some items
  serverType_object : ∀ id name file, serverType (object id name file) = some id
  fileName_object : ∀ id name file, fileName (object id name file) = some file

def cString (text : String) : String := String.ofList (text.toList.takeWhile (· ≠ '\x00'))

abbrev ConfigKey := Int × String

/-- The files with their contents, config.server_configs_list_file and the map in memory. -/
structure ConfigStore (File : Type*) where
  files : File → Option String
  listFile : String := "configs/list.json"
  configs : ConfigKey → Option String := fun _ => none

structure WriteConfig where
  serverType : Int
  fileName : String
  content : String
  time : String
  deriving DecidableEq, Repr

def WriteConfig.key (call : WriteConfig) : ConfigKey := (call.serverType, call.fileName)

namespace ConfigStore
variable {File Item : Type*} [DecidableEq File] (p : Platform File) (ids : ServerTypeIds)
  (json : JsonList Item)

def currentPath (key : ConfigKey) : String :=
  p.toAbsolutePath ("configs/" ++ getServerTypeWrittenName ids key.1 ++ "/" ++ key.2)

def historyPath (key : ConfigKey) (time : String) : String :=
  p.toAbsolutePath
    ("configs/" ++ getServerTypeWrittenName ids key.1 ++ "/[" ++ time ++ "] " ++ key.2)

variable (store : ConfigStore File)

def writeFile (path content : String) : ConfigStore File :=
  { store with files := Function.update store.files (p.resolve path) (some content) }

/-- `none` is the file that does not exist, on which readFile crashes. -/
def readFile (path : String) : Option String := store.files (p.resolve path)

def writeList (before : String) (items : List Item) : ConfigStore File :=
  (store.writeFile p (store.listFile ++ ".bak") before).writeFile p store.listFile
    (json.print items)

def listItem (key : ConfigKey) : Item :=
  json.object key.1 (getServerTypeWrittenName ids key.1) key.2

/-- The part of writeConfig that appends a new key to the list. -/
def listConfig (key : ConfigKey) : Option (ConfigStore File) :=
  (store.readFile p store.listFile).map fun content =>
    match json.parse content with
    | none => store
    | some items => store.writeList p json content (items ++ [listItem ids json key])

/-- The two files of writeConfig: a copy for the history, and the current one. -/
def writeFiles (call : WriteConfig) : ConfigStore File :=
  (store.writeFile p (historyPath p ids call.key call.time) call.content).writeFile p
    (currentPath p ids call.key) call.content

def writeConfig (call : WriteConfig) : Option (ConfigStore File) :=
  let store := store.writeFiles p ids call
  let listed :=
    match store.configs call.key with
    | some _ => some store
    | none => store.listConfig p ids json call.key
  listed.map fun store =>
    { store with configs := Function.update store.configs call.key (some call.content) }

/-- `std::map::insert`, which keeps what is there. -/
def insertConfig (configs : ConfigKey → Option String) (key : ConfigKey) (content : String) :
    ConfigKey → Option String :=
  if (configs key).isSome then configs else Function.update configs key (some content)

def itemKey (item : Item) : Option ConfigKey :=
  (json.serverType item).bind fun serverType =>
    (json.fileName item).map fun fileName => (serverType, cString fileName)

def readConfigs : List Item → (ConfigKey → Option String) → Option (ConfigKey → Option String)
  | [], configs => some configs
  | item :: rest, configs =>
    match itemKey json item with
    | none => readConfigs rest configs
    | some key => (store.readFile p (currentPath p ids key)).bind fun content =>
        readConfigs rest (insertConfig configs key content)

def initializeConfigs : Option (ConfigStore File) :=
  let store := { store with listFile := p.toAbsolutePath store.listFile }
  (store.readFile p store.listFile).bind fun content =>
    match json.parse content with
    | none => some store
    | some items => (readConfigs p ids json store items (fun _ => none)).map fun configs =>
        { store with configs := configs }

end ConfigStore

end LaluneServer.Control
