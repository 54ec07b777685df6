import LaluneServer.Control.ConfigRuns
import LaluneServer.ServerCommon.ControlFrames

/- What the control server does with every request but a Hello: the configs by server type
   and file name, its answers, and what goes to all servers of a group. -/
namespace LaluneServer.Control

open Std (TreeMap)
open InverseIndex TaggedFields ServerCommon

abbrev FileKey := Int32 × Bytes

instance : Ord FileKey := lexOrd

abbrev Configs := TreeMap FileKey Bytes

/-- What initializeConfigs finds: the files of the list with their contents, `none` when the
    list is no array. -/
abbrev Disk := Option (List (FileKey × Bytes))

structure Answer where
  session : Session
  notice : Notice
  deriving DecidableEq, Repr

def bytesOf (text : String) : Bytes := text.toList.map fun c => BitVec.ofNat 8 c.toNat

namespace Configs
variable (configs : Configs)

def readConfig (serverType : BitVec 32) (fileName : Bytes) : Option Bytes :=
  configs[((Int32.ofBitVec serverType, fileName) : FileKey)]?

/-- The map after writeConfig; the files are those of `ConfigStore.writeConfig`. -/
def writeConfig (serverType : BitVec 32) (file : ConfigFile) : Configs :=
  configs.insert (Int32.ofBitVec serverType, file.fileName) file.content

def initializeConfigs : Disk → Configs
  | none => configs
  | some files => files.foldl (fun configs file => configs.insertIfNew file.1 file.2) ∅

def filesOf (serverType : BitVec 32) : List ConfigFile :=
  (configs.toList.filter fun entry => entry.1.1 = Int32.ofBitVec serverType).map fun entry =>
    ⟨entry.1.2, entry.2⟩

end Configs

namespace ControlServer
variable (control : ControlServer) (configs : Configs) (session : Session)

/-- The loop over the servers of a group that SendConfigToServerGroup and CMD2SERVER share. -/
def toServerGroup (serverType : Int) (notice : Notice) : List Answer :=
  match control.serverGroups[serverType]? with
  | none => []
  | some group => group.toList.filterMap fun ipPort =>
      control.server2session[ipPort]?.map fun session => ⟨session, notice⟩

def sendConfigToServerGroup (serverType : Int) (rc : RefreshConfig) : List Answer :=
  control.toServerGroup serverType (.refreshConfig rc)

def answerInitialize (init : Initialize) : Configs × List Answer :=
  (configs, [⟨session, .refreshConfig ⟨some init.serverType, configs.filesOf init.serverType⟩⟩])

def passCommand (cmd : Cmd2Server) : Configs × List Answer :=
  (configs, control.toServerGroup (cmd.toServerType.getD 0).toInt
    (.cmd2Server { cmd with toServerType := none }))

/-- `MSG_TYPE_REFRESH_CONFIG`. The whole message goes out once for each of its files. -/
def refreshConfig (rc : RefreshConfig) : Configs × List Answer :=
  let serverType := rc.serverType.getD 0
  match control.serverGroups[serverType.toInt]? with
  | none => (configs, [])
  | some _ =>
    (rc.file.foldl (fun configs file => configs.writeConfig serverType file) configs,
      rc.file.flatMap (fun _ => control.sendConfigToServerGroup serverType.toInt rc) ++
        [⟨session, .refreshConfigResponse⟩])

def fetchConfig (fc : FetchConfigRequest) : Configs × List Answer :=
  (configs, [⟨session, .fetchConfigResponse
    ⟨fc.fileName, (configs.readConfig (fc.serverType.getD 0) fc.fileName).getD []⟩⟩])

def sendAllConfigs : List Answer :=
  configs.toList.flatMap fun entry =>
    control.sendConfigToServerGroup entry.1.1.toInt ⟨none, [⟨entry.1.2, entry.2⟩]⟩

/-- `MSG_TYPE_CONTROL_SERVER_CMD`; `none` is a command that does not parse. -/
def runCommand (disk : Disk) (remoteIp : BitVec 32) (cmd : Option Command) :
    Configs × List Answer :=
  let result (text : Bytes) : Answer := ⟨session, .commandResult ⟨text, []⟩⟩
  if remoteIp = 0x7f000001 then
    match cmd with
    | none => (configs, [result (bytesOf "Protobuf parse failed")])
    | some cmd =>
      if cmd.commandName = bytesOf "reload" then (configs, [result (bytesOf "config reloaded.")])
      else if cmd.commandName = bytesOf "refresh_config" then
        let configs := configs.initializeConfigs disk
        (configs, control.sendAllConfigs configs ++
          [result (bytesOf "all the configs have been refreshed.")])
      else (configs, [result (bytesOf "CommandName not recognized: " ++ cmd.commandName)])
  else (configs, [])

def handle (disk : Disk) (remoteIp : BitVec 32) : Request → Configs × List Answer
  | .toInitialize init => answerInitialize configs session init
  | .sayHello _ => (configs, [])
  | .cmd2Server cmd => control.passCommand configs cmd
  | .refreshConfig rc => control.refreshConfig configs session rc
  | .fetchConfig fc => fetchConfig configs session fc
  | .command cmd => control.runCommand configs session disk remoteIp (some cmd)

def recvFinishHandler (wire : WireFormat) (types : MessageTypes) (disk : Disk)
    (remoteIp : BitVec 32) (data : Bytes) : Configs × List Answer :=
  match recvRequest wire types data with
  | some request => control.handle configs session disk remoteIp request
  | none =>
    if msgHeaderBaseSize ≤ msgLength data ∧ msgType data = types.controlServerCmd then
      control.runCommand configs session disk remoteIp none
    else (configs, [])

end ControlServer

section store
variable {File Item : Type*} {text : Bytes → String}

def storeKey (text : Bytes → String) (key : FileKey) : ConfigKey := (key.1.toInt, text key.2)

theorem storeKey_injective (apart : Function.Injective text) :
    Function.Injective (storeKey text) := by
  intro first second same
  obtain ⟨type, name⟩ := Prod.mk.inj same
  exact Prod.ext (Int32.toInt_inj.mp type) (apart name)

def View (text : Bytes → String) (configs : ConfigKey → Option String) (tree : Configs) : Prop :=
  ∀ key : FileKey, configs (storeKey text key) = tree[key]?.map text

theorem view_insert {configs : ConfigKey → Option String} {tree : Configs}
    (view : View text configs tree) (apart : Function.Injective text) (key : FileKey)
    (content : Bytes) :
    View text (Function.update configs (storeKey text key) (some (text content)))
      (tree.insert key content) := by
  intro other
  rw [find_insert]
  by_cases here : key = other
  · subst here
    rw [if_pos rfl, Function.update_self]
    rfl
  · rw [if_neg here, Function.update_of_ne, view other]
    exact fun same => here (storeKey_injective apart same).symm

theorem view_insertConfig {configs : ConfigKey → Option String} {tree : Configs}
    (view : View text configs tree) (apart : Function.Injective text) (key : FileKey)
    (content : Bytes) :
    View text (ConfigStore.insertConfig configs (storeKey text key) (text content))
      (tree.insertIfNew key content) := by
  unfold ConfigStore.insertConfig
  have held := view key
  cases found : tree[key]? with
  | none =>
    rw [found] at held
    rw [held, if_neg (by simp)]
    intro other
    rw [find_insertIfNew_of_free found, ← find_insert]
    exact view_insert view apart key content other
  | some old =>
    rw [found] at held
    rw [held, if_pos (by simp)]
    intro other
    rw [find_insertIfNew_of_some found]
    exact view other

variable {p : Platform File} {ids : ServerTypeIds} {json : JsonList Item}

theorem view_writeConfig [DecidableEq File] {store next : ConfigStore File} {tree : Configs}
    (view : View text store.configs tree) (apart : Function.Injective text)
    (serverType : BitVec 32) (file : ConfigFile) (time : String)
    (wrote : store.writeConfig p ids json
      ⟨serverType.toInt, text file.fileName, text file.content, time⟩ = some next) :
    View text next.configs (tree.writeConfig serverType file) := by
  rw [(ConfigStore.writeConfig_cases wrote).1]
  exact view_insert view apart (Int32.ofBitVec serverType, file.fileName) file.content

def Found (text : Bytes → String) (p : Platform File) (ids : ServerTypeIds)
    (store : ConfigStore File) (key : ConfigKey) (file : FileKey × Bytes) : Prop :=
  key = storeKey text file.1 ∧
    store.readFile p (ConfigStore.currentPath p ids key) = some (text file.2)

theorem view_readConfigs {store : ConfigStore File} (apart : Function.Injective text)
    {items : List Item} {files : List (FileKey × Bytes)}
    (found : List.Forall₂ (Found text p ids store)
      (items.filterMap (ConfigStore.itemKey json)) files)
    {configs result : ConfigKey → Option String} {tree : Configs}
    (view : View text configs tree)
    (read : store.readConfigs p ids json items configs = some result) :
    View text result
      (files.foldl (fun configs file => configs.insertIfNew file.1 file.2) tree) := by
  induction items generalizing configs tree files with
  | nil =>
    cases read
    cases found
    exact view
  | cons item rest ih =>
    unfold ConfigStore.readConfigs at read
    cases named : ConfigStore.itemKey json item with
    | none =>
      rw [named] at read
      rw [List.filterMap_cons_none named] at found
      exact ih found view read
    | some key =>
      rw [named] at read
      rw [List.filterMap_cons_some named] at found
      cases found with
      | @cons _ file _ others here later =>
        obtain ⟨rfl, opened⟩ := here
        obtain ⟨content, same, read⟩ := Option.bind_eq_some_iff.mp read
        obtain rfl := Option.some.inj (opened.symm.trans same)
        exact ih later (view_insertConfig view apart file.1 file.2) read

theorem view_initializeConfigs {store next : ConfigStore File} {tree : Configs}
    (apart : Function.Injective text) {items : List Item} {files : List (FileKey × Bytes)}
    {content : String}
    (opened : store.readFile p (p.toAbsolutePath store.listFile) = some content)
    (parsed : json.parse content = some items)
    (found : List.Forall₂ (Found text p ids store)
      (items.filterMap (ConfigStore.itemKey json)) files)
    (loaded : store.initializeConfigs p ids json = some next) :
    View text next.configs (tree.initializeConfigs (some files)) := by
  obtain ⟨again, same, loaded⟩ := Option.bind_eq_some_iff.mp loaded
  obtain rfl := Option.some.inj (opened.symm.trans same)
  simp only [parsed] at loaded
  obtain ⟨configs, read, rfl⟩ := Option.map_eq_some_iff.mp loaded
  have opens : List.Forall₂ (Found text p ids
      { store with listFile := p.toAbsolutePath store.listFile })
      (items.filterMap (ConfigStore.itemKey json)) files := found
  exact view_readConfigs apart opens (fun key => by simp) read

end store

end LaluneServer.Control
