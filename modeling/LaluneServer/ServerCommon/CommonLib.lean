import LaluneServer.Control.ControlServer
import LaluneServer.Lib.FieldJumps
import LaluneServer.ServerCommon.Frame

/- The messages between the control server and the servers, as the generated code of
   CommonLib.proto and ControlServer.proto writes and reads them. The primitives of protobuf
   are parameters. Fields of unknown tags are skipped and not kept. -/
namespace LaluneServer.ServerCommon
open TaggedFields
open Control (Hello AddressInfo)

structure WireFormat where
  tags : Tags
  expect : Expect
  uint32 : Codec (BitVec 32)
  fixed32 : Codec (BitVec 32)
  packedUint32 : Codec (List (BitVec 32))
  string : Delimiter
  message : Delimiter

def WireFormat.withExpect (wire : WireFormat) (expect : Expect) : WireFormat :=
  { wire with expect := expect }

abbrev WireFormat.bytes (wire : WireFormat) : Codec Bytes := wire.string.toCodec

structure Initialize where
  serverType : BitVec 32
  deriving DecidableEq, Repr

structure HelloResult where
  serverId : BitVec 32
  deriving DecidableEq, Repr

structure AddressList where
  addr : List AddressInfo
  deriving DecidableEq, Repr

structure ServerId where
  serverId : BitVec 32
  deriving DecidableEq, Repr

structure Cmd2Server where
  toServerType : Option (BitVec 32)
  cmdType : BitVec 32
  data : Bytes
  deriving DecidableEq, Repr

structure ConfigFile where
  fileName : Bytes
  content : Bytes
  deriving DecidableEq, Repr

structure RefreshConfig where
  serverType : Option (BitVec 32)
  file : List ConfigFile
  deriving DecidableEq, Repr

structure Command where
  commandName : Bytes
  args : List Bytes
  deriving DecidableEq, Repr

structure CommandResult where
  result : Bytes
  params : List (BitVec 32)
  deriving DecidableEq, Repr

structure FetchConfigRequest where
  serverType : Option (BitVec 32)
  fileName : Bytes
  deriving DecidableEq, Repr

variable (wire : WireFormat)

def initializeMessage : Message Initialize where
  empty := ⟨0⟩
  fields := [
    .need 8 wire.uint32 (·.serverType) (fun v m => { m with serverType := v }) ⟨[], true⟩]
  tagsFine := by simp [Field.need, ends]
  tagsApart := by simp [Field.need]
  commute := by simp [Field.need]
  needed := by simp [Field.need]
  rebuild _ := rfl

def helloMessage : Message Hello where
  empty := ⟨0, 0, 0⟩
  fields := [
    .need 8 wire.uint32 (·.myListeningPort)
      (fun v m => { m with myListeningPort := v }) ⟨[16], false⟩,
    .need 16 wire.uint32 (·.serverType) (fun v m => { m with serverType := v }) ⟨[24], false⟩,
    .need 24 wire.uint32 (·.isServerStart) (fun v m => { m with isServerStart := v }) ⟨[], true⟩]
  tagsFine := by simp [Field.need, ends]
  tagsApart := by simp [Field.need]
  commute := by simp [Field.need]
  needed := by simp [Field.need]
  rebuild _ := rfl

def helloResultMessage : Message HelloResult where
  empty := ⟨0⟩
  fields := [
    .need 8 wire.uint32 (·.serverId) (fun v m => { m with serverId := v }) ⟨[], true⟩]
  tagsFine := by simp [Field.need, ends]
  tagsApart := by simp [Field.need]
  commute := by simp [Field.need]
  needed := by simp [Field.need]
  rebuild _ := rfl

def addressInfoMessage : Message AddressInfo where
  empty := ⟨0, 0, 0, 0⟩
  fields := [
    .need 13 wire.fixed32 (·.ip) (fun v m => { m with ip := v }) ⟨[16], false⟩,
    .need 16 wire.uint32 (·.port) (fun v m => { m with port := v }) ⟨[24], false⟩,
    .need 24 wire.uint32 (·.serverId) (fun v m => { m with serverId := v }) ⟨[32], false⟩,
    .need 32 wire.uint32 (·.serverType) (fun v m => { m with serverType := v }) ⟨[], true⟩]
  tagsFine := by simp [Field.need, ends]
  tagsApart := by simp [Field.need]
  commute := by simp [Field.need]
  needed := by simp [Field.need]
  rebuild _ := rfl

def addressListMessage : Message AddressList where
  empty := ⟨[]⟩
  fields := [
    .many 10 ((addressInfoMessage wire).embedded wire.tags wire.expect wire.message) (·.addr)
      (fun items m => { m with addr := items }) ⟨[10], true⟩]
  tagsFine := by simp [Field.many, ends]
  tagsApart := by simp [Field.many]
  commute := by simp [Field.many]
  needed := by simp [Field.many]
  rebuild m := by
    rw [List.foldl_cons, Field.load_many] <;> intros <;> rfl

def serverIdMessage : Message ServerId where
  empty := ⟨0⟩
  fields := [
    .need 8 wire.uint32 (·.serverId) (fun v m => { m with serverId := v }) ⟨[], true⟩]
  tagsFine := by simp [Field.need, ends]
  tagsApart := by simp [Field.need]
  commute := by simp [Field.need]
  needed := by simp [Field.need]
  rebuild _ := rfl

def cmd2ServerMessage : Message Cmd2Server where
  empty := ⟨none, 0, []⟩
  fields := [
    .may 8 wire.uint32 (·.toServerType)
      (fun v m => { m with toServerType := some v }) ⟨[16], false⟩,
    .need 16 wire.uint32 (·.cmdType) (fun v m => { m with cmdType := v }) ⟨[26], false⟩,
    .need 26 wire.bytes (·.data) (fun v m => { m with data := v }) ⟨[], true⟩]
  tagsFine := by simp [Field.may, Field.need, ends]
  tagsApart := by simp [Field.may, Field.need]
  commute := by simp [Field.may, Field.need]
  needed := by simp [Field.may, Field.need]
  rebuild m := by
    obtain ⟨unset | toServerType, cmdType, data⟩ := m
    · rfl
    · rfl

def configFileMessage : Message ConfigFile where
  empty := ⟨[], []⟩
  fields := [
    .need 10 wire.bytes (·.fileName) (fun v m => { m with fileName := v }) ⟨[18], false⟩,
    .need 18 wire.bytes (·.content) (fun v m => { m with content := v }) ⟨[], true⟩]
  tagsFine := by simp [Field.need, ends]
  tagsApart := by simp [Field.need]
  commute := by simp [Field.need]
  needed := by simp [Field.need]
  rebuild _ := rfl

def refreshConfigMessage : Message RefreshConfig where
  empty := ⟨none, []⟩
  fields := [
    .may 8 wire.uint32 (·.serverType) (fun v m => { m with serverType := some v }) ⟨[18], false⟩,
    .many 18 ((configFileMessage wire).embedded wire.tags wire.expect wire.message) (·.file)
      (fun items m => { m with file := items }) ⟨[18], true⟩]
  tagsFine := by simp [Field.many, Field.may, ends]
  tagsApart := by simp [Field.many, Field.may]
  commute := by simp [Field.many, Field.may]
  needed := by simp [Field.many, Field.may]
  rebuild m := by
    obtain ⟨unset | serverType, file⟩ := m
    · rw [List.foldl_cons, List.foldl_cons, Field.load_many] <;> intros <;> rfl
    · rw [List.foldl_cons, List.foldl_cons, Field.load_many] <;> intros <;> rfl

def commandMessage : Message Command where
  empty := ⟨[], []⟩
  fields := [
    .need 10 wire.bytes (·.commandName) (fun v m => { m with commandName := v }) ⟨[18], false⟩,
    .many 18 wire.bytes (·.args) (fun items m => { m with args := items }) ⟨[18], true⟩]
  tagsFine := by simp [Field.many, Field.need, ends]
  tagsApart := by simp [Field.many, Field.need]
  commute := by simp [Field.many, Field.need]
  needed := by simp [Field.many, Field.need]
  rebuild m := by
    rw [List.foldl_cons, List.foldl_cons, Field.load_many] <;> intros <;> rfl

/-- The params may also come packed. -/
def commandResultMessage : Message CommandResult where
  empty := ⟨[], []⟩
  fields := [
    .need 10 wire.bytes (·.result) (fun v m => { m with result := v }) ⟨[16], false⟩,
    .many 16 wire.uint32 (·.params) (fun items m => { m with params := items }) ⟨[16], true⟩,
    .accept 18 wire.packedUint32 (fun v m => { m with params := m.params ++ v }) ⟨[16], true⟩]
  tagsFine := by simp [Field.many, Field.need, Field.accept, ends]
  tagsApart := by simp [Field.many, Field.need, Field.accept]
  commute := by simp [Field.many, Field.need, Field.accept]
  needed := by simp [Field.many, Field.need, Field.accept]
  rebuild m := by
    rw [List.foldl_cons, List.foldl_cons, Field.load_many] <;> intros <;> rfl

def fetchConfigRequestMessage : Message FetchConfigRequest where
  empty := ⟨none, []⟩
  fields := [
    .may 8 wire.uint32 (·.serverType) (fun v m => { m with serverType := some v }) ⟨[18], false⟩,
    .need 18 wire.bytes (·.fileName) (fun v m => { m with fileName := v }) ⟨[], true⟩]
  tagsFine := by simp [Field.may, Field.need, ends]
  tagsApart := by simp [Field.may, Field.need]
  commute := by simp [Field.may, Field.need]
  needed := by simp [Field.may, Field.need]
  rebuild m := by
    obtain ⟨unset | serverType, fileName⟩ := m
    · rfl
    · rfl

end LaluneServer.ServerCommon
