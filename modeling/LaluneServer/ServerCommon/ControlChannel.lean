import LaluneServer.NetLib.Connection
import LaluneServer.ServerCommon.ControlFrames

/- The two directions of the connection between a server and the control server: messages
   are framed, cut to pieces by TCP, put together again and read by their type. -/
namespace LaluneServer.ServerCommon
open TaggedFields Transition
open NetLib (Connection ConnectionEvent NetlibPacket NetLibError readUint32)

structure Language (Said Heard : Type) where
  frame : Said → Bytes
  size : Said → Nat
  recv : Bytes → Option Heard
  meaning : Said → Heard
  readable : ∀ m, size m < limit → 4 ≤ size m ∧ (frame m).length = size m ∧
    readUint32 (frame m) = size m ∧ recv (frame m) = some (meaning m)

structure Channel (Said : Type) where
  connection : Connection := {}
  said : List Said := []

inductive ChannelEvent (Said : Type) where
  | say (m : Said) (copy : Bool) (pHint : BitVec 64)
  | net (event : ConnectionEvent)
  deriving DecidableEq

namespace Language
variable {Said Heard : Type} (language : Language Said Heard) (maxPacketSize : Nat)

def step (c : Channel Said) : ChannelEvent Said → Option (Channel Said)
  | .say m copy pHint =>
    (c.connection.step maxPacketSize (.send (language.frame m) copy pHint)).map fun connection =>
      ⟨connection, c.said ++ [m]⟩
  | .net (.send _ _ _) => none
  | .net event => (c.connection.step maxPacketSize event).map fun connection =>
      { c with connection := connection }

/-- Nothing is said that the other end would refuse for its length. -/
def fits (_ : Channel Said) : ChannelEvent Said → Prop
  | .say m _ _ => language.size m ≤ maxPacketSize
  | .net _ => True

instance (c : Channel Said) (e : ChannelEvent Said) :
    Decidable (language.fits maxPacketSize c e) := by
  cases e <;> simp only [fits] <;> infer_instance

def heard (c : Channel Said) : List (Option Heard) :=
  c.connection.receiver.delivered.map language.recv

def meant (c : Channel Said) : List (Option Heard) :=
  c.said.map fun m => some (language.meaning m)

def Settled (c : Channel Said) : Prop :=
  c.connection.sender.asyncSendQueue = [] ∧ c.connection.wire = [] ∧
    c.connection.receiver.session.isConnected = true ∧ c.connection.receiver.blocked = true

/-- The other end hears what was said, in order, once each and nothing else. -/
structure Faithful (c : Channel Said) : Prop where
  inOrder : language.heard c <+: language.meant c
  understood : ∀ entry ∈ language.heard c, entry.isSome
  everything : Settled c → language.heard c = language.meant c
  notRefused : ∀ error, c.connection.receiver.error = some error →
    ¬ NetLib.Receiver.isLengthError error

structure Spoken (c : Channel Said) : Prop where
  joined : Connection.Joined maxPacketSize c.connection
  framed : c.connection.sent.map NetlibPacket.data = c.said.map language.frame
  short : ∀ m ∈ c.said, language.size m ≤ maxPacketSize

end Language

section connection
open NetLib.Connection
variable {c d : Connection} {maxPacketSize : Nat}

theorem sent_senderCall (calls : List NetLib.OwnerCall) (c : Connection) :
    (calls.foldl senderCall c).sent = c.sent := by
  induction calls generalizing c with
  | nil => rfl
  | cons call rest ih =>
    rw [List.foldl_cons, ih]
    cases call <;> rfl

theorem sent_applySender (c : Connection) (result : NetLib.SessionResult) :
    (c.applySender result).sent = c.sent := sent_senderCall _ _

theorem sent_send {data : Bytes} {copy : Bool} {pHint : BitVec 64}
    (moved : c.step maxPacketSize (.send data copy pHint) = some d) :
    d.sent.map NetlibPacket.data = c.sent.map NetlibPacket.data ++ [data] := by
  simp only [step] at moved
  split at moved
  · cases moved
    rw [sent_applySender, List.map_append]
    rfl
  · contradiction

theorem sent_other {event : ConnectionEvent} (quiet : event.data = none)
    (moved : c.step maxPacketSize event = some d) : d.sent = c.sent := by
  cases event with
  | send data copy pHint => contradiction
  | transfer count =>
    simp only [step] at moved
    split at moved
    · contradiction
    · split at moved
      · cases moved
        rfl
      · contradiction
  | writeDone error =>
    simp only [step] at moved
    split at moved
    · contradiction
    · split at moved
      · obtain ⟨s, -, moved⟩ := Option.bind_eq_some_iff.mp moved
        obtain ⟨result, -, rfl⟩ := Option.map_eq_some_iff.mp moved
        exact sent_applySender _ _
      · contradiction
  | closeSender error =>
    cases moved
    exact sent_applySender _ _
  | arrive count =>
    simp only [step] at moved
    split at moved
    · cases moved
      rfl
    · contradiction
  | receive event =>
    cases event with
    | arrive bytes => contradiction
    | headerRead | bodyRead | recvHandlerReturned | close =>
      obtain ⟨r, -, rfl⟩ := Option.map_eq_some_iff.mp moved
      rfl

end connection

namespace Language
variable {Said Heard : Type} {language : Language Said Heard} {maxPacketSize : Nat}
  {c d : Channel Said} {e : ChannelEvent Said}

theorem wellFormed_frame (small : maxPacketSize < limit) {m : Said}
    (short : language.size m ≤ maxPacketSize) :
    Connection.wellFormed maxPacketSize (language.frame m) := by
  obtain ⟨header, length, field, -⟩ := language.readable m (Nat.lt_of_le_of_lt short small)
  exact ⟨by rw [length, field], by omega, by omega⟩

theorem spoken_initial : language.Spoken maxPacketSize {} :=
  ⟨Connection.joined_initial, rfl, nofun⟩

theorem spoken_step (small : maxPacketSize < limit) (inv : language.Spoken maxPacketSize c)
    (fits : language.fits maxPacketSize c e) (moved : language.step maxPacketSize c e = some d) :
    language.Spoken maxPacketSize d := by
  cases e with
  | say m copy pHint =>
    obtain ⟨connection, sent, rfl⟩ := Option.map_eq_some_iff.mp moved
    have fine : Connection.sendsWellFormed maxPacketSize c.connection
        (.send (language.frame m) copy pHint) := by
      intro data given
      cases given
      exact wellFormed_frame small fits
    refine ⟨Connection.joined_step inv.joined fine sent, ?_, ?_⟩
    · rw [sent_send sent, inv.framed, List.map_append]
      rfl
    · intro other member
      rcases List.mem_append.mp member with before | now
      · exact inv.short other before
      · rw [List.mem_singleton.mp now]
        exact fits
  | net event =>
    have quiet : ∀ connection, c.connection.step maxPacketSize event = some connection →
        event.data = none → language.Spoken maxPacketSize { c with connection := connection } := by
      intro connection moved quiet
      have fine : Connection.sendsWellFormed maxPacketSize c.connection event := by
        intro data given
        rw [quiet] at given
        contradiction
      refine ⟨Connection.joined_step inv.joined fine moved, ?_, inv.short⟩
      rw [sent_other quiet moved]
      exact inv.framed
    cases event with
    | send data copy pHint => contradiction
    | transfer | writeDone | closeSender | arrive | receive =>
      simp only [step] at moved
      obtain ⟨connection, happened, rfl⟩ := Option.map_eq_some_iff.mp moved
      exact quiet connection happened rfl

theorem Spoken.recv_frames (small : maxPacketSize < limit)
    (inv : language.Spoken maxPacketSize c) :
    (c.connection.sent.map NetlibPacket.data).map language.recv = language.meant c := by
  rw [inv.framed, List.map_map]
  refine List.map_congr_left fun m said => ?_
  exact (language.readable m (Nat.lt_of_le_of_lt (inv.short m said) small)).2.2.2

theorem Spoken.faithful (small : maxPacketSize < limit) (inv : language.Spoken maxPacketSize c) :
    language.Faithful c := by
  have trip := inv.joined.roundTrip
  have meaning := inv.recv_frames small
  have inOrder : language.heard c <+: language.meant c := by
    rw [← meaning]
    exact trip.delivered.map language.recv
  refine ⟨inOrder, ?_, ?_, trip.noLengthError⟩
  · intro entry heard
    obtain ⟨m, -, rfl⟩ := List.mem_map.mp (inOrder.subset heard)
    rfl
  · rintro ⟨sent, arrived, connected, blocked⟩
    unfold heard
    rw [trip.deliveredAll sent arrived connected blocked, meaning]

theorem reach_faithful (small : maxPacketSize < limit)
    (run : Reach (language.step maxPacketSize) (language.fits maxPacketSize) {} c) :
    language.Faithful c := by
  refine (reach_invariant (language.Spoken maxPacketSize) spoken_initial ?_ run).faithful small
  exact fun _ _ _ inv fits moved => spoken_step small inv fits moved

end Language

section
variable (wire : WireFormat) (types : MessageTypes)

theorem Body.readable {body : Body}
    (short : msgHeaderBaseSize + body.bytes.length < limit) (type : Nat) :
    4 ≤ msgHeaderBaseSize + body.bytes.length ∧
      (body.frame type).length = msgHeaderBaseSize + body.bytes.length ∧
      readUint32 (body.frame type) = msgHeaderBaseSize + body.bytes.length := by
  have filled := Body.filled short type
  have length := filled.filled.trans (Body.frame_eq short type).2
  exact ⟨by unfold msgHeaderBaseSize; omega, length, filled.length.trans length⟩

def requests : Language Request Request where
  frame request := request.frame wire types
  size request := msgHeaderBaseSize + (request.body wire).bytes.length
  recv := recvRequest wire types
  meaning request := request
  readable request short := by
    obtain ⟨header, length, field⟩ := Body.readable short (request.type types)
    refine ⟨header, length, field, ?_⟩
    rw [Request.frame, (Body.frame_eq short _).1]
    exact recvRequest_payload request short
      (Message.jumpParse_serialize _ _ _ (Nat.lt_of_le_of_lt (Nat.le_add_left _ _) short))

def notices : Language Notice Arrival where
  frame notice := notice.frame wire types
  size notice := msgHeaderBaseSize + (notice.body wire).bytes.length
  recv := recvNotice wire types
  meaning := Notice.arrival
  readable notice short := by
    obtain ⟨header, length, field⟩ := Body.readable short (notice.type types)
    refine ⟨header, length, field, ?_⟩
    rw [Notice.frame, (Body.frame_eq short _).1]
    exact recvNotice_payload notice short
      (Message.jumpParse_serialize _ _ _ (Nat.lt_of_le_of_lt (Nat.le_add_left _ _) short))

end

/-- Whatever TCP does to the bytes, both ends of the control connection hear what the other
    end says, in order and without loss once all is through. -/
theorem control_channel_faithful (wire : WireFormat) (types : MessageTypes) (maxPacketSize : Nat)
    (small : maxPacketSize < limit) :
    (∀ c, Reach ((requests wire types).step maxPacketSize)
      ((requests wire types).fits maxPacketSize) {} c → (requests wire types).Faithful c) ∧
    ∀ c, Reach ((notices wire types).step maxPacketSize)
      ((notices wire types).fits maxPacketSize) {} c → (notices wire types).Faithful c :=
  ⟨fun _ run => Language.reach_faithful small run, fun _ run => Language.reach_faithful small run⟩

def registerAndRefresh : List (ChannelEvent Request) :=
  [.say (.sayHello ⟨80, 3, 1⟩) false 1, .say (.refreshConfig newConfig) true 2,
    .net (.transfer 11), .net (.arrive 9), .net (.transfer 7), .net (.writeDone none),
    .net (.transfer 10), .net (.arrive 19), .net (.receive (.headerRead none)),
    .net (.receive (.bodyRead none)), .net (.receive .recvHandlerReturned)]

theorem register_and_refresh : ∃ c,
    Reach ((requests protobufWire numberedTypes).step 0x80000)
      ((requests protobufWire numberedTypes).fits 0x80000) {} c ∧
    (requests protobufWire numberedTypes).Faithful c ∧
    c.said = [.sayHello ⟨80, 3, 1⟩, .refreshConfig newConfig] ∧
    (requests protobufWire numberedTypes).heard c = [some (.sayHello ⟨80, 3, 1⟩)] := by
  obtain ⟨c, run, fine⟩ := execWithin_any ((requests protobufWire numberedTypes).step 0x80000)
    ((requests protobufWire numberedTypes).fits 0x80000) {} registerAndRefresh
    (fun c => decide (c.said = [.sayHello ⟨80, 3, 1⟩, .refreshConfig newConfig] ∧
      (requests protobufWire numberedTypes).heard c = [some (.sayHello ⟨80, 3, 1⟩)]))
    (by decide +kernel)
  exact ⟨c, run, (control_channel_faithful protobufWire numberedTypes 0x80000 (by decide)).1 c run,
    of_decide_eq_true fine⟩

end LaluneServer.ServerCommon
