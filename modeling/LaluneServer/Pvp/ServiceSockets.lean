import LaluneServer.Pvp.ControlSocket
import LaluneServer.Pvp.MatchedGames

/- The battle servers on their control sockets. What the matchmaker sends is a stream of
   bytes, and receiveHandler takes what has arrived for a length or for a message, however
   much that is. While every piece fills its buffer it parses the messages of BattleService. -/
namespace LaluneServer.Pvp

open AutoMatch (IpPort Message PrioritySort Reply Session insertionOrder rolls)
open InverseIndex NetLib Transition
open Std (TreeMap)

/-- SerializeToString, and what parseControlMessage makes of bytes, whether they parse or
    not; `none` is a type that it ignores. -/
structure ControlCodec where
  serialize : Message → Bytes
  read : Bytes → Option Message
  read_serialize : ∀ message, (serialize message).length + 4 < 0x80000000 →
    read (serialize message) = some message

/-- What the messages are on the wire. -/
def ControlCodec.frames (wire : ControlCodec) (messages : List Message) : Bytes :=
  messages.flatMap fun message => sendWithoutSize (wire.serialize message)

def ControlSocket.send (c : ControlSocket) (bytes : Bytes) : ControlSocket :=
  { c with unread := c.unread ++ bytes }

/-- The battle service, with the socket of the battle server at each connection. -/
structure SocketService where
  service : BattleService := {}
  sockets : Session → ControlSocket := fun _ => {}

/-- A new connection finds the buffers as an earlier one left them. -/
inductive SocketEvent (Data : Type*) where
  | handled (event : BattleEvent Data)
  | connect (session : Session) (server : Nat) (buffers : ControlSocket)
  | received (session : Session) (size : Nat) (gameTime : BitVec 32)

def BattleEvent.onSocket {Data : Type*} : BattleEvent Data → Bool
  | .connect .. | .parseControlMessage .. => true
  | _ => false

def BattleService.said (before after : BattleService) : List Reply :=
  after.lobby.world.replies.drop before.lobby.world.replies.length

def BattleService.parsedBytes (wire : ControlCodec) (b : BattleService) (session : Session)
    (link : Link) (gameTime : BitVec 32) (data : Bytes) : BattleService :=
  match wire.read data with
  | some message => b.parsed session link gameTime message
  | none => { b with links := b.links.insert session link }

namespace SocketService
variable {Data : Type*} (wire : ControlCodec) (order : PrioritySort) (address : Nat → IpPort)
  (codec : GameCodec Data) (w : SocketService)

def sending (next : BattleService) : SocketService where
  service := next
  sockets := fun session => (w.sockets session).send
    (wire.frames (messagesFor session (w.service.said next)))

/-- Every message that is read takes one off the ghost of those on the way, be it the same
    or not. -/
def step : SocketEvent Data → Option SocketService
  | .handled event =>
    if event.onSocket then none
    else (w.service.step order address codec event).map (w.sending wire)
  | .connect session server buffers =>
    (w.service.step order address codec (.connect session server)).map fun next =>
      { service := next, sockets := Function.update w.sockets session (buffers.start []) }
  | .received session size gameTime => (w.service.openLink session).bind fun link =>
      ((w.sockets session).step (.received size)).map fun c =>
        { service :=
            if (w.sockets session).isReadingSize then w.service
            else w.service.parsedBytes wire session { link with down := link.down.tail } gameTime
              c.dataBytes
          sockets := Function.update w.sockets session c }

/-- Every piece that arrives at a battle server fills its buffer, no message to one is longer
    than an int can say, and the clock gives every game an id of its own. -/
def wholeReads : SocketEvent Data → Prop
  | .handled event => w.service.distinctIds event ∧
      ∀ next ∈ w.service.step order address codec event, ∀ reply ∈ w.service.said next,
        next.links.contains reply.session →
          (wire.serialize reply.message).length + 4 < 0x80000000
  | .connect .. => True
  | .received session size _ => size = (w.sockets session).buffer.length

instance : (e : SocketEvent Data) → Decidable (w.wholeReads wire order address codec e)
  | .handled _ => inferInstanceAs (Decidable (_ ∧ ∀ _ ∈ _, ∀ _ ∈ _, _ → _))
  | .connect .. => isTrue trivial
  | .received .. => inferInstanceAs (Decidable (_ = _))

structure Holds (c : ControlSocket) (down : List Message) : Prop where
  running : c.crashed = false
  short : ∀ message ∈ down, (wire.serialize message).length + 4 < 0x80000000
  place : ∃ messages : List ControlMessage,
    messages.map ControlMessage.payload = down.map wire.serialize ∧
      ((c.isReadingSize = true ∧ c.unread = wireBytes messages) ∨
        ∃ message later, messages = message :: later ∧ c.isReadingSize = false ∧
          c.dataBytes.length = message.payload.length ∧
          c.unread = message.payload ++ wireBytes later)

def InStep : Prop :=
  ∀ (session : Session) link, w.service.openLink session = some link →
    Holds wire (w.sockets session) link.down

end SocketService

namespace BattleService
variable {Data : Type*} {order : PrioritySort} {address : Nat → IpPort} {codec : GameCodec Data}
  {b middle next : BattleService} {session : Session} {link changed : Link}

def SaysOnly (b next : BattleService) : Prop :=
  ∀ (session : Session) link', next.openLink session = some link' →
    ∃ link, b.openLink session = some link ∧
      link'.down = link.down ++ messagesFor session (b.said next)

def SameDown (b next : BattleService) : Prop :=
  ∀ (session : Session) link', next.openLink session = some link' →
    ∃ link, b.openLink session = some link ∧ link'.down = link.down

theorem SameDown.saysOnly (same : SameDown b next) (lobby : next.lobby = b.lobby) :
    SaysOnly b next := by
  intro session link' opened
  obtain ⟨link, before, down⟩ := same session link' opened
  refine ⟨link, before, ?_⟩
  rw [said, lobby, List.drop_length, down]
  exact (List.append_nil _).symm

theorem SameDown.before (same : SameDown b middle) (lobby : middle.lobby = b.lobby)
    (later : SaysOnly middle next) : SaysOnly b next := by
  intro session link' opened
  obtain ⟨between, before, down⟩ := later session link' opened
  obtain ⟨link, first, kept⟩ := same session between before
  refine ⟨link, first, ?_⟩
  rw [down, kept, said, said, lobby]

theorem openLink_insert (other : Session) :
    openLink { b with links := b.links.insert session changed } other =
      if session = other then (some changed).filter (fun link => !link.lost)
      else b.openLink other := by
  unfold openLink
  rw [find_insert]
  split <;> rfl

theorem sameDown_insert (opened : b.openLink session = some link)
    (down : changed.lost = false → changed.down = link.down) :
    SameDown b { b with links := b.links.insert session changed } := by
  intro other link' found
  rw [openLink_insert] at found
  split at found
  · rename_i here
    subst here
    obtain ⟨same, up⟩ := Option.filter_eq_some_iff.mp found
    obtain rfl := Option.some.inj same
    exact ⟨link, opened, down (by simpa using up)⟩
  · exact ⟨link', found, rfl⟩

theorem saysOnly_handle {event : AutoMatch.Event} (moved : b.handle order event = some next) :
    SaysOnly b next := by
  obtain ⟨lobby, _, rfl⟩ := Option.map_eq_some_iff.mp moved
  intro session link' opened
  obtain ⟨held, up⟩ := Option.filter_eq_some_iff.mp opened
  rw [TreeMap.getElem?_map] at held
  obtain ⟨link, before, rfl⟩ := Option.map_eq_some_iff.mp held
  unfold Link.push at up ⊢
  split at up
  · rename_i lost
    simp [lost] at up
  · rename_i here
    rw [if_neg here]
    refine ⟨link, Option.filter_eq_some_iff.mpr ⟨before, ?_⟩, rfl⟩
    simpa using here

theorem saysOnly_step {event : BattleEvent Data} (own : event.onSocket = false)
    (moved : b.step order address codec event = some next) : SaysOnly b next := by
  cases event with
  | matchRequest session request gameId rolls => exact saysOnly_handle moved
  | userDisconnected session => exact saysOnly_handle moved
  | serverTimeout region id => exact saysOnly_handle moved
  | connect session server => contradiction
  | heartBeatTrigger session =>
    obtain ⟨link, opened, rfl⟩ := Option.map_eq_some_iff.mp moved
    have same : SameDown b { b with
        links := b.links.insert session
          { link with up := link.up ++ [PvpServer.sendHeartbeat (address link.server)] } } :=
      sameDown_insert opened (fun _ => rfl)
    exact same.saysOnly rfl
  | lose session =>
    obtain ⟨link, opened, rfl⟩ := Option.map_eq_some_iff.mp moved
    refine (sameDown_insert opened (fun up => ?_)).saysOnly rfl
    contradiction
  | serverDisconnected session =>
    exact saysOnly_handle (Option.ite_none_right_eq_some.mp moved).2
  | receive session =>
    obtain ⟨link, opened, moved⟩ := Option.bind_eq_some_iff.mp moved
    cases up : link.up with
    | nil =>
      rw [up] at moved
      contradiction
    | cons message rest =>
      rw [up] at moved
      have same : SameDown b { b with
          links := b.links.insert session { link with up := rest } } :=
        sameDown_insert opened (fun _ => rfl)
      exact same.before rfl (saysOnly_handle moved)
  | parseControlMessage session gameTime => contradiction
  | game server event =>
    obtain ⟨_, s, _, rfl⟩ := game_step moved
    exact SameDown.saysOnly (fun session link opened => ⟨link, opened, rfl⟩) rfl

end BattleService

namespace SocketService
variable {wire : ControlCodec} {c u : ControlSocket} {down more : List Message}

theorem holds_start (buffers : ControlSocket) : Holds wire (buffers.start []) [] :=
  ⟨rfl, by simp, [], rfl, Or.inl ⟨rfl, rfl⟩⟩

theorem frames_controlMessages
    (short : ∀ message ∈ more, (wire.serialize message).length + 4 < 0x80000000) :
    ∃ messages : List ControlMessage,
      messages.map ControlMessage.payload = more.map wire.serialize ∧
        wireBytes messages = wire.frames more := by
  induction more with
  | nil => exact ⟨[], rfl, rfl⟩
  | cons message rest ih =>
    obtain ⟨messages, payloads, bytes⟩ :=
      ih (fun other member => short other (List.mem_cons_of_mem _ member))
    refine ⟨⟨wire.serialize message, short message List.mem_cons_self⟩ :: messages, ?_, ?_⟩
    · rw [List.map_cons, List.map_cons, payloads]
    · unfold wireBytes ControlCodec.frames at *
      rw [List.flatMap_cons, List.flatMap_cons, bytes]

theorem wireBytes_append (first later : List ControlMessage) :
    wireBytes (first ++ later) = wireBytes first ++ wireBytes later :=
  List.flatMap_append

theorem holds_send (holds : Holds wire c down)
    (short : ∀ message ∈ more, (wire.serialize message).length + 4 < 0x80000000) :
    Holds wire (c.send (wire.frames more)) (down ++ more) := by
  obtain ⟨added, payloads, bytes⟩ := frames_controlMessages short
  obtain ⟨messages, before, place⟩ := holds.place
  refine ⟨holds.running, ?_, messages ++ added, ?_, ?_⟩
  · intro message member
    exact (List.mem_append.mp member).elim (holds.short message) (short message)
  · rw [List.map_append, List.map_append, before, payloads]
  · rcases place with ⟨reading, unread⟩ | ⟨message, later, rfl, reading, count, unread⟩
    · refine Or.inl ⟨reading, ?_⟩
      rw [ControlSocket.send, unread, wireBytes_append, bytes]
    · refine Or.inr ⟨message, later ++ added, rfl, reading, count, ?_⟩
      rw [ControlSocket.send, unread, wireBytes_append, bytes, List.append_assoc]

theorem holds_size (holds : Holds wire c down) (reading : c.isReadingSize = true)
    (moved : c.step (.received c.buffer.length) = some u) : Holds wire u down := by
  obtain ⟨_, enough, rfl⟩ := ControlSocket.step_received moved
  have four : c.buffer.length = 4 := by
    rw [ControlSocket.buffer, if_pos reading, c.four]
  rw [four] at enough ⊢
  obtain ⟨messages, payloads, ⟨_, unread⟩ | ⟨_, _, _, other, _⟩⟩ := holds.place
  · cases messages with
    | nil =>
      rw [unread] at enough
      contradiction
    | cons message later =>
      rw [ControlSocket.receiveHandler_header reading unread]
      exact ⟨holds.running, holds.short, message :: later, payloads,
        Or.inr ⟨message, later, rfl, rfl, resize_length .., rfl⟩⟩
  · rw [reading] at other
    contradiction

theorem holds_message (holds : Holds wire c down) (reading : c.isReadingSize = false)
    (moved : c.step (.received c.buffer.length) = some u) :
    ∃ message rest, down = message :: rest ∧ wire.read u.dataBytes = some message ∧
      Holds wire u rest := by
  obtain ⟨_, _, rfl⟩ := ControlSocket.step_received moved
  obtain ⟨messages, payloads, ⟨other, _⟩ | ⟨payload, later, rfl, _, count, unread⟩⟩ :=
    holds.place
  · rw [reading] at other
    contradiction
  · have whole : c.buffer.length = payload.payload.length := by
      rw [ControlSocket.buffer, if_neg (Bool.eq_false_iff.mp reading), count]
    rw [whole, ControlSocket.receiveHandler_payload reading count unread]
    cases down with
    | nil => contradiction
    | cons message rest =>
      obtain ⟨same, payloads⟩ := List.cons.inj payloads
      refine ⟨message, rest, rfl, ?_, holds.running, ?_, later, payloads, Or.inl ⟨rfl, rfl⟩⟩
      · exact (congrArg wire.read same).trans
          (wire.read_serialize message (holds.short message List.mem_cons_self))
      · exact fun other member => holds.short other (List.mem_cons_of_mem _ member)

section steps
variable {Data : Type*} {order : PrioritySort} {address : Nat → IpPort} {codec : GameCodec Data}
  {w v : SocketService}

theorem inStep_handled (inv : w.InStep wire) {event : BattleEvent Data} {next : BattleService}
    (own : event.onSocket = false) (moved : w.service.step order address codec event = some next)
    (short : ∀ reply ∈ w.service.said next, next.links.contains reply.session →
      (wire.serialize reply.message).length + 4 < 0x80000000) :
    (w.sending wire next).InStep wire := by
  intro session link' opened
  obtain ⟨link, before, down⟩ := BattleService.saysOnly_step own moved session link' opened
  rw [down]
  refine holds_send (inv session link before) ?_
  intro message member
  obtain ⟨reply, said, rfl⟩ := List.mem_map.mp member
  obtain ⟨said, here⟩ := List.mem_filter.mp said
  refine short reply said ?_
  have held : next.links[session]? = some link' := BattleService.of_openLink opened
  rw [of_decide_eq_true here, TreeMap.contains_eq_isSome_getElem?, held]
  rfl

theorem inStep_update (inv : w.InStep wire) {session : Session} {changed : Link}
    {service : BattleService} (links : service.links = w.service.links.insert session changed)
    {c : ControlSocket} (holds : changed.lost = false → Holds wire c changed.down) :
    InStep wire { service := service, sockets := Function.update w.sockets session c } := by
  intro other link opened
  have found : (w.service.links.insert session changed)[other]? = some link :=
    links ▸ BattleService.of_openLink opened
  obtain ⟨_, up⟩ := Option.filter_eq_some_iff.mp opened
  rw [find_insert] at found
  split at found
  · rename_i here
    subst here
    obtain rfl := Option.some.inj found
    show Holds wire (Function.update w.sockets session c session) changed.down
    rw [Function.update_self]
    exact holds (by simpa using up)
  · rename_i apart
    show Holds wire (Function.update w.sockets session c other) link.down
    rw [Function.update_of_ne (Ne.symm apart)]
    exact inv other link (Option.filter_eq_some_iff.mpr ⟨found, up⟩)

/-- With whole reads the sockets take the steps of the battle service, or none. -/
theorem inStep_step (inv : w.InStep wire) {e : SocketEvent Data}
    (whole : w.wholeReads wire order address codec e)
    (moved : w.step wire order address codec e = some v) :
    v.InStep wire ∧ (v.service = w.service ∨ ∃ event, w.service.distinctIds event ∧
      w.service.step order address codec event = some v.service) := by
  cases e with
  | handled event =>
    obtain ⟨own, moved⟩ := Option.ite_none_left_eq_some.mp moved
    obtain ⟨next, stepped, rfl⟩ := Option.map_eq_some_iff.mp moved
    exact ⟨inStep_handled inv (Bool.eq_false_iff.mpr own) stepped (whole.2 next stepped),
      Or.inr ⟨event, whole.1, stepped⟩⟩
  | connect session server buffers =>
    obtain ⟨next, stepped, rfl⟩ := Option.map_eq_some_iff.mp moved
    refine ⟨?_, Or.inr ⟨.connect session server, trivial, stepped⟩⟩
    obtain ⟨_, same⟩ := Option.ite_none_left_eq_some.mp stepped
    obtain rfl := Option.some.inj same
    exact inStep_update inv rfl (fun _ => holds_start buffers)
  | received session size gameTime =>
    obtain ⟨link, opened, moved⟩ := Option.bind_eq_some_iff.mp moved
    obtain ⟨c, read, rfl⟩ := Option.map_eq_some_iff.mp moved
    obtain rfl : size = (w.sockets session).buffer.length := whole
    have holds := inv session link opened
    cases reading : (w.sockets session).isReadingSize with
    | true =>
      refine ⟨?_, Or.inl (by simp)⟩
      intro other link' found
      have found : w.service.openLink other = some link' := by simpa [reading] using found
      by_cases here : session = other
      · subst here
        obtain rfl := Option.some.inj (opened.symm.trans found)
        show Holds wire (Function.update w.sockets session c session) _
        rw [Function.update_self]
        exact holds_size holds reading read
      · show Holds wire (Function.update w.sockets session c other) _
        rw [Function.update_of_ne (Ne.symm here)]
        exact inv other link' found
    | false =>
      obtain ⟨message, rest, down, parsed, later⟩ := holds_message holds reading read
      have same : w.service.parsedBytes wire session { link with down := link.down.tail } gameTime
          c.dataBytes = w.service.parsed session { link with down := rest } gameTime message := by
        rw [BattleService.parsedBytes, parsed, down]
        rfl
      simp only [Bool.false_eq_true, ↓reduceIte, same]
      refine ⟨inStep_update inv rfl (fun _ => later), Or.inr
        ⟨.parseControlMessage session gameTime, trivial, ?_⟩⟩
      simp only [BattleService.step, opened, Option.bind_some, down]

theorem service_of_run (run : Reach (step wire order address codec)
      (wholeReads wire order address codec) {} w) :
    w.InStep wire ∧ Reach (BattleService.step order address codec) BattleService.distinctIds {}
      w.service := by
  induction run with
  | refl => exact ⟨fun session link opened => by simp [BattleService.openLink] at opened, .refl⟩
  | tail e _ whole moved ih =>
    obtain ⟨inv, past⟩ := ih
    obtain ⟨next, same | ⟨event, fresh, stepped⟩⟩ := inStep_step inv whole moved
    · exact ⟨next, same ▸ past⟩
    · exact ⟨next, .tail event past fresh stepped⟩

end steps

def firstMessages : List Message :=
  [.registerResponse ⟨0⟩,
    .createGame ⟨"g1", AutoMatch.addForce (AutoMatch.addForce {} "alice" rolls.1) "bob" rolls.2⟩]

def numberedMessages : ControlCodec where
  serialize message :=
    if message ∈ firstMessages then [BitVec.ofNat 8 (firstMessages.idxOf message)]
    else List.replicate 0x80000000 0
  read
    | [byte] => firstMessages[byte.toNat]?
    | _ => none
  read_serialize := by
    intro message short
    by_cases listed : message ∈ firstMessages
    · have place : firstMessages.idxOf message < 2 := List.idxOf_lt_length_of_mem listed
      rw [if_pos listed]
      dsimp only
      rw [BitVec.toNat_ofNat, Nat.mod_eq_of_lt (by omega), List.getElem?_idxOf listed]
    · rw [if_neg listed, List.length_replicate] at short
      omega

def portOf (server : Nat) : IpPort := ⟨"10.0.0.1", 20437 + server⟩

def firstGame : List (SocketEvent GameMessage) :=
  [.connect 9 0 {}, .handled (.receive 9), .handled (.receive 9), .received 9 4 7,
    .received 9 1 7, .handled (.matchRequest 1 ⟨"desert", "alice"⟩ "g1" rolls),
    .handled (.matchRequest 2 ⟨"desert", "bob"⟩ "g1" rolls), .received 9 4 7, .received 9 1 7,
    .handled (.receive 9)]

end SocketService

end LaluneServer.Pvp
