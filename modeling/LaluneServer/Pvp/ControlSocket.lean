import LaluneServer.Lib.Transition
import LaluneServer.NetLib.Packet

/- The control connection of PvpServer: receive and receiveHandler over the bytes of
   one connection. async_receive completes with any number of bytes from one up to
   the size of the buffer, for an empty buffer with none; an error ends the connection
   and is not part of the system. -/
namespace LaluneServer.Pvp
open NetLib Transition

/-- A message whose size and length field fit an int, as sendWithoutSize needs. -/
structure ControlMessage where
  payload : Bytes
  fits : payload.length + 4 < 0x80000000

def sendWithoutSize (message : Bytes) : Bytes :=
  let size := message.length + 4
  uint32Bytes size ++ message.take (size - 4)

def wireBytes (messages : List ControlMessage) : Bytes :=
  messages.flatMap fun message => sendWithoutSize message.payload

/-- The members that receive uses, what TCP has still to deliver, and as ghosts the
    arguments of parseControlMessage and the payload sizes computed so far. `crashed`
    stands for the exception of resize and for undefined behaviour. -/
structure ControlSocket where
  isReadingSize : Bool := true
  sizeBytes : Bytes := [0, 0, 0, 0]
  dataBytes : Bytes := []
  unread : Bytes := []
  parsed : List Bytes := []
  sizes : List (Option Int) := []
  crashed : Bool := false
  four : sizeBytes.length = 4 := by rfl
  deriving DecidableEq

def resize (count : Nat) (bytes : Bytes) : Bytes :=
  bytes.take count ++ List.replicate (count - bytes.length) 0

/-- The socket writes a piece to the front of a buffer. -/
def overwrite (buffer piece : Bytes) : Bytes :=
  (piece ++ buffer.drop piece.length).take buffer.length

def readInt (bytes : Bytes) : Int := (BitVec.ofNat 32 (readUint32 bytes)).toInt

/-- `*(int*)bytes - 4`; `none` is an overflow. -/
def payloadSize (bytes : Bytes) : Option Int :=
  if -0x80000000 ≤ readInt bytes - 4 then some (readInt bytes - 4) else none

theorem overwrite_length (buffer piece : Bytes) :
    (overwrite buffer piece).length = buffer.length := by
  simp only [overwrite, List.length_take, List.length_append, List.length_drop]
  omega

theorem overwrite_full {buffer piece : Bytes} (full : piece.length = buffer.length) :
    overwrite buffer piece = piece := by
  rw [overwrite, full, List.drop_length, List.append_nil, ← full, List.take_length]

theorem resize_length (count : Nat) (bytes : Bytes) : (resize count bytes).length = count := by
  simp only [resize, List.length_append, List.length_take, List.length_replicate]
  omega

namespace ControlSocket

/-- `start`, with the buffers as an earlier connection left them. -/
def start (c : ControlSocket) (stream : Bytes) : ControlSocket :=
  { c with isReadingSize := true, unread := stream, parsed := [], sizes := [], crashed := false }

def buffer (c : ControlSocket) : Bytes := if c.isReadingSize then c.sizeBytes else c.dataBytes

def fill (c : ControlSocket) (size : Nat) : ControlSocket :=
  let piece := c.unread.take size
  let c := { c with unread := c.unread.drop size }
  if c.isReadingSize then
    { c with
      sizeBytes := overwrite c.sizeBytes piece
      four := (overwrite_length c.sizeBytes piece).trans c.four }
  else { c with dataBytes := overwrite c.dataBytes piece }

/-- `receiveHandler` without an error. It does not look at the number of bytes. -/
def receiveHandler (c : ControlSocket) : ControlSocket :=
  if c.isReadingSize then
    let size := payloadSize c.sizeBytes
    let c := { c with sizes := c.sizes ++ [size] }
    match size with
    | some (.ofNat count) =>
      { c with dataBytes := resize count c.dataBytes, isReadingSize := false }
    | _ => { c with crashed := true }
  else { c with parsed := c.parsed ++ [c.dataBytes], isReadingSize := true }

end ControlSocket

inductive ControlEvent where
  | received (size : Nat)
  deriving DecidableEq, Repr

namespace ControlSocket

def step (c : ControlSocket) : ControlEvent → Option ControlSocket
  | .received size =>
    if c.crashed = false ∧ size ≤ c.buffer.length ∧ size ≤ c.unread.length ∧
        (0 < size ∨ c.buffer.length = 0) then
      some (c.fill size).receiveHandler
    else none

def fillsBuffer (c : ControlSocket) : ControlEvent → Prop
  | .received size => size = c.buffer.length

/-- If a length field is read, it counts at least itself. -/
def countsItself (c : ControlSocket) : ControlEvent → Prop
  | .received size => c.isReadingSize = true →
      4 ≤ readInt (overwrite c.sizeBytes (c.unread.take size))

instance (c : ControlSocket) : (e : ControlEvent) → Decidable (c.fillsBuffer e)
  | .received size => inferInstanceAs (Decidable (size = c.buffer.length))

instance (c : ControlSocket) : (e : ControlEvent) → Decidable (c.countsItself e)
  | .received _ => inferInstanceAs (Decidable (_ → _))

def SizesFine (c : ControlSocket) : Prop := ∀ size ∈ c.sizes, ∃ count : Nat, size = some count

/-- The messages are handed to parseControlMessage one after the other, all of them
    once everything has arrived, and reading never gets stuck before that. -/
structure Delivers (messages : List ControlMessage) (c : ControlSocket) : Prop where
  order : c.parsed <+: messages.map ControlMessage.payload
  complete : c.isReadingSize = true → c.unread = [] →
    c.parsed = messages.map ControlMessage.payload
  progress : c.isReadingSize = true ∧ c.unread = [] ∨
    ∃ u, c.step (.received c.buffer.length) = some u
  sizes : c.SizesFine

structure Aligned (messages : List ControlMessage) (c : ControlSocket) : Prop where
  running : c.crashed = false
  sizes : c.SizesFine
  place : ∃ first rest, messages = first ++ rest ∧
    c.parsed = first.map ControlMessage.payload ∧
    ((c.isReadingSize = true ∧ c.unread = wireBytes rest) ∨
      ∃ message later, rest = message :: later ∧ c.isReadingSize = false ∧
        c.dataBytes.length = message.payload.length ∧
        c.unread = message.payload ++ wireBytes later)

end ControlSocket

theorem sendWithoutSize_eq (message : Bytes) :
    sendWithoutSize message = uint32Bytes (message.length + 4) ++ message := by
  simp [sendWithoutSize]

theorem wireBytes_cons (message : ControlMessage) (later : List ControlMessage) :
    wireBytes (message :: later) =
      uint32Bytes (message.payload.length + 4) ++ (message.payload ++ wireBytes later) := by
  rw [wireBytes, List.flatMap_cons, sendWithoutSize_eq, List.append_assoc]
  rfl

theorem payloadSize_message (message : ControlMessage) :
    payloadSize (uint32Bytes (message.payload.length + 4)) = some (message.payload.length : Int) := by
  have fits := message.fits
  have value : readInt (uint32Bytes (message.payload.length + 4)) =
      message.payload.length + 4 := by
    rw [readInt, readUint32_uint32Bytes (by omega), BitVec.toInt_eq_toNat_cond, BitVec.toNat_ofNat]
    split <;> omega
  unfold payloadSize
  rw [value, if_pos (by omega)]
  congr 1
  omega

theorem payloadSize_fine (bytes : Bytes) :
    (∃ count : Nat, payloadSize bytes = some (count : Int)) ↔ 4 ≤ readInt bytes := by
  unfold payloadSize
  constructor
  · rintro ⟨count, size⟩
    split at size
    · have := Option.some.inj size
      omega
    · contradiction
  · intro large
    refine ⟨(readInt bytes - 4).toNat, ?_⟩
    rw [if_pos (by omega)]
    congr 1
    omega

namespace ControlSocket
variable {messages : List ControlMessage} {c u : ControlSocket}

theorem step_received {size : Nat} (moved : c.step (.received size) = some u) :
    c.crashed = false ∧ size ≤ c.unread.length ∧ u = (c.fill size).receiveHandler := by
  simp only [step] at moved
  split at moved
  · rename_i enabled
    exact ⟨enabled.1, enabled.2.2.1, (Option.some.inj moved).symm⟩
  · contradiction

theorem receiveHandler_size (reading : c.isReadingSize = true) (size : Nat) :
    (∃ count : Nat, payloadSize (overwrite c.sizeBytes (c.unread.take size)) = some (count : Int) ∧
      (c.fill size).receiveHandler = { c with
        isReadingSize := false
        sizeBytes := overwrite c.sizeBytes (c.unread.take size)
        four := (overwrite_length _ _).trans c.four
        dataBytes := resize count c.dataBytes
        unread := c.unread.drop size
        sizes := c.sizes ++ [some (count : Int)] }) ∨
    ((¬ ∃ count : Nat,
        payloadSize (overwrite c.sizeBytes (c.unread.take size)) = some (count : Int)) ∧
      (c.fill size).receiveHandler = { c with
        sizeBytes := overwrite c.sizeBytes (c.unread.take size)
        four := (overwrite_length _ _).trans c.four
        unread := c.unread.drop size
        sizes := c.sizes ++ [payloadSize (overwrite c.sizeBytes (c.unread.take size))]
        crashed := true }) := by
  have filled : c.fill size = { c with
      unread := c.unread.drop size
      sizeBytes := overwrite c.sizeBytes (c.unread.take size)
      four := (overwrite_length _ _).trans c.four } := by
    simp only [fill, reading, ↓reduceIte]
  rw [filled, receiveHandler]
  simp only [reading, ↓reduceIte]
  cases computed : payloadSize (overwrite c.sizeBytes (c.unread.take size)) with
  | none => exact Or.inr ⟨by rintro ⟨_, impossible⟩; contradiction, rfl⟩
  | some value =>
    cases value with
    | ofNat count => exact Or.inl ⟨count, rfl, rfl⟩
    | negSucc _ => exact Or.inr ⟨by rintro ⟨_, impossible⟩; simp at impossible, rfl⟩

theorem receiveHandler_data (reading : c.isReadingSize = false) (size : Nat) :
    (c.fill size).receiveHandler = { c with
      isReadingSize := true
      dataBytes := overwrite c.dataBytes (c.unread.take size)
      unread := c.unread.drop size
      parsed := c.parsed ++ [overwrite c.dataBytes (c.unread.take size)] } := by
  simp only [fill, reading, receiveHandler, Bool.false_eq_true, ↓reduceIte]

theorem aligned_start (c : ControlSocket) (messages : List ControlMessage) :
    Aligned messages (c.start (wireBytes messages)) :=
  ⟨rfl, by simp [SizesFine, start], [], messages, rfl, rfl, Or.inl ⟨rfl, rfl⟩⟩

theorem receiveHandler_header {message : ControlMessage} {later : List ControlMessage}
    (reading : c.isReadingSize = true) (unread : c.unread = wireBytes (message :: later)) :
    (c.fill 4).receiveHandler = { c with
      isReadingSize := false
      sizeBytes := overwrite c.sizeBytes (c.unread.take 4)
      four := (overwrite_length _ _).trans c.four
      dataBytes := resize message.payload.length c.dataBytes
      unread := message.payload ++ wireBytes later
      sizes := c.sizes ++ [some (message.payload.length : Int)] } := by
  rw [wireBytes_cons] at unread
  have header : (uint32Bytes (message.payload.length + 4)).length = 4 := rfl
  have piece : overwrite c.sizeBytes (c.unread.take 4) =
      uint32Bytes (message.payload.length + 4) := by
    rw [unread, List.take_left' header]
    exact overwrite_full (header.trans c.four.symm)
  have remaining : c.unread.drop 4 = message.payload ++ wireBytes later := by
    rw [unread, List.drop_left' header]
  have computed := payloadSize_message message
  rcases receiveHandler_size reading 4 with ⟨count, size, done⟩ | ⟨bad, _⟩
  · rw [piece, computed] at size
    have same : message.payload.length = count := by
      simpa using size
    subst same
    rw [done, remaining]
  · rw [piece] at bad
    exact absurd ⟨_, computed⟩ bad

theorem receiveHandler_payload {message : ControlMessage} {later : Bytes}
    (reading : c.isReadingSize = false) (count : c.dataBytes.length = message.payload.length)
    (unread : c.unread = message.payload ++ later) :
    (c.fill message.payload.length).receiveHandler = { c with
      isReadingSize := true
      dataBytes := message.payload
      unread := later
      parsed := c.parsed ++ [message.payload] } := by
  have piece : overwrite c.dataBytes (c.unread.take message.payload.length) =
      message.payload := by
    rw [unread, List.take_left]
    exact overwrite_full count.symm
  have remaining : c.unread.drop message.payload.length = later := by
    rw [unread, List.drop_left]
  rw [receiveHandler_data reading, piece, remaining]

theorem aligned_step {e : ControlEvent} (inv : Aligned messages c) (full : c.fillsBuffer e)
    (moved : c.step e = some u) : Aligned messages u := by
  obtain ⟨size⟩ := e
  replace full : size = c.buffer.length := full
  obtain ⟨_, enough, rfl⟩ := step_received moved
  obtain ⟨first, rest, split, parsed, ⟨reading, unread⟩ | ⟨message, later, rfl, reading, count,
    unread⟩⟩ := inv.place
  · have four : size = 4 := by
      rw [full, buffer, if_pos reading, c.four]
    subst four
    cases rest with
    | nil =>
      rw [unread] at enough
      simp [wireBytes] at enough
    | cons message later =>
      rw [receiveHandler_header reading unread]
      refine ⟨inv.running, ?_, first, _, split, parsed,
        Or.inr ⟨message, later, rfl, rfl, resize_length .., rfl⟩⟩
      intro size mem
      rcases List.mem_append.mp mem with old | new
      · exact inv.sizes size old
      · exact ⟨message.payload.length, List.mem_singleton.mp new⟩
  · have whole : size = message.payload.length := by
      rw [full, buffer, if_neg (by simp [reading]), count]
    subst whole
    rw [receiveHandler_payload reading count unread]
    refine ⟨inv.running, inv.sizes, first ++ [message], later, by simp [split], ?_,
      Or.inl ⟨rfl, rfl⟩⟩
    show c.parsed ++ [message.payload] = _
    rw [parsed, List.map_append, List.map_singleton]

theorem aligned_delivers (inv : Aligned messages c) : Delivers messages c := by
  obtain ⟨first, rest, rfl, parsed, place⟩ := inv.place
  refine ⟨?_, ?_, ?_, inv.sizes⟩
  · rw [parsed, List.map_append]
    exact List.prefix_append _ _
  · intro reading none
    rcases place with ⟨_, unread⟩ | ⟨_, _, _, notReading, _⟩
    · cases rest with
      | nil => rw [parsed, List.append_nil]
      | cons message later =>
        rw [unread, wireBytes_cons] at none
        simp [uint32Bytes] at none
    · rw [reading] at notReading
      contradiction
  · rcases place with ⟨reading, unread⟩ | ⟨message, later, rfl, reading, count, unread⟩
    · cases rest with
      | nil => exact Or.inl ⟨reading, unread⟩
      | cons message later =>
        right
        have size : c.buffer.length = 4 := by
          rw [buffer, if_pos reading, c.four]
        have enough : 4 ≤ c.unread.length := by
          rw [unread, wireBytes_cons, List.length_append]
          exact Nat.le_add_right 4 _
        exact ⟨_, if_pos ⟨inv.running, Nat.le_refl _, by omega, by omega⟩⟩
    · right
      have size : c.buffer.length = message.payload.length := by
        rw [buffer, if_neg (by simp [reading]), count]
      have enough : message.payload.length ≤ c.unread.length := by
        rw [unread, List.length_append]
        exact Nat.le_add_right _ _
      exact ⟨_, if_pos ⟨inv.running, Nat.le_refl _, by omega, by omega⟩⟩

theorem sizesFine_step {e : ControlEvent} (fine : c.SizesFine) (moved : c.step e = some u) :
    u.SizesFine ↔ c.countsItself e := by
  obtain ⟨size⟩ := e
  obtain ⟨_, _, rfl⟩ := step_received moved
  cases reading : c.isReadingSize with
  | false =>
    rw [receiveHandler_data reading]
    exact iff_of_true fine (fun other => by rw [reading] at other; contradiction)
  | true =>
    have counts : c.countsItself (.received size) ↔ ∃ count : Nat,
        payloadSize (overwrite c.sizeBytes (c.unread.take size)) = some (count : Int) := by
      rw [payloadSize_fine]
      exact ⟨fun holds => holds reading, fun holds _ => holds⟩
    rw [counts]
    rcases receiveHandler_size reading size with ⟨count, computed, done⟩ | ⟨bad, done⟩
    · rw [done]
      refine iff_of_true ?_ ⟨count, computed⟩
      intro other mem
      rcases List.mem_append.mp mem with old | new
      · exact fine other old
      · exact ⟨count, List.mem_singleton.mp new⟩
    · rw [done]
      refine iff_of_false ?_ bad
      intro all
      exact bad (all _ (List.mem_append_right _ (List.mem_singleton_self _)))

end ControlSocket

/-- As long as every piece fills its buffer the messages are parsed as they were sent;
    and on any stream no payload size is negative as long as the length fields count
    themselves. -/
theorem payloads_parsed_while_pieces_fill (c : ControlSocket) :
    (∀ messages u, Reach ControlSocket.step ControlSocket.fillsBuffer
      (c.start (wireBytes messages)) u → u.Delivers messages) ∧
    ∀ stream u, Reach ControlSocket.step ControlSocket.countsItself (c.start stream) u →
      u.SizesFine ∧ ∀ e v, u.step e = some v → (v.SizesFine ↔ u.countsItself e) := by
  constructor
  · intro messages u run
    refine ControlSocket.aligned_delivers (reach_invariant (ControlSocket.Aligned messages)
      (ControlSocket.aligned_start c messages) ?_ run)
    exact fun _ _ _ inv full moved => ControlSocket.aligned_step inv full moved
  · intro stream u run
    have fine : u.SizesFine := by
      refine reach_invariant ControlSocket.SizesFine ?_ ?_ run
      · simp [ControlSocket.SizesFine, ControlSocket.start]
      · exact fun _ _ _ fine counts moved => (ControlSocket.sizesFine_step fine moved).mpr counts
    exact ⟨fine, fun _ _ moved => ControlSocket.sizesFine_step fine moved⟩

def twoMessages : List ControlMessage := [⟨[1, 2], by decide⟩, ⟨[3, 4], by decide⟩]

theorem two_messages_parsed : ∃ u, Reach ControlSocket.step ControlSocket.fillsBuffer
    (ControlSocket.start {} (wireBytes twoMessages)) u ∧ u.parsed = [[1, 2], [3, 4]] ∧
    u.Delivers twoMessages := by
  obtain ⟨u, run, parsed⟩ := execWithin_any ControlSocket.step ControlSocket.fillsBuffer
    (ControlSocket.start {} (wireBytes twoMessages))
    [.received 4, .received 2, .received 4, .received 2]
    (fun u => decide (u.parsed = [[1, 2], [3, 4]])) (by decide +kernel)
  exact ⟨u, run, of_decide_eq_true parsed, (payloads_parsed_while_pieces_fill {}).1 _ u run⟩

/-- The second length field arrives in two pieces; and a length field of 0. -/
theorem split_header_misread :
    (¬ ∀ messages u, Reach ControlSocket.step always
      (ControlSocket.start {} (wireBytes messages)) u →
      u.parsed <+: messages.map ControlMessage.payload) ∧
    ¬ ∀ stream u, Reach ControlSocket.step always (ControlSocket.start {} stream) u →
      u.SizesFine := by
  constructor
  · intro all
    obtain ⟨u, run, wrong⟩ := execWithin_any ControlSocket.step (fun _ _ => True)
      (ControlSocket.start {} (wireBytes twoMessages))
      [.received 4, .received 2, .received 2, .received 2]
      (fun u => decide (u.parsed = [[1, 2], [0, 0]])) (by decide +kernel)
    have prefixed := all twoMessages u (reach_weaken (fun _ _ _ => trivial) run)
    rw [of_decide_eq_true wrong] at prefixed
    exact absurd prefixed (by decide)
  · intro all
    obtain ⟨u, run, wrong⟩ := execWithin_any ControlSocket.step (fun _ _ => True)
      (ControlSocket.start {} [0, 0, 0, 0]) [.received 4]
      (fun u => decide (u.sizes = [some (-4)])) (by decide +kernel)
    have sizes := of_decide_eq_true wrong
    obtain ⟨count, same⟩ := all _ u (reach_weaken (fun _ _ _ => trivial) run) (some (-4))
      (by rw [sizes]; exact List.mem_singleton_self _)
    simp at same

end LaluneServer.Pvp
