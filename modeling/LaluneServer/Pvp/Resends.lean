import Mathlib.Data.Nat.Find
import LaluneServer.Pvp.Bookkeeping

/- The tick of the timer: resendMessages looks for the oldest packet that the peer did
   not acknowledge, from the highest bit down and as far as _max_resent_bit lets it. -/
namespace LaluneServer.Pvp

variable {Data : Type*}

/-- A zero bit that the loop of resendMessages gets to. -/
def Eligible (t : PvpTerminal Data) (b : Nat) : Prop :=
  b < 32 ∧ t.remoteAckBits.getLsbD b = false ∧ 32 ≤ b + t.maxResentBit

def Oldest (t : PvpTerminal Data) (b : Nat) : Prop :=
  Eligible t b ∧ ∀ c, Eligible t c → c ≤ b

def KeepsLost (t : PvpTerminal Data) : Prop :=
  ∀ b, b < 32 → t.remoteAckBits.getLsbD b = false →
    t.sentMessage.countP (carriesNo (bitNo t b)) = 1

instance (t : PvpTerminal Data) (b : Nat) : Decidable (Eligible t b) :=
  inferInstanceAs (Decidable (_ ∧ _ ∧ _))

instance (t : PvpTerminal Data) : Decidable (KeepsLost t) :=
  inferInstanceAs (Decidable (∀ b, b < 32 → _ → _))

section
variable {t : PvpTerminal Data}

theorem bookkeeping_keepsLost (k : Bookkeeping t) : KeepsLost t := by
  intro b inside clear
  have kept : bitNo t b ∈ t.sentMessage.map wireNo := (k.exact _).mpr ⟨b, inside, clear, rfl⟩
  have once := List.count_eq_one_of_mem k.distinct kept
  rw [List.count, List.countP_map] at once
  rw [← once]
  apply List.countP_congr
  intro message _
  simp [carriesNo, wireNo]

theorem exists_oldest {b : Nat} (eligible : Eligible t b) : ∃ oldest, Oldest t oldest := by
  have inside : b ≤ 31 := Nat.le_of_lt_succ eligible.1
  refine ⟨Nat.findGreatest (Eligible t) 31, Nat.findGreatest_spec inside eligible, ?_⟩
  intro c other
  exact Nat.le_findGreatest (Nat.le_of_lt_succ other.1) other

theorem loop_mask_clear_iff {b : Nat} (inside : b < 32) (bits : BitVec 32) :
    bits &&& ((0x80000000 >>> (32 - b - 1) : Nat) : BitVec 32) = 0 ↔ bits.getLsbD b = false := by
  have mask : ∀ b, b < 32 →
      ((0x80000000 >>> (32 - b - 1) : Nat) : BitVec 32) = 0x80000000#32 >>> (32 - b - 1) := by
    decide
  rw [mask b inside]
  exact turn_mask_clear_iff inside bits

theorem lostTurn_of_oldest {b : Nat} (oldest : Oldest t b) : lostTurn t = some (32 - b) := by
  obtain ⟨⟨inside, clear, reached⟩, above⟩ := oldest
  unfold lostTurn
  rw [List.find?_range'_eq_some]
  refine ⟨?_, ?_, ?_⟩
  · exact decide_eq_true ((loop_mask_clear_iff inside _).mpr clear)
  · rw [List.mem_range'_1]
    omega
  · intro i first before
    have place : i = 32 - (32 - i) := by omega
    have higher : 32 - i < 32 := by omega
    have set : t.remoteAckBits.getLsbD (32 - i) ≠ false := by
      intro other
      have := above (32 - i) ⟨higher, other, by omega⟩
      omega
    rw [place, Bool.not_eq_true', decide_eq_false_iff_not, loop_mask_clear_iff higher]
    exact set

theorem lostTurn_of_none_eligible (none : ∀ b, ¬Eligible t b)
    (missing : t.remoteAckBits ≠ 0xffffffff) : lostTurn t = Option.none := by
  have zero : ∃ b, b < 32 ∧ t.remoteAckBits.getLsbD b = false := by
    by_contra full
    apply missing
    apply BitVec.eq_of_getLsbD_eq
    intro b inside
    have set : t.remoteAckBits.getLsbD b = true := by
      by_contra clear
      exact full ⟨b, inside, by simpa using clear⟩
    have ones : ∀ b, b < 32 → (0xffffffff : BitVec 32).getLsbD b = true := by
      decide
    rw [set, ones b inside]
  obtain ⟨low, lowInside, lowClear⟩ := zero
  have short : low + t.maxResentBit < 32 := by
    by_contra reached
    exact none low ⟨lowInside, lowClear, by omega⟩
  unfold lostTurn
  rw [List.find?_range'_eq_none]
  intro i first last
  have place : i = 32 - (32 - i) := by omega
  have inside : 32 - i < 32 := by omega
  rw [place, Bool.not_eq_true', decide_eq_false_iff_not, loop_mask_clear_iff inside]
  intro clear
  exact none (32 - i) ⟨inside, clear, by omega⟩

theorem split_of_countP_one {α : Type*} {test : α → Bool} {l : List α}
    (once : l.countP test = 1) : ∃ earlier x later,
      l = earlier ++ x :: later ∧ test x = true ∧ ∀ y ∈ earlier, test y = false := by
  induction l with
  | nil => simp at once
  | cons a l ih =>
    by_cases passes : test a = true
    · exact ⟨[], a, l, rfl, passes, by simp⟩
    · rw [List.countP_cons_of_neg passes] at once
      obtain ⟨earlier, x, later, rfl, here, before⟩ := ih once
      refine ⟨a :: earlier, x, later, rfl, here, ?_⟩
      intro y member
      rcases List.mem_cons.mp member with rfl | older
      · simpa using passes
      · exact before y older

theorem replaceFirst_split {test : PvpMessage Data → Bool}
    (change : PvpMessage Data → PvpMessage Data) {earlier later : List (PvpMessage Data)}
    {message : PvpMessage Data} (here : test message = true)
    (before : ∀ m ∈ earlier, test m = false) :
    replaceFirst test change (earlier ++ message :: later) =
      earlier ++ change message :: later := by
  induction earlier with
  | nil => simp [replaceFirst, here]
  | cons m ms ih =>
    have skipped : test m = false := before m List.mem_cons_self
    have rest := ih (fun x member => before x (List.mem_cons_of_mem m member))
    simp only [List.cons_append, replaceFirst, skipped, rest]
    rfl

theorem find?_split {α : Type*} {test : α → Bool} {earlier later : List α} {x : α}
    (here : test x = true) (before : ∀ y ∈ earlier, test y = false) :
    (earlier ++ x :: later).find? test = some x := by
  have none : earlier.find? test = Option.none := by
    rw [List.find?_eq_none]
    intro y member
    simp [before y member]
  rw [List.find?_append, none, Option.none_or, List.find?_cons_of_pos here]

theorem resendPacket_split (connected : t.state = .connected) {no : BitVec 16}
    {earlier later : List (PvpMessage Data)} {message : PvpMessage Data}
    (place : t.sentMessage = earlier ++ message :: later)
    (here : carriesNo no message = true) (before : ∀ m ∈ earlier, carriesNo no m = false) :
    resendPacket t no =
      ({ t with
          sentMessage := earlier ++ refreshAck t message :: later
          maxResentBit := t.maxResentBit - 1 }, [refreshAck t message]) := by
  have found : getSentMessage t no = some message := by
    unfold getSentMessage
    rw [place]
    exact find?_split here before
  unfold resendPacket
  simp only [found, directSendMessage, connected, place, replaceFirst_split _ here before]
  rfl

end

/-- One tick sends the oldest packet that the peer misses and that the counter reaches,
    with the present ack fields, and touches nothing else. -/
theorem resendMessages_sends_oldest (t : PvpTerminal Data) (connected : t.state = .connected)
    (kept : KeepsLost t) :
    ((∃ b, Eligible t b) → ∃ b earlier message later, Oldest t b ∧
      t.sentMessage = earlier ++ message :: later ∧
      carriesNo (bitNo t b) message = true ∧
      resendMessages t =
        ({ t with
            sentMessage := earlier ++ refreshAck t message :: later
            maxResentBit := 32 }, [refreshAck t message])) ∧
    ((∀ b, ¬Eligible t b) → resendMessages t = ({ t with maxResentBit := 32 }, [])) := by
  constructor
  · rintro ⟨some_bit, eligible⟩
    obtain ⟨b, oldest⟩ := exists_oldest eligible
    obtain ⟨inside, clear, _⟩ := oldest.1
    obtain ⟨earlier, message, later, place, here, before⟩ :=
      split_of_countP_one (kept b inside clear)
    refine ⟨b, earlier, message, later, oldest, place, here, ?_⟩
    have missing : t.remoteAckBits ≠ 0xffffffff := by
      intro full
      have ones : ∀ b, b < 32 → (0xffffffff : BitVec 32).getLsbD b = true := by
        decide
      rw [full, ones b inside] at clear
      contradiction
    unfold resendMessages
    rw [if_pos missing, lostTurn_of_oldest oldest]
    simp only [turn_number inside, resendPacket_split connected place here before]
  · intro none
    unfold resendMessages
    split
    · rename_i missing
      rw [lostTurn_of_none_eligible none missing]
    · rfl

def missingTwo : PvpTerminal Unit where
  state := .connected
  ackNo := 7
  ackBits := 0x3
  seqNo := 3
  remoteAckBits := 0xfffffff9
  maxResentBit := 31
  sentMessage := [{ seqNo := 1 }, { seqNo := 2 }]
  toSendMessages := []
  totalTimeNoMessage := 0

theorem missingTwo_resends_oldest :
    ∃ b earlier message later, Oldest missingTwo b ∧
      missingTwo.sentMessage = earlier ++ message :: later ∧
      carriesNo (bitNo missingTwo b) message = true ∧
      resendMessages missingTwo =
        ({ missingTwo with
            sentMessage := earlier ++ refreshAck missingTwo message :: later
            maxResentBit := 32 }, [refreshAck missingTwo message]) :=
  (resendMessages_sends_oldest missingTwo rfl (by decide)).1 ⟨2, by decide⟩

end LaluneServer.Pvp
