import LaluneServer.Pvp.Acknowledgements

/- The shift counts of receiveMessage. The difference of two numbers is anything
   from -0x8000 to 0x8000, and it is used as a count without a check. -/
namespace LaluneServer.Pvp
open BitWindow Transition

variable {Data : Type*}

def ackShifts (t : PvpTerminal Data) (seqNo : BitVec 16) : List Int :=
  let shift := diffBetweenSequenceNumbers seqNo (t.ackNo.setWidth 32)
  if shift = 0 then []
  else if shift < 0 then [-shift]
  else [shift]

def remoteShifts (t : PvpTerminal Data) (ackNo : BitVec 16) : List Int :=
  let diff := diffBetweenSequenceNumbers t.seqNo (ackNo.setWidth 32)
  if 0 ≤ diff then
    (List.range (32 - diff).toNat).flatMap fun i : Nat => [(i : Int) + diff, (i : Int)]
  else []

/-- All counts that receiveMessage evaluates; a duplicate leaves before the loop, and
    after an undefined shift nothing is said. -/
def shiftCounts (t : PvpTerminal Data) (message : PvpMessage Data) : List Int :=
  if message.protoId.setWidth 16 = syncProtoId then []
  else
    let t := leaveSync t
    if t.state = .connected then
      ackShifts t (message.seqNo.setWidth 16) ++
        match updateAckInfo t (message.seqNo.setWidth 16) with
        | some (some t) => remoteShifts t (message.ackNo.setWidth 16)
        | _ => []
    else []

def CloseNumbers (a b : BitVec 16) : Prop := (a - b).toNat < 32 ∨ (b - a).toNat < 32

instance (a b : BitVec 16) : Decidable (CloseNumbers a b) :=
  inferInstanceAs (Decidable (_ ∨ _))

def InsideWindow (t : PvpTerminal Data) (message : PvpMessage Data) : Prop :=
  message.protoId.setWidth 16 = syncProtoId ∨ t.state = .disconnected ∨
    CloseNumbers (message.seqNo.setWidth 16) t.ackNo

section numbers
variable {a b : BitVec 16}

theorem diff_close_iff : CloseNumbers a b ↔
    -31 ≤ diffBetweenSequenceNumbers a (b.setWidth 32) ∧
    diffBetweenSequenceNumbers a (b.setWidth 32) ≤ 31 := by
  have boundA := a.isLt
  have boundB := b.isLt
  unfold CloseNumbers
  simp only [diffBetweenSequenceNumbers, diff_toInt, BitVec.toNat_sub]
  split
  · omega
  · split <;> omega

theorem diff_behind (near : CloseNumbers a b)
    (behind : diffBetweenSequenceNumbers a (b.setWidth 32) ≤ 0) :
    (b - a).toNat = (-diffBetweenSequenceNumbers a (b.setWidth 32)).toNat := by
  have boundA := a.isLt
  have boundB := b.isLt
  have range := diff_close_iff.mp near
  simp only [diffBetweenSequenceNumbers, diff_toInt, BitVec.toNat_sub] at range behind ⊢
  split at range <;> split at behind <;> omega

theorem diff_ahead (near : CloseNumbers a b)
    (ahead : 0 ≤ diffBetweenSequenceNumbers a (b.setWidth 32)) :
    (a - b).toNat = (diffBetweenSequenceNumbers a (b.setWidth 32)).toNat := by
  have boundA := a.isLt
  have boundB := b.isLt
  have range := diff_close_iff.mp near
  simp only [diffBetweenSequenceNumbers, diff_toInt, BitVec.toNat_sub] at range ahead ⊢
  split at range <;> split at ahead <;> omega

end numbers

section counts
variable (t : PvpTerminal Data)

theorem remoteShifts_in_range (ackNo : BitVec 16) :
    ∀ n ∈ remoteShifts t ackNo, 0 ≤ n ∧ n ≤ 31 := by
  unfold remoteShifts
  simp only
  split
  · intro n mem
    obtain ⟨i, turn, shift⟩ := List.mem_flatMap.mp mem
    have inside := List.mem_range.mp turn
    simp only [List.mem_cons, List.not_mem_nil, or_false] at shift
    omega
  · intro n mem
    simp at mem

theorem ackShifts_in_range_iff (seqNo : BitVec 16) :
    (∀ n ∈ ackShifts t seqNo, 0 ≤ n ∧ n ≤ 31) ↔ CloseNumbers seqNo t.ackNo := by
  rw [diff_close_iff]
  unfold ackShifts
  simp only
  split
  · simp only [List.not_mem_nil, false_implies, implies_true, true_iff]
    omega
  · split
    · simp only [List.forall_mem_singleton]
      omega
    · simp only [List.forall_mem_singleton]
      omega

theorem leaveSync_open {t : PvpTerminal Data} (open_state : t.state ≠ .disconnected) :
    leaveSync t = { t with state := .connected } := by
  unfold leaveSync
  cases t with
  | mk state =>
    cases state with
    | disconnected => exact absurd rfl open_state
    | connected => rfl
    | sync => rfl

theorem shiftCounts_in_range_iff (message : PvpMessage Data) :
    (∀ n ∈ shiftCounts t message, 0 ≤ n ∧ n ≤ 31) ↔ InsideWindow t message := by
  unfold shiftCounts InsideWindow
  by_cases sync : message.protoId.setWidth 16 = syncProtoId
  · simp [sync]
  · by_cases disconnected : t.state = .disconnected
    · simp [sync, leaveSync, disconnected]
    · have connects : leaveSync t = { t with state := .connected } := leaveSync_open disconnected
      have near := ackShifts_in_range_iff (leaveSync t) (message.seqNo.setWidth 16)
      rw [connects] at near
      simp only [connects, ↓reduceIte, List.forall_mem_append, near, sync,
        disconnected, false_or]
      refine and_iff_left ?_
      split
      · exact remoteShifts_in_range _ _
      · intro n mem
        simp at mem

end counts

def Remembers (t : PvpTerminal Data) (no : BitVec 16) : Prop :=
  t.ackBits.getLsbD (t.ackNo - no).toNat = true

def NewestMarked (t : PvpTerminal Data) : Prop :=
  t.state ≠ .disconnected → t.ackBits.getLsbD 0 = true

section window
variable {t u : PvpTerminal Data} {no : BitVec 16}

theorem inside_of_remembers (known : Remembers t no) : (t.ackNo - no).toNat < 32 := by
  by_contra outside
  have clear := BitVec.getLsbD_of_ge t.ackBits (t.ackNo - no).toNat (by omega)
  rw [Remembers, clear] at known
  contradiction

theorem remembers_mark (inside : (t.ackNo - no).toNat < 32) (other : BitVec 16) :
    Remembers { t with ackBits := t.ackBits ||| 1#32 <<< (t.ackNo - no).toNat } other ↔
    (Remembers t other ∨ other = no) ∧ (t.ackNo - other).toNat < 32 := by
  have place : (t.ackNo - other).toNat = (t.ackNo - no).toNat ↔ other = no := by
    rw [BitVec.toNat_inj, sub_right_inj]
  unfold Remembers
  simp only
  rw [getLsbD_mark _ inside, place]
  constructor
  · rintro (known | rfl)
    · exact ⟨Or.inl known, inside_of_remembers known⟩
    · exact ⟨Or.inr rfl, inside⟩
  · rintro ⟨known, _⟩
    exact known

theorem remembers_shift {s : Nat} (positive : 0 < s) (small : s < 32)
    (ahead : (no - t.ackNo).toNat = s) (other : BitVec 16) :
    Remembers { t with ackNo := no, ackBits := t.ackBits <<< s ||| 0x1 } other ↔
    (Remembers t other ∨ other = no) ∧ (no - other).toNat < 32 := by
  have same : (no - other).toNat = 0 ↔ other = no := by
    rw [BitVec.toNat_eq, BitVec.toNat_sub]
    have := no.isLt
    have := other.isLt
    omega
  have below : s ≤ (no - other).toNat → (no - other).toNat < 32 →
      (t.ackNo - other).toNat = (no - other).toNat - s := by
    have := no.isLt
    have := other.isLt
    have := t.ackNo.isLt
    rw [BitVec.toNat_sub] at ahead
    simp only [BitVec.toNat_sub]
    omega
  have above : (t.ackNo - other).toNat < 32 →
      (t.ackNo - other).toNat + s = (no - other).toNat := by
    have := no.isLt
    have := other.isLt
    have := t.ackNo.isLt
    rw [BitVec.toNat_sub] at ahead
    simp only [BitVec.toNat_sub]
    omega
  unfold Remembers
  simp only
  constructor
  · intro known
    have inside : (no - other).toNat < 32 :=
      inside_of_remembers (t := { t with ackNo := no, ackBits := t.ackBits <<< s ||| 0x1 }) known
    refine ⟨?_, inside⟩
    have marked := (getLsbD_mark (t.ackBits <<< s) (show 0 < 32 by decide) _).mp known
    rcases marked with old | newest
    · obtain ⟨le, bit⟩ := (getLsbD_shift _ s inside).mp old
      rw [below le inside]
      exact Or.inl bit
    · exact Or.inr (same.mp newest)
  · rintro ⟨known, inside⟩
    refine (getLsbD_mark (t.ackBits <<< s) (show 0 < 32 by decide) _).mpr ?_
    rcases known with old | newest
    · have place := above (inside_of_remembers (t := t) old)
      refine Or.inl ((getLsbD_shift _ s inside).mpr ⟨by omega, ?_⟩)
      rw [show (no - other).toNat - s = (t.ackNo - other).toNat by omega]
      exact old
    · exact Or.inr (same.mpr newest)

theorem updateAckInfo_near (newest : t.ackBits.getLsbD 0 = true)
    (near : CloseNumbers no t.ackNo) :
    (updateAckInfo t no = some none ∧ Remembers t no) ∨
    ∃ u, updateAckInfo t no = some (some u) ∧ ¬ Remembers t no ∧
      u = { t with ackNo := u.ackNo, ackBits := u.ackBits } ∧
      ∀ other, Remembers u other ↔
        (Remembers t other ∨ other = no) ∧ (u.ackNo - other).toNat < 32 := by
  have range := diff_close_iff.mp near
  rcases lt_trichotomy (diffBetweenSequenceNumbers no (t.ackNo.setWidth 32)) 0 with
    behind | same | ahead
  · have place := diff_behind near behind.le
    have inside : (t.ackNo - no).toNat < 32 := by
      omega
    have distance : diffBetweenSequenceNumbers no (t.ackNo.setWidth 32) =
        -((t.ackNo - no).toNat : Int) := by
      omega
    by_cases known : Remembers t no
    · exact Or.inl ⟨updateAckInfo_iff.mpr (.known distance (by omega) inside known), known⟩
    · have clear := Bool.eq_false_of_not_eq_true known
      exact Or.inr ⟨_, updateAckInfo_iff.mpr (.marked distance (by omega) inside clear), known,
        rfl, remembers_mark inside⟩
  · have place := diff_behind near same.le
    refine Or.inl ⟨updateAckInfo_iff.mpr (.again same), ?_⟩
    rw [Remembers, place, same]
    exact newest
  · have place := diff_ahead near ahead.le
    have inside : (no - t.ackNo).toNat < 32 := by
      omega
    have distance : diffBetweenSequenceNumbers no (t.ackNo.setWidth 32) =
        ((no - t.ackNo).toNat : Int) := by
      omega
    refine Or.inr ⟨_, updateAckInfo_iff.mpr (.advanced distance (by omega) inside), ?_, rfl,
      remembers_shift (by omega) inside rfl⟩
    intro known
    have far := inside_of_remembers known
    have boundA := no.isLt
    have boundB := t.ackNo.isLt
    rw [BitVec.toNat_sub] at far place
    omega

theorem updateRemoteAckBits_bits (ackNo : BitVec 16) (ackBits : BitVec 32) {k : Nat}
    (inside : k < 32) : (updateRemoteAckBits t ackNo ackBits).remoteAckBits.getLsbD k = true ↔
    t.remoteAckBits.getLsbD k = true ∨
    (0 ≤ diffBetweenSequenceNumbers t.seqNo (ackNo.setWidth 32) ∧
      diffBetweenSequenceNumbers t.seqNo (ackNo.setWidth 32) ≤ k ∧ ackBits.getLsbD
        (k - (diffBetweenSequenceNumbers t.seqNo (ackNo.setWidth 32)).toNat) = true) := by
  unfold updateRemoteAckBits
  generalize diffBetweenSequenceNumbers t.seqNo (ackNo.setWidth 32) = diff
  simp only
  by_cases nonneg : 0 ≤ diff
  · rw [if_pos nonneg]
    by_cases far : 32 ≤ diff
    · rw [show (32 - diff).toNat = 0 by omega, List.range_zero, List.foldl_nil]
      refine (or_iff_left ?_).symm
      rintro ⟨_, below, _⟩
      omega
    · rw [(afterTurns_all (32 - diff).toNat (by omega)).bits k inside]
      refine or_congr_right ?_
      constructor
      · rintro ⟨above, _, acked⟩
        exact ⟨nonneg, by omega, acked⟩
      · rintro ⟨_, above, acked⟩
        exact ⟨by omega, by omega, acked⟩
  · rw [if_neg nonneg]
    refine (or_iff_left ?_).symm
    rintro ⟨above, _⟩
    exact nonneg above

end window

section runs
variable {t u : PvpTerminal Data}

theorem updateAckInfo_marks {no : BitVec 16} (newest : t.ackBits.getLsbD 0 = true)
    (updated : updateAckInfo t no = some (some u)) : u.ackBits.getLsbD 0 = true := by
  cases updateAckInfo_iff.mp updated with
  | marked behind positive inside clear => simp [newest]
  | advanced ahead positive inside => simp

theorem sendMessage_newest (marked : NewestMarked t) (message : PvpMessage Data)
    (protoId : BitVec 16) : NewestMarked (sendMessage t message protoId).1 := by
  refine sendRounds_preserves NewestMarked ?_ ?_ 4 _ marked
  · intro u message rest marked _ _
    exact marked
  · intro u count marked
    exact marked

theorem callStep_newest {c : TerminalCall Data} (marked : NewestMarked t)
    (moved : callStep t c = some u) : NewestMarked u := by
  cases c with
  | sendMessage message protoId =>
    obtain rfl := Option.some.inj moved
    exact sendMessage_newest marked message protoId
  | resendMessages =>
    obtain rfl := Option.some.inj moved
    obtain ⟨messages, frame, _⟩ := resendMessages_frame t
    show NewestMarked (resendMessages t).1
    rw [frame]
    exact marked
  | receiveMessage message =>
    obtain ⟨r, received, rfl⟩ := Option.map_eq_some_iff.mp moved
    cases receives_of_receiveMessage received with
    | ignored idle => exact marked
    | handshake sync disconnected => exact sendMessage_newest (fun _ => by simp [acceptSync]) {} _
    | duplicate data opened known => exact fun _ => marked opened
    | accepted data opened updated =>
      rename_i v
      intro _
      have newest : v.ackBits.getLsbD 0 = true :=
        updateAckInfo_marks (t := { t with totalTimeNoMessage := 0, state := .connected })
          (marked opened) updated
      simp only
      rw [updateRemoteAckBits_frame]
      exact newest

/-- A packet within the window does what the bitmaps are for: a known one changes
    neither, a new one is handed on, marked, and marks what it acknowledges. -/
def WindowsKept (t : PvpTerminal Data) (message : PvpMessage Data) (r : Received Data) : Prop :=
  (r.parsed = none ∧ r.terminal.ackNo = t.ackNo ∧ r.terminal.ackBits = t.ackBits ∧
    r.terminal.remoteAckBits = t.remoteAckBits) ∨
  (r.parsed = some message ∧ ¬ Remembers t (message.seqNo.setWidth 16) ∧
    (∀ no, Remembers r.terminal no ↔ (Remembers t no ∨ no = message.seqNo.setWidth 16) ∧
      (r.terminal.ackNo - no).toNat < 32) ∧
    ∀ k, k < 32 → (r.terminal.remoteAckBits.getLsbD k = true ↔
      t.remoteAckBits.getLsbD k = true ∨
      (0 ≤ diffBetweenSequenceNumbers t.seqNo ((message.ackNo.setWidth 16).setWidth 32) ∧
        diffBetweenSequenceNumbers t.seqNo ((message.ackNo.setWidth 16).setWidth 32) ≤ k ∧
        message.ackBits.getLsbD (k - (diffBetweenSequenceNumbers t.seqNo
          ((message.ackNo.setWidth 16).setWidth 32)).toNat) = true)))

theorem receiveMessage_in_window (marked : NewestMarked t) {message : PvpMessage Data}
    (inside : InsideWindow t message) : ∃ r, receiveMessage t message = some r ∧
      (message.protoId.setWidth 16 ≠ syncProtoId → WindowsKept t message r) := by
  by_cases sync : message.protoId.setWidth 16 = syncProtoId
  · have returns : ∃ r, receiveMessage t message = some r := by
      unfold receiveMessage
      rw [if_pos sync]
      split
      · exact ⟨_, rfl⟩
      · exact ⟨_, rfl⟩
    obtain ⟨r, received⟩ := returns
    exact ⟨r, received, fun data => absurd sync data⟩
  · by_cases disconnected : t.state = .disconnected
    · have idle := iff_of_false sync (not_not.mpr disconnected)
      exact ⟨_, receiveMessage_ignored idle, fun _ => Or.inl ⟨rfl, rfl, rfl, rfl⟩⟩
    · have near := (inside.resolve_left sync).resolve_left disconnected
      rw [receiveMessage_data disconnected sync]
      rcases updateAckInfo_near
        (t := { t with totalTimeNoMessage := 0, state := .connected })
        (marked disconnected) near with ⟨known, _⟩ | ⟨u, updated, new, frame, remembers⟩
      · rw [known]
        exact ⟨_, rfl, fun _ => Or.inl ⟨rfl, rfl, rfl, rfl⟩⟩
      · rw [updated]
        refine ⟨_, rfl, fun _ => Or.inr ⟨rfl, new, ?_, ?_⟩⟩
        · intro no
          show Remembers (updateRemoteAckBits u _ _) no ↔ _ ∧
            ((updateRemoteAckBits u _ _).ackNo - no).toNat < 32
          rw [updateRemoteAckBits_frame]
          exact remembers no
        · intro k small
          have sent : u.seqNo = t.seqNo := by
            rw [frame]
          have bits : u.remoteAckBits = t.remoteAckBits := by
            rw [frame]
          have loop := updateRemoteAckBits_bits (t := u) (message.ackNo.setWidth 16)
            message.ackBits small
          rw [sent, bits] at loop
          exact loop

end runs

/-- In every reachable state exactly the packets from outside the window make
    receiveMessage shift by a count outside 0..31; all others keep the windows. -/
theorem shift_counts_stay_in_range_iff {t : PvpTerminal Data}
    (run : Reach callStep always newTerminal t) (message : PvpMessage Data) :
    ((∀ n ∈ shiftCounts t message, 0 ≤ n ∧ n ≤ 31) ↔ InsideWindow t message) ∧
    (InsideWindow t message → ∃ r, receiveMessage t message = some r ∧
      (message.protoId.setWidth 16 ≠ syncProtoId → WindowsKept t message r)) := by
  have marked : NewestMarked t := reach_invariant NewestMarked (fun opened => absurd rfl opened)
    (fun _ _ _ marked _ moved => callStep_newest marked moved) run
  exact ⟨shiftCounts_in_range_iff t message, receiveMessage_in_window marked⟩

def farPacket : PvpMessage Unit where
  protoId := 1
  seqNo := 75
  ackNo := 41

theorem shift_counts_of_next_packet :
    (∀ n ∈ shiftCounts (idleTerminal 41) (peerPacket 43 41), 0 ≤ n ∧ n ≤ 31) ∧
    ∃ r, receiveMessage (idleTerminal 41) (peerPacket 43 41) = some r ∧
      WindowsKept (idleTerminal 41) (peerPacket 43 41) r := by
  have inside : InsideWindow (idleTerminal 41) (peerPacket 43 41) :=
    Or.inr (Or.inr (by decide))
  have run : Reach callStep always newTerminal (idleTerminal 41) :=
    idle_reached (by decide) (by decide)
  obtain ⟨counts, kept⟩ := shift_counts_stay_in_range_iff run (peerPacket 43 41)
  obtain ⟨r, received, windows⟩ := kept inside
  exact ⟨counts.mpr inside, r, received, windows (by decide)⟩

theorem shift_count_out_of_range : ¬ ∀ (t : PvpTerminal Unit) (message : PvpMessage Unit),
    Reach callStep always newTerminal t → ∀ n ∈ shiftCounts t message, 0 ≤ n ∧ n ≤ 31 := by
  intro all
  have run : Reach callStep always newTerminal (idleTerminal 41) :=
    idle_reached (by decide) (by decide)
  have far : (33 : Int) ∈ shiftCounts (idleTerminal 41) farPacket := by
    decide +kernel
  have bounded := all _ farPacket run 33 far
  omega

end LaluneServer.Pvp
