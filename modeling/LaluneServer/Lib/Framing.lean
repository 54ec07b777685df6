import Mathlib.Data.List.Basic

/- Streams of frames that begin with their own length. A length may be refused; the
   frames before the first refused length are the content of the stream. -/
namespace LaluneServer.Framing

/-- Where the length of a frame stands, and which lengths are refused. A length that is
    not refused covers the header. -/
structure Format (Item Error : Type*) where
  headerLength : Nat
  size : List Item → Nat
  refuse : Nat → Option Error
  header_pos : 0 < headerLength
  size_append : ∀ s t : List Item, headerLength ≤ s.length → size (s ++ t) = size s
  header_le : ∀ n, refuse n = none → headerLength ≤ n

namespace Format
variable {Item Error : Type*} (F : Format Item Error)

structure IsFrame (f : List Item) : Prop where
  length : f.length = F.size f
  fine : F.refuse (F.size f) = none

def decode (s : List Item) : List (List Item) × Option Error :=
  if s.length < F.headerLength then ([], none)
  else
    match fine : F.refuse (F.size s) with
    | some error => ([], some error)
    | none =>
      if s.length < F.size s then ([], none)
      else
        (s.take (F.size s) :: (decode (s.drop (F.size s))).1, (decode (s.drop (F.size s))).2)
termination_by s.length
decreasing_by
  all_goals
    have large := F.header_le _ fine
    have positive := F.header_pos
    rw [List.length_drop]
    omega

section
variable {F} {f s rest : List Item} {frames : List (List Item)} {error : Error}

theorem IsFrame.header_le_length (frame : F.IsFrame f) : F.headerLength ≤ f.length := by
  rw [frame.length]
  exact F.header_le _ frame.fine

theorem decode_short (short : s.length < F.headerLength) : F.decode s = ([], none) := by
  rw [decode, if_pos short]

theorem decode_refused (long : F.headerLength ≤ s.length)
    (refused : F.refuse (F.size s) = some error) : F.decode s = ([], some error) := by
  rw [decode, if_neg (Nat.not_lt.mpr long)]
  split
  · rename_i other found
    rw [refused] at found
    rw [Option.some.inj found]
  · rename_i fine
    rw [refused] at fine
    contradiction

theorem decode_unfinished (fine : F.refuse (F.size s) = none) (part : s.length < F.size s) :
    F.decode s = ([], none) := by
  by_cases short : s.length < F.headerLength
  · exact decode_short short
  · rw [decode, if_neg short]
    split
    · rename_i other found
      rw [fine] at found
      contradiction
    · rw [if_pos part]

theorem decode_frame (frame : F.IsFrame f) (rest : List Item) :
    F.decode (f ++ rest) = (f :: (F.decode rest).1, (F.decode rest).2) := by
  have same := F.size_append f rest frame.header_le_length
  have long := frame.header_le_length
  rw [decode, if_neg (by rw [List.length_append]; omega)]
  split
  · rename_i other found
    rw [same, frame.fine] at found
    contradiction
  · rw [same, ← frame.length, if_neg (by rw [List.length_append]; omega), List.take_left,
      List.drop_left]

theorem decode_flatten (all : ∀ f ∈ frames, F.IsFrame f) (rest : List Item) :
    F.decode (frames.flatten ++ rest) = (frames ++ (F.decode rest).1, (F.decode rest).2) := by
  induction frames with
  | nil => rfl
  | cons f fs ih =>
    rw [List.flatten_cons, List.append_assoc, decode_frame (all f (by simp)),
      ih fun g mem => all g (by simp [mem])]
    rfl

theorem decode_prefix (all : ∀ f ∈ frames, F.IsFrame f) (arrived : s <+: frames.flatten) :
    ∃ first, first <+: frames ∧ F.decode s = (first, none) := by
  induction frames generalizing s with
  | nil =>
    obtain rfl := List.prefix_nil.mp arrived
    exact ⟨[], List.prefix_rfl, decode_short F.header_pos⟩
  | cons f fs ih =>
    have frame := all f (by simp)
    rw [List.flatten_cons] at arrived
    rcases Nat.lt_or_ge s.length f.length with part | whole
    · obtain ⟨tail, joined⟩ :=
        List.prefix_of_prefix_length_le arrived (List.prefix_append f fs.flatten)
          (Nat.le_of_lt part)
      refine ⟨[], List.nil_prefix, ?_⟩
      by_cases short : s.length < F.headerLength
      · exact decode_short short
      · have same : F.size s = F.size f := by
          rw [← joined, F.size_append s tail (by omega)]
        refine decode_unfinished ?_ ?_
        · rw [same]
          exact frame.fine
        · rw [same, ← frame.length]
          exact part
    · obtain ⟨tail, joined⟩ :=
        List.prefix_of_prefix_length_le (List.prefix_append f fs.flatten) arrived whole
      rw [← joined] at arrived
      obtain ⟨first, before, decoded⟩ :=
        ih (fun g mem => all g (by simp [mem])) ((List.prefix_append_right_inj f).mp arrived)
      refine ⟨f :: first, ?_, ?_⟩
      · exact (List.cons_prefix_cons).mpr ⟨rfl, before⟩
      · rw [← joined, decode_frame frame, decoded]

end

end Format

end LaluneServer.Framing
