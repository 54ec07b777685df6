import LaluneServer.Include.TimeStrings

/- The names of the log files. Without SplitByDate each run of a program opens a file
   that is named by the time. -/
namespace LaluneServer.Log
open Calendar DecimalText

def generateFileName (fileNamePrefix : Text) (splitByDate : Bool) (currentDate : Text)
    (now : PTime) : Text :=
  let time := if splitByDate then currentDate else ptimeToString4 now
  fileNamePrefix ++ ('_' :: time ++ ['.', 'l', 'o', 'g'])

theorem generateFileName_lt_iff (fileNamePrefix currentDate : Text) (t u : PTime) :
    generateFileName fileNamePrefix false currentDate t <
        generateFileName fileNamePrefix false currentDate u ↔
      ptimeToString4 t ++ ['.', 'l', 'o', 'g'] < ptimeToString4 u ++ ['.', 'l', 'o', 'g'] := by
  unfold generateFileName
  rw [append_lt_append_iff rfl]
  simp

/-- Stamps and file names of a later time come later exactly if the times lie in different
    seconds or their microseconds agree with the order of the texts. -/
theorem stamps_and_names_sort_iff (t u : PTime) (before : t < u)
    (fileNamePrefix currentDate : Text) :
    (ptimeToString4 t < ptimeToString4 u ↔ StampsSort t u) ∧
    (generateFileName fileNamePrefix false currentDate t <
        generateFileName fileNamePrefix false currentDate u ↔ StampsSort t u) := by
  constructor
  · have bare := ptimeToString4_append_lt_iff before (show Stops [] by simp [Stops])
    rwa [List.append_nil, List.append_nil] at bare
  · rw [generateFileName_lt_iff]
    exact ptimeToString4_append_lt_iff before (by simp [Stops])

def evening (microseconds : Nat) (small : microseconds < 1000000) : PTime where
  date := ⟨2016, 2, 29, by decide, by decide, by decide⟩
  hours := 21
  minutes := 30
  seconds := 0
  microseconds := microseconds
  time_range := ⟨by decide, by decide, by decide, small⟩

theorem evening_lt {m n : Nat} (hm : m < 1000000) (hn : n < 1000000) (lt : m < n) :
    evening m hm < evening n hn :=
  Nat.add_lt_add_left lt _

theorem evening_names_sort : ptimeToString4 (evening 5 (by decide)) <
    ptimeToString4 (evening 50 (by decide)) :=
  (stamps_and_names_sort_iff _ _ (evening_lt _ _ (by decide)) [] []).1.mpr (Or.inr (by decide))

theorem later_stamp_sorts_first :
    ¬∀ t u : PTime, t < u → ptimeToString4 t < ptimeToString4 u := by
  intro sorted
  have wrong := sorted (evening 9 (by decide)) (evening 10 (by decide))
    (evening_lt _ _ (by decide))
  exact absurd wrong (by decide +kernel)

end LaluneServer.Log
