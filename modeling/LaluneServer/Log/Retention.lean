import Mathlib.Algebra.Order.BigOperators.Group.List
import Mathlib.Data.BitVec
import Mathlib.Data.List.Sort
import LaluneServer.Log.FileNames

/- LogFile::PrintLine when it opens a file: old files of the directory are deleted while
   the limits are exceeded. Sizes and their total are uintmax_t, the limits are int; the
   number of files is taken to fit an int. -/
namespace LaluneServer.Log
open DecimalText

structure DirectoryEntry where
  name : Text
  isRegularFile : Bool
  /-- `none` where file_size fails. -/
  fileSize : Option (BitVec 64)
  deriving DecidableEq, Repr

abbrev MatchedFile := Text × BitVec 64

structure Limits where
  logTotalMegaBytesLimitWithinDir : BitVec 32
  logTotalFileLimitWithinDir : BitVec 32
  deriving DecidableEq, Repr

def Limits.megaBytes (limits : Limits) : Int := limits.logTotalMegaBytesLimitWithinDir.toInt

def Limits.files (limits : Limits) : Int := limits.logTotalFileLimitWithinDir.toInt

def extension (name : Text) : Text :=
  if name = ['.'] ∨ name = ['.', '.'] ∨ '.' ∉ name then []
  else '.' :: (name.reverse.takeWhile (· ≠ '.')).reverse

def matchedFiles (fileNamePrefix : Text) (dir : List DirectoryEntry) : List MatchedFile :=
  dir.filterMap fun entry =>
    if entry.isRegularFile ∧ extension entry.name = ['.', 'l', 'o', 'g'] ∧
        fileNamePrefix <+: entry.name then
      entry.fileSize.map (entry.name, ·)
    else none

def totalSize : List MatchedFile → BitVec 64
  | [] => 0
  | file :: files => totalSize files + file.2

/-- A negative limit becomes a huge one. -/
def totalBytesLimit (limits : Limits) : BitVec 64 :=
  limits.logTotalMegaBytesLimitWithinDir.signExtend 64 * (1024 * 1024)

def fileLe (a b : MatchedFile) : Prop := a.1 < b.1 ∨ a.1 = b.1 ∧ a.2 ≤ b.2

instance : DecidableRel fileLe := fun _ _ => inferInstanceAs (Decidable (_ ∨ _ ∧ _))

def sortFiles (files : List MatchedFile) : List MatchedFile := files.insertionSort fileLe

def Exceeded (limits : Limits) (files : List MatchedFile) : Prop :=
  0 < totalBytesLimit limits ∧ totalBytesLimit limits < totalSize files ∨
    0 < limits.files ∧ limits.files < files.length

/-- The test in the loop that ends it. -/
def EnoughDeleted (limits : Limits) (total : BitVec 64) (fileCount : Int) : Prop :=
  (totalBytesLimit limits ≤ 0 ∨ total ≤ totalBytesLimit limits) ∧ fileCount ≤ 0 ∨
    fileCount ≤ limits.files

instance (limits : Limits) (files : List MatchedFile) : Decidable (Exceeded limits files) :=
  inferInstanceAs (Decidable (_ ∧ _ ∨ _ ∧ _))

instance (limits : Limits) (total : BitVec 64) (fileCount : Int) :
    Decidable (EnoughDeleted limits total fileCount) :=
  inferInstanceAs (Decidable ((_ ∨ _) ∧ _ ∨ _))

def willDelete (limits : Limits) : BitVec 64 → Int → List MatchedFile → List MatchedFile
  | _, _, [] => []
  | total, fileCount, file :: files =>
    let total := total - file.2
    let fileCount := fileCount - 1
    if EnoughDeleted limits total fileCount then [file]
    else file :: willDelete limits total fileCount files

def filesToDelete (limits : Limits) (files : List MatchedFile) : List MatchedFile :=
  if 0 < limits.megaBytes ∨ 0 < limits.files then
    if Exceeded limits files then
      willDelete limits (totalSize files) files.length (sortFiles files)
    else []
  else []

def makeRoom (limits : Limits) (fileNamePrefix : Text) (dir : List DirectoryEntry) :
    List DirectoryEntry :=
  let deleted := (filesToDelete limits (matchedFiles fileNamePrefix dir)).map Prod.fst
  dir.filter fun entry => entry.name ∉ deleted

/-- The bytes of all files, which may not fit a uintmax_t. -/
def bytes (files : List MatchedFile) : Nat := (files.map fun file => file.2.toNat).sum

def Satisfied (limits : Limits) (files : List MatchedFile) : Prop :=
  (0 < limits.megaBytes → (bytes files : Int) ≤ limits.megaBytes * 1048576) ∧
    (0 < limits.files → files.length ≤ limits.files)

def ShortestPrefix (limits : Limits) (files deleted : List MatchedFile) : Prop :=
  ∃ k ≤ files.length, deleted = files.take k ∧ Satisfied limits (files.drop k) ∧
    ∀ j < k, ¬Satisfied limits (files.drop j)

/-- With more files than their limit, the newest ones up to the limit fit the size limit. Else
    an exceeded size limit is noticed, and the first file alone, or without a limit on the
    number nothing less than all files, is enough to delete; a size limit that is not set
    is not taken for exceeded. -/
def RetentionRight (limits : Limits) (files : List MatchedFile) : Prop :=
  if 0 < limits.files ∧ limits.files < files.length then
    0 < limits.megaBytes →
      (bytes (files.drop (files.length - limits.files.toNat)) : Int) ≤ limits.megaBytes * 1048576
  else if 0 < limits.megaBytes ∧ limits.megaBytes * 1048576 < bytes files then
    Exceeded limits files ∧
      if 0 < limits.files then (bytes (files.drop 1) : Int) ≤ limits.megaBytes * 1048576
      else limits.megaBytes * 1048576 < bytes (files.drop (files.length - 1))
  else 0 < limits.files → ¬Exceeded limits files

section
variable {limits : Limits} {files : List MatchedFile}

theorem totalBytesLimit_of_pos (set : 0 < limits.megaBytes) :
    ((totalBytesLimit limits).toNat : Int) = limits.megaBytes * 1048576 := by
  unfold totalBytesLimit
  unfold Limits.megaBytes at set ⊢
  generalize limits.logTotalMegaBytesLimitWithinDir = x at set ⊢
  have low : 2 * x.toNat < 2 ^ 32 := by
    rw [BitVec.toInt] at set
    split at set
    · assumption
    · omega
  have same : x.toInt = x.toNat := by
    rw [BitVec.toInt, if_pos low]
  have positive : x.msb = false := BitVec.msb_eq_false_iff_two_mul_lt.mpr low
  have factor : (1024 * 1024 : BitVec 64).toNat = 1048576 := by
    decide
  rw [BitVec.signExtend_eq_setWidth_of_msb_false positive, BitVec.toNat_mul, factor,
    BitVec.toNat_setWidth, same]
  omega

theorem totalSize_toNat (files : List MatchedFile) :
    (totalSize files).toNat = bytes files % 2 ^ 64 := by
  induction files with
  | nil => rfl
  | cons file files ih =>
    have bound := file.2.isLt
    have more : bytes (file :: files) = file.2.toNat + bytes files := by
      simp [bytes]
    rw [totalSize, BitVec.toNat_add, ih, more]
    omega

theorem totalSize_sub (file : MatchedFile) (files : List MatchedFile) :
    totalSize (file :: files) - file.2 = totalSize files := by
  rw [totalSize]
  exact BitVec.add_sub_cancel _ _

theorem sortFiles_perm (files : List MatchedFile) : (sortFiles files).Perm files :=
  List.perm_insertionSort _ _

theorem bytes_sortFiles (files : List MatchedFile) : bytes (sortFiles files) = bytes files :=
  ((sortFiles_perm files).map _).sum_eq

theorem totalSize_sortFiles (files : List MatchedFile) :
    totalSize (sortFiles files) = totalSize files := by
  apply BitVec.eq_of_toNat_eq
  rw [totalSize_toNat, totalSize_toNat, bytes_sortFiles]

theorem exceeded_sortFiles (files : List MatchedFile) :
    Exceeded limits (sortFiles files) ↔ Exceeded limits files := by
  unfold Exceeded
  rw [totalSize_sortFiles, (sortFiles_perm files).length_eq]

/-- The loop ends when the number of files is at the limit, whatever the sizes are. -/
theorem willDelete_eq_take (files : List MatchedFile) :
    willDelete limits (totalSize files) files.length files =
      files.take (max 1 (files.length - limits.files.toNat)) := by
  induction files with
  | nil =>
    rw [willDelete, List.take_nil]
  | cons file files ih =>
    have count : (((file :: files).length : Nat) : Int) - 1 = files.length := by
      rw [List.length_cons]
      omega
    rw [willDelete, totalSize_sub, count]
    by_cases last : files = []
    · subst last
      have enough : EnoughDeleted limits (totalSize []) ([] : List MatchedFile).length :=
        Or.inl ⟨Or.inr (BitVec.le_def.mpr (Nat.zero_le _)), Int.le_refl 0⟩
      rw [if_pos enough]
      have one : max 1 ([file].length - limits.files.toNat) = 1 := by
        rw [List.length_singleton]
        omega
      rw [one]
      rfl
    · have some_left := List.length_pos_iff.mpr last
      by_cases few : (files.length : Int) ≤ limits.files
      · have one : max 1 ((file :: files).length - limits.files.toNat) = 1 := by
          rw [List.length_cons]
          omega
        have enough : EnoughDeleted limits (totalSize files) files.length := Or.inr few
        rw [if_pos enough, one]
        rfl
      · have go_on : ¬EnoughDeleted limits (totalSize files) files.length := by
          rintro (⟨_, none⟩ | enough)
          · omega
          · exact few enough
        have more : max 1 ((file :: files).length - limits.files.toNat) =
            max 1 (files.length - limits.files.toNat) + 1 := by
          rw [List.length_cons]
          omega
        rw [if_neg go_on, ih, more, List.take_succ_cons]

theorem exceeded_nonempty (exceeded : Exceeded limits files) : 0 < files.length := by
  cases files with
  | nil =>
    rcases exceeded with ⟨_, size⟩ | ⟨limit, count⟩
    · exact absurd size (BitVec.not_lt_zero)
    · rw [List.length_nil] at count
      omega
  | cons file files => exact Nat.succ_pos _

theorem filesToDelete_of_exceeded (set : 0 < limits.megaBytes ∨ 0 < limits.files)
    (exceeded : Exceeded limits files) : filesToDelete limits files =
      (sortFiles files).take (max 1 ((sortFiles files).length - limits.files.toNat)) := by
  unfold filesToDelete
  rw [if_pos set, if_pos exceeded, ← totalSize_sortFiles, ← (sortFiles_perm files).length_eq]
  exact willDelete_eq_take _

theorem filesToDelete_of_not
    (kept : ¬((0 < limits.megaBytes ∨ 0 < limits.files) ∧ Exceeded limits files)) :
    filesToDelete limits files = (sortFiles files).take 0 := by
  unfold filesToDelete
  split
  · rename_i set
    exact if_neg (fun exceeded => kept ⟨set, exceeded⟩)
  · rfl

theorem filesToDelete_subset : filesToDelete limits files ⊆ files := by
  by_cases deletes : (0 < limits.megaBytes ∨ 0 < limits.files) ∧ Exceeded limits files
  · rw [filesToDelete_of_exceeded deletes.1 deletes.2]
    exact List.Subset.trans (List.take_subset _ _) (sortFiles_perm files).subset
  · rw [filesToDelete_of_not deletes]
    simp

theorem makeRoom_keeps {fileNamePrefix : Text} {dir : List DirectoryEntry}
    {entry : DirectoryEntry} (present : entry ∈ dir)
    (apart : ∀ file ∈ matchedFiles fileNamePrefix dir, file.1 ≠ entry.name) :
    entry ∈ makeRoom limits fileNamePrefix dir := by
  have kept : entry.name ∉
      (filesToDelete limits (matchedFiles fileNamePrefix dir)).map Prod.fst := by
    intro deleted
    obtain ⟨file, member, same⟩ := List.mem_map.mp deleted
    exact apart file (filesToDelete_subset member) same
  unfold makeRoom
  rw [List.mem_filter]
  exact ⟨present, decide_eq_true kept⟩

theorem sortFiles_of_stamps (fileNamePrefix currentDate : Text) (opened : List (PTime × BitVec 64))
    (ordered : opened.Pairwise fun a b => a.1 < b.1 ∧ StampsSort a.1 b.1) :
    sortFiles (opened.map fun o => (generateFileName fileNamePrefix false currentDate o.1, o.2)) =
      opened.map fun o => (generateFileName fileNamePrefix false currentDate o.1, o.2) := by
  apply List.Pairwise.insertionSort_eq
  rw [List.pairwise_map]
  refine ordered.imp ?_
  rintro a b ⟨before, sort⟩
  left
  rw [generateFileName_lt_iff]
  exact (ptimeToString4_append_lt_iff before (by simp [Stops])).mpr sort

theorem bytes_drop_le (files : List MatchedFile) (k : Nat) : bytes (files.drop k) ≤ bytes files := by
  unfold bytes
  rw [List.map_drop]
  exact (List.drop_sublist _ _).sum_le_sum (by simp)

theorem satisfied_drop (files : List MatchedFile) {j k : Nat} (le : j ≤ k)
    (satisfied : Satisfied limits (files.drop j)) : Satisfied limits (files.drop k) := by
  have shape : files.drop k = (files.drop j).drop (k - j) := by
    rw [List.drop_drop]
    congr 1
    omega
  have fewer := bytes_drop_le (files.drop j) (k - j)
  rw [shape]
  refine ⟨fun set => ?_, fun set => ?_⟩
  · have := satisfied.1 set
    omega
  · have := satisfied.2 set
    rw [List.length_drop]
    omega

theorem shortestPrefix_take_iff {d : Nat} (inside : d ≤ files.length) :
    ShortestPrefix limits files (files.take d) ↔
      Satisfied limits (files.drop d) ∧ ∀ j < d, ¬Satisfied limits (files.drop j) := by
  constructor
  · rintro ⟨k, le, same, satisfied, least⟩
    have length := congrArg List.length same
    rw [List.length_take_of_le inside, List.length_take_of_le le] at length
    subst length
    exact ⟨satisfied, least⟩
  · rintro ⟨satisfied, least⟩
    exact ⟨d, inside, rfl, satisfied, least⟩

theorem shortestPrefix_nothing_iff :
    ShortestPrefix limits files (files.take 0) ↔ Satisfied limits files := by
  rw [shortestPrefix_take_iff (Nat.zero_le _), List.drop_zero]
  simp

theorem shortestPrefix_of_too_many (many : 0 < limits.files ∧ limits.files < files.length) :
    ShortestPrefix limits files (files.take (max 1 (files.length - limits.files.toNat))) ↔
      (0 < limits.megaBytes →
        (bytes (files.drop (files.length - limits.files.toNat)) : Int) ≤
          limits.megaBytes * 1048576) := by
  have kept : max 1 (files.length - limits.files.toNat) = files.length - limits.files.toNat := by
    omega
  rw [kept, shortestPrefix_take_iff (Nat.sub_le _ _)]
  constructor
  · exact fun shortest => shortest.1.1
  · intro fits
    refine ⟨⟨fits, fun _ => ?_⟩, fun j less satisfied => ?_⟩
    · rw [List.length_drop]
      omega
    · have count := satisfied.2 many.1
      rw [List.length_drop] at count
      omega

theorem shortestPrefix_of_one_deleted (few : 0 < limits.files ∧ files.length ≤ limits.files)
    (some_file : 0 < files.length)
    (big : 0 < limits.megaBytes ∧ limits.megaBytes * 1048576 < bytes files) :
    ShortestPrefix limits files (files.take (max 1 (files.length - limits.files.toNat))) ↔
      (bytes (files.drop 1) : Int) ≤ limits.megaBytes * 1048576 := by
  have kept : max 1 (files.length - limits.files.toNat) = 1 := by
    omega
  rw [kept, shortestPrefix_take_iff some_file]
  constructor
  · exact fun shortest => shortest.1.1 big.1
  · intro fits
    refine ⟨⟨fun _ => fits, fun _ => ?_⟩, fun j less satisfied => ?_⟩
    · rw [List.length_drop]
      omega
    · obtain rfl : j = 0 := by omega
      have size := satisfied.1 big.1
      rw [List.drop_zero] at size
      omega

theorem shortestPrefix_of_all_deleted (unlimited : ¬0 < limits.files)
    (some_file : 0 < files.length) (set : 0 < limits.megaBytes) :
    ShortestPrefix limits files (files.take (max 1 (files.length - limits.files.toNat))) ↔
      limits.megaBytes * 1048576 < bytes (files.drop (files.length - 1)) := by
  have kept : max 1 (files.length - limits.files.toNat) = files.length := by
    omega
  rw [kept, shortestPrefix_take_iff (Nat.le_refl _)]
  constructor
  · rintro ⟨_, least⟩
    by_contra fits
    apply least (files.length - 1) (by omega)
    exact ⟨fun _ => by omega, fun limited => absurd limited unlimited⟩
  · intro big
    refine ⟨⟨fun _ => ?_, fun limited => absurd limited unlimited⟩, fun j less satisfied => ?_⟩
    · have nothing : bytes (files.drop files.length) = 0 := by
        rw [List.drop_length]
        rfl
      rw [nothing]
      omega
    · have later := satisfied_drop files (show j ≤ files.length - 1 by omega) satisfied
      have size := later.1 set
      omega

theorem not_exceeded_of_fits (unlimited : ¬0 < limits.files) (set : 0 < limits.megaBytes)
    (fits : (bytes files : Int) ≤ limits.megaBytes * 1048576) : ¬Exceeded limits files := by
  rintro (⟨_, size⟩ | ⟨limited, _⟩)
  · have limit := totalBytesLimit_of_pos set
    have total := totalSize_toNat files
    have residue := Nat.mod_le (bytes files) (2 ^ 64)
    have less : (totalBytesLimit limits).toNat < (totalSize files).toNat := size
    omega
  · exact unlimited limited

end

/-- Opening a file deletes the shortest sufficient prefix exactly in the cases where the
    test in the loop, which takes the number of files for its limit, does no harm. -/
theorem deletes_shortest_prefix_iff (limits : Limits) (files : List MatchedFile) :
    ShortestPrefix limits (sortFiles files) (filesToDelete limits files) ↔
      RetentionRight limits (sortFiles files) := by
  have noticed : Exceeded limits (sortFiles files) ↔ Exceeded limits files :=
    exceeded_sortFiles files
  unfold RetentionRight
  by_cases many : 0 < limits.files ∧ limits.files < (sortFiles files).length
  · have exceeded : Exceeded limits files := noticed.mp (Or.inr many)
    rw [if_pos many, filesToDelete_of_exceeded (Or.inr many.1) exceeded]
    exact shortestPrefix_of_too_many many
  · rw [if_neg many]
    by_cases big : 0 < limits.megaBytes ∧ limits.megaBytes * 1048576 < bytes (sortFiles files)
    · rw [if_pos big]
      by_cases exceeded : Exceeded limits files
      · have some_file := exceeded_nonempty (noticed.mpr exceeded)
        rw [filesToDelete_of_exceeded (Or.inl big.1) exceeded, noticed, and_iff_right exceeded]
        split
        · rename_i limited
          exact shortestPrefix_of_one_deleted ⟨limited, by omega⟩ some_file big
        · rename_i unlimited
          exact shortestPrefix_of_all_deleted unlimited some_file big.1
      · rw [filesToDelete_of_not (fun both => exceeded both.2), shortestPrefix_nothing_iff]
        refine iff_of_false (fun satisfied => ?_) (fun right => exceeded (noticed.mp right.1))
        have size := satisfied.1 big.1
        omega
    · rw [if_neg big]
      have satisfied : Satisfied limits (sortFiles files) :=
        ⟨fun set => by omega, fun set => by omega⟩
      by_cases deletes : (0 < limits.megaBytes ∨ 0 < limits.files) ∧ Exceeded limits files
      · obtain ⟨set, exceeded⟩ := deletes
        have some_file := exceeded_nonempty (noticed.mpr exceeded)
        have limited : 0 < limits.files := by
          by_contra unlimited
          have size := set.resolve_right unlimited
          exact not_exceeded_of_fits unlimited size (satisfied.1 size) (noticed.mpr exceeded)
        rw [filesToDelete_of_exceeded set exceeded, shortestPrefix_take_iff (by omega)]
        refine iff_of_false (fun shortest => ?_) (fun right => right limited (noticed.mpr exceeded))
        exact shortest.2 0 (by omega) satisfied
      · rw [filesToDelete_of_not deletes, shortestPrefix_nothing_iff]
        refine iff_of_true satisfied (fun limited exceeded => ?_)
        exact deletes ⟨Or.inr limited, noticed.mp exceeded⟩

def twoFiles : List MatchedFile :=
  [("server_1.log".toList, 1048576), ("server_2.log".toList, 1048576)]

theorem all_files_deleted_without_file_limit :
    ¬∀ (limits : Limits) (files : List MatchedFile),
      ShortestPrefix limits (sortFiles files) (filesToDelete limits files) := by
  intro shortest
  obtain ⟨k, _, same, _, least⟩ := shortest ⟨1, 0⟩ twoFiles
  have deleted : filesToDelete ⟨1, 0⟩ twoFiles = twoFiles := by
    decide +kernel
  have sorted : sortFiles twoFiles = twoFiles := by
    decide +kernel
  rw [deleted, sorted] at same
  have length := congrArg List.length same
  have two : twoFiles.length = 2 := rfl
  rw [two, List.length_take, two] at length
  apply least 1 (by omega)
  rw [sorted]
  exact ⟨fun _ => by decide +kernel, fun limited => absurd limited (by decide)⟩

end LaluneServer.Log
