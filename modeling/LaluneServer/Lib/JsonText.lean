import Mathlib.Data.List.Basic

/- JSON text as a list of characters: writers for strings and integers, and readers that
   return what is left of the text. Every reader undoes its writer in front of any text that
   cannot be part of what was written. -/
namespace LaluneServer.JsonText

def escapes : List (Char × Char) :=
  [('"', '"'), ('\\', '\\'), ('\x08', 'b'), ('\t', 't'), ('\n', 'n'), ('\x0c', 'f'), ('\r', 'r')]

def hexDigit (n : Nat) : Char := "0123456789ABCDEF".toList.getD n '0'

def hexValue (c : Char) : Nat := "0123456789ABCDEF".toList.idxOf c

def escapeChar (c : Char) : List Char :=
  match escapes.lookup c with
  | some e => ['\\', e]
  | none =>
    if c.toNat < 32 then ['\\', 'u', '0', '0', hexDigit (c.toNat / 16), hexDigit (c.toNat % 16)]
    else [c]

def writeString (text : List Char) : List Char := text.flatMap escapeChar ++ ['"']

def unescape (e : Char) : Option Char :=
  (escapes.find? (fun pair => pair.2 = e)).map Prod.fst

def readString : List Char → Option (List Char × List Char)
  | [] => none
  | '"' :: rest => some ([], rest)
  | '\\' :: 'u' :: '0' :: '0' :: high :: low :: rest =>
    (readString rest).map fun read =>
      (Char.ofNat (16 * hexValue high + hexValue low) :: read.1, read.2)
  | '\\' :: e :: rest =>
    (unescape e).bind fun c => (readString rest).map fun read => (c :: read.1, read.2)
  | c :: rest => (readString rest).map fun read => (c :: read.1, read.2)

def writeInt (n : Int) : List Char :=
  if n < 0 then '-' :: Nat.toDigits 10 n.natAbs else Nat.toDigits 10 n.natAbs

def readNat (text : List Char) : Nat × List Char :=
  (Nat.ofDigitChars 10 (text.takeWhile Char.isDigit) 0, text.dropWhile Char.isDigit)

def readInt : List Char → Int × List Char
  | '-' :: rest => (-((readNat rest).1 : Int), (readNat rest).2)
  | text => ((readNat text).1, (readNat text).2)

def expect : List Char → List Char → Option (List Char)
  | [], text => some text
  | _ :: _, [] => none
  | w :: word, c :: text => if w = c then expect word text else none

theorem expect_append (word rest : List Char) : expect word (word ++ rest) = some rest := by
  induction word with
  | nil => rfl
  | cons w word ih =>
    rw [List.cons_append, expect, if_pos rfl]
    exact ih

theorem hexValue_hexDigit : ∀ n < 16, hexValue (hexDigit n) = n := by decide

theorem readString_plain {c : Char} (quote : c ≠ '"') (backslash : c ≠ '\\') (rest : List Char) :
    readString (c :: rest) = (readString rest).map fun read => (c :: read.1, read.2) := by
  rw [readString.eq_def]
  split <;> simp_all

theorem readString_escapeChar (c : Char) (rest : List Char) :
    readString (escapeChar c ++ rest) =
      (readString rest).map fun read => (c :: read.1, read.2) := by
  unfold escapeChar
  split
  · rename_i e own
    obtain ⟨before, after, listed, _⟩ := List.lookup_eq_some_iff.mp own
    have member : (c, e) ∈ escapes := by
      rw [listed]
      exact List.mem_append_right _ List.mem_cons_self
    simp only [escapes, List.mem_cons, Prod.mk.injEq, List.not_mem_nil, or_false] at member
    rcases member with ⟨rfl, rfl⟩ | ⟨rfl, rfl⟩ | ⟨rfl, rfl⟩ | ⟨rfl, rfl⟩ | ⟨rfl, rfl⟩ |
      ⟨rfl, rfl⟩ | ⟨rfl, rfl⟩ <;> simp [readString, unescape, escapes]
  · rename_i plain
    split
    · rename_i control
      have high := hexValue_hexDigit (c.toNat / 16) (by omega)
      have low := hexValue_hexDigit (c.toNat % 16) (by omega)
      have same : Char.ofNat (16 * (c.toNat / 16) + c.toNat % 16) = c := by
        rw [Nat.div_add_mod]
        exact Char.ofNat_toNat c
      simp only [List.cons_append, List.nil_append, readString, high, low, same]
    · refine readString_plain ?_ ?_ rest
      · rintro rfl
        simp [escapes] at plain
      · rintro rfl
        simp [escapes] at plain

theorem readString_writeString (text rest : List Char) :
    readString (writeString text ++ rest) = some (text, rest) := by
  unfold writeString
  induction text with
  | nil => rfl
  | cons c text ih =>
    rw [List.flatMap_cons, List.append_assoc, List.append_assoc, readString_escapeChar,
      ← List.append_assoc, ih]
    rfl

theorem readNat_toDigits (n : Nat) {rest : List Char} (stop : ∀ c ∈ rest.head?, c.isDigit = false) :
    readNat (Nat.toDigits 10 n ++ rest) = (n, rest) := by
  have digits : ∀ c ∈ Nat.toDigits 10 n, c.isDigit = true := fun c member =>
    Nat.isDigit_of_mem_toDigits (by decide) (by decide) member
  have none : rest.takeWhile Char.isDigit = [] ∧ rest.dropWhile Char.isDigit = rest := by
    cases rest with
    | nil => exact ⟨rfl, rfl⟩
    | cons c rest =>
      have other := stop c rfl
      exact ⟨by simp [other], by simp [other]⟩
  unfold readNat
  rw [List.takeWhile_append_of_pos digits, List.dropWhile_append_of_pos digits, none.1, none.2,
    List.append_nil, Nat.ofDigitChars_ten_toDigits]

theorem readInt_writeInt (n : Int) {rest : List Char}
    (stop : ∀ c ∈ rest.head?, c.isDigit = false) : readInt (writeInt n ++ rest) = (n, rest) := by
  unfold writeInt
  split
  · rename_i negative
    simp only [List.cons_append, readInt, readNat_toDigits n.natAbs stop]
    congr
    omega
  · rename_i positive
    have first : ∃ d ds, Nat.toDigits 10 n.natAbs = d :: ds ∧ d ≠ '-' := by
      cases digits : Nat.toDigits 10 n.natAbs with
      | nil => exact absurd digits Nat.toDigits_ne_nil
      | cons d ds =>
        have digit := Nat.isDigit_of_mem_toDigits (n := n.natAbs) (b := 10) (c := d) (by decide)
          (by decide) (by rw [digits]; exact List.mem_cons_self)
        refine ⟨d, ds, rfl, ?_⟩
        rintro rfl
        contradiction
    obtain ⟨d, ds, digits, other⟩ := first
    have read := readNat_toDigits n.natAbs stop
    rw [digits] at read ⊢
    rw [List.cons_append] at read ⊢
    rw [readInt.eq_def]
    split
    · rename_i same
      exact absurd (List.cons.inj same).1 other
    · rw [read]
      congr
      omega

end LaluneServer.JsonText
