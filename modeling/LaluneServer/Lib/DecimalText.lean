import Mathlib.Tactic.Linarith
import Mathlib.Data.Char

/- Numbers printed in base ten, and how the texts compare: by value where the fields
   have a fixed width, by the leading digits where they have not. -/
namespace LaluneServer.DecimalText

abbrev Text := List Char

def decimal (n : Nat) : Text := Nat.toDigits 10 n

def zeroPadded (w n : Nat) : Text := (decimal n).leftpad w '0'

def lastDigits : Nat → Nat → Text
  | 0, _ => []
  | w + 1, n => lastDigits w (n / 10) ++ [(n % 10).digitChar]

def row : List (Nat × Text) → List Nat → Text
  | (w, separator) :: fields, n :: ns => zeroPadded w n ++ (separator ++ row fields ns)
  | _, _ => []

def Fits : List (Nat × Text) → List Nat → Prop
  | [], [] => True
  | (w, _) :: fields, n :: ns => 0 < w ∧ n < 10 ^ w ∧ Fits fields ns
  | _, _ => False

theorem append_lt_append_iff {α : Type*} [LT α] [Std.Irrefl (· < · : α → α → Prop)]
    {a b : List α} (same : a.length = b.length) (c d : List α) :
    a ++ c < b ++ d ↔ a < b ∨ a = b ∧ c < d := by
  induction a generalizing b with
  | nil =>
    cases b with
    | nil => simp
    | cons y b => simp at same
  | cons x a ih =>
    cases b with
    | nil => simp at same
    | cons y b =>
      have tails := ih (Nat.succ.inj same)
      rw [List.cons_append, List.cons_append, List.cons_lt_cons_iff, List.cons_lt_cons_iff,
        tails, List.cons.injEq]
      tauto

theorem digitChar_lt_iff {m n : Nat} (hm : m < 10) (hn : n < 10) :
    m.digitChar < n.digitChar ↔ m < n := by
  have all : ∀ m, m < 10 → ∀ n, n < 10 → (m.digitChar < n.digitChar ↔ m < n) := by
    decide
  exact all m hm n hn

theorem digitChar_inj {m n : Nat} (hm : m < 10) (hn : n < 10) :
    m.digitChar = n.digitChar ↔ m = n := by
  have all : ∀ m, m < 10 → ∀ n, n < 10 → (m.digitChar = n.digitChar ↔ m = n) := by
    decide
  exact all m hm n hn

theorem zero_le_digitChar {n : Nat} (hn : n < 10) : '0' ≤ n.digitChar := by
  have all : ∀ n, n < 10 → '0' ≤ n.digitChar := by
    decide
  exact all n hn

@[simp] theorem length_lastDigits (w n : Nat) : (lastDigits w n).length = w := by
  induction w generalizing n with
  | zero => rfl
  | succ w ih => simp [lastDigits, ih]

theorem div_ten_lt_pow {w n : Nat} (hn : n < 10 ^ (w + 1)) : n / 10 < 10 ^ w := by
  rw [pow_succ] at hn
  exact Nat.div_lt_of_lt_mul (by omega)

theorem lastDigits_inj {w m n : Nat} (hm : m < 10 ^ w) (hn : n < 10 ^ w) :
    lastDigits w m = lastDigits w n ↔ m = n := by
  induction w generalizing m n with
  | zero =>
    have zeroM : m = 0 := Nat.lt_one_iff.mp hm
    have zeroN : n = 0 := Nat.lt_one_iff.mp hn
    simp [zeroM, zeroN]
  | succ w ih =>
    have frontM := div_ten_lt_pow hm
    have frontN := div_ten_lt_pow hn
    constructor
    · intro same
      obtain ⟨front, last⟩ := List.append_inj same (by simp)
      have tens := (ih frontM frontN).mp front
      have units := (digitChar_inj (Nat.mod_lt m (by decide)) (Nat.mod_lt n (by decide))).mp
        (List.cons.inj last).1
      omega
    · rintro rfl
      rfl

theorem lastDigits_lt_iff {w m n : Nat} (hm : m < 10 ^ w) (hn : n < 10 ^ w) :
    lastDigits w m < lastDigits w n ↔ m < n := by
  induction w generalizing m n with
  | zero =>
    have zeroM : m = 0 := Nat.lt_one_iff.mp hm
    have zeroN : n = 0 := Nat.lt_one_iff.mp hn
    simp [zeroM, zeroN]
  | succ w ih =>
    have frontM := div_ten_lt_pow hm
    have frontN := div_ten_lt_pow hn
    rw [lastDigits, lastDigits, append_lt_append_iff (by simp), ih frontM frontN,
      lastDigits_inj frontM frontN, List.cons_lt_cons_iff,
      digitChar_lt_iff (Nat.mod_lt m (by decide)) (Nat.mod_lt n (by decide))]
    simp only [List.not_lt_nil, and_false, or_false]
    omega

theorem lastDigits_add (a b n : Nat) :
    lastDigits (a + b) n = lastDigits a (n / 10 ^ b) ++ lastDigits b n := by
  induction b generalizing n with
  | zero => simp [lastDigits]
  | succ b ih =>
    rw [← Nat.add_assoc, lastDigits, ih, lastDigits, List.append_assoc, Nat.div_div_eq_div_mul,
      pow_succ']

theorem decimal_eq_lastDigits (n : Nat) : decimal n = lastDigits (decimal n).length n := by
  induction n using Nat.strong_induction_on with
  | _ n ih =>
    unfold decimal
    rw [Nat.toDigits_eq_if (by decide)]
    split
    · rename_i small
      simp [lastDigits, Nat.mod_eq_of_lt small]
    · rename_i large
      have front := ih (n / 10) (by omega)
      rw [List.length_append, List.length_singleton, lastDigits]
      exact congrArg (· ++ [(n % 10).digitChar]) front

theorem lt_pow_length (n : Nat) : n < 10 ^ (decimal n).length :=
  (Nat.length_toDigits_le_iff (by decide) Nat.length_toDigits_pos).mp (Nat.le_refl _)

theorem length_decimal_mono {m n : Nat} (le : m ≤ n) :
    (decimal m).length ≤ (decimal n).length :=
  (Nat.length_toDigits_le_iff (by decide) Nat.length_toDigits_pos).mpr
    (le.trans_lt (lt_pow_length n))

theorem lastDigits_zero (w : Nat) : lastDigits w 0 = List.replicate w '0' := by
  induction w with
  | zero => rfl
  | succ w ih =>
    rw [lastDigits, Nat.zero_div, ih, List.replicate_succ']
    rfl

theorem zeroPadded_eq_lastDigits {w n : Nat} (wide : 0 < w) (fits : n < 10 ^ w) :
    zeroPadded w n = lastDigits w n := by
  have short : (decimal n).length ≤ w :=
    (Nat.length_toDigits_le_iff (by decide) wide).mpr fits
  have zeros : n / 10 ^ (decimal n).length = 0 := Nat.div_eq_of_lt (lt_pow_length n)
  have split := lastDigits_add (w - (decimal n).length) (decimal n).length n
  rw [Nat.sub_add_cancel short, zeros, lastDigits_zero, ← decimal_eq_lastDigits] at split
  exact split.symm

theorem row_lt_iff (fields : List (Nat × Text)) {ms ns : List Nat} (hm : Fits fields ms)
    (hn : Fits fields ns) (c d : Text) :
    row fields ms ++ c < row fields ns ++ d ↔ ms < ns ∨ ms = ns ∧ c < d := by
  induction fields generalizing ms ns with
  | nil =>
    cases ms with
    | cons m ms => exact hm.elim
    | nil =>
      cases ns with
      | cons n ns => exact hn.elim
      | nil => simp [row]
  | cons field fields ih =>
    cases ms with
    | nil => exact hm.elim
    | cons m ms =>
      cases ns with
      | nil => exact hn.elim
      | cons n ns =>
        obtain ⟨wide, fitsM, restM⟩ := hm
        obtain ⟨_, fitsN, restN⟩ := hn
        simp only [row, List.append_assoc]
        rw [zeroPadded_eq_lastDigits wide fitsM, zeroPadded_eq_lastDigits wide fitsN,
          append_lt_append_iff (by simp), lastDigits_lt_iff fitsM fitsN,
          lastDigits_inj fitsM fitsN, append_lt_append_iff rfl, ih restM restN,
          List.cons_lt_cons_iff, List.cons.injEq]
        simp only [List.lt_irrefl, true_and, false_or]
        tauto

theorem zero_le_of_mem_lastDigits {w n : Nat} {c : Char} (member : c ∈ lastDigits w n) :
    '0' ≤ c := by
  induction w generalizing n with
  | zero => simp [lastDigits] at member
  | succ w ih =>
    rw [lastDigits, List.mem_append, List.mem_singleton] at member
    rcases member with front | rfl
    · exact ih front
    · exact zero_le_digitChar (Nat.mod_lt n (by decide))

def Stops (stop : Text) : Prop := ∀ c ∈ stop.head?, c < '0'

theorem stop_lt_digits_append {stop : Text} (stops : Stops stop) {w : Nat} (more : 0 < w)
    (n : Nat) : stop < lastDigits w n ++ stop := by
  have length := length_lastDigits w n
  cases digits : lastDigits w n with
  | nil =>
    rw [digits] at length
    exact absurd length (Nat.ne_of_lt more)
  | cons digit rest =>
    have high : '0' ≤ digit := zero_le_of_mem_lastDigits (digits ▸ List.mem_cons_self)
    cases stop with
    | nil => exact List.nil_lt_cons _ _
    | cons c text =>
      have low : c < '0' := stops c rfl
      rw [List.cons_append, List.cons_lt_cons_iff]
      exact Or.inl (low.trans_le high)

/-- Of two numbers without leading zeros the smaller one has the smaller text exactly if
    it does not pass the other one when zeros fill it up to the same length. -/
theorem decimal_append_lt_iff {m n : Nat} (lt : m < n) {stop : Text} (stops : Stops stop) :
    decimal m ++ stop < decimal n ++ stop ↔
      m * 10 ^ ((decimal n).length - (decimal m).length) ≤ n := by
  have shorter := length_decimal_mono (Nat.le_of_lt lt)
  generalize more : (decimal n).length - (decimal m).length = k
  have width : (decimal n).length = (decimal m).length + k := by omega
  have leading : n / 10 ^ k < 10 ^ (decimal m).length := by
    apply Nat.div_lt_of_lt_mul
    rw [← pow_add, Nat.add_comm k, ← width]
    exact lt_pow_length n
  have digits : decimal n = lastDigits (decimal m).length (n / 10 ^ k) ++ lastDigits k n := by
    rw [← lastDigits_add, ← width]
    exact decimal_eq_lastDigits n
  have own := decimal_eq_lastDigits m
  have fits := lt_pow_length m
  generalize (decimal m).length = w at own fits leading digits
  rw [digits, own, List.append_assoc, append_lt_append_iff (by simp),
    lastDigits_lt_iff fits leading, lastDigits_inj fits leading,
    ← Nat.le_div_iff_mul_le (Nat.pow_pos (by decide))]
  rcases Nat.eq_zero_or_pos k with zero | pos
  · subst zero
    rw [pow_zero, Nat.div_one]
    exact iff_of_true (Or.inl lt) (Nat.le_of_lt lt)
  · have longer := stop_lt_digits_append stops pos n
    rw [Nat.le_iff_lt_or_eq]
    simp only [longer, and_true]

end LaluneServer.DecimalText
