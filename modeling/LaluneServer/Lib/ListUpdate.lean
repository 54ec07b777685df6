import Mathlib.Tactic.Linarith

/- Lists of objects that are changed one at a time, at their positions. -/
namespace LaluneServer.ListUpdate

variable {A : Type*}

theorem sum_map_modify (weight : A → Nat) (change : A → A) {l : List A} {i : Nat} {a : A}
    (present : l[i]? = some a) : ((l.modify i change).map weight).sum + weight a =
      (l.map weight).sum + weight (change a) := by
  induction l generalizing i with
  | nil => simp at present
  | cons head tail ih =>
    cases i with
    | zero =>
      simp only [List.getElem?_cons_zero, Option.some.injEq] at present
      subst present
      simp only [List.modify_zero_cons, List.map_cons, List.sum_cons]
      omega
    | succ i =>
      have rest := ih (by simpa using present)
      simp only [List.modify_succ_cons, List.map_cons, List.sum_cons]
      omega

theorem sum_map_modify_same (weight : A → Nat) {change : A → A}
    (same : ∀ a, weight (change a) = weight a) (l : List A) (i : Nat) :
    ((l.modify i change).map weight).sum = (l.map weight).sum := by
  induction l generalizing i with
  | nil => simp
  | cons head tail ih =>
    cases i with
    | zero => simp [same]
    | succ i => simp [ih]

theorem getElem?_modify_some {change : A → A} {l : List A} {i j : Nat} {b : A}
    (present : (l.modify i change)[j]? = some b) :
    ∃ a, l[j]? = some a ∧ b = if i = j then change a else a := by
  rw [List.getElem?_modify] at present
  cases held : l[j]? with
  | none => simp [held] at present
  | some a => exact ⟨a, rfl, by simpa [held] using present.symm⟩

theorem getElem?_modify_of_some {change : A → A} {l : List A} {i j : Nat} {a : A}
    (held : l[j]? = some a) :
    (l.modify i change)[j]? = some (if i = j then change a else a) := by
  rw [List.getElem?_modify, held]
  rfl

/-- A change that is no other when it is made twice, made at several positions. -/
theorem getElem?_foldl_modify {change : A → A} (once : ∀ a, change (change a) = change a)
    (positions : List Nat) (l : List A) (j : Nat) :
    (positions.foldl (fun l i => l.modify i change) l)[j]? =
      l[j]?.map (fun a => if j ∈ positions then change a else a) := by
  induction positions generalizing l with
  | nil => simp
  | cons i positions ih =>
    rw [List.foldl_cons, ih, List.getElem?_modify]
    cases l[j]? with
    | none => rfl
    | some a =>
      by_cases here : i = j
      · subst here
        by_cases later : i ∈ positions
        · simp [later, once]
        · simp [later]
      · simp [here, Ne.symm here]

end LaluneServer.ListUpdate
