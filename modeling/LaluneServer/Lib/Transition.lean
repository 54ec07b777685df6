import Mathlib.Logic.Relation

/- Machines given by a partial step function: `none` means that the event is not
   enabled in the state. A guard restricts the states and events of a run. -/
namespace LaluneServer.Transition

variable {State Event : Type*}

def exec (step : State → Event → Option State) : State → List Event → Option State
  | s, [] => some s
  | s, e :: es => (step s e).bind (fun t => exec step t es)

inductive Reach (step : State → Event → Option State) (guard : State → Event → Prop)
    (start : State) : State → Prop where
  | refl : Reach step guard start start
  | tail {s t : State} (e : Event) (past : Reach step guard start s)
      (allowed : guard s e) (moved : step s e = some t) : Reach step guard start t

/-- `exec` that also stops at the first event the guard forbids. -/
def execWithin (step : State → Event → Option State) (guard : State → Event → Prop)
    [∀ s e, Decidable (guard s e)] : State → List Event → Option State
  | s, [] => some s
  | s, e :: es =>
    if guard s e then (step s e).bind (fun t => execWithin step guard t es) else none

def always (_ : State) (_ : Event) : Prop := True

section
variable {step : State → Event → Option State} {guard : State → Event → Prop}

theorem reach_trans {a b c : State} (first : Reach step guard a b)
    (second : Reach step guard b c) : Reach step guard a c := by
  induction second with
  | refl => exact first
  | tail e _ allowed moved ih => exact .tail e ih allowed moved

theorem reach_weaken {weaker : State → Event → Prop} {a b : State}
    (implied : ∀ s e, guard s e → weaker s e) (run : Reach step guard a b) :
    Reach step weaker a b := by
  induction run with
  | refl => exact .refl
  | tail e _ allowed moved ih => exact .tail e ih (implied _ e allowed) moved

/-- Induction rule for invariants: what every allowed step preserves holds in
    every state reached. -/
theorem reach_invariant (inv : State → Prop) {start final : State}
    (initial : inv start)
    (preserved : ∀ s e t, inv s → guard s e → step s e = some t → inv t)
    (run : Reach step guard start final) : inv final := by
  induction run with
  | refl => exact initial
  | tail e _ allowed moved ih => exact preserved _ e _ ih allowed moved

/-- Induction rule for an invariant that the guard decides step by step: it holds in
    every state reached, and the guard says which next step breaks it. -/
theorem reach_exactly (inv right : State → Prop) {start final : State} (initial : inv start)
    (holds : ∀ s, inv s → right s)
    (decided : ∀ s e t, inv s → step s e = some t →
      (right t ↔ guard s e) ∧ (guard s e → inv t))
    (run : Reach step guard start final) :
    inv final ∧ right final ∧ ∀ e t, step final e = some t → (right t ↔ guard final e) := by
  have kept : inv final := reach_invariant inv initial
    (fun s e t kept allowed moved => (decided s e t kept moved).2 allowed) run
  exact ⟨kept, holds final kept, fun e t moved => (decided final e t kept moved).1⟩

theorem exec_cons (s : State) (e : Event) (es : List Event) :
    exec step s (e :: es) = (step s e).bind (fun t => exec step t es) := rfl

theorem exec_append (s : State) (es fs : List Event) :
    exec step s (es ++ fs) = (exec step s es).bind (fun t => exec step t fs) := by
  induction es generalizing s with
  | nil => rfl
  | cons e es ih =>
    rw [List.cons_append, exec_cons, exec_cons]
    cases step s e with
    | none => rfl
    | some t => exact ih t

theorem exec_concat {s t : State} {e : Event} {es : List Event}
    (ran : exec step s (es ++ [e]) = some t) :
    ∃ u, exec step s es = some u ∧ step u e = some t := by
  rw [exec_append, Option.bind_eq_some_iff] at ran
  obtain ⟨u, earlier, last⟩ := ran
  exact ⟨u, earlier, by simpa [exec] using last⟩

/-- A step that keeps an invariant where the guard allows it, and else breaks what the
    invariant is for, breaks it exactly there. -/
theorem exactly_step {Kept Right Allowed : Prop} (right : Kept → Right) (good : Allowed → Kept)
    (bad : ¬Allowed → ¬Right) : (Right ↔ Allowed) ∧ (Allowed → Kept) := by
  refine ⟨⟨?_, fun allowed => right (good allowed)⟩, good⟩
  intro holds
  exact Classical.byContradiction (fun forbidden => bad forbidden holds)

theorem exec_reach {s t : State} {es : List Event} (run : exec step s es = some t) :
    Reach step always s t := by
  induction es generalizing s with
  | nil =>
    cases run
    exact .refl
  | cons e es ih =>
    rw [exec_cons] at run
    cases moved : step s e with
    | none => simp [moved] at run
    | some u =>
      simp only [moved, Option.bind_some] at run
      exact reach_trans (.tail e .refl trivial moved) (ih run)

theorem execWithin_reach [∀ s e, Decidable (guard s e)] {s t : State} {es : List Event}
    (run : execWithin step guard s es = some t) : Reach step guard s t := by
  induction es generalizing s with
  | nil =>
    cases run
    exact .refl
  | cons e es ih =>
    unfold execWithin at run
    split at run
    · rename_i allowed
      cases moved : step s e with
      | none => simp [moved] at run
      | some u =>
        simp only [moved, Option.bind_some] at run
        exact reach_trans (.tail e .refl allowed moved) (ih run)
    · contradiction

theorem execWithin_any (step : State → Event → Option State) (guard : State → Event → Prop)
    [∀ s e, Decidable (guard s e)] (s : State) (es : List Event) (test : State → Bool)
    (passed : (execWithin step guard s es).any test = true) :
    ∃ t, Reach step guard s t ∧ test t = true := by
  cases ran : execWithin step guard s es with
  | none => simp [ran] at passed
  | some t => exact ⟨t, execWithin_reach ran, by simpa [ran] using passed⟩

end

end LaluneServer.Transition
