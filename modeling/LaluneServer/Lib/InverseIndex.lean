import Mathlib.Tactic.Linarith

/- Ordered maps, and an index together with a map that leads from the owner of an
   entry back to the key of the entry. -/
namespace LaluneServer.InverseIndex

open Std (TreeMap TransOrd LawfulEqOrd)

section lookup
variable {K V : Type*} [Ord K] [TransOrd K] [LawfulEqOrd K]

theorem find_insert (m : TreeMap K V) (k a : K) (v : V) [Decidable (k = a)] :
    (m.insert k v)[a]? = if k = a then some v else m[a]? := by
  simp only [TreeMap.getElem?_insert, Std.compare_eq_iff_eq]

theorem find_erase (m : TreeMap K V) (k a : K) [Decidable (k = a)] :
    (m.erase k)[a]? = if k = a then none else m[a]? := by
  simp only [TreeMap.getElem?_erase, Std.compare_eq_iff_eq]

theorem find_insertIfNew (m : TreeMap K V) (k a : K) (v : V) [Decidable (k = a)] :
    (m.insertIfNew k v)[a]? = if k = a ∧ m[k]? = none then some v else m[a]? := by
  have absent : ¬k ∈ m ↔ m[k]? = none := by
    rw [TreeMap.mem_iff_isSome_getElem?]
    simp
  simp only [TreeMap.getElem?_insertIfNew, Std.compare_eq_iff_eq, absent]

theorem find_insertIfNew_of_free {m : TreeMap K V} {k : K} (free : m[k]? = none)
    (a : K) (v : V) [Decidable (k = a)] :
    (m.insertIfNew k v)[a]? = if k = a then some v else m[a]? := by
  simp only [find_insertIfNew, free, and_true]

theorem find_insertIfNew_of_some {m : TreeMap K V} {k : K} {old : V} (held : m[k]? = some old)
    (a : K) (v : V) : (m.insertIfNew k v)[a]? = m[a]? := by
  classical
  rw [find_insertIfNew, if_neg]
  simp [held]

theorem filter_toList_of_once [DecidableEq V] {m : TreeMap K V} {k : K} {v : V}
    (held : m[k]? = some v) (once : ∀ l, m[l]? = some v → l = k) :
    m.toList.filter (fun entry => entry.2 = v) = [(k, v)] := by
  have same : ∀ entry ∈ m.toList.filter (fun entry => entry.2 = v), entry = (k, v) := by
    rintro ⟨l, u⟩ member
    obtain ⟨listed, value⟩ := List.mem_filter.mp member
    obtain rfl : u = v := of_decide_eq_true value
    rw [once l (TreeMap.mem_toList_iff_getElem?_eq_some.mp listed)]
  have there : (k, v) ∈ m.toList.filter (fun entry => entry.2 = v) :=
    List.mem_filter.mpr ⟨TreeMap.mem_toList_iff_getElem?_eq_some.mpr held, by simp⟩
  have apart : (m.toList.filter (fun entry => entry.2 = v)).Nodup := by
    refine List.Pairwise.filter _ (m.distinct_keys_toList.imp ?_)
    rintro a b other rfl
    exact other Std.ReflOrd.compare_self
  generalize m.toList.filter (fun entry => entry.2 = v) = entries at same there apart
  match entries, same, there, apart with
  | [entry], same, _, _ => rw [same entry (List.mem_singleton_self entry)]
  | first :: second :: rest, same, _, apart =>
    have twice : first = second := (same first (by simp)).trans (same second (by simp)).symm
    rw [twice] at apart
    simp at apart

end lookup

section inverse
variable {K S V : Type*} [Ord K] [Ord S]
variable {owner : V → S} {index : TreeMap K V} {back : TreeMap S K}

def Inverse (owner : V → S) (index : TreeMap K V) (back : TreeMap S K) : Prop :=
  ∀ s k, back[s]? = some k ↔ ∃ v, index[k]? = some v ∧ owner v = s

theorem inverse_empty [TransOrd K] [TransOrd S] :
    Inverse owner (∅ : TreeMap K V) (∅ : TreeMap S K) := by
  intro s k
  simp

theorem owner_once (inverse : Inverse owner index back) {k l : K} {v w : V}
    (first : index[k]? = some v) (second : index[l]? = some w) (same : owner v = owner w) :
    k = l := by
  have here : back[owner v]? = some k := (inverse _ _).mpr ⟨v, first, rfl⟩
  have there : back[owner v]? = some l := (inverse _ _).mpr ⟨w, second, same.symm⟩
  exact Option.some_inj.mp (here.symm.trans there)

theorem back_of_held (inverse : Inverse owner index back) {k : K} {v : V}
    (held : index[k]? = some v) : back[owner v]? = some k :=
  (inverse _ _).mpr ⟨v, held, rfl⟩

theorem owns_nothing (inverse : Inverse owner index back) {s : S} (free : back[s]? = none)
    {k : K} {v : V} (held : index[k]? = some v) : owner v ≠ s := by
  rintro rfl
  rw [back_of_held inverse held] at free
  contradiction

variable [TransOrd K] [LawfulEqOrd K] [TransOrd S] [LawfulEqOrd S]

/-- A new entry keeps the maps inverse exactly when its owner has no entry yet. -/
theorem inverse_insertIfNew_iff (inverse : Inverse owner index back) {k : K} {v : V}
    (free : index[k]? = none) :
    Inverse owner (index.insertIfNew k v) (back.insertIfNew (owner v) k) ↔
      back[owner v]? = none := by
  classical
  constructor
  · intro kept
    cases old : back[owner v]? with
    | none => rfl
    | some l =>
      have here : (back.insertIfNew (owner v) k)[owner v]? = some k :=
        (kept _ _).mpr ⟨v, by rw [find_insertIfNew_of_free free, if_pos rfl], rfl⟩
      rw [find_insertIfNew_of_some old, old] at here
      obtain ⟨w, held, _⟩ := (inverse _ _).mp old
      rw [Option.some_inj.mp here, free] at held
      contradiction
  · intro unused s l
    rw [find_insertIfNew_of_free unused, find_insertIfNew_of_free free]
    by_cases same : owner v = s
    · subst same
      rw [if_pos rfl]
      constructor
      · intro named
        rw [if_pos (Option.some_inj.mp named)]
        exact ⟨v, rfl, rfl⟩
      · rintro ⟨w, held, owned⟩
        split at held
        · rename_i at_key
          rw [at_key]
        · exact absurd owned (owns_nothing inverse unused held)
    · rw [if_neg same, inverse s l]
      by_cases at_key : k = l
      · subst at_key
        simp [free, same]
      · rw [if_neg at_key]

theorem inverse_erase (inverse : Inverse owner index back) {k : K} {v : V}
    (held : index[k]? = some v) : Inverse owner (index.erase k) (back.erase (owner v)) := by
  classical
  intro s l
  rw [find_erase, find_erase]
  by_cases same : owner v = s
  · rw [if_pos same]
    subst same
    constructor
    · intro named
      contradiction
    · rintro ⟨w, other, owned⟩
      split at other
      · contradiction
      · rename_i apart
        exact absurd (owner_once inverse held other owned.symm) apart
  · rw [if_neg same, inverse s l]
    by_cases at_key : k = l
    · subst at_key
      simp [held, same]
    · rw [if_neg at_key]

end inverse

end LaluneServer.InverseIndex
