import Mathlib.Data.List.Sublists
import Mathlib.Data.Set.Finite.List
import Mathlib.Order.WellFounded
import Mathlib.Data.Fintype.Order

/- Entries that lead from a key to the next one, the chains through a store of them, and
   what a single pass over the store finds of a chain. -/
namespace LaluneServer.Chains

open Relation

variable {Entry Key : Type*} (key next : Entry → Key)

def stop : Key → List Entry → Key
  | v, [] => v
  | _, e :: entries => stop (next e) entries

def Linked : Key → List Entry → Prop
  | _, [] => True
  | v, e :: entries => key e = v ∧ Linked (next e) entries

def Leads (store : List Entry) (a b : Key) : Prop := ∃ e ∈ store, key e = a ∧ next e = b

/-- Entries of the store from `v` on, up to a key that leads nowhere. -/
structure Chain (store : List Entry) (v : Key) (chain : List Entry) : Prop where
  inside : ∀ e ∈ chain, e ∈ store
  linked : Linked key next v chain
  complete : ∀ e ∈ store, key e ≠ stop next v chain

def FirstStored : List Entry → Key → List Entry → Prop
  | _, _, [] => True
  | store, v, e :: entries => ∃ gap rest, store = gap ++ e :: rest ∧
      (∀ d ∈ gap, key d ≠ v) ∧ key e = v ∧ FirstStored rest (next e) entries

def singlePass [DecidableEq Key] : List Entry → Key → List Entry
  | [], _ => []
  | e :: store, v => if key e = v then e :: singlePass store (next e) else singlePass store v

variable {key next} {store : List Entry} {v : Key}

section chains

def Later (key next : Entry → Key) (store : List Entry) (d e : {e // e ∈ store}) : Prop :=
  ReflTransGen (Leads key next store) (next e.1) (key d.1)

theorem later_trans {a b c : {e // e ∈ store}} (first : Later key next store a b)
    (second : Later key next store b c) : Later key next store a c := by
  have leads : Leads key next store (key b.1) (next b.1) := ⟨b.1, b.2, rfl, rfl⟩
  exact (second.tail leads).trans first

theorem later_irrefl (acyclic : ∀ a, ¬ TransGen (Leads key next store) a a)
    (e : {e // e ∈ store}) : ¬ Later key next store e e := by
  intro around
  have leads : Leads key next store (key e.1) (next e.1) := ⟨e.1, e.2, rfl, rfl⟩
  exact acyclic (key e.1) (TransGen.head' leads around)

theorem later_wellFounded (acyclic : ∀ a, ¬ TransGen (Leads key next store) a a) :
    WellFounded (Later key next store) := by
  have finite : Finite {e // e ∈ store} := List.finite_toSet store
  have trans : IsTrans _ (Later key next store) := ⟨fun _ _ _ => later_trans⟩
  have irrefl : Std.Irrefl (Later key next store) := ⟨later_irrefl acyclic⟩
  exact Finite.wellFounded_of_trans_of_irrefl _

theorem Chain.cons {e : Entry} {chain : List Entry} (member : e ∈ store)
    (tail : Chain key next store (next e) chain) : Chain key next store (key e) (e :: chain) := by
  refine ⟨?_, ⟨rfl, tail.linked⟩, tail.complete⟩
  intro d found
  rcases List.mem_cons.mp found with rfl | later
  · exact member
  · exact tail.inside d later

theorem acyclic_of_rank (rank : Key → Nat) (larger : ∀ e ∈ store, rank (key e) < rank (next e))
    (a : Key) : ¬ TransGen (Leads key next store) a a := by
  have rises : ∀ {a b}, TransGen (Leads key next store) a b → rank a < rank b := by
    intro a b path
    induction path with
    | single edge =>
      obtain ⟨e, member, rfl, rfl⟩ := edge
      exact larger e member
    | tail _ edge ih =>
      obtain ⟨e, member, rfl, rfl⟩ := edge
      exact ih.trans (larger e member)
  intro around
  exact (rises around).false

theorem exists_chain (acyclic : ∀ a, ¬ TransGen (Leads key next store) a a) (v : Key) :
    ∃ chain, Chain key next store v chain := by
  have behind : ∀ e : {e // e ∈ store}, ∃ chain, Chain key next store (next e.1) chain := by
    intro e
    induction e using (later_wellFounded acyclic).induction with
    | _ e ih =>
      by_cases goes : ∃ d ∈ store, key d = next e.1
      · obtain ⟨d, member, found⟩ := goes
        have later : Later key next store ⟨d, member⟩ e := by
          unfold Later
          rw [found]
        obtain ⟨chain, tail⟩ := ih ⟨d, member⟩ later
        exact ⟨d :: chain, found ▸ tail.cons member⟩
      · refine ⟨[], ?_, trivial, ?_⟩
        · intro d found
          contradiction
        · intro d member found
          exact goes ⟨d, member, found⟩
  by_cases goes : ∃ d ∈ store, key d = v
  · obtain ⟨d, member, rfl⟩ := goes
    obtain ⟨chain, tail⟩ := behind ⟨d, member⟩
    exact ⟨d :: chain, tail.cons member⟩
  · refine ⟨[], ?_, trivial, ?_⟩
    · intro d found
      contradiction
    · intro d member found
      exact goes ⟨d, member, found⟩

/-- Where each key leads to one key at most, all chains meet the same keys. -/
theorem chain_keys_unique (single : ∀ e ∈ store, ∀ d ∈ store, key e = key d → next e = next d)
    {first second : List Entry} (one : Chain key next store v first)
    (other : Chain key next store v second) :
    first.map key = second.map key ∧ stop next v first = stop next v second := by
  induction first generalizing v second with
  | nil =>
    cases second with
    | nil => exact ⟨rfl, rfl⟩
    | cons d second =>
      exact absurd other.linked.1 (one.complete d (other.inside d List.mem_cons_self))
  | cons e first ih =>
    cases second with
    | nil => exact absurd one.linked.1 (other.complete e (one.inside e List.mem_cons_self))
    | cons d second =>
      obtain ⟨start, linked⟩ := one.linked
      obtain ⟨same, linkedOther⟩ := other.linked
      have goes : next e = next d := single e (one.inside e List.mem_cons_self) d
        (other.inside d List.mem_cons_self) (start.trans same.symm)
      have tail : Chain key next store (next e) first :=
        ⟨fun a later => one.inside a (List.mem_cons_of_mem e later), linked, one.complete⟩
      have tailOther : Chain key next store (next e) second := by
        rw [goes]
        exact ⟨fun a later => other.inside a (List.mem_cons_of_mem d later), linkedOther,
          other.complete⟩
      obtain ⟨keys, stops⟩ := ih tail tailOther
      constructor
      · rw [List.map_cons, List.map_cons, keys, start, same]
      · rw [stop, stop, ← goes]
        exact stops

end chains

section stored

theorem firstStored_cons {e : Entry} {chain : List Entry} (different : key e ≠ v)
    (stored : FirstStored key next store v chain) : FirstStored key next (e :: store) v chain := by
  cases chain with
  | nil => trivial
  | cons d chain =>
    obtain ⟨gap, rest, rfl, absent, stored⟩ := stored
    refine ⟨e :: gap, rest, rfl, ?_, stored⟩
    intro a member
    rcases List.mem_cons.mp member with rfl | behind
    · exact different
    · exact absent a behind

theorem firstStored_of_sublist (one : ∀ e ∈ store, ∀ d ∈ store, key e = key d → e = d)
    {chain : List Entry} (linked : Linked key next v chain) (stored : chain.Sublist store) :
    FirstStored key next store v chain := by
  induction store generalizing v chain with
  | nil =>
    rw [List.sublist_nil.mp stored]
    trivial
  | cons d store ih =>
    cases chain with
    | nil => trivial
    | cons e chain =>
      obtain ⟨start, linked⟩ := linked
      have fewer : ∀ a ∈ store, ∀ b ∈ store, key a = key b → a = b := by
        intro a first b second
        exact one a (List.mem_cons_of_mem d first) b (List.mem_cons_of_mem d second)
      by_cases found : key d = v
      · have same : d = e := one d List.mem_cons_self e (stored.subset List.mem_cons_self)
          (found.trans start.symm)
        subst same
        exact ⟨[], store, rfl, List.forall_mem_nil _, found,
          ih fewer linked (List.cons_sublist_cons.mp stored)⟩
      · have behind : (e :: chain).Sublist store := by
          cases stored with
          | cons _ behind => exact behind
          | cons_cons _ _ => exact absurd start found
        exact firstStored_cons found (ih fewer ⟨start, linked⟩ behind)

end stored

section pass
variable [DecidableEq Key]

theorem singlePass_skip {gap : List Entry} (absent : ∀ d ∈ gap, key d ≠ v) (rest : List Entry) :
    singlePass key next (gap ++ rest) v = singlePass key next rest v := by
  induction gap with
  | nil => rfl
  | cons d gap ih =>
    rw [List.cons_append, singlePass, if_neg (absent d List.mem_cons_self)]
    exact ih fun e member => absent e (List.mem_cons_of_mem d member)

theorem singlePass_sublist (store : List Entry) (v : Key) :
    (singlePass key next store v).Sublist store := by
  induction store generalizing v with
  | nil => exact .slnil
  | cons e store ih =>
    unfold singlePass
    split
    · exact (ih (next e)).cons_cons e
    · exact (ih v).cons e

theorem singlePass_linked (store : List Entry) (v : Key) :
    Linked key next v (singlePass key next store v) := by
  induction store generalizing v with
  | nil => trivial
  | cons e store ih =>
    unfold singlePass
    split
    · rename_i found
      exact ⟨found, ih (next e)⟩
    · exact ih v

theorem singlePass_firstStored (store : List Entry) (v : Key) :
    FirstStored key next store v (singlePass key next store v) := by
  induction store generalizing v with
  | nil => trivial
  | cons e store ih =>
    unfold singlePass
    split
    · rename_i found
      exact ⟨[], store, rfl, List.forall_mem_nil _, found, ih (next e)⟩
    · rename_i different
      exact firstStored_cons different (ih v)

/-- The pass finds all of a chain exactly when the chain is stored in its order. -/
theorem singlePass_of_firstStored {chain : List Entry}
    (complete : ∀ e ∈ store, key e ≠ stop next v chain)
    (stored : FirstStored key next store v chain) : singlePass key next store v = chain := by
  induction chain generalizing store v with
  | nil =>
    have skipped : singlePass key next (store ++ []) v = [] := singlePass_skip complete []
    rw [List.append_nil] at skipped
    exact skipped
  | cons e chain ih =>
    obtain ⟨gap, rest, rfl, absent, found, stored⟩ := stored
    rw [singlePass_skip absent, singlePass, if_pos found]
    refine congrArg (e :: ·) (ih ?_ stored)
    intro d member
    exact complete d (List.mem_append_right gap (List.mem_cons_of_mem e member))

end pass

section linear

structure Linear (key next : Entry → Key) (v : Key) (entries : List Entry) : Prop where
  linked : Linked key next v entries
  fresh : (v :: entries.map next).Nodup

theorem stop_append (v : Key) (front back : List Entry) :
    stop next v (front ++ back) = stop next (stop next v front) back := by
  induction front generalizing v with
  | nil => rfl
  | cons e front ih => exact ih (next e)

theorem linked_append {front back : List Entry} : Linked key next v (front ++ back) ↔
    Linked key next v front ∧ Linked key next (stop next v front) back := by
  induction front generalizing v with
  | nil => exact ⟨fun linked => ⟨trivial, linked⟩, And.right⟩
  | cons e front ih =>
    rw [List.cons_append, Linked, Linked, stop, ih, and_assoc]

theorem keys_of_linked {entries : List Entry} (linked : Linked key next v entries) :
    entries.map key ++ [stop next v entries] = v :: entries.map next := by
  induction entries generalizing v with
  | nil => rfl
  | cons e entries ih =>
    obtain ⟨start, linked⟩ := linked
    rw [List.map_cons, List.cons_append, stop, ih linked, start]
    rfl

theorem Linear.of_append {front back : List Entry} (linear : Linear key next v (front ++ back)) :
    Linear key next v front := by
  refine ⟨(linked_append.mp linear.linked).1, linear.fresh.sublist ?_⟩
  rw [List.map_append]
  exact (List.sublist_append_left _ _).cons_cons v

theorem Linear.concat {entries : List Entry} {e : Entry} (linear : Linear key next v entries)
    (goes : key e = stop next v entries) (new : next e ∉ v :: entries.map next) :
    Linear key next v (entries ++ [e]) := by
  refine ⟨linked_append.mpr ⟨linear.linked, goes, trivial⟩, ?_⟩
  rw [List.map_append, ← List.cons_append, List.nodup_append]
  refine ⟨linear.fresh, List.nodup_singleton _, ?_⟩
  rintro a member b last rfl
  rw [List.mem_singleton.mp last] at member
  exact new member

theorem Linear.ends {entries : List Entry} (linear : Linear key next v entries) {e : Entry}
    (member : e ∈ entries) : key e ≠ stop next v entries := by
  have distinct := linear.fresh
  rw [← keys_of_linked linear.linked, List.nodup_append] at distinct
  exact distinct.2.2 _ (List.mem_map_of_mem member) _ (List.mem_singleton_self _)

theorem Linear.take {entries : List Entry} (linear : Linear key next v entries) (n : Nat) :
    Linear key next v (entries.take n) := by
  have whole : Linear key next v (entries.take n ++ entries.drop n) := by
    rw [List.take_append_drop]
    exact linear
  exact whole.of_append

theorem Linear.reached {entries : List Entry} (linear : Linear key next v entries) {e : Entry}
    (member : e ∈ entries) : ∃ n, key e = stop next v (entries.take n) := by
  obtain ⟨front, back, rfl⟩ := List.append_of_mem member
  obtain ⟨-, goes, -⟩ := linked_append.mp linear.linked
  refine ⟨front.length, ?_⟩
  rw [List.take_left']
  · exact goes
  · rfl

theorem drop_take_of_le {m p : Nat} (le : m ≤ p) (entries : List Entry) :
    (entries.take m).drop p = [] := by
  refine List.drop_eq_nil_of_le ?_
  rw [List.length_take]
  omega

theorem drop_take_append {p i m : Nat} (first : p ≤ i) (second : i ≤ m) (entries : List Entry) :
    (entries.take i).drop p ++ (entries.take m).drop i = (entries.take m).drop p := by
  rw [List.drop_take, List.drop_take, List.drop_take]
  have back : entries.drop i = (entries.drop p).drop (i - p) := by
    rw [List.drop_drop, Nat.add_sub_cancel' first]
  rw [back, ← List.take_add]
  congr 1
  omega

theorem drop_take_max (p i m : Nat) (entries : List Entry) :
    (entries.take i).drop p ++ (entries.take m).drop (max p i) =
      (entries.take (max i m)).drop p := by
  rcases Nat.le_total p i with le | le
  · rw [Nat.max_eq_right le]
    rcases Nat.le_total i m with shorter | longer
    · rw [Nat.max_eq_right shorter, drop_take_append le shorter]
    · rw [Nat.max_eq_left longer, drop_take_of_le longer, List.append_nil]
  · rw [Nat.max_eq_left le, drop_take_of_le le, List.nil_append]
    rcases Nat.le_total i m with shorter | longer
    · rw [Nat.max_eq_right shorter]
    · rw [Nat.max_eq_left longer, drop_take_of_le le, drop_take_of_le (longer.trans le)]

theorem take_append_drop_take (p i : Nat) (entries : List Entry) :
    entries.take p ++ (entries.take i).drop p = entries.take (max p i) := by
  have joined := drop_take_max 0 p i entries
  rw [Nat.zero_max, List.drop_zero, List.drop_zero] at joined
  exact joined

theorem stop_take (v : Key) (i p : Nat) (entries : List Entry) :
    stop next (stop next v (entries.take p)) ((entries.take i).drop p) =
      stop next v (entries.take (max p i)) := by
  rw [← stop_append, take_append_drop_take]

end linear

section prefixes
variable [DecidableEq Key] {entries : List Entry}

theorem singlePass_append (front back : List Entry) (v : Key) :
    singlePass key next (front ++ back) v = singlePass key next front v ++
      singlePass key next back (stop next v (singlePass key next front v)) := by
  induction front generalizing v with
  | nil => rfl
  | cons e front ih =>
    rw [List.cons_append, singlePass, singlePass]
    split
    · rw [ih, List.cons_append, stop]
    · exact ih v

theorem singlePass_absent (absent : ∀ e ∈ entries, key e ≠ v) :
    singlePass key next entries v = [] := by
  have skipped : singlePass key next (entries ++ []) v = [] := singlePass_skip absent []
  rw [List.append_nil] at skipped
  exact skipped

theorem singlePass_of_linked (linked : Linked key next v entries) :
    singlePass key next entries v = entries := by
  induction entries generalizing v with
  | nil => rfl
  | cons e entries ih =>
    obtain ⟨start, linked⟩ := linked
    rw [singlePass, if_pos start, ih linked]

theorem singlePass_take (linear : Linear key next v entries) (i p : Nat) :
    singlePass key next (entries.take i) (stop next v (entries.take p)) =
      (entries.take i).drop p := by
  by_cases le : p ≤ i
  · have split := take_append_drop_take p i entries
    rw [Nat.max_eq_right le] at split
    have linked := (linear.take i).linked
    rw [← split, linked_append] at linked
    rw [← split, singlePass_skip fun e member => (linear.take p).ends member, split]
    exact singlePass_of_linked linked.2
  · have shorter : entries.take i <+: entries.take p :=
      List.take_prefix_take_left (Nat.le_of_not_le le)
    rw [drop_take_of_le (Nat.le_of_not_le le)]
    exact singlePass_absent fun e member => (linear.take p).ends (shorter.subset member)

def longest (tables : List (List Entry)) : Nat :=
  tables.foldr (fun table n => max table.length n) 0

theorem length_le_longest {tables : List (List Entry)} {table : List Entry}
    (member : table ∈ tables) : table.length ≤ longest tables := by
  induction tables with
  | nil => contradiction
  | cons first rest ih =>
    rcases List.mem_cons.mp member with rfl | later
    · exact Nat.le_max_left _ _
    · exact Nat.le_trans (ih later) (Nat.le_max_right _ _)

theorem singlePass_flatten (linear : Linear key next v entries) {tables : List (List Entry)}
    (parts : ∀ table ∈ tables, table <+: entries) (p : Nat) :
    singlePass key next tables.flatten (stop next v (entries.take p)) =
      (entries.take (longest tables)).drop p := by
  induction tables generalizing p with
  | nil => rw [longest, List.foldr_nil, List.take_zero, List.drop_nil]; rfl
  | cons table tables ih =>
    have first := List.prefix_iff_eq_take.mp (parts table List.mem_cons_self)
    have rest := ih fun other later => parts other (List.mem_cons_of_mem table later)
    have head : singlePass key next table (stop next v (entries.take p)) =
        (entries.take table.length).drop p := by
      rw [← singlePass_take linear, ← first]
    rw [List.flatten_cons, singlePass_append, head, stop_take, rest, drop_take_max]
    rfl

/-- A pass over first parts of the entries, repeated in any order, finds what a pass over the
    longest of them finds. -/
theorem singlePass_prefixes (linear : Linear key next v entries) {tables : List (List Entry)}
    (parts : ∀ table ∈ tables, table <+: entries) (w : Key) :
    singlePass key next tables.flatten w =
      singlePass key next (entries.take (longest tables)) w := by
  by_cases reached : ∃ p, w = stop next v (entries.take p)
  · obtain ⟨p, rfl⟩ := reached
    rw [singlePass_flatten linear parts, singlePass_take linear]
  · have absent : ∀ e ∈ entries, key e ≠ w := by
      rintro e member rfl
      exact reached (linear.reached member)
    rw [singlePass_absent, singlePass_absent]
    · exact fun e member => absent e ((List.take_subset _ _) member)
    · intro e member
      obtain ⟨table, part, member⟩ := List.mem_flatten.mp member
      exact absent e ((parts table part).subset member)

end prefixes

end LaluneServer.Chains
