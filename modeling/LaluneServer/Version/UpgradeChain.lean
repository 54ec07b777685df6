import LaluneServer.Lib.Chains
import LaluneServer.Version.VersionServer

/- How far CheckVersion follows the chain of upgrades: its loops pass over the table once,
   so they find a chain that is stored in its order. -/
namespace LaluneServer.Version

open Chains Relation
open Std (TreeMap)

namespace VersionIformation

def files (entry : VersionIformation) : List (String × String) :=
  entry.filePath.zip entry.fileUrl

def UrlsFit (entry : VersionIformation) : Prop := entry.filePath.length ≤ entry.fileUrl.length

instance (entry : VersionIformation) : Decidable entry.UrlsFit :=
  inferInstanceAs (Decidable (_ ≤ _))

end VersionIformation

open VersionIformation

def lastUrl (entries : List VersionIformation) (path : String) : Option String :=
  (entries.flatMap files).reverse.lookup path

def entriesFor (table : List VersionIformation) (versions : List String) :
    List VersionIformation :=
  versions.flatMap fun version => table.filter fun entry => entry.nowVersion = version

abbrev UpgradeChain (table : List VersionIformation) (v : String)
    (chain : List VersionIformation) : Prop :=
  Chain nowVersion nextVersion table v chain

/-- The last version of the chain from `v`, and the files of all entries along the chain. -/
structure FollowsChain (table : List VersionIformation) (v : String)
    (answer : CheckVersionResult) (chain : List VersionIformation) : Prop where
  upgrades : UpgradeChain table v chain
  nowVersion : answer.nowVersion = stop nextVersion v chain
  file : ∀ path url, (path, url) ∈ answer.file ↔
    lastUrl (entriesFor table (chain.map VersionIformation.nowVersion)) path = some url
  once : (answer.file.map Prod.fst).Nodup

/-- The chain is stored in its order, each of its entries has a url for each path, and what
    else is stored for its versions changes no url. -/
structure StoredInOrder (table : List VersionIformation) (v : String)
    (chain : List VersionIformation) : Prop where
  upgrades : UpgradeChain table v chain
  first : FirstStored nowVersion nextVersion table v chain
  urls : ∀ entry ∈ chain, entry.UrlsFit
  further : ∀ path, lastUrl (entriesFor table (chain.map VersionIformation.nowVersion)) path =
    lastUrl chain path

section loops
variable {table : List VersionIformation} {v path : String}

def insertAll (mapNode : TreeMap String String) (files : List (String × String)) :
    TreeMap String String :=
  files.foldl (fun mapNode file => mapNode.insert file.1 file.2) mapNode

theorem insertAll_append (mapNode : TreeMap String String) (first second : List (String × String)) :
    insertAll mapNode (first ++ second) = insertAll (insertAll mapNode first) second :=
  List.foldl_append

theorem getElem?_insertAll (mapNode : TreeMap String String) (files : List (String × String)) :
    (insertAll mapNode files)[path]? = (files.reverse.lookup path).or mapNode[path]? := by
  induction files generalizing mapNode with
  | nil => rfl
  | cons file files ih =>
    obtain ⟨name, url⟩ := file
    have found : (insertAll mapNode ((name, url) :: files))[path]? =
        (files.reverse.lookup path).or (mapNode.insert name url)[path]? := ih _
    rw [found, List.reverse_cons, List.lookup_append, Option.or_assoc, TreeMap.getElem?_insert]
    congr 1
    by_cases same : name = path
    · subst same
      simp
    · have other : ¬ compare name path = .eq := by
        intro equal
        exact same (Std.LawfulEqOrd.eq_of_compare equal)
      have different : (path == name) = false := by
        rw [beq_eq_false_iff_ne]
        exact Ne.symm same
      rw [if_neg other, List.lookup_cons, different]
      rfl

theorem insertFiles_eq (mapNode : TreeMap String String) (paths urls : List String) :
    insertFiles mapNode paths urls =
      if paths.length ≤ urls.length then some (insertAll mapNode (paths.zip urls)) else none := by
  induction paths generalizing mapNode urls with
  | nil => rfl
  | cons path paths ih =>
    cases urls with
    | nil => rfl
    | cons url urls =>
      rw [insertFiles, ih]
      simp only [List.length_cons, Nat.add_le_add_iff_right]
      rfl

theorem followVersions_eq (mapNode : TreeMap String String) (table : List VersionIformation)
    (v : String) :
    followVersions v mapNode table =
      if ∀ entry ∈ singlePass nowVersion nextVersion table v, entry.UrlsFit then
        some (stop nextVersion v (singlePass nowVersion nextVersion table v),
          insertAll mapNode ((singlePass nowVersion nextVersion table v).flatMap files))
      else none := by
  induction table generalizing v mapNode with
  | nil => rfl
  | cons entry table ih =>
    rw [followVersions, singlePass]
    by_cases found : v = entry.nowVersion
    · rw [if_pos found, if_pos found.symm, insertFiles_eq]
      by_cases fits : entry.filePath.length ≤ entry.fileUrl.length
      · rw [if_pos fits, Option.bind_some, ih, List.flatMap_cons, insertAll_append]
        simp only [List.forall_mem_cons, show entry.UrlsFit from fits, true_and]
        rfl
      · rw [if_neg fits, Option.bind_none, if_neg]
        intro all
        exact fits (all entry List.mem_cons_self)
    · rw [if_neg found, if_neg (Ne.symm found)]
      exact ih mapNode v

theorem checkVersion_eq (table : List VersionIformation) (v : String) :
    checkVersion v table =
      if ∀ entry ∈ singlePass nowVersion nextVersion table v, entry.UrlsFit then
        some { nowVersion := stop nextVersion v (singlePass nowVersion nextVersion table v)
               file := (insertAll ∅
                 ((singlePass nowVersion nextVersion table v).flatMap files)).toList }
      else none := by
  induction table with
  | nil => rfl
  | cons entry table ih =>
    rw [checkVersion]
    by_cases found : v = entry.nowVersion
    · rw [if_pos found, followVersions_eq, apply_ite (Option.map _)]
      rfl
    · rw [if_neg found, singlePass, if_neg (Ne.symm found)]
      exact ih

theorem mem_file_iff (entries : List VersionIformation) (path url : String) :
    (path, url) ∈ (insertAll ∅ (entries.flatMap files)).toList ↔
      lastUrl entries path = some url := by
  rw [TreeMap.mem_toList_iff_getElem?_eq_some, getElem?_insertAll, TreeMap.getElem?_emptyc,
    Option.or_none]
  rfl

theorem file_paths_nodup (mapNode : TreeMap String String) :
    (mapNode.toList.map Prod.fst).Nodup := by
  rw [List.nodup_iff_pairwise_ne, List.pairwise_map]
  refine TreeMap.distinct_keys_toList.imp ?_
  intro first second different same
  rw [same] at different
  exact different Std.ReflCmp.compare_self

end loops

section chain
variable {table chain : List VersionIformation} {v : String} {answer : CheckVersionResult}

theorem follows_of_stored (stored : StoredInOrder table v chain) :
    ∃ answer, checkVersion v table = some answer ∧ FollowsChain table v answer chain := by
  have passed : singlePass nowVersion nextVersion table v = chain :=
    singlePass_of_firstStored stored.upgrades.complete stored.first
  rw [checkVersion_eq, passed, if_pos stored.urls]
  refine ⟨_, rfl, stored.upgrades, rfl, ?_, ?_⟩
  · intro path url
    rw [stored.further]
    exact mem_file_iff chain path url
  · exact file_paths_nodup _

theorem singlePass_chain (upgrades : UpgradeChain table v chain)
    (ends : stop nextVersion v (singlePass nowVersion nextVersion table v) =
      stop nextVersion v chain) :
    UpgradeChain table v (singlePass nowVersion nextVersion table v) := by
  refine ⟨?_, singlePass_linked table v, ?_⟩
  · intro entry found
    exact (singlePass_sublist table v).subset found
  · rw [ends]
    exact upgrades.complete

theorem stored_of_follows
    (single : ∀ entry ∈ table, ∀ other ∈ table, entry.nowVersion = other.nowVersion →
      entry.nextVersion = other.nextVersion)
    (answered : checkVersion v table = some answer) (follows : FollowsChain table v answer chain) :
    StoredInOrder table v (singlePass nowVersion nextVersion table v) := by
  rw [checkVersion_eq] at answered
  split at answered
  · rename_i urls
    cases answered
    have upgrades := singlePass_chain follows.upgrades follows.nowVersion
    refine ⟨upgrades, singlePass_firstStored table v, urls, ?_⟩
    intro path
    have versions := (chain_keys_unique single upgrades follows.upgrades).1
    rw [versions]
    apply Option.ext
    intro url
    exact (follows.file path url).symm.trans (mem_file_iff _ path url)
  · contradiction

/-- CheckVersion follows the chain of upgrades exactly when the chain is stored in its order,
    with a url for each path, and nothing else for its versions changes a url. -/
theorem checkVersion_follows_chain_iff
    (single : ∀ entry ∈ table, ∀ other ∈ table, entry.nowVersion = other.nowVersion →
      entry.nextVersion = other.nextVersion)
    (acyclic : ∀ version, ¬ TransGen (Leads nowVersion nextVersion table) version version)
    (v : String) :
    (∃ chain, UpgradeChain table v chain) ∧
      ((∃ answer chain, checkVersion v table = some answer ∧ FollowsChain table v answer chain) ↔
        ∃ chain, StoredInOrder table v chain) := by
  refine ⟨exists_chain acyclic v, ?_, ?_⟩
  · rintro ⟨answer, chain, answered, follows⟩
    exact ⟨_, stored_of_follows single answered follows⟩
  · rintro ⟨chain, stored⟩
    obtain ⟨answer, answered, follows⟩ := follows_of_stored stored
    exact ⟨answer, chain, answered, follows⟩

end chain

section repeated
variable {table chain : List VersionIformation} {v : String}

theorem lastUrl_append (first second : List VersionIformation) (path : String) :
    lastUrl (first ++ second) path = (lastUrl second path).or (lastUrl first path) := by
  unfold lastUrl
  rw [List.flatMap_append, List.reverse_append, List.lookup_append]

theorem lastUrl_replicate (entry : VersionIformation) (n : Nat) (path : String) :
    lastUrl (List.replicate (n + 1) entry) path = lastUrl [entry] path := by
  induction n with
  | zero => rfl
  | succ n ih =>
    have front : List.replicate (n + 2) entry = [entry] ++ List.replicate (n + 1) entry := rfl
    rw [front, lastUrl_append, ih, Option.or_self]

theorem lastUrl_entriesFor
    (one : ∀ entry ∈ table, ∀ other ∈ table, entry.nowVersion = other.nowVersion → entry = other)
    (inside : ∀ entry ∈ chain, entry ∈ table) (path : String) :
    lastUrl (entriesFor table (chain.map VersionIformation.nowVersion)) path =
      lastUrl chain path := by
  induction chain with
  | nil => rfl
  | cons entry chain ih =>
    have member := inside entry List.mem_cons_self
    have copies : ∀ other ∈ table.filter fun other => other.nowVersion = entry.nowVersion,
        other = entry := by
      intro other found
      obtain ⟨stored, same⟩ := List.mem_filter.mp found
      exact one other stored entry member (of_decide_eq_true same)
    have itself : entry ∈ table.filter fun other => other.nowVersion = entry.nowVersion :=
      List.mem_filter.mpr ⟨member, decide_eq_true rfl⟩
    obtain ⟨n, count⟩ := Nat.exists_eq_add_one.mpr (List.length_pos_of_mem itself)
    have again := List.eq_replicate_of_mem copies
    rw [count] at again
    have split : entriesFor table ((entry :: chain).map VersionIformation.nowVersion) =
        List.replicate (n + 1) entry ++
          entriesFor table (chain.map VersionIformation.nowVersion) := by
      rw [← again]
      rfl
    have behind := ih fun other later => inside other (List.mem_cons_of_mem entry later)
    rw [split, lastUrl_append, behind, lastUrl_replicate, ← lastUrl_append]
    rfl

/-- Where a version has one entry, perhaps with copies of it, the order is all that matters. -/
theorem stored_iff_sublist
    (one : ∀ entry ∈ table, ∀ other ∈ table, entry.nowVersion = other.nowVersion →
      entry = other) :
    (∃ chain, StoredInOrder table v chain) ↔ ∃ chain, UpgradeChain table v chain ∧
      chain.Sublist table ∧ ∀ entry ∈ chain, entry.UrlsFit := by
  constructor
  · rintro ⟨chain, stored⟩
    have passed : singlePass nowVersion nextVersion table v = chain :=
      singlePass_of_firstStored stored.upgrades.complete stored.first
    exact ⟨chain, stored.upgrades, passed ▸ singlePass_sublist table v, stored.urls⟩
  · rintro ⟨chain, upgrades, ordered, urls⟩
    refine ⟨chain, upgrades, firstStored_of_sublist one upgrades.linked ordered, urls, ?_⟩
    exact lastUrl_entriesFor one upgrades.inside

end repeated

section examples

def upgrade : VersionIformation where
  filePath := ["a", "b"]
  fileUrl := ["a1", "b1"]
  nowVersion := "1"
  nextVersion := "1.1"

def laterUpgrade : VersionIformation where
  filePath := ["b"]
  fileUrl := ["b2"]
  nowVersion := "1.1"
  nextVersion := "1.1.1"

theorem chain_in_order :
    UpgradeChain [upgrade, laterUpgrade] "1" [upgrade, laterUpgrade] where
  inside _ member := member
  linked := ⟨rfl, rfl, trivial⟩
  complete := by decide +kernel

theorem checkVersion_follows_chain_in_order : ∃ answer chain,
    checkVersion "1" [upgrade, laterUpgrade] = some answer ∧
      FollowsChain [upgrade, laterUpgrade] "1" answer chain := by
  have acyclic : ∀ version, ¬ TransGen
      (Leads nowVersion nextVersion [upgrade, laterUpgrade]) version version :=
    acyclic_of_rank String.length (by decide +kernel)
  have stored : ∃ chain, StoredInOrder [upgrade, laterUpgrade] "1" chain := by
    rw [stored_iff_sublist (by decide +kernel)]
    exact ⟨_, chain_in_order, List.Sublist.refl _, by decide +kernel⟩
  exact (checkVersion_follows_chain_iff (by decide +kernel) acyclic "1").2.mpr stored

/-- The later upgrade is stored first: the client is left with version 1.1. -/
theorem chain_out_of_order_missed : ¬ ∀ (table : List VersionIformation) (v : String),
    (∀ entry ∈ table, ∀ other ∈ table, entry.nowVersion = other.nowVersion →
      entry.nextVersion = other.nextVersion) →
    (∀ version, ¬ TransGen (Leads nowVersion nextVersion table) version version) →
    ∃ answer chain, checkVersion v table = some answer ∧ FollowsChain table v answer chain := by
  intro every
  have acyclic : ∀ version, ¬ TransGen
      (Leads nowVersion nextVersion [laterUpgrade, upgrade]) version version :=
    acyclic_of_rank String.length (by decide +kernel)
  obtain ⟨answer, chain, answered, follows⟩ :=
    every [laterUpgrade, upgrade] "1" (by decide +kernel) acyclic
  have early : (checkVersion "1" [laterUpgrade, upgrade]).map CheckVersionResult.nowVersion =
      some "1.1" := by
    decide +kernel
  rw [answered, Option.map_some, Option.some.injEq] at early
  refine follows.upgrades.complete laterUpgrade List.mem_cons_self ?_
  rw [← follows.nowVersion, early]
  rfl

end examples

end LaluneServer.Version
