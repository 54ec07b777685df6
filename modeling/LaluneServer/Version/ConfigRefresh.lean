import LaluneServer.Version.VersionServer

/- What a refreshed configuration does to the table of upgrades: its entries are appended,
   and an exception leaves the handler where an entry is not complete. -/
namespace LaluneServer.Version

/-- The entries up to the first one that is not complete. -/
def readable : List (String × PTree) → List VersionIformation
  | [] => []
  | v :: rest =>
    match readEntry v.2 with
    | none => []
    | some entry => entry :: readable rest

section refresh
variable (readJson : String → Option PTree) (versionInfor : List VersionIformation)
  (content : String)

/-- The table that a content describes: a tree with a root whose entries are all complete. -/
def described : Option (List VersionIformation) :=
  (readJson content).bind fun pt =>
  (pt.getChild "root").bind fun root =>
  root.children.mapM fun v => readEntry v.2

structure ReplacesOrKeeps : Prop where
  returned : (onConfigRefresh readJson versionInfor content).2 = .returned
  table : described readJson content = some (onConfigRefresh readJson versionInfor content).1 ∨
    (onConfigRefresh readJson versionInfor content).1 = versionInfor

def SameTwice : Prop :=
  onConfigRefresh readJson (onConfigRefresh readJson versionInfor content).1 content =
    onConfigRefresh readJson versionInfor content

end refresh

theorem mapM_cons_eq_some {α β : Type} {f : α → Option β} {a : α} {rest : List α} {all : List β}
    (complete : (a :: rest).mapM f = some all) :
    ∃ first others, f a = some first ∧ rest.mapM f = some others ∧ all = first :: others := by
  rw [List.mapM_cons] at complete
  obtain ⟨first, read, complete⟩ := Option.bind_eq_some_iff.mp complete
  obtain ⟨others, readRest, complete⟩ := Option.bind_eq_some_iff.mp complete
  exact ⟨first, others, read, readRest, (Option.some.inj complete).symm⟩

theorem mapM_cons_eq_none {α β : Type} {f : α → Option β} {a : α} {rest : List α} {first : β}
    (read : f a = some first) (incomplete : (a :: rest).mapM f = none) : rest.mapM f = none := by
  rw [List.mapM_cons, read] at incomplete
  cases others : rest.mapM f with
  | none => rfl
  | some entries =>
    rw [others] at incomplete
    contradiction

section entries
variable {children : List (String × PTree)} {table : List VersionIformation}

theorem pushEntries_table (versionInfor : List VersionIformation)
    (children : List (String × PTree)) :
    (pushEntries versionInfor children).1 = versionInfor ++ readable children := by
  induction children generalizing versionInfor with
  | nil => exact (List.append_nil versionInfor).symm
  | cons v rest ih =>
    unfold pushEntries readable
    cases readEntry v.2 with
    | none => exact (List.append_nil versionInfor).symm
    | some entry =>
      dsimp only
      rw [ih, List.append_assoc]
      rfl

theorem pushEntries_complete (complete : children.mapM (fun v => readEntry v.2) = some table)
    (versionInfor : List VersionIformation) :
    pushEntries versionInfor children = (versionInfor ++ table, .returned) := by
  induction children generalizing versionInfor table with
  | nil =>
    cases complete
    rw [pushEntries, List.reverse_nil, List.append_nil]
  | cons v rest ih =>
    obtain ⟨entry, entries, read, others, rfl⟩ := mapM_cons_eq_some complete
    unfold pushEntries
    rw [read]
    dsimp only
    rw [ih others, List.append_assoc]
    rfl

theorem pushEntries_incomplete (incomplete : children.mapM (fun v => readEntry v.2) = none)
    (versionInfor : List VersionIformation) :
    (pushEntries versionInfor children).2 = .thrown := by
  induction children generalizing versionInfor with
  | nil => contradiction
  | cons v rest ih =>
    unfold pushEntries
    cases read : readEntry v.2 with
    | none => rfl
    | some entry => exact ih (mapM_cons_eq_none read incomplete) _

end entries

section
variable {readJson : String → Option PTree} {versionInfor table : List VersionIformation}
  {content : String}

theorem refresh_described (found : described readJson content = some table)
    (versionInfor : List VersionIformation) :
    onConfigRefresh readJson versionInfor content = (versionInfor ++ table, .returned) := by
  obtain ⟨pt, parsed, found⟩ := Option.bind_eq_some_iff.mp found
  obtain ⟨root, present, complete⟩ := Option.bind_eq_some_iff.mp found
  have tree : readTree readJson content = pt := by
    rw [readTree, parsed, Option.getD_some]
  unfold onConfigRefresh
  rw [tree, present]
  exact pushEntries_complete complete versionInfor

theorem refresh_not_described (missing : described readJson content = none)
    (versionInfor : List VersionIformation) :
    (onConfigRefresh readJson versionInfor content).2 = .thrown := by
  unfold described at missing
  unfold onConfigRefresh readTree
  cases parsed : readJson content with
  | none => rfl
  | some pt =>
    rw [parsed, Option.bind_some] at missing
    rw [Option.getD_some]
    cases present : pt.getChild "root" with
    | none => rfl
    | some root =>
      rw [present, Option.bind_some] at missing
      exact pushEntries_incomplete missing versionInfor

theorem refresh_appends (readJson : String → Option PTree)
    (versionInfor : List VersionIformation) (content : String) :
    versionInfor <+: (onConfigRefresh readJson versionInfor content).1 := by
  unfold onConfigRefresh
  split
  · exact List.prefix_rfl
  · rw [pushEntries_table]
    exact List.prefix_append _ _

theorem refreshFiles_described {files : List (String × String)}
    {tables : List (List VersionIformation)}
    (found : files.mapM (fun file => described readJson file.2) = some tables)
    (versionInfor : List VersionIformation) :
    refreshFiles readJson versionInfor files = (versionInfor ++ tables.flatten, .returned) := by
  induction files generalizing versionInfor tables with
  | nil =>
    cases found
    rw [refreshFiles, List.reverse_nil, List.flatten_nil, List.append_nil]
  | cons file rest ih =>
    obtain ⟨table, later, read, others, rfl⟩ := mapM_cons_eq_some found
    unfold refreshFiles
    rw [refresh_described read]
    dsimp only
    rw [ih others, List.append_assoc]
    rfl

theorem refreshFiles_not_described {files : List (String × String)}
    (missing : files.mapM (fun file => described readJson file.2) = none)
    (versionInfor : List VersionIformation) :
    (refreshFiles readJson versionInfor files).2 = .thrown := by
  induction files generalizing versionInfor with
  | nil => contradiction
  | cons file rest ih =>
    unfold refreshFiles
    cases found : described readJson file.2 with
    | none =>
      have thrown := refresh_not_described found versionInfor
      split
      · rfl
      · rename_i after returned
        rw [returned] at thrown
        contradiction
    | some table =>
      rw [refresh_described found]
      exact ih (mapM_cons_eq_none found missing) _

theorem replacesOrKeeps_iff :
    ReplacesOrKeeps readJson versionInfor content ↔
      ∃ table, described readJson content = some table ∧ (versionInfor = [] ∨ table = []) := by
  constructor
  · rintro ⟨returned, kept⟩
    cases found : described readJson content with
    | none =>
      rw [refresh_not_described found] at returned
      contradiction
    | some table =>
      rw [found, refresh_described found] at kept
      refine ⟨table, rfl, ?_⟩
      rcases kept with replaced | kept
      · exact Or.inl (List.self_eq_append_left.mp (Option.some.inj replaced))
      · exact Or.inr (List.append_right_eq_self.mp kept)
  · rintro ⟨table, found, empty⟩
    have after := refresh_described found versionInfor
    refine ⟨by rw [after], ?_⟩
    rw [found, after]
    rcases empty with rfl | rfl
    · exact Or.inl rfl
    · exact Or.inr (List.append_nil versionInfor)

theorem sameTwice_iff (found : described readJson content = some table) :
    SameTwice readJson versionInfor content ↔ table = [] := by
  unfold SameTwice
  rw [refresh_described found, refresh_described found, Prod.mk.injEq]
  constructor
  · rintro ⟨again, _⟩
    exact List.append_right_eq_self.mp again
  · rintro rfl
    exact ⟨List.append_nil _, rfl⟩

/-- A refresh replaces or keeps the table, the second time too, exactly when its content has a
    root without entries. A single refresh also replaces a table that was empty. -/
theorem refresh_replaces_or_keeps_iff (readJson : String → Option PTree)
    (versionInfor : List VersionIformation) (content : String) :
    (ReplacesOrKeeps readJson versionInfor content ∧ SameTwice readJson versionInfor content ↔
      described readJson content = some []) ∧
    (ReplacesOrKeeps readJson versionInfor content ↔
      ∃ table, described readJson content = some table ∧ (versionInfor = [] ∨ table = [])) := by
  refine ⟨⟨?_, ?_⟩, replacesOrKeeps_iff⟩
  · rintro ⟨kept, twice⟩
    obtain ⟨table, found, _⟩ := replacesOrKeeps_iff.mp kept
    rw [found, (sameTwice_iff found).mp twice]
  · intro found
    exact ⟨replacesOrKeeps_iff.mpr ⟨[], found, Or.inr rfl⟩, (sameTwice_iff found).mpr rfl⟩

end

section examples

def oneEntry : String := "\x7b\"root\":[\x7b\"now_ve\":\"1\",\"next_ve\":\"2\"," ++
  "\"path\":\"a|\",\"url\":\"b|\"\x7d]\x7d"

def oneEntryTree : PTree :=
  .node "" [("root", .node "" [("", .node "" [("now_ve", .node "1" []), ("next_ve", .node "2" []),
    ("path", .node "a|" []), ("url", .node "b|" [])])])]

def readOneEntry (content : String) : Option PTree :=
  if content = oneEntry then some oneEntryTree else none

/-- The second delivery of the same entry appends it again. -/
theorem refresh_twice_appends_twice : ¬ ∀ (readJson : String → Option PTree)
    (versionInfor : List VersionIformation) (content : String),
    ReplacesOrKeeps readJson versionInfor content ∧ SameTwice readJson versionInfor content := by
  intro every
  have twice := (every readOneEntry [] oneEntry).2
  unfold SameTwice at twice
  exact absurd twice (by decide +kernel)

end examples

end LaluneServer.Version
