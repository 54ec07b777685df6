import LaluneServer.Control.ConfigList
import LaluneServer.Lib.Transition

/- initializeConfigs finds the configs again that writeConfig wrote, as long as no file of a
   call is the file of something else. -/
namespace LaluneServer.Control
open Transition

namespace ConfigStore

section conditions
variable {File Item : Type*} (p : Platform File) (ids : ServerTypeIds) (json : JsonList Item)
  (store : ConfigStore File)

/-- The files of the calls stay apart from the list and, unless the content is the same, from
    the files of the other configs; a file name is a C string. -/
structure Apart (call : WriteConfig) : Prop where
  named : cString call.fileName = call.fileName
  others : ∀ key content, store.configs key = some content → key ≠ call.key →
    p.resolve (currentPath p ids key) = p.resolve (currentPath p ids call.key) ∨
      p.resolve (currentPath p ids key) = p.resolve (historyPath p ids call.key call.time) →
    content = call.content
  current : p.resolve (currentPath p ids call.key) ≠ p.resolve store.listFile
  history : p.resolve (historyPath p ids call.key call.time) ≠ p.resolve store.listFile
  listing : store.configs call.key = none →
    ∀ key, key = call.key ∨ store.configs key ≠ none →
      p.resolve (currentPath p ids key) ≠ p.resolve store.listFile ∧
        p.resolve (currentPath p ids key) ≠ p.resolve (store.listFile ++ ".bak")

structure Durable : Prop where
  files : ∀ key content, store.configs key = some content →
    store.readFile p (currentPath p ids key) = some content
  listed : ∃ text items, store.readFile p store.listFile = some text ∧
    json.parse text = some items ∧
    ∀ key, store.configs key ≠ none ↔ some key ∈ items.map (itemKey json)

end conditions

section loading
variable {File Item : Type*} {p : Platform File} {ids : ServerTypeIds} {json : JsonList Item}
  {store s t : ConfigStore File}

theorem insertConfig_none (configs : ConfigKey → Option String) (key other : ConfigKey)
    (content : String) :
    insertConfig configs key content other ≠ none ↔ configs other ≠ none ∨ other = key := by
  unfold insertConfig
  split
  · rename_i known
    have some_content : configs key ≠ none := Option.isSome_iff_ne_none.mp known
    exact ⟨.inl, fun either => either.elim id (fun same => same ▸ some_content)⟩
  · by_cases same : other = key
    · simp [same]
    · simp [same]

theorem readConfigs_spec {items : List Item} {configs result : ConfigKey → Option String}
    (read : readConfigs p ids json store items configs = some result) :
    (∀ key, result key ≠ none ↔ configs key ≠ none ∨ some key ∈ items.map (itemKey json)) ∧
      ∀ key content, result key = some content →
        configs key = some content ∨ store.readFile p (currentPath p ids key) = some content := by
  induction items generalizing configs with
  | nil =>
    cases read
    exact ⟨fun key => by simp, fun key content found => .inl found⟩
  | cons item rest ih =>
    unfold readConfigs at read
    cases named : itemKey json item with
    | none =>
      rw [named] at read
      obtain ⟨keys, contents⟩ := ih read
      refine ⟨fun key => ?_, contents⟩
      rw [keys, List.map_cons, List.mem_cons, named]
      simp
    | some here =>
      rw [named] at read
      obtain ⟨text, opened, read⟩ := Option.bind_eq_some_iff.mp read
      obtain ⟨keys, contents⟩ := ih read
      constructor
      · intro key
        rw [keys, insertConfig_none, List.map_cons, List.mem_cons, named, Option.some_inj, or_assoc]
      · intro key content found
        rcases contents key content found with inserted | file
        · unfold insertConfig at inserted
          split at inserted
          · exact .inl inserted
          · by_cases same : key = here
            · subst same
              rw [Function.update_self] at inserted
              exact .inr (opened.trans inserted)
            · rw [Function.update_of_ne same] at inserted
              exact .inl inserted
        · exact .inr file

theorem readConfigs_ends {items : List Item} (exist : ∀ key, some key ∈ items.map (itemKey json) →
    store.readFile p (currentPath p ids key) ≠ none) (configs : ConfigKey → Option String) :
    ∃ result, readConfigs p ids json store items configs = some result := by
  induction items generalizing configs with
  | nil => exact ⟨configs, rfl⟩
  | cons item rest ih =>
    have later := ih (fun key listed => exist key (List.mem_cons_of_mem _ listed))
    unfold readConfigs
    cases named : itemKey json item with
    | none => exact later configs
    | some here =>
      have first := exist here (by rw [List.map_cons, named]; exact List.mem_cons_self)
      obtain ⟨text, opened⟩ := Option.ne_none_iff_exists'.mp first
      simp only [opened, Option.bind_some]
      exact later _

theorem loaded_frame {w : ConfigStore File} (loaded : w.initializeConfigs p ids json = some s) :
    s.files = w.files ∧ s.listFile = p.toAbsolutePath w.listFile := by
  obtain ⟨text, _, loaded⟩ := Option.bind_eq_some_iff.mp loaded
  split at loaded
  · cases loaded
    exact ⟨rfl, rfl⟩
  · obtain ⟨configs, _, rfl⟩ := Option.map_eq_some_iff.mp loaded
    exact ⟨rfl, rfl⟩

theorem durable_of_loaded {w : ConfigStore File} (loaded : w.initializeConfigs p ids json = some s)
    (array : ((s.readFile p s.listFile).bind json.parse).isSome = true) :
    s.Durable p ids json := by
  obtain ⟨text, opened, loaded⟩ := Option.bind_eq_some_iff.mp loaded
  cases parsed : json.parse text with
  | none =>
    simp only [parsed, Option.some.injEq] at loaded
    subst loaded
    rw [opened, Option.bind_some, parsed] at array
    contradiction
  | some items =>
    simp only [parsed] at loaded
    obtain ⟨configs, read, rfl⟩ := Option.map_eq_some_iff.mp loaded
    obtain ⟨keys, contents⟩ := readConfigs_spec read
    refine ⟨fun key content found => ?_, text, items, opened, parsed, fun key => ?_⟩
    · exact (contents key content found).resolve_left (Option.some_ne_none content ·.symm)
    · rw [keys]
      simp

theorem loaded_of_durable (durable : t.Durable p ids json) {disk : ConfigStore File}
    (files : disk.files = t.files) (list : p.toAbsolutePath disk.listFile = t.listFile) :
    ∃ r, disk.initializeConfigs p ids json = some r ∧ r.configs = t.configs := by
  obtain ⟨text, items, opened, parsed, listed⟩ := durable.listed
  have same (path : String) : ({ disk with listFile := p.toAbsolutePath disk.listFile } :
      ConfigStore File).readFile p path = t.readFile p path := by
    unfold readFile
    rw [← files]
  obtain ⟨configs, read⟩ := @readConfigs_ends _ _ p ids json
    { disk with listFile := p.toAbsolutePath disk.listFile } items (by
      intro key member
      obtain ⟨content, known⟩ := Option.ne_none_iff_exists'.mp ((listed key).mpr member)
      rw [same, durable.files key content known]
      exact Option.some_ne_none content) (fun _ => none)
  refine ⟨{ disk with listFile := p.toAbsolutePath disk.listFile, configs := configs }, ?_, ?_⟩
  · refine Option.bind_eq_some_iff.mpr ⟨text, ?_, ?_⟩
    · rw [same, list]
      exact opened
    · simp only [parsed, read, Option.map_some]
  · obtain ⟨keys, contents⟩ := readConfigs_spec read
    funext key
    change configs key = t.configs key
    have known : configs key ≠ none ↔ t.configs key ≠ none := by
      rw [keys, listed]
      simp
    cases found : t.configs key with
    | none => exact not_ne_iff.mp (fun some_content => known.mp some_content found)
    | some content =>
      obtain ⟨other, loaded⟩ := Option.ne_none_iff_exists'.mp
        (known.mpr (by rw [found]; exact Option.some_ne_none content))
      have file := (contents key other loaded).resolve_left (Option.some_ne_none other ·.symm)
      rw [same, durable.files key content found] at file
      rw [loaded, file]

end loading

section writing
variable {File Item : Type*} [DecidableEq File] {p : Platform File} {ids : ServerTypeIds}
  {json : JsonList Item} {s t : ConfigStore File} {call : WriteConfig}

theorem readFile_writeFile (store : ConfigStore File) (path content other : String) :
    (store.writeFile p path content).readFile p other =
      if p.resolve other = p.resolve path then some content else store.readFile p other := by
  unfold readFile writeFile
  exact Function.update_apply _ _ _ _

theorem readFile_writeList (p : Platform File) (json : JsonList Item) (store : ConfigStore File)
    (before : String) (items : List Item) (path : String) :
    (store.writeList p json before items).readFile p path =
      if p.resolve path = p.resolve store.listFile then some (json.print items)
      else if p.resolve path = p.resolve (store.listFile ++ ".bak") then some before
      else store.readFile p path := by
  unfold writeList
  rw [readFile_writeFile, readFile_writeFile]

theorem listConfig_cases {key : ConfigKey} (listed : s.listConfig p ids json key = some t) :
    t.configs = s.configs ∧ t.listFile = s.listFile ∧ ∃ text,
      s.readFile p s.listFile = some text ∧
      ((∀ path, t.readFile p path = s.readFile p path) ∧ json.parse text = none ∨
        ∃ items, json.parse text = some items ∧ ∀ path, t.readFile p path =
          if p.resolve path = p.resolve s.listFile then
            some (json.print (items ++ [listItem ids json key]))
          else if p.resolve path = p.resolve (s.listFile ++ ".bak") then some text
          else s.readFile p path) := by
  obtain ⟨text, opened, rfl⟩ := Option.map_eq_some_iff.mp listed
  cases parsed : json.parse text with
  | none => exact ⟨rfl, rfl, text, opened, .inl ⟨fun _ => rfl, parsed⟩⟩
  | some items =>
    exact ⟨rfl, rfl, text, opened, .inr ⟨items, parsed, readFile_writeList p json s text _⟩⟩

theorem writeConfig_cases (wrote : s.writeConfig p ids json call = some t) :
    t.configs = Function.update s.configs call.key (some call.content) ∧
      t.listFile = s.listFile ∧
      ((∀ path, t.readFile p path = (s.writeFiles p ids call).readFile p path) ∧
          (s.configs call.key ≠ none ∨ ∃ text,
            (s.writeFiles p ids call).readFile p s.listFile = some text ∧ json.parse text = none) ∨
        s.configs call.key = none ∧ ∃ text items,
          (s.writeFiles p ids call).readFile p s.listFile = some text ∧
          json.parse text = some items ∧ ∀ path, t.readFile p path =
            if p.resolve path = p.resolve s.listFile then
              some (json.print (items ++ [listItem ids json call.key]))
            else if p.resolve path = p.resolve (s.listFile ++ ".bak") then some text
            else (s.writeFiles p ids call).readFile p path) := by
  obtain ⟨u, after, rfl⟩ := Option.map_eq_some_iff.mp wrote
  have before : (s.writeFiles p ids call).configs = s.configs := rfl
  rw [before] at after
  cases known : s.configs call.key with
  | some old =>
    rw [known] at after
    cases after
    exact ⟨rfl, rfl, .inl ⟨fun _ => rfl, .inl (Option.some_ne_none old)⟩⟩
  | none =>
    rw [known] at after
    obtain ⟨configs, list, text, opened, read⟩ := listConfig_cases after
    have updated := congrArg (Function.update · call.key (some call.content))
      (configs.trans before)
    rcases read with ⟨same, parsed⟩ | ⟨items, parsed, files⟩
    · exact ⟨updated, list, .inl ⟨same, .inr ⟨text, opened, parsed⟩⟩⟩
    · exact ⟨updated, list, .inr ⟨rfl, text, items, opened, parsed, files⟩⟩

theorem writeFiles_list
    (current : p.resolve (currentPath p ids call.key) ≠ p.resolve s.listFile)
    (history : p.resolve (historyPath p ids call.key call.time) ≠ p.resolve s.listFile) :
    (s.writeFiles p ids call).readFile p s.listFile = s.readFile p s.listFile := by
  unfold writeFiles
  rw [readFile_writeFile, readFile_writeFile, if_neg current.symm, if_neg history.symm]

theorem writeConfig_readFile (wrote : s.writeConfig p ids json call = some t)
    (list : p.resolve (currentPath p ids call.key) ≠ p.resolve s.listFile)
    (backup : p.resolve (currentPath p ids call.key) ≠ p.resolve (s.listFile ++ ".bak")) :
    t.readFile p (currentPath p ids call.key) = some call.content := by
  have written : (s.writeFiles p ids call).readFile p (currentPath p ids call.key) =
      some call.content := by
    unfold writeFiles
    rw [readFile_writeFile, if_pos rfl]
  obtain ⟨_, _, ⟨same, _⟩ | ⟨_, text, items, _, _, read⟩⟩ := writeConfig_cases wrote
  · rw [same, written]
  · rw [read, if_neg list, if_neg backup, written]

theorem writeConfig_array (wrote : s.writeConfig p ids json call = some t)
    (array : ((s.readFile p s.listFile).bind json.parse).isSome = true)
    (current : p.resolve (currentPath p ids call.key) ≠ p.resolve s.listFile)
    (history : p.resolve (historyPath p ids call.key call.time) ≠ p.resolve s.listFile) :
    ((t.readFile p t.listFile).bind json.parse).isSome = true := by
  obtain ⟨_, list, ⟨same, _⟩ | ⟨_, text, items, _, _, read⟩⟩ := writeConfig_cases wrote
  · rw [list, same, writeFiles_list current history]
    exact array
  · rw [list, read, if_pos rfl, Option.bind_some, json.parse_print]
    rfl

theorem writeFiles_held (durable : s.Durable p ids json) (apart : s.Apart p ids call)
    {key : ConfigKey} {content : String}
    (known : Function.update s.configs call.key (some call.content) key = some content) :
    (s.writeFiles p ids call).readFile p (currentPath p ids key) = some content := by
  unfold writeFiles
  rw [readFile_writeFile, readFile_writeFile]
  by_cases same : key = call.key
  · subst same
    rw [Function.update_self] at known
    rw [if_pos rfl, known]
  · rw [Function.update_of_ne same] at known
    have clash := apart.others key content known same
    split
    · rename_i current
      rw [clash (.inl current)]
    · split
      · rename_i history
        rw [clash (.inr history)]
      · exact durable.files key content known

theorem known_update (configs : ConfigKey → Option String) (key other : ConfigKey)
    (content : String) :
    Function.update configs key (some content) other ≠ none ↔
      other = key ∨ configs other ≠ none := by
  by_cases same : other = key
  · simp [same]
  · simp [same]

theorem itemKey_listItem (key : ConfigKey) (named : cString key.2 = key.2) :
    itemKey json (listItem ids json key) = some key := by
  unfold itemKey listItem
  rw [json.serverType_object, json.fileName_object]
  exact congrArg (fun name => some (key.1, name)) named

theorem durable_step (durable : s.Durable p ids json) (apart : s.Apart p ids call)
    (wrote : s.writeConfig p ids json call = some t) : t.Durable p ids json := by
  obtain ⟨text, items, opened, parsed, listed⟩ := durable.listed
  have opened := (writeFiles_list apart.current apart.history).trans opened
  obtain ⟨configs, list, ⟨same, known⟩ | ⟨new, before, old, read, before_items, files⟩⟩ :=
    writeConfig_cases wrote
  · have known : s.configs call.key ≠ none := by
      rcases known with known | ⟨other, read, none⟩
      · exact known
      · rw [opened] at read
        cases read
        rw [parsed] at none
        contradiction
    refine ⟨fun key content now => ?_, text, items, ?_, parsed, fun key => ?_⟩
    · rw [configs] at now
      rw [same, writeFiles_held durable apart now]
    · rw [list, same, opened]
    · rw [configs, known_update, ← listed]
      exact ⟨fun either => either.elim (fun here => here ▸ known) id, .inr⟩
  · rw [opened] at read
    cases read
    rw [parsed] at before_items
    cases before_items
    refine ⟨fun key content now => ?_, _, items ++ [listItem ids json call.key], ?_,
      json.parse_print _, fun key => ?_⟩
    · rw [configs] at now
      obtain ⟨apart_list, apart_backup⟩ := apart.listing new key
        ((known_update _ _ _ _).mp (by rw [now]; exact Option.some_ne_none content))
      rw [files, if_neg apart_list, if_neg apart_backup, writeFiles_held durable apart now]
    · rw [list, files, if_pos rfl]
    · rw [configs, known_update, List.map_append, List.mem_append, ← listed, List.map_singleton,
        List.mem_singleton, itemKey_listItem call.key apart.named, Option.some_inj, or_comm]

/-- In every run of calls whose files stay apart, initializeConfigs finds the map that is in
    memory, in the same process and in a new one. -/
theorem configs_durable_while_apart {w : ConfigStore File}
    (loaded : w.initializeConfigs p ids json = some s)
    (array : ((s.readFile p s.listFile).bind json.parse).isSome = true)
    (run : Reach (writeConfig p ids json) (Apart p ids) s t) :
    (∃ r, t.initializeConfigs p ids json = some r ∧ r.configs = t.configs) ∧
      ∃ r, ({ files := t.files, listFile := w.listFile } : ConfigStore File).initializeConfigs p ids
        json = some r ∧ r.configs = t.configs := by
  obtain ⟨durable, same⟩ : t.Durable p ids json ∧ t.listFile = s.listFile := by
    refine reach_invariant (fun u : ConfigStore File => u.Durable p ids json ∧
      u.listFile = s.listFile) ⟨durable_of_loaded loaded array, rfl⟩ ?_ run
    rintro u call v ⟨durable, same⟩ apart wrote
    obtain ⟨_, list, _⟩ := writeConfig_cases wrote
    exact ⟨durable_step durable apart wrote, list.trans same⟩
  rw [(loaded_frame loaded).2] at same
  refine ⟨loaded_of_durable durable rfl ?_, loaded_of_durable durable rfl same.symm⟩
  rw [same]
  exact p.toAbsolutePath_absolute w.listFile

end writing

end ConfigStore

def plainFiles : Platform String where
  appDir := "/srv/control/"
  resolve := cString
  absolute first given := by
    have slash : "/srv/control/".toList.head? = some '/' := by decide
    rw [slash] at given
    exact (Option.some.inj given).symm

def serverTypes : ServerTypeIds := ⟨1, 2, 3, 4, 5, 6, 7, 8, 9, 10, 11, 12, 13, 14⟩

namespace ConfigStore

def emptyStore : ConfigStore String where
  files path := if path = "/srv/control/configs/list.json" then some "[]" else none
  listFile := "/srv/control/configs/list.json"

def firstVersion : WriteConfig := ⟨1, "a.json", "x", "2015-06-01 120000_1"⟩

def secondVersion : WriteConfig := ⟨1, "a.json", "y", "2015-06-01 120000_2"⟩

theorem emptyStore_loaded :
    emptyStore.initializeConfigs plainFiles serverTypes prettyList = some emptyStore := by
  rfl

theorem firstVersion_apart : emptyStore.Apart plainFiles serverTypes firstVersion := by
  refine ⟨by decide +kernel, ?_, by decide +kernel, by decide +kernel, ?_⟩
  · intro key content known
    exact absurd known (Option.some_ne_none content).symm
  · rintro _ key (rfl | known)
    · exact ⟨by decide +kernel, by decide +kernel⟩
    · exact absurd rfl known

theorem secondVersion_apart {s : ConfigStore String}
    (first : emptyStore.writeConfig plainFiles serverTypes prettyList firstVersion = some s) :
    s.Apart plainFiles serverTypes secondVersion := by
  obtain ⟨configs, list, _⟩ := writeConfig_cases first
  refine ⟨by decide +kernel, ?_, ?_, ?_, ?_⟩
  · intro key content known other
    rw [configs] at known
    have apart : key ≠ firstVersion.key := other
    rw [Function.update_of_ne apart] at known
    exact absurd known (Option.some_ne_none content).symm
  · rw [list]
    decide +kernel
  · rw [list]
    decide +kernel
  · intro new
    rw [configs] at new
    exact absurd new (Option.some_ne_none _)

theorem configs_durable_over_two_versions : ∃ t : ConfigStore String,
    t.configs (1, "a.json") = some "y" ∧
      ∃ r, t.initializeConfigs plainFiles serverTypes prettyList = some r ∧
        r.configs = t.configs := by
  have ran : ((emptyStore.writeConfig plainFiles serverTypes prettyList firstVersion).bind fun s =>
      s.writeConfig plainFiles serverTypes prettyList secondVersion).any
        (fun t => decide (t.configs (1, "a.json") = some "y")) = true := by decide +kernel
  obtain ⟨t, ran, found⟩ := (Option.any_eq_true _ _).mp ran
  obtain ⟨s, first, second⟩ := Option.bind_eq_some_iff.mp ran
  exact ⟨t, of_decide_eq_true found, (configs_durable_while_apart emptyStore_loaded (by rfl)
    (.tail secondVersion (.tail firstVersion .refl firstVersion_apart first)
      (secondVersion_apart first) second)).1⟩

/-- Two types without a name of their own share a file. -/
theorem config_lost_under_default : ¬ ∀ s t : ConfigStore String,
    emptyStore.initializeConfigs plainFiles serverTypes prettyList = some s →
    Reach (writeConfig plainFiles serverTypes prettyList) always s t →
    ∃ r, t.initializeConfigs plainFiles serverTypes prettyList = some r ∧
      r.configs = t.configs := by
  intro all
  obtain ⟨t, ran⟩ : ∃ t, ((emptyStore.writeConfig plainFiles serverTypes prettyList
      ⟨100, "a.json", "x", "2015-06-01 120000_1"⟩).bind fun s =>
        s.writeConfig plainFiles serverTypes prettyList
          ⟨101, "a.json", "y", "2015-06-01 120000_2"⟩) = some t :=
    Option.isSome_iff_exists.mp (by decide +kernel)
  obtain ⟨s, first, second⟩ := Option.bind_eq_some_iff.mp ran
  obtain ⟨r, loaded, same⟩ := all emptyStore t emptyStore_loaded
    (.tail _ (.tail _ .refl trivial first) trivial second)
  obtain ⟨configs, list, _⟩ := writeConfig_cases first
  have memory : t.configs (100, "a.json") = some "x" := by
    rw [(writeConfig_cases second).1, configs]
    rfl
  have array := writeConfig_array second
    (writeConfig_array first (by rfl) (by decide +kernel) (by decide +kernel))
    (by rw [list]; decide +kernel) (by rw [list]; decide +kernel)
  have file := writeConfig_readFile second (by rw [list]; decide +kernel)
    (by rw [list]; decide +kernel)
  obtain ⟨files, path⟩ := loaded_frame loaded
  have kept : plainFiles.toAbsolutePath t.listFile = t.listFile := by
    rw [(writeConfig_cases second).2.1, list]
    rfl
  have reread (path : String) : r.readFile plainFiles path = t.readFile plainFiles path :=
    congrFun files _
  have held := (durable_of_loaded loaded (by rw [reread, path, kept]; exact array)).files
    (100, "a.json") "x" (by rw [same]; exact memory)
  have shared : currentPath plainFiles serverTypes (100, "a.json") =
      currentPath plainFiles serverTypes
        (WriteConfig.key ⟨101, "a.json", "y", "2015-06-01 120000_2"⟩) := by
    decide +kernel
  rw [reread, shared, file] at held
  exact absurd held (by decide)

end ConfigStore

end LaluneServer.Control
