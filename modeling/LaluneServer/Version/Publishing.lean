import LaluneServer.Version.ConfigRefresh
import LaluneServer.Version.UpgradeChain

/- VersionPublisher: the entry that it adds to the configuration of VersionServer, whose files
   are joined with '|' behind each, and what is left of them behind GetVerctor. Boost's JSON
   reader and writer are parameters. Not modelled: the way through ControlServer. -/
namespace LaluneServer.Version

namespace PTree

def changeChild (key : String) (edit : PTree → PTree) :
    List (String × PTree) → List (String × PTree)
  | [] => [(key, edit (.node "" []))]
  | child :: rest =>
    if child.1 = key then (key, edit child.2) :: rest else child :: changeChild key edit rest

def put (pt : PTree) (key value : String) : PTree :=
  .node pt.data (changeChild key (fun child => .node value child.children) pt.children)

def putChild (pt : PTree) (key : String) (value : PTree) : PTree :=
  .node pt.data (changeChild key (fun _ => value) pt.children)

theorem find?_changeChild_self (key : String) (edit : PTree → PTree)
    (children : List (String × PTree)) :
    ∃ old, (changeChild key edit children).find? (fun child => child.1 = key) =
      some (key, edit old) := by
  induction children with
  | nil => exact ⟨.node "" [], by simp [changeChild]⟩
  | cons child rest ih =>
    unfold changeChild
    by_cases same : child.1 = key
    · exact ⟨child.2, by simp [same]⟩
    · obtain ⟨old, found⟩ := ih
      refine ⟨old, ?_⟩
      rw [if_neg same, List.find?_cons_of_neg (by simpa using same), found]

theorem find?_changeChild_other {key other : String} (different : key ≠ other)
    (edit : PTree → PTree) (children : List (String × PTree)) :
    (changeChild key edit children).find? (fun child => child.1 = other) =
      children.find? (fun child => child.1 = other) := by
  induction children with
  | nil => simp [changeChild, different]
  | cons child rest ih =>
    unfold changeChild
    by_cases same : child.1 = key
    · have missed : child.1 ≠ other := same ▸ different
      rw [if_pos same, List.find?_cons_of_neg (by simpa using different),
        List.find?_cons_of_neg (by simpa using missed)]
    · rw [if_neg same, List.find?_cons, List.find?_cons, ih]

theorem getString_put_self (pt : PTree) (key value : String) :
    (pt.put key value).getString key = some value := by
  obtain ⟨old, found⟩ :=
    find?_changeChild_self key (fun child => .node value child.children) pt.children
  have changed : (pt.put key value).children =
      changeChild key (fun child => .node value child.children) pt.children := rfl
  rw [getString, getChild, changed, found]
  rfl

theorem getString_put_other {key other : String} (different : key ≠ other) (pt : PTree)
    (value : String) : (pt.put key value).getString other = pt.getString other := by
  unfold getString getChild
  exact congrArg (fun found => (found.map Prod.snd).map data)
    (find?_changeChild_other different _ pt.children)

theorem getChild_putChild (pt : PTree) (key : String) (value : PTree) :
    (pt.putChild key value).getChild key = some value := by
  obtain ⟨old, found⟩ := find?_changeChild_self key (fun _ => value) pt.children
  have changed : (pt.putChild key value).children =
      changeChild key (fun _ => value) pt.children := rfl
  rw [getChild, changed, found]
  rfl

end PTree

structure Node where
  nowVe : String
  nextVe : String
  path : String
  url : String
  deriving DecidableEq, Repr

def readNode (v : PTree) : Option Node :=
  (v.getString "now_ve").bind fun nowVe =>
  (v.getString "next_ve").bind fun nextVe =>
  (v.getString "path").bind fun path =>
  (v.getString "url").map fun url => { nowVe, nextVe, path, url }

def putNode (tempPt : PTree) (version : Node) : PTree :=
  (((tempPt.put "now_ve" version.nowVe).put "next_ve" version.nextVe).put
    "path" version.path).put "url" version.url

/-- The children of the new root. All are put into one tree, which keeps its keys. -/
def rootEntries (tempPt : PTree) : List Node → List (String × PTree)
  | [] => []
  | version :: rest => ("", putNode tempPt version) :: rootEntries (putNode tempPt version) rest

def joinParts (parts : List String) : String :=
  parts.foldl (fun joined part => joined ++ (part ++ "|")) ""

structure UpdateVersion where
  fileName : List String
  fileUrl : List String
  proVersion : String
  nowVersion : String
  deriving DecidableEq, Repr

/-- What Input reads of a list: the pair of an added file, or the name of a deleted one. -/
def readAdded (v : PTree) : Option (String × String) :=
  (v.getString "name").bind fun name => (v.getString "path").map fun path => (name, path)

def readDeleted (v : PTree) : String × String := (v.data, "")

/-- Input, for the tree of output.json; `none` is an exception. -/
def input (pt : PTree) : Option UpdateVersion :=
  (pt.getString "to").bind fun nowVersion =>
  (pt.getString "from").bind fun proVersion =>
  (pt.getChild "A").bind fun ptAdd =>
  (ptAdd.children.mapM fun v => readAdded v.2).bind fun added =>
  (pt.getChild "D").map fun ptDel =>
    let files := added ++ ptDel.children.map fun v => readDeleted v.2
    { fileName := files.map Prod.fst
      fileUrl := files.map Prod.snd
      proVersion := proVersion
      nowVersion := nowVersion }

/-- SendIformation returns early, is left by an exception, or calls RefreshConfig for
    SERVER_TYPE_VERSION_SERVER. -/
inductive Sent
  | nothing
  | thrown
  | refreshConfig (fileName content : String)
  deriving DecidableEq, Repr

namespace UpdateVersion

def configFileName : String := "version_control.txt"

def node (update : UpdateVersion) : Node where
  nowVe := update.proVersion
  nextVe := update.nowVersion
  path := joinParts update.fileName
  url := joinParts update.fileUrl

/-- No exception of `get_child`, `get` and `write_json` is caught. -/
def sendIformation (readJson : String → Option PTree) (writeJson : PTree → Option String)
    (update : UpdateVersion) (fileInformation : String) : Sent :=
  match readJson fileInformation with
  | none => .nothing
  | some pt =>
    match (pt.getChild "root").bind fun ptRoot => ptRoot.children.mapM fun v => readNode v.2 with
    | none => .thrown
    | some version =>
      match writeJson (pt.putChild "root"
          (.node "" (rootEntries (.node "" []) (version ++ [update.node])))) with
      | none => .thrown
      | some outstr => .refreshConfig configFileName outstr

end UpdateVersion

section joined

theorem toList_joined (parts : List String) (joined : String) :
    (parts.foldl (fun joined part => joined ++ (part ++ "|")) joined).toList =
      joined.toList ++ parts.flatMap fun part => part.toList ++ ['|'] := by
  induction parts generalizing joined with
  | nil => exact (List.append_nil _).symm
  | cons part rest ih =>
    rw [List.foldl_cons, ih, String.toList_append, String.toList_append, List.flatMap_cons,
      List.append_assoc]
    rfl

theorem toList_joinParts (parts : List String) :
    (joinParts parts).toList = parts.flatMap fun part => part.toList ++ ['|'] :=
  toList_joined parts ""

theorem length_splitParts (text : List Char) (part : String) :
    (splitParts text part).length = text.count '|' := by
  induction text generalizing part with
  | nil => rfl
  | cons c rest ih =>
    unfold splitParts
    by_cases bar : c = '|'
    · rw [if_pos bar, List.length_cons, ih, bar, List.count_cons_self]
    · rw [if_neg bar, ih, List.count_cons_of_ne bar]

theorem splitParts_plain {text : List Char} (plain : '|' ∉ text) (rest : List Char)
    (part : String) :
    splitParts (text ++ '|' :: rest) part =
      String.ofList (part.toList ++ text) :: splitParts rest "" := by
  induction text generalizing part with
  | nil => rw [List.nil_append, List.append_nil, splitParts, if_pos rfl, String.ofList_toList]
  | cons c text ih =>
    have other : c ≠ '|' := fun bar => plain (bar ▸ List.mem_cons_self)
    rw [List.cons_append, splitParts, if_neg other,
      ih (fun inside => plain (List.mem_cons_of_mem c inside)), String.toList_push,
      List.append_assoc]
    rfl

theorem getVerctor_joinParts {parts : List String}
    (plain : ∀ part ∈ parts, '|' ∉ part.toList) : getVerctor (joinParts parts) = parts := by
  unfold getVerctor
  rw [toList_joinParts]
  induction parts with
  | nil => rfl
  | cons part rest ih =>
    rw [List.flatMap_cons, List.append_assoc, List.singleton_append,
      splitParts_plain (plain part List.mem_cons_self),
      ih fun other later => plain other (List.mem_cons_of_mem part later)]
    rw [String.toList_empty, List.nil_append, String.ofList_toList]

theorem length_getVerctor_joinParts (parts : List String) :
    (getVerctor (joinParts parts)).length =
      parts.length + (parts.flatMap String.toList).count '|' := by
  unfold getVerctor
  rw [length_splitParts, toList_joinParts]
  induction parts with
  | nil => rfl
  | cons part rest ih =>
    rw [List.flatMap_cons, List.count_append, List.count_append, ih, List.flatMap_cons,
      List.count_append, List.length_cons]
    have one : List.count '|' ['|'] = 1 := rfl
    omega

theorem getVerctor_joinParts_iff (parts : List String) :
    getVerctor (joinParts parts) = parts ↔ ∀ part ∈ parts, '|' ∉ part.toList := by
  constructor
  · intro same part member inside
    have length := length_getVerctor_joinParts parts
    rw [same] at length
    have none : (parts.flatMap String.toList).count '|' = 0 := by omega
    exact List.count_eq_zero.mp none (List.mem_flatMap.mpr ⟨part, member, inside⟩)
  · exact getVerctor_joinParts

end joined

section entries

def Node.versionIformation (version : Node) : VersionIformation where
  filePath := getVerctor version.path
  fileUrl := getVerctor version.url
  nowVersion := version.nowVe
  nextVersion := version.nextVe

theorem readEntry_eq (v : PTree) : readEntry v = (readNode v).map Node.versionIformation := by
  unfold readEntry readNode
  cases v.getString "now_ve" with
  | none => rfl
  | some nowVe =>
    cases v.getString "next_ve" with
    | none => rfl
    | some nextVe =>
      cases v.getString "path" with
      | none => rfl
      | some path => cases v.getString "url" <;> rfl

theorem readNode_putNode (tempPt : PTree) (version : Node) :
    readNode (putNode tempPt version) = some version := by
  unfold readNode putNode
  rw [PTree.getString_put_other (by decide), PTree.getString_put_other (by decide),
    PTree.getString_put_other (by decide), PTree.getString_put_self,
    PTree.getString_put_other (by decide), PTree.getString_put_other (by decide),
    PTree.getString_put_self, PTree.getString_put_other (by decide), PTree.getString_put_self,
    PTree.getString_put_self]
  rfl

theorem readEntries_rootEntries (tempPt : PTree) (version : List Node) :
    (rootEntries tempPt version).mapM (fun v => readEntry v.2) =
      some (version.map Node.versionIformation) := by
  induction version generalizing tempPt with
  | nil => rfl
  | cons first rest ih =>
    rw [rootEntries, List.mapM_cons, readEntry_eq, readNode_putNode, ih]
    rfl

theorem readEntries_of_readNodes {children : List (String × PTree)} {version : List Node}
    (read : children.mapM (fun v => readNode v.2) = some version) :
    children.mapM (fun v => readEntry v.2) = some (version.map Node.versionIformation) := by
  induction children generalizing version with
  | nil =>
    cases read
    rfl
  | cons v rest ih =>
    obtain ⟨first, others, readFirst, readRest, rfl⟩ := mapM_cons_eq_some read
    rw [List.mapM_cons, readEntry_eq, readFirst, ih readRest]
    rfl

theorem input_urls_fit {pt : PTree} {update : UpdateVersion} (collected : input pt = some update) :
    update.fileName.length = update.fileUrl.length := by
  unfold input at collected
  simp only [Option.bind_eq_some_iff, Option.map_eq_some_iff] at collected
  obtain ⟨_, _, _, _, _, _, _, _, _, _, rfl⟩ := collected
  rw [List.length_map, List.length_map]

end entries

section published
variable {readJson : String → Option PTree} {writeJson : PTree → Option String}
  {update : UpdateVersion} {fileInformation outstr : String}

theorem described_sendIformation
    (roundTrip : ∀ tree text, writeJson tree = some text → readJson text = some tree)
    {fileName : String} (sent : update.sendIformation readJson writeJson fileInformation =
      .refreshConfig fileName outstr) :
    ∃ before, described readJson fileInformation = some before ∧
      described readJson outstr = some (before ++ [update.node.versionIformation]) := by
  unfold UpdateVersion.sendIformation at sent
  split at sent
  · contradiction
  · rename_i pt parsed
    split at sent
    · contradiction
    · rename_i version read
      split at sent
      · contradiction
      · rename_i text written
        cases sent
        obtain ⟨ptRoot, present, complete⟩ := Option.bind_eq_some_iff.mp read
        refine ⟨version.map Node.versionIformation, ?_, ?_⟩
        · rw [described, parsed, Option.bind_some, present, Option.bind_some]
          exact readEntries_of_readNodes complete
        · rw [described, roundTrip _ _ written, Option.bind_some, PTree.getChild_putChild,
            Option.bind_some]
          rw [show [update.node.versionIformation] = [update.node].map _ from rfl,
            ← List.map_append]
          exact readEntries_rootEntries _ _

theorem checkVersion_ne_none_iff (table : List VersionIformation) (version : String) :
    checkVersion version table ≠ none ↔ ∀ entry ∈ Chains.singlePass
      VersionIformation.nowVersion VersionIformation.nextVersion table version,
      entry.UrlsFit := by
  rw [checkVersion_eq]
  split
  · rename_i fit
    exact ⟨fun _ => fit, fun _ => Option.some_ne_none _⟩
  · rename_i beyond
    exact ⟨fun inside => absurd rfl inside, fun fit => absurd fit beyond⟩

/-- While no name and no url has a '|', publishing what Input collects keeps CheckVersion inside
    the urls of all entries. -/
theorem checkVersion_inside_after_publishing
    (roundTrip : ∀ tree text, writeJson tree = some text → readJson text = some tree)
    {pt : PTree} (collected : input pt = some update)
    (plain : ∀ part ∈ update.fileName ++ update.fileUrl, '|' ∉ part.toList)
    {before versionInfor : List VersionIformation}
    (old : described readJson fileInformation = some before)
    (fit : ∀ entry ∈ versionInfor ++ before, entry.UrlsFit)
    {fileName : String} (sent : update.sendIformation readJson writeJson fileInformation =
      .refreshConfig fileName outstr) (version : String) :
    checkVersion version (onConfigRefresh readJson versionInfor outstr).1 ≠ none := by
  obtain ⟨read, sameRead, new⟩ := described_sendIformation roundTrip sent
  obtain rfl : before = read := Option.some.inj (old.symm.trans sameRead)
  have names := (List.forall_mem_append.mp plain).1
  have urls := (List.forall_mem_append.mp plain).2
  have lengths : update.node.versionIformation.UrlsFit := by
    change (getVerctor (joinParts update.fileName)).length ≤
      (getVerctor (joinParts update.fileUrl)).length
    rw [getVerctor_joinParts names, getVerctor_joinParts urls, input_urls_fit collected]
  rw [refresh_described new, checkVersion_ne_none_iff]
  intro entry used
  have member := (Chains.singlePass_sublist _ _).subset used
  rw [← List.append_assoc] at member
  rcases List.mem_append.mp member with known | added
  · exact fit entry known
  · rw [List.mem_singleton.mp added]
    exact lengths

/-- VersionServer builds the published lists exactly when no name and no url has a '|', and
    CheckVersion reads inside `file_url` exactly when each entry that it goes through has a url
    for each path. -/
theorem published_lists_survive_iff (readJson : String → Option PTree)
    (writeJson : PTree → Option String)
    (roundTrip : ∀ tree text, writeJson tree = some text → readJson text = some tree) :
    (∀ (update : UpdateVersion) (fileInformation fileName outstr : String)
      (versionInfor : List VersionIformation),
      update.sendIformation readJson writeJson fileInformation = .refreshConfig fileName outstr →
      ∃ before entry, described readJson fileInformation = some before ∧
        onConfigRefresh readJson versionInfor outstr =
          (versionInfor ++ (before ++ [entry]), .returned) ∧
        entry.nowVersion = update.proVersion ∧ entry.nextVersion = update.nowVersion ∧
        (entry.filePath = update.fileName ∧ entry.fileUrl = update.fileUrl ↔
          ∀ part ∈ update.fileName ++ update.fileUrl, '|' ∉ part.toList)) ∧
    ∀ (versionInfor : List VersionIformation) (content version : String),
      let table := (onConfigRefresh readJson versionInfor content).1
      checkVersion version table ≠ none ↔ ∀ entry ∈ Chains.singlePass
        VersionIformation.nowVersion VersionIformation.nextVersion table version,
        entry.UrlsFit := by
  refine ⟨?_, ?_⟩
  · intro update fileInformation fileName outstr versionInfor sent
    obtain ⟨before, old, new⟩ := described_sendIformation roundTrip sent
    refine ⟨before, update.node.versionIformation, old, refresh_described new versionInfor, rfl,
      rfl, ?_⟩
    rw [List.forall_mem_append, ← getVerctor_joinParts_iff, ← getVerctor_joinParts_iff]
    rfl
  · intro versionInfor content version table
    exact checkVersion_ne_none_iff table version

end published

section examples

def noVersions : String := "\x7b\"root\":[]\x7d"

def oneVersion (path url : String) : String :=
  "\x7b\n    \"root\": [\n        \x7b\n" ++
    "            \"now_ve\": \"1.0\",\n            \"next_ve\": \"1.1\",\n" ++
    "            \"path\": \"" ++ path ++ "\",\n            \"url\": \"" ++ url ++
    "\"\n        \x7d\n    ]\n\x7d\n"

def oneVersionTree (path url : String) : PTree :=
  .node "" [("root", .node "" [("", .node "" [("now_ve", .node "1.0" []),
    ("next_ve", .node "1.1" []), ("path", .node path []), ("url", .node url [])])])]

def readOneVersion (path url content : String) : Option PTree :=
  if content = oneVersion path url then some (oneVersionTree path url)
  else if content = noVersions then some (.node "" [("root", .node "" [])])
  else none

def writeOneVersion (path url : String) : PTree → Option String
  | .node "" [("root", .node "" [("", .node "" [("now_ve", .node "1.0" []),
      ("next_ve", .node "1.1" []), ("path", .node putPath []), ("url", .node putUrl [])])])] =>
    if putPath = path ∧ putUrl = url then some (oneVersion path url) else none
  | _ => none

theorem read_writeOneVersion (path url : String) (tree : PTree) (text : String)
    (written : writeOneVersion path url tree = some text) :
    readOneVersion path url text = some tree := by
  unfold writeOneVersion at written
  split at written
  · split at written
    · rename_i same
      obtain ⟨rfl, rfl⟩ := same
      cases written
      exact if_pos rfl
    · contradiction
  · contradiction

def nextUpdate (fileName fileUrl : List String) : UpdateVersion where
  fileName := fileName
  fileUrl := fileUrl
  proVersion := "1.0"
  nowVersion := "1.1"

theorem published_file_survives : ∃ entry,
    onConfigRefresh (readOneVersion "a|" "b|") [] (oneVersion "a|" "b|") = ([entry], .returned) ∧
      entry.filePath = ["a"] ∧ entry.fileUrl = ["b"] := by
  have survives := (published_lists_survive_iff (readOneVersion "a|" "b|")
    (writeOneVersion "a|" "b|") (read_writeOneVersion "a|" "b|")).1
  obtain ⟨before, entry, old, after, _, _, same⟩ :=
    survives (nextUpdate ["a"] ["b"]) noVersions "version_control.txt" (oneVersion "a|" "b|") []
      (by decide +kernel)
  have empty : described (readOneVersion "a|" "b|") noVersions = some [] := by decide +kernel
  obtain rfl : [] = before := Option.some.inj (empty.symm.trans old)
  exact ⟨entry, after, same.mpr (by decide)⟩

/-- A '|' in a name makes two paths of it, and the second one has no url. -/
theorem bar_in_a_name_is_split :
    (∀ tree text, writeOneVersion "a|b|" "|" tree = some text →
      readOneVersion "a|b|" "|" text = some tree) ∧
    (nextUpdate ["a|b"] [""]).sendIformation (readOneVersion "a|b|" "|")
      (writeOneVersion "a|b|" "|") noVersions =
        .refreshConfig "version_control.txt" (oneVersion "a|b|" "|") ∧
    onConfigRefresh (readOneVersion "a|b|" "|") [] (oneVersion "a|b|" "|") =
      ([{ filePath := ["a", "b"], fileUrl := [""], nowVersion := "1.0", nextVersion := "1.1" }],
        .returned) ∧
    checkVersion "1.0"
      (onConfigRefresh (readOneVersion "a|b|" "|") [] (oneVersion "a|b|" "|")).1 = none := by
  refine ⟨read_writeOneVersion _ _, ?_, ?_, ?_⟩
  · decide +kernel
  · decide +kernel
  · decide +kernel

end examples

end LaluneServer.Version
