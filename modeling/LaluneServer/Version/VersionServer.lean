import Mathlib.Data.List.Basic
import Std.Data.TreeMap.Lemmas

/- VersionServer: the table of upgrades, which a refreshed configuration extends, and the
   answer to a client that asks for the upgrades of its version. Boost's JSON reader is a
   parameter. Not modelled: the log, and the frames around requests and answers. -/
namespace LaluneServer.Version

open Std (TreeMap)

structure VersionIformation where
  filePath : List String
  fileUrl : List String
  nowVersion : String
  nextVersion : String
  deriving DecidableEq, Repr

/-- What follows the last '|' is left out. -/
def splitParts : List Char → String → List String
  | [], _ => []
  | c :: rest, part =>
    if c = '|' then part :: splitParts rest "" else splitParts rest (part.push c)

def getVerctor (str : String) : List String := splitParts str.toList ""

inductive PTree
  | node (data : String) (children : List (String × PTree))

namespace PTree

def data : PTree → String
  | node data _ => data

def children : PTree → List (String × PTree)
  | node _ children => children

/-- `get_child`, for a path of one key; `none` is ptree_bad_path. -/
def getChild (pt : PTree) (key : String) : Option PTree :=
  (pt.children.find? fun child => child.1 = key).map Prod.snd

def getString (pt : PTree) (key : String) : Option String := (pt.getChild key).map data

end PTree

def readEntry (v : PTree) : Option VersionIformation :=
  (v.getString "now_ve").bind fun nowVersion =>
  (v.getString "next_ve").bind fun nextVersion =>
  (v.getString "path").bind fun path =>
  (v.getString "url").map fun url =>
    { filePath := getVerctor path
      fileUrl := getVerctor url
      nowVersion := nowVersion
      nextVersion := nextVersion }

inductive Outcome
  | returned
  | thrown
  deriving DecidableEq, Repr

section refresh
variable (readJson : String → Option PTree)

/-- BOOST_FOREACH over the entries; an exception leaves those pushed before it. -/
def pushEntries : List VersionIformation → List (String × PTree) →
    List VersionIformation × Outcome
  | versionInfor, [] => (versionInfor, .returned)
  | versionInfor, v :: rest =>
    match readEntry v.2 with
    | none => (versionInfor, .thrown)
    | some versionTemp => pushEntries (versionInfor ++ [versionTemp]) rest

/-- The exceptions of read_json are caught, and the tree stays empty. -/
def readTree (content : String) : PTree := (readJson content).getD (.node "" [])

def onConfigRefresh (versionInfor : List VersionIformation) (content : String) :
    List VersionIformation × Outcome :=
  match (readTree readJson content).getChild "root" with
  | none => (versionInfor, .thrown)
  | some root => pushEntries versionInfor root.children

def refreshFiles : List VersionIformation → List (String × String) →
    List VersionIformation × Outcome
  | versionInfor, [] => (versionInfor, .returned)
  | versionInfor, file :: rest =>
    match onConfigRefresh readJson versionInfor file.2 with
    | (after, .thrown) => (after, .thrown)
    | (after, .returned) => refreshFiles after rest

end refresh

structure CheckVersionResult where
  nowVersion : String
  file : List (String × String)
  deriving DecidableEq, Repr

/-- `map_node[file_path[k]] = file_url[k]`; `none` is a read past the end of `file_url`. -/
def insertFiles (mapNode : TreeMap String String) :
    List String → List String → Option (TreeMap String String)
  | [], _ => some mapNode
  | _ :: _, [] => none
  | path :: paths, url :: urls => insertFiles (mapNode.insert path url) paths urls

def followVersions (nowVersion : String) (mapNode : TreeMap String String) :
    List VersionIformation → Option (String × TreeMap String String)
  | [] => some (nowVersion, mapNode)
  | entry :: rest =>
    if nowVersion = entry.nowVersion then
      (insertFiles mapNode entry.filePath entry.fileUrl).bind fun mapNode =>
        followVersions entry.nextVersion mapNode rest
    else followVersions nowVersion mapNode rest

/-- The answer to MSG_CHECK_VERSION; the files are listed as the map has them. -/
def checkVersion (versionName : String) : List VersionIformation → Option CheckVersionResult
  | [] => some { nowVersion := versionName, file := [] }
  | entry :: rest =>
    if versionName = entry.nowVersion then
      (followVersions versionName ∅ (entry :: rest)).map fun found =>
        { nowVersion := found.1, file := found.2.toList }
    else checkVersion versionName rest

end LaluneServer.Version
