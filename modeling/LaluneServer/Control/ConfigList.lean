import LaluneServer.Control.Config
import LaluneServer.Lib.JsonText

/- The list of the configs as PrettyWriter writes it, and a reader for such texts. -/
namespace LaluneServer.Control
open JsonText

structure ListedConfig where
  serverType : Int
  serverTypeName : String
  fileName : String
  deriving DecidableEq, Repr

def writeItem (item : ListedConfig) : List Char :=
  "    \x7b\n        \"server_type\": ".toList ++ (writeInt item.serverType ++
    (",\n        \"server_type_name\": \"".toList ++ (writeString item.serverTypeName.toList ++
      (",\n        \"file_name\": \"".toList ++ (writeString item.fileName.toList ++
        "\n    \x7d".toList)))))

def readItem (text : List Char) : Option (ListedConfig × List Char) :=
  (expect "    \x7b\n        \"server_type\": ".toList text).bind fun text =>
    let serverType := readInt text
    (expect ",\n        \"server_type_name\": \"".toList serverType.2).bind fun text =>
      (readString text).bind fun name =>
        (expect ",\n        \"file_name\": \"".toList name.2).bind fun text =>
          (readString text).bind fun file =>
            (expect "\n    \x7d".toList file.2).map fun rest =>
              (⟨serverType.1, String.ofList name.1, String.ofList file.1⟩, rest)

def writeItems : List ListedConfig → List Char
  | [] => "\n]".toList
  | item :: rest => ",\n".toList ++ (writeItem item ++ writeItems rest)

def readItems : Nat → List Char → Option (List ListedConfig)
  | 0, _ => none
  | fuel + 1, text =>
    match expect "\n]".toList text with
    | some [] => some []
    | _ => (expect ",\n".toList text).bind fun text => (readItem text).bind fun read =>
        (readItems fuel read.2).map fun items => read.1 :: items

def writeList : List ListedConfig → List Char
  | [] => "[]".toList
  | item :: rest => "[\n".toList ++ (writeItem item ++ writeItems rest)

def readList (text : List Char) : Option (List ListedConfig) :=
  match expect "[]".toList text with
  | some [] => some []
  | _ => (expect "[\n".toList text).bind fun text => (readItem text).bind fun read =>
      (readItems text.length read.2).map fun items => read.1 :: items

theorem readItem_writeItem (item : ListedConfig) (rest : List Char) :
    readItem (writeItem item ++ rest) = some (item, rest) := by
  unfold readItem writeItem
  simp only [List.append_assoc, expect_append, Option.bind_some]
  rw [readInt_writeInt item.serverType (by simp)]
  simp only [expect_append, Option.bind_some, readString_writeString, Option.map_some,
    String.ofList_toList]

theorem readItems_writeItems (items : List ListedConfig) {fuel : Nat}
    (enough : items.length < fuel) : readItems fuel (writeItems items) = some items := by
  induction items generalizing fuel with
  | nil =>
    obtain ⟨fuel, rfl⟩ := Nat.exists_eq_succ_of_ne_zero (Nat.ne_of_gt enough)
    rfl
  | cons item rest ih =>
    obtain ⟨fuel, rfl⟩ := Nat.exists_eq_succ_of_ne_zero (Nat.ne_of_gt (Nat.zero_lt_of_lt enough))
    have later := ih (Nat.lt_of_succ_lt_succ enough)
    have more : expect "\n]".toList (writeItems (item :: rest)) = none := by
      simp [writeItems, expect]
    rw [readItems, more]
    simp only [writeItems, expect_append, Option.bind_some, readItem_writeItem, later,
      Option.map_some]

theorem length_writeItems (items : List ListedConfig) :
    items.length < (writeItems items).length := by
  induction items with
  | nil => decide
  | cons item rest ih =>
    have comma : ",\n".toList.length = 2 := by decide
    simp only [writeItems, List.length_append, List.length_cons]
    omega

theorem readList_writeList (items : List ListedConfig) :
    readList (writeList items) = some items := by
  cases items with
  | nil => rfl
  | cons item rest =>
    have more : expect "[]".toList (writeList (item :: rest)) = none := by
      simp [writeList, expect]
    have enough : rest.length < (writeItem item ++ writeItems rest).length := by
      have := length_writeItems rest
      rw [List.length_append]
      omega
    unfold readList
    rw [more]
    simp only [writeList, expect_append, Option.bind_some, readItem_writeItem,
      readItems_writeItems rest enough, Option.map_some]

def prettyList : JsonList ListedConfig where
  parse text := readList text.toList
  print items := String.ofList (writeList items)
  object serverType name file := ⟨serverType, name, file⟩
  serverType item := some item.serverType
  fileName item := some item.fileName
  parse_print items := by
    rw [String.toList_ofList]
    exact readList_writeList items
  serverType_object _ _ _ := rfl
  fileName_object _ _ _ := rfl

end LaluneServer.Control
