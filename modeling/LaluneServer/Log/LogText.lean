import LaluneServer.Log.LexicalEntries

/- A log line as text: SemanticStream prints the entries it holds, a query prints the
   LogDetail that LogToNet made of them. -/
namespace LaluneServer.Log

variable {Double Data : Type*}

structure SemanticStream (Double : Type*) where
  lexicalEntries : List (LexicalEntry Double) := []
  name : Bytes := []

def SemanticStream.putName (s : SemanticStream Double) (name : Bytes) : SemanticStream Double :=
  { s with name := name }

/-- `<<` of a value, of which PushLogValue makes an entry; a name that waits goes to it. -/
def SemanticStream.put (s : SemanticStream Double) (entry : LexicalEntry Double) :
    SemanticStream Double :=
  if s.name.isEmpty then { s with lexicalEntries := s.lexicalEntries ++ [entry] }
  else { lexicalEntries := s.lexicalEntries ++ [{ entry with name := s.name }], name := [] }

def description (lastEntryHasDescription : Bool) (name : Bytes) : Bytes :=
  (if lastEntryHasDescription then ascii ", ".toList else []) ++ name ++ ascii " = ".toList

def localDump (bytes : Bytes) (bytesLength : Int) : Bytes :=
  (bytes.take bytesLength.toNat).zipIdx.flatMap fun (byte, i) =>
    showByte byte ++ if i % 16 = 15 ∧ (i : Int) ≠ bytesLength - 1 then endl else []

def entryText (showDouble : Double → Bytes) (e : LexicalEntry Double) : Bytes :=
  match e.valueType with
  | .int => showInt e.ivalue.toInt
  | .uint => showNat e.ivalue.toNat
  | .string => e.svalue
  | .uint16DisplayAsHex => showHex (e.ivalue.setWidth 16).toNat
  | .uintDisplayAsHex => showHex e.ivalue.toNat
  | .bytesNoDisplay => bytesLengthText (showInt e.bytesLength.toInt)
  | .bytesDisplayAsHex =>
    bytesLengthText (showInt e.bytesLength.toInt) ++ endl ++ localDump e.bytes e.bytesLength.toInt
  | .double => showDouble e.dvalue
  | .wstring => []
  | .undefined => []

def entriesText (showDouble : Double → Bytes) : Bool → List (LexicalEntry Double) → Bytes
  | _, [] => []
  | lastEntryHasDescription, e :: es =>
    (if e.hasName then description lastEntryHasDescription e.name else []) ++
      entryText showDouble e ++ entriesText showDouble e.hasName es

def SemanticStream.toString (showDouble : Double → Bytes) (s : SemanticStream Double) : Bytes :=
  entriesText showDouble false s.lexicalEntries

/-- The body of the loop of LogToNet. -/
def toPb (e : LexicalEntry Double) : PbLexicalEntry Double :=
  let entry : PbLexicalEntry Double :=
    { entryName := if e.hasName then some e.name else none, valueType := e.valueType.number }
  match e.valueType with
  | .int => { entry with i := some e.ivalue }
  | .uint => { entry with u := some e.ivalue }
  | .uintDisplayAsHex => { entry with u := some e.ivalue }
  | .uint16DisplayAsHex => { entry with u := some e.ivalue }
  | .string => { entry with s := some e.svalue }
  | .wstring => { entry with s := some e.svalue }
  | .bytesNoDisplay => { entry with b := some e.bytes }
  | .bytesDisplayAsHex => { entry with b := some e.bytes }
  | .double => { entry with d := some e.dvalue }
  | .undefined => entry

def SemanticStream.logToNet (serialize : LogDetail Double → Data) (s : SemanticStream Double)
    (t : BitVec 64) (index3 index1 index2 : Bytes) : LogEvent Data where
  index1 := if index1.isEmpty then none else some index1
  index2 := if index1.isEmpty then none else some index2
  index3 := index3
  time := t
  data := serialize ⟨s.lexicalEntries.map toPb⟩

def queriedDump (bytes : Bytes) : Bytes :=
  bytes.zipIdx.flatMap fun (byte, i) =>
    showByte byte ++ if i % 16 = 15 ∧ i ≠ bytes.length - 1 then endl else []

section
variable [Zero Double]

def queriedEntryText (showDouble : Double → Bytes) (e : PbLexicalEntry Double) : Bytes :=
  match ValueType.ofNumber e.valueType with
  | some .int => showInt e.getI.toInt
  | some .uint => showNat e.getU.toNat
  | some .string => e.getS
  | some .uint16DisplayAsHex => showHex (e.getU.setWidth 16).toNat
  | some .uintDisplayAsHex => showHex e.getU.toNat
  | some .bytesNoDisplay => bytesLengthText (showNat e.getB.length)
  | some .bytesDisplayAsHex =>
    bytesLengthText (showNat e.getB.length) ++ endl ++ queriedDump e.getB
  | some .double => showDouble e.getD
  | _ => []

def queriedEntriesText (showDouble : Double → Bytes) :
    Bool → List (PbLexicalEntry Double) → Bytes
  | _, [] => []
  | lastEntryHasDescription, e :: es =>
    (if e.hasEntryName then description lastEntryHasDescription e.getEntryName else []) ++
      queriedEntryText showDouble e ++ queriedEntriesText showDouble e.hasEntryName es

/-- The time and the three indices, each in brackets. -/
def eventHeader (showTime : BitVec 64 → Bytes) (event : LogEvent Data) : Bytes :=
  let bracketed := fun (text : Bytes) => ascii ['['] ++ text ++ ascii [']', ' ']
  bracketed (showTime event.time) ++ bracketed (event.index1.getD []) ++
    bracketed (event.index2.getD []) ++ bracketed event.index3

/-- AsStringResultHandler::ToString; the parser fills the detail also where it fails. -/
def queriedText (parse : Data → Bool × LogDetail Double) (showTime : BitVec 64 → Bytes)
    (showDouble : Double → Bytes) (event : LogEvent Data) : Bytes :=
  let (parsed, detail) := parse event.data
  eventHeader showTime event ++ (if parsed then [] else ascii "\x7b data corrupt \x7d".toList) ++
    queriedEntriesText showDouble false detail.entry

end

theorem put_named (s : SemanticStream Double) (waits : s.name = []) (e : LexicalEntry Double) :
    (s.putName e.name).put e = { s with lexicalEntries := s.lexicalEntries ++ [e] } := by
  unfold SemanticStream.put SemanticStream.putName
  by_cases empty : e.name.isEmpty = true
  · rw [if_pos empty, waits, List.isEmpty_iff.mp empty]
  · rw [if_neg empty, waits]

theorem stream_holds_any (entries : List (LexicalEntry Double)) (s : SemanticStream Double)
    (waits : s.name = []) : entries.foldl (fun s e => (s.putName e.name).put e) s =
      { s with lexicalEntries := s.lexicalEntries ++ entries } := by
  induction entries generalizing s with
  | nil => simp
  | cons e es ih =>
    rw [List.foldl_cons, put_named s waits, ih ⟨s.lexicalEntries ++ [e], s.name⟩ waits,
      List.append_assoc, List.singleton_append]

section
variable (showDouble : Double → Bytes)

theorem hasEntryName_toPb (e : LexicalEntry Double) : (toPb e).entryName =
    if e.hasName then some e.name else none := by
  cases kind : e.valueType <;> simp only [toPb, kind]

theorem valueType_toPb (e : LexicalEntry Double) : (toPb e).valueType = e.valueType.number := by
  cases kind : e.valueType <;> simp only [toPb, kind]

theorem showInt_natCast (n : Nat) : showInt n = showNat n := by
  unfold showInt showNat
  rw [if_neg (by omega), Int.natAbs_natCast]

theorem localDump_eq (bytes : Bytes) : localDump bytes bytes.length = queriedDump bytes := by
  unfold localDump queriedDump
  rw [Int.toNat_natCast, List.take_length]
  rw [List.flatMap_def, List.flatMap_def]
  congr 1
  apply List.map_congr_left
  rintro ⟨byte, i⟩ member
  have inside := List.snd_lt_of_mem_zipIdx member
  have last : ((i : Int) ≠ (bytes.length : Int) - 1) ↔ i ≠ bytes.length - 1 := by omega
  simp only [last]

variable [Zero Double]

theorem queriedEntryText_toPb (e : LexicalEntry Double) :
    queriedEntryText showDouble (toPb e) = entryText showDouble e := by
  unfold queriedEntryText entryText
  rw [valueType_toPb, ValueType.ofNumber_number, e.length_eq]
  cases kind : e.valueType <;>
    simp [toPb, kind, PbLexicalEntry.getI, PbLexicalEntry.getU, PbLexicalEntry.getS,
      PbLexicalEntry.getB, PbLexicalEntry.getD, showInt_natCast, localDump_eq]

/-- The separators depend on the names alone, which LogToNet keeps. -/
theorem queriedEntriesText_toPb (last : Bool) (entries : List (LexicalEntry Double)) :
    queriedEntriesText showDouble last (entries.map toPb) = entriesText showDouble last entries := by
  induction entries generalizing last with
  | nil => rfl
  | cons e es ih =>
    have named : (toPb e).hasEntryName = e.hasName := by
      rw [PbLexicalEntry.hasEntryName, hasEntryName_toPb]
      split <;> simp_all
    have same : e.hasName = true → (toPb e).getEntryName = e.name := by
      intro has
      rw [PbLexicalEntry.getEntryName, hasEntryName_toPb, if_pos has]
      rfl
    rw [List.map_cons, queriedEntriesText, entriesText, named, ih, queriedEntryText_toPb]
    split
    · rename_i has
      rw [same has]
    · rfl

/-- A queried line is the header and the text that the stream itself prints. -/
theorem queried_text_is_local_text (serialize : LogDetail Double → Data)
    (parse : Data → Bool × LogDetail Double) (showTime : BitVec 64 → Bytes)
    (parses : ∀ detail, parse (serialize detail) = (true, detail)) (s : SemanticStream Double)
    (t : BitVec 64) (index3 index1 index2 : Bytes) :
    queriedText parse showTime showDouble (s.logToNet serialize t index3 index1 index2) =
      eventHeader showTime (s.logToNet serialize t index3 index1 index2) ++
        s.toString showDouble := by
  unfold queriedText SemanticStream.toString
  have detail : parse (s.logToNet serialize t index3 index1 index2).data =
      (true, ⟨s.lexicalEntries.map toPb⟩) := parses _
  rw [detail]
  simp only [↓reduceIte, List.append_nil]
  rw [queriedEntriesText_toPb]

end

def uidAndKey : SemanticStream Nat where
  lexicalEntries :=
    [{ name := ascii "uid".toList, valueType := .int, ivalue := 7, bytes := [], bytesLength := 0,
       dvalue := 0, svalue := [], length_eq := rfl },
     { name := ascii "key".toList, valueType := .bytesDisplayAsHex, ivalue := 0,
       bytes := List.replicate 17 0, bytesLength := 17, dvalue := 0, svalue := [],
       length_eq := by decide }]

theorem uidAndKey_queried :
    queriedText (fun detail => (true, detail)) (fun _ => []) showNat
        (uidAndKey.logToNet id 0 [] [] []) =
      eventHeader (fun _ => []) (uidAndKey.logToNet id 0 [] [] []) ++ uidAndKey.toString showNat :=
  queried_text_is_local_text showNat id _ _ (fun _ => rfl) uidAndKey 0 [] [] []

end LaluneServer.Log
