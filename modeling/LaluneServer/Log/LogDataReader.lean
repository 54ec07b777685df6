import LaluneServer.Log.LexicalEntries

/- LogDataReader: the entries of a serialized LogDetail by their index or by their name.
   An index is in range; the pointers of name_map are the entries they point to. -/
namespace LaluneServer.Log

variable {Double Data : Type*}

structure LogDataReader (Double : Type*) where
  detail : LogDetail Double := {}
  nameMap : List (Bytes × PbLexicalEntry Double) := []

def findEntry (nameMap : List (Bytes × PbLexicalEntry Double)) (name : Bytes) :
    Option (PbLexicalEntry Double) :=
  (nameMap.find? fun entry => entry.1 = name).map Prod.snd

/-- `insert` of a std::map, which leaves a key that is there. -/
def insertEntry (nameMap : List (Bytes × PbLexicalEntry Double)) (name : Bytes)
    (entry : PbLexicalEntry Double) : List (Bytes × PbLexicalEntry Double) :=
  match findEntry nameMap name with
  | some _ => nameMap
  | none => nameMap ++ [(name, entry)]

def indexNames (entries : List (PbLexicalEntry Double)) : List (Bytes × PbLexicalEntry Double) :=
  entries.foldl (fun nameMap entry =>
    match entry.entryName with
    | some name => insertEntry nameMap name entry
    | none => nameMap) []

def newReader (parse : Data → Bool × LogDetail Double) (data : Data)
    (enableFindByName : Bool := true) : LogDataReader Double :=
  let (parsed, detail) := parse data
  { detail, nameMap := if parsed ∧ enableFindByName then indexNames detail.entry else [] }

def entryToInt (e : PbLexicalEntry Double) (notIntegerType : Bool) : BitVec 64 × Bool :=
  match ValueType.ofNumber e.valueType with
  | some .int => (e.getI, notIntegerType)
  | some .uint => (e.getU, notIntegerType)
  | some .uint16DisplayAsHex => (e.getU, notIntegerType)
  | some .uintDisplayAsHex => (e.getU, notIntegerType)
  | _ => (0, true)

def entryToStr (e : PbLexicalEntry Double) (notStringType : Bool) : Bytes × Bool :=
  match ValueType.ofNumber e.valueType with
  | some .string => (e.getS, notStringType)
  | some .bytesNoDisplay => (e.getB, notStringType)
  | some .bytesDisplayAsHex => (e.getB, notStringType)
  | _ => (e.getS, true)

section
variable [Zero Double]

def entryConvertToStr (showDouble : Double → Bytes) (e : PbLexicalEntry Double) : Bytes :=
  match ValueType.ofNumber e.valueType with
  | some .int => showInt e.getI.toInt
  | some .uint => showNat e.getU.toNat
  | some .string => e.getS
  | some .uint16DisplayAsHex => showHex (e.getU.setWidth 16).toNat
  | some .uintDisplayAsHex => showHex e.getU.toNat
  | some .bytesNoDisplay => e.getB
  | some .bytesDisplayAsHex => e.getB
  | some .double => showDouble e.getD
  | _ => []

end

namespace LogDataReader

variable (r : LogDataReader Double)

abbrev Index : Type := Fin r.detail.entry.length

def entry (index : r.Index) : PbLexicalEntry Double := r.detail.entry[index]

def entriesCount : Nat := r.detail.entry.length

def byName {α : Type*} (name : Bytes) (read : PbLexicalEntry Double → α) (defaultValue : α) : α :=
  match findEntry r.nameMap name with
  | some e => read e
  | none => defaultValue

def getType (index : r.Index) : BitVec 32 := (r.entry index).valueType
def getTypeByName (name : Bytes) (defaultValue : BitVec 32 := ValueType.undefined.number) :
    BitVec 32 := r.byName name PbLexicalEntry.valueType defaultValue

def contains (name : Bytes) : Bool := (findEntry r.nameMap name).isSome
def hasName (index : r.Index) : Bool := (r.entry index).hasEntryName
def getName (index : r.Index) : Bytes := (r.entry index).getEntryName

def getInt (index : r.Index) : BitVec 64 := (r.entry index).getI
def getIntByName (name : Bytes) (defaultValue : BitVec 64 := 0) : BitVec 64 :=
  r.byName name PbLexicalEntry.getI defaultValue

def getUInt (index : r.Index) : BitVec 64 := (r.entry index).getU
def getUIntByName (name : Bytes) (defaultValue : BitVec 64 := 0) : BitVec 64 :=
  r.byName name PbLexicalEntry.getU defaultValue

def toInt (index : r.Index) (notIntegerType : Bool) : BitVec 64 × Bool :=
  entryToInt (r.entry index) notIntegerType
def toIntByName (name : Bytes) (notIntegerType : Bool) (defaultValue : BitVec 64 := 0) :
    BitVec 64 × Bool :=
  r.byName name (fun e => entryToInt e notIntegerType) (defaultValue, notIntegerType)

def getStr (index : r.Index) : Bytes := (r.entry index).getS
def getStrByName (name : Bytes) (defaultValue : Bytes := []) : Bytes :=
  r.byName name PbLexicalEntry.getS defaultValue

def getBytes (index : r.Index) : Bytes := (r.entry index).getB
def getBytesByName (name : Bytes) (defaultValue : Bytes := []) : Bytes :=
  r.byName name PbLexicalEntry.getB defaultValue

def toStr (index : r.Index) (notStringType : Bool) : Bytes × Bool :=
  entryToStr (r.entry index) notStringType
def toStrByName (name : Bytes) (notStringType : Bool) (defaultValue : Bytes := []) :
    Bytes × Bool :=
  r.byName name (fun e => entryToStr e notStringType) (defaultValue, notStringType)

section
variable [Zero Double]

def convertToStr (showDouble : Double → Bytes) (index : r.Index) : Bytes :=
  entryConvertToStr showDouble (r.entry index)
def convertToStrByName (showDouble : Double → Bytes) (name : Bytes) (defaultValue : Bytes := []) :
    Bytes := r.byName name (entryConvertToStr showDouble) defaultValue

def getDouble (index : r.Index) : Double := (r.entry index).getD
def getDoubleByName (name : Bytes) (defaultValue : Double := 0) : Double :=
  r.byName name (fun e => e.getD) defaultValue

structure ReadsAt (showDouble : Double → Bytes) (name : Bytes) (index : r.Index) : Prop where
  type : ∀ defaultValue, r.getTypeByName name defaultValue = r.getType index
  contains : r.contains name = true
  int : ∀ defaultValue, r.getIntByName name defaultValue = r.getInt index
  uint : ∀ defaultValue, r.getUIntByName name defaultValue = r.getUInt index
  toInt : ∀ flag defaultValue, r.toIntByName name flag defaultValue = r.toInt index flag
  converted : ∀ defaultValue,
    r.convertToStrByName showDouble name defaultValue = r.convertToStr showDouble index
  str : ∀ defaultValue, r.getStrByName name defaultValue = r.getStr index
  bytes : ∀ defaultValue, r.getBytesByName name defaultValue = r.getBytes index
  toStr : ∀ flag defaultValue, r.toStrByName name flag defaultValue = r.toStr index flag
  double : ∀ defaultValue, r.getDoubleByName name defaultValue = r.getDouble index

structure ReadsDefault (showDouble : Double → Bytes) (name : Bytes) : Prop where
  type : ∀ defaultValue, r.getTypeByName name defaultValue = defaultValue
  contains : r.contains name = false
  int : ∀ defaultValue, r.getIntByName name defaultValue = defaultValue
  uint : ∀ defaultValue, r.getUIntByName name defaultValue = defaultValue
  toInt : ∀ flag defaultValue, r.toIntByName name flag defaultValue = (defaultValue, flag)
  converted : ∀ defaultValue, r.convertToStrByName showDouble name defaultValue = defaultValue
  str : ∀ defaultValue, r.getStrByName name defaultValue = defaultValue
  bytes : ∀ defaultValue, r.getBytesByName name defaultValue = defaultValue
  toStr : ∀ flag defaultValue, r.toStrByName name flag defaultValue = (defaultValue, flag)
  double : ∀ defaultValue, r.getDoubleByName name defaultValue = defaultValue

end

def Carries (name : Bytes) (index : r.Index) : Prop := (r.entry index).entryName = some name

instance (name : Bytes) (index : r.Index) : Decidable (r.Carries name index) :=
  inferInstanceAs (Decidable (_ = _))

def First (name : Bytes) (index : r.Index) : Prop :=
  r.Carries name index ∧ ∀ other, r.Carries name other → index ≤ other

def Last (name : Bytes) (index : r.Index) : Prop :=
  r.Carries name index ∧ ∀ other, r.Carries name other → other ≤ index

end LogDataReader

def SameReadings [Zero Double] (a b : PbLexicalEntry Double) : Prop :=
  a.valueType = b.valueType ∧ a.getI = b.getI ∧ a.getU = b.getU ∧ a.getS = b.getS ∧
    a.getB = b.getB ∧ a.getD = b.getD

instance [Zero Double] [DecidableEq Double] (a b : PbLexicalEntry Double) :
    Decidable (SameReadings a b) :=
  inferInstanceAs (Decidable (_ ∧ _ ∧ _ ∧ _ ∧ _ ∧ _))

section
variable {entries : List (PbLexicalEntry Double)} {name : Bytes}

theorem findEntry_insertEntry (nameMap : List (Bytes × PbLexicalEntry Double)) (key : Bytes)
    (entry : PbLexicalEntry Double) (name : Bytes) :
    findEntry (insertEntry nameMap key entry) name =
      (findEntry nameMap name).or (if key = name then some entry else none) := by
  unfold insertEntry
  cases held : findEntry nameMap key with
  | some old =>
    by_cases same : key = name
    · subst same
      simp [held]
    · simp [same]
  | none =>
    simp only [findEntry, List.find?_append, Option.map_or, List.find?_singleton]
    congr 1
    by_cases same : key = name <;> simp [same]

theorem findEntry_indexNames (entries : List (PbLexicalEntry Double)) (name : Bytes) :
    findEntry (indexNames entries) name = entries.find? fun e => e.entryName = some name := by
  have grows : ∀ nameMap : List (Bytes × PbLexicalEntry Double),
      findEntry (entries.foldl (fun nameMap entry =>
        match entry.entryName with
        | some name => insertEntry nameMap name entry
        | none => nameMap) nameMap) name =
      (findEntry nameMap name).or (entries.find? fun e => e.entryName = some name) := by
    induction entries with
    | nil => simp
    | cons e es ih =>
      intro nameMap
      rw [List.foldl_cons, ih]
      cases named : e.entryName with
      | none => simp [named]
      | some key =>
        simp only [findEntry_insertEntry, Option.or_assoc]
        congr 1
        by_cases same : key = name
        · simp [named, same]
        · simp [named, same]
  exact grows []

theorem SameReadings.toInt [Zero Double] {a b : PbLexicalEntry Double} (same : SameReadings a b) :
    entryToInt a = entryToInt b := by
  obtain ⟨type, int, uint, _⟩ := same
  funext flag
  unfold entryToInt
  rw [type, int, uint]

theorem SameReadings.toStr [Zero Double] {a b : PbLexicalEntry Double} (same : SameReadings a b) :
    entryToStr a = entryToStr b := by
  obtain ⟨type, _, _, str, bytes, _⟩ := same
  funext flag
  unfold entryToStr
  rw [type, str, bytes]

theorem SameReadings.converted [Zero Double] (showDouble : Double → Bytes)
    {a b : PbLexicalEntry Double} (same : SameReadings a b) :
    entryConvertToStr showDouble a = entryConvertToStr showDouble b := by
  obtain ⟨type, int, uint, str, bytes, double⟩ := same
  unfold entryConvertToStr
  rw [type, int, uint, str, bytes, double]

end

namespace LogDataReader

section
variable {r : LogDataReader Double} {name : Bytes}

theorem findEntry_of_first (indexed : r.nameMap = indexNames r.detail.entry) {index : r.Index}
    (first : r.First name index) : findEntry r.nameMap name = some (r.entry index) := by
  rw [indexed, findEntry_indexNames, List.find?_eq_some_iff_getElem]
  refine ⟨decide_eq_true first.1, index, index.isLt, rfl, ?_⟩
  intro j before
  rw [Bool.not_eq_true', decide_eq_false_iff_not]
  intro carried
  have earlier := first.2 ⟨j, before.trans index.isLt⟩ carried
  exact absurd before (Nat.not_lt.mpr earlier)

theorem exists_first {index : r.Index} (carried : r.Carries name index) :
    ∃ first, r.First name first := by
  cases found : r.detail.entry.find? fun e => e.entryName = some name with
  | none =>
    have missed := List.find?_eq_none.mp found _ (List.getElem_mem index.isLt)
    exact absurd (decide_eq_true carried) missed
  | some e =>
    obtain ⟨here, i, inside, rfl, before⟩ := List.find?_eq_some_iff_getElem.mp found
    refine ⟨⟨i, inside⟩, of_decide_eq_true here, ?_⟩
    intro other carriedToo
    by_contra earlier
    have skipped := before other (Nat.lt_of_not_le earlier)
    rw [Bool.not_eq_true', decide_eq_false_iff_not] at skipped
    exact skipped carriedToo

theorem findEntry_of_absent (indexed : r.nameMap = indexNames r.detail.entry)
    (absent : ∀ index, ¬r.Carries name index) : findEntry r.nameMap name = none := by
  rw [indexed, findEntry_indexNames, List.find?_eq_none]
  intro e member
  obtain ⟨i, inside, rfl⟩ := List.getElem_of_mem member
  rw [decide_eq_true_eq]
  exact absent ⟨i, inside⟩

theorem byName_of_some {e : PbLexicalEntry Double} (found : findEntry r.nameMap name = some e)
    {α : Type*} (read : PbLexicalEntry Double → α) (defaultValue : α) :
    r.byName name read defaultValue = read e := by
  unfold byName
  rw [found]

theorem byName_of_none (missing : findEntry r.nameMap name = none) {α : Type*}
    (read : PbLexicalEntry Double → α) (defaultValue : α) :
    r.byName name read defaultValue = defaultValue := by
  unfold byName
  rw [missing]

variable [Zero Double] {showDouble : Double → Bytes}

theorem readsAt_iff {e : PbLexicalEntry Double} (found : findEntry r.nameMap name = some e)
    (index : r.Index) : r.ReadsAt showDouble name index ↔ SameReadings e (r.entry index) := by
  constructor
  · intro agree
    refine ⟨?_, ?_, ?_, ?_, ?_, ?_⟩
    · exact (byName_of_some found _ 0).symm.trans (agree.type 0)
    · exact (byName_of_some found _ 0).symm.trans (agree.int 0)
    · exact (byName_of_some found _ 0).symm.trans (agree.uint 0)
    · exact (byName_of_some found _ []).symm.trans (agree.str [])
    · exact (byName_of_some found _ []).symm.trans (agree.bytes [])
    · exact (byName_of_some found (fun e => e.getD) 0).symm.trans (agree.double 0)
  · intro same
    have ⟨type, int, uint, str, bytes, double⟩ := same
    refine ⟨fun _ => ?_, ?_, fun _ => ?_, fun _ => ?_, fun flag _ => ?_, fun _ => ?_, fun _ => ?_,
      fun _ => ?_, fun flag _ => ?_, fun _ => ?_⟩
    · exact (byName_of_some found _ _).trans type
    · unfold contains
      rw [found]
      rfl
    · exact (byName_of_some found _ _).trans int
    · exact (byName_of_some found _ _).trans uint
    · exact (byName_of_some found _ _).trans (congrFun same.toInt flag)
    · exact (byName_of_some found _ _).trans (same.converted showDouble)
    · exact (byName_of_some found _ _).trans str
    · exact (byName_of_some found _ _).trans bytes
    · exact (byName_of_some found _ _).trans (congrFun same.toStr flag)
    · exact (byName_of_some found _ _).trans double

theorem readsDefault_of_none (missing : findEntry r.nameMap name = none) :
    r.ReadsDefault showDouble name where
  type _ := byName_of_none missing _ _
  contains := by
    unfold LogDataReader.contains
    rw [missing]
    rfl
  int _ := byName_of_none missing _ _
  uint _ := byName_of_none missing _ _
  toInt _ _ := byName_of_none missing _ _
  converted _ := byName_of_none missing _ _
  str _ := byName_of_none missing _ _
  bytes _ := byName_of_none missing _ _
  toStr _ _ := byName_of_none missing _ _
  double _ := byName_of_none missing _ _

end

theorem readsDefault_without_names [Zero Double] (parse : Data → Bool × LogDetail Double)
    (data : Data) (enableFindByName : Bool) (off : (parse data).1 = false ∨ enableFindByName = false)
    (showDouble : Double → Bytes) (name : Bytes) :
    (newReader parse data enableFindByName).ReadsDefault showDouble name := by
  apply readsDefault_of_none
  have empty : (newReader parse data enableFindByName).nameMap = [] := by
    unfold newReader
    rcases off with failed | disabled
    · simp [failed]
    · simp [disabled]
  rw [empty]
  rfl

/-- The accessors by name read the last entry of the name exactly if the first one, which
    name_map keeps, has the same readings; without such an entry they give the default. -/
theorem lookup_reads_last_iff [Zero Double] (parse : Data → Bool × LogDetail Double) (data : Data)
    (detail : LogDetail Double) (parsed : parse data = (true, detail))
    (showDouble : Double → Bytes) (name : Bytes) :
    ((∀ index, (newReader parse data).Last name index →
        (newReader parse data).ReadsAt showDouble name index) ∧
      ((∀ index, ¬(newReader parse data).Carries name index) →
        (newReader parse data).ReadsDefault showDouble name)) ↔
    ∀ first last, (newReader parse data).First name first → (newReader parse data).Last name last →
      SameReadings ((newReader parse data).entry first) ((newReader parse data).entry last) := by
  have indexed : (newReader parse data).nameMap =
      indexNames (newReader parse data).detail.entry := by
    simp [newReader, parsed]
  generalize newReader parse data = r at indexed ⊢
  constructor
  · rintro ⟨reads, _⟩ first last isFirst isLast
    exact (readsAt_iff (findEntry_of_first indexed isFirst) last).mp (reads last isLast)
  · intro same
    refine ⟨fun last isLast => ?_, fun absent => ?_⟩
    · obtain ⟨first, isFirst⟩ := exists_first isLast.1
      exact (readsAt_iff (findEntry_of_first indexed isFirst) last).mpr
        (same first last isFirst isLast)
    · exact readsDefault_of_none (findEntry_of_absent indexed absent)

def numberA (value : BitVec 64) : PbLexicalEntry Nat where
  entryName := some (ascii ['a'])
  valueType := ValueType.int.number
  i := some value

theorem repeated_value_reads_last :
    (newReader (fun detail => (true, detail)) ⟨[numberA 1, numberA 1]⟩).ReadsAt showNat
      (ascii ['a']) (1 : Fin 2) := by
  have same : ∀ first last : Fin 2, SameReadings ([numberA 1, numberA 1][first])
      ([numberA 1, numberA 1][last]) := by
    decide
  have last : (newReader (fun detail => (true, detail)) ⟨[numberA 1, numberA 1]⟩).Last
      (ascii ['a']) (1 : Fin 2) := by
    refine ⟨rfl, fun other _ => ?_⟩
    exact Fin.le_last other
  exact ((lookup_reads_last_iff (fun detail => (true, detail)) ⟨[numberA 1, numberA 1]⟩ _ rfl
    showNat (ascii ['a'])).mpr (fun first last _ _ => same first last)).1 _ last

theorem repeated_name_reads_first :
    ¬∀ (detail : LogDetail Nat) (name : Bytes) (index),
      (newReader (fun detail => (true, detail)) detail).Last name index →
      (newReader (fun detail => (true, detail)) detail).ReadsAt showNat name index := by
  intro reads
  have last : (newReader (fun detail => (true, detail)) ⟨[numberA 1, numberA 2]⟩).Last
      (ascii ['a']) (1 : Fin 2) := by
    refine ⟨rfl, fun other _ => ?_⟩
    exact Fin.le_last other
  have wrong := (reads ⟨[numberA 1, numberA 2]⟩ (ascii ['a']) (1 : Fin 2) last).int 0
  exact absurd wrong (by decide)

end LogDataReader

end LaluneServer.Log
