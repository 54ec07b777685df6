import LaluneServer.Lib.DecimalText

/- The entries of a log line: as a log statement collects them, and as the protobuf
   messages carry them. A std::string is a list of bytes; Double stands for the floating
   point numbers, of which only their text matters. -/
namespace LaluneServer.Log
open DecimalText

abbrev Bytes := List (BitVec 8)

def ascii (text : Text) : Bytes := text.map fun c => BitVec.ofNat 8 c.toNat

inductive ValueType where
  | int
  | uint
  | uintDisplayAsHex
  | uint16DisplayAsHex
  | string
  | bytesNoDisplay
  | bytesDisplayAsHex
  | double
  | wstring
  | undefined
  deriving DecidableEq, Repr

namespace ValueType

def number : ValueType → BitVec 32
  | int => 0
  | uint => 1
  | uintDisplayAsHex => 2
  | uint16DisplayAsHex => 3
  | string => 4
  | bytesNoDisplay => 5
  | bytesDisplayAsHex => 6
  | double => 7
  | wstring => 8
  | undefined => 100

/-- The case that a switch over a number takes; `none` is the default. -/
def ofNumber (n : BitVec 32) : Option ValueType :=
  if n = 0 then some int
  else if n = 1 then some uint
  else if n = 2 then some uintDisplayAsHex
  else if n = 3 then some uint16DisplayAsHex
  else if n = 4 then some string
  else if n = 5 then some bytesNoDisplay
  else if n = 6 then some bytesDisplayAsHex
  else if n = 7 then some double
  else if n = 8 then some wstring
  else if n = 100 then some undefined
  else none

@[simp] theorem ofNumber_number (v : ValueType) : ofNumber v.number = some v := by
  cases v <;> rfl

end ValueType

section
variable (Double : Type*)

structure LexicalEntry where
  name : Bytes := []
  valueType : ValueType
  ivalue : BitVec 64
  bytes : Bytes
  bytesLength : BitVec 32
  dvalue : Double
  svalue : Bytes
  length_eq : bytesLength.toInt = bytes.length
  deriving DecidableEq

structure PbLexicalEntry where
  entryName : Option Bytes := none
  valueType : BitVec 32
  u : Option (BitVec 64) := none
  i : Option (BitVec 64) := none
  s : Option Bytes := none
  b : Option Bytes := none
  d : Option Double := none
  deriving DecidableEq, Repr

structure LogDetail where
  entry : List (PbLexicalEntry Double) := []
  deriving DecidableEq, Repr

end

structure LogEvent (Data : Type*) where
  index1 : Option Bytes := none
  index2 : Option Bytes := none
  index3 : Bytes
  time : BitVec 64
  data : Data
  deriving DecidableEq, Repr

section
variable {Double : Type*}

def LexicalEntry.hasName (e : LexicalEntry Double) : Bool := ¬e.name.isEmpty

namespace PbLexicalEntry

variable (e : PbLexicalEntry Double)

def hasEntryName : Bool := e.entryName.isSome
def getEntryName : Bytes := e.entryName.getD []
def getU : BitVec 64 := e.u.getD 0
def getI : BitVec 64 := e.i.getD 0
def getS : Bytes := e.s.getD []
def getB : Bytes := e.b.getD []
def getD [Zero Double] : Double := e.d.getD 0

end PbLexicalEntry

end

def showInt (n : Int) : Bytes :=
  ascii (if n < 0 then '-' :: decimal n.natAbs else decimal n.natAbs)

def showNat (n : Nat) : Bytes := ascii (decimal n)

def showHex (n : Nat) : Bytes := ascii ('0' :: 'x' :: Nat.toDigits 16 n)

def showByte (b : BitVec 8) : Bytes := ascii (' ' :: (Nat.toDigits 16 b.toNat).leftpad 2 '0')

def endl : Bytes := ascii ['\n']

def bytesLengthText (length : Bytes) : Bytes :=
  ascii "\x7b bytes length: ".toList ++ length ++ ascii " \x7d".toList

end LaluneServer.Log
