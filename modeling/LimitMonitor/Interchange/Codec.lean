/-!
# Documents and codecs

Definitions, records and requests are exchanged as documents: trees of texts,
numbers, truth values, lists, and records with named members. A codec writes
the values of a type as documents and reads them back. Reading is strict: a
number has to be an integer in the range of its type, and a record has to have
every member.
-/

namespace LimitMonitor

/-- A tree of plain values. -/
inductive Document where
  | null
  | boolean (value : Bool)
  | integer (value : Int)
  /-- The number `digits / 10 ^ places`, written with a fraction. -/
  | fraction (digits : Int) (places : Nat)
  | text (value : String)
  | list (items : List Document)
  | record (members : List (String × Document))

instance : Inhabited Document := ⟨.null⟩

namespace Document

/-- The members of a record with the given names, in the order of the names.
Members with other names are passed over. A list with one item for each name
stands for the record too. -/
def members? (names : List String) : Document → Option (List Document)
  | record members => names.mapM fun name => members.lookup name
  | list items => if items.length = names.length then some items else none
  | _ => none

end Document

/-! ## Codecs -/

/-- How the values of a type are written as documents and read back. -/
structure Codec (α : Type) where
  encode : α → Document
  decode : Document → Option α

namespace Codec

/-- Truth values. -/
def bool : Codec Bool where
  encode := .boolean
  decode
    | .boolean b => some b
    | _ => none

/-- Texts. -/
def text : Codec String where
  encode := .text
  decode
    | .text s => some s
    | _ => none

/-- A type of integers, by its range and its conversions. -/
def integer {α : Type} (least greatest : Int) (toInt : α → Int) (ofInt : Int → α) : Codec α where
  encode a := .integer (toInt a)
  decode
    | .integer n => if least ≤ n ∧ n ≤ greatest then some (ofInt n) else none
    | _ => none

/-! ## Integers of a fixed width -/

def uint8 : Codec UInt8 := integer 0 0xFF (fun n => n.toNat) fun n => UInt8.ofNat n.toNat

def uint16 : Codec UInt16 := integer 0 0xFFFF (fun n => n.toNat) fun n => UInt16.ofNat n.toNat

def uint32 : Codec UInt32 := integer 0 0xFFFFFFFF (fun n => n.toNat) fun n => UInt32.ofNat n.toNat

def uint64 : Codec UInt64 :=
  integer 0 0xFFFFFFFFFFFFFFFF (fun n => n.toNat) fun n => UInt64.ofNat n.toNat

def int8 : Codec Int8 := integer (-0x80) 0x7F Int8.toInt Int8.ofInt

def int16 : Codec Int16 := integer (-0x8000) 0x7FFF Int16.toInt Int16.ofInt

def int32 : Codec Int32 := integer (-0x80000000) 0x7FFFFFFF Int32.toInt Int32.ofInt

/-! ## Choices, lists and records -/

/-- One of finitely many values, by its name. A record of one null member with
that name stands for the name too. -/
def choice {α : Type} (values : List α) (name : α → String) : Codec α where
  encode a := .text (name a)
  decode
    | .text s => values.find? fun a => name a == s
    | .record [(s, .null)] => values.find? fun a => name a == s
    | _ => none

/-- A list with exactly `n` items. -/
def vector {α : Type} (n : Nat) (item : Codec α) : Codec (Vector α n) where
  encode v := .list (v.toList.map item.encode)
  decode
    | .list items =>
      (items.mapM item.decode).bind fun values =>
        if h : values.length = n then some ⟨values.toArray, by simpa using h⟩ else none
    | _ => none

/-- A record, by the names of its members, their documents in that order, and
the way back from those. -/
def record {α : Type} (names : List String) (members : α → List Document)
    (build : List Document → Option α) : Codec α where
  encode a := .record (names.zip (members a))
  decode d := (d.members? names).bind build

/-- The values of a type that wraps another. -/
def wrapped {α β : Type} (inner : Codec α) (unwrap : β → α) (wrap : α → β) : Codec β where
  encode b := inner.encode (unwrap b)
  decode d := (inner.decode d).map wrap

end Codec

end LimitMonitor
