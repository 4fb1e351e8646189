import ServiceHost.Json.Writer
import ServiceHost.Text.Printable

/-!
# Records from JSON

A record is read from an object, where unknown members are ignored, or from an array of its
fields in order.  Every way in which a value does not fit has its own message.
-/

namespace ServiceHost

/-- Why a value does not fit. -/
inductive Mismatch where
  /-- It has another shape than what is expected. -/
  | wrongType (found : Json) (expected : String)
  /-- It has the right shape, and lies outside what is expected. -/
  | wrongValue (found : Json) (expected : String)
  /-- An object lacks a member. -/
  | missingField (name : String)
  /-- An array has too few items. -/
  | tooShort (length : Nat) (expected : String)
  /-- An array has too many items. -/
  | tooLong (length : Nat)
  deriving Repr

namespace Mismatch

/-- How a character stands in a text that is shown between quotes: one that cannot be seen on its
own is shown by its number. -/
def shownChar (c : Char) : List Char :=
  if c = '"' then ['\\', '"']
  else if c = '\\' then ['\\', '\\']
  else if c = '\n' then ['\\', 'n']
  else if c = '\r' then ['\\', 'r']
  else if c = '\t' then ['\\', 't']
  else if c = '\x00' then ['\\', '0']
  else if Printable.isVisible c then [c]
  else ['\\', 'u', '\x7b'] ++ Nat.toDigits 16 c.toNat ++ ['\x7d']

/-- A text between quotes. -/
def shownText (text : String) : String :=
  "\"" ++ String.ofList (text.toList.flatMap shownChar) ++ "\""

/-- The shape of a value in words. -/
def shape : Json → String
  | .null => "null"
  | .bool b => "boolean `" ++ (if b then "true" else "false") ++ "`"
  | .number (.int n) => "integer `" ++ String.ofList (intText n) ++ "`"
  | .number (.double d) => "floating point `" ++ (Json.number (.double d)).render ++ "`"
  | .string text => "string " ++ shownText text
  | .array _ => "sequence"
  | .object _ => "map"

/-- The reason in words. -/
def message : Mismatch → String
  | .wrongType found expected => "invalid type: " ++ shape found ++ ", expected " ++ expected
  | .wrongValue found expected => "invalid value: " ++ shape found ++ ", expected " ++ expected
  | .missingField name => "missing field `" ++ name ++ "`"
  | .tooShort length expected =>
    "invalid length " ++ String.ofList (natText length) ++ ", expected " ++ expected
  | .tooLong length =>
    "invalid length " ++ String.ofList (natText length) ++ ", expected fewer elements in array"

end Mismatch

namespace Json

/-- A text. -/
def asText : Json → Except Mismatch String
  | .string text => .ok text
  | other => .error (.wrongType other "a string")

/-- An integer of 32 bits. -/
def asInt32 : Json → Except Mismatch Int32
  | .number (.int n) =>
    if -0x80000000 ≤ n ∧ n < 0x80000000 then .ok (Int32.ofInt n)
    else .error (.wrongValue (.int n) "i32")
  | other => .error (.wrongType other "i32")

end Json

/-- A field of a record. -/
structure RecordField (α : Type) where
  name : String
  /-- Set the field of a record from a value. -/
  set : Json → α → Except Mismatch α
  /-- Whether the record needs it. -/
  isRequired : Bool := true

/-- How a record is read: its name, its fields in order, and the values of those left out. -/
structure RecordShape (α : Type) where
  name : String
  fields : List (RecordField α)
  start : α

namespace RecordShape

variable {α : Type}

/-- What is expected of a value, in words. -/
def expected (shape : RecordShape α) : String :=
  "struct " ++ shape.name

/-- What is expected of an array, in words. -/
def expectedItems (shape : RecordShape α) : String :=
  shape.expected ++ " with " ++ String.ofList (natText shape.fields.length) ++
    (if shape.fields.length = 1 then " element" else " elements")

/-- Read the members of an object one after the other. -/
def ofMembers (shape : RecordShape α) : Json.Members → α → Except Mismatch α
  | [], record => .ok record
  | (key, value) :: rest, record =>
    match shape.fields.find? fun f => f.name == key with
    | some field => (field.set value record).bind (ofMembers shape rest)
    | none => ofMembers shape rest record

/-- Read the items of an array as the fields in order; `n` of them were read before. -/
def ofItems (shape : RecordShape α) (n : Nat) :
    List (RecordField α) → List Json → α → Except Mismatch α
  | [], _, record => .ok record
  | field :: fields, [], record =>
    if field.isRequired then .error (.tooShort n shape.expectedItems)
    else ofItems shape (n + 1) fields [] record
  | field :: fields, value :: rest, record =>
    (field.set value record).bind (ofItems shape (n + 1) fields rest)

/-- The record that a value stands for. -/
def read (shape : RecordShape α) : Json → Except Mismatch α
  | .object members =>
    (ofMembers shape members shape.start).bind fun record =>
    match shape.fields.find? fun f => f.isRequired && (Json.Members.get? f.name members).isNone with
    | some field => .error (.missingField field.name)
    | none => .ok record
  | .array items =>
    (ofItems shape 0 shape.fields items shape.start).bind fun record =>
    if shape.fields.length < items.length then .error (.tooLong items.length) else .ok record
  | other => .error (.wrongType other shape.expected)

end RecordShape

end ServiceHost
