import ServiceHost.Call.Service

/-!
# Stock handlers

Small handlers with plain behaviour, for trying out a host: they answer with what they get, add
numbers, show metadata, fail as told, or break down.
-/

namespace ServiceHost.Stock

/-- Answer with the message. -/
def echo : Handler :=
  .untyped fun request => .reply (.value request.message) []

/-- A request to add two numbers. -/
structure Add where
  a : Int32 := 0
  b : Int32 := 0

/-- How a request to add is read. -/
def addShape : RecordShape Add where
  name := "Add"
  fields :=
    [{ name := "a", set := fun value r => value.asInt32.map fun a => { r with a } },
     { name := "b", set := fun value r => value.asInt32.map fun b => { r with b } }]
  start := {}

/-- Add two numbers; the sum does not wrap. -/
def add : Handler :=
  .typed addShape.read fun _ numbers =>
    .reply (.value (.ofList [("sum", .int (numbers.a.toInt + numbers.b.toInt))])) []

/-- How a request to say a text is read. -/
def sayShape : RecordShape String where
  name := "Say"
  fields := [{ name := "value", set := fun value _ => value.asText }]
  start := ""

/-- The tenant that metadata names; none if that is no visible text. -/
def tenantOf (metadata : Headers) : String :=
  ((metadata.first? "tenant").bind visibleText?).getD ""

/-- Answer with a text, its length in octets and the tenant. -/
def say : Handler :=
  .typed sayShape.read fun request value =>
    .reply (.value (.ofList
      [("value", .string value), ("length", .nat (Utf8.ofString value).length),
       ("tenant", .string (tenantOf request.metadata))])) [⟨"x-echo", Octets.ascii "1"⟩]

/-- Fail with a status. -/
def fail (status : Status) : Handler :=
  .untyped fun _ => .failed status

/-- A request to fail. -/
structure FailIn where
  code : Int32 := 0
  message : String := ""

/-- How a request to fail is read. -/
def failInShape : RecordShape FailIn where
  name := "FailIn"
  fields :=
    [{ name := "code", set := fun value r => value.asInt32.map fun code => { r with code } },
     { name := "message", set := fun value r => value.asText.map fun message =>
         { r with message } }]
  start := {}

/-- Fail as the request says. -/
def failIn : Handler :=
  .typed failInShape.read fun _ wish => .failed (.ofCode wish.code wish.message)

/-- Break down with a message made from the request. -/
def breakDown (message : Json → String) : Handler :=
  .untyped fun request => .broken (message request.message)

/-- Answer with something that cannot be written. -/
def unwritable (reason : String) : Handler :=
  .untyped fun _ => .reply (.unwritable reason) []

/-- Answer with a fixed message and fixed metadata. -/
def reply (message : Json) (metadata : Headers) : Handler :=
  .untyped fun _ => .reply (.value message) metadata

/-- The values of a name in metadata. -/
def shownValues (metadata : Headers) (name : String) : Json :=
  .array ((metadata.valuesOf name).map fun value => .string (Utf8.toText value))

/-- Answer with the message and the metadata of some names. -/
def showMetadata (names : List String) : Handler :=
  .untyped fun request => .reply (.value (.ofList
    [("meta", .ofList (names.map fun name => (name, shownValues request.metadata name))),
     ("message", request.message)])) []

end ServiceHost.Stock
