import ServiceHost.Http2.FieldTable
import ServiceHost.Http2.Huffman

/-!
# Compressed header blocks

A header block is a sequence of representations: a field by its index, a field with a literal
value and an indexed or literal name, or a new bound for the table.  `HeaderBlock.decode?` reads
a whole block of a fresh connection; one malformed representation refuses all of it.
-/

namespace ServiceHost.HeaderBlock

/-- An integer and what is behind it. -/
abbrev Taken (α : Type) := α × Octets

/-- The octets of an integer behind a full prefix, seven bits each with the lowest first; at
most `budget` of them. -/
def takeSevenBits (value shift : Nat) : Nat → Octets → Option (Taken Nat)
  | 0, _ => none
  | _ + 1, [] => none
  | budget + 1, b :: rest =>
    let value := value + b.toNat % 128 * Nat.pow 2 shift
    if b < 128 then some (value, rest) else takeSevenBits value (shift + 7) budget rest

/-- An integer whose first `width` bits stand at the low end of `first`.  It takes at most five
octets in all. -/
def takeInteger (width : Nat) (first : UInt8) (rest : Octets) : Option (Taken Nat) :=
  let full := Nat.pow 2 width - 1
  let value := first.toNat % Nat.pow 2 width
  if value < full then some (value, rest) else takeSevenBits value 0 4 rest

/-- The text of a string whose flag says whether it is in the string code. -/
def stringText? (coded : Bool) (raw : Octets) : Option Octets :=
  if coded then Huffman.decode? raw else some raw

/-- A string: its length, then its octets, plain or in the string code. -/
def takeString : Octets → Option (Taken Octets)
  | [] => none
  | first :: rest =>
    (takeInteger 7 first rest).bind fun (length, rest) =>
    (Octets.splitExactly length rest).bind fun (raw, rest) =>
    (stringText? (128 ≤ first) raw).map (·, rest)

/-- The name of a literal field: at an index, or a string where the index is zero. -/
def takeName (table : FieldTable) (index : Nat) (rest : Octets) : Option (Taken Octets) :=
  if index = 0 then takeString rest else (table.get? index).map fun field => (field.name, rest)

/-- A field with a literal value, whose name is at an index or literal as well. -/
def takeLiteral (table : FieldTable) (width : Nat) (first : UInt8) (rest : Octets) :
    Option (Taken Field) :=
  (takeInteger width first rest).bind fun (index, rest) =>
  (takeName table index rest).bind fun (name, rest) =>
  (takeString rest).map fun (value, rest) => (⟨name, value⟩, rest)

/-- One representation: the table behind it, the field if it is one, and what is left. -/
def takeRepresentation (table : FieldTable) (first : UInt8) (rest : Octets) :
    Option (Taken (FieldTable × Option Field)) :=
  if 128 ≤ first then
    (takeInteger 7 first rest).bind fun (index, rest) =>
    (table.get? index).map fun field => ((table, some field), rest)
  else if 64 ≤ first then
    (takeLiteral table 6 first rest).map fun (field, rest) =>
      ((table.push field, some field), rest)
  else if 32 ≤ first then
    (takeInteger 5 first rest).map fun (bound, rest) => ((table.resize bound, none), rest)
  else
    (takeLiteral table 4 first rest).map fun (field, rest) => ((table, some field), rest)

theorem length_takeSevenBits {value shift budget n : Nat} {octets rest : Octets}
    (h : takeSevenBits value shift budget octets = some (n, rest)) :
    rest.length ≤ octets.length := by
  induction budget generalizing value shift octets with
  | zero => simp [takeSevenBits] at h
  | succ budget ih =>
    cases octets with
    | nil => simp [takeSevenBits] at h
    | cons b left =>
      simp only [takeSevenBits] at h
      split at h
      · simp only [Option.some.injEq, Prod.mk.injEq] at h
        simp [← h.2]
      · have := ih h
        simp only [List.length_cons]
        omega

theorem length_takeInteger {width n : Nat} {first : UInt8} {octets rest : Octets}
    (h : takeInteger width first octets = some (n, rest)) : rest.length ≤ octets.length := by
  simp only [takeInteger] at h
  split at h
  · simp only [Option.some.injEq, Prod.mk.injEq] at h
    simp [← h.2]
  · exact length_takeSevenBits h

theorem length_takeString {octets text rest : Octets} (h : takeString octets = some (text, rest)) :
    rest.length ≤ octets.length := by
  cases octets with
  | nil => simp [takeString] at h
  | cons first left =>
    simp only [takeString, Option.bind_eq_some_iff, Option.map_eq_some_iff, Prod.mk.injEq,
      Prod.exists] at h
    obtain ⟨length, r₁, h₁, raw, r₂, h₂, text', -, -, rfl⟩ := h
    have hr₁ := length_takeInteger h₁
    have hr₂ := congrArg List.length (Octets.length_splitExactly h₂).1
    simp only [List.length_append] at hr₂
    simp only [List.length_cons]
    omega

theorem length_takeName {table : FieldTable} {index : Nat} {octets name rest : Octets}
    (h : takeName table index octets = some (name, rest)) : rest.length ≤ octets.length := by
  simp only [takeName] at h
  split at h
  · exact length_takeString h
  · simp only [Option.map_eq_some_iff, Prod.mk.injEq] at h
    obtain ⟨-, -, -, rfl⟩ := h
    exact Nat.le_refl _

theorem length_takeLiteral {table : FieldTable} {width : Nat} {first : UInt8}
    {octets rest : Octets} {field : Field}
    (h : takeLiteral table width first octets = some (field, rest)) :
    rest.length ≤ octets.length := by
  simp only [takeLiteral, Option.bind_eq_some_iff, Option.map_eq_some_iff, Prod.mk.injEq,
    Prod.exists] at h
  obtain ⟨index, r₁, h₁, name, r₂, h₂, value, r₃, h₃, -, rfl⟩ := h
  have hr₁ := length_takeInteger h₁
  have hr₂ := length_takeName h₂
  have hr₃ := length_takeString h₃
  omega

/-- Behind its first octet a representation never grows what is left. -/
theorem length_takeRepresentation {table : FieldTable} {first : UInt8} {octets rest : Octets}
    {got : FieldTable × Option Field}
    (h : takeRepresentation table first octets = some (got, rest)) :
    rest.length ≤ octets.length := by
  simp only [takeRepresentation] at h
  split at h
  · simp only [Option.bind_eq_some_iff, Option.map_eq_some_iff, Prod.mk.injEq, Prod.exists] at h
    obtain ⟨_, r, h₁, -, -, -, rfl⟩ := h
    exact length_takeInteger h₁
  split at h
  · simp only [Option.map_eq_some_iff, Prod.mk.injEq, Prod.exists] at h
    obtain ⟨_, r, h₁, -, rfl⟩ := h
    exact length_takeLiteral h₁
  split at h
  · simp only [Option.map_eq_some_iff, Prod.mk.injEq, Prod.exists] at h
    obtain ⟨_, r, h₁, -, rfl⟩ := h
    exact length_takeInteger h₁
  · simp only [Option.map_eq_some_iff, Prod.mk.injEq, Prod.exists] at h
    obtain ⟨_, r, h₁, -, rfl⟩ := h
    exact length_takeLiteral h₁

/-- The fields of a block behind those already read, which stand in reverse. -/
def fields? (table : FieldTable) (done : List Field) : Octets → Option (List Field)
  | [] => some done.reverse
  | first :: rest =>
    match _h : takeRepresentation table first rest with
    | none => none
    | some ((table, field?), left) => fields? table (field?.toList ++ done) left
termination_by octets => octets.length
decreasing_by exact Nat.lt_succ_of_le (length_takeRepresentation _h)

/-- The fields of a block of a fresh connection, or none if any part of it is malformed. -/
def decode? (block : Octets) : Option (List Field) :=
  fields? .initial [] block

end ServiceHost.HeaderBlock
