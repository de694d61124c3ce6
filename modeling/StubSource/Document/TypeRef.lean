import StubSource.Document.Value
import StubSource.Metadata.TypeRef

/-!
# Type references in documents

A reference is a table whose field `kind` tells which of its other fields count. Reading follows
the table field by field, so that it is a recursion on the document itself.
-/

namespace StubSource
set_option autoImplicit false

/-- Positions in a graph have sixty-four bits in a document. -/
def Value.index? (v : Value) : Option Nat := v.natBelow? 0x10000000000000000

def TypeId.ofValue? (v : Value) : Option TypeId := v.index?.map TypeId.mk

def TypeId.toValue (id : TypeId) : Value := .ofNat id.index

namespace TypeRef

/-- The kinds of references. -/
inductive Kind where
  | named
  | array
  | byRef
  | pointer
  | parameter
  deriving DecidableEq, Repr

namespace Kind

def ofKey? : String → Option Kind
  | "named" => some .named
  | "array" => some .array
  | "by_ref" => some .byRef
  | "pointer" => some .pointer
  | "generic_parameter" => some .parameter
  | _ => none

/-- The kinds by their numbers, counted from zero. -/
def ofNumber? (n : Nat) : Option Kind :=
  [Kind.named, .array, .byRef, .pointer, .parameter][n]?

/-- A kind is given by its name. Inside another reference its number will do as well. -/
def ofValue? (inside : Bool) : Value → Option Kind
  | .text key => ofKey? key
  | .int (.ofNat n) => if inside then ofNumber? n else none
  | _ => none

end Kind

mutual

/-- Reads a reference; `inside` tells that it is part of another one. -/
def read? (inside : Bool) : Value → Option TypeRef
  | .table fields => do
    match ← Fields.required? fields "kind" (Kind.ofValue? inside) with
    | .named =>
      let ns ← Fields.field? fields "namespace" Value.text? ""
      let name ← Fields.required? fields "name" Value.text?
      let arguments ← arguments? fields
      let definition ← Fields.field? fields "definition" (Value.optional? TypeId.ofValue?) none
      return .named ns name arguments definition
    | .array =>
      let element ← element? fields
      let rank ← Fields.field? fields "rank" Value.uint32? 1
      return .array element rank
    | .byRef => return .byRef (← element? fields)
    | .pointer => return .pointer (← element? fields)
    | .parameter => return .parameter (← Fields.required? fields "name" Value.text?)
  | _ => none

/-- The reference in the field `element`. -/
def element? : List (String × Value) → Option TypeRef
  | [] => none
  | (key, v) :: fields => if key = "element" then read? true v else element? fields

/-- The references in the field `generic_arguments`, which may be left out. -/
def arguments? : List (String × Value) → Option (List TypeRef)
  | [] => some []
  | (key, v) :: fields =>
    if key = "generic_arguments" then
      match v with
      | .list items => readAll? items
      | _ => none
    else arguments? fields

def readAll? : List Value → Option (List TypeRef)
  | [] => some []
  | v :: vs => do return (← read? true v) :: (← readAll? vs)

end

/-- Reads a reference that stands for itself. -/
def ofValue? (v : Value) : Option TypeRef := read? false v

mutual

def toValue : TypeRef → Value
  | .named ns name arguments definition => .table [
      ("kind", .text "named"), ("namespace", .text ns), ("name", .text name),
      ("generic_arguments", .list (toValues arguments)),
      ("definition", .ofOption TypeId.toValue definition)]
  | .array element rank => .table [
      ("kind", .text "array"), ("element", toValue element), ("rank", .ofNat rank.toNat)]
  | .byRef element => .table [("kind", .text "by_ref"), ("element", toValue element)]
  | .pointer element => .table [("kind", .text "pointer"), ("element", toValue element)]
  | .parameter name => .table [("kind", .text "generic_parameter"), ("name", .text name)]

def toValues : List TypeRef → List Value
  | [] => []
  | ref :: refs => toValue ref :: toValues refs

end

end TypeRef
end StubSource
