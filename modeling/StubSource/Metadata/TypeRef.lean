import StubSource.Name

/-!
# References to types

A reference names a type the way a signature does: by namespace and name, with arguments for a
generic type, or as an array, pointer or by-reference form of another type, or as a type
parameter. A named reference may point to the definition it stands for.
-/

namespace StubSource
set_option autoImplicit false

/-- Position of a type in its graph. -/
structure TypeId where
  index : Nat
  deriving DecidableEq, Repr, Inhabited

instance : ToString TypeId := ⟨fun id => "type#" ++ id.index.repr⟩

inductive TypeRef where
  | named (ns name : String) (arguments : List TypeRef) (definition : Option TypeId)
  | array (element : TypeRef) (rank : UInt32)
  | byRef (element : TypeRef)
  | pointer (element : TypeRef)
  | parameter (name : String)
  deriving Repr, Inhabited

namespace TypeRef

/-- A type that is not generic. -/
def plain (ns name : String) : TypeRef := .named ns name [] none

/-- A generic type with its arguments. -/
def generic (ns name : String) (arguments : List TypeRef) : TypeRef :=
  .named ns name arguments none

/-- A type of the namespace `System`. -/
def system (name : String) : TypeRef := .plain "System" name

def void : TypeRef := .system "Void"

/-- An array with one dimension. -/
def vector (element : TypeRef) : TypeRef := .array element 1

/-- An array with the given number of dimensions, but with at least one. -/
def grid (element : TypeRef) (rank : UInt32) : TypeRef :=
  .array element (if rank = 0 then 1 else rank)

/-- A named reference with the definition it stands for; other references stay as they are. -/
def resolvedTo (id : TypeId) : TypeRef → TypeRef
  | .named ns name arguments _ => .named ns name arguments (some id)
  | other => other

def isVoid : TypeRef → Bool
  | .named ns name arguments _ => ns == "System" && name == "Void" && arguments.isEmpty
  | _ => false

def isByRef : TypeRef → Bool
  | .byRef _ => true
  | _ => false

/-- The namespace of the type at the core of a reference. -/
def ns : TypeRef → String
  | .named ns _ _ _ => ns
  | .array element _ => element.ns
  | .byRef element => element.ns
  | .pointer element => element.ns
  | .parameter _ => ""

/-- The commas between the dimensions of an array. -/
def commas (rank : UInt32) : String :=
  String.ofList (List.replicate (rank.toNat - 1) ',')

mutual

/-- The full metadata name. -/
def display : TypeRef → String
  | .named ns name [] _ => Name.qualify ns name
  | .named ns name (first :: rest) _ =>
    Name.qualify ns name ++ "<" ++ String.intercalate "," (display first :: displayAll rest) ++ ">"
  | .array element rank => display element ++ "[" ++ commas rank ++ "]"
  | .byRef element => display element ++ "&"
  | .pointer element => display element ++ "*"
  | .parameter name => name

def displayAll : List TypeRef → List String
  | [] => []
  | ref :: refs => display ref :: displayAll refs

end

instance : ToString TypeRef := ⟨display⟩

end TypeRef
end StubSource
