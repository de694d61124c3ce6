import StubSource.Metadata.Graph

/-!
# Faults and the journal

What can stop a piece of source from being written, and what is noted along the way.
-/

namespace StubSource
set_option autoImplicit false

inductive Fault where
  | unknownType (id : TypeId)
  | unknownMethod (id : MethodId)
  | unknownField (id : FieldId)
  /-- The method points back to no type. -/
  | noDeclaringType (method : String)
  /-- A body could not be written, for a reason of its writer's own. -/
  | noBody (reason : String)
  deriving DecidableEq, Repr

def Fault.message : Fault → String
  | .unknownType id => "unknown type " ++ toString id
  | .unknownMethod id => "unknown method " ++ toString id
  | .unknownField id => "unknown field " ++ toString id
  | .noDeclaringType method => "method `" ++ method ++ "` has no declaring type"
  | .noBody reason => reason

/-- How much a note matters. -/
inductive Importance where
  | debug
  | trace
  deriving DecidableEq, Repr

structure Note where
  importance : Importance
  message : String
  deriving DecidableEq, Repr

namespace Graph

def findType (g : Graph) (id : TypeId) : Except Fault TypeDef :=
  match g.type? id with
  | some t => .ok t
  | none => .error (.unknownType id)

def findMethod (g : Graph) (id : MethodId) : Except Fault Method :=
  match g.method? id with
  | some m => .ok m
  | none => .error (.unknownMethod id)

def findField (g : Graph) (id : FieldId) : Except Fault Field :=
  match g.field? id with
  | some f => .ok f
  | none => .error (.unknownField id)

end Graph

/-- The type that a method points back to. -/
def Method.owner (m : Method) : Except Fault TypeId :=
  match m.declaringType with
  | some id => .ok id
  | none => .error (.noDeclaringType m.name)

end StubSource
