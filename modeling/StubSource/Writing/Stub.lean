import StubSource.Writing.Method

/-!
# Stubs

A method can only be compiled inside its type, so the type is written around it with a stub for
every other member. The stubs stand in regions with a notice for whoever edits the source.
-/

namespace StubSource
set_option autoImplicit false

/-- The methods beside the target in its type, in the order of the type. -/
def Graph.methodStubs (g : Graph) (target : MethodId) :
    Except Fault (List (MethodId × Method)) := do
  let owner ← (← g.findMethod target).owner
  return (g.methodsOf owner).filter fun stub => stub.1 ≠ target

/-- The fields of a type, in its order. -/
def Graph.fieldStubs (g : Graph) (owner : TypeId) : List (FieldId × Field) := g.fieldsOf owner

namespace Scope

open Write

/-- Stands at the top of the type. -/
def disclaimer : List String := [
  "Limited support!",
  "You can only reference methods or fields defined in the class (not in ancestors classes)",
  "Fields and methods stubs are needed for compilation purposes only.",
  "References to the current type, its fields and methods are mapped back to the originals " ++
    "automatically."]

def methodsLabel : String := "\" Methods stubs \""

def methodsNotice : String :=
  "Do not add or update any method. If compilation fails because of a method declaration, " ++
    "comment it"

def fieldsLabel : String := "\" Fields stubs \""

def fieldsNotice : String :=
  "Do not add or update any field. If compilation fails because of a field declaration, " ++
    "comment it"

def writeDisclaimer (s : Scope) : Write Unit := disclaimer.forM s.writeComment

/-- A region with a notice at its top. -/
def writeRegion (s : Scope) (label notice : String) (content : Write Unit) : Write Unit := do
  line (s.dialect.region.around label)
  s.writeComment notice
  content
  line s.dialect.regionEnd

/-- The region with the methods beside the target. -/
def writeMethodStubs (s : Scope) (body : BodyWriter) (target : MethodId) : Write Unit := do
  let stubs ← require (s.graph.methodStubs target)
  note .trace ("writing " ++ stubs.length.repr ++ " method stubs")
  s.writeRegion methodsLabel methodsNotice <| stubs.forM fun stub => do
    s.writeMethod body stub.2
    breakLine

/-- The region with the fields of a type. -/
def writeFieldStubs (s : Scope) (owner : TypeId) : Write Unit := do
  let stubs := s.graph.fieldStubs owner
  note .trace ("writing " ++ stubs.length.repr ++ " field stubs")
  s.writeRegion fieldsLabel fieldsNotice <| stubs.forM fun stub => do
    s.writeField stub.2
    breakLine

end Scope
end StubSource
