import StubSource.Writing.Stub

/-!
# Sources

The source for one method: the type around it, inside the types around that type and inside their
namespace, below the imports and the references.
-/

namespace StubSource.Scope
set_option autoImplicit false

open Write

/-- The types around `owner`, from the outermost inward. -/
def findShells (s : Scope) (owner : TypeId) : Except Fault (List TypeDef) :=
  ((s.graph.nestingChain owner).filter fun id => id ≠ owner).mapM s.graph.findType

def openType (s : Scope) (t : TypeDef) : Write Unit := do
  s.writeTypeHeader t
  openBlock s.dialect.types.start

def closeType (s : Scope) (t : TypeDef) : Write Unit := closeBlock (s.kindWords t.kind).finish

/-- The target method with the stubs of its type, and the types around them. -/
def writeEnclosingType (s : Scope) (body : BodyWriter) (target : MethodId) : Write Unit := do
  let m ← require (s.graph.findMethod target)
  let owner ← require m.owner
  let t ← require (s.graph.findType owner)
  let shells ← require (s.findShells owner)
  shells.forM s.openType
  s.openType t
  s.writeDisclaimer
  s.writeMethod body m
  breakLine
  s.writeMethodStubs body target
  breakLine
  s.writeFieldStubs owner
  s.closeType t
  shells.reverse.forM s.closeType

/-- Writes something in a namespace; the empty namespace is not written. -/
def inNamespace (s : Scope) (ns : String) (content : Write Unit) : Write Unit :=
  if ns.isEmpty then content
  else do
    push (s.dialect.namespaceBlock.header ++ ns)
    openBlock s.dialect.namespaceBlock.start
    content
    closeBlock s.dialect.namespaceBlock.finish

/-- The whole source for the target, a method of `owner`. -/
def writeSource (s : Scope) (body : BodyWriter) (target : MethodId) (owner : TypeId)
    (references : List AssemblyRef) : Write Unit := do
  s.writeDefaultImports
  breakLine
  s.writeReferences references
  breakLine
  s.inNamespace (s.graph.effectiveNs owner) (s.writeEnclosingType body target)

end StubSource.Scope
