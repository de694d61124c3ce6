import StubSource.Metadata.AssemblyRef
import StubSource.Metadata.TypeDef

/-!
# The metadata graph

All definitions of one assembly, each found by its position. Members point back to their type, and
the type lists its members; the operations that add to a graph keep both directions in step. A
graph that was read from a document promises neither: positions may dangle and nesting may be
cyclic, so every walk through it is bounded.
-/

namespace StubSource
set_option autoImplicit false

structure Graph where
  types : List TypeDef := []
  methods : List Method := []
  fields : List Field := []
  references : List AssemblyRef := []
  deriving Repr, Inhabited

namespace Graph

def type? (g : Graph) (id : TypeId) : Option TypeDef := g.types[id.index]?

def method? (g : Graph) (id : MethodId) : Option Method := g.methods[id.index]?

def field? (g : Graph) (id : FieldId) : Option Field := g.fields[id.index]?

/-- The position of the next type to be added. -/
def nextType (g : Graph) : TypeId := ⟨g.types.length⟩

/-- The position of the next method to be added. -/
def nextMethod (g : Graph) : MethodId := ⟨g.methods.length⟩

/-- The position of the next field to be added. -/
def nextField (g : Graph) : FieldId := ⟨g.fields.length⟩

/-- Changes one type in place; a dangling position changes nothing. -/
def modifyType (g : Graph) (id : TypeId) (change : TypeDef → TypeDef) : Graph :=
  { g with types := g.types.modify id.index change }

/-- Adds a type of its own. -/
def addType (g : Graph) (t : TypeDef) : Graph := { g with types := g.types ++ [t] }

/-- Adds a type inside `outer`. It loses its namespace and is listed by `outer`. -/
def addNestedType (g : Graph) (outer : TypeId) (t : TypeDef) : Graph :=
  (g.addType { t with declaringType := some outer, ns := "" }).modifyType outer fun o =>
    { o with nestedTypes := o.nestedTypes ++ [g.nextType] }

/-- Adds a method at the end of the methods of `owner`. -/
def addMethod (g : Graph) (owner : TypeId) (m : Method) : Graph :=
  { g with methods := g.methods ++ [{ m with declaringType := some owner }] }.modifyType owner
    fun t => { t with methods := t.methods ++ [g.nextMethod] }

/-- Adds a field at the end of the fields of `owner`. -/
def addField (g : Graph) (owner : TypeId) (f : Field) : Graph :=
  { g with fields := g.fields ++ [{ f with declaringType := some owner }] }.modifyType owner
    fun t => { t with fields := t.fields ++ [g.nextField] }

def addReference (g : Graph) (r : AssemblyRef) : Graph :=
  { g with references := g.references ++ [r] }

/-- The methods that a type lists, in its order, without dangling positions. -/
def methodsOf (g : Graph) (id : TypeId) : List (MethodId × Method) :=
  match g.type? id with
  | none => []
  | some t => t.methods.filterMap fun m => (g.method? m).map (m, ·)

/-- The fields that a type lists, in its order, without dangling positions. -/
def fieldsOf (g : Graph) (id : TypeId) : List (FieldId × Field) :=
  match g.type? id with
  | none => []
  | some t => t.fields.filterMap fun f => (g.field? f).map (f, ·)

/-- The types around `id`, starting with `id` itself and going outward for at most `steps` types. -/
def outward (g : Graph) : (steps : Nat) → (id : TypeId) → List TypeId
  | 0, _ => []
  | steps + 1, id =>
    match g.type? id with
    | none => []
    | some t =>
      id :: match t.declaringType with
        | none => []
        | some outer => outward g steps outer

/-- The types around `id` from the outermost to `id` itself. A walk of one step more than there are
types passes every type that is not in a cycle. -/
def nestingChain (g : Graph) (id : TypeId) : List TypeId :=
  (g.outward (g.types.length + 1) id).reverse

/-- The namespace of the outermost type around `id`. -/
def effectiveNs (g : Graph) (id : TypeId) : String :=
  match (g.nestingChain id).head?.bind g.type? with
  | none => ""
  | some t => t.ns

end Graph
end StubSource
