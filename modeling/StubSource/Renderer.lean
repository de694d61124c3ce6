import StubSource.Writing.Source

/-!
# Renderers

A renderer answers requests for source text. Every request starts on a blank sheet, so no answer
depends on another one.
-/

namespace StubSource
set_option autoImplicit false

structure Renderer where
  scope : Scope
  body : BodyWriter := Scope.stubBody

/-- A text or the fault that prevented it, and what was noted on the way. -/
structure Outcome where
  result : Except Fault String
  journal : List Note

namespace Renderer

open Write

/-- A renderer that shows names as the dialect does. -/
def ofDialect (graph : Graph) (dialect : Dialect) : Renderer :=
  { scope := { graph, dialect, naming := dialect.naming } }

def withAlias (r : Renderer) (key shown : String) : Renderer :=
  { r with scope := { r.scope with naming := r.scope.naming.withAlias key shown } }

/-- Shows names with their namespaces, or without. -/
def showingInFull (r : Renderer) (inFull : Bool) : Renderer :=
  { r with scope := { r.scope with naming := { r.scope.naming with inFull } } }

def withBody (r : Renderer) (body : BodyWriter) : Renderer := { r with body }

/-- What a writer leaves on a blank sheet. -/
def answer (r : Renderer) (w : Write Unit) : Outcome :=
  let (result, sheet) := w.runOn (.blank r.scope.dialect)
  { result := result.map fun _ => sheet.draft.text, journal := sheet.journal }

/-- Notes a request under the name of the dialect. -/
def noteRequest (r : Renderer) (message : String) : Write Unit :=
  note .debug (r.scope.dialect.name ++ ": " ++ message)

def methodSignature (r : Renderer) (id : MethodId) : Outcome := r.answer do
  let m ← require (r.scope.graph.findMethod id)
  r.noteRequest ("signature of method `" ++ m.name ++ "` (" ++ toString id ++ ")")
  r.scope.writeSignature m

def method (r : Renderer) (id : MethodId) : Outcome := r.answer do
  let m ← require (r.scope.graph.findMethod id)
  r.noteRequest ("method `" ++ m.name ++ "` (" ++ toString id ++ ")")
  r.scope.writeMethod r.body m

def field (r : Renderer) (id : FieldId) : Outcome := r.answer do
  let f ← require (r.scope.graph.findField id)
  r.noteRequest ("field `" ++ f.name ++ "` (" ++ toString id ++ ")")
  r.scope.writeField f

def typeSignature (r : Renderer) (id : TypeId) : Outcome := r.answer do
  let t ← require (r.scope.graph.findType id)
  r.noteRequest ("signature of type `" ++ t.fullName ++ "` (" ++ toString id ++ ")")
  r.scope.writeTypeSignature t

/-- The source for editing a method, with the references that it lists. -/
def source (r : Renderer) (target : MethodId) (references : List AssemblyRef) : Outcome :=
  r.answer do
    let m ← require (r.scope.graph.findMethod target)
    let owner ← require m.owner
    let t ← require (r.scope.graph.findType owner)
    r.noteRequest ("source for `" ++ t.fullName ++ "::" ++ m.name ++ "` with " ++
      references.length.repr ++ " references")
    r.scope.writeSource r.body target owner references

/-- The source for editing a method, with the references of the graph. -/
def sourceOfGraph (r : Renderer) (target : MethodId) : Outcome :=
  r.source target r.scope.graph.references

end Renderer
end StubSource
