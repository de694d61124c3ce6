import StubSource.Writing.Declaration
import StubSource.Writing.Sheet

/-!
# Writers within a line

Types, parameters and fields on a sheet, written piece by piece. A list is written item by item, and
it stops where an item of it stops.
-/

namespace StubSource.Scope
set_option autoImplicit false

open Write

/-- A defined type where it is used. -/
def writeTypeName (s : Scope) (t : TypeDef) : Write Unit := push (s.typeName t)

mutual

/-- A reference to a type. -/
def writeTypeRef (s : Scope) : TypeRef → Write Unit
  | .named ns name arguments _ => do
    push (s.shownName ns name)
    enclosed s.dialect.generics s.dialect.separator false (argumentWriters s arguments)
  | .array element rank => do
    writeTypeRef s element
    push s.dialect.arrays.opening
    (List.replicate (rank.toNat - 1) s.dialect.rankSeparator).forM push
    push s.dialect.arrays.closing
  | .byRef element => do
    push s.dialect.declarations.byRef
    writeTypeRef s element
  | .pointer element => do
    writeTypeRef s element
    push s.dialect.pointerMark
  | .parameter name => push (s.safeName name)

/-- The arguments of a generic type, through their definitions where the graph has them. -/
def argumentWriters (s : Scope) : List TypeRef → List (Write Unit)
  | [] => []
  | ref :: refs =>
    (match definition? s ref with
      | some t => writeTypeName s t
      | none => writeTypeRef s ref) :: argumentWriters s refs

end

/-- The type parameters of a declaration. -/
def writeGenericParameters (s : Scope) (ps : List GenericParameter) : Write Unit :=
  enclosed s.dialect.generics s.dialect.separator false (ps.map fun p => push (s.safeName p.name))

/-- A type where it is declared. -/
def writeTypeSignature (s : Scope) (t : TypeDef) : Write Unit := do
  push (s.safeName (Name.dropArity t.name))
  s.writeGenericParameters t.genericParameters

/-- The line that begins the definition of a type. -/
def writeTypeHeader (s : Scope) (t : TypeDef) : Write Unit := do
  push (s.typeModifier t)
  push (s.kindWords t.kind).header
  s.writeTypeSignature t

/-- A name with its type, on the side where the dialect puts it. -/
def writeTypedName (s : Scope) (name : String) (type : TypeRef) : Write Unit := do
  match s.dialect.declarations.placement with
  | .beforeName =>
    s.writeTypeRef type
    push " "
    push name
  | .afterName =>
    push name
    push s.dialect.declarations.annotation
    s.writeTypeRef type

/-- A parameter. One passed by reference shows this by a word, and its type is the one behind the
reference. -/
def writeParameter (s : Scope) (p : Parameter) : Write Unit := do
  let words := s.dialect.declarations
  match p.type with
  | .byRef element =>
    push (if p.isOut then words.out else words.byRef)
    s.writeTypedName (s.safeName p.name) element
  | type =>
    push words.byValue
    s.writeTypedName (s.safeName p.name) type

/-- The parameters of a method, always in brackets. -/
def writeParameters (s : Scope) (ps : List Parameter) : Write Unit :=
  enclosed s.dialect.parameters s.dialect.separator true (ps.map s.writeParameter)

/-- A field, up to the end of its declaration. Constants are static. -/
def writeField (s : Scope) (f : Field) : Write Unit := do
  push (s.visibility f.visibility)
  if f.isStatic || f.isLiteral then push s.dialect.modifiers.staticWord
  if f.isReadOnly then push s.dialect.modifiers.readOnlyWord
  s.writeTypedName (s.safeName f.name) f.type
  push s.dialect.declarations.fieldEnd

end StubSource.Scope
