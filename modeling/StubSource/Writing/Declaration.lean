import StubSource.Text.Piece
import StubSource.Writing.Scope

/-!
# Members as text

Declarations of parameters, fields and methods. Only a constructor can lack a text, since it may be
named after a type that is not there.
-/

namespace StubSource.Scope
set_option autoImplicit false

/-- A name with its type, on the side where the dialect puts it. -/
def typedName (s : Scope) (name type : String) : String :=
  match s.dialect.declarations.placement with
  | .beforeName => type ++ " " ++ name
  | .afterName => name ++ s.dialect.declarations.annotation ++ type

/-- A parameter. One passed by reference shows this by a word, and its type is the one behind the
reference. -/
def parameter (s : Scope) (p : Parameter) : String :=
  let words := s.dialect.declarations
  match p.type with
  | .byRef element =>
    (if p.isOut then words.out else words.byRef) ++
      s.typedName (s.safeName p.name) (s.typeRef element)
  | type => words.byValue ++ s.typedName (s.safeName p.name) (s.typeRef type)

/-- The parameters of a method, always in brackets. -/
def parameters (s : Scope) (ps : List Parameter) : String :=
  s.dialect.parameters.enclose s.dialect.separator true (ps.map s.parameter)

def visibility (s : Scope) : Visibility → String
  | .everyone => s.dialect.modifiers.everyone
  | .ownType => s.dialect.modifiers.ownType
  | .family => s.dialect.modifiers.family
  | .assembly => s.dialect.modifiers.assembly
  | .familyOrAssembly => s.dialect.modifiers.familyOrAssembly
  | .familyAndAssembly => s.dialect.modifiers.familyAndAssembly

/-- A field, up to the end of its declaration. Constants are static. -/
def field (s : Scope) (f : Field) : String :=
  s.visibility f.visibility ++
    (if f.isStatic || f.isLiteral then s.dialect.modifiers.staticWord else "") ++
    (if f.isReadOnly then s.dialect.modifiers.readOnlyWord else "") ++
    s.typedName (s.safeName f.name) (s.typeRef f.type) ++ s.dialect.declarations.fieldEnd

/-- The modifiers of a method. A type initialiser has no visibility, and of what a method is to its
heirs only the strongest is said. -/
def methodModifiers (s : Scope) (m : Method) : String :=
  let words := s.dialect.modifiers
  (if m.name = Method.initialiserName then "" else s.visibility m.visibility) ++
    (if m.flags.isStatic then words.staticWord else "") ++
    (if m.flags.isAbstract then words.abstractWord
      else if m.flags.isOverride then
        (if m.flags.isFinal then words.sealedWord else "") ++ words.overrideWord
      else if m.flags.isVirtual && !m.flags.isFinal then words.virtualWord
      else "")

/-- The name of a constructor: the one that the dialect fixes, or that of its type. -/
def constructorName (s : Scope) (m : Method) : Except Fault String :=
  match s.dialect.methods.constructorName with
  | some name => .ok name
  | none => do
    let t ← s.graph.findType (← m.owner)
    return s.safeName (Name.dropArity t.name)

/-- The name under which a method is declared. -/
def methodName (s : Scope) (m : Method) : Except Fault String :=
  if m.isConstructor then s.constructorName m else .ok (s.safeName m.name)

/-- The declaration of a method under a name, without its modifiers. Constructors have neither a
return type nor type parameters. -/
def methodDeclaration (s : Scope) (m : Method) (name : String) : String :=
  let words := s.dialect.methods
  let typeParameters := if m.isConstructor then "" else s.genericParameters m.genericParameters
  match s.dialect.declarations.placement with
  | .beforeName =>
    (if m.isConstructor then ""
      else (if m.returnsVoid then words.voidType else s.typeRef m.returnType) ++ " ") ++
      name ++ typeParameters ++ s.parameters m.parameters
  | .afterName =>
    (if m.isFunction then words.functionWord else words.procedureWord) ++
      name ++ typeParameters ++ s.parameters m.parameters ++
      (if m.isFunction then s.dialect.declarations.annotation ++ s.typeRef m.returnType else "")

/-- The statement that returns the default value of a type: the first mark for the type in the
template of the dialect gives way to it. -/
def returnDefault (s : Scope) (type : TypeRef) : String :=
  let template := s.dialect.methods.returnDefault
  match Text.cutAt? typeMark.toList template.toList with
  | some (before, after) => String.ofList before ++ s.typeRef type ++ String.ofList after
  | none => template

end StubSource.Scope
