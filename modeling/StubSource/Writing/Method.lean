import StubSource.Writing.Line

/-!
# Methods

A method is its signature and what a body writer puts behind it.
-/

namespace StubSource.Scope
set_option autoImplicit false

open Write

/-- The declaration of a method under a name, without its modifiers. Constructors have neither a
return type nor type parameters. -/
def writeDeclaration (s : Scope) (m : Method) (name : String) : Write Unit := do
  let words := s.dialect.methods
  match s.dialect.declarations.placement with
  | .beforeName =>
    if !m.isConstructor then
      if m.returnsVoid then push words.voidType else s.writeTypeRef m.returnType
      push " "
    push name
    if !m.isConstructor then s.writeGenericParameters m.genericParameters
    s.writeParameters m.parameters
  | .afterName =>
    push (if m.isFunction then words.functionWord else words.procedureWord)
    push name
    if !m.isConstructor then s.writeGenericParameters m.genericParameters
    s.writeParameters m.parameters
    if m.isFunction then
      push s.dialect.declarations.annotation
      s.writeTypeRef m.returnType

/-- The signature of a method. The modifiers are there even if the name of a constructor is not. -/
def writeSignature (s : Scope) (m : Method) : Write Unit := do
  push (s.methodModifiers m)
  let name ← require (s.methodName m)
  s.writeDeclaration m name

/-- The statement that returns the default value of a type, on a line of its own. The first mark for
the type in the template of the dialect gives way to it. -/
def writeReturnDefault (s : Scope) (type : TypeRef) : Write Unit :=
  let template := s.dialect.methods.returnDefault
  match Text.cutAt? typeMark.toList template.toList with
  | some (before, after) => do
    push (String.ofList before)
    s.writeTypeRef type
    line (String.ofList after)
  | none => line template

/-- A body that compiles and does nothing: a block that returns a default value if one has to be
returned. Only abstract methods have no block. -/
def stubBody : BodyWriter := fun s m => do
  let words := s.dialect.methods
  if m.flags.isAbstract then line words.abstractEnd
  else
    openBlock words.start
    if m.isFunction then
      s.writeReturnDefault m.returnType
      closeBlock words.functionFinish
    else closeBlock words.procedureFinish

/-- A method with its body. -/
def writeMethod (s : Scope) (body : BodyWriter) (m : Method) : Write Unit := do
  s.writeSignature m
  body s m

end StubSource.Scope
