import StubSource.Dialect.Basic
import StubSource.Writing.Fault

/-!
# Types as text

A scope is all that decides how a piece of metadata reads: the graph it belongs to, the dialect, and
how names are shown. What fits on one line is a text that depends on nothing else.
-/

namespace StubSource
set_option autoImplicit false

structure Scope where
  graph : Graph
  dialect : Dialect
  naming : Naming

namespace Scope

/-- A declared name, escaped where it is a reserved word. -/
def safeName (s : Scope) (name : String) : String := s.dialect.identifiers.safeName name

/-- A type name where it is used, without its arity. -/
def shownName (s : Scope) (ns name : String) : String :=
  s.naming.resolve (Name.qualify ns (Name.dropArity name)) ns

/-- A defined type where it is used. -/
def typeName (s : Scope) (t : TypeDef) : String := s.shownName t.ns t.name

/-- The definition that stands for a type argument: it has no arguments of its own and the graph
holds what it points to. -/
def definition? (s : Scope) : TypeRef → Option TypeDef
  | .named _ _ [] (some id) => s.graph.type? id
  | _ => none

mutual

/-- A reference to a type. -/
def typeRef (s : Scope) : TypeRef → String
  | .named ns name arguments _ =>
    shownName s ns name ++
      s.dialect.generics.enclose s.dialect.separator false (typeArguments s arguments)
  | .array element rank =>
    typeRef s element ++ s.dialect.arrays.opening ++
      String.join (List.replicate (rank.toNat - 1) s.dialect.rankSeparator) ++
      s.dialect.arrays.closing
  | .byRef element => s.dialect.declarations.byRef ++ typeRef s element
  | .pointer element => typeRef s element ++ s.dialect.pointerMark
  | .parameter name => safeName s name

/-- The arguments of a generic type, through their definitions where the graph has them. -/
def typeArguments (s : Scope) : List TypeRef → List String
  | [] => []
  | ref :: refs =>
    (match definition? s ref with
      | some t => typeName s t
      | none => typeRef s ref) :: typeArguments s refs

end

/-- The type parameters of a declaration. -/
def genericParameters (s : Scope) (ps : List GenericParameter) : String :=
  s.dialect.generics.enclose s.dialect.separator false (ps.map fun p => s.safeName p.name)

/-- A type where it is declared: its name and its type parameters. -/
def typeSignature (s : Scope) (t : TypeDef) : String :=
  s.safeName (Name.dropArity t.name) ++ s.genericParameters t.genericParameters

/-- The words around types of a kind. -/
def kindWords (s : Scope) : TypeKind → KindWords
  | .classType => s.dialect.types.classType
  | .structType => s.dialect.types.structType
  | .interfaceType => s.dialect.types.interfaceType
  | .enumType => s.dialect.types.enumType

/-- The modifier of a class. Other kinds are abstract or sealed by nature, which is not said. -/
def typeModifier (s : Scope) (t : TypeDef) : String :=
  if t.kind ≠ .classType then ""
  else if t.isStatic then s.dialect.types.staticWord
  else if t.isAbstract then s.dialect.types.abstractWord
  else if t.isSealed then s.dialect.types.sealedWord
  else ""

/-- The line that begins the definition of a type. -/
def typeHeader (s : Scope) (t : TypeDef) : String :=
  s.typeModifier t ++ (s.kindWords t.kind).header ++ s.typeSignature t

end Scope
end StubSource
