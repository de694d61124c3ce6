import StubSource.Text.Alphanumeric

/-!
# Metadata names

A qualified name is a namespace and a simple name with a full stop between them. A generic
type carries the number of its parameters behind an arity mark, as in ``List`1``.
-/

namespace StubSource.Name
set_option autoImplicit false

/-- Stands before the number of type parameters in a metadata name. -/
def arityMark : Char := '\x60'

/-- Characters that may stand in an identifier. -/
def isIdentifierChar (c : Char) : Bool :=
  Text.isAlphanumeric c || c == '_'

/-- Characters that continue a qualified name. -/
def isNameChar (c : Char) : Bool :=
  isIdentifierChar c || c == '.' || c == arityMark

/-- The part of a name before its first arity mark. -/
def dropArity (name : String) : String :=
  String.ofList (name.toList.takeWhile (· != arityMark))

/-- A name inside a namespace; the empty namespace adds nothing. -/
def qualify (ns name : String) : String :=
  if ns.isEmpty then name else ns ++ "." ++ name

end StubSource.Name
