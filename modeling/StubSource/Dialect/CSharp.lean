import StubSource.Dialect.Basic

/-!
# The C# dialect

Blocks in braces, keywords for the framework types, reserved words behind an at sign.
-/

namespace StubSource.Dialect
set_option autoImplicit false

/-- Framework types that have a keyword of their own. -/
def csharpAliases : List (String × String) := [
  ("System.Object", "object"),
  ("System.String", "string"),
  ("System.Boolean", "bool"),
  ("System.Char", "char"),
  ("System.SByte", "sbyte"),
  ("System.Byte", "byte"),
  ("System.Int16", "short"),
  ("System.UInt16", "ushort"),
  ("System.Int32", "int"),
  ("System.UInt32", "uint"),
  ("System.Int64", "long"),
  ("System.UInt64", "ulong"),
  ("System.Single", "float"),
  ("System.Double", "double"),
  ("System.Decimal", "decimal"),
  ("System.Void", "void")]

/-- The keywords that are reserved everywhere. -/
def csharpReserved : List String := [
  "abstract", "as", "base", "bool", "break", "byte", "case", "catch", "char", "checked",
  "class", "const", "continue", "decimal", "default", "delegate", "do", "double", "else",
  "enum", "event", "explicit", "extern", "false", "finally", "fixed", "float", "for",
  "foreach", "goto", "if", "implicit", "in", "int", "interface", "internal", "is", "lock",
  "long", "namespace", "new", "null", "object", "operator", "out", "override", "params",
  "private", "protected", "public", "readonly", "ref", "return", "sbyte", "sealed", "short",
  "sizeof", "stackalloc", "static", "string", "struct", "switch", "this", "throw", "true",
  "try", "typeof", "uint", "ulong", "unchecked", "unsafe", "ushort", "using", "virtual",
  "void", "volatile", "while"]

def csharp : Dialect where
  name := "csharp"
  defaultImports := ["System", "System.Collections.Generic", "System.Text"]
  aliases := .ofEntries csharpAliases
  identifiers := { reserved := csharpReserved }

end StubSource.Dialect
