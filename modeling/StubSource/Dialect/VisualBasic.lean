import StubSource.Dialect.Basic

/-!
# The Visual Basic dialect

Blocks that end with a word, types behind names, reserved words in square brackets whatever their
case. There are no pointers: a pointer is written as what it points to.
-/

namespace StubSource.Dialect
set_option autoImplicit false

/-- Framework types that have a keyword of their own. -/
def visualBasicAliases : List (String × String) := [
  ("System.Object", "Object"),
  ("System.String", "String"),
  ("System.Boolean", "Boolean"),
  ("System.Char", "Char"),
  ("System.SByte", "SByte"),
  ("System.Byte", "Byte"),
  ("System.Int16", "Short"),
  ("System.UInt16", "UShort"),
  ("System.Int32", "Integer"),
  ("System.UInt32", "UInteger"),
  ("System.Int64", "Long"),
  ("System.UInt64", "ULong"),
  ("System.Single", "Single"),
  ("System.Double", "Double"),
  ("System.Decimal", "Decimal"),
  ("System.DateTime", "Date")]

def visualBasicReserved : List String := [
  "AddHandler", "AddressOf", "Alias", "And", "AndAlso", "As", "Boolean", "ByRef", "Byte",
  "ByVal", "Call", "Case", "Catch", "CBool", "CByte", "CChar", "CDate", "CDbl", "CDec", "Char",
  "CInt", "Class", "CLng", "CObj", "Const", "Continue", "CSByte", "CShort", "CSng", "CStr",
  "CType", "CUInt", "CULng", "CUShort", "Date", "Decimal", "Declare", "Default", "Delegate",
  "Dim", "DirectCast", "Do", "Double", "Each", "Else", "ElseIf", "End", "EndIf", "Enum",
  "Erase", "Error", "Event", "Exit", "False", "Finally", "For", "Friend", "Function", "Get",
  "GetType", "GetXMLNamespace", "Global", "GoSub", "GoTo", "Handles", "If", "Implements",
  "Imports", "In", "Inherits", "Integer", "Interface", "Is", "IsNot", "Let", "Lib", "Like",
  "Long", "Loop", "Me", "Mod", "Module", "MustInherit", "MustOverride", "MyBase", "MyClass",
  "Namespace", "Narrowing", "New", "Next", "Not", "Nothing", "NotInheritable",
  "NotOverridable", "Object", "Of", "On", "Operator", "Option", "Optional", "Or", "OrElse",
  "Overloads", "Overridable", "Overrides", "ParamArray", "Partial", "Private", "Property",
  "Protected", "Public", "RaiseEvent", "ReadOnly", "ReDim", "REM", "RemoveHandler", "Resume",
  "Return", "SByte", "Select", "Set", "Shadows", "Shared", "Short", "Single", "Static", "Step",
  "Stop", "String", "Structure", "Sub", "SyncLock", "Then", "Throw", "To", "True", "Try",
  "TryCast", "TypeOf", "UInteger", "ULong", "UShort", "Using", "Variant", "Wend", "When",
  "While", "Widening", "With", "WithEvents", "WriteOnly", "Xor"]

def visualBasic : Dialect where
  name := "vb"
  commentMark := "' "
  importLine := ⟨"Imports ", ""⟩
  defaultImports := ["System", "System.Collections.Generic", "System.Text"]
  aliases := .ofEntries visualBasicAliases
  namespaceBlock := ⟨"Namespace ", "", "End Namespace"⟩
  types := {
    classType := ⟨"Class ", "End Class"⟩
    structType := ⟨"Structure ", "End Structure"⟩
    interfaceType := ⟨"Interface ", "End Interface"⟩
    enumType := ⟨"Enum ", "End Enum"⟩
    start := ""
    abstractWord := "MustInherit "
    sealedWord := "NotInheritable "
    staticWord := "NotInheritable " }
  region := ⟨"#Region ", ""⟩
  regionEnd := "#End Region"
  generics := ⟨"(Of ", ")"⟩
  arrays := ⟨"(", ")"⟩
  pointerMark := ""
  declarations := {
    placement := .afterName
    annotation := " As "
    byRef := "ByRef "
    byValue := "ByVal "
    out := "ByRef "
    fieldEnd := "" }
  modifiers := {
    everyone := "Public "
    ownType := "Private "
    family := "Protected "
    assembly := "Friend "
    familyOrAssembly := "Protected Friend "
    familyAndAssembly := "Private Protected "
    staticWord := "Shared "
    abstractWord := "MustOverride "
    virtualWord := "Overridable "
    overrideWord := "Overrides "
    sealedWord := "NotOverridable "
    readOnlyWord := "ReadOnly " }
  methods := {
    procedureWord := "Sub "
    functionWord := "Function "
    constructorName := some "New"
    voidType := ""
    start := ""
    procedureFinish := "End Sub"
    functionFinish := "End Function"
    returnDefault := "Return Nothing"
    abstractEnd := "" }
  identifiers := {
    reserved := visualBasicReserved
    caseSensitive := false
    escape := ⟨"[", "]"⟩ }

end StubSource.Dialect
