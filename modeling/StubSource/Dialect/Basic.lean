import StubSource.Draft
import StubSource.Naming

/-!
# Dialects

A dialect says how a target language spells what a source is made of: every field is a piece of
text to be written as it stands. The default dialect writes blocks in braces.
-/

namespace StubSource
set_option autoImplicit false

/-- What is written on both sides of something. -/
structure Frame where
  before : String := ""
  after : String := ""
  deriving DecidableEq, Repr, Inhabited

def Frame.around (f : Frame) (s : String) : String := f.before ++ s ++ f.after

/-- What is written on both sides of a list. -/
structure Brackets where
  opening : String := ""
  closing : String := ""
  deriving DecidableEq, Repr, Inhabited

/-- Items with separators between them, in brackets. A list without items has brackets only if
they are always to be written. -/
def Brackets.enclose (b : Brackets) (separator : String) (always : Bool) (items : List String) :
    String :=
  if always || !items.isEmpty then b.opening ++ String.intercalate separator items ++ b.closing
  else ""

/-- A block with a header. The start token has a line of its own, and may be empty. -/
structure BlockWords where
  header : String := ""
  start : String := "\x7b"
  finish : String := "\x7d"
  deriving DecidableEq, Repr, Inhabited

/-- The words around the definition of one kind of type. -/
structure KindWords where
  header : String := ""
  finish : String := ""
  deriving DecidableEq, Repr, Inhabited

structure TypeWords where
  classType : KindWords := ⟨"class ", "\x7d"⟩
  structType : KindWords := ⟨"struct ", "\x7d"⟩
  interfaceType : KindWords := ⟨"interface ", "\x7d"⟩
  enumType : KindWords := ⟨"enum ", "\x7d"⟩
  start : String := "\x7b"
  abstractWord : String := "abstract "
  sealedWord : String := "sealed "
  /-- Stands for abstract and sealed together. -/
  staticWord : String := "static "
  deriving DecidableEq, Repr, Inhabited

/-- Where a declaration has its type. -/
inductive TypePlacement where
  | beforeName
  | afterName
  deriving DecidableEq, Repr, Inhabited

structure DeclarationWords where
  placement : TypePlacement := .beforeName
  /-- Stands between a name and the type after it. -/
  annotation : String := " : "
  byRef : String := "ref "
  byValue : String := ""
  out : String := "out "
  fieldEnd : String := ";"
  deriving DecidableEq, Repr, Inhabited

structure ModifierWords where
  everyone : String := "public "
  ownType : String := "private "
  family : String := "protected "
  assembly : String := "internal "
  familyOrAssembly : String := "protected internal "
  familyAndAssembly : String := "private protected "
  staticWord : String := "static "
  abstractWord : String := "abstract "
  virtualWord : String := "virtual "
  overrideWord : String := "override "
  /-- Stands before the override word of a method that heirs may not override. -/
  sealedWord : String := "sealed "
  readOnlyWord : String := "readonly "
  deriving DecidableEq, Repr, Inhabited

/-- The mark for the return type in the text that returns a default value. -/
def typeMark : String := "\x7btype\x7d"

structure MethodWords where
  procedureWord : String := ""
  functionWord : String := ""
  /-- The name of every constructor; without it constructors are named after their type. -/
  constructorName : Option String := none
  voidType : String := "void"
  start : String := "\x7b"
  procedureFinish : String := "\x7d"
  functionFinish : String := "\x7d"
  /-- Returns the default value of the type that is put in for the mark. -/
  returnDefault : String := "return default(\x7btype\x7d);"
  abstractEnd : String := ";"
  deriving DecidableEq, Repr, Inhabited

/-- Which names are reserved, and how they are written all the same. -/
structure IdentifierRules where
  reserved : List String := []
  caseSensitive : Bool := true
  escape : Frame := ⟨"@", ""⟩
  deriving DecidableEq, Repr, Inhabited

namespace IdentifierRules

/-- Whether two words are the same; the case of ASCII letters may not count. -/
def sameWord (rules : IdentifierRules) (a b : String) : Bool :=
  if rules.caseSensitive then a == b
  else a.toList.map Char.toLower == b.toList.map Char.toLower

def isReserved (rules : IdentifierRules) (name : String) : Bool :=
  rules.reserved.any fun word => rules.sameWord word name

/-- A name that may be declared: reserved words are escaped. -/
def safeName (rules : IdentifierRules) (name : String) : String :=
  if rules.isReserved name then rules.escape.around name else name

end IdentifierRules

structure Dialect where
  name : String := "default"
  indent : IndentUnit := .spaces 4
  commentMark : String := "// "
  importLine : Frame := ⟨"using ", ";"⟩
  /-- The namespaces that every source imports. -/
  defaultImports : List String := []
  aliases : AliasTable := .empty
  /-- Types are shown with their namespaces. -/
  inFull : Bool := true
  namespaceBlock : BlockWords := ⟨"namespace ", "\x7b", "\x7d"⟩
  types : TypeWords := {}
  /-- The line that begins a region, around its label. -/
  region : Frame := ⟨"#region ", ""⟩
  regionEnd : String := "#endregion"
  generics : Brackets := ⟨"<", ">"⟩
  parameters : Brackets := ⟨"(", ")"⟩
  arrays : Brackets := ⟨"[", "]"⟩
  separator : String := ", "
  rankSeparator : String := ","
  pointerMark : String := "*"
  declarations : DeclarationWords := {}
  modifiers : ModifierWords := {}
  methods : MethodWords := {}
  identifiers : IdentifierRules := {}
  deriving DecidableEq, Inhabited

namespace Dialect

/-- The dialect that is used where none is given. -/
def braces : Dialect := {}

def withAliases (d : Dialect) (entries : List (String × String)) : Dialect :=
  { d with aliases := d.aliases.insertAll entries }

/-- How the dialect itself shows names. -/
def naming (d : Dialect) : Naming := ⟨d.aliases, d.inFull⟩

end Dialect
end StubSource
