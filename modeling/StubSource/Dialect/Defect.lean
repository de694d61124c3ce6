import StubSource.Dialect.Basic
import StubSource.Text.Blank
import StubSource.Text.Piece

/-!
# Defects of a dialect

A dialect can be well formed and still spoil every source. The defects are looked for in a fixed
order, and the first one is reported with the field at fault.
-/

namespace StubSource
set_option autoImplicit false

inductive Defect where
  | blankName
  | blankComment
  | noIndent
  /-- The text that returns a default value has a brace outside the mark for the type. -/
  | strayBrace
  | emptyAlias
  | blankImport
  deriving DecidableEq, Repr

namespace Defect

def message : Defect → String
  | .blankName => "backend name must not be empty"
  | .blankComment => "comment_prefix must contain a comment marker"
  | .noIndent => "indent width must be at least one space"
  | .strayBrace => "return_default may only use the " ++ typeMark ++ " placeholder"
  | .emptyAlias => "alias names must not be empty"
  | .blankImport => "default_imports must not contain empty entries"

/-- The field at fault. -/
def key : Defect → String
  | .blankName => "name"
  | .blankComment => "comment_prefix"
  | .noIndent => "indent"
  | .strayBrace => "return_default"
  | .emptyAlias => "aliases"
  | .blankImport => "default_imports"

end Defect

/-- Whether a template has a brace that is no part of a mark for the type. -/
def hasStrayBrace (template : String) : Bool :=
  (Text.replaceAll typeMark.toList [] template.toList).any fun c => c == '\x7b' || c == '\x7d'

/-- The first defect of a dialect. -/
def Dialect.defect? (d : Dialect) : Option Defect :=
  if Text.isBlankText d.name then some .blankName
  else if Text.isBlankText d.commentMark then some .blankComment
  else if d.indent = .spaces 0 then some .noIndent
  else if hasStrayBrace d.methods.returnDefault then some .strayBrace
  else if d.aliases.entries.any (·.1.isEmpty) then some .emptyAlias
  else if d.defaultImports.any Text.isBlankText then some .blankImport
  else none

end StubSource
