import StubSource.Text.Blank
import StubSource.Text.Piece

/-!
# Places in a document

A complaint about a field points to where the document assigns it. The place is found line by line
in the text alone: it is the first line of the form blanks, key, blanks, equals sign, even if that
line lies inside a string.
-/

namespace StubSource
set_option autoImplicit false

/-- A piece of a document in UTF-8 bytes. -/
structure Span where
  offset : Nat
  length : Nat
  deriving DecidableEq, Repr, Inhabited

namespace Span

/-- The number of bytes of a text. -/
def bytes (text : List Char) : Nat := text.foldr (fun c size => c.utf8Size + size) 0

/-- Whether a line assigns `key`: blanks, the key, blanks and an equals sign. -/
def assigns (key line : List Char) : Bool :=
  match Text.after? key (Text.trimStart line) with
  | none => false
  | some rest => (Text.trimStart rest).head? == some '='

/-- The lines of a text, each with the line break that ends it. -/
def lines : List Char → List (List Char)
  | [] => []
  | c :: text =>
    if c = '\n' then [c] :: lines text
    else match lines text with
      | [] => [[c]]
      | line :: rest => (c :: line) :: rest

/-- The key in the first of some lines that assigns it; `offset` bytes come before the lines. -/
def ofKeyIn? (key : List Char) : (offset : Nat) → (lines : List (List Char)) → Option Span
  | _, [] => none
  | offset, line :: rest =>
    if assigns key line then some ⟨offset + bytes (line.takeWhile Text.isBlank), bytes key⟩
    else ofKeyIn? key (offset + bytes line) rest

/-- The place where a document assigns `key`, as far as one can tell line by line. -/
def ofKey? (document key : String) : Option Span :=
  if key.isEmpty then none else ofKeyIn? key.toList 0 (lines document.toList)

end Span
end StubSource
