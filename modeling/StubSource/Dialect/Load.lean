import StubSource.Dialect.Defect
import StubSource.Dialect.Document
import StubSource.Document.Span
import StubSource.Document.Toml.Reader

/-!
# Loading dialects

A dialect is loaded from a TOML document. Loading fails if the document cannot be had, if it is no
TOML or gives a field another kind of value, or if the dialect that it describes has a defect.
-/

namespace StubSource
set_option autoImplicit false

inductive LoadError where
  | unreadable (file : String)
  | malformed (file : String)
  /-- The dialect has a defect; the span is where the document assigns the field at fault. -/
  | defective (file : String) (defect : Defect) (span : Option Span)
  deriving DecidableEq, Repr

def LoadError.message : LoadError → String
  | .unreadable file => "failed to read backend configuration '" ++ file ++ "'"
  | .malformed _ => "failed to parse backend configuration"
  | .defective _ defect _ => defect.message

namespace Dialect

/-- The name of a document that has no file. -/
def defaultFile : String := "backend.toml"

/-- Passes a dialect on unless it has a defect. -/
def checked (d : Dialect) (file document : String) : Except LoadError Dialect :=
  match d.defect? with
  | some defect => .error (.defective file defect (Span.ofKey? document defect.key))
  | none => .ok d

def load (file document : String) : Except LoadError Dialect :=
  match (Toml.parse? document).bind (ofValue? .toml) with
  | none => .error (.malformed file)
  | some d => d.checked file document

/-- Loads a dialect from what a file holds; there is nothing to load if the file does not exist or
is not encoded in UTF-8. -/
def loadFile (file : String) (content : Option ByteArray) : Except LoadError Dialect :=
  match content.bind String.fromUTF8? with
  | none => .error (.unreadable file)
  | some document => load file document

end Dialect
end StubSource
