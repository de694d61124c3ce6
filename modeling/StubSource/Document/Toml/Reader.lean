import StubSource.Document.Toml.Scalar
import StubSource.Document.Toml.Tree

/-!
# TOML documents

A document is read statement by statement: an assignment, the header of a table, or an empty line.
Values may hold values. Their readers count the levels of nesting that are left, and they count
their steps down from a number that the length of the text makes large enough.
-/

namespace StubSource.Toml
set_option autoImplicit false

mutual

/-- A value with at most `levels` arrays and inline tables inside each other, and the rest of the
text. -/
def value? : (fuel levels : Nat) → List Char → Option (Value × List Char)
  | 0, _, _ => none
  | _, _, [] => none
  | fuel + 1, levels, c :: text =>
    if c = quote ∨ c = apostrophe then
      (string? (c :: text)).map fun found => (.text (String.ofList found.1), found.2)
    else if c = '[' then
      match levels with
      | 0 => none
      | levels + 1 => (items? fuel levels text).map fun found => (.list found.1, found.2)
    else if c = '\x7b' then
      match levels with
      | 0 => none
      | levels + 1 =>
        match skipSpaces text with
        | '\x7d' :: rest => some (.table [], rest)
        | rest =>
          (inlineEntries? fuel levels [] rest).map fun found =>
            (.table (entriesToFields found.1), found.2)
    else
      let run := scalarRun (c :: text)
      (scalar? run).map fun v => (v, (c :: text).drop run.length)

/-- The rest of an array. The comma after its last item may be left out. -/
def items? : (fuel levels : Nat) → List Char → Option (List Value × List Char)
  | 0, _, _ => none
  | fuel + 1, levels, text =>
    match skipTrivia false text with
    | none => none
    | some (']' :: rest) => some ([], rest)
    | some text =>
      match value? fuel levels text with
      | none => none
      | some (v, rest) =>
        match skipTrivia false rest with
        | some (',' :: rest) => (items? fuel levels rest).map fun found => (v :: found.1, found.2)
        | some (']' :: rest) => some ([v], rest)
        | _ => none

/-- The rest of an inline table, which has at least one more entry. -/
def inlineEntries? : (fuel levels : Nat) → Entries → List Char → Option (Entries × List Char)
  | 0, _, _, _ => none
  | fuel + 1, levels, entries, text =>
    match key? text with
    | some (key, '=' :: rest) =>
      match value? fuel levels (skipSpaces rest) with
      | none => none
      | some (v, rest) =>
        match Entries.insert? (.closed v) key true entries with
        | none => none
        | some entries =>
          match skipSpaces rest with
          | ',' :: rest => inlineEntries? fuel levels entries rest
          | '\x7d' :: rest => some (entries, rest)
          | _ => none
    | _ => none

end

/-- What has been read of a document: its tables, and the path of the last header. -/
structure Progress where
  root : Entries := []
  path : List String := []

/-- Reads the header of a table, or of the next table of a series, behind its opening brackets and
up to the end of its line. -/
def header? (progress : Progress) (isSeries : Bool) (text : List Char) :
    Option (Progress × List Char) := do
  let (path, rest) ← key? text
  match isSeries, rest with
  | false, ']' :: rest =>
    return ({ root := ← Entries.openTable? path progress.root, path }, ← endLine? rest)
  | true, ']' :: ']' :: rest =>
    return ({ root := ← Entries.openNext? path progress.root, path }, ← endLine? rest)
  | _, _ => none

/-- Reads one statement with the line break that ends it. -/
def statement? (progress : Progress) (text : List Char) : Option (Progress × List Char) :=
  match skipSpaces text with
  | [] => some (progress, [])
  | '#' :: rest => (endLine? ('#' :: rest)).map fun rest => (progress, rest)
  | '\n' :: rest => some (progress, rest)
  | '\r' :: '\n' :: rest => some (progress, rest)
  | '[' :: '[' :: rest => header? progress true rest
  | '[' :: rest => header? progress false rest
  | text =>
    match key? text with
    | some (key, '=' :: rest) => do
      let (v, rest) ← value? (rest.length + 1) nestingLimit (skipSpaces rest)
      let root ← Entries.insertUnder? progress.path key (.closed v) progress.root
      return ({ progress with root }, ← endLine? rest)
    | _ => none

def statements? : (fuel : Nat) → Progress → List Char → Option Progress
  | _, progress, [] => some progress
  | 0, _, _ :: _ => none
  | fuel + 1, progress, c :: text =>
    match statement? progress (c :: text) with
    | none => none
    | some (progress, rest) => statements? fuel progress rest

/-- The table that a document describes. A byte order mark in front of it does not count. -/
def parse? (document : String) : Option Value :=
  let text := match document.toList with
    | c :: rest => if c.toNat = 0xfeff then rest else c :: rest
    | [] => []
  (statements? text.length {} text).map fun progress => .table (entriesToFields progress.root)

end StubSource.Toml
