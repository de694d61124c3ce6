/-!
# Pieces of a TOML text

Blanks, comments, strings and keys, each read from the front of the text. A reader answers with
what it found and the rest of the text, or with none where the text is malformed. Characters of
more than one use are named by their codes.
-/

namespace StubSource.Toml
set_option autoImplicit false

def quote : Char := '\x22'
def apostrophe : Char := '\x27'
def backslash : Char := '\x5c'

/-- Blanks within a line. -/
def isSpace (c : Char) : Bool := c == ' ' || c == '\t'

def skipSpaces (text : List Char) : List Char := text.dropWhile isSpace

/-- Control characters other than the tab stand in no comment and in no string. -/
def isPlain (c : Char) : Bool := c == '\t' || (0x20 ≤ c.toNat && c.toNat != 0x7f)

/-- Passes over blanks, line breaks and comments. -/
def skipTrivia : (inComment : Bool) → List Char → Option (List Char)
  | _, [] => some []
  | _, '\n' :: text => skipTrivia false text
  | _, '\r' :: '\n' :: text => skipTrivia false text
  | true, c :: text => if isPlain c then skipTrivia true text else none
  | false, c :: text =>
    if isSpace c then skipTrivia false text
    else if c = '#' then skipTrivia true text
    else some (c :: text)

/-- Passes over the rest of a comment, up to its line break. -/
def skipComment : List Char → Option (List Char)
  | [] => some []
  | '\n' :: text => some ('\n' :: text)
  | '\r' :: '\n' :: text => some ('\n' :: text)
  | c :: text => if isPlain c then skipComment text else none

/-- Passes over the end of a line, where only blanks and a comment may be left. -/
def endLine? (text : List Char) : Option (List Char) := do
  let text ← match skipSpaces text with
    | '#' :: rest => skipComment rest
    | rest => some rest
  match text with
  | [] => some []
  | '\n' :: rest => some rest
  | '\r' :: '\n' :: rest => some rest
  | _ => none

/-- What a hexadecimal digit is worth. -/
def hexDigit? (c : Char) : Option Nat :=
  if c.isDigit then some (c.toNat - 0x30)
  else if 'a' ≤ c && c ≤ 'f' then some (c.toNat - 0x61 + 10)
  else if 'A' ≤ c && c ≤ 'F' then some (c.toNat - 0x41 + 10)
  else none

/-- The character whose code is written in so many hexadecimal digits. -/
def codePoint? (count : Nat) (text : List Char) : Option Char := do
  let digits ← (text.take count).mapM hexDigit?
  let code := digits.foldl (fun n d => 16 * n + d) 0
  if digits.length = count ∧ code.isValidChar then some (Char.ofNat code) else none

/-- What stands behind a backslash: the character meant, and how many characters say so. -/
def escape? : List Char → Option (Char × Nat)
  | 'b' :: _ => some ('\x08', 1)
  | 't' :: _ => some ('\t', 1)
  | 'n' :: _ => some ('\n', 1)
  | 'f' :: _ => some ('\x0c', 1)
  | 'r' :: _ => some ('\r', 1)
  | 'u' :: text => (codePoint? 4 text).map (·, 5)
  | 'U' :: text => (codePoint? 8 text).map (·, 9)
  | c :: _ => if c = quote ∨ c = backslash then some (c, 1) else none
  | [] => none

/-- Puts a character in front of what a reader found. -/
def prepend (c : Char) (found : List Char × List Char) : List Char × List Char :=
  (c :: found.1, found.2)

/-- The rest of a string in quotes, after `skip` characters that were read with an escape. -/
def basicString? : (skip : Nat) → List Char → Option (List Char × List Char)
  | _, [] => none
  | skip + 1, _ :: text => basicString? skip text
  | 0, c :: text =>
    if c = quote then some ([], text)
    else if c = backslash then
      match escape? text with
      | none => none
      | some (d, length) => (basicString? length text).map (prepend d)
    else if isPlain c then (basicString? 0 text).map (prepend c)
    else none

/-- The rest of a string in apostrophes, in which every character stands for itself. -/
def literalString? : List Char → Option (List Char × List Char)
  | [] => none
  | c :: text =>
    if c = apostrophe then some ([], text)
    else if isPlain c then (literalString? text).map (prepend c)
    else none

/-- Whether three of the delimiter are next, and what is left. Up to two more belong to the string
before the end. -/
def longEnd? (delimiter : Char) (text : List Char) : Option (List Char × List Char) :=
  let run := (text.takeWhile (· == delimiter)).length
  if 3 ≤ run then
    let inside := min (run - 3) 2
    some (List.replicate inside delimiter, text.drop (inside + 3))
  else none

/-- The number of blanks and line breaks at the front of a text. -/
def gapLength : List Char → Nat
  | [] => 0
  | '\n' :: text => gapLength text + 1
  | '\r' :: '\n' :: text => gapLength text + 2
  | c :: text => if isSpace c then gapLength text + 1 else 0

/-- The length of the gap behind a backslash at the end of a line. -/
def gap? (text : List Char) : Option Nat :=
  match skipSpaces text with
  | '\n' :: _ | '\r' :: '\n' :: _ => some (gapLength text)
  | _ => none

/-- The rest of a string in triple quotes. -/
def longBasicString? : (skip : Nat) → List Char → Option (List Char × List Char)
  | _, [] => none
  | skip + 1, _ :: text => longBasicString? skip text
  | 0, c :: text =>
    match longEnd? quote (c :: text) with
    | some found => some found
    | none =>
      if c = backslash then
        match gap? text with
        | some length => longBasicString? length text
        | none =>
          match escape? text with
          | none => none
          | some (d, length) => (longBasicString? length text).map (prepend d)
      else if isPlain c || c == '\n' || (c == '\r' && text.head? == some '\n') then
        (longBasicString? 0 text).map (prepend c)
      else none

/-- The rest of a string in triple apostrophes. -/
def longLiteralString? : List Char → Option (List Char × List Char)
  | [] => none
  | c :: text =>
    match longEnd? apostrophe (c :: text) with
    | some found => some found
    | none =>
      if isPlain c || c == '\n' || (c == '\r' && text.head? == some '\n') then
        (longLiteralString? text).map (prepend c)
      else none

/-- A string over several lines does not begin with the line break after its delimiter. -/
def dropLineBreak : List Char → List Char
  | '\n' :: text => text
  | '\r' :: '\n' :: text => text
  | text => text

/-- A string of any of the four forms. -/
def string? : List Char → Option (List Char × List Char)
  | c :: text =>
    if c = quote then
      if text.take 2 = [quote, quote] then longBasicString? 0 (dropLineBreak (text.drop 2))
      else basicString? 0 text
    else if c = apostrophe then
      if text.take 2 = [apostrophe, apostrophe] then
        longLiteralString? (dropLineBreak (text.drop 2))
      else literalString? text
    else none
  | [] => none

def isBareKeyChar (c : Char) : Bool := c.isAlphanum || c == '_' || c == '-'

/-- One part of a key: bare, or a string on one line. -/
def keyPart? : List Char → Option (String × List Char)
  | [] => none
  | c :: text =>
    let asText := fun (found : List Char × List Char) => (String.ofList found.1, found.2)
    if c = quote then (basicString? 0 text).map asText
    else if c = apostrophe then (literalString? text).map asText
    else if isBareKeyChar c then some (asText ((c :: text).span isBareKeyChar))
    else none

/-- Nothing in a document is nested deeper than this: neither the parts of a key nor arrays and
inline tables inside each other. -/
def nestingLimit : Nat := 80

/-- A key of at most `parts` parts with full stops between them. -/
def keyWithin? : (parts : Nat) → List Char → Option (List String × List Char)
  | 0, _ => none
  | parts + 1, text => do
    let (first, rest) ← keyPart? (skipSpaces text)
    match skipSpaces rest with
    | '.' :: rest => do
      let (more, rest) ← keyWithin? parts rest
      return (first :: more, rest)
    | rest => return ([first], rest)

def key? (text : List Char) : Option (List String × List Char) := keyWithin? nestingLimit text

end StubSource.Toml
