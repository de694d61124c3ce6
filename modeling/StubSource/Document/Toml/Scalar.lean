import StubSource.Document.Toml.Moment
import StubSource.Document.Value

/-!
# TOML scalars

Truth values, numbers and moments. All of them are written without delimiters, so they are taken
from the text as one run of characters and told apart afterwards. What looks like a number from
afar is a value of the document even where no number can be made of it: it is then unusable, which
matters only to those who look at it.
-/

namespace StubSource.Toml
set_option autoImplicit false

/-- The characters at which a scalar ends. -/
def isBoundary (c : Char) : Bool :=
  c == '=' || c == ',' || c == '[' || c == ']' || c == '\x7b' || c == '\x7d' || c == '#' ||
    c == '\r' || c == '\n'

/-- Whether a scalar goes on behind blanks with the character `c`. -/
def beginsWord (c : Char) : Bool :=
  !(isBoundary c || c == '.' || c == quote || c == apostrophe)

/-- The run of characters of a scalar. Blanks belong to it where another word follows, as between a
date and a time. -/
def scalarRun : List Char → List Char
  | [] => []
  | c :: text =>
    if isBoundary c then []
    else if isSpace c then
      if (skipSpaces text).head?.any beginsWord then c :: scalarRun text else []
    else c :: scalarRun text

/-- The digits of a base up to sixteen. -/
def isDigitOf (base : Nat) (c : Char) : Bool := (hexDigit? c).any (· < base)

/-- The value of digits of any base up to sixteen. -/
def digitValue (base : Nat) (digits : List Char) : Nat :=
  digits.foldl (fun n c => base * n + (hexDigit? c).getD 0) 0

def withoutUnderscores (text : List Char) : List Char := text.filter (· != '_')

/-- Whether every underscore stands between two digits, in a text that itself follows a digit or
does not. -/
def underscoresFitAfter (isDigit : Char → Bool) : (digit : Bool) → List Char → Bool
  | _, [] => true
  | digit, '_' :: text =>
    digit && text.head?.any isDigit && underscoresFitAfter isDigit false text
  | _, c :: text => underscoresFitAfter isDigit (isDigit c) text

def underscoresFit (isDigit : Char → Bool) (text : List Char) : Bool :=
  underscoresFitAfter isDigit false text

/-- Whether a text has a minus at its front, and what follows the sign if there is one. -/
def splitSign : List Char → Bool × List Char
  | '+' :: text => (false, text)
  | '-' :: text => (true, text)
  | text => (false, text)

def withSign (negative : Bool) (n : Nat) : Int :=
  if negative then -Int.ofNat n else Int.ofNat n

/-- The whole number that is written in digits of a base. It has 128 bits at most. -/
def wholeNumber? (base : Nat) (negative : Bool) (digits : List Char) : Option Int :=
  let i := withSign negative (digitValue base digits)
  if !digits.isEmpty && digits.all (isDigitOf base) && -Int.ofNat (Nat.pow 2 127) ≤ i &&
      i < Int.ofNat (Nat.pow 2 128) then
    some i
  else none

/-- The value of what looks like a whole number. -/
def integer (base : Nat) (negative : Bool) (text written : List Char) : Value :=
  match wholeNumber? base negative (withoutUnderscores text) with
  | some i => .int i
  | none => .unusable (String.ofList written)

/-- A whole number behind the mark of its base. It may lack all digits, and is then unusable. -/
def marked? (base : Nat) (text written : List Char) : Option Value :=
  if text.all (fun c => isDigitOf base c || c == '_') && underscoresFit (isDigitOf base) text
  then some (integer base false text written)
  else none

/-- A decimal whole number, without a zero in front of others. Its underscores may stand between the
digits of any base. -/
def decimalInteger? (negative : Bool) (text written : List Char) : Option Value :=
  if text.isEmpty || (text.head? == some '0' && 1 < text.length) ||
      !underscoresFit (isDigitOf 16) text then
    none
  else some (integer 10 negative text written)

/-- The decimal digits at the front of a text, with underscores among them, and what follows. -/
def digitsAhead? (text : List Char) : Option (List Char × List Char) :=
  let run := text.takeWhile fun c => c.isDigit || c == '_'
  match withoutUnderscores run with
  | [] => none
  | digits => some (digits, text.drop run.length)

/-- A fraction, which may be left out, and what follows. -/
def fractionAhead? : List Char → Option (List Char × List Char)
  | '.' :: text => digitsAhead? text
  | text => some ([], text)

def isExponentMark (c : Char) : Bool := c == 'e' || c == 'E'

/-- An exponent, which may be left out, and what follows. -/
def exponentAhead? : List Char → Option (Int × List Char)
  | [] => some (0, [])
  | c :: text =>
    if isExponentMark c then
      let (negative, text) := splitSign text
      (digitsAhead? text).map fun found => (withSign negative (digitValue 10 found.1), found.2)
    else some (0, c :: text)

/-- Whether the decimal `digits` with their point moved by `exponent` places are within the range of
a double. Beyond it are the numbers from the middle between the largest double and the next
power of two on. The first test spares a power of ten that decides nothing. -/
def isInRange (digits : List Char) (exponent : Int) : Bool :=
  let digits := digits.dropWhile (· == '0')
  let places := Int.ofNat digits.length + exponent
  if digits.isEmpty || places ≤ 308 then true
  else if 309 < places then false
  else
    let limit := Nat.pow 2 1024 - Nat.pow 2 970
    if 0 ≤ exponent then digitValue 10 digits * Nat.pow 10 exponent.toNat < limit
    else digitValue 10 digits < limit * Nat.pow 10 (-exponent).toNat

/-- A number with a fraction, an exponent or both. Out of range it is unusable. -/
def decimal? (text written : List Char) : Option Value := do
  let (whole, rest) ← digitsAhead? text
  let (fraction, rest) ← fractionAhead? rest
  let (exponent, rest) ← exponentAhead? rest
  if !rest.isEmpty || (text.head? == some '0' && 1 < whole.length) ||
      !underscoresFit Char.isDigit text then
    none
  else if isInRange (whole ++ fraction) (exponent - Int.ofNat fraction.length) then
    some (.decimal (String.ofList written))
  else some (.unusable (String.ofList written))

/-- A number or a moment. What stands behind the first digits tells which. -/
def measured? (written : List Char) : Option Value :=
  let (negative, text) := splitSign written
  let rest := text.dropWhile Char.isDigit
  if rest.head? == some '-' || rest.head? == some ':' then
    (moment? written).map fun canonical => .moment (String.ofList canonical)
  else if rest.contains ' ' then none
  else if rest.any fun c => c == '.' || isExponentMark c then decimal? text written
  else if rest.isEmpty || rest.head? == some '_' then decimalInteger? negative text written
  else none

/-- The value of a run of characters. -/
def scalar? (written : List Char) : Option Value :=
  match written with
  | ['t', 'r', 'u', 'e'] => some (.bool true)
  | ['f', 'a', 'l', 's', 'e'] => some (.bool false)
  | '0' :: 'x' :: text => marked? 16 text written
  | '0' :: 'o' :: text => marked? 8 text written
  | '0' :: 'b' :: text => marked? 2 text written
  | _ =>
    let (_, text) := splitSign written
    if text = ['i', 'n', 'f'] ∨ text = ['n', 'a', 'n'] then some (.decimal (String.ofList written))
    else measured? written

end StubSource.Toml
