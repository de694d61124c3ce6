import StubSource.Document.Toml.Scan

/-!
# Dates and times

A moment is a date, a time of day, or a date with a time and perhaps an offset. It is read into its
canonical text: a capital T between date and time, the fraction of the second to the nanosecond and
without zeros at its end, a capital Z, and an offset of nothing ahead rather than behind.
-/

namespace StubSource.Toml
set_option autoImplicit false

/-- A number of exactly two digits. -/
def twoDigits? : List Char → Option (Nat × List Char)
  | a :: b :: rest =>
    if a.isDigit && b.isDigit then some (10 * (a.toNat - 0x30) + (b.toNat - 0x30), rest) else none
  | _ => none

def isLeapYear (year : Nat) : Bool :=
  year % 4 == 0 && (year % 100 != 0 || year % 400 == 0)

def daysIn (year month : Nat) : Nat :=
  if month == 2 then (if isLeapYear year then 29 else 28)
  else if month == 4 || month == 6 || month == 9 || month == 11 then 30
  else 31

/-- What follows a date at the front of a text. -/
def afterDate? (text : List Char) : Option (List Char) := do
  let (century, text) ← twoDigits? text
  let (yearOfCentury, text) ← twoDigits? text
  let year := 100 * century + yearOfCentury
  match text with
  | '-' :: text =>
    let (month, text) ← twoDigits? text
    match text with
    | '-' :: text =>
      let (day, text) ← twoDigits? text
      if 1 ≤ month ∧ month ≤ 12 ∧ 1 ≤ day ∧ day ≤ daysIn year month then some text else none
    | _ => none
  | _ => none

/-- What follows hours, minutes and seconds at the front of a text. A minute may have a leap
second. -/
def afterClock? (text : List Char) : Option (List Char) := do
  let (hour, text) ← twoDigits? text
  match text with
  | ':' :: text =>
    let (minute, text) ← twoDigits? text
    match text with
    | ':' :: text =>
      let (second, text) ← twoDigits? text
      if hour ≤ 23 ∧ minute ≤ 59 ∧ second ≤ 60 then some text else none
    | _ => none
  | _ => none

/-- The text of a fraction of a second; a fraction of zero is left out. -/
def fractionText (digits : List Char) : List Char :=
  match ((digits.take 9).reverse.dropWhile (· == '0')).reverse with
  | [] => []
  | digits => '.' :: digits

/-- A date in its canonical text, which has ten characters. -/
def date? (text : List Char) : Option (List Char × List Char) :=
  (afterDate? text).map fun rest => (text.take 10, rest)

/-- A time of day in its canonical text. -/
def time? (text : List Char) : Option (List Char × List Char) :=
  match afterClock? text with
  | none => none
  | some ('.' :: rest) =>
    let digits := rest.takeWhile Char.isDigit
    if digits.isEmpty then none
    else some (text.take 8 ++ fractionText digits, rest.drop digits.length)
  | some rest => some (text.take 8, rest)

/-- The canonical text of an offset: nothing, a Z, or hours and minutes behind a sign. -/
def offset? : List Char → Option (List Char)
  | [] => some []
  | [c] => if c == 'Z' || c == 'z' then some ['Z'] else none
  | c :: text =>
    if c == '+' || c == '-' then
      match twoDigits? text with
      | some (hours, ':' :: rest) =>
        match twoDigits? rest with
        | some (minutes, []) =>
          if hours ≤ 23 ∧ minutes ≤ 59 then
            some ((if hours = 0 ∧ minutes = 0 then '+' else c) :: text)
          else none
        | _ => none
      | _ => none
    else none

/-- The canonical text of a moment. -/
def moment? (text : List Char) : Option (List Char) :=
  match date? text with
  | some (date, []) => some date
  | some (date, c :: rest) =>
    if c == 'T' || c == 't' || c == ' ' then
      match time? rest with
      | some (time, rest) => (offset? rest).map fun offset => date ++ 'T' :: time ++ offset
      | none => none
    else none
  | none =>
    match time? text with
    | some (time, []) => some time
    | _ => none

end StubSource.Toml
