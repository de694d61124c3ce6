/-!
# Assembly versions

A version has four parts of sixteen bits. Its text gives two to four of them with full stops
between them, and the parts left out at the end are zero; it is always printed with all four.
-/

namespace StubSource
set_option autoImplicit false

structure Version where
  major : UInt16 := 0
  minor : UInt16 := 0
  build : UInt16 := 0
  revision : UInt16 := 0
  deriving DecidableEq, Repr, Inhabited

/-- Why a text is no version. -/
inductive VersionError where
  /-- There are fewer than two or more than four parts. -/
  | shape (text : String)
  /-- The first part that is no number of sixteen bits. -/
  | component (part text : String)
  deriving DecidableEq, Repr

def VersionError.message : VersionError → String
  | .shape text => "invalid version '" ++ text ++ "', expected 'X.Y.Z.W'"
  | .component part text => "invalid version component '" ++ part ++ "' in '" ++ text ++ "'"

namespace Version

/-- The value of a run of decimal digits; none if another character is among them. -/
def digits? (cs : List Char) : Option Nat :=
  if cs.all Char.isDigit then some (cs.foldl (fun n c => 10 * n + (c.toNat - '0'.toNat)) 0)
  else none

/-- A part is one or more digits behind an optional plus sign, worth at most 65535. -/
def part? (cs : List Char) : Option UInt16 :=
  let cs := if cs.head? = some '+' then cs.tail else cs
  if cs.isEmpty then none
  else match digits? cs with
    | some n => if n < 65536 then some n.toUInt16 else none
    | none => none

/-- Splits at every full stop. -/
def splitParts : List Char → List (List Char)
  | [] => [[]]
  | c :: rest =>
    if c = '.' then [] :: splitParts rest
    else match splitParts rest with
      | [] => [[c]]
      | part :: parts => (c :: part) :: parts

/-- Reads the parts in order; the first that is no part is the error. -/
def readParts (text : String) : List (List Char) → Except VersionError (List UInt16)
  | [] => .ok []
  | part :: parts =>
    match part? part with
    | none => .error (.component (String.ofList part) text)
    | some n => (readParts text parts).map (n :: ·)

def parse (text : String) : Except VersionError Version :=
  let parts := splitParts text.toList
  if 2 ≤ parts.length ∧ parts.length ≤ 4 then
    (readParts text parts).map fun ns =>
      ⟨ns.getD 0 0, ns.getD 1 0, ns.getD 2 0, ns.getD 3 0⟩
  else .error (.shape text)

protected def toString (v : Version) : String :=
  v.major.toNat.repr ++ "." ++ v.minor.toNat.repr ++ "." ++ v.build.toNat.repr ++ "." ++
    v.revision.toNat.repr

instance : ToString Version := ⟨Version.toString⟩

/-- Versions are ordered by their parts, the first one that differs deciding. -/
def cmp (a b : Version) : Ordering :=
  (compare a.major b.major).then <| (compare a.minor b.minor).then <|
    (compare a.build b.build).then <| compare a.revision b.revision

instance : Ord Version := ⟨cmp⟩

/-- The versions in increasing order. -/
def sort (vs : List Version) : List Version :=
  vs.mergeSort fun a b => (cmp a b).isLE

/-- The different versions of a list. -/
def distinct (vs : List Version) : List Version :=
  vs.eraseDups

end Version
end StubSource
