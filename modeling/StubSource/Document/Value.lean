/-!
# Document values

The tree that a configuration or metadata document holds, whatever its surface form, and the
small readers from which the readers of records are put together. A reader answers with none
when the value has another shape than the one asked for.
-/

namespace StubSource
set_option autoImplicit false

inductive Value where
  | null
  | bool (b : Bool)
  | int (i : Int)
  /-- A number with a fraction or an exponent, as it was written. -/
  | decimal (digits : String)
  | text (s : String)
  /-- What is written like a number and is none that a reader can take, being too large or having
  other characters among its digits. -/
  | unusable (written : String)
  /-- A date, a time of day or both, in its canonical text. -/
  | moment (s : String)
  | list (items : List Value)
  | table (fields : List (String × Value))
  deriving Repr, Inhabited

/-- The named values of a table. -/
abbrev Fields := List (String × Value)

/-- The kinds of documents. -/
inductive Format where
  | json
  | toml
  deriving DecidableEq, Repr

/-- How a document says that a choice holds nothing of its own: by null, or by an empty list or
table where there is no null. -/
def Format.isNothing : Format → Value → Bool
  | .json, .null => true
  | .toml, .list items => items.isEmpty
  | .toml, .table fields => fields.isEmpty
  | _, _ => false

namespace Value

def bool? : Value → Option Bool
  | .bool b => some b
  | _ => none

def text? : Value → Option String
  | .text s => some s
  | _ => none

def table? : Value → Option Fields
  | .table fields => some fields
  | _ => none

/-- A whole number from zero up to, but not including, `limit`. -/
def natBelow? (limit : Nat) : Value → Option Nat
  | .int (.ofNat n) => if n < limit then some n else none
  | _ => none

def uint8? (v : Value) : Option UInt8 :=
  (v.natBelow? 0x100).map Nat.toUInt8

def uint16? (v : Value) : Option UInt16 :=
  (v.natBelow? 0x10000).map Nat.toUInt16

def uint32? (v : Value) : Option UInt32 :=
  (v.natBelow? 0x100000000).map Nat.toUInt32

/-- The name of one of several choices: a text, or the only key of a table that holds nothing of
its own. -/
def choice? (format : Format) : Value → Option String
  | .text s => some s
  | .table [(key, v)] => if format.isNothing v then some key else none
  | _ => none

/-- A list in which every item can be read. -/
def list? {α : Type} (read : Value → Option α) : Value → Option (List α)
  | .list items => items.mapM read
  | _ => none

/-- Null is read as nothing; anything else has to be readable. -/
def optional? {α : Type} (read : Value → Option α) : Value → Option (Option α)
  | .null => some none
  | v => (read v).map some

def ofNat (n : Nat) : Value := .int (.ofNat n)

def ofOption {α : Type} (write : α → Value) : Option α → Value
  | none => .null
  | some a => write a

def ofList {α : Type} (write : α → Value) (items : List α) : Value :=
  .list (items.map write)

theorem natBelow?_ofNat {n limit : Nat} (h : n < limit) : (ofNat n).natBelow? limit = some n := by
  simp [ofNat, natBelow?, h]

theorem list?_ofList {α : Type} {read : Value → Option α} {write : α → Value} {items : List α}
    (h : ∀ a ∈ items, read (write a) = some a) : (ofList write items).list? read = some items := by
  simp only [list?, ofList]
  induction items with
  | nil => rfl
  | cons a items ih =>
    have hs := ih fun b hb => h b (List.mem_cons_of_mem a hb)
    simp [h a List.mem_cons_self, hs]

end Value

namespace Fields

/-- A field that has to be there. -/
def required? {α : Type} (fields : Fields) (key : String) (read : Value → Option α) : Option α :=
  (fields.lookup key).bind read

/-- A field that may be left out, and then has the value `fallback`. -/
def field? {α : Type} (fields : Fields) (key : String) (read : Value → Option α) (fallback : α) :
    Option α :=
  match fields.lookup key with
  | none => some fallback
  | some v => read v

end Fields
end StubSource
