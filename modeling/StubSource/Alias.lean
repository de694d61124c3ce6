import StubSource.Name
import StubSource.Text.Piece

/-!
# Aliases

An alias table gives names a second form, each name at most once, in the order in which the names
were first entered. Substitution reads a text from left to right. A key is found only where a name
begins and only if the name ends with it, the longest key wins, and what was put in for a key is
not read again.
-/

namespace StubSource
set_option autoImplicit false

/-- Gives `key` the value `shown`: in place if it is there already, else at the end. -/
def putEntry (key shown : String) : List (String × String) → List (String × String)
  | [] => [(key, shown)]
  | entry :: entries =>
    if entry.1 = key then (key, shown) :: entries else entry :: putEntry key shown entries

theorem mem_keys_putEntry {key shown k : String} {entries : List (String × String)} :
    k ∈ (putEntry key shown entries).map Prod.fst ↔ k = key ∨ k ∈ entries.map Prod.fst := by
  induction entries with
  | nil => simp [putEntry]
  | cons entry entries ih =>
    by_cases h : entry.1 = key
    · simp [putEntry, h]
    · simp only [putEntry, if_neg h, List.map_cons, List.mem_cons, ih]
      constructor
      · rintro (rfl | rfl | h') <;> simp_all
      · rintro (rfl | rfl | h') <;> simp_all

theorem nodup_keys_putEntry {key shown : String} {entries : List (String × String)}
    (unique : (entries.map Prod.fst).Nodup) :
    ((putEntry key shown entries).map Prod.fst).Nodup := by
  induction entries with
  | nil => simp [putEntry]
  | cons entry entries ih =>
    rw [List.map_cons, List.nodup_cons] at unique
    by_cases h : entry.1 = key
    · subst h
      simpa [putEntry] using unique
    · rw [putEntry, if_neg h, List.map_cons, List.nodup_cons, mem_keys_putEntry]
      exact ⟨fun hk => hk.elim h unique.1, ih unique.2⟩

/-- Names with their shown forms. -/
structure AliasTable where
  entries : List (String × String)
  /-- No name is entered twice. -/
  unique : (entries.map Prod.fst).Nodup
  deriving DecidableEq

namespace AliasTable

def empty : AliasTable := ⟨[], .nil⟩

instance : Inhabited AliasTable := ⟨empty⟩

/-- A name that is there already keeps its place and gets the new form. -/
def insert (table : AliasTable) (key shown : String) : AliasTable :=
  ⟨putEntry key shown table.entries, nodup_keys_putEntry table.unique⟩

def insertAll (table : AliasTable) (entries : List (String × String)) : AliasTable :=
  entries.foldl (fun t entry => t.insert entry.1 entry.2) table

def ofEntries (entries : List (String × String)) : AliasTable := empty.insertAll entries

/-- Whether `key` is the beginning of `text` and no name goes on after it. -/
def startsWithName (key text : List Char) : Bool :=
  match Text.after? key text with
  | none => false
  | some [] => true
  | some (c :: _) => !Name.isNameChar c

/-- The longest key that starts a text as a whole name, with its shown form. -/
def longest? (text : List Char) : List (String × String) → Option (String × String)
  | [] => none
  | entry :: entries =>
    let found := longest? text entries
    if entry.1.isEmpty || !startsWithName entry.1.toList text then found
    else match found with
      | none => some entry
      | some other => if other.1.length ≤ entry.1.length then some entry else some other

/-- Passes over `skip` characters and writes the rest with its names replaced. `fresh` tells that
no name is under way before the text. -/
def substituteFrom (entries : List (String × String)) :
    (fresh : Bool) → (skip : Nat) → List Char → List Char
  | _, _, [] => []
  | _, skip + 1, c :: text => substituteFrom entries (!Name.isNameChar c) skip text
  | fresh, 0, c :: text =>
    match if fresh then longest? (c :: text) entries else none with
    | some (key, shown) =>
      shown.toList ++ substituteFrom entries (!Name.isNameChar c) (key.length - 1) text
    | none => c :: substituteFrom entries (!Name.isNameChar c) 0 text

/-- The text with every name that is a key in its shown form. -/
def substitute (table : AliasTable) (text : String) : String :=
  String.ofList (substituteFrom table.entries true 0 text.toList)

end AliasTable
end StubSource
