/-!
# Pieces of a text

Finding one text inside another. Texts are lists of characters here, so that every function
follows its argument from the front; matches are taken from left to right and never overlap.
-/

namespace StubSource.Text
set_option autoImplicit false

/-- What follows `lead` in a text that starts with it. -/
def after? : (lead text : List Char) → Option (List Char)
  | [], text => some text
  | _ :: _, [] => none
  | c :: lead, d :: text => if c = d then after? lead text else none

theorem after?_eq_some {lead text rest : List Char} :
    after? lead text = some rest ↔ text = lead ++ rest := by
  induction lead generalizing text with
  | nil => simp [after?]
  | cons c lead ih =>
    cases text with
    | nil => simp [after?]
    | cons d text =>
      by_cases h : c = d
      · subst h
        simp [after?, ih]
      · simp [after?, h, Ne.symm h]

/-- A run of characters of one kind ends where the kind does. -/
theorem takeWhile_append_run {p : Char → Bool} {run rest : List Char} (inRun : ∀ c ∈ run, p c)
    (stops : ∀ c ∈ rest.head?, p c = false) : (run ++ rest).takeWhile p = run := by
  rw [List.takeWhile_append_of_pos inRun]
  cases rest with
  | nil => simp
  | cons c rest => simp [stops c rfl]

/-- Takes `lead` off the front of a text, as often as it is there but at most `count` times. An
empty `lead` is nowhere. -/
def dropLeads (lead : List Char) : (count : Nat) → List Char → List Char
  | 0, text => text
  | count + 1, text =>
    if lead.isEmpty then text
    else match after? lead text with
      | none => text
      | some rest => dropLeads lead count rest

/-- Takes `tail` off the end of a text, as often as it is there but at most `count` times. -/
def dropTails (tail : List Char) (count : Nat) (text : List Char) : List Char :=
  (dropLeads tail.reverse count text.reverse).reverse

/-- The parts of a text on either side of the first `marker` in it. -/
def cutAt? (marker : List Char) : List Char → Option (List Char × List Char)
  | [] => (after? marker []).map fun rest => ([], rest)
  | c :: text =>
    match after? marker (c :: text) with
    | some rest => some ([], rest)
    | none => (cutAt? marker text).map fun parts => (c :: parts.1, parts.2)

/-- Passes over `skip` characters, then writes `new` for every `old`. -/
def replaceFrom (old new : List Char) : Nat → List Char → List Char
  | _, [] => []
  | skip + 1, _ :: text => replaceFrom old new skip text
  | 0, c :: text =>
    if old.isPrefixOf (c :: text) then new ++ replaceFrom old new (old.length - 1) text
    else c :: replaceFrom old new 0 text

theorem replaceFrom_drop (old new : List Char) (skip : Nat) (text : List Char) :
    replaceFrom old new skip text = replaceFrom old new 0 (text.drop skip) := by
  induction skip generalizing text with
  | zero => simp
  | succ skip ih =>
    cases text with
    | nil => simp [replaceFrom]
    | cons c text => simpa [replaceFrom] using ih text

/-- The text with `new` in place of every `old`. An empty `old` is nowhere. -/
def replaceAll (old new text : List Char) : List Char :=
  if old.isEmpty then text else replaceFrom old new 0 text

end StubSource.Text
