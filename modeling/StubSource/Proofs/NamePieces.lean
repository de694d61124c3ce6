import Mathlib.Data.List.SplitBy
import StubSource.Alias

/-!
# The names in a text

A text falls into its longest runs of name characters and the single characters between them. Where
all keys of an alias table are names, substitution is a map over these pieces. The scan meets a key
only at the beginning of a run, and of all keys that begin the run only the run itself ends where no
name goes on, so the longest match is a plain lookup.
-/

namespace StubSource
set_option autoImplicit false

namespace Name

def IsRun (text : List Char) : Prop := text ≠ [] ∧ ∀ c ∈ text, isNameChar c

instance (text : List Char) : Decidable (IsRun text) :=
  decidable_of_iff ((!text.isEmpty && text.all isNameChar) = true) (by simp [IsRun])

/-- No name goes on at the beginning of the text. -/
def Separated (text : List Char) : Prop := ∀ c ∈ text.head?, isNameChar c = false

/-- The longest runs of name characters in a text and every other character by itself, in order. -/
def pieces (text : List Char) : List (List Char) :=
  text.splitBy fun a b => isNameChar a && isNameChar b

theorem pieces_append {before after : List Char}
    (apart : ∀ a ∈ before.getLast?, ∀ b ∈ after.head?, (isNameChar a && isNameChar b) = false) :
    pieces (before ++ after) = pieces before ++ pieces after :=
  List.splitBy_append apart

theorem pieces_separator {c : Char} (other : isNameChar c = false) (text : List Char) :
    pieces (c :: text) = [c] :: pieces text := by
  have apart : ∀ a ∈ [c].getLast?, ∀ b ∈ text.head?, (isNameChar a && isNameChar b) = false := by
    simp [other]
  exact pieces_append apart

theorem pieces_eq_singleton {run : List Char} (isRun : IsRun run) : pieces run = [run] := by
  apply List.splitBy_of_isChain isRun.1
  apply List.Pairwise.isChain
  apply List.pairwise_of_forall_mem_list
  intro a inA b inB
  simp [isRun.2 a inA, isRun.2 b inB]

theorem pieces_run {run after : List Char} (isRun : IsRun run) (separated : Separated after) :
    pieces (run ++ after) = run :: pieces after := by
  have apart : ∀ a ∈ run.getLast?, ∀ b ∈ after.head?, (isNameChar a && isNameChar b) = false := by
    intro a _ b first
    rw [separated b first, Bool.and_false]
  rw [pieces_append apart, pieces_eq_singleton isRun, List.singleton_append]

theorem takeWhile_run {run after : List Char} (isRun : IsRun run) (separated : Separated after) :
    (run ++ after).takeWhile isNameChar = run := Text.takeWhile_append_run isRun.2 separated

/-- To show something of every text, read off a separator or a whole run at a time. -/
@[elab_as_elim]
theorem piece_induction {motive : List Char → Prop} (nil : motive [])
    (separator : ∀ c text, isNameChar c = false → motive text → motive (c :: text))
    (run : ∀ run after, IsRun run → Separated after → motive after → motive (run ++ after))
    (text : List Char) : motive text := by
  induction length : text.length using Nat.strong_induction_on generalizing text with
  | h n shorter =>
    cases text with
    | nil => exact nil
    | cons c rest =>
      by_cases named : isNameChar c
      · have isRun : IsRun ((c :: rest).takeWhile isNameChar) :=
          ⟨by simp [named], List.all_eq_true.1 List.all_takeWhile⟩
        have separated : Separated ((c :: rest).dropWhile isNameChar) := by
          intro x first
          have stop := List.head?_dropWhile_not isNameChar (c :: rest)
          simpa [Option.mem_def.1 first] using stop
        have less : ((c :: rest).dropWhile isNameChar).length < n := by
          have atMost := (List.dropWhile_sublist isNameChar (l := rest)).length_le
          rw [List.dropWhile_cons_of_pos named]
          simp only [List.length_cons] at length
          omega
        have step := run _ _ isRun separated (shorter _ less _ rfl)
        rwa [List.takeWhile_append_dropWhile] at step
      · have less : rest.length < n := by
          simp only [List.length_cons] at length
          omega
        exact separator c rest (by simpa using named) (shorter _ less _ rfl)

end Name

namespace AliasTable

def KeysAreNames (table : AliasTable) : Prop :=
  ∀ entry ∈ table.entries, Name.IsRun entry.1.toList

instance (table : AliasTable) : Decidable table.KeysAreNames :=
  inferInstanceAs (Decidable (∀ entry ∈ table.entries, _))

/-- A key in its shown form, and any other text as it is. -/
def shown (table : AliasTable) (text : String) : String := (table.entries.lookup text).getD text

theorem shown_separator {table : AliasTable} (names : table.KeysAreNames) {c : Char}
    (other : Name.isNameChar c = false) : table.shown (String.ofList [c]) = String.ofList [c] := by
  have absent : table.entries.lookup (String.ofList [c]) = none := by
    rw [List.lookup_eq_none_iff]
    intro entry mem
    rw [bne_iff_ne]
    intro key
    have named := (names entry mem).2 c (by simp [← key])
    rw [other] at named
    simp at named
  rw [shown, absent, Option.getD_none]

theorem startsWithName_iff {key text : List Char} :
    startsWithName key text = true ↔ ∃ after, text = key ++ after ∧ Name.Separated after := by
  unfold startsWithName
  cases found : Text.after? key text with
  | none =>
    have absent : ∀ after, text ≠ key ++ after := by
      intro after whole
      rw [Text.after?_eq_some.2 whole] at found
      simp at found
    simp [absent]
  | some rest =>
    have whole := Text.after?_eq_some.1 found
    subst whole
    cases rest <;> simp [Name.Separated]

theorem startsWithName_run {key run after : List Char} (keyRun : Name.IsRun key)
    (isRun : Name.IsRun run) (separated : Name.Separated after) :
    startsWithName key (run ++ after) = true ↔ key = run := by
  rw [startsWithName_iff]
  constructor
  · rintro ⟨rest, same, ends⟩
    calc key = (key ++ rest).takeWhile Name.isNameChar := (Name.takeWhile_run keyRun ends).symm
      _ = (run ++ after).takeWhile Name.isNameChar := by rw [same]
      _ = run := Name.takeWhile_run isRun separated
  · rintro rfl
    exact ⟨after, rfl, separated⟩

theorem startsWithName_separator {key : List Char} {c : Char} (keyRun : Name.IsRun key)
    (other : Name.isNameChar c = false) (text : List Char) :
    startsWithName key (c :: text) = false := by
  rw [Bool.eq_false_iff]
  intro starts
  obtain ⟨after, same, _⟩ := startsWithName_iff.1 starts
  cases key with
  | nil => exact keyRun.1 rfl
  | cons k key =>
    rw [List.cons_append, List.cons.injEq] at same
    have named := keyRun.2 k List.mem_cons_self
    rw [← same.1, other] at named
    simp at named

theorem longest?_separator {entries : List (String × String)} {c : Char} {text : List Char}
    (names : ∀ entry ∈ entries, Name.IsRun entry.1.toList) (other : Name.isNameChar c = false) :
    longest? (c :: text) entries = none := by
  induction entries with
  | nil => rfl
  | cons entry entries ih =>
    have apart := startsWithName_separator (names entry List.mem_cons_self) other text
    simp only [longest?, apart, Bool.not_false, Bool.or_true, if_true]
    exact ih fun e mem => names e (List.mem_cons_of_mem entry mem)

/-- At the beginning of a run, the longest match is the entry of the run. -/
theorem longest?_run {entries : List (String × String)} {run after : List Char}
    (names : ∀ entry ∈ entries, Name.IsRun entry.1.toList)
    (unique : (entries.map Prod.fst).Nodup) (isRun : Name.IsRun run)
    (separated : Name.Separated after) :
    longest? (run ++ after) entries =
      (entries.lookup (String.ofList run)).map (String.ofList run, ·) := by
  induction entries with
  | nil => rfl
  | cons entry entries ih =>
    have keyRun := names entry List.mem_cons_self
    rw [List.map_cons, List.nodup_cons] at unique
    have later := ih (fun e mem => names e (List.mem_cons_of_mem entry mem)) unique.2
    have nonempty : entry.1.isEmpty = false := by
      rw [Bool.eq_false_iff]
      intro empty
      exact keyRun.1 (by simp [String.isEmpty_iff.1 empty])
    by_cases same : entry.1.toList = run
    · have starts := (startsWithName_run keyRun isRun separated).2 same
      have key : entry.1 = String.ofList run := by rw [← same, String.ofList_toList]
      -- The key is not entered again, so no other entry competes with this one.
      have alone : entries.lookup (String.ofList run) = none := by
        rw [List.lookup_eq_none_iff]
        intro e mem
        rw [bne_iff_ne, ← key]
        exact fun again => unique.1 (again ▸ List.mem_map_of_mem mem)
      rw [longest?, nonempty, starts, later, alone, List.lookup_cons, ← key, beq_self_eq_true]
      rfl
    · have apart : startsWithName entry.1.toList (run ++ after) = false := by
        rw [Bool.eq_false_iff]
        exact fun starts => same ((startsWithName_run keyRun isRun separated).1 starts)
      have differs : (String.ofList run == entry.1) = false := by
        rw [beq_eq_false_iff_ne]
        exact fun key => same (by rw [← key, String.toList_ofList])
      rw [longest?, nonempty, apart, List.lookup_cons, differs, ← later]
      rfl

section Scan

variable (entries : List (String × String))

theorem substituteFrom_copy {run : List Char} (named : ∀ c ∈ run, Name.isNameChar c)
    (after : List Char) :
    substituteFrom entries false 0 (run ++ after) =
      run ++ substituteFrom entries false 0 after := by
  induction run with
  | nil => rfl
  | cons c run ih =>
    have rest := ih fun x mem => named x (List.mem_cons_of_mem c mem)
    simp [substituteFrom, named c List.mem_cons_self, rest]

theorem substituteFrom_skip {run : List Char} (named : ∀ c ∈ run, Name.isNameChar c)
    (after : List Char) :
    substituteFrom entries false run.length (run ++ after) =
      substituteFrom entries false 0 after := by
  induction run with
  | nil => rfl
  | cons c run ih =>
    have rest := ih fun x mem => named x (List.mem_cons_of_mem c mem)
    simp [substituteFrom, named c List.mem_cons_self, rest]

end Scan

theorem substituteFrom_separator {table : AliasTable} (names : table.KeysAreNames) {c : Char}
    (other : Name.isNameChar c = false) (fresh : Bool) (text : List Char) :
    substituteFrom table.entries fresh 0 (c :: text) =
      c :: substituteFrom table.entries true 0 text := by
  cases fresh <;> simp [substituteFrom, longest?_separator names other, other]

/-- It makes no difference to a separated text whether a name stands before it. -/
theorem substituteFrom_separated {table : AliasTable} (names : table.KeysAreNames)
    {text : List Char} (separated : Name.Separated text) :
    substituteFrom table.entries false 0 text = substituteFrom table.entries true 0 text := by
  cases text with
  | nil => rfl
  | cons c text =>
    rw [substituteFrom_separator names (separated c rfl) false,
      substituteFrom_separator names (separated c rfl) true]

theorem substituteFrom_run {table : AliasTable} (names : table.KeysAreNames)
    {run after : List Char} (isRun : Name.IsRun run) (separated : Name.Separated after) :
    substituteFrom table.entries true 0 (run ++ after) =
      (table.shown (String.ofList run)).toList ++ substituteFrom table.entries true 0 after := by
  have longest := longest?_run names table.unique isRun separated
  rw [← substituteFrom_separated names separated]
  cases run with
  | nil => exact absurd rfl isRun.1
  | cons c run =>
    have first : Name.isNameChar c = true := isRun.2 c List.mem_cons_self
    have rest : ∀ x ∈ run, Name.isNameChar x := fun x mem => isRun.2 x (List.mem_cons_of_mem c mem)
    rw [List.cons_append] at longest ⊢
    -- Replaced or copied, the run is passed as a whole and leaves a name under way behind it.
    rw [substituteFrom, longest, shown]
    cases found : table.entries.lookup (String.ofList (c :: run)) with
    | none => simp [first, substituteFrom_copy table.entries rest]
    | some text => simp [first, substituteFrom_skip table.entries rest]

theorem substituteFrom_eq_flatMap {table : AliasTable} (names : table.KeysAreNames)
    (text : List Char) :
    substituteFrom table.entries true 0 text =
      (Name.pieces text).flatMap fun piece => (table.shown (String.ofList piece)).toList := by
  induction text using Name.piece_induction with
  | nil => rfl
  | separator c text other ih =>
    rw [substituteFrom_separator names other, Name.pieces_separator other, List.flatMap_cons,
      shown_separator names other, String.toList_ofList, List.singleton_append, ih]
  | run run after isRun separated ih =>
    rw [substituteFrom_run names isRun separated, Name.pieces_run isRun separated,
      List.flatMap_cons, ih]

theorem substituteFrom_append {table : AliasTable} (names : table.KeysAreNames)
    {before after : List Char}
    (apart : ∀ a ∈ before.getLast?, ∀ b ∈ after.head?,
      (Name.isNameChar a && Name.isNameChar b) = false) :
    substituteFrom table.entries true 0 (before ++ after) =
      substituteFrom table.entries true 0 before ++ substituteFrom table.entries true 0 after := by
  simp only [substituteFrom_eq_flatMap names, Name.pieces_append apart, List.flatMap_append]

theorem toList_substitute (table : AliasTable) (text : String) :
    (table.substitute text).toList = substituteFrom table.entries true 0 text.toList :=
  String.toList_ofList

theorem substitute_eq_join {table : AliasTable} (names : table.KeysAreNames) (text : String) :
    table.substitute text = String.join
      ((Name.pieces text.toList).map fun piece => table.shown (String.ofList piece)) := by
  rw [substitute, substituteFrom_eq_flatMap names, ← String.toList_inj, String.toList_ofList,
    String.toList_join, List.flatMap_map]

theorem substitute_run {table : AliasTable} (names : table.KeysAreNames) {run : String}
    (isRun : Name.IsRun run.toList) : table.substitute run = table.shown run := by
  rw [substitute_eq_join names, Name.pieces_eq_singleton isRun]
  simp [String.ofList_toList]

theorem substitute_append {table : AliasTable} (names : table.KeysAreNames) {before after : String}
    (apart : ∀ a ∈ before.toList.getLast?, ∀ b ∈ after.toList.head?,
      (Name.isNameChar a && Name.isNameChar b) = false) :
    table.substitute (before ++ after) = table.substitute before ++ table.substitute after := by
  rw [← String.toList_inj, String.toList_append, toList_substitute, toList_substitute,
    toList_substitute, String.toList_append, substituteFrom_append names apart]

/-- Where all keys are names, substitution shows the pieces of a text one by one. So a name with no
name character on either side is replaced as a whole, if it is a key, or not at all. -/
theorem substitute_piecewise (table : AliasTable) (names : table.KeysAreNames) :
    (∀ text : String, table.substitute text =
      String.join ((Name.pieces text.toList).map fun piece => table.shown (String.ofList piece))) ∧
      ∀ before run after : String, Name.IsRun run.toList →
        (∀ c ∈ before.toList.getLast?, Name.isNameChar c = false) →
        Name.Separated after.toList →
          table.substitute (before ++ run ++ after) =
            table.substitute before ++ table.shown run ++ table.substitute after := by
  refine ⟨substitute_eq_join names, ?_⟩
  intro before run after isRun ends separated
  have left : ∀ a ∈ before.toList.getLast?, ∀ b ∈ (run ++ after).toList.head?,
      (Name.isNameChar a && Name.isNameChar b) = false := by
    intro a last b _
    rw [ends a last, Bool.false_and]
  have right : ∀ a ∈ run.toList.getLast?, ∀ b ∈ after.toList.head?,
      (Name.isNameChar a && Name.isNameChar b) = false := by
    intro a _ b first
    rw [separated b first, Bool.and_false]
  rw [String.append_assoc, substitute_append names left, substitute_append names right,
    substitute_run names isRun, String.append_assoc]

def nestedKeys : AliasTable := ofEntries [("System.Int", "short"), ("System.Int.Big", "long")]

theorem substitute_piecewise_nestedKeys :
    nestedKeys.KeysAreNames ∧
      nestedKeys.substitute "System.Int.Big<System.Int, MySystem.Int>" =
        "long<short, MySystem.Int>" := by
  have names : nestedKeys.KeysAreNames := by decide +kernel
  refine ⟨names, ?_⟩
  rw [(substitute_piecewise nestedKeys names).1]
  decide +kernel

end AliasTable
end StubSource
