import StubSource.Document.Span

/-!
# The place of a key

A complaint about a key points to the first line that assigns it. What this means is said here
without the search: lines are what stands between line breaks, an assignment is blanks, the key,
blanks and an equals sign, and places are counted in the UTF-8 bytes of the document.
-/

namespace StubSource.Span
set_option autoImplicit false

/-! ## Assignments -/

/-- Blanks, the key, blanks, an equals sign and anything behind it. -/
def Assigns (key line : List Char) : Prop :=
  ∃ blanks gap rest, line = blanks ++ (key ++ (gap ++ '=' :: rest)) ∧
    (∀ c ∈ blanks, Text.isBlank c) ∧ ∀ c ∈ gap, Text.isBlank c

/-- What may be looked for: a text that begins with something other than a blank. -/
structure IsKey (key : List Char) : Prop where
  nonempty : key ≠ []
  flush : ∀ c ∈ key.head?, Text.isBlank c = false

instance : DecidablePred IsKey
  | [] => .isFalse fun isKey => isKey.nonempty rfl
  | c :: key => decidable_of_iff (Text.isBlank c = false)
      ⟨fun flush => ⟨List.cons_ne_nil c key, by rintro _ ⟨⟩; exact flush⟩,
        fun isKey => isKey.flush c rfl⟩

theorem trimStart_append {blanks text : List Char} (blank : ∀ c ∈ blanks, Text.isBlank c)
    (flush : ∀ c ∈ text.head?, Text.isBlank c = false) :
    Text.trimStart (blanks ++ text) = text := by
  rw [Text.trimStart, List.dropWhile_append_of_pos blank]
  cases text with
  | nil => rfl
  | cons c text => rw [List.dropWhile_cons_of_neg (by simp [flush c rfl])]

theorem exists_blanks (text : List Char) :
    ∃ blanks, text = blanks ++ Text.trimStart text ∧ ∀ c ∈ blanks, Text.isBlank c :=
  ⟨text.takeWhile Text.isBlank, List.takeWhile_append_dropWhile.symm,
    List.all_eq_true.1 List.all_takeWhile⟩

namespace IsKey

variable {key line : List Char}

theorem flush_append (isKey : IsKey key) (rest : List Char) :
    ∀ c ∈ (key ++ rest).head?, Text.isBlank c = false := by
  cases key with
  | nil => exact absurd rfl isKey.nonempty
  | cons c key => exact isKey.flush

theorem assigns_iff (isKey : IsKey key) : assigns key line = true ↔ Assigns key line := by
  constructor
  · intro found
    unfold assigns at found
    split at found
    · cases found
    · rename_i after behind
      obtain ⟨blanks, whole, blank⟩ := exists_blanks line
      obtain ⟨gap, whole', blank'⟩ := exists_blanks after
      obtain ⟨rest, equals⟩ := List.head?_eq_some_iff.1 (beq_iff_eq.1 found)
      refine ⟨blanks, gap, rest, ?_, blank, blank'⟩
      rw [← equals, ← whole', ← Text.after?_eq_some.1 behind]
      exact whole
  · rintro ⟨blanks, gap, rest, rfl, blank, blank'⟩
    have behind : Text.after? key (key ++ (gap ++ '=' :: rest)) = some (gap ++ '=' :: rest) :=
      Text.after?_eq_some.2 rfl
    have flush : ∀ c ∈ ('=' :: rest).head?, Text.isBlank c = false := by
      rintro c ⟨⟩
      decide
    rw [assigns, trimStart_append blank (isKey.flush_append _), behind]
    simp only [trimStart_append blank' flush, List.head?_cons, beq_self_eq_true]

/-- The line break at the end of a line has no part in an assignment. -/
theorem assigns_concat_iff (isKey : IsKey key) :
    assigns key (line ++ ['\n']) = true ↔ Assigns key line := by
  rw [isKey.assigns_iff]
  constructor
  · rintro ⟨blanks, gap, rest, whole, blank, blank'⟩
    rcases List.eq_nil_or_concat rest with rfl | ⟨front, c, rfl⟩
    · have ended : line ++ ['\n'] = (blanks ++ (key ++ gap)) ++ ['='] := by simpa using whole
      exact absurd (List.append_inj' ended rfl).2 (by decide)
    · have ended : line ++ ['\n'] = (blanks ++ (key ++ (gap ++ '=' :: front))) ++ [c] := by
        simpa using whole
      exact ⟨blanks, gap, front, (List.append_inj' ended rfl).1, blank, blank'⟩
  · rintro ⟨blanks, gap, rest, rfl, blank, blank'⟩
    refine ⟨blanks, gap, rest ++ ['\n'], ?_, blank, blank'⟩
    simp only [List.append_assoc, List.cons_append]

theorem takeWhile_isBlank_concat (isKey : IsKey key) (assigned : Assigns key line) :
    (line ++ ['\n']).takeWhile Text.isBlank = line.takeWhile Text.isBlank := by
  obtain ⟨blanks, gap, rest, rfl, blank, -⟩ := assigned
  rw [List.append_assoc, List.append_assoc,
    Text.takeWhile_append_run blank (isKey.flush_append _),
    Text.takeWhile_append_run blank (isKey.flush_append _)]

end IsKey

/-! ## Lines -/

/-- Puts the line breaks back behind lines. The last line has none, and is not there if it is
empty. -/
def withBreaks : List (List Char) → List (List Char)
  | [] => []
  | [line] => if line = [] then [] else [line]
  | line :: next :: rest => (line ++ ['\n']) :: withBreaks (next :: rest)

theorem lines_eq_withBreaks (text : List Char) : lines text = withBreaks (text.splitOn '\n') := by
  induction text with
  | nil => rfl
  | cons c text ih =>
    obtain ⟨line, rest, cut⟩ := List.exists_cons_of_ne_nil (List.splitOn_ne_nil '\n' text)
    rw [lines, List.splitOn_cons_eq_if_modifyHead, ih, cut]
    by_cases isBreak : c = '\n'
    · rw [if_pos isBreak, if_pos (beq_iff_eq.2 isBreak), isBreak]
      rfl
    · rw [if_neg isBreak, if_neg (mt beq_iff_eq.1 isBreak)]
      cases rest with
      | nil =>
        by_cases empty : line = []
        · subst empty
          rfl
        · simp [withBreaks, empty]
      | cons next rest => rfl

variable {key : List Char} {offset : Nat}

theorem not_assigns_nil (isKey : IsKey key) : ¬ Assigns key [] := by
  rintro ⟨blanks, gap, rest, whole, -⟩
  have empty := (List.append_eq_nil_iff.1 (List.append_eq_nil_iff.1 whole.symm).2).1
  exact isKey.nonempty empty

/-- To the search, every line may as well have its line break. -/
theorem ofKeyIn?_withBreaks (isKey : IsKey key) (texts : List (List Char)) :
    ofKeyIn? key offset (withBreaks texts) = ofKeyIn? key offset (texts.map (· ++ ['\n'])) := by
  fun_induction withBreaks texts generalizing offset with
  | case1 => rfl
  | case2 =>
    have passed : assigns key ([] ++ ['\n']) = false := by
      rw [Bool.eq_false_iff, ne_eq, isKey.assigns_concat_iff]
      exact not_assigns_nil isKey
    simp only [List.map_singleton, ofKeyIn?, passed, Bool.false_eq_true, if_false]
  | case3 line _ =>
    simp only [List.map_singleton, ofKeyIn?]
    by_cases assigned : Assigns key line
    · rw [if_pos (isKey.assigns_iff.2 assigned), if_pos (isKey.assigns_concat_iff.2 assigned),
        isKey.takeWhile_isBlank_concat assigned]
    · rw [if_neg (mt isKey.assigns_iff.1 assigned), if_neg (mt isKey.assigns_concat_iff.1 assigned)]
  | case4 line next rest ih =>
    rw [List.map_cons, ofKeyIn?, ofKeyIn?, ih]

theorem bytes_eq_utf8ByteSize (text : List Char) :
    bytes text = (String.ofList text).utf8ByteSize := by
  induction text with
  | nil => rfl
  | cons c text ih =>
    have first : String.ofList (c :: text) = String.singleton c ++ String.ofList text := by
      rw [← String.toList_inj]
      simp
    rw [first, String.utf8ByteSize_append, ← ih, String.utf8ByteSize_singleton]
    rfl

theorem bytes_append (x y : List Char) : bytes (x ++ y) = bytes x + bytes y := by
  rw [bytes_eq_utf8ByteSize, bytes_eq_utf8ByteSize, bytes_eq_utf8ByteSize, String.ofList_append,
    String.utf8ByteSize_append]

/-- The search ends at the first line that passes, with all lines before it counted. -/
theorem exists_of_ofKeyIn?_eq_some {texts : List (List Char)} {span : Span}
    (found : ofKeyIn? key offset texts = some span) :
    ∃ earlier line later, texts = earlier ++ line :: later ∧
      (∀ other ∈ earlier, assigns key other = false) ∧ assigns key line = true ∧
      span = ⟨offset + bytes earlier.flatten + bytes (line.takeWhile Text.isBlank), bytes key⟩ := by
  induction texts generalizing offset with
  | nil => cases found
  | cons first texts ih =>
    rw [ofKeyIn?] at found
    cases here : assigns key first with
    | true =>
      rw [here, if_pos rfl, Option.some.injEq] at found
      exact ⟨[], first, texts, rfl, List.forall_mem_nil _, here, found.symm⟩
    | false =>
      rw [here, if_neg Bool.false_ne_true] at found
      obtain ⟨earlier, line, later, rfl, passed, assigned, rfl⟩ := ih found
      refine ⟨first :: earlier, line, later, rfl, List.forall_mem_cons.2 ⟨here, passed⟩, assigned,
        ?_⟩
      rw [List.flatten_cons, bytes_append, ← Nat.add_assoc offset]

theorem ofKeyIn?_eq_none_iff {texts : List (List Char)} :
    ofKeyIn? key offset texts = none ↔ ∀ line ∈ texts, assigns key line = false := by
  induction texts generalizing offset with
  | nil => simp [ofKeyIn?]
  | cons first texts ih =>
    rw [ofKeyIn?, List.forall_mem_cons]
    cases here : assigns key first with
    | true => simp
    | false => simp [ih]

/-! ## Bytes -/

theorem exists_intercalate_eq (earlier : List (List Char)) (line : List Char)
    (later : List (List Char)) :
    ∃ after, ['\n'].intercalate (earlier ++ line :: later) =
      (earlier.map (· ++ ['\n'])).flatten ++ (line ++ after) := by
  induction earlier with
  | nil =>
    cases later with
    | nil => exact ⟨[], by simp⟩
    | cons next later =>
      exact ⟨['\n'] ++ ['\n'].intercalate (next :: later), by simp [List.intercalate_cons_cons]⟩
  | cons first earlier ih =>
    obtain ⟨after, joined⟩ := ih
    refine ⟨after, ?_⟩
    rw [List.cons_append, List.intercalate_cons_of_ne_nil (by simp), joined]
    simp

theorem extract_toUTF8 (before part after : String) :
    (before ++ (part ++ after)).toUTF8.extract before.utf8ByteSize
      (before.utf8ByteSize + part.utf8ByteSize) = part.toUTF8 := by
  simp only [String.toUTF8_eq_toByteArray, String.toByteArray_append, ← String.size_toByteArray]
  have behind := ByteArray.extract_append_size_add (a := before.toByteArray)
    (b := part.toByteArray ++ after.toByteArray) (i := 0) (j := part.toByteArray.size)
  rw [Nat.add_zero] at behind
  rw [behind, ByteArray.extract_append_eq_left rfl]

/-- The number of bytes before a line, which are those of the earlier lines and their breaks. -/
def lineStart (earlier : List (List Char)) : Nat :=
  (String.ofList (earlier.map (· ++ ['\n'])).flatten).utf8ByteSize

theorem ofKey?_eq_ofKeyIn? {document key : String} (isKey : IsKey key.toList) :
    ofKey? document key =
      ofKeyIn? key.toList 0 ((document.toList.splitOn '\n').map (· ++ ['\n'])) := by
  have nonempty : ¬ key.isEmpty := by
    rw [String.isEmpty_iff]
    rintro rfl
    exact isKey.nonempty rfl
  rw [ofKey?, if_neg nonempty, lines_eq_withBreaks, ofKeyIn?_withBreaks isKey]

theorem exists_of_ofKey?_eq_some {document key : String} (isKey : IsKey key.toList) {span : Span}
    (found : ofKey? document key = some span) :
    ∃ earlier line later, document.toList.splitOn '\n' = earlier ++ line :: later ∧
      (∀ other ∈ earlier, ¬ Assigns key.toList other) ∧ Assigns key.toList line ∧
      span.offset =
        lineStart earlier + (String.ofList (line.takeWhile Text.isBlank)).utf8ByteSize ∧
      span.length = key.utf8ByteSize := by
  rw [ofKey?_eq_ofKeyIn? isKey] at found
  obtain ⟨_, _, _, broken, passed, accepted, rfl⟩ := exists_of_ofKeyIn?_eq_some found
  obtain ⟨earlier, rest, split, rfl, tail⟩ := List.map_eq_append_iff.1 broken
  obtain ⟨line, later, rfl, rfl, -⟩ := List.map_eq_cons_iff.1 tail
  have assigned := isKey.assigns_concat_iff.1 accepted
  refine ⟨earlier, line, later, split, ?_, assigned, ?_, ?_⟩
  · intro other mem assigned'
    have skipped := passed _ (List.mem_map_of_mem mem)
    rw [isKey.assigns_concat_iff.2 assigned'] at skipped
    cases skipped
  · rw [Nat.zero_add, isKey.takeWhile_isBlank_concat assigned, bytes_eq_utf8ByteSize,
      bytes_eq_utf8ByteSize, lineStart]
  · have size := bytes_eq_utf8ByteSize key.toList
    rwa [String.ofList_toList] at size

theorem isSome_ofKey?_iff {document key : String} (isKey : IsKey key.toList) :
    (ofKey? document key).isSome ↔
      ∃ line ∈ document.toList.splitOn '\n', Assigns key.toList line := by
  have none : ofKey? document key = none ↔
      ∀ line ∈ document.toList.splitOn '\n', ¬ Assigns key.toList line := by
    rw [ofKey?_eq_ofKeyIn? isKey, ofKeyIn?_eq_none_iff, List.forall_mem_map]
    simp only [Bool.eq_false_iff, ne_eq, isKey.assigns_concat_iff]
  rw [Option.isSome_iff_ne_none, ne_eq, none]
  simp

theorem extract_ofKey? {document key : String} (isKey : IsKey key.toList) {span : Span}
    (found : ofKey? document key = some span) :
    document.toUTF8.extract span.offset (span.offset + span.length) = key.toUTF8 := by
  obtain ⟨earlier, _, later, split, -, ⟨blanks, gap, rest, rfl, blank, -⟩, start, length⟩ :=
    exists_of_ofKey?_eq_some isKey found
  obtain ⟨after, joined⟩ := exists_intercalate_eq earlier
    (blanks ++ (key.toList ++ (gap ++ '=' :: rest))) later
  rw [← split, List.intercalate_splitOn] at joined
  have whole : document =
      String.ofList (earlier.map (· ++ ['\n'])).flatten ++ String.ofList blanks ++
        (key ++ String.ofList (gap ++ '=' :: rest ++ after)) := by
    rw [← String.toList_inj, joined]
    simp
  rw [start, length, Text.takeWhile_append_run blank (isKey.flush_append _), lineStart,
    ← String.utf8ByteSize_append, whole]
  exact extract_toUTF8 _ key _

/-- A key is found exactly if some line assigns it, and the place that is found is where the key
stands in the first of these lines. -/
theorem ofKey?_points_to_first_assignment (document key : String) (isKey : IsKey key.toList) :
    ((ofKey? document key).isSome ↔
      ∃ line ∈ document.toList.splitOn '\n', Assigns key.toList line) ∧
    ∀ span, ofKey? document key = some span →
      (∃ earlier line later, document.toList.splitOn '\n' = earlier ++ line :: later ∧
        (∀ other ∈ earlier, ¬ Assigns key.toList other) ∧ Assigns key.toList line ∧
        span.offset =
          lineStart earlier + (String.ofList (line.takeWhile Text.isBlank)).utf8ByteSize ∧
        span.length = key.utf8ByteSize) ∧
      document.toUTF8.extract span.offset (span.offset + span.length) = key.toUTF8 := by
  refine ⟨isSome_ofKey?_iff isKey, ?_⟩
  intro span found
  exact ⟨exists_of_ofKey?_eq_some isKey found, extract_ofKey? isKey found⟩

/-- A key behind two wide blanks, on the second of three lines that end in different ways. -/
def wideDocument : String := "gr\u00f6\u00dfe = 1\r\n\u00a0\u3000name\t= 2\nname = 3"

theorem ofKey?_points_to_first_assignment_wideDocument :
    IsKey "name".toList ∧ ofKey? wideDocument "name" = some ⟨18, 4⟩ ∧
      wideDocument.toUTF8.extract 18 22 = "name".toUTF8 ∧
      ∃ line ∈ wideDocument.toList.splitOn '\n', Assigns "name".toList line := by
  have isKey : IsKey "name".toList := by decide +kernel
  have found : ofKey? wideDocument "name" = some ⟨18, 4⟩ := by decide +kernel
  obtain ⟨assigned, place⟩ := ofKey?_points_to_first_assignment wideDocument "name" isKey
  refine ⟨isKey, found, (place _ found).2, assigned.1 ?_⟩
  rw [found]
  rfl

end StubSource.Span
