import Mathlib.Data.List.Basic
import Mathlib.Data.List.Induction
import Mathlib.Data.Nat.Digits.Defs
import StubSource.Proofs.VersionText

/-!
# The grammar of versions

What a version may look like, said without the reader: two to four numerals with full stops between
them, each worth at most 65535. A numeral has any number of digits, zeros in front included, and may
have a plus sign. The reader accepts these texts and no others, with the values of the numerals, and
it refuses a text for the number of its pieces or else for the first piece that is no such numeral.
-/

namespace StubSource.Version
set_option autoImplicit false

/-! ## Numerals -/

def digitChars (ds : List (Fin 10)) : List Char := ds.map fun d => Nat.digitChar d.val

theorem isDigit_of_mem_digitChars {ds : List (Fin 10)} {c : Char} (mem : c ∈ digitChars ds) :
    c.isDigit := by
  obtain ⟨d, -, rfl⟩ := List.mem_map.1 mem
  rw [Nat.isDigit_digitChar, decide_eq_true d.isLt]

theorem exists_digitChar {c : Char} (digit : c.isDigit) :
    ∃ d : Fin 10, Nat.digitChar d.val = c := by
  have range : 48 ≤ c.toNat ∧ c.toNat ≤ 57 := by
    simpa [Char.isDigit, UInt32.le_iff_toNat_le] using digit
  have table : ∀ n ≤ 57, 48 ≤ n → Nat.digitChar (n - 48) = Char.ofNat n := by decide
  refine ⟨⟨c.toNat - 48, by omega⟩, ?_⟩
  rw [table c.toNat range.2 range.1, Char.ofNat_toNat]

theorem exists_digitChars {cs : List Char} (digits : ∀ c ∈ cs, c.isDigit) :
    ∃ ds, digitChars ds = cs := by
  induction cs with
  | nil => exact ⟨[], rfl⟩
  | cons c cs ih =>
    obtain ⟨d, rfl⟩ := exists_digitChar (digits c List.mem_cons_self)
    obtain ⟨ds, rfl⟩ := ih fun c' mem => digits c' (List.mem_cons_of_mem _ mem)
    exact ⟨d :: ds, rfl⟩

theorem exists_digitChars_of_digits? {cs : List Char} {n : Nat} (read : digits? cs = some n) :
    ∃ ds, digitChars ds = cs := by
  rw [digits?] at read
  split at read
  · rename_i allDigits
    exact exists_digitChars (List.all_eq_true.1 allDigits)
  · cases read

/-- Digits that are read from the left make the number that they are in base ten. -/
theorem digits?_digitChars (ds : List (Fin 10)) :
    digits? (digitChars ds) = some (Nat.ofDigits 10 (ds.reverse.map Fin.val)) := by
  have allDigits : (digitChars ds).all Char.isDigit :=
    List.all_eq_true.2 fun _ => isDigit_of_mem_digitChars
  have worth : ∀ d : Fin 10, (Nat.digitChar d.val).toNat - '0'.toNat = d.val := by decide
  rw [digits?, if_pos allDigits]
  congr 1
  clear allDigits
  induction ds using List.reverseRecOn with
  | nil => rfl
  | append_singleton ds d ih =>
    rw [digitChars, List.map_append, List.foldl_append, ← digitChars, ih, List.reverse_append]
    simp only [List.map_cons, List.map_nil, List.foldl_cons, List.foldl_nil, worth,
      List.reverse_singleton, List.singleton_append, Nat.ofDigits_cons]
    exact Nat.add_comm _ _

/-- A part as it may be written: at least one digit, behind a plus sign or not. -/
structure Numeral where
  signed : Bool
  digits : List (Fin 10)
  nonempty : digits ≠ []

namespace Numeral

def chars (n : Numeral) : List Char :=
  (if n.signed then ['+'] else []) ++ digitChars n.digits

def text (n : Numeral) : String := String.ofList n.chars

/-- The number that the digits make in base ten. -/
def value (n : Numeral) : Nat := Nat.ofDigits 10 (n.digits.reverse.map Fin.val)

theorem stop_notMem_chars (n : Numeral) : '.' ∉ n.chars := by
  rw [chars, List.mem_append]
  rintro (sign | digit)
  · split at sign
    · exact absurd sign (by decide)
    · cases sign
  · exact absurd (isDigit_of_mem_digitChars digit) (by decide)

end Numeral

theorem part?_chars (n : Numeral) :
    part? n.chars = if n.value < 65536 then some n.value.toUInt16 else none := by
  have unsigned : (digitChars n.digits).head? ≠ some '+' := fun sign =>
    absurd (isDigit_of_mem_digitChars (List.mem_of_head? sign)) (by decide)
  have behindSign : (if n.chars.head? = some '+' then n.chars.tail else n.chars) =
      digitChars n.digits := by
    rw [Numeral.chars]
    cases n.signed with
    | true => rfl
    | false => exact if_neg unsigned
  have someDigit : (digitChars n.digits).isEmpty = false := by
    rw [List.isEmpty_eq_false_iff, digitChars, ne_eq, List.map_eq_nil_iff]
    exact n.nonempty
  rw [part?, behindSign, someDigit, digits?_digitChars]
  rfl

theorem exists_digits_of_part? {cs : List Char} {v : UInt16} (read : part? cs = some v) :
    ∃ ds ≠ [], digitChars ds = if cs.head? = some '+' then cs.tail else cs := by
  rw [part?] at read
  generalize (if cs.head? = some '+' then cs.tail else cs) = behindSign at read
  split at read
  · cases read
  · rename_i someDigit
    cases found : digits? behindSign with
    | none =>
      rw [found] at read
      cases read
    | some n =>
      obtain ⟨ds, rfl⟩ := exists_digitChars_of_digits? found
      refine ⟨ds, ?_, rfl⟩
      rintro rfl
      exact someDigit rfl

theorem exists_numeral_of_part? {cs : List Char} {v : UInt16} (read : part? cs = some v) :
    ∃ n : Numeral, n.chars = cs := by
  obtain ⟨ds, nonempty, behindSign⟩ := exists_digits_of_part? read
  by_cases sign : cs.head? = some '+'
  · rw [if_pos sign] at behindSign
    refine ⟨⟨true, ds, nonempty⟩, ?_⟩
    rw [Numeral.chars, behindSign]
    exact (List.eq_cons_of_mem_head? sign).symm
  · rw [if_neg sign] at behindSign
    exact ⟨⟨false, ds, nonempty⟩, behindSign⟩

theorem part?_eq_some_iff {cs : List Char} {v : UInt16} :
    part? cs = some v ↔ ∃ n : Numeral, n.chars = cs ∧ n.value = v.toNat := by
  constructor
  · intro read
    obtain ⟨n, rfl⟩ := exists_numeral_of_part? read
    rw [part?_chars] at read
    split at read
    · rename_i small
      cases read
      exact ⟨n, rfl, (Nat.mod_eq_of_lt small).symm⟩
    · cases read
  · rintro ⟨n, rfl, worth⟩
    have small : n.value < 65536 := worth ▸ v.toNat_lt
    rw [part?_chars, if_pos small, worth]
    exact congrArg some (UInt16.ofNat_toNat)

/-- A numeral that fits into sixteen bits. -/
def IsPart (text : String) : Prop := ∃ n : Numeral, n.text = text ∧ n.value ≤ 65535

theorem isSome_part?_iff {cs : List Char} : (part? cs).isSome ↔ IsPart (String.ofList cs) := by
  rw [Option.isSome_iff_exists]
  constructor
  · rintro ⟨v, read⟩
    obtain ⟨n, rfl, worth⟩ := part?_eq_some_iff.1 read
    exact ⟨n, rfl, worth ▸ Nat.le_of_lt_succ v.toNat_lt⟩
  · rintro ⟨n, spelt, small⟩
    rw [← String.ofList_injective spelt, part?_chars, if_pos (Nat.lt_succ_of_le small)]
    exact ⟨_, rfl⟩

/-! ## Pieces -/

/-- The pieces of a text between its full stops. -/
structure Cut (text : String) (pieces : List String) : Prop where
  nonempty : pieces ≠ []
  joined : ".".intercalate pieces = text
  free : ∀ piece ∈ pieces, '.' ∉ piece.toList

theorem stop_notMem_of_mem_splitParts {cs part : List Char} (mem : part ∈ splitParts cs) :
    '.' ∉ part := by
  induction cs generalizing part with
  | nil =>
    rw [List.mem_singleton.1 mem]
    exact List.not_mem_nil
  | cons c cs ih =>
    rw [splitParts] at mem
    split at mem
    · rcases List.mem_cons.1 mem with rfl | below
      · exact List.not_mem_nil
      · exact ih below
    · rename_i other
      split at mem
      · rw [List.mem_singleton.1 mem, List.mem_singleton]
        exact Ne.symm other
      · rename_i first rest found
        rcases List.mem_cons.1 mem with rfl | below
        · rw [List.mem_cons, not_or]
          exact ⟨Ne.symm other, ih (found ▸ List.mem_cons_self)⟩
        · exact ih (found ▸ List.mem_cons_of_mem first below)

/-- There is one way to cut a text at its full stops, and the reader finds it. -/
theorem cut_iff {text : String} {pieces : List String} :
    Cut text pieces ↔ pieces = (splitParts text.toList).map String.ofList := by
  constructor
  · rintro ⟨nonempty, rfl, free⟩
    have lists : ∀ part ∈ pieces.map String.toList, '.' ∉ part := by
      intro part mem
      obtain ⟨piece, listed, rfl⟩ := List.mem_map.1 mem
      exact free piece listed
    have parts : splitParts (".".intercalate pieces).toList = pieces.map String.toList := by
      rw [splitParts_eq_splitOn, String.toList_intercalate]
      exact List.splitOn_intercalate '.' lists (by simpa using nonempty)
    rw [parts, List.map_map]
    exact (List.map_id'' (fun _ => String.ofList_toList) pieces).symm
  · rintro rfl
    refine ⟨?_, ?_, ?_⟩
    · rw [splitParts_eq_splitOn, ne_eq, List.map_eq_nil_iff]
      exact List.splitOn_ne_nil '.' _
    · have same : (splitParts text.toList).map (String.toList ∘ String.ofList) =
          splitParts text.toList := List.map_id'' (fun _ => String.toList_ofList) _
      rw [← String.toList_inj, String.toList_intercalate, List.map_map, same, splitParts_eq_splitOn]
      exact List.intercalate_splitOn '.'
    · intro piece mem
      obtain ⟨part, listed, rfl⟩ := List.mem_map.1 mem
      rw [String.toList_ofList]
      exact stop_notMem_of_mem_splitParts listed

/-! ## Versions -/

theorem map_eq_ok_iff {α β : Type} {f : α → β} {read : Except VersionError α} {b : β} :
    read.map f = .ok b ↔ ∃ a, read = .ok a ∧ f a = b := by
  cases read <;> simp [Except.map]

theorem map_eq_error_iff {α β : Type} {f : α → β} {read : Except VersionError α}
    {error : VersionError} : read.map f = .error error ↔ read = .error error := by
  cases read <;> simp [Except.map]

theorem readParts_eq_ok_iff {text : String} {parts : List (List Char)} {vs : List UInt16} :
    readParts text parts = .ok vs ↔ parts.map part? = vs.map some := by
  induction parts generalizing vs with
  | nil => cases vs <;> simp [readParts]
  | cons part parts ih =>
    rw [readParts, List.map_cons]
    cases here : part? part with
    | none => cases vs <;> simp
    | some v =>
      dsimp only
      rw [map_eq_ok_iff]
      constructor
      · rintro ⟨rest, below, rfl⟩
        rw [ih.1 below, List.map_cons]
      · intro same
        cases vs with
        | nil => cases same
        | cons v' vs =>
          obtain ⟨first, below⟩ := List.cons.inj same
          cases first
          exact ⟨vs, ih.2 below, rfl⟩

/-- Reading stops at the first piece that is no part. -/
theorem readParts_eq_error_iff {text : String} {parts : List (List Char)} {error : VersionError} :
    readParts text parts = .error error ↔ ∃ before part after,
      parts = before ++ part :: after ∧ (∀ p ∈ before, (part? p).isSome) ∧ part? part = none ∧
        error = .component (String.ofList part) text := by
  induction parts with
  | nil => simp [readParts]
  | cons first parts ih =>
    rw [readParts]
    cases here : part? first with
    | none =>
      constructor
      · intro failed
        cases failed
        exact ⟨[], first, parts, rfl, List.forall_mem_nil _, here, rfl⟩
      · rintro ⟨before, part, after, split, passed, bad, rfl⟩
        cases before with
        | nil =>
          cases split
          rfl
        | cons p before =>
          cases split
          have read := passed first List.mem_cons_self
          rw [here] at read
          cases read
    | some v =>
      dsimp only
      rw [map_eq_error_iff, ih]
      constructor
      · rintro ⟨before, part, after, rfl, passed, bad, rfl⟩
        have read : (part? first).isSome := by rw [here]; rfl
        exact ⟨first :: before, part, after, rfl, List.forall_mem_cons.2 ⟨read, passed⟩, bad, rfl⟩
      · rintro ⟨before, part, after, split, passed, bad, rfl⟩
        cases before with
        | nil =>
          cases split
          rw [here] at bad
          cases bad
        | cons p before =>
          cases split
          exact ⟨before, part, after, rfl, fun p mem => passed p (List.mem_cons_of_mem _ mem), bad,
            rfl⟩

theorem map_part?_eq_iff {parts : List (List Char)} {vs : List UInt16} :
    parts.map part? = vs.map some ↔ ∃ numerals : List Numeral,
      numerals.map Numeral.chars = parts ∧ numerals.map Numeral.value = vs.map UInt16.toNat := by
  induction parts generalizing vs with
  | nil => cases vs <;> simp
  | cons part parts ih =>
    cases vs with
    | nil => simp
    | cons v vs =>
      rw [List.map_cons, List.map_cons, List.cons.injEq, part?_eq_some_iff, ih]
      constructor
      · rintro ⟨⟨n, rfl, worth⟩, numerals, rfl, worths⟩
        exact ⟨n :: numerals, rfl, by rw [List.map_cons, worth, worths, List.map_cons]⟩
      · rintro ⟨numerals, spelt, worth⟩
        obtain ⟨n, numerals, rfl, first, rfl⟩ := List.map_eq_cons_iff.1 spelt
        obtain ⟨worth, worths⟩ := List.cons.inj worth
        exact ⟨⟨n, first, worth⟩, numerals, rfl, worths⟩

/-- The four numbers of a version. -/
def parts (v : Version) : List UInt16 := [v.major, v.minor, v.build, v.revision]

def ofParts (vs : List UInt16) : Version := ⟨vs.getD 0 0, vs.getD 1 0, vs.getD 2 0, vs.getD 3 0⟩

theorem parts_ofParts {vs : List UInt16} (few : vs.length ≤ 4) :
    (ofParts vs).parts = vs ++ List.replicate (4 - vs.length) 0 := by
  match vs, few with
  | [], _ | [_], _ | [_, _], _ | [_, _, _], _ | [_, _, _, _], _ => rfl
  | _ :: _ :: _ :: _ :: _ :: _, few =>
    simp only [List.length_cons] at few
    omega

/-- Two to four numerals with full stops between them. -/
structure Spells (numerals : List Numeral) (text : String) : Prop where
  few : 2 ≤ numerals.length ∧ numerals.length ≤ 4
  joined : ".".intercalate (numerals.map Numeral.text) = text

theorem Spells.splitParts_eq {numerals : List Numeral} {text : String}
    (spelt : Spells numerals text) : splitParts text.toList = numerals.map Numeral.chars := by
  have cut : Cut text (numerals.map Numeral.text) := by
    refine ⟨?_, spelt.joined, ?_⟩
    · intro none
      have few := spelt.few.1
      rw [List.map_eq_nil_iff.1 none] at few
      cases few
    · intro piece mem
      obtain ⟨n, -, rfl⟩ := List.mem_map.1 mem
      rw [Numeral.text, String.toList_ofList]
      exact n.stop_notMem_chars
  have texts := cut_iff.1 cut
  have ofChars : numerals.map Numeral.text = (numerals.map Numeral.chars).map String.ofList := by
    rw [List.map_map]
    rfl
  rw [ofChars] at texts
  exact (List.map_injective_iff.2 (fun _ _ same => String.ofList_injective same) texts).symm

theorem spells_of_splitParts {numerals : List Numeral} {text : String}
    (split : numerals.map Numeral.chars = splitParts text.toList)
    (few : 2 ≤ (splitParts text.toList).length ∧ (splitParts text.toList).length ≤ 4) :
    Spells numerals text := by
  rw [← split, List.length_map] at few
  refine ⟨few, ?_⟩
  have cut : Cut text ((splitParts text.toList).map String.ofList) := cut_iff.2 rfl
  rw [← split, List.map_map] at cut
  exact cut.joined

theorem eq_of_parts {v w : Version} (same : v.parts.map UInt16.toNat = w.parts.map UInt16.toNat) :
    v = w := by
  have parts : v.parts = w.parts := List.map_injective_iff.2 (fun _ _ => UInt16.toNat_inj.1) same
  cases v
  cases w
  simpa [Version.parts] using parts

/-- The numbers that were left out are zeros. -/
theorem map_parts_ofParts {numerals : List Numeral} {vs : List UInt16} (few : numerals.length ≤ 4)
    (worth : numerals.map Numeral.value = vs.map UInt16.toNat) :
    (ofParts vs).parts.map UInt16.toNat =
      numerals.map Numeral.value ++ List.replicate (4 - numerals.length) 0 := by
  have length : numerals.length = vs.length := by simpa using congrArg List.length worth
  rw [parts_ofParts (length ▸ few), List.map_append, List.map_replicate, worth, length]
  rfl

theorem parse_of_spells {numerals : List Numeral} {text : String} {vs : List UInt16}
    (spelt : Spells numerals text) (worth : numerals.map Numeral.value = vs.map UInt16.toNat) :
    parse text = .ok (ofParts vs) := by
  have read : readParts text (splitParts text.toList) = .ok vs :=
    readParts_eq_ok_iff.2 (map_part?_eq_iff.2 ⟨numerals, spelt.splitParts_eq.symm, worth⟩)
  have few : 2 ≤ (splitParts text.toList).length ∧ (splitParts text.toList).length ≤ 4 := by
    rw [spelt.splitParts_eq, List.length_map]
    exact spelt.few
  rw [parse, if_pos few, read]
  rfl

theorem parse_eq_ok_iff {text : String} {v : Version} :
    parse text = .ok v ↔ ∃ numerals, Spells numerals text ∧
      v.parts.map UInt16.toNat =
        numerals.map Numeral.value ++ List.replicate (4 - numerals.length) 0 := by
  constructor
  · intro accepted
    rw [parse] at accepted
    split at accepted
    · rename_i few
      obtain ⟨vs, read, rfl⟩ := map_eq_ok_iff.1 accepted
      obtain ⟨numerals, split, worth⟩ := map_part?_eq_iff.1 (readParts_eq_ok_iff.1 read)
      have spelt := spells_of_splitParts split few
      exact ⟨numerals, spelt, map_parts_ofParts spelt.few.2 worth⟩
    · cases accepted
  · rintro ⟨numerals, spelt, worth⟩
    have written : numerals.map Numeral.value =
        (v.parts.take numerals.length).map UInt16.toNat := by
      rw [List.map_take, worth, List.take_left' (List.length_map _)]
    have same : ofParts (v.parts.take numerals.length) = v :=
      eq_of_parts ((map_parts_ofParts spelt.few.2 written).trans worth.symm)
    rw [parse_of_spells spelt written, same]

/-- Why a text is refused: for the number of its pieces, or else for the first of them that is no
part. -/
inductive Refused (text : String) : VersionError → Prop where
  | shape {pieces : List String} (cut : Cut text pieces)
      (count : ¬ (2 ≤ pieces.length ∧ pieces.length ≤ 4)) : Refused text (.shape text)
  | component {before after : List String} {piece : String}
      (cut : Cut text (before ++ piece :: after))
      (count : 2 ≤ (before ++ piece :: after).length ∧ (before ++ piece :: after).length ≤ 4)
      (earlier : ∀ p ∈ before, IsPart p) (bad : ¬ IsPart piece) :
      Refused text (.component piece text)

theorem parse_eq_error_iff {text : String} {error : VersionError} :
    parse text = .error error ↔ Refused text error := by
  have cut : Cut text ((splitParts text.toList).map String.ofList) := cut_iff.2 rfl
  rw [parse]
  constructor
  · intro failed
    split at failed
    · rename_i few
      obtain ⟨before, part, after, split, passed, bad, rfl⟩ :=
        readParts_eq_error_iff.1 (map_eq_error_iff.1 failed)
      rw [← List.length_map String.ofList] at few
      rw [split, List.map_append, List.map_cons] at cut few
      refine .component cut few ?_ ?_
      · intro p mem
        obtain ⟨q, listed, rfl⟩ := List.mem_map.1 mem
        exact isSome_part?_iff.1 (passed q listed)
      · rw [← isSome_part?_iff, bad]
        exact Bool.false_ne_true
    · rename_i count
      cases failed
      rw [← List.length_map String.ofList] at count
      exact .shape cut count
  · rintro (⟨other, count⟩ | ⟨other, count, earlier, bad⟩)
    · rw [cut_iff.1 other, List.length_map] at count
      rw [if_neg count]
    · rename_i before after piece
      obtain ⟨firsts, rest, split, rfl, cutRest⟩ :=
        List.map_eq_append_iff.1 (cut_iff.1 other).symm
      obtain ⟨part, lasts, rfl, rfl, rfl⟩ := List.map_eq_cons_iff.1 cutRest
      rw [← List.map_cons, ← List.map_append, ← split, List.length_map] at count
      rw [if_pos count, map_eq_error_iff, readParts_eq_error_iff]
      refine ⟨firsts, part, lasts, split, ?_, ?_, rfl⟩
      · intro p mem
        exact isSome_part?_iff.2 (earlier _ (List.mem_map_of_mem mem))
      · exact Option.not_isSome_iff_eq_none.1 (mt isSome_part?_iff.1 bad)

/-- The reader of versions and their grammar: which texts it accepts, which versions they are, and
how it refuses the others. Every version is read back from its own text. -/
theorem parse_exactly_the_grammar :
    (∀ text, (∃ v, parse text = .ok v) ↔
      ∃ numerals, Spells numerals text ∧ ∀ n ∈ numerals, n.value ≤ 65535) ∧
    (∀ text v, parse text = .ok v ↔ ∃ numerals, Spells numerals text ∧
      v.parts.map UInt16.toNat =
        numerals.map Numeral.value ++ List.replicate (4 - numerals.length) 0) ∧
    (∀ text error, parse text = .error error ↔ Refused text error) ∧
    (∀ text, (VersionError.shape text).message =
      "invalid version '" ++ text ++ "', expected 'X.Y.Z.W'") ∧
    (∀ piece text, (VersionError.component piece text).message =
      "invalid version component '" ++ piece ++ "' in '" ++ text ++ "'") ∧
    ∀ v, parse v.toString = .ok v := by
  refine ⟨?_, fun _ _ => parse_eq_ok_iff, fun _ _ => parse_eq_error_iff, fun _ => rfl,
    fun _ _ => rfl, parse_toString⟩
  intro text
  constructor
  · rintro ⟨v, accepted⟩
    obtain ⟨numerals, spelt, worth⟩ := parse_eq_ok_iff.1 accepted
    refine ⟨numerals, spelt, ?_⟩
    intro n mem
    have listed : n.value ∈ v.parts.map UInt16.toNat := by
      rw [worth]
      exact List.mem_append_left _ (List.mem_map_of_mem mem)
    obtain ⟨w, -, same⟩ := List.mem_map.1 listed
    exact same ▸ Nat.le_of_lt_succ w.toNat_lt
  · rintro ⟨numerals, spelt, small⟩
    have worth : numerals.map Numeral.value =
        (numerals.map fun n => n.value.toUInt16).map UInt16.toNat := by
      rw [List.map_map]
      apply List.map_congr_left
      intro n mem
      exact (Nat.mod_eq_of_lt (Nat.lt_succ_of_le (small n mem))).symm
    exact ⟨_, parse_of_spells spelt worth⟩

example : parse "+007.65535" = .ok ⟨7, 65535, 0, 0⟩ ∧
    parse "1.65536.x" = .error (.component "65536" "1.65536.x") ∧
    parse "1..2" = .error (.component "" "1..2") ∧ parse "x" = .error (.shape "x") := by
  decide +kernel

end StubSource.Version
