import StubSource.Version

/-!
# The text of a version

Decimal numerals have no full stop, so a text put together from them falls apart where it was
joined, and every part is read as the number that it was printed from.
-/

namespace StubSource.Version
set_option autoImplicit false

theorem splitParts_eq_splitOn (cs : List Char) : splitParts cs = cs.splitOn '.' := by
  induction cs with
  | nil => rfl
  | cons c cs ih =>
    obtain ⟨part, parts, found⟩ := List.exists_cons_of_ne_nil (List.splitOn_ne_nil '.' cs)
    rw [splitParts, List.splitOn_cons_eq_if_modifyHead, ih, found]
    by_cases stop : c = '.'
    · rw [if_pos stop, if_pos (beq_iff_eq.2 stop)]
    · rw [if_neg stop, if_neg (mt beq_iff_eq.1 stop)]
      rfl

theorem splitParts_of_not_mem {part : List Char} (noStop : '.' ∉ part) :
    splitParts part = [part] := by
  rw [splitParts_eq_splitOn, List.splitOn_eq_singleton noStop]

theorem splitParts_append {part : List Char} (noStop : '.' ∉ part) (rest : List Char) :
    splitParts (part ++ '.' :: rest) = part :: splitParts rest := by
  rw [splitParts_eq_splitOn, List.splitOn_append_cons_self_of_not_mem noStop, splitParts_eq_splitOn]

theorem isDigit_of_mem_repr {n : Nat} {c : Char} (mem : c ∈ n.repr.toList) : c.isDigit := by
  rw [Nat.toList_repr] at mem
  exact Nat.isDigit_of_mem_toDigits (by decide) (by decide) mem

theorem not_mem_repr {c : Char} (noDigit : c.isDigit = false) (n : Nat) : c ∉ n.repr.toList := by
  intro mem
  rw [isDigit_of_mem_repr mem] at noDigit
  cases noDigit

theorem digits?_repr (n : Nat) : digits? n.repr.toList = some n := by
  have allDigits : n.repr.toList.all Char.isDigit :=
    List.all_eq_true.2 fun _ => isDigit_of_mem_repr
  rw [digits?, if_pos allDigits, Nat.toList_repr]
  exact congrArg some (Nat.ofDigitChars_toDigits (by decide) (by decide))

theorem part?_repr (n : UInt16) : part? n.toNat.repr.toList = some n := by
  have noSign : n.toNat.repr.toList.head? ≠ some '+' := fun sign =>
    not_mem_repr (by decide) n.toNat (List.mem_of_head? sign)
  have someDigit : n.toNat.repr.toList.isEmpty = false := by
    rw [Nat.toList_repr, List.isEmpty_eq_false_iff]
    exact Nat.toDigits_ne_nil
  rw [part?, if_neg noSign, someDigit, digits?_repr]
  simp [n.toNat_lt]

theorem parse_toString (v : Version) : parse v.toString = .ok v := by
  have noStop (n : UInt16) : '.' ∉ n.toNat.repr.toList := not_mem_repr (by decide) _
  have parts : splitParts v.toString.toList = [v.major.toNat.repr.toList,
      v.minor.toNat.repr.toList, v.build.toNat.repr.toList, v.revision.toNat.repr.toList] := by
    have joined : v.toString.toList = v.major.toNat.repr.toList ++ '.' ::
        (v.minor.toNat.repr.toList ++ '.' ::
          (v.build.toNat.repr.toList ++ '.' :: v.revision.toNat.repr.toList)) := by
      simp [Version.toString]
    rw [joined, splitParts_append (noStop _), splitParts_append (noStop _),
      splitParts_append (noStop _), splitParts_of_not_mem (noStop _)]
  rw [parse, parts]
  simp only [readParts, part?_repr]
  rfl

end StubSource.Version
