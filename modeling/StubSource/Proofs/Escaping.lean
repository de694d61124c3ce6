import StubSource.Dialect.CSharp
import StubSource.Dialect.VisualBasic
import StubSource.Writing.Declaration

/-!
# Escaped names

Where reserved words are identifiers and the escape has a character that no identifier has, escaped
names are a class of their own. They are not reserved, whether the case of letters counts or not,
and they differ from every identifier that is declared as it is.
-/

namespace StubSource
set_option autoImplicit false

namespace Name

def IsIdentifier (name : String) : Prop := ∀ c ∈ name.toList, isIdentifierChar c

instance (name : String) : Decidable (IsIdentifier name) :=
  decidable_of_iff (name.toList.all isIdentifierChar = true) List.all_eq_true

theorem isIdentifierChar_toLower (c : Char) : isIdentifierChar c.toLower = isIdentifierChar c := by
  by_cases upper : c.val ≥ 'A'.val ∧ c.val ≤ 'Z'.val
  · have range : 65 ≤ c.toNat ∧ c.toNat ≤ 90 := by
      simpa [UInt32.le_iff_toNat_le] using upper
    have table : ∀ n ≤ 90, 65 ≤ n →
        isIdentifierChar (Char.ofNat n).toLower = isIdentifierChar (Char.ofNat n) := by decide
    have same := table c.toNat range.2 range.1
    rwa [Char.ofNat_toNat] at same
  · have kept : c.toLower = c := dif_neg upper
    rw [kept]

theorem isIdentifier_iff_of_toLower_eq {a b : String}
    (same : a.toList.map Char.toLower = b.toList.map Char.toLower) :
    IsIdentifier a ↔ IsIdentifier b := by
  have lower (name : String) :
      IsIdentifier name ↔ ∀ c ∈ name.toList.map Char.toLower, isIdentifierChar c := by
    rw [List.forall_mem_map]
    simp only [isIdentifierChar_toLower]
    rfl
  rw [lower a, lower b, same]

end Name

theorem Method.isConstructor_eq_false_of_isIdentifier {m : Method}
    (identifier : Name.IsIdentifier m.name) : m.isConstructor = false := by
  have other {name : String} (special : ¬ Name.IsIdentifier name) : m.name ≠ name := by
    intro named
    exact special (named ▸ identifier)
  rw [isConstructor, Bool.or_eq_false_iff, beq_eq_false_iff_ne, beq_eq_false_iff_ne]
  exact ⟨other (by decide), other (by decide)⟩

namespace IdentifierRules

/-- The escape has a character by which an escaped name is known. -/
structure Marking (rules : IdentifierRules) : Prop where
  words : ∀ word ∈ rules.reserved, Name.IsIdentifier word
  mark : ∃ c ∈ rules.escape.before.toList ++ rules.escape.after.toList,
    ¬ Name.isIdentifierChar c

instance (rules : IdentifierRules) : Decidable rules.Marking :=
  decidable_of_iff ((∀ word ∈ rules.reserved, Name.IsIdentifier word) ∧
      (rules.escape.before.toList ++ rules.escape.after.toList).all Name.isIdentifierChar = false)
    ⟨fun both => ⟨both.1, List.all_eq_false.1 both.2⟩,
      fun marking => ⟨marking.words, List.all_eq_false.2 marking.mark⟩⟩

variable {rules : IdentifierRules}

theorem isIdentifier_of_sameWord {word name : String} (same : rules.sameWord word name)
    (identifier : Name.IsIdentifier word) : Name.IsIdentifier name := by
  unfold sameWord at same
  split at same
  · rwa [← beq_iff_eq.1 same]
  · exact (Name.isIdentifier_iff_of_toLower_eq (beq_iff_eq.1 same)).1 identifier

namespace Marking

theorem isIdentifier_of_isReserved (marking : rules.Marking) {name : String}
    (reserved : rules.isReserved name) : Name.IsIdentifier name := by
  obtain ⟨word, listed, same⟩ := List.any_eq_true.1 reserved
  exact isIdentifier_of_sameWord same (marking.words word listed)

theorem not_isIdentifier_around (marking : rules.Marking) (name : String) :
    ¬ Name.IsIdentifier (rules.escape.around name) := by
  obtain ⟨c, mem, other⟩ := marking.mark
  have written : c ∈ (rules.escape.around name).toList := by
    simp only [Frame.around, String.toList_append, List.mem_append] at mem ⊢
    rcases mem with before | after
    · exact Or.inl (Or.inl before)
    · exact Or.inr after
  intro identifier
  exact other (identifier c written)

theorem isReserved_safeName (marking : rules.Marking) (name : String) :
    rules.isReserved (rules.safeName name) = false := by
  unfold safeName
  split
  · rw [Bool.eq_false_iff]
    intro reserved
    exact marking.not_isIdentifier_around name (marking.isIdentifier_of_isReserved reserved)
  · rename_i free
    exact Bool.eq_false_iff.2 free

theorem safeName_safeName (marking : rules.Marking) (name : String) :
    rules.safeName (rules.safeName name) = rules.safeName name := by
  rw [safeName, marking.isReserved_safeName, if_neg Bool.false_ne_true]

theorem safeName_inj (marking : rules.Marking) {a b : String} (identifierA : Name.IsIdentifier a)
    (identifierB : Name.IsIdentifier b) (same : rules.safeName a = rules.safeName b) : a = b := by
  unfold safeName at same
  split at same <;> split at same
  · rw [Frame.around, Frame.around, String.append_left_inj, String.append_right_inj] at same
    exact same
  · exact absurd (same ▸ identifierB) (marking.not_isIdentifier_around a)
  · exact absurd (same ▸ identifierA) (marking.not_isIdentifier_around b)
  · exact same

end Marking
end IdentifierRules

namespace Scope

theorem methodName_of_isIdentifier (s : Scope) {m : Method}
    (identifier : Name.IsIdentifier m.name) : s.methodName m = .ok (s.safeName m.name) := by
  rw [methodName, Method.isConstructor_eq_false_of_isIdentifier identifier,
    if_neg Bool.false_ne_true]

end Scope

namespace IdentifierRules

/-- A declared name is not reserved and needs no further escape, and different identifiers are
declared under different names, be they of methods or of fields. -/
theorem escaping_keeps_names_apart (rules : IdentifierRules) (marking : rules.Marking) :
    (∀ name, rules.isReserved (rules.safeName name) = false) ∧
      (∀ name, rules.safeName (rules.safeName name) = rules.safeName name) ∧
      (∀ a b, Name.IsIdentifier a → Name.IsIdentifier b → a ≠ b →
        rules.safeName a ≠ rules.safeName b) ∧
      ∀ s : Scope, s.dialect.identifiers = rules → ∀ m : Method, Name.IsIdentifier m.name →
        (∀ other : Method, Name.IsIdentifier other.name → m.name ≠ other.name →
          s.methodName m ≠ s.methodName other) ∧
        ∀ f : Field, Name.IsIdentifier f.name → m.name ≠ f.name →
          s.methodName m ≠ .ok (s.safeName f.name) := by
  refine ⟨marking.isReserved_safeName, marking.safeName_safeName, ?_, ?_⟩
  · intro a b identifierA identifierB differ same
    exact differ (marking.safeName_inj identifierA identifierB same)
  · rintro s rfl m identifier
    constructor
    · intro other identifier' differ same
      rw [s.methodName_of_isIdentifier identifier, s.methodName_of_isIdentifier identifier',
        Except.ok.injEq] at same
      exact differ (marking.safeName_inj identifier identifier' same)
    · intro f identifier' differ same
      rw [s.methodName_of_isIdentifier identifier, Except.ok.injEq] at same
      exact differ (marking.safeName_inj identifier identifier' same)

theorem escaping_keeps_names_apart_in_dialects :
    let sharp := Dialect.csharp.identifiers
    let basic := Dialect.visualBasic.identifiers
    sharp.Marking ∧ basic.Marking ∧
      sharp.isReserved (sharp.safeName "class") = false ∧ sharp.safeName "@class" = "@class" ∧
      basic.safeName "class" = "[class]" ∧ basic.safeName "[class]" = "[class]" ∧
      basic.safeName "class" ≠ basic.safeName "CLASS" := by
  intro sharp basic
  have markSharp : sharp.Marking := by decide +kernel
  have markBasic : basic.Marking := by decide +kernel
  have escapedSharp : sharp.safeName "class" = "@class" := by decide +kernel
  have escapedBasic : basic.safeName "class" = "[class]" := by decide +kernel
  obtain ⟨free, again, -⟩ := sharp.escaping_keeps_names_apart markSharp
  obtain ⟨-, againBasic, apart, -⟩ := basic.escaping_keeps_names_apart markBasic
  refine ⟨markSharp, markBasic, free "class", ?_, escapedBasic, ?_, ?_⟩
  · rw [← escapedSharp]
    exact again "class"
  · rw [← escapedBasic]
    exact againBasic "class"
  · exact apart "class" "CLASS" (by decide +kernel) (by decide +kernel) (by decide)

end IdentifierRules
end StubSource
