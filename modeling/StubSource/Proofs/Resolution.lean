import StubSource.Dialect.CSharp
import StubSource.Dialect.VisualBasic
import StubSource.Naming
import StubSource.Proofs.AliasOrder

/-!
# Shown names

Separators stay where they are, so what was put in for a key is read by itself when the text is
substituted again: it cannot grow together with what stands beside it. Substitution is therefore
idempotent if and only if it leaves every shown form alone. This is so where all keys are qualified
names and no shown form has a full stop, and there a qualified name is shown by one look into the
table, with the namespace taken off only if the name is not a key.
-/

namespace StubSource
set_option autoImplicit false

namespace AliasTable

variable {table : AliasTable}

theorem shown_of_mem {entry : String × String} (mem : entry ∈ table.entries) :
    table.shown entry.1 = entry.2 := by
  rw [shown, (lookup_eq_some_iff_mem table.unique).2 mem, Option.getD_some]

theorem shown_eq_or_mem (table : AliasTable) (text : String) :
    table.shown text = text ∨ (text, table.shown text) ∈ table.entries := by
  cases found : table.entries.lookup text with
  | none => exact .inl (by rw [shown, found, Option.getD_none])
  | some form =>
    rw [shown, found, Option.getD_some]
    exact .inr ((lookup_eq_some_iff_mem table.unique).1 found)

theorem separated_substituteFrom (names : table.KeysAreNames) {text : List Char}
    (separated : Name.Separated text) :
    Name.Separated (substituteFrom table.entries true 0 text) := by
  cases text with
  | nil => exact separated
  | cons c text =>
    rw [substituteFrom_separator names (separated c rfl)]
    intro first head
    cases head
    exact separated c rfl

theorem substitute_shown (names : table.KeysAreNames)
    (stay : ∀ entry ∈ table.entries, table.substitute entry.2 = entry.2) {run : String}
    (isRun : Name.IsRun run.toList) : table.substitute (table.shown run) = table.shown run := by
  rcases table.shown_eq_or_mem run with same | mem
  · rw [same, substitute_run names isRun, same]
  · exact stay (run, table.shown run) mem

theorem substituteFrom_substituteFrom (names : table.KeysAreNames)
    (stay : ∀ entry ∈ table.entries, table.substitute entry.2 = entry.2) (text : List Char) :
    substituteFrom table.entries true 0 (substituteFrom table.entries true 0 text) =
      substituteFrom table.entries true 0 text := by
  induction text using Name.piece_induction with
  | nil => rfl
  | separator c text other ih =>
    rw [substituteFrom_separator names other, substituteFrom_separator names other, ih]
  | run run after isRun separated ih =>
    -- Whatever the run is shown as, a separator or the end of the text follows it.
    have apart : ∀ a ∈ (table.shown (String.ofList run)).toList.getLast?,
        ∀ b ∈ (substituteFrom table.entries true 0 after).head?,
          (Name.isNameChar a && Name.isNameChar b) = false := by
      intro a _ b first
      rw [separated_substituteFrom names separated b first, Bool.and_false]
    have whole : Name.IsRun (String.ofList run).toList := by rwa [String.toList_ofList]
    rw [substituteFrom_run names isRun separated, substituteFrom_append names apart,
      ← toList_substitute, substitute_shown names stay whole, ih]

/-- Every key is a qualified name, and none is shown with a full stop. -/
def QualifiedToPlain (table : AliasTable) : Prop :=
  ∀ entry ∈ table.entries,
    (∀ c ∈ entry.1.toList, Name.isNameChar c) ∧ '.' ∈ entry.1.toList ∧ '.' ∉ entry.2.toList

instance (table : AliasTable) : Decidable table.QualifiedToPlain :=
  decidable_of_iff ((table.entries.all fun entry => entry.1.toList.all Name.isNameChar &&
    entry.1.toList.contains '.' && !entry.2.toList.contains '.') = true)
    (by simp [QualifiedToPlain, and_assoc])

namespace QualifiedToPlain

variable (plain : table.QualifiedToPlain)
include plain

theorem keysAreNames : table.KeysAreNames := by
  intro entry mem
  exact ⟨List.ne_nil_of_mem (plain entry mem).2.1, (plain entry mem).1⟩

theorem lookup_eq_none {text : String} (noStop : '.' ∉ text.toList) :
    table.entries.lookup text = none := by
  rw [List.lookup_eq_none_iff]
  intro entry mem
  rw [bne_iff_ne]
  rintro rfl
  exact noStop (plain entry mem).2.1

theorem stop_notMem_of_lookup {text form : String}
    (found : table.entries.lookup text = some form) : '.' ∉ form.toList :=
  (plain _ ((lookup_eq_some_iff_mem table.unique).1 found)).2.2

theorem substituteFrom_eq_self {text : List Char} :
    '.' ∉ text → substituteFrom table.entries true 0 text = text := by
  induction text using Name.piece_induction with
  | nil => exact fun _ => rfl
  | separator c text other ih =>
    intro noStop
    rw [substituteFrom_separator plain.keysAreNames other,
      ih fun mem => noStop (List.mem_cons_of_mem c mem)]
  | run run after isRun separated ih =>
    intro noStop
    have absent : table.entries.lookup (String.ofList run) = none := by
      apply plain.lookup_eq_none
      rw [String.toList_ofList]
      exact fun mem => noStop (List.mem_append_left after mem)
    rw [substituteFrom_run plain.keysAreNames isRun separated, shown, absent, Option.getD_none,
      String.toList_ofList, ih fun mem => noStop (List.mem_append_right run mem)]

theorem substitute_eq_self {text : String} (noStop : '.' ∉ text.toList) :
    table.substitute text = text := by
  rw [substitute, plain.substituteFrom_eq_self noStop, String.ofList_toList]

theorem shown_forms_stay : ∀ entry ∈ table.entries, table.substitute entry.2 = entry.2 :=
  fun entry mem => plain.substitute_eq_self (plain entry mem).2.2

end QualifiedToPlain

end AliasTable

namespace Dialect

theorem csharp_qualifiedToPlain : csharp.aliases.QualifiedToPlain := by decide +kernel

theorem visualBasic_qualifiedToPlain : visualBasic.aliases.QualifiedToPlain := by decide +kernel

end Dialect

namespace AliasTable

/-- Where all keys are names, a second substitution changes nothing in any text if and only if
substitution leaves the shown forms alone. The tables of both dialects are such. -/
theorem substitute_idempotent_iff_shown_forms_stay :
    (∀ table : AliasTable, table.KeysAreNames →
      ((∀ text, table.substitute (table.substitute text) = table.substitute text) ↔
        ∀ entry ∈ table.entries, table.substitute entry.2 = entry.2)) ∧
      ∀ dialect ∈ [Dialect.csharp, Dialect.visualBasic],
        dialect.aliases.KeysAreNames ∧
          ∀ entry ∈ dialect.aliases.entries, dialect.aliases.substitute entry.2 = entry.2 := by
  constructor
  · intro table names
    constructor
    · intro idempotent entry mem
      have key : table.substitute entry.1 = entry.2 := by
        rw [substitute_run names (names entry mem), shown_of_mem mem]
      rw [← key]
      exact idempotent entry.1
    · intro stay text
      rw [← String.toList_inj, toList_substitute, toList_substitute]
      exact substituteFrom_substituteFrom names stay text.toList
  · intro dialect mem
    have plain : dialect.aliases.QualifiedToPlain := by
      rcases List.mem_pair.1 mem with rfl | rfl
      · exact Dialect.csharp_qualifiedToPlain
      · exact Dialect.visualBasic_qualifiedToPlain
    exact ⟨plain.keysAreNames, plain.shown_forms_stay⟩

/-- One form is empty, one has separators and a name that is no key, and one is its own key. -/
def settledForms : AliasTable :=
  ofEntries [("Nothing", ""), ("Buffer", "Span<byte>"), ("Self", "Self")]

/-- The form of the first key is the second key. -/
def linkedForms : AliasTable := ofEntries [("A", "B"), ("B", "C")]

theorem substitute_idempotent_iff_shown_forms_stay_in_turn :
    settledForms.KeysAreNames ∧ linkedForms.KeysAreNames ∧
      (∀ text, settledForms.substitute (settledForms.substitute text) =
        settledForms.substitute text) ∧
      ¬ ∀ text, linkedForms.substitute (linkedForms.substitute text) =
        linkedForms.substitute text := by
  have settled : settledForms.KeysAreNames := by decide +kernel
  have linked : linkedForms.KeysAreNames := by decide +kernel
  obtain ⟨main, -⟩ := substitute_idempotent_iff_shown_forms_stay
  refine ⟨settled, linked, ?_, ?_⟩
  · exact (main settledForms settled).2 (by decide +kernel)
  · rw [main linkedForms linked]
    decide +kernel

end AliasTable

namespace Name

theorem isNameChar_of_isIdentifierChar {c : Char} (identifier : isIdentifierChar c) :
    isNameChar c := by
  rw [isNameChar, identifier, Bool.true_or, Bool.true_or]

theorem stop_notMem_of_identifier {name : String}
    (identifier : ∀ c ∈ name.toList, isIdentifierChar c) : '.' ∉ name.toList :=
  fun mem => absurd (identifier '.' mem) (by decide)

theorem isRun_qualify_of_isRun {ns name : String} (named : ∀ c ∈ ns.toList, isNameChar c)
    (isRun : IsRun name.toList) : IsRun (qualify ns name).toList := by
  rw [qualify]
  split
  · exact isRun
  · rw [String.toList_append, String.toList_append]
    refine ⟨List.append_ne_nil_of_right_ne_nil _ isRun.1, ?_⟩
    intro c mem
    rcases List.mem_append.1 mem with mem | mem
    · rcases List.mem_append.1 mem with mem | mem
      · exact named c mem
      · cases List.mem_singleton.1 mem
        decide
    · exact isRun.2 c mem

theorem isRun_qualify {ns name : String} (named : ∀ c ∈ ns.toList, isNameChar c)
    (nonempty : name ≠ "") (identifier : ∀ c ∈ name.toList, isIdentifierChar c) :
    IsRun (qualify ns name).toList := by
  have ends : ∀ c ∈ name.toList, isNameChar c :=
    fun c mem => isNameChar_of_isIdentifierChar (identifier c mem)
  have filled : name.toList ≠ [] := fun empty => nonempty (String.toList_eq_nil_iff.1 empty)
  exact isRun_qualify_of_isRun named ⟨filled, ends⟩

end Name

namespace Naming

variable {naming : Naming} {name ns : String}

theorem shorten_eq_self (noStop : '.' ∉ name.toList) : naming.shorten name ns = name := by
  rw [shorten]
  split
  · rfl
  · split
    · rename_i rest found
      have stop : '.' ∈ name.toList := by simp [Text.after?_eq_some.1 found]
      exact absurd stop noStop
    · rfl

theorem shorten_qualify :
    naming.shorten (Name.qualify ns name) ns =
      if naming.inFull then Name.qualify ns name else name := by
  rw [shorten, Name.qualify]
  cases empty : ns.isEmpty with
  | true => simp
  | false =>
    have after :
        Text.after? (ns.toList ++ ['.']) (ns ++ "." ++ name).toList = some name.toList := by
      rw [Text.after?_eq_some, String.toList_append, String.toList_append]
      rfl
    cases naming.inFull with
    | true => simp
    | false =>
      simp only [Bool.or_self, Bool.false_eq_true, if_false, after]
      exact String.ofList_toList

theorem resolve_eq_self (plain : naming.aliases.QualifiedToPlain) (noStop : '.' ∉ name.toList) :
    naming.resolve name ns = name := by
  rw [resolve, plain.substitute_eq_self noStop, shorten_eq_self noStop]

theorem resolve_qualify (plain : naming.aliases.QualifiedToPlain)
    (isRun : Name.IsRun (Name.qualify ns name).toList) :
    naming.resolve (Name.qualify ns name) ns =
      (naming.aliases.entries.lookup (Name.qualify ns name)).getD
        (if naming.inFull then Name.qualify ns name else name) := by
  rw [resolve, AliasTable.substitute_run plain.keysAreNames isRun, AliasTable.shown]
  cases found : naming.aliases.entries.lookup (Name.qualify ns name) with
  | none => exact shorten_qualify
  | some form => exact shorten_eq_self (plain.stop_notMem_of_lookup found)

/-- A qualified name is shown as the table has it, or else without its namespace where names are not
shown in full, and what is shown stays as it is. -/
theorem resolve_qualified_name (naming : Naming) (plain : naming.aliases.QualifiedToPlain)
    (ns name : String) (named : ∀ c ∈ ns.toList, Name.isNameChar c) (nonempty : name ≠ "")
    (identifier : ∀ c ∈ name.toList, Name.isIdentifierChar c) :
    naming.resolve (Name.qualify ns name) ns =
        (naming.aliases.entries.lookup (Name.qualify ns name)).getD
          (if naming.inFull then Name.qualify ns name else name) ∧
      naming.resolve (naming.resolve (Name.qualify ns name) ns) ns =
        naming.resolve (Name.qualify ns name) ns := by
  have once := resolve_qualify plain (Name.isRun_qualify named nonempty identifier)
  refine ⟨once, ?_⟩
  -- A shown form and a simple name have no full stop, and a name in full is resolved as before.
  cases found : naming.aliases.entries.lookup (Name.qualify ns name) with
  | some form =>
    rw [once, found, Option.getD_some]
    exact resolve_eq_self plain (plain.stop_notMem_of_lookup found)
  | none =>
    rw [found, Option.getD_none] at once
    cases full : naming.inFull with
    | true =>
      rw [full, if_pos rfl] at once
      rw [once, once]
    | false =>
      rw [full, if_neg Bool.false_ne_true] at once
      rw [once]
      exact resolve_eq_self plain (Name.stop_notMem_of_identifier identifier)

/-- The name of a framework type, short in the one dialect and in full in the other. -/
theorem resolve_qualified_name_in_dialects :
    let short : Naming := ⟨Dialect.csharp.aliases, false⟩
    let full : Naming := ⟨Dialect.visualBasic.aliases, true⟩
    short.aliases.QualifiedToPlain ∧ full.aliases.QualifiedToPlain ∧
      short.resolve "System.Int32" "System" = "int" ∧
      short.resolve "System.Guid" "System" = "Guid" ∧
      full.resolve "System.Guid" "System" = "System.Guid" ∧
      short.resolve (short.resolve "System.Guid" "System") "System" = "Guid" := by
  intro short full
  have named : ∀ c ∈ "System".toList, Name.isNameChar c := List.all_eq_true.1 (by decide +kernel)
  have int : ∀ c ∈ "Int32".toList, Name.isIdentifierChar c := List.all_eq_true.1 (by decide +kernel)
  have guid : ∀ c ∈ "Guid".toList, Name.isIdentifierChar c := List.all_eq_true.1 (by decide +kernel)
  have key := short.resolve_qualified_name Dialect.csharp_qualifiedToPlain "System" "Int32" named
    (by decide) int
  have cut := short.resolve_qualified_name Dialect.csharp_qualifiedToPlain "System" "Guid" named
    (by decide) guid
  have whole := full.resolve_qualified_name Dialect.visualBasic_qualifiedToPlain "System" "Guid"
    named (by decide) guid
  have once : short.resolve "System.Guid" "System" = "Guid" := cut.1.trans (by decide +kernel)
  exact ⟨Dialect.csharp_qualifiedToPlain, Dialect.visualBasic_qualifiedToPlain,
    key.1.trans (by decide +kernel), once, whole.1.trans (by decide +kernel), cut.2.trans once⟩

end Naming
end StubSource
