import StubSource.Dialect.Load
import StubSource.Proofs.Template

/-!
# Dialects without defects

For every defect there is something that a dialect has if it is free of that defect, said without
the search for it. A template is free of stray braces if it is put together from marks and from
texts without braces. A dialect is passed on if it is free of all defects; otherwise it is refused
for the first one in a fixed order, at the place where the document assigns the field at fault.
-/

namespace StubSource
set_option autoImplicit false

/-! ## Templates -/

/-- Marks for the type and texts without braces, in any number and order. -/
inductive Fillable : String → Prop where
  | empty : Fillable ""
  | words {part rest : String} (free : BraceFree part) (tail : Fillable rest) :
      Fillable (part ++ rest)
  | mark {rest : String} (tail : Fillable rest) : Fillable (typeMark ++ rest)

/-- Where the first character of a mark is missing no mark begins. -/
theorem Text.replaceAll_append_of_notMem {c : Char} {mark part : List Char}
    (new rest : List Char) (foreign : c ∉ part) :
    replaceAll (c :: mark) new (part ++ rest) = part ++ replaceAll (c :: mark) new rest := by
  induction part with
  | nil => rfl
  | cons d part ih =>
    rw [List.mem_cons, not_or] at foreign
    have absent : ¬ c :: mark <+: d :: (part ++ rest) := by
      intro starts
      exact foreign.1 (List.cons_prefix_cons.1 starts).1
    rw [List.cons_append, replaceAll_cons_of_absent new absent, ih foreign.2, List.cons_append]

theorem hasStrayBrace_words {part : String} (free : BraceFree part) (rest : String) :
    hasStrayBrace (part ++ rest) = hasStrayBrace rest := by
  have foreign : '\x7b' ∉ part.toList := fun mem => (free _ mem).1 rfl
  have none : part.toList.any (fun c => c == '\x7b' || c == '\x7d') = false := by
    rw [List.any_eq_false]
    intro c mem
    simpa using free c mem
  have passed : Text.replaceAll typeMark.toList [] (part.toList ++ rest.toList) =
      part.toList ++ Text.replaceAll typeMark.toList [] rest.toList :=
    Text.replaceAll_append_of_notMem [] rest.toList foreign
  rw [hasStrayBrace, hasStrayBrace, String.toList_append, passed, List.any_append, none,
    Bool.false_or]

theorem hasStrayBrace_mark (rest : String) :
    hasStrayBrace (typeMark ++ rest) = hasStrayBrace rest := by
  rw [hasStrayBrace, hasStrayBrace, String.toList_append,
    Text.replaceAll_mark_append (by decide), List.nil_append]

theorem fillable_intercalate {parts : List String} (free : ∀ part ∈ parts, BraceFree part) :
    Fillable (typeMark.intercalate parts) := by
  induction parts with
  | nil => exact .empty
  | cons part parts ih =>
    have here := free part List.mem_cons_self
    cases parts with
    | nil =>
      have whole := Fillable.words here .empty
      simpa using whole
    | cons next parts =>
      rw [String.intercalate_cons_cons, String.append_assoc]
      exact .words here (.mark (ih fun p mem => free p (List.mem_cons_of_mem part mem)))

/-- Taking the marks out leaves no brace behind only where every brace belongs to a mark. -/
theorem hasStrayBrace_eq_false_iff_fillable {template : String} :
    hasStrayBrace template = false ↔ Fillable template := by
  constructor
  · intro clean
    obtain ⟨first, rest, parts⟩ :=
      Text.exists_parts (by decide : typeMark.toList ≠ []) template.toList
    have free := (hasStrayBrace_eq_false_iff parts).1 clean
    have joined : template = typeMark.intercalate ((first :: rest).map String.ofList) := by
      rw [← ofList_intercalate, ← parts.joined, String.ofList_toList]
    rw [joined]
    apply fillable_intercalate
    intro part mem
    obtain ⟨chars, listed, rfl⟩ := List.mem_map.1 mem
    exact free chars listed
  · intro fillable
    induction fillable with
    | empty => decide
    | words free _ ih => rw [hasStrayBrace_words free, ih]
    | mark _ ih => rw [hasStrayBrace_mark, ih]

instance (template : String) : Decidable (Fillable template) :=
  decidable_of_iff _ hasStrayBrace_eq_false_iff_fillable

example : Fillable "return (\x7btype\x7d) default(\x7btype\x7d);" ∧
    ¬ Fillable "\x7b\x7btype\x7d\x7d" ∧ ¬ Fillable "\x7bty\x7btype\x7dpe\x7d" := by
  decide +kernel

/-! ## What a dialect has without a defect -/

/-- There is something to see in the text. -/
def Visible (text : String) : Prop := ∃ c ∈ text.toList, Text.isBlank c = false

theorem isBlankText_eq_false_iff {text : String} : Text.isBlankText text = false ↔ Visible text :=
  List.all_eq_false.trans (by simp [Visible])

namespace Dialect

def FreeOf (d : Dialect) : Defect → Prop
  | .blankName => Visible d.name
  | .blankComment => Visible d.commentMark
  | .noIndent => d.indent ≠ .spaces 0
  | .strayBrace => Fillable d.methods.returnDefault
  | .emptyAlias => ∀ entry ∈ d.aliases.entries, entry.1 ≠ ""
  | .blankImport => ∀ ns ∈ d.defaultImports, Visible ns

/-- The test for a defect by itself. -/
def shows (d : Dialect) : Defect → Bool
  | .blankName => Text.isBlankText d.name
  | .blankComment => Text.isBlankText d.commentMark
  | .noIndent => d.indent = .spaces 0
  | .strayBrace => hasStrayBrace d.methods.returnDefault
  | .emptyAlias => d.aliases.entries.any (·.1.isEmpty)
  | .blankImport => d.defaultImports.any Text.isBlankText

theorem shows_eq_false_iff {d : Dialect} {defect : Defect} :
    d.shows defect = false ↔ d.FreeOf defect := by
  cases defect with
  | blankName => exact isBlankText_eq_false_iff
  | blankComment => exact isBlankText_eq_false_iff
  | noIndent => exact decide_eq_false_iff_not
  | strayBrace => exact hasStrayBrace_eq_false_iff_fillable
  | emptyAlias =>
    rw [shows, FreeOf, List.any_eq_false]
    simp only [String.isEmpty_iff, ne_eq]
  | blankImport =>
    rw [shows, FreeOf, List.any_eq_false]
    simp only [Bool.not_eq_true, isBlankText_eq_false_iff]

end Dialect

/-- The order in which defects are looked for. -/
def Defect.inOrder : List Defect :=
  [.blankName, .blankComment, .noIndent, .strayBrace, .emptyAlias, .blankImport]

theorem Defect.mem_inOrder (defect : Defect) : defect ∈ inOrder := by
  cases defect <;> decide

namespace Dialect

theorem defect?_eq_find? (d : Dialect) : d.defect? = Defect.inOrder.find? d.shows := by
  have next (defect : Defect) (later : List Defect) : (defect :: later).find? d.shows =
      if d.shows defect then some defect else later.find? d.shows := by
    rw [List.find?_cons]
    cases d.shows defect <;> rfl
  simp only [Defect.inOrder, next, shows, decide_eq_true_eq]
  rfl

theorem defect?_eq_none_iff {d : Dialect} : d.defect? = none ↔ ∀ defect, d.FreeOf defect := by
  rw [defect?_eq_find?, List.find?_eq_none]
  constructor
  · intro clean defect
    exact shows_eq_false_iff.1 (by simpa using clean defect defect.mem_inOrder)
  · intro free defect _
    simpa using shows_eq_false_iff.2 (free defect)

/-- The defect that is found comes first in the order among all that the dialect has. -/
theorem defect?_eq_some_iff {d : Dialect} {defect : Defect} :
    d.defect? = some defect ↔ ∃ before after, Defect.inOrder = before ++ defect :: after ∧
      (∀ earlier ∈ before, d.FreeOf earlier) ∧ ¬ d.FreeOf defect := by
  rw [defect?_eq_find?, List.find?_eq_some_iff_append, ← shows_eq_false_iff, Bool.not_eq_false]
  simp only [Bool.not_eq_true', shows_eq_false_iff]
  constructor
  · rintro ⟨found, before, after, order, passed⟩
    exact ⟨before, after, order, passed, found⟩
  · rintro ⟨before, after, order, passed, found⟩
    exact ⟨found, before, after, order, passed⟩

/-- A dialect is passed on, as it is, if and only if it is free of all defects. It is refused for
the first defect in order that it has, with the words and the field of that defect and the place
where the document assigns the field. -/
theorem checked_refuses_first_defect (d : Dialect) (file document : String) :
    (∀ passed, d.checked file document = .ok passed ↔
      passed = d ∧ ∀ defect, d.FreeOf defect) ∧
    (∀ error, d.checked file document = .error error ↔
      ∃ before defect after, Defect.inOrder = before ++ defect :: after ∧
        (∀ earlier ∈ before, d.FreeOf earlier) ∧ ¬ d.FreeOf defect ∧
        error = .defective file defect (Span.ofKey? document defect.key)) ∧
    ∀ span, Defect.inOrder.map (fun defect =>
      (defect.key, LoadError.message (.defective file defect span))) =
        [("name", "backend name must not be empty"),
          ("comment_prefix", "comment_prefix must contain a comment marker"),
          ("indent", "indent width must be at least one space"),
          ("return_default", "return_default may only use the \x7btype\x7d placeholder"),
          ("aliases", "alias names must not be empty"),
          ("default_imports", "default_imports must not contain empty entries")] := by
  refine ⟨?_, ?_, fun _ => rfl⟩
  · intro passed
    rw [← defect?_eq_none_iff, checked]
    cases found : d.defect? with
    | none => simp [eq_comm]
    | some defect => simp
  · intro error
    rw [checked]
    cases found : d.defect? with
    | none =>
      have free := defect?_eq_none_iff.1 found
      constructor
      · intro failed
        cases failed
      · rintro ⟨_, defect, _, _, _, spoilt, _⟩
        exact absurd (free defect) spoilt
    | some defect =>
      constructor
      · intro failed
        cases failed
        obtain ⟨before, after, order, passed, spoilt⟩ := defect?_eq_some_iff.1 found
        exact ⟨before, defect, after, order, passed, spoilt, rfl⟩
      · rintro ⟨before, other, after, order, passed, spoilt, rfl⟩
        have same := defect?_eq_some_iff.2 ⟨before, after, order, passed, spoilt⟩
        rw [found, Option.some.injEq] at same
        rw [same]

end Dialect
end StubSource
