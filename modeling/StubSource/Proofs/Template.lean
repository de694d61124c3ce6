import StubSource.Dialect.Defect
import StubSource.Proofs.LineTexts

/-!
# Templates with marks

Read from left to right, a text falls into the parts between the marks in it. Putting something in
for every mark joins the same parts with other words between them, and the first cut of the text
lies behind its first part. A dialect without defects has a template whose parts are free of braces,
however many marks it has; but only the first mark is filled when the template is written.
-/

namespace StubSource
set_option autoImplicit false

namespace Text

variable {mark text : List Char}

theorem replaceAll_mark_append (nonempty : mark ≠ []) (new rest : List Char) :
    replaceAll mark new (mark ++ rest) = new ++ replaceAll mark new rest := by
  have solid : mark.isEmpty = false := by simpa using nonempty
  simp only [replaceAll, solid, Bool.false_eq_true, if_false]
  cases mark with
  | nil => exact absurd rfl nonempty
  | cons c mark =>
    have found : (c :: mark).isPrefixOf (c :: (mark ++ rest)) = true := by
      rw [List.isPrefixOf_iff_prefix]
      exact List.prefix_append (c :: mark) rest
    rw [List.cons_append, replaceFrom, if_pos found, replaceFrom_drop]
    simp

theorem replaceAll_cons_of_absent {c : Char} (new : List Char)
    (absent : ¬ mark <+: c :: text) :
    replaceAll mark new (c :: text) = c :: replaceAll mark new text := by
  have solid : mark.isEmpty = false := by
    cases mark with
    | nil => exact absurd List.nil_prefix absent
    | cons d mark => rfl
  have passed : ¬ mark.isPrefixOf (c :: text) = true := by rwa [List.isPrefixOf_iff_prefix]
  simp only [replaceAll, solid, Bool.false_eq_true, if_false]
  rw [replaceFrom, if_neg passed]

theorem cutAt?_mark_append (rest : List Char) : cutAt? mark (mark ++ rest) = some ([], rest) := by
  have found : after? mark (mark ++ rest) = some rest := after?_eq_some.2 rfl
  cases whole : mark ++ rest with
  | nil => rw [cutAt?, ← whole, found, Option.map_some]
  | cons c text => rw [cutAt?, ← whole, found]

theorem cutAt?_cons_of_absent {c : Char} (absent : ¬ mark <+: c :: text) :
    cutAt? mark (c :: text) = (cutAt? mark text).map fun parts => (c :: parts.1, parts.2) := by
  have passed : after? mark (c :: text) = none := by
    cases found : after? mark (c :: text) with
    | none => rfl
    | some rest => exact absurd ⟨rest, (after?_eq_some.1 found).symm⟩ absent
  rw [cutAt?, passed]

theorem cons_intercalate_cons (c : Char) (separator first : List Char) (rest : List (List Char)) :
    separator.intercalate ((c :: first) :: rest) = c :: separator.intercalate (first :: rest) := by
  cases rest with
  | nil => simp
  | cons next rest => simp [List.intercalate_cons_cons]

/-- The parts of a text between its marks: `first` stands before the first mark, and behind each
mark stands one of `rest`. -/
structure Parts (mark text first : List Char) (rest : List (List Char)) : Prop where
  joined : text = mark.intercalate (first :: rest)
  filled : ∀ new, replaceAll mark new text = new.intercalate (first :: rest)
  cut : cutAt? mark text = if rest = [] then none else some (first, mark.intercalate rest)

theorem Parts.nil (nonempty : mark ≠ []) : Parts mark [] [] [] where
  joined := by simp
  filled := by
    intro new
    cases mark with
    | nil => exact absurd rfl nonempty
    | cons c mark => simp [replaceAll, replaceFrom]
  cut := by
    cases mark with
    | nil => exact absurd rfl nonempty
    | cons c mark => simp [cutAt?, after?]

theorem Parts.mark_append (nonempty : mark ≠ []) {first : List Char} {rest : List (List Char)}
    (parts : Parts mark text first rest) : Parts mark (mark ++ text) [] (first :: rest) where
  joined := by rw [List.intercalate_cons_cons, List.nil_append, ← parts.joined]
  filled := by
    intro new
    rw [replaceAll_mark_append nonempty, parts.filled, List.intercalate_cons_cons, List.nil_append]
  cut := by rw [cutAt?_mark_append, if_neg (List.cons_ne_nil _ _), ← parts.joined]

theorem Parts.cons {c : Char} (absent : ¬ mark <+: c :: text) {first : List Char}
    {rest : List (List Char)} (parts : Parts mark text first rest) :
    Parts mark (c :: text) (c :: first) rest where
  joined := by rw [cons_intercalate_cons, ← parts.joined]
  filled := by
    intro new
    rw [replaceAll_cons_of_absent new absent, parts.filled, cons_intercalate_cons]
  cut := by
    rw [cutAt?_cons_of_absent absent, parts.cut]
    split <;> rfl

theorem exists_parts (nonempty : mark ≠ []) (text : List Char) :
    ∃ first rest, Parts mark text first rest := by
  -- On the length and not on the text, since a mark is passed as a whole.
  induction length : text.length using Nat.strongRecOn generalizing text with
  | ind size ih =>
    cases text with
    | nil => exact ⟨[], [], .nil nonempty⟩
    | cons c text =>
      by_cases here : mark <+: c :: text
      · obtain ⟨behind, whole⟩ := here
        have shorter : behind.length < size := by
          have marked := List.length_pos_iff.2 nonempty
          have sum := congrArg List.length whole
          rw [List.length_append, length] at sum
          omega
        obtain ⟨first, rest, parts⟩ := ih behind.length shorter behind rfl
        exact ⟨[], first :: rest, whole ▸ parts.mark_append nonempty⟩
      · have shorter : text.length < size := by
          rw [List.length_cons] at length
          omega
        obtain ⟨first, rest, parts⟩ := ih text.length shorter text rfl
        exact ⟨c :: first, rest, parts.cons here⟩

theorem nil_intercalate (parts : List (List Char)) : ([] : List Char).intercalate parts =
    parts.flatten := by
  induction parts with
  | nil => rfl
  | cons part parts ih =>
    cases parts with
    | nil => simp
    | cons next parts =>
      rw [List.intercalate_cons_cons, ih, List.append_nil]
      rfl

theorem length_intercalate (separator first : List Char) (rest : List (List Char)) :
    (separator.intercalate (first :: rest)).length =
      (first :: rest).flatten.length + rest.length * separator.length := by
  induction rest generalizing first with
  | nil => simp
  | cons next rest ih =>
    have below := ih next
    simp only [List.intercalate_cons_cons, List.length_append, List.flatten_cons,
      List.length_cons, Nat.add_mul] at below ⊢
    omega

/-- Joined with different words, the same parts make different texts unless there is one alone. -/
theorem intercalate_eq_iff (separator separator' first : List Char) (rest : List (List Char)) :
    separator.intercalate (first :: rest) = separator'.intercalate (first :: rest) ↔
      rest = [] ∨ separator = separator' := by
  constructor
  · intro same
    cases rest with
    | nil => exact .inl rfl
    | cons next rest =>
      right
      have sizes := congrArg List.length same
      rw [length_intercalate, length_intercalate, Nat.add_left_cancel_iff] at sizes
      have size : separator.length = separator'.length :=
        Nat.eq_of_mul_eq_mul_left (by simp) sizes
      rw [List.intercalate_cons_cons, List.intercalate_cons_cons, List.append_assoc,
        List.append_assoc, List.append_cancel_left_eq] at same
      exact List.append_inj_left same size
  · rintro (rfl | rfl)
    · simp
    · rfl

end Text

def BraceFree (text : String) : Prop := ∀ c ∈ text.toList, c ≠ '\x7b' ∧ c ≠ '\x7d'

theorem hasStrayBrace_eq_false_iff {template : String} {first : List Char}
    {rest : List (List Char)} (parts : Text.Parts typeMark.toList template.toList first rest) :
    hasStrayBrace template = false ↔ ∀ part ∈ first :: rest, BraceFree (String.ofList part) := by
  rw [hasStrayBrace, parts.filled, Text.nil_intercalate]
  simp [BraceFree, -List.flatten_cons]

theorem hasStrayBrace_of_defect?_eq_none {d : Dialect} (accepted : d.defect? = none) :
    hasStrayBrace d.methods.returnDefault = false := by
  cases stray : hasStrayBrace d.methods.returnDefault with
  | false => rfl
  | true =>
    simp only [Dialect.defect?, stray, if_true] at accepted
    repeat' split at accepted
    all_goals cases accepted

theorem ofList_intercalate (separator : String) (parts : List (List Char)) :
    String.ofList (separator.toList.intercalate parts) =
      separator.intercalate (parts.map String.ofList) := by
  rw [← String.toList_inj, String.toList_ofList, String.toList_intercalate, List.map_map]
  congr 1
  exact (List.map_id'' (fun _ => String.toList_ofList) parts).symm

namespace Scope

open Write

theorem returnDefault_eq {s : Scope} {first : List Char} {rest : List (List Char)}
    (parts : Text.Parts typeMark.toList s.dialect.methods.returnDefault.toList first rest)
    (type : TypeRef) :
    s.returnDefault type =
      if rest.map String.ofList = [] then String.ofList first
      else String.ofList first ++ s.typeRef type ++
        typeMark.intercalate (rest.map String.ofList) := by
  simp only [returnDefault, parts.cut, List.map_eq_nil_iff]
  by_cases alone : rest = []
  · subst alone
    have whole : String.ofList s.dialect.methods.returnDefault.toList = String.ofList first := by
      rw [parts.joined, List.intercalate_singleton]
    simpa using whole
  · simp only [if_neg alone, ofList_intercalate]

/-- Filling the first mark fills all of them only if there is no second one, or if the mark itself
is put in. -/
theorem fill_first_eq_iff (shown first : String) (rest : List String) :
    (if rest = [] then first else first ++ shown ++ typeMark.intercalate rest) =
      shown.intercalate (first :: rest) ↔ rest.length ≤ 1 ∨ shown = typeMark := by
  cases rest with
  | nil => simp
  | cons second rest =>
    have same := Text.intercalate_eq_iff typeMark.toList shown.toList second.toList
      (rest.map String.toList)
    rw [← List.map_cons, ← String.toList_intercalate, ← String.toList_intercalate,
      String.toList_inj, String.toList_inj, List.map_eq_nil_iff] at same
    rw [if_neg (List.cons_ne_nil _ _), String.intercalate_cons_cons, String.append_right_inj, same,
      List.length_cons, Nat.succ_le_succ_iff, Nat.le_zero, List.length_eq_zero_iff,
      eq_comm (a := shown)]

/-- Of the marks in a template only the first is filled. The dialect has no defects, so its template
is made of marks and of parts without braces. -/
theorem writeReturnDefault_fills_first_mark (s : Scope) (accepted : s.dialect.defect? = none)
    (type : TypeRef) (sheet : Sheet) :
    ∃ (first : String) (rest : List String) (written : String),
      let template := s.dialect.methods.returnDefault
      let shown := s.typeRef type
      let indented := "\n" ++ sheet.draft.unit.times sheet.draft.level
      template = typeMark.intercalate (first :: rest) ∧
      (∀ part ∈ first :: rest, BraceFree part) ∧
      (s.visit (.typeReference type)).runOn sheet =
        (.ok (), { sheet with draft := sheet.draft.push shown }) ∧
      (s.writeReturnDefault type).runOn sheet =
        (.ok (), { sheet with draft := sheet.draft.push (written ++ indented) }) ∧
      written = (if rest = [] then first else first ++ shown ++ typeMark.intercalate rest) ∧
      String.ofList (Text.replaceAll typeMark.toList shown.toList template.toList) =
        shown.intercalate (first :: rest) ∧
      (written = shown.intercalate (first :: rest) ↔ rest.length ≤ 1 ∨ shown = typeMark) := by
  obtain ⟨first, rest, parts⟩ :=
    Text.exists_parts (by decide : typeMark.toList ≠ []) s.dialect.methods.returnDefault.toList
  have joined : s.dialect.methods.returnDefault =
      typeMark.intercalate ((first :: rest).map String.ofList) := by
    rw [← ofList_intercalate, ← parts.joined, String.ofList_toList]
  refine ⟨String.ofList first, rest.map String.ofList, s.returnDefault type, joined, ?_, ?_, ?_,
    ?_, ?_, ?_⟩
  · rw [← List.map_cons]
    intro part mem
    obtain ⟨chars, listed, rfl⟩ := List.mem_map.1 mem
    exact (hasStrayBrace_eq_false_iff parts).1 (hasStrayBrace_of_defect?_eq_none accepted)
      chars listed
  · rw [visit, writeTypeRef_eq, runOn_push]
  · rw [writeReturnDefault_eq, runOn_line, Draft.line, Draft.breakLine, Draft.push_push]
    rfl
  · exact returnDefault_eq parts type
  · rw [parts.filled, ofList_intercalate, List.map_cons]
  · rw [returnDefault_eq parts type]
    exact fill_first_eq_iff _ _ _

/-- A template that needs the type twice. -/
def castTemplate : Dialect :=
  { methods := { returnDefault := "return (\x7btype\x7d) default(\x7btype\x7d);" } }

theorem writeReturnDefault_fills_first_mark_of_two :
    let s : Scope := ⟨{}, castTemplate, castTemplate.naming⟩
    let sheet : Sheet := ⟨⟨"", 1, .tab⟩, []⟩
    s.dialect.defect? = none ∧
      ((s.writeReturnDefault (.system "Int32")).runOn sheet).2.draft.text =
        "return (System.Int32) default(\x7btype\x7d);\n\t" ∧
      ∃ first rest, castTemplate.methods.returnDefault = typeMark.intercalate (first :: rest) ∧
        2 ≤ rest.length := by
  intro s sheet
  have accepted : s.dialect.defect? = none := by decide +kernel
  have shown : ((s.writeReturnDefault (.system "Int32")).runOn sheet).2.draft.text =
      "return (System.Int32) default(\x7btype\x7d);\n\t" := by decide +kernel
  obtain ⟨first, rest, written, joined, -, -, ran, -, filled, agree⟩ :=
    s.writeReturnDefault_fills_first_mark accepted (.system "Int32") sheet
  refine ⟨accepted, shown, first, rest, joined, ?_⟩
  rcases Nat.lt_or_ge rest.length 2 with few | many
  · -- With a single mark all would be filled, which is not what was written.
    rw [agree.2 (.inl (Nat.le_of_lt_succ few)), ← filled] at ran
    rw [ran] at shown
    exact absurd shown (by decide +kernel)
  · exact many

/-- The second mark of an accepted template reaches the source. -/
theorem returnDefault_leaves_second_mark :
    let s : Scope := ⟨{}, castTemplate, castTemplate.naming⟩
    let template := s.dialect.methods.returnDefault
    let written (w : Write Unit) : String := (w.runOn ⟨⟨"", 0, .tab⟩, []⟩).2.draft.text
    let shown := written (s.writeTypeRef (.system "Int32"))
    s.dialect.defect? = none ∧ shown = "System.Int32" ∧
      written (s.writeReturnDefault (.system "Int32")) =
        "return (System.Int32) default(\x7btype\x7d);\n" ∧
      String.ofList (Text.replaceAll typeMark.toList shown.toList template.toList) =
        "return (System.Int32) default(System.Int32);" := by
  decide +kernel

end Scope
end StubSource
