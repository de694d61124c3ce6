import StubSource.Draft
import StubSource.Dialect.Basic

/-!
# Lines and blocks of a draft

A draft writes indentation ahead and takes it back when the level changes. Seen from the start of a
line, none of this shows: a line at a depth is its indentation, its text and a line break, and a
block adds its header, its start token if there is one, and its end token at the depth around it.
-/

namespace StubSource
set_option autoImplicit false

namespace Text

theorem dropLeads_nil (count : Nat) (text : List Char) : dropLeads [] count text = text := by
  cases count <;> rfl

theorem dropLeads_append_self {lead : List Char} (nonempty : lead ≠ []) (count : Nat)
    (text : List Char) : dropLeads lead (count + 1) (lead ++ text) = dropLeads lead count text := by
  have found : after? lead (lead ++ text) = some text := after?_eq_some.2 rfl
  simp [dropLeads, nonempty, found]

theorem dropLeads_of_after?_eq_none {lead text : List Char} (absent : after? lead text = none)
    (count : Nat) : dropLeads lead count text = text := by
  cases count with
  | zero => rfl
  | succ count => simp [dropLeads, absent]

theorem dropTails_append_replicate (tail : List Char) (count copies : Nat) (text : List Char) :
    dropTails tail (count + copies) (text ++ (List.replicate copies tail).flatten) =
      dropTails tail count text := by
  by_cases empty : tail = []
  · subst empty
    simp [dropTails, dropLeads_nil]
  · have nonempty : tail.reverse ≠ [] := by simpa using empty
    induction copies with
    | zero => simp
    | succ copies ih =>
      rw [← ih]
      simp only [dropTails, List.reverse_append, List.replicate_succ', List.flatten_append,
        List.flatten_singleton, List.append_assoc]
      rw [← Nat.add_assoc, dropLeads_append_self nonempty]

/-- Nothing is taken off behind a character that `tail` does not have. -/
theorem dropTails_concat {tail : List Char} {c : Char} (foreign : c ∉ tail) (count : Nat)
    (text : List Char) : dropTails tail count (text ++ [c]) = text ++ [c] := by
  by_cases empty : tail = []
  · subst empty
    simp [dropTails, dropLeads_nil]
  · have absent : after? tail.reverse (text ++ [c]).reverse = none := by
      cases found : after? tail.reverse (text ++ [c]).reverse with
      | none => rfl
      | some rest =>
        have whole := after?_eq_some.1 found
        rw [List.reverse_append, List.reverse_singleton, List.singleton_append] at whole
        cases lead : tail.reverse with
        | nil => simp [empty] at lead
        | cons d lead' =>
          rw [lead, List.cons_append, List.cons.injEq] at whole
          have member : d ∈ tail := by
            rw [← List.mem_reverse, lead]
            exact List.mem_cons_self
          exact absurd (whole.1 ▸ member) foreign
    rw [dropTails, dropLeads_of_after?_eq_none absent, List.reverse_reverse]

/-- Whole copies of `lead` are taken off, as many as there are within the count. -/
theorem exists_dropLeads (lead : List Char) (count : Nat) (text : List Char) :
    ∃ copies ≤ count, (List.replicate copies lead).flatten ++ dropLeads lead count text = text ∧
      (lead = [] → copies = 0) ∧
      (lead ≠ [] → ∀ more ≤ count,
        (List.replicate more lead).flatten <+: text → more ≤ copies) := by
  induction count generalizing text with
  | zero =>
    refine ⟨0, Nat.le_refl 0, rfl, fun _ => rfl, ?_⟩
    intro _ more atMost _
    exact atMost
  | succ count ih =>
    by_cases empty : lead = []
    · subst empty
      refine ⟨0, Nat.zero_le _, ?_, fun _ => rfl, fun nonempty => absurd rfl nonempty⟩
      rw [dropLeads_nil]
      rfl
    · cases found : after? lead text with
      | none =>
        refine ⟨0, Nat.zero_le _, ?_, fun _ => rfl, ?_⟩
        · rw [dropLeads_of_after?_eq_none found]
          rfl
        · intro _ more _ starts
          cases more with
          | zero => exact Nat.le_refl 0
          | succ more =>
            obtain ⟨rest, whole⟩ := starts
            rw [List.replicate_succ, List.flatten_cons, List.append_assoc] at whole
            rw [after?_eq_some.2 whole.symm] at found
            cases found
      | some rest =>
        rw [after?_eq_some] at found
        subst found
        obtain ⟨copies, atMost, whole, -, most⟩ := ih rest
        refine ⟨copies + 1, by omega, ?_, fun none => absurd none empty, ?_⟩
        · rw [dropLeads_append_self empty, List.replicate_succ, List.flatten_cons,
            List.append_assoc, whole]
        · intro nonempty more within starts
          cases more with
          | zero => omega
          | succ more =>
            rw [List.replicate_succ, List.flatten_cons, List.prefix_append_right_inj] at starts
            have := most nonempty more (by omega) starts
            omega

theorem reverse_flatten_replicate (tail : List Char) (copies : Nat) :
    ((List.replicate copies tail).flatten).reverse =
      (List.replicate copies tail.reverse).flatten := by
  rw [List.reverse_flatten, List.map_replicate, List.reverse_replicate]

theorem exists_dropTails (tail : List Char) (count : Nat) (text : List Char) :
    ∃ copies ≤ count, dropTails tail count text ++ (List.replicate copies tail).flatten = text ∧
      (tail = [] → copies = 0) ∧
      (tail ≠ [] → ∀ more ≤ count,
        (List.replicate more tail).flatten <:+ text → more ≤ copies) := by
  obtain ⟨copies, atMost, whole, none, most⟩ := exists_dropLeads tail.reverse count text.reverse
  refine ⟨copies, atMost, ?_, ?_, ?_⟩
  · rw [← List.reverse_inj, dropTails, List.reverse_append, List.reverse_reverse,
      reverse_flatten_replicate, whole]
  · intro empty
    apply none
    rw [empty]
    rfl
  · intro nonempty more within ends
    apply most (by simpa using nonempty) more within
    rwa [← reverse_flatten_replicate, List.reverse_prefix]

theorem replaceAll_singleton (c : Char) (new text : List Char) :
    replaceAll [c] new text = text.flatMap fun d => if d = c then new else [d] := by
  have scanned : replaceFrom [c] new 0 text = text.flatMap fun d => if d = c then new else [d] := by
    induction text with
    | nil => rfl
    | cons d text ih =>
      by_cases same : d = c
      · subst same
        simp [replaceFrom, ih]
      · simp [replaceFrom, ih, same, Ne.symm same]
  rw [replaceAll, List.isEmpty_cons, if_neg Bool.false_ne_true, scanned]

theorem flatMap_replace_of_notMem {c : Char} {text : List Char} (new : List Char)
    (absent : c ∉ text) : (text.flatMap fun d => if d = c then new else [d]) = text := by
  induction text with
  | nil => rfl
  | cons d text ih =>
    rw [List.mem_cons, not_or] at absent
    rw [List.flatMap_cons, if_neg (Ne.symm absent.1), ih absent.2, List.singleton_append]

end Text

namespace IndentUnit

theorem toList_times (unit : IndentUnit) (level : Nat) :
    (unit.times level).toList = (List.replicate level unit.text.toList).flatten := by
  induction level with
  | zero => rfl
  | succ level ih => rw [toList_times_succ, ih, List.replicate_succ, List.flatten_cons]

theorem times_succ (unit : IndentUnit) (level : Nat) :
    unit.times (level + 1) = unit.times level ++ unit.text := by
  rw [← String.toList_inj, String.toList_append, toList_times, toList_times,
    List.replicate_succ', List.flatten_append, List.flatten_singleton]

theorem newline_notMem_text (unit : IndentUnit) : '\n' ∉ unit.text.toList := by
  cases unit with
  | spaces width => simp [text, String.toList_ofList]
  | tab => decide

def lineAt (unit : IndentUnit) (depth : Nat) (text : String) : String :=
  unit.times depth ++ text ++ "\n"

theorem lineAt_succ (unit : IndentUnit) (depth : Nat) (text : String) :
    unit.lineAt (depth + 1) text = unit.lineAt depth (unit.text ++ text) := by
  simp [lineAt, times_succ, String.append_assoc]

def startLine (unit : IndentUnit) (depth : Nat) (start : String) : String :=
  if start.isEmpty then "" else unit.lineAt depth start

end IndentUnit

namespace Draft

/-- A draft of whole lines with the next line begun at a level. -/
def fresh (unit : IndentUnit) (lines : String) (level : Nat) : Draft :=
  { text := lines ++ unit.times level, level, unit }

theorem breakLine_eq_fresh (d : Draft) : d.breakLine = fresh d.unit (d.text ++ "\n") d.level := by
  simp [fresh, breakLine, push, String.append_assoc]

theorem line_eq_fresh (d : Draft) (s : String) :
    d.line s = fresh d.unit (d.text ++ s ++ "\n") d.level := by
  rw [line, breakLine_eq_fresh]
  rfl

theorem line_fresh (unit : IndentUnit) (lines : String) (level : Nat) (s : String) :
    (fresh unit lines level).line s = fresh unit (lines ++ unit.lineAt level s) level := by
  simp [line_eq_fresh, fresh, IndentUnit.lineAt, String.append_assoc]

theorem reindent_fresh (unit : IndentUnit) (lines : String) (level new : Nat) :
    (fresh unit lines level).reindent new = fresh unit lines new := by
  have stripped : Text.dropTails unit.text.toList level (lines ++ unit.times level).toList =
      lines.toList := by
    have := Text.dropTails_append_replicate unit.text.toList 0 level lines.toList
    rw [Nat.zero_add] at this
    rw [String.toList_append, IndentUnit.toList_times, this]
    simp [Text.dropTails, Text.dropLeads]
  simp only [reindent, fresh, stripped, String.ofList_toList]

/-- Reindenting takes whole units off the end of the text, as many as there are but no more than the
level says, and puts those of the new level there. So only the last of several levels counts. -/
theorem reindent_replaces_trailing_units (d : Draft) :
    ∃ kept copies, d.text = kept ++ d.unit.times copies ∧ copies ≤ d.level ∧
      (d.unit.text = "" → copies = 0) ∧
      (d.unit.text ≠ "" → ∀ more ≤ d.level,
        (∃ before, d.text = before ++ d.unit.times more) → more ≤ copies) ∧
      (∀ level, d.reindent level = { d with text := kept ++ d.unit.times level, level }) ∧
      ∀ first second, (d.reindent first).reindent second = d.reindent second := by
  obtain ⟨copies, atMost, whole, none, most⟩ :=
    Text.exists_dropTails d.unit.text.toList d.level d.text.toList
  let kept := String.ofList (Text.dropTails d.unit.text.toList d.level d.text.toList)
  have begun (level : Nat) : d.reindent level = fresh d.unit kept level := rfl
  refine ⟨kept, copies, ?_, atMost, ?_, ?_, begun, ?_⟩
  · rw [← String.toList_inj, String.toList_append, String.toList_ofList, IndentUnit.toList_times,
      whole]
  · intro empty
    apply none
    rw [empty]
    rfl
  · rintro nonempty more within ⟨before, ends⟩
    apply most (fun empty => nonempty (String.toList_eq_nil_iff.1 empty)) more within
    rw [ends, String.toList_append, IndentUnit.toList_times]
    exact List.suffix_append _ _
  · intro first second
    rw [begun first, begun second, reindent_fresh]

/-- A level entered after the line was begun: the indentation that is missing is added, and the
search for indentation to take off ends at the line break. -/
theorem reindent_deepen_breakLine (d : Draft) :
    d.breakLine.deepen.reindent (d.level + 1) = fresh d.unit (d.text ++ "\n") (d.level + 1) := by
  have stripped : Text.dropTails d.unit.text.toList (d.level + 1)
      (d.text ++ ("\n" ++ d.unit.times d.level)).toList = (d.text ++ "\n").toList := by
    have dropped := Text.dropTails_append_replicate d.unit.text.toList 1 d.level
      (d.text.toList ++ ['\n'])
    rw [Text.dropTails_concat d.unit.newline_notMem_text, Nat.add_comm] at dropped
    simpa [IndentUnit.toList_times] using dropped
  simp only [reindent, deepen, breakLine, push, fresh, stripped, String.ofList_toList]

/-- With or without a start token, a block is entered at the start of a line one level deeper. -/
theorem openBlock_eq_fresh (d : Draft) (start : String) :
    d.openBlock start =
      fresh d.unit (d.text ++ "\n" ++ d.unit.startLine d.level start) (d.level + 1) := by
  by_cases empty : start.isEmpty
  · have entered := d.reindent_deepen_breakLine
    simp only [openBlock, IndentUnit.startLine, empty, if_true, String.append_empty]
    exact entered
  · simp only [openBlock, IndentUnit.startLine, empty, Bool.false_eq_true, if_false, line_eq_fresh,
      breakLine_eq_fresh, deepen, fresh, IndentUnit.lineAt, String.append_assoc]

theorem closeBlock_fresh (unit : IndentUnit) (lines : String) (level : Nat) (finish : String) :
    (fresh unit lines (level + 1)).closeBlock finish =
      fresh unit (lines ++ unit.lineAt level finish) level := by
  have left : (fresh unit lines (level + 1)).level - 1 = level := rfl
  rw [closeBlock, left, reindent_fresh, line_fresh]

end Draft
end StubSource
