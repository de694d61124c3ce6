import StubSource.Writing.Source
import StubSource.Proofs.Lines

/-!
# Writers that lay lines

A writer that runs from the start of a line to the start of another one is described by the lines
that it adds and by the level at which it stops, or by the fault that it stops with. Writers in
sequence add their lines in sequence, and a fault of the first is the fault of both.
-/

namespace StubSource
set_option autoImplicit false

@[simp] theorem Draft.push_push (d : Draft) (s t : String) :
    (d.push s).push t = d.push (s ++ t) := by
  simp [Draft.push, String.append_assoc]

namespace Write

@[simp] theorem runOn_push (text : String) (sheet : Sheet) :
    (push text).runOn sheet = (.ok (), { sheet with draft := sheet.draft.push text }) := rfl

@[simp] theorem runOn_breakLine (sheet : Sheet) :
    breakLine.runOn sheet = (.ok (), { sheet with draft := sheet.draft.breakLine }) := rfl

@[simp] theorem runOn_line (text : String) (sheet : Sheet) :
    (line text).runOn sheet = (.ok (), { sheet with draft := sheet.draft.line text }) := rfl

@[simp] theorem runOn_openBlock (start : String) (sheet : Sheet) :
    (openBlock start).runOn sheet =
      (.ok (), { sheet with draft := sheet.draft.openBlock start }) := rfl

@[simp] theorem runOn_closeBlock (finish : String) (sheet : Sheet) :
    (closeBlock finish).runOn sheet =
      (.ok (), { sheet with draft := sheet.draft.closeBlock finish }) := rfl

/-- From the start of a line at level `level`, the writer adds whole lines and stops at the start
of a line at level `level'`, or it stops with a fault. -/
def Lays (w : Write Unit) (unit : IndentUnit) (level level' : Nat)
    (added : Except Fault String) : Prop :=
  ∀ lines journal, ∃ draft journal',
    w.runOn ⟨.fresh unit lines level, journal⟩ = (added.map fun _ => (), ⟨draft, journal'⟩) ∧
      ∀ text, added = .ok text → draft = .fresh unit (lines ++ text) level'

namespace Lays

variable {unit : IndentUnit} {level level' level'' : Nat}

theorem of_draft {w : Write Unit} {text : String}
    (ran : ∀ lines journal, ∃ journal', w.runOn ⟨.fresh unit lines level, journal⟩ =
      (.ok (), ⟨.fresh unit (lines ++ text) level', journal'⟩)) :
    w.Lays unit level level' (.ok text) := by
  intro lines journal
  obtain ⟨journal', h⟩ := ran lines journal
  refine ⟨_, journal', h, ?_⟩
  rintro _ ⟨⟩
  rfl

theorem nothing : (pure () : Write Unit).Lays unit level level (.ok "") :=
  of_draft fun lines journal => ⟨journal, by simp⟩

/-- What is noted in the journal is not seen in the draft. -/
theorem after_note (importance : Importance) (message : String) {w : Write Unit}
    {added : Except Fault String} (laid : w.Lays unit level level' added) :
    (do Write.note importance message; w : Write Unit).Lays unit level level' added := by
  intro lines journal
  obtain ⟨draft, journal', ran, ended⟩ := laid lines (journal ++ [⟨importance, message⟩])
  exact ⟨draft, journal', by rw [runOn_bind, runOn_note]; exact ran, ended⟩

theorem line (text : String) :
    (Write.line text).Lays unit level level (.ok (unit.lineAt level text)) :=
  of_draft fun lines journal => ⟨journal, by simp [Draft.line_fresh]⟩

theorem breakLine : Write.breakLine.Lays unit level level (.ok (unit.lineAt level "")) :=
  of_draft fun lines journal => ⟨journal, by
    have ended := Draft.line_fresh unit lines level ""
    simpa [Draft.line, Draft.push] using ended⟩

theorem openBlock (header start : String) :
    (do Write.push header; Write.openBlock start : Write Unit).Lays unit level (level + 1)
      (.ok (unit.lineAt level header ++ unit.startLine level start)) :=
  of_draft fun lines journal => ⟨journal, by
    simp [runOn_bind, Draft.openBlock_eq_fresh, Draft.fresh, IndentUnit.lineAt,
      String.append_assoc]⟩

theorem closeBlock (finish : String) :
    (Write.closeBlock finish).Lays unit (level + 1) level (.ok (unit.lineAt level finish)) :=
  of_draft fun lines journal => ⟨journal, by simp [Draft.closeBlock_fresh]⟩

theorem bind {w w' : Write Unit} {added added' : Except Fault String}
    (first : w.Lays unit level level' added) (second : w'.Lays unit level' level'' added') :
    (do w; w' : Write Unit).Lays unit level level'' (do return (← added) ++ (← added')) := by
  intro lines journal
  obtain ⟨draft, journal₁, ran, laid⟩ := first lines journal
  cases added with
  | error fault =>
    refine ⟨draft, journal₁, ?_, nofun⟩
    rw [runOn_bind, ran]
    rfl
  | ok text =>
    obtain rfl := laid text rfl
    obtain ⟨draft', journal₂, ran', laid'⟩ := second (lines ++ text) journal₁
    refine ⟨draft', journal₂, ?_, ?_⟩
    · rw [runOn_bind, ran]
      cases added' <;> exact ran'
    · intro whole h
      cases added' with
      | error fault => cases h
      | ok text' =>
        cases h
        rw [laid' text' rfl, String.append_assoc]

/-- What a writer does with a thing that was looked up. -/
theorem require {α : Type} (found : Except Fault α) {next : α → Write Unit}
    {added : α → Except Fault String}
    (goesOn : ∀ a, found = .ok a → (next a).Lays unit level level' (added a)) :
    (Write.require found >>= next).Lays unit level level' (found >>= added) := by
  intro lines journal
  cases found with
  | error fault =>
    refine ⟨.fresh unit lines level, journal, ?_, nofun⟩
    rw [runOn_bind]
    rfl
  | ok a =>
    obtain ⟨draft, journal', ran, laid⟩ := goesOn a rfl lines journal
    exact ⟨draft, journal', by rw [runOn_bind]; exact ran, laid⟩

theorem forM {α : Type} (items : List α) {write : α → Write Unit}
    {added : α → Except Fault String}
    (each : ∀ a ∈ items, (write a).Lays unit level level (added a)) :
    (items.forM write).Lays unit level level (String.join <$> items.mapM added) := by
  induction items with
  | nil => exact nothing
  | cons a items ih =>
    have both := (each a List.mem_cons_self).bind
      (ih fun b hb => each b (List.mem_cons_of_mem a hb))
    rw [List.mapM_cons]
    cases head : added a with
    | error fault => simpa [head] using both
    | ok text =>
      cases tail : items.mapM added with
      | error fault => simpa [head, tail] using both
      | ok texts => simpa [head, tail] using both

theorem forM_ok {α : Type} (items : List α) {write : α → Write Unit} {added : α → String}
    (each : ∀ a ∈ items, (write a).Lays unit level level (.ok (added a))) :
    (items.forM write).Lays unit level level (.ok (String.join (items.map added))) := by
  have all := forM items each
  have texts : items.mapM (fun a => (.ok (added a) : Except Fault String)) =
      .ok (items.map added) := List.mapM_pure
  rw [texts] at all
  exact all

end Lays
end Write
end StubSource
