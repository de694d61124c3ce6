import StubSource.Dialect.VisualBasic
import StubSource.Proofs.LineTexts

/-!
# Writers only append

Leaving a block takes back the indentation of the line that was begun, so a writer could eat into
what it did not write. It never does: a block is left only at the start of a line, and the line
break in front of that line was written after the block was entered. The judgement below follows a
text in front of the draft that has to stay, whether the draft is at the start of a line behind it,
and the level. A writer may also be asked not to look at the text in front of it.
-/

namespace StubSource
set_option autoImplicit false

/-- Where in a line a draft may end. -/
inductive Place where
  | anywhere
  /-- Behind the indentation of a line and nothing else. -/
  | lineStart

namespace Draft

/-- The draft goes on from `base` and is at a level. At the start of a line the whole indentation of
that line comes after `base`. -/
def Past (d : Draft) (base : String) (level : Nat) : Place → Prop
  | .anywhere => d.level = level ∧ ∃ added, d.text = base ++ added
  | .lineStart => ∃ added, d = fresh d.unit (base ++ added) level

theorem past_fresh (unit : IndentUnit) (base added : String) (level : Nat) (place : Place) :
    (fresh unit (base ++ added) level).Past base level place := by
  cases place with
  | anywhere => exact ⟨rfl, added ++ unit.times level, String.append_assoc⟩
  | lineStart => exact ⟨added, rfl⟩

theorem Past.of_lineStart {d : Draft} {base : String} {level : Nat}
    (past : d.Past base level .lineStart) (place : Place) : d.Past base level place := by
  obtain ⟨added, here⟩ := past
  rw [here]
  exact past_fresh d.unit base added level place

theorem Past.anywhere {d : Draft} {base : String} {level : Nat} {place : Place}
    (past : d.Past base level place) : d.Past base level .anywhere := by
  cases place with
  | anywhere => exact past
  | lineStart => exact past.of_lineStart .anywhere

/-- The draft with a text in front of its own. -/
def behind (d : Draft) (front : String) : Draft := { d with text := front ++ d.text }

theorem fresh_behind (unit : IndentUnit) (lines : String) (level : Nat) (front : String) :
    (fresh unit lines level).behind front = fresh unit (front ++ lines) level := by
  simp [behind, fresh, String.append_assoc]

end Draft

/-- The sheet with a text and notes in front of its own. -/
def Sheet.behind (sheet : Sheet) (front : String) (notes : List Note) : Sheet :=
  ⟨sheet.draft.behind front, notes ++ sheet.journal⟩

namespace Write

/-- From a place in a line at `level`, the writer goes on to a place at `level'`, and it keeps what
was in front whether it stops with a fault or not. Where `framed` holds, it does the same behind
every text. -/
structure Appends (framed : Prop) (w : Write Unit) (place : Place) (level : Nat) (place' : Place)
    (level' : Nat) : Prop where
  ok : ∀ {base sheet after}, sheet.draft.Past base level place →
    w.runOn sheet = (.ok (), after) → after.draft.Past base level' place'
  error : ∀ {base sheet fault after}, sheet.draft.Past base level place →
    w.runOn sheet = (.error fault, after) → ∃ added, after.draft.text = base ++ added
  frame : framed → ∀ {base sheet}, sheet.draft.Past base level place → ∀ front notes,
    w.runOn (sheet.behind front notes) =
      ((w.runOn sheet).1, (w.runOn sheet).2.behind front notes)

namespace Appends

variable {framed : Prop} {w w' : Write Unit} {place place' place'' : Place}
  {level level' level'' : Nat}

theorem to_place (appends : Appends framed w place level .lineStart level') (place' : Place) :
    Appends framed w place level place' level' where
  ok past ran := (appends.ok past ran).of_lineStart place'
  error := appends.error
  frame := appends.frame

theorem nothing : Appends framed (pure ()) place level place level where
  ok past ran := by
    cases ran
    exact past
  error _ ran := by cases ran
  frame _ _ _ _ _ _ := rfl

theorem bind (first : Appends framed w place level place' level')
    (second : Appends framed w' place' level' place'' level'') :
    Appends framed (do w; w') place level place'' level'' where
  ok := by
    intro base sheet after past ran
    rw [runOn_bind] at ran
    rcases begun : w.runOn sheet with ⟨result, middle⟩
    rw [begun] at ran
    cases result with
    | error fault => cases ran
    | ok => exact second.ok (first.ok past begun) ran
  error := by
    intro base sheet fault after past ran
    rw [runOn_bind] at ran
    rcases begun : w.runOn sheet with ⟨result, middle⟩
    rw [begun] at ran
    cases result with
    | error fault =>
      cases ran
      exact first.error past begun
    | ok => exact second.error (first.ok past begun) ran
  frame := by
    intro holds base sheet past front notes
    rw [runOn_bind, runOn_bind, first.frame holds past]
    rcases begun : w.runOn sheet with ⟨result, middle⟩
    cases result with
    | error fault => rfl
    | ok => exact second.frame holds (first.ok past begun) front notes

theorem note (importance : Importance) (message : String) :
    Appends framed (Write.note importance message) place level place level where
  ok past ran := by
    cases ran
    exact past
  error _ ran := by cases ran
  frame _ _ _ _ front notes := by
    simp [Sheet.behind]

theorem require {α : Type} (found : Except Fault α) {next : α → Write Unit}
    (goesOn : ∀ a, found = .ok a → Appends framed (next a) place level place' level') :
    Appends framed (Write.require found >>= next) place level place' level' := by
  cases found with
  | ok a => exact goesOn a rfl
  | error fault =>
    refine ⟨?_, ?_, fun _ _ _ _ _ _ => rfl⟩
    · intro base sheet after _ ran
      cases ran
    · intro base sheet _ after past ran
      cases ran
      exact past.anywhere.2

theorem edit {change : Draft → Draft}
    (step : ∀ {base d}, Draft.Past d base level place → (change d).Past base level' place')
    (frame : ∀ {base d}, Draft.Past d base level place → ∀ front,
      change (d.behind front) = (change d).behind front) :
    Appends framed (Write.edit change) place level place' level' where
  ok past ran := by
    cases ran
    exact step past
  error _ ran := by cases ran
  frame _ _ sheet past front notes := by
    rw [runOn_edit, runOn_edit, Sheet.behind, frame past]
    rfl

theorem push (text : String) : Appends framed (Write.push text) place level .anywhere level := by
  refine edit (fun past => ?_) fun _ front => ?_
  · obtain ⟨here, added, text'⟩ := past.anywhere
    exact ⟨here, added ++ text, by rw [Draft.text_push, text', String.append_assoc]⟩
  · simp [Draft.push, Draft.behind, String.append_assoc]

theorem separated (separator : String) {ws : List (Write Unit)}
    (each : ∀ w ∈ ws, Appends framed w .anywhere level .anywhere level) :
    Appends framed (Write.separated separator ws) .anywhere level .anywhere level := by
  fun_induction Write.separated separator ws with
  | case1 => exact nothing
  | case2 w => exact each w List.mem_cons_self
  | case3 w ws _ ih =>
    rw [List.forall_mem_cons] at each
    exact each.1.bind ((push separator).bind (ih each.2))

theorem enclosed (brackets : Brackets) (separator : String) (always : Bool)
    {ws : List (Write Unit)} (each : ∀ w ∈ ws, Appends framed w .anywhere level .anywhere level) :
    Appends framed (Write.enclosed brackets separator always ws) .anywhere level .anywhere
      level := by
  unfold Write.enclosed
  cases always || !ws.isEmpty with
  | true => exact (push _).bind ((separated separator each).bind (push _))
  | false => exact (separated separator each).bind nothing

theorem line (text : String) : Appends framed (Write.line text) place level .lineStart level := by
  refine edit (fun past => ?_) fun _ front => ?_
  · obtain ⟨here, added, before⟩ := past.anywhere
    rw [Draft.line_eq_fresh, before, here, String.append_assoc, String.append_assoc]
    exact Draft.past_fresh _ _ _ _ _
  · rw [Draft.line_eq_fresh, Draft.line_eq_fresh, Draft.fresh_behind]
    simp [Draft.behind, String.append_assoc]

theorem breakLine : Appends framed Write.breakLine place level .lineStart level := by
  have ended : Write.breakLine = Write.line "" := by
    simp [Write.breakLine, Write.line, Draft.line, Draft.push]
  rw [ended]
  exact line ""

theorem openBlock (start : String) :
    Appends framed (Write.openBlock start) place level .lineStart (level + 1) := by
  refine edit (fun past => ?_) fun _ front => ?_
  · obtain ⟨here, added, before⟩ := past.anywhere
    rw [Draft.openBlock_eq_fresh, before, here, String.append_assoc, String.append_assoc]
    exact Draft.past_fresh _ _ _ _ _
  · rw [Draft.openBlock_eq_fresh, Draft.openBlock_eq_fresh, Draft.fresh_behind]
    simp [Draft.behind, String.append_assoc]

theorem closeBlock (finish : String) :
    Appends framed (Write.closeBlock finish) .lineStart (level + 1) .lineStart level := by
  -- Only here is text taken back, and at the start of a line it is all behind `base`.
  refine edit (fun past => ?_) fun past front => ?_
  · obtain ⟨added, here⟩ := past
    rw [here, Draft.closeBlock_fresh, String.append_assoc]
    exact Draft.past_fresh _ _ _ _ _
  · obtain ⟨added, here⟩ := past
    rw [here, Draft.fresh_behind, Draft.closeBlock_fresh, Draft.closeBlock_fresh,
      Draft.fresh_behind, String.append_assoc]

theorem forM {α : Type} {items : List α} {write : α → Write Unit}
    (each : ∀ a ∈ items, Appends framed (write a) place level place level) :
    Appends framed (items.forM write) place level place level := by
  induction items with
  | nil => exact nothing
  | cons a items ih =>
    exact (each a List.mem_cons_self).bind (ih fun b mem => each b (List.mem_cons_of_mem a mem))

theorem forM_deepen {α : Type} {items : List α} {write : α → Write Unit}
    (each : ∀ a level, Appends framed (write a) .anywhere level .anywhere (level + 1))
    (level : Nat) :
    Appends framed (items.forM write) .anywhere level .anywhere (level + items.length) := by
  induction items generalizing level with
  | nil => exact nothing
  | cons a items ih =>
    have both := (each a level).bind (ih (level + 1))
    rw [Nat.add_assoc, Nat.add_comm 1] at both
    exact both

theorem forM_raise {α : Type} (items : List α) {write : α → Write Unit}
    (each : ∀ a level, Appends framed (write a) .lineStart (level + 1) .lineStart level)
    (level : Nat) :
    Appends framed (items.forM write) .lineStart (level + items.length) .lineStart level := by
  induction items with
  | nil => exact nothing
  | cons a items ih => exact (each a (level + items.length)).bind ih

end Appends

/-- The writer only adds to the text, also if it stops with a fault; if it does not, the level is
what it was before. -/
def OnlyAppends (w : Write Unit) : Prop :=
  ∀ sheet : Sheet, (∃ added, (w.runOn sheet).2.draft.text = sheet.draft.text ++ added) ∧
    ((w.runOn sheet).1 = .ok () → (w.runOn sheet).2.draft.level = sheet.draft.level)

/-- What the writer adds and how it ends depends on the sheet only through the level and the unit of
indentation. -/
def AddsByLevel (w : Write Unit) : Prop :=
  ∀ sheet sheet' : Sheet, sheet.draft.level = sheet'.draft.level →
    sheet.draft.unit = sheet'.draft.unit →
    ∃ added, (w.runOn sheet).2.draft.text = sheet.draft.text ++ added ∧
      (w.runOn sheet').2.draft.text = sheet'.draft.text ++ added ∧
      (w.runOn sheet).1 = (w.runOn sheet').1

theorem OnlyAppends.appends {w : Write Unit} (only : w.OnlyAppends) (level : Nat) :
    Appends False w .anywhere level .anywhere level where
  ok := by
    rintro base sheet after ⟨here, added, before⟩ ran
    obtain ⟨⟨more, text⟩, kept⟩ := only sheet
    rw [ran] at text kept
    exact ⟨(kept rfl).trans here, added ++ more, by rw [text, before, String.append_assoc]⟩
  error := by
    rintro base sheet fault after ⟨-, added, before⟩ ran
    obtain ⟨⟨more, text⟩, -⟩ := only sheet
    rw [ran] at text
    exact ⟨added ++ more, by rw [text, before, String.append_assoc]⟩
  frame := False.elim

namespace Appends

variable {framed : Prop} {w : Write Unit}

theorem onlyAppends (appends : ∀ level, Appends framed w .anywhere level .anywhere level) :
    w.OnlyAppends := by
  intro sheet
  have here : sheet.draft.Past sheet.draft.text sheet.draft.level .anywhere :=
    ⟨rfl, "", String.append_empty.symm⟩
  rcases ran : w.runOn sheet with ⟨result, after⟩
  cases result with
  | error fault => exact ⟨(appends _).error here ran, nofun⟩
  | ok =>
    have past := (appends _).ok here ran
    exact ⟨past.2, fun _ => past.1⟩

theorem addsByLevel (appends : ∀ level, Appends True w .anywhere level .anywhere level) :
    w.AddsByLevel := by
  -- Every sheet is an empty one behind its text, and there the frame gives what is written.
  have split (sheet : Sheet) : w.runOn sheet =
      ((w.runOn ⟨⟨"", sheet.draft.level, sheet.draft.unit⟩, []⟩).1,
        (w.runOn ⟨⟨"", sheet.draft.level, sheet.draft.unit⟩, []⟩).2.behind sheet.draft.text
          sheet.journal) := by
    have empty : (⟨⟨"", sheet.draft.level, sheet.draft.unit⟩, []⟩ : Sheet).draft.Past ""
        sheet.draft.level .anywhere := ⟨rfl, "", rfl⟩
    rw [← (appends _).frame trivial empty]
    simp [Sheet.behind, Draft.behind]
  intro sheet sheet' level unit
  rw [split sheet, split sheet', level, unit]
  exact ⟨_, rfl, rfl, rfl⟩

end Appends
end Write

namespace Scope

open Write

/-- All writers of a scope that may be asked for by name. -/
inductive Writer (s : Scope) (body : BodyWriter) : Write Unit → Prop where
  | element (e : Element) : Writer s body (s.visit e)
  | elements (brackets : Brackets) (separator : String) (always : Bool) (items : List Element) :
      Writer s body (s.visitAll brackets separator always items)
  | typeName (t : TypeDef) : Writer s body (s.writeTypeName t)
  | typeRef (ref : TypeRef) : Writer s body (s.writeTypeRef ref)
  | typeSignature (t : TypeDef) : Writer s body (s.writeTypeSignature t)
  | typeHeader (t : TypeDef) : Writer s body (s.writeTypeHeader t)
  | signature (m : Method) : Writer s body (s.writeSignature m)
  | body (m : Method) : Writer s body (body s m)
  | returnDefault (type : TypeRef) : Writer s body (s.writeReturnDefault type)
  | parameter (p : Parameter) : Writer s body (s.writeParameter p)
  | field (f : Field) : Writer s body (s.writeField f)
  | comment (text : String) : Writer s body (s.writeComment text)
  | defaultImports : Writer s body s.writeDefaultImports
  | references (references : List AssemblyRef) : Writer s body (s.writeReferences references)
  | disclaimer : Writer s body s.writeDisclaimer
  | methodStubs (target : MethodId) : Writer s body (s.writeMethodStubs body target)
  | fieldStubs (owner : TypeId) : Writer s body (s.writeFieldStubs owner)
  | enclosingType (target : MethodId) : Writer s body (s.writeEnclosingType body target)

variable {s : Scope} {framed : Prop} {place : Place} {level : Nat}

theorem appends_writeSignature (m : Method) :
    Appends framed (s.writeSignature m) place level .anywhere level := by
  refine (Appends.push _).bind (Appends.require _ fun name _ => ?_)
  rw [writeDeclaration_eq]
  exact Appends.push _

theorem appends_visit (e : Element) :
    Appends framed (s.visit e) .anywhere level .anywhere level := by
  cases e with
  | method m => exact appends_writeSignature m
  | typeDefinition | typeReference | field | parameter | parameters | genericParameter
  | genericParameters => simp [visit, Appends.push]
  | _ => exact Appends.note _ _

theorem appends_visitItem (e : Element) :
    Appends framed (s.visitItem e) .anywhere level .anywhere level := by
  unfold visitItem
  split
  · exact Appends.push _
  · exact appends_visit _

theorem appends_visitAll (brackets : Brackets) (separator : String) (always : Bool)
    (items : List Element) : Appends framed (s.visitAll brackets separator always items)
      .anywhere level .anywhere level :=
  Appends.enclosed brackets separator always
    (List.forall_mem_map.2 fun item _ => appends_visitItem item)

theorem appends_writeComments {α : Type} (items : List α) (text : α → String) :
    Appends framed (items.forM fun a => s.writeComment (text a)) place level place level :=
  Appends.forM fun _ _ => (Appends.line _).to_place place

theorem appends_writeReferences (references : List AssemblyRef) :
    Appends framed (s.writeReferences references) place level .lineStart level :=
  (Appends.line _).bind (appends_writeComments references _)

theorem appends_stubBody (m : Method) :
    Appends framed (stubBody s m) place level .lineStart level := by
  unfold stubBody
  split
  · exact Appends.line _
  · refine (Appends.openBlock _).bind ?_
    split
    · rw [writeReturnDefault_eq]
      exact (Appends.line _).bind (Appends.closeBlock _)
    · exact Appends.closeBlock _

theorem appends_writeRegion (label notice : String) {content : Write Unit}
    (inner : Appends framed content .lineStart level .lineStart level) :
    Appends framed (s.writeRegion label notice content) place level .lineStart level :=
  (Appends.line _).bind ((Appends.line _).bind (inner.bind (Appends.line _)))

theorem appends_writeFieldStubs (owner : TypeId) :
    Appends framed (s.writeFieldStubs owner) place level .lineStart level := by
  refine (Appends.note _ _).bind (appends_writeRegion _ _ (Appends.forM fun stub _ => ?_))
  rw [writeField_eq]
  exact (Appends.push _).bind Appends.breakLine

section Body

variable {body : BodyWriter}
  (appends : ∀ m level, Appends framed (body s m) .anywhere level .anywhere level)
include appends

theorem appends_writeMethod (m : Method) :
    Appends framed (s.writeMethod body m) place level .anywhere level :=
  (appends_writeSignature m).bind (appends m level)

theorem appends_writeMethodStubs (target : MethodId) :
    Appends framed (s.writeMethodStubs body target) place level .lineStart level :=
  Appends.require _ fun _ _ => (Appends.note _ _).bind <| appends_writeRegion _ _ <|
    Appends.forM fun stub _ => (appends_writeMethod appends stub.2).bind Appends.breakLine

theorem appends_writeEnclosingType (target : MethodId) :
    Appends framed (s.writeEnclosingType body target) .anywhere level .lineStart level := by
  refine Appends.require _ fun m _ => ?_
  refine Appends.require _ fun owner _ => ?_
  refine Appends.require _ fun t _ => ?_
  refine Appends.require _ fun shells _ => ?_
  have opened (t : TypeDef) (level : Nat) :
      Appends framed (s.openType t) .anywhere level .lineStart (level + 1) := by
    rw [openType, writeTypeHeader_eq]
    exact (Appends.push _).bind (Appends.openBlock _)
  have closed (t : TypeDef) (level : Nat) :
      Appends framed (s.closeType t) .lineStart (level + 1) .lineStart level := Appends.closeBlock _
  -- As many blocks are left as were entered, so the levels meet again.
  have left := Appends.forM_raise shells.reverse closed level
  rw [List.length_reverse] at left
  exact (Appends.forM_deepen (fun t level => (opened t level).to_place .anywhere) level).bind <|
    (opened t _).bind <| (appends_writeComments disclaimer id).bind <|
    (appends_writeMethod appends m).bind <| Appends.breakLine.bind <|
    (appends_writeMethodStubs appends target).bind <| Appends.breakLine.bind <|
    (appends_writeFieldStubs owner).bind <| (closed t _).bind left

theorem appends_of_writer {w : Write Unit} (writer : s.Writer body w) (level : Nat) :
    Appends framed w .anywhere level .anywhere level := by
  cases writer with
  | element e => exact appends_visit e
  | elements brackets separator always items => exact appends_visitAll _ _ _ _
  | typeName => exact Appends.push _
  | typeRef | typeSignature | typeHeader | parameter | field => simp [Appends.push]
  | signature m => exact appends_writeSignature m
  | body m => exact appends m level
  | returnDefault type =>
    rw [writeReturnDefault_eq]
    exact (Appends.line _).to_place .anywhere
  | comment => exact (Appends.line _).to_place .anywhere
  | defaultImports => exact Appends.forM fun _ _ => (Appends.line _).to_place .anywhere
  | references references => exact (appends_writeReferences references).to_place .anywhere
  | disclaimer => exact appends_writeComments _ id
  | methodStubs target => exact (appends_writeMethodStubs appends target).to_place .anywhere
  | fieldStubs owner => exact (appends_writeFieldStubs owner).to_place .anywhere
  | enclosingType target => exact (appends_writeEnclosingType appends target).to_place .anywhere

end Body

/-- Whatever is asked of a scope, the text that is on the sheet stays, also if a fault stops the
writer, and without a fault the level is what it was. A body that does so is enough. With stub
bodies the text that is added does not depend on the text in front of it either. -/
theorem writers_only_append (s : Scope) :
    (∀ body : BodyWriter, (∀ m, (body s m).OnlyAppends) →
      ∀ w, s.Writer body w → w.OnlyAppends) ∧
    ∀ w, s.Writer stubBody w → w.OnlyAppends ∧ w.AddsByLevel := by
  refine ⟨?_, ?_⟩
  · intro body only w writer
    exact Appends.onlyAppends (appends_of_writer (fun m level => (only m).appends level) writer)
  · intro w writer
    have appends (level : Nat) : Appends True w .anywhere level .anywhere level :=
      appends_of_writer (fun m _ => (appends_stubBody m).to_place .anywhere) writer level
    exact ⟨Appends.onlyAppends appends, Appends.addsByLevel appends⟩

/-- A body that is given up after its first line. -/
def abandonedBody : BodyWriter := fun _ _ => do
  line "\x7b"
  require (.error (.noBody "given up"))

/-- The text on the first sheet looks like indentation that a block of the type might take back. -/
theorem writers_only_append_behind_indentation :
    let g := (({} : Graph).addType (.ofClass "App" "Door")).addMethod ⟨0⟩ (.ofName "Open")
    let s : Scope := ⟨g, .visualBasic, Dialect.visualBasic.naming⟩
    let sheet : Sheet := ⟨⟨"\t\t", 1, .tab⟩, []⟩
    let sheet' : Sheet := ⟨⟨"", 1, .tab⟩, []⟩
    let broken := s.writeEnclosingType abandonedBody ⟨0⟩
    let whole := s.writeEnclosingType stubBody ⟨0⟩
    (∀ m, (abandonedBody s m).OnlyAppends) ∧ broken.OnlyAppends ∧ whole.OnlyAppends ∧
      (broken.runOn sheet).1 = .error (.noBody "given up") ∧ (whole.runOn sheet).1 = .ok () ∧
      ∃ added, (whole.runOn sheet).2.draft.text = sheet.draft.text ++ added ∧
        (whole.runOn sheet').2.draft.text = sheet'.draft.text ++ added := by
  intro g s sheet sheet' broken whole
  have only (m : Method) : (abandonedBody s m).OnlyAppends := fun sheet =>
    ⟨⟨_, String.append_assoc⟩, nofun⟩
  obtain ⟨anyBody, stubs⟩ := s.writers_only_append
  obtain ⟨kept, alike⟩ := stubs _ (.enclosingType ⟨0⟩)
  obtain ⟨added, text, text', -⟩ := alike sheet sheet' rfl rfl
  exact ⟨only, anyBody _ only _ (.enclosingType ⟨0⟩), kept, rfl, rfl, added, text, text'⟩

end Scope
end StubSource
