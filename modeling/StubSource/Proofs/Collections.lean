import StubSource.Proofs.Answers

/-!
# Collections

A collection is written item by item, in the middle of a line and behind whatever is there already.
Every item reads as it does on a sheet of its own, so the collection is the texts of its items in
their order, with separators between them and brackets around them. The parameters of methods and
types and the arguments of generic types are such collections.
-/

namespace StubSource
set_option autoImplicit false

theorem exists_mapM_eq_error_iff {α β : Type} {read : α → Except Fault β} {items : List α} :
    (∃ fault, items.mapM read = .error fault) ↔
      ∃ a ∈ items, ∃ fault, read a = .error fault := by
  have first (fault : Fault) := mapM_filterMap_eq_error_iff some read items fault
  simp only [List.filterMap_some, Option.bind_some] at first
  simp only [first, ← Option.isSome_iff_exists, List.findSome?_isSome_iff]
  simp only [Option.isSome_iff_exists, fault?_eq_some_iff]

namespace Write

/-- Wherever the writer is run, it puts the same text behind what is there, or stops with the same
fault. The level stays. -/
def Adds (w : Write Unit) (added : Except Fault String) : Prop :=
  ∀ sheet : Sheet, ∃ text journal,
    w.runOn sheet = (added.map fun _ => (), ⟨sheet.draft.push text, journal⟩) ∧
      ∀ whole, added = .ok whole → text = whole

/-- The same result and the same draft, from any sheet. -/
def WritesLike (w w' : Write Unit) : Prop :=
  ∀ sheet, (w.runOn sheet).1 = (w'.runOn sheet).1 ∧
    (w.runOn sheet).2.draft = (w'.runOn sheet).2.draft

namespace Adds

variable {w w' : Write Unit} {added added' : Except Fault String}

theorem of_eq (adds : w.Adds added) (same : added = added') : w.Adds added' := same ▸ adds

theorem of_draft {text : String} (ran : ∀ sheet : Sheet, ∃ journal,
    w.runOn sheet = (.ok (), ⟨sheet.draft.push text, journal⟩)) : w.Adds (.ok text) := by
  intro sheet
  obtain ⟨journal, outcome⟩ := ran sheet
  refine ⟨text, journal, outcome, ?_⟩
  rintro _ ⟨⟩
  rfl

theorem push (text : String) : (Write.push text).Adds (.ok text) :=
  of_draft fun sheet => ⟨sheet.journal, rfl⟩

theorem nothing : (pure () : Write Unit).Adds (.ok "") :=
  of_draft fun sheet => ⟨sheet.journal, by simp [Draft.push]⟩

theorem note (importance : Importance) (message : String) :
    (Write.note importance message).Adds (.ok "") :=
  of_draft fun sheet => ⟨sheet.journal ++ [⟨importance, message⟩], by simp [Draft.push]⟩

theorem bind (first : w.Adds added) (second : w'.Adds added') :
    (do w; w' : Write Unit).Adds (do return (← added) ++ (← added')) := by
  intro sheet
  obtain ⟨text, journal, ran, ended⟩ := first sheet
  cases added with
  | error fault =>
    refine ⟨text, journal, ?_, nofun⟩
    rw [runOn_bind, ran]
    rfl
  | ok whole =>
    obtain rfl := ended whole rfl
    obtain ⟨text', journal', ran', ended'⟩ := second ⟨sheet.draft.push text, journal⟩
    refine ⟨text ++ text', journal', ?_, ?_⟩
    · rw [runOn_bind, ran, ← Draft.push_push]
      cases added' <;> exact ran'
    · intro both joined
      cases added' with
      | error fault => cases joined
      | ok whole' =>
        cases joined
        rw [ended' whole' rfl]

/-- What a writer adds anywhere is what it leaves on a blank sheet. -/
theorem result_answer (adds : w.Adds added) (r : Renderer) : (r.answer w).result = added := by
  obtain ⟨text, journal, ran, ended⟩ := adds (.blank r.scope.dialect)
  rw [Renderer.answer, ran]
  cases added with
  | error fault => rfl
  | ok whole =>
    rw [← ended whole rfl]
    simp [Sheet.blank, Draft.push, Except.map]

theorem separated {α : Type} (separator : String) {write : α → Write Unit}
    {alone : α → Except Fault String} (each : ∀ a, (write a).Adds (alone a)) :
    ∀ items : List α, (Write.separated separator (items.map write)).Adds
      (separator.intercalate <$> items.mapM alone)
  | [] => nothing
  | [a] => by
    have whole := each a
    rw [List.mapM_cons, List.mapM_nil]
    cases known : alone a <;> simpa [known, Write.separated] using whole
  | a :: next :: items => by
    have whole := (each a).bind ((push separator).bind (separated separator each (next :: items)))
    apply whole.of_eq
    rw [List.mapM_cons (a := a)]
    cases alone a with
    | error fault => rfl
    | ok text =>
      cases rest : (next :: items).mapM alone with
      | error fault => rfl
      | ok texts =>
        -- There are more items, so the separator does stand between two texts.
        have several : texts ≠ [] := by
          rintro rfl
          exact List.cons_ne_nil _ _ (mapM_eq_ok_iff.1 rest)
        refine congrArg Except.ok ?_
        rw [String.intercalate_cons_of_ne_nil several, String.append_assoc]

/-- A list adds the texts that its items add by themselves, or stops with the first fault. -/
theorem enclosed {α : Type} (brackets : Brackets) (separator : String) (always : Bool)
    {write : α → Write Unit} {alone : α → Except Fault String}
    (each : ∀ a, (write a).Adds (alone a)) (items : List α) :
    (Write.enclosed brackets separator always (items.map write)).Adds
      ((fun texts => if always || !items.isEmpty then
        brackets.opening ++ separator.intercalate texts ++ brackets.closing else "") <$>
          items.mapM alone) := by
  have inner := separated separator each items
  rw [Write.enclosed, List.isEmpty_map]
  cases bracketed : always || !items.isEmpty with
  | true =>
    have whole := (push brackets.opening).bind (inner.bind (push brackets.closing))
    apply whole.of_eq
    cases items.mapM alone with
    | error fault => rfl
    | ok texts => exact congrArg Except.ok String.append_assoc.symm
  | false =>
    have none : items = [] := by simpa using (Bool.or_eq_false_iff.1 bracketed).2
    subst none
    exact inner.bind nothing

end Adds

theorem WritesLike.of_eq {w w' : Write Unit} (same : w = w') : w.WritesLike w' := by
  intro sheet
  rw [same]
  exact ⟨rfl, rfl⟩

end Write

namespace Scope

open Write

/-- What an item of a collection is on a blank sheet. A type definition stands for its name. -/
def itemAlone (s : Scope) : Element → Except Fault String
  | .typeDefinition t => (Renderer.answer { scope := s } (s.writeTypeName t)).result
  | item => (Renderer.answer { scope := s } (s.visit item)).result

/-- An argument of a generic type as an item: the definition that stands for it, or itself. -/
def argument (s : Scope) (ref : TypeRef) : Element :=
  match s.definition? ref with
  | some t => .typeDefinition t
  | none => .typeReference ref

variable (s : Scope)

theorem adds_writeSignature (m : Method) : (s.writeSignature m).Adds (s.signature m) := by
  cases found : s.signature m with
  | error fault =>
    intro sheet
    exact ⟨s.methodModifiers m, sheet.journal, by rw [runOn_writeSignature, found]; rfl, nofun⟩
  | ok text =>
    exact Adds.of_draft fun sheet => ⟨sheet.journal, by rw [runOn_writeSignature, found]⟩

theorem exists_adds_visitItem (item : Element) : ∃ added, (s.visitItem item).Adds added := by
  have pushed {text : String} (same : s.visitItem item = push text) :
      ∃ added, (s.visitItem item).Adds added := by
    rw [same]
    exact ⟨_, Adds.push text⟩
  cases item with
  | method m => exact ⟨_, s.adds_writeSignature m⟩
  | typeDefinition t => exact pushed rfl
  | typeReference ref => exact pushed (s.writeTypeRef_eq ref)
  | field f => exact pushed (s.writeField_eq f)
  | parameter p => exact pushed (s.writeParameter_eq p)
  | parameters ps => exact pushed (s.writeParameters_eq ps)
  | genericParameter p => exact pushed rfl
  | genericParameters ps => exact pushed (s.writeGenericParameters_eq ps)
  | _ => exact ⟨_, Adds.note _ _⟩

theorem adds_visitItem (item : Element) : (s.visitItem item).Adds (s.itemAlone item) := by
  have alone : s.itemAlone item = (Renderer.answer { scope := s } (s.visitItem item)).result := by
    cases item <;> rfl
  obtain ⟨added, adds⟩ := s.exists_adds_visitItem item
  rw [alone, adds.result_answer]
  exact adds

theorem adds_visitAll (brackets : Brackets) (separator : String) (always : Bool)
    (items : List Element) : (s.visitAll brackets separator always items).Adds
      ((fun texts => if always || !items.isEmpty then
        brackets.opening ++ separator.intercalate texts ++ brackets.closing else "") <$>
          items.mapM s.itemAlone) :=
  Adds.enclosed brackets separator always s.adds_visitItem items

theorem argumentWriters_eq_map (refs : List TypeRef) :
    s.argumentWriters refs = (refs.map s.argument).map s.visitItem := by
  induction refs with
  | nil => rfl
  | cons ref refs ih =>
    rw [argumentWriters, ih, List.map_cons, List.map_cons, argument]
    cases s.definition? ref <;> rfl

/-- A collection fails if and only if one of its items fails by itself. If it does not, it puts the
texts of its items behind what is on the sheet, each as on a sheet of its own, in their order and
with the separator between them, and brackets around them unless the list is empty and may go
without. The lists in signatures and in references are collections. -/
theorem collection_of_items_alone (brackets : Brackets) (separator : String) (always : Bool)
    (items : List Element) (sheet : Sheet) :
    let ran := (s.visitAll brackets separator always items).runOn sheet
    let words := s.dialect
    ((∃ fault, ran.1 = .error fault) ↔
      ∃ item ∈ items, ∃ fault, s.itemAlone item = .error fault) ∧
    (∀ t, s.itemAlone (.typeDefinition t) = .ok (s.typeName t)) ∧
    (∃ added, ran.2.draft = sheet.draft.push added) ∧
    (ran.1 = .ok () → ∃ texts, items.map s.itemAlone = texts.map .ok ∧
      ran.2.draft = sheet.draft.push
        (if always || !items.isEmpty then
          brackets.opening ++ separator.intercalate texts ++ brackets.closing else "")) ∧
    (∀ ps, (s.visit (.parameters ps)).WritesLike
      (s.visitAll words.parameters words.separator true (ps.map .parameter))) ∧
    (∀ ps, (s.visit (.genericParameters ps)).WritesLike
      (s.visitAll words.generics words.separator false (ps.map .genericParameter))) ∧
    ∀ ns name arguments definition,
      (s.visit (.typeReference (.named ns name arguments definition))).WritesLike (do
        push (s.shownName ns name)
        s.visitAll words.generics words.separator false (arguments.map s.argument)) := by
  intro ran words
  obtain ⟨added, journal, outcome, whole⟩ := s.adds_visitAll brackets separator always items sheet
  have ended : ran = (_, ⟨sheet.draft.push added, journal⟩) := outcome
  refine ⟨?_, fun t => (Adds.push _).result_answer _, ⟨added, by rw [ended]⟩, ?_, ?_, ?_, ?_⟩
  · rw [ended, ← exists_mapM_eq_error_iff]
    cases items.mapM s.itemAlone with
    | error fault => exact ⟨fun _ => ⟨fault, rfl⟩, fun _ => ⟨fault, rfl⟩⟩
    | ok texts => exact ⟨nofun, nofun⟩
  · intro ok
    rw [ended] at ok
    cases texts : items.mapM s.itemAlone with
    | error fault =>
      rw [texts] at ok
      cases ok
    | ok texts' =>
      rw [texts] at whole
      exact ⟨texts', mapM_eq_ok_iff.1 texts, by rw [ended, whole _ rfl]⟩
  · intro ps
    apply WritesLike.of_eq
    rw [visit, writeParameters, visitAll, List.map_map]
    rfl
  · intro ps
    apply WritesLike.of_eq
    rw [visit, writeGenericParameters, visitAll, List.map_map]
    rfl
  · intro ns name arguments definition
    apply WritesLike.of_eq
    rw [visit, writeTypeRef, argumentWriters_eq_map, visitAll]

/-- Items that are passed over are empty, and the separators around them stay. -/
example :
    let s : Scope := ⟨{}, .braces, {}⟩
    let items := [.typeDefinition { ns := "Shop", name := "Cart\x601" }, .nestedType ⟨3⟩,
      .genericParameter { name := "T" }]
    ((s.visitAll ⟨"<", ">"⟩ ", " false items).runOn ⟨⟨"x", 2, .tab⟩, []⟩).2.draft =
      ⟨"x<Cart, , T>", 2, .tab⟩ := by
  decide +kernel

end Scope
end StubSource
