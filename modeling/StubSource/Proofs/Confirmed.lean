import StubSource.Dialect.CSharp
import StubSource.Proofs.LineTexts

/-!
# References that are confirmed by their definitions

An argument of a generic type is written by the name of its definition, if it has no arguments and
the graph holds the definition; all other references are written by their own names. Where the
definitions have the names that the references say, this makes no difference: a reference reads as
it would if it and its parts stood for no definitions at all.
-/

namespace StubSource
set_option autoImplicit false

namespace TypeRef

mutual

/-- The reference and all that it is made of, at any depth. -/
def parts : TypeRef → List TypeRef
  | .named ns name arguments definition =>
    .named ns name arguments definition :: partsOfAll arguments
  | .array element rank => .array element rank :: parts element
  | .byRef element => .byRef element :: parts element
  | .pointer element => .pointer element :: parts element
  | .parameter name => [.parameter name]

def partsOfAll : List TypeRef → List TypeRef
  | [] => []
  | ref :: refs => parts ref ++ partsOfAll refs

end

theorem self_mem_parts (ref : TypeRef) : ref ∈ ref.parts := by
  cases ref <;> simp [parts]

mutual

/-- The reference without the definitions that it and its parts stand for. -/
def unresolved : TypeRef → TypeRef
  | .named ns name arguments _ => .named ns name (unresolvedAll arguments) none
  | .array element rank => .array (unresolved element) rank
  | .byRef element => .byRef (unresolved element)
  | .pointer element => .pointer (unresolved element)
  | .parameter name => .parameter name

def unresolvedAll : List TypeRef → List TypeRef
  | [] => []
  | ref :: refs => unresolved ref :: unresolvedAll refs

end

end TypeRef

namespace Graph

/-- If the graph holds what a named reference points to, it is a type of that namespace and, up to
the arity, of that name. -/
def Confirms (g : Graph) : TypeRef → Prop
  | .named ns name _ (some id) =>
    ∀ t ∈ g.type? id, t.ns = ns ∧ Name.dropArity t.name = Name.dropArity name
  | _ => True

instance (g : Graph) : DecidablePred g.Confirms
  | .named ns name _ (some id) => inferInstanceAs (Decidable
      (∀ t ∈ g.type? id, t.ns = ns ∧ Name.dropArity t.name = Name.dropArity name))
  | .named _ _ _ none | .array _ _ | .byRef _ | .pointer _ | .parameter _ => .isTrue trivial

theorem confirms_unresolved (g : Graph) (ref : TypeRef) : g.Confirms ref.unresolved := by
  cases ref <;> exact trivial

end Graph

namespace Scope

/-- An argument of a generic type, through its definition where the graph has it. -/
def argumentText (s : Scope) (ref : TypeRef) : String :=
  match s.definition? ref with
  | some t => s.typeName t
  | none => s.typeRef ref

theorem typeArguments_eq_map (s : Scope) (refs : List TypeRef) :
    s.typeArguments refs = refs.map s.argumentText := by
  induction refs with
  | nil => rfl
  | cons ref refs ih =>
    rw [typeArguments, List.map_cons, ih]
    rfl

variable {s : Scope}

/-- The name of a definition is the text of a reference that the definition confirms. -/
theorem argumentText_of_confirms {ref : TypeRef} (confirmed : s.graph.Confirms ref) :
    s.argumentText ref = s.typeRef ref := by
  unfold argumentText
  cases found : s.definition? ref with
  | none => rfl
  | some t =>
    unfold definition? at found
    split at found
    · rename_i ns name id
      obtain ⟨sameNs, sameName⟩ := confirmed t found
      simp [typeName, shownName, typeRef, typeArguments, Brackets.enclose, sameNs, sameName]
    · cases found

mutual

theorem typeRef_unresolved : ∀ ref : TypeRef, (∀ part ∈ ref.parts, s.graph.Confirms part) →
    s.typeRef ref.unresolved = s.typeRef ref
  | .named ns name arguments _, confirmed => by
    have inner := typeArguments_unresolved arguments
      fun part mem => confirmed part (List.mem_cons_of_mem _ mem)
    rw [TypeRef.unresolved, typeRef, typeRef, inner]
  | .array element rank, confirmed => by
    have inner := typeRef_unresolved element
      fun part mem => confirmed part (List.mem_cons_of_mem _ mem)
    rw [TypeRef.unresolved, typeRef, typeRef, inner]
  | .byRef element, confirmed => by
    have inner := typeRef_unresolved element
      fun part mem => confirmed part (List.mem_cons_of_mem _ mem)
    rw [TypeRef.unresolved, typeRef, typeRef, inner]
  | .pointer element, confirmed => by
    have inner := typeRef_unresolved element
      fun part mem => confirmed part (List.mem_cons_of_mem _ mem)
    rw [TypeRef.unresolved, typeRef, typeRef, inner]
  | .parameter _, _ => rfl

theorem typeArguments_unresolved : ∀ refs : List TypeRef,
    (∀ part ∈ TypeRef.partsOfAll refs, s.graph.Confirms part) →
    s.typeArguments (TypeRef.unresolvedAll refs) = s.typeArguments refs
  | [], _ => rfl
  | ref :: refs, confirmed => by
    simp only [TypeRef.partsOfAll, List.mem_append] at confirmed
    have first : s.argumentText ref.unresolved = s.argumentText ref := by
      rw [argumentText_of_confirms (s.graph.confirms_unresolved ref),
        argumentText_of_confirms (confirmed ref (.inl ref.self_mem_parts))]
      exact typeRef_unresolved ref fun part mem => confirmed part (.inl mem)
    have rest := typeArguments_unresolved refs fun part mem => confirmed part (.inr mem)
    simp only [typeArguments_eq_map] at rest
    rw [TypeRef.unresolvedAll, typeArguments_eq_map, typeArguments_eq_map, List.map_cons,
      List.map_cons, first, rest]

end

/-- A reference whose parts are all confirmed by their definitions is written as the reference
without the definitions, behind anything that is on the sheet. -/
theorem confirmed_reference_written_unresolved (s : Scope) (ref : TypeRef)
    (confirmed : ∀ part ∈ ref.parts, s.graph.Confirms part) (sheet : Sheet) :
    ∃ text,
      (s.visit (.typeReference ref)).runOn sheet =
        (.ok (), { sheet with draft := sheet.draft.push text }) ∧
      (s.visit (.typeReference ref.unresolved)).runOn sheet =
        (.ok (), { sheet with draft := sheet.draft.push text }) := by
  refine ⟨s.typeRef ref, ?_, ?_⟩
  · rw [visit, writeTypeRef_eq, Write.runOn_push]
  · rw [visit, writeTypeRef_eq, Write.runOn_push, typeRef_unresolved ref confirmed]

/-- Two generic types of a shop. -/
def shop : Graph :=
  (({} : Graph).addType (.ofClass "Shop" "Cart\x601")).addType (.ofClass "Shop" "Box\x601")

/-- Points to the types of the shop, and once to nothing, at several depths. -/
def stocked : TypeRef :=
  .byRef (.named "System" "Dictionary\x602"
    [.named "Shop" "Cart" [] (some ⟨0⟩),
      .array (.named "Shop" "Box\x601" [.pointer (.named "" "Line" [] (some ⟨9⟩)),
        .named "Shop" "Cart\x601" [] (some ⟨0⟩)] (some ⟨1⟩)) 2] none)

theorem confirmed_reference_written_unresolved_stocked :
    let s : Scope := ⟨shop, .csharp, { inFull := true }⟩
    let sheet : Sheet := ⟨⟨"x ", 1, .tab⟩, []⟩
    let text := "x ref System.Dictionary<Shop.Cart, Shop.Box<Line*, Shop.Cart>[,]>"
    (∀ part ∈ stocked.parts, s.graph.Confirms part) ∧
      ((s.visit (.typeReference stocked)).runOn sheet).2.draft.text = text ∧
      ((s.visit (.typeReference stocked.unresolved)).runOn sheet).2.draft.text = text := by
  intro s sheet text
  have confirmed : ∀ part ∈ stocked.parts, s.graph.Confirms part := by decide +kernel
  have shown : ((s.visit (.typeReference stocked)).runOn sheet).2.draft.text = text := by
    decide +kernel
  obtain ⟨added, ran, ran'⟩ := s.confirmed_reference_written_unresolved stocked confirmed sheet
  refine ⟨confirmed, shown, ?_⟩
  rw [ran] at shown
  rw [ran']
  exact shown

/-- An argument whose definition has another name shows that name. -/
example :
    let s : Scope := ⟨shop, .csharp, {}⟩
    let ref : TypeRef := .generic "" "List" [.named "Shop" "Basket" [] (some ⟨0⟩)]
    s.typeRef ref = "List<Cart>" ∧ s.typeRef ref.unresolved = "List<Basket>" := by
  decide +kernel

end Scope
end StubSource
