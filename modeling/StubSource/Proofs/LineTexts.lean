import StubSource.Writing.Element
import StubSource.Proofs.Writing

/-!
# The texts of writers within a line

Within a line a writer only pushes pieces, so it does what a single push of all its pieces does: it
cannot stop, and what it writes is a text that depends on the scope alone. For lists this holds if
it holds for their items, and with it for references, whose arguments are lists of references.
-/

namespace StubSource
set_option autoImplicit false

namespace Write

theorem ext_runOn {α : Type} {w w' : Write α} (same : ∀ sheet, w.runOn sheet = w'.runOn sheet) :
    w = w' := funext same

@[simp] theorem push_empty : push "" = pure () := by
  apply ext_runOn
  intro sheet
  simp [Draft.push]

@[simp] theorem push_bind_push (a b : String) : (do push a; push b) = push (a ++ b) := by
  apply ext_runOn
  intro sheet
  simp [runOn_bind]

@[simp] theorem push_bind_push_bind (a b : String) (next : Write Unit) :
    (do push a; push b; next) = (do push (a ++ b); next) := by
  rw [← push_bind_push, bind_assoc]

@[simp] theorem push_bind_line (a b : String) : (do push a; line b) = line (a ++ b) := by
  apply ext_runOn
  intro sheet
  simp [runOn_bind, Draft.line]

theorem forM_push (texts : List String) : texts.forM push = push (String.join texts) := by
  induction texts with
  | nil => exact push_empty.symm
  | cons text texts ih =>
    have first : (text :: texts).forM push = (do push text; texts.forM push) := rfl
    rw [first, ih, push_bind_push, String.join_cons]

theorem separated_map_push (separator : String) : ∀ texts : List String,
    separated separator (texts.map push) = push (separator.intercalate texts)
  | [] => push_empty.symm
  | [text] => by rw [String.intercalate_singleton]; rfl
  | text :: next :: texts => by
    have rest := separated_map_push separator (next :: texts)
    rw [List.map_cons, List.map_cons, separated, ← List.map_cons, rest, push_bind_push,
      push_bind_push, String.intercalate_cons_cons, String.append_assoc]
    exact List.cons_ne_nil _ _

/-- A list of texts is written as one text. -/
theorem enclosed_map_push (brackets : Brackets) (separator : String) (always : Bool)
    (texts : List String) :
    enclosed brackets separator always (texts.map push) =
      push (brackets.enclose separator always texts) := by
  rw [enclosed, List.isEmpty_map, separated_map_push, Brackets.enclose]
  cases bracketed : always || !texts.isEmpty with
  | true => simp [String.append_assoc]
  | false =>
    have none : texts = [] := by simpa using (Bool.or_eq_false_iff.1 bracketed).2
    simp [none]

theorem enclosed_of_pushes {α : Type} (brackets : Brackets) (separator : String) (always : Bool)
    (items : List α) {write : α → Write Unit} {text : α → String}
    (each : ∀ a, write a = push (text a)) :
    enclosed brackets separator always (items.map write) =
      push (brackets.enclose separator always (items.map text)) := by
  have pushes : items.map write = (items.map text).map push := by
    rw [List.map_map]
    exact List.map_congr_left fun a _ => each a
  rw [pushes, enclosed_map_push]

end Write

namespace Scope

open Write

variable (s : Scope)

mutual

/-- A reference is written as one text, whatever its arguments are. -/
@[simp] theorem writeTypeRef_eq : ∀ ref : TypeRef, s.writeTypeRef ref = push (s.typeRef ref)
  | .named ns name arguments _ => by
    rw [writeTypeRef, argumentWriters_eq arguments, enclosed_map_push, push_bind_push, typeRef]
  | .array element rank => by
    rw [writeTypeRef, writeTypeRef_eq element, forM_push, typeRef]
    simp [String.append_assoc]
  | .byRef element => by
    rw [writeTypeRef, writeTypeRef_eq element, push_bind_push, typeRef]
  | .pointer element => by
    rw [writeTypeRef, writeTypeRef_eq element, push_bind_push, typeRef]
  | .parameter _ => rfl

theorem argumentWriters_eq : ∀ refs : List TypeRef,
    s.argumentWriters refs = (s.typeArguments refs).map push
  | [] => rfl
  | ref :: refs => by
    rw [argumentWriters, argumentWriters_eq refs, typeArguments, List.map_cons]
    cases s.definition? ref with
    | some t => rfl
    | none => rw [writeTypeRef_eq ref]

end

@[simp] theorem writeGenericParameters_eq (ps : List GenericParameter) :
    s.writeGenericParameters ps = push (s.genericParameters ps) :=
  enclosed_of_pushes _ _ _ ps fun _ => rfl

@[simp] theorem writeTypeSignature_eq (t : TypeDef) :
    s.writeTypeSignature t = push (s.typeSignature t) := by
  rw [writeTypeSignature, writeGenericParameters_eq, push_bind_push, typeSignature]

@[simp] theorem writeTypeHeader_eq (t : TypeDef) : s.writeTypeHeader t = push (s.typeHeader t) := by
  simp [writeTypeHeader, typeHeader, String.append_assoc]

@[simp] theorem writeTypedName_eq (name : String) (type : TypeRef) :
    s.writeTypedName name type = push (s.typedName name (s.typeRef type)) := by
  unfold writeTypedName typedName
  cases s.dialect.declarations.placement with
  | beforeName => simp [String.append_assoc]
  | afterName => simp [String.append_assoc]

@[simp] theorem writeParameter_eq (p : Parameter) : s.writeParameter p = push (s.parameter p) := by
  unfold writeParameter parameter
  cases p.type with
  | byRef element => simp
  | named | array | pointer | parameter => simp

@[simp] theorem writeParameters_eq (ps : List Parameter) :
    s.writeParameters ps = push (s.parameters ps) :=
  enclosed_of_pushes _ _ _ ps s.writeParameter_eq

@[simp] theorem writeField_eq (f : Field) : s.writeField f = push (s.field f) := by
  unfold writeField field
  cases f.isStatic || f.isLiteral <;> cases f.isReadOnly <;> simp [String.append_assoc]

@[simp] theorem writeDeclaration_eq (m : Method) (name : String) :
    s.writeDeclaration m name = push (s.methodDeclaration m name) := by
  unfold writeDeclaration methodDeclaration
  cases s.dialect.declarations.placement with
  | beforeName =>
    cases m.isConstructor <;> cases m.returnsVoid <;> simp [String.append_assoc]
  | afterName =>
    cases m.isConstructor <;> cases m.isFunction <;> simp [String.append_assoc]

@[simp] theorem writeReturnDefault_eq (type : TypeRef) :
    s.writeReturnDefault type = line (s.returnDefault type) := by
  simp only [writeReturnDefault, returnDefault]
  cases Text.cutAt? typeMark.toList s.dialect.methods.returnDefault.toList with
  | none => rfl
  | some cut => simp [String.append_assoc]

end Scope
end StubSource
