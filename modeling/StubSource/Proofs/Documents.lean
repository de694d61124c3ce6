import StubSource.Document.Graph
import StubSource.Proofs.Agreement
import StubSource.Proofs.VersionText

/-!
# Reading back a graph

The document written for a graph has every field of every record, so reading it never falls back on
the value of a field that is left out, and the graph that is read is the graph that was written. The
only part of a graph that a document may be too small for is a position.
-/

namespace StubSource
set_option autoImplicit false

namespace Fields

variable {α : Type} {key other : String} {v : Value} {fields : Fields} {read : Value → Option α}
  {fallback : α}

@[simp] theorem required?_cons_self : required? ((key, v) :: fields) key read = read v := by
  simp [required?]

@[simp] theorem required?_cons_of_ne (ne : key ≠ other) :
    required? ((other, v) :: fields) key read = required? fields key read := by
  simp [required?, List.lookup_cons, beq_false_of_ne ne]

@[simp] theorem field?_cons_self :
    field? ((key, v) :: fields) key read fallback = read v := by
  simp [field?]

@[simp] theorem field?_cons_of_ne (ne : key ≠ other) :
    field? ((other, v) :: fields) key read fallback = field? fields key read fallback := by
  simp [field?, List.lookup_cons, beq_false_of_ne ne]

@[simp] theorem field?_nil : field? [] key read fallback = some fallback := rfl

end Fields

namespace Value

@[simp] theorem text?_text (s : String) : (text s).text? = some s := rfl

@[simp] theorem bool?_bool (b : Bool) : (bool b).bool? = some b := rfl

@[simp] theorem table?_table (fields : Fields) : (table fields).table? = some fields := rfl

/-- A step of a reader. Opening the step itself would have `simp` go through the steps that follow
it once more each time. -/
theorem some_bind {α β : Type} (a : α) (next : α → Option β) : (some a >>= next) = next a := rfl

@[simp] theorem uint16?_ofNat (n : UInt16) : (ofNat n.toNat).uint16? = some n := by
  simp [uint16?, natBelow?_ofNat n.toNat_lt]

@[simp] theorem uint32?_ofNat (n : UInt32) : (ofNat n.toNat).uint32? = some n := by
  simp [uint32?, natBelow?_ofNat n.toNat_lt]

theorem optional?_ofOption {α : Type} {read : Value → Option α} {write : α → Value} {a : Option α}
    (noNull : read .null = none) (back : ∀ b ∈ a, read (write b) = some b) :
    (ofOption write a).optional? read = some a := by
  cases a with
  | none => rfl
  | some b =>
    have readable := back b rfl
    rw [ofOption]
    -- Null would be taken for nothing, but the reader refuses it and so it was not written.
    cases written : write b with
    | null =>
      rw [written, noNull] at readable
      cases readable
    | _ => simp [optional?, ← written, readable]

/-- A table without one of its fields. -/
def without (key : String) : Value → Value
  | .table fields => .table (fields.filter fun field => field.1 ≠ key)
  | v => v

end Value

/-- Positions have sixty-four bits in a document. -/
def positionLimit : Nat := 0x10000000000000000

/-- All of these positions have a number that a document can hold. -/
def FitsDocument (positions : List Nat) : Prop := ∀ i ∈ positions, i < positionLimit

namespace FitsDocument

variable {α : Type} {ps qs : List Nat}

instance : Decidable (FitsDocument ps) := inferInstanceAs (Decidable (∀ i ∈ ps, i < positionLimit))

@[simp] theorem append_iff : FitsDocument (ps ++ qs) ↔ FitsDocument ps ∧ FitsDocument qs :=
  List.forall_mem_append

@[simp] theorem flatMap_iff {items : List α} {positions : α → List Nat} :
    FitsDocument (items.flatMap positions) ↔ ∀ a ∈ items, FitsDocument (positions a) :=
  List.forall_mem_flatMap

@[simp] theorem map_iff {items : List α} {position : α → Nat} :
    FitsDocument (items.map position) ↔ ∀ a ∈ items, position a < positionLimit :=
  List.forall_mem_map

end FitsDocument

theorem Value.index?_ofNat {i : Nat} (small : i < positionLimit) : (ofNat i).index? = some i :=
  natBelow?_ofNat small

theorem TypeId.ofValue?_toValue {id : TypeId} (small : id.index < positionLimit) :
    ofValue? id.toValue = some id := by
  simp [ofValue?, toValue, Value.index?_ofNat small]

theorem MethodId.ofValue?_toValue {id : MethodId} (small : id.index < positionLimit) :
    ofValue? id.toValue = some id := by
  simp [ofValue?, toValue, Value.index?_ofNat small]

theorem FieldId.ofValue?_toValue {id : FieldId} (small : id.index < positionLimit) :
    ofValue? id.toValue = some id := by
  simp [ofValue?, toValue, Value.index?_ofNat small]

/-! ## References -/

namespace TypeRef

def positions (ref : TypeRef) : List Nat := ref.definitions.map TypeId.index

@[simp] theorem fits_iff {ref : TypeRef} :
    FitsDocument ref.positions ↔ ∀ id ∈ ref.definitions, id.index < positionLimit :=
  FitsDocument.map_iff

mutual

theorem read?_toValue (inside : Bool) : ∀ ref : TypeRef,
    (∀ id ∈ ref.definitions, id.index < positionLimit) → read? inside ref.toValue = some ref
  | .named ns name arguments definition, small => by
    have readArguments := readAll?_toValues arguments fun id mem =>
      small id (by simp [definitions, mem])
    have readDefinition : (Value.ofOption TypeId.toValue definition).optional? TypeId.ofValue? =
        some definition := Value.optional?_ofOption rfl fun id mem =>
      TypeId.ofValue?_toValue (small id (by simp_all [definitions]))
    simp [toValue, read?, arguments?, Kind.ofValue?, Kind.ofKey?, readArguments, readDefinition]
  | .array element rank, small => by
    have readElement := read?_toValue true element small
    simp [toValue, read?, element?, Kind.ofValue?, Kind.ofKey?, readElement]
  | .byRef element, small => by
    have readElement := read?_toValue true element small
    simp [toValue, read?, element?, Kind.ofValue?, Kind.ofKey?, readElement]
  | .pointer element, small => by
    have readElement := read?_toValue true element small
    simp [toValue, read?, element?, Kind.ofValue?, Kind.ofKey?, readElement]
  | .parameter name, _ => by
    simp [toValue, read?, Kind.ofValue?, Kind.ofKey?]

theorem readAll?_toValues : ∀ refs : List TypeRef,
    (∀ id ∈ definitionsOfAll refs, id.index < positionLimit) → readAll? (toValues refs) = some refs
  | [], _ => rfl
  | ref :: refs, small => by
    have first := read?_toValue true ref fun id mem => small id (by simp [definitionsOfAll, mem])
    have rest := readAll?_toValues refs fun id mem => small id (by simp [definitionsOfAll, mem])
    simp [toValues, readAll?, first, rest]

end

theorem ofValue?_toValue {ref : TypeRef} (fits : FitsDocument ref.positions) :
    ofValue? ref.toValue = some ref :=
  read?_toValue false ref (fits_iff.1 fits)

/-- An array without a rank has one dimension. -/
theorem ofValue?_toValue_without_rank {element : TypeRef} (fits : FitsDocument element.positions)
    (rank : UInt32) :
    ofValue? ((array element rank).toValue.without "rank") = some (array element 1) := by
  have readElement := read?_toValue true element (fits_iff.1 fits)
  simp [ofValue?, toValue, Value.without, read?, element?, Kind.ofValue?, Kind.ofKey?, readElement]

end TypeRef

/-! ## Members -/

theorem Visibility.ofValue?_toValue (v : Visibility) : ofValue? v.toValue = some v := by
  cases v <;> rfl

theorem Marshalling.ofValue?_toValue (m : Marshalling) : ofValue? m.toValue = some m := by
  simp [ofValue?, toValue]

theorem NativeImport.ofValue?_toValue (n : NativeImport) : ofValue? n.toValue = some n := by
  simp [ofValue?, toValue]

theorem SecurityDeclaration.ofValue?_toValue (d : SecurityDeclaration) :
    ofValue? d.toValue = some d := by
  simp [ofValue?, toValue]

theorem MethodFlags.ofValue?_toValue (f : MethodFlags) : ofValue? f.toValue = some f := by
  simp [ofValue?, toValue, -Option.bind_eq_bind, Value.some_bind]

theorem MethodBody.ofValue?_toValue (b : MethodBody) : ofValue? b.toValue = some b := by
  simp [ofValue?, toValue]

namespace AttributeUse

def positions (a : AttributeUse) : List Nat := a.attributeType.positions

theorem ofValue?_toValue {a : AttributeUse} (fits : FitsDocument a.positions) :
    ofValue? a.toValue = some a := by
  have readArguments : (Value.ofList .text a.arguments).list? Value.text? = some a.arguments :=
    Value.list?_ofList fun _ _ => rfl
  simp [ofValue?, toValue, TypeRef.ofValue?_toValue fits, readArguments]

end AttributeUse

namespace MethodRef

def positions (r : MethodRef) : List Nat := r.declaringType.positions

theorem ofValue?_toValue {r : MethodRef} (fits : FitsDocument r.positions) :
    ofValue? r.toValue = some r := by
  simp [ofValue?, toValue, TypeRef.ofValue?_toValue fits]

end MethodRef

namespace GenericParameter

def positions (p : GenericParameter) : List Nat := p.constraints.flatMap TypeRef.positions

theorem ofValue?_toValue {p : GenericParameter} (fits : FitsDocument p.positions) :
    ofValue? p.toValue = some p := by
  have readConstraints : (Value.ofList TypeRef.toValue p.constraints).list? TypeRef.ofValue? =
      some p.constraints := Value.list?_ofList fun ref mem =>
    TypeRef.ofValue?_toValue (FitsDocument.flatMap_iff.1 fits ref mem)
  simp [ofValue?, toValue, readConstraints]

end GenericParameter

namespace Parameter

def positions (p : Parameter) : List Nat := p.type.positions

theorem ofValue?_toValue {p : Parameter} (fits : FitsDocument p.positions) :
    ofValue? p.toValue = some p := by
  have readMarshalling : (Value.ofOption Marshalling.toValue p.marshalling).optional?
      Marshalling.ofValue? = some p.marshalling :=
    Value.optional?_ofOption rfl fun m _ => m.ofValue?_toValue
  simp [ofValue?, toValue, TypeRef.ofValue?_toValue fits, readMarshalling]

end Parameter

namespace Property

def positions (p : Property) : List Nat :=
  p.type.positions ++ p.getter.toList.map MethodId.index ++ p.setter.toList.map MethodId.index

theorem ofValue?_toValue {p : Property} (fits : FitsDocument p.positions) :
    ofValue? p.toValue = some p := by
  simp only [positions, FitsDocument.append_iff, FitsDocument.map_iff, Option.mem_toList] at fits
  obtain ⟨⟨type, getter⟩, setter⟩ := fits
  have readGetter : (Value.ofOption MethodId.toValue p.getter).optional? MethodId.ofValue? =
      some p.getter :=
    Value.optional?_ofOption rfl fun id mem => MethodId.ofValue?_toValue (getter id mem)
  have readSetter : (Value.ofOption MethodId.toValue p.setter).optional? MethodId.ofValue? =
      some p.setter :=
    Value.optional?_ofOption rfl fun id mem => MethodId.ofValue?_toValue (setter id mem)
  simp [ofValue?, toValue, TypeRef.ofValue?_toValue type, readGetter, readSetter]

end Property

namespace Event

def positions (e : Event) : List Nat := e.type.positions

theorem ofValue?_toValue {e : Event} (fits : FitsDocument e.positions) :
    ofValue? e.toValue = some e := by
  simp [ofValue?, toValue, TypeRef.ofValue?_toValue fits]

end Event

theorem Value.list?_ofList_attributes {attributes : List AttributeUse}
    (fits : ∀ a ∈ attributes, FitsDocument a.positions) :
    (ofList AttributeUse.toValue attributes).list? AttributeUse.ofValue? = some attributes :=
  list?_ofList fun a mem => AttributeUse.ofValue?_toValue (fits a mem)

theorem Value.list?_ofList_genericParameters {ps : List GenericParameter}
    (fits : ∀ p ∈ ps, FitsDocument p.positions) :
    (ofList GenericParameter.toValue ps).list? GenericParameter.ofValue? = some ps :=
  list?_ofList fun p mem => GenericParameter.ofValue?_toValue (fits p mem)

theorem Value.list?_ofList_securityDeclarations (ds : List SecurityDeclaration) :
    (ofList SecurityDeclaration.toValue ds).list? SecurityDeclaration.ofValue? = some ds :=
  list?_ofList fun d _ => d.ofValue?_toValue

theorem Value.optional?_ofOption_typeId {a : Option TypeId}
    (small : ∀ id ∈ a.toList, id.index < positionLimit) :
    (ofOption TypeId.toValue a).optional? TypeId.ofValue? = some a :=
  optional?_ofOption rfl fun id mem =>
    TypeId.ofValue?_toValue (small id (Option.mem_toList.2 mem))

namespace Method

def positions (m : Method) : List Nat :=
  m.declaringType.toList.map TypeId.index ++ m.parameters.flatMap Parameter.positions ++
    m.returnType.positions ++ m.genericParameters.flatMap GenericParameter.positions ++
    m.overrides.flatMap MethodRef.positions ++ m.attributes.flatMap AttributeUse.positions

/-- A body that is null is none, and one that is left out is empty. -/
theorem ofValue?_toValue {m : Method} (fits : FitsDocument m.positions) :
    ofValue? m.toValue = some m ∧
      ofValue? (m.toValue.without "body") = some { m with body := some {} } := by
  simp only [positions, FitsDocument.append_iff, FitsDocument.flatMap_iff,
    FitsDocument.map_iff] at fits
  obtain ⟨⟨⟨⟨⟨owner, parameters⟩, returned⟩, generics⟩, overrides⟩, attributes⟩ := fits
  have readParameters : (Value.ofList Parameter.toValue m.parameters).list? Parameter.ofValue? =
      some m.parameters :=
    Value.list?_ofList fun p mem => Parameter.ofValue?_toValue (parameters p mem)
  have readOverrides : (Value.ofList MethodRef.toValue m.overrides).list? MethodRef.ofValue? =
      some m.overrides :=
    Value.list?_ofList fun r mem => MethodRef.ofValue?_toValue (overrides r mem)
  have readBody : (Value.ofOption MethodBody.toValue m.body).optional? MethodBody.ofValue? =
      some m.body := Value.optional?_ofOption rfl fun b _ => b.ofValue?_toValue
  have readImport : (Value.ofOption NativeImport.toValue m.nativeImport).optional?
      NativeImport.ofValue? = some m.nativeImport :=
    Value.optional?_ofOption rfl fun n _ => n.ofValue?_toValue
  refine ⟨?_, ?_⟩ <;>
  simp [ofValue?, toValue, Value.without, -Option.bind_eq_bind, Value.some_bind,
    Value.optional?_ofOption_typeId owner, m.visibility.ofValue?_toValue,
    m.flags.ofValue?_toValue, readParameters, TypeRef.ofValue?_toValue returned,
    Value.list?_ofList_genericParameters generics, readBody, readOverrides,
    Value.list?_ofList_attributes attributes, readImport,
    Value.list?_ofList_securityDeclarations]

end Method

namespace Field

def positions (f : Field) : List Nat :=
  f.declaringType.toList.map TypeId.index ++ f.type.positions ++
    f.attributes.flatMap AttributeUse.positions

theorem ofValue?_toValue {f : Field} (fits : FitsDocument f.positions) :
    ofValue? f.toValue = some f := by
  simp only [positions, FitsDocument.append_iff, FitsDocument.flatMap_iff,
    FitsDocument.map_iff] at fits
  obtain ⟨⟨owner, type⟩, attributes⟩ := fits
  have readMarshalling : (Value.ofOption Marshalling.toValue f.marshalling).optional?
      Marshalling.ofValue? = some f.marshalling :=
    Value.optional?_ofOption rfl fun m _ => m.ofValue?_toValue
  simp [ofValue?, toValue, -Option.bind_eq_bind, Value.some_bind,
    Value.optional?_ofOption_typeId owner, TypeRef.ofValue?_toValue type,
    f.visibility.ofValue?_toValue, readMarshalling, Value.list?_ofList_attributes attributes]

end Field

/-! ## Graphs -/

theorem TypeKind.ofValue?_toValue (k : TypeKind) : ofValue? k.toValue = some k := by
  cases k <;> rfl

namespace TypeDef

def positions (t : TypeDef) : List Nat :=
  t.baseType.toList.flatMap TypeRef.positions ++
    t.genericParameters.flatMap GenericParameter.positions ++
    t.interfaces.flatMap TypeRef.positions ++ t.methods.map MethodId.index ++
    t.fields.map FieldId.index ++ t.nestedTypes.map TypeId.index ++
    t.properties.flatMap Property.positions ++ t.events.flatMap Event.positions ++
    t.attributes.flatMap AttributeUse.positions ++ t.declaringType.toList.map TypeId.index

theorem ofValue?_toValue {t : TypeDef} (fits : FitsDocument t.positions) :
    ofValue? t.toValue = some t := by
  simp only [positions, FitsDocument.append_iff, FitsDocument.flatMap_iff,
    FitsDocument.map_iff] at fits
  obtain ⟨⟨⟨⟨⟨⟨⟨⟨⟨base, generics⟩, interfaces⟩, methods⟩, fields⟩, nested⟩, properties⟩, events⟩,
    attributes⟩, owner⟩ := fits
  have readBase : (Value.ofOption TypeRef.toValue t.baseType).optional? TypeRef.ofValue? =
      some t.baseType := Value.optional?_ofOption rfl fun ref mem =>
    TypeRef.ofValue?_toValue (base ref (Option.mem_toList.2 mem))
  have readInterfaces : (Value.ofList TypeRef.toValue t.interfaces).list? TypeRef.ofValue? =
      some t.interfaces :=
    Value.list?_ofList fun ref mem => TypeRef.ofValue?_toValue (interfaces ref mem)
  have readMethods : (Value.ofList MethodId.toValue t.methods).list? MethodId.ofValue? =
      some t.methods :=
    Value.list?_ofList fun id mem => MethodId.ofValue?_toValue (methods id mem)
  have readFields : (Value.ofList FieldId.toValue t.fields).list? FieldId.ofValue? =
      some t.fields :=
    Value.list?_ofList fun id mem => FieldId.ofValue?_toValue (fields id mem)
  have readNested : (Value.ofList TypeId.toValue t.nestedTypes).list? TypeId.ofValue? =
      some t.nestedTypes :=
    Value.list?_ofList fun id mem => TypeId.ofValue?_toValue (nested id mem)
  have readProperties : (Value.ofList Property.toValue t.properties).list? Property.ofValue? =
      some t.properties :=
    Value.list?_ofList fun p mem => Property.ofValue?_toValue (properties p mem)
  have readEvents : (Value.ofList Event.toValue t.events).list? Event.ofValue? =
      some t.events :=
    Value.list?_ofList fun e mem => Event.ofValue?_toValue (events e mem)
  simp [ofValue?, toValue, -Option.bind_eq_bind, Value.some_bind, t.kind.ofValue?_toValue, readBase,
    Value.list?_ofList_genericParameters generics, readInterfaces, readMethods, readFields,
    readNested, readProperties, readEvents, Value.list?_ofList_attributes attributes,
    Value.list?_ofList_securityDeclarations, Value.optional?_ofOption_typeId owner]

end TypeDef

theorem Version.ofValue?_toValue (v : Version) : ofValue? v.toValue = some v := by
  simp [ofValue?, toValue, v.parse_toString, Except.toOption]

theorem AssemblyRef.ofValue?_toValue (r : AssemblyRef) : ofValue? r.toValue = some r := by
  simp [ofValue?, toValue, r.version.ofValue?_toValue]

namespace Graph

/-- All positions that a graph holds, of types, methods and fields. -/
def positions (g : Graph) : List Nat :=
  g.types.flatMap TypeDef.positions ++ g.methods.flatMap Method.positions ++
    g.fields.flatMap Field.positions

theorem ofValue?_toValue {g : Graph} (fits : FitsDocument g.positions) :
    ofValue? g.toValue = some g := by
  simp only [positions, FitsDocument.append_iff, FitsDocument.flatMap_iff] at fits
  obtain ⟨⟨types, methods⟩, fields⟩ := fits
  have readTypes : (Value.ofList TypeDef.toValue g.types).list? TypeDef.ofValue? = some g.types :=
    Value.list?_ofList fun t mem => TypeDef.ofValue?_toValue (types t mem)
  have readMethods : (Value.ofList Method.toValue g.methods).list? Method.ofValue? =
      some g.methods :=
    Value.list?_ofList fun m mem => (Method.ofValue?_toValue (methods m mem)).1
  have readFields : (Value.ofList Field.toValue g.fields).list? Field.ofValue? = some g.fields :=
    Value.list?_ofList fun f mem => Field.ofValue?_toValue (fields f mem)
  have readReferences : (Value.ofList AssemblyRef.toValue g.references).list?
      AssemblyRef.ofValue? = some g.references :=
    Value.list?_ofList fun r _ => r.ofValue?_toValue
  simp [ofValue?, toValue, readTypes, readMethods, readFields, readReferences]

/-- A graph is read back from its document as it was. What a reader would fill in is never filled
in: a method keeps a body that is none although a body left out is empty, and an array keeps the
rank zero although a rank left out is one. A version comes back from its text in four parts. -/
theorem document_round_trip (g : Graph) (fits : FitsDocument g.positions) :
    ofValue? g.toValue = some g ∧
    (∀ m ∈ g.methods, Method.ofValue? m.toValue = some m ∧
      Method.ofValue? (m.toValue.without "body") = some { m with body := some {} }) ∧
    (∀ element : TypeRef, FitsDocument element.positions → ∀ rank,
      TypeRef.ofValue? (TypeRef.array element rank).toValue = some (.array element rank) ∧
        TypeRef.ofValue? ((TypeRef.array element rank).toValue.without "rank") =
          some (.array element 1)) ∧
    ∀ v : Version, Version.ofValue? v.toValue = some v ∧
      v.toValue = .text (".".intercalate
        [v.major.toNat.repr, v.minor.toNat.repr, v.build.toNat.repr, v.revision.toNat.repr]) := by
  refine ⟨ofValue?_toValue fits, ?_, ?_, ?_⟩
  · intro m mem
    simp only [positions, FitsDocument.append_iff, FitsDocument.flatMap_iff] at fits
    exact Method.ofValue?_toValue (fits.1.2 m mem)
  · intro element fits rank
    exact ⟨TypeRef.ofValue?_toValue fits, TypeRef.ofValue?_toValue_without_rank fits rank⟩
  · intro v
    exact ⟨v.ofValue?_toValue, rfl⟩

/-- A method without a body on arrays without a dimension, with the last position that there is. -/
def farAway : Graph where
  types := [{ name := "Grid", methods := [⟨0⟩], baseType := some (.parameter "T") }]
  methods := [{
    name := "Cells"
    declaringType := some ⟨positionLimit - 1⟩
    returnType :=
      .array (.named "App" "Cell" [.named "App" "Row" [] (some ⟨positionLimit - 1⟩)] none) 0
    body := none }]
  references := [{ name := "mscorlib", version := ⟨4, 0, 65535, 0⟩ }]

theorem document_round_trip_farAway :
    FitsDocument farAway.positions ∧ ofValue? farAway.toValue = some farAway ∧
      (farAway.methods.map fun m => Method.ofValue? (m.toValue.without "body")) =
        farAway.methods.map fun m => some { m with body := some {} } := by
  have fits : FitsDocument farAway.positions := by decide
  obtain ⟨back, methods, -⟩ := farAway.document_round_trip fits
  exact ⟨fits, back, List.map_congr_left fun m mem => (methods m mem).2⟩

end Graph
end StubSource
