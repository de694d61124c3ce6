import StubSource.Document.TypeRef
import StubSource.Metadata.Member

/-!
# Members in documents

Readers and writers for methods, fields and what belongs to them. Writers give every field;
readers fill in what is left out. A method without a field `body` has an empty body, while null
says that it has none.
-/

namespace StubSource
set_option autoImplicit false

def MethodId.ofValue? (v : Value) : Option MethodId := v.index?.map MethodId.mk

def MethodId.toValue (id : MethodId) : Value := .ofNat id.index

def FieldId.ofValue? (v : Value) : Option FieldId := v.index?.map FieldId.mk

def FieldId.toValue (id : FieldId) : Value := .ofNat id.index

namespace Visibility

def key : Visibility → String
  | .ownType => "private"
  | .everyone => "public"
  | .family => "family"
  | .assembly => "assembly"
  | .familyOrAssembly => "family_or_assembly"
  | .familyAndAssembly => "family_and_assembly"

def ofKey? : String → Option Visibility
  | "private" => some .ownType
  | "public" => some .everyone
  | "family" => some .family
  | "assembly" => some .assembly
  | "family_or_assembly" => some .familyOrAssembly
  | "family_and_assembly" => some .familyAndAssembly
  | _ => none

def ofValue? (v : Value) : Option Visibility := (v.choice? .json).bind ofKey?

def toValue (v : Visibility) : Value := .text v.key

end Visibility

namespace Marshalling

def ofValue? (v : Value) : Option Marshalling := do
  let fields ← v.table?
  return { nativeType := ← fields.required? "native_type" Value.text? }

def toValue (m : Marshalling) : Value := .table [("native_type", .text m.nativeType)]

end Marshalling

namespace NativeImport

def ofValue? (v : Value) : Option NativeImport := do
  let fields ← v.table?
  return {
    library := ← fields.required? "module" Value.text?
    entryPoint := ← fields.required? "entry_point" Value.text? }

def toValue (n : NativeImport) : Value := .table [
  ("module", .text n.library), ("entry_point", .text n.entryPoint)]

end NativeImport

namespace SecurityDeclaration

def ofValue? (v : Value) : Option SecurityDeclaration := do
  let fields ← v.table?
  return { action := ← fields.required? "action" Value.text? }

def toValue (d : SecurityDeclaration) : Value := .table [("action", .text d.action)]

end SecurityDeclaration

namespace AttributeUse

def ofValue? (v : Value) : Option AttributeUse := do
  let fields ← v.table?
  return {
    attributeType := ← fields.required? "attribute_type" TypeRef.ofValue?
    arguments := ← fields.field? "arguments" (Value.list? Value.text?) [] }

def toValue (a : AttributeUse) : Value := .table [
  ("attribute_type", a.attributeType.toValue), ("arguments", .ofList .text a.arguments)]

end AttributeUse

namespace MethodRef

def ofValue? (v : Value) : Option MethodRef := do
  let fields ← v.table?
  return {
    declaringType := ← fields.required? "declaring_type" TypeRef.ofValue?
    name := ← fields.required? "name" Value.text? }

def toValue (r : MethodRef) : Value := .table [
  ("declaring_type", r.declaringType.toValue), ("name", .text r.name)]

end MethodRef

namespace GenericParameter

def ofValue? (v : Value) : Option GenericParameter := do
  let fields ← v.table?
  return {
    name := ← fields.required? "name" Value.text?
    constraints := ← fields.field? "constraints" (Value.list? TypeRef.ofValue?) [] }

def toValue (p : GenericParameter) : Value := .table [
  ("name", .text p.name), ("constraints", .ofList TypeRef.toValue p.constraints)]

end GenericParameter

namespace Parameter

def ofValue? (v : Value) : Option Parameter := do
  let fields ← v.table?
  return {
    name := ← fields.required? "name" Value.text?
    type := ← fields.required? "parameter_type" TypeRef.ofValue?
    isOut := ← fields.field? "is_out" Value.bool? false
    marshalling := ← fields.field? "marshal" (Value.optional? Marshalling.ofValue?) none }

def toValue (p : Parameter) : Value := .table [
  ("name", .text p.name), ("parameter_type", p.type.toValue), ("is_out", .bool p.isOut),
  ("marshal", .ofOption Marshalling.toValue p.marshalling)]

end Parameter

namespace Property

def ofValue? (v : Value) : Option Property := do
  let fields ← v.table?
  return {
    name := ← fields.required? "name" Value.text?
    type := ← fields.required? "property_type" TypeRef.ofValue?
    getter := ← fields.field? "getter" (Value.optional? MethodId.ofValue?) none
    setter := ← fields.field? "setter" (Value.optional? MethodId.ofValue?) none }

def toValue (p : Property) : Value := .table [
  ("name", .text p.name), ("property_type", p.type.toValue),
  ("getter", .ofOption MethodId.toValue p.getter), ("setter", .ofOption MethodId.toValue p.setter)]

end Property

namespace Event

def ofValue? (v : Value) : Option Event := do
  let fields ← v.table?
  return {
    name := ← fields.required? "name" Value.text?
    type := ← fields.required? "event_type" TypeRef.ofValue? }

def toValue (e : Event) : Value := .table [("name", .text e.name), ("event_type", e.type.toValue)]

end Event

namespace MethodFlags

def ofValue? (v : Value) : Option MethodFlags := do
  let fields ← v.table?
  return {
    isStatic := ← fields.field? "is_static" Value.bool? false
    isVirtual := ← fields.field? "is_virtual" Value.bool? false
    isAbstract := ← fields.field? "is_abstract" Value.bool? false
    isFinal := ← fields.field? "is_final" Value.bool? false
    isOverride := ← fields.field? "is_override" Value.bool? false
    isSpecialName := ← fields.field? "is_special_name" Value.bool? false }

def toValue (f : MethodFlags) : Value := .table [
  ("is_static", .bool f.isStatic), ("is_virtual", .bool f.isVirtual),
  ("is_abstract", .bool f.isAbstract), ("is_final", .bool f.isFinal),
  ("is_override", .bool f.isOverride), ("is_special_name", .bool f.isSpecialName)]

end MethodFlags

namespace MethodBody

def ofValue? (v : Value) : Option MethodBody := do
  let fields ← v.table?
  return {
    codeSize := ← fields.field? "code_size" Value.uint32? 0
    maxStack := ← fields.field? "max_stack" Value.uint16? 0
    initLocals := ← fields.field? "init_locals" Value.bool? false }

def toValue (b : MethodBody) : Value := .table [
  ("code_size", .ofNat b.codeSize.toNat), ("max_stack", .ofNat b.maxStack.toNat),
  ("init_locals", .bool b.initLocals)]

end MethodBody

namespace Method

def ofValue? (v : Value) : Option Method := do
  let fields ← v.table?
  return {
    name := ← fields.required? "name" Value.text?
    declaringType := ← fields.field? "declaring_type" (Value.optional? TypeId.ofValue?) none
    visibility := ← fields.field? "visibility" Visibility.ofValue? .ownType
    flags := ← fields.field? "attributes" MethodFlags.ofValue? {}
    parameters := ← fields.field? "parameters" (Value.list? Parameter.ofValue?) []
    returnType := ← fields.field? "return_type" TypeRef.ofValue? .void
    genericParameters :=
      ← fields.field? "generic_parameters" (Value.list? GenericParameter.ofValue?) []
    body := ← fields.field? "body" (Value.optional? MethodBody.ofValue?) (some {})
    overrides := ← fields.field? "overrides" (Value.list? MethodRef.ofValue?) []
    attributes := ← fields.field? "custom_attributes" (Value.list? AttributeUse.ofValue?) []
    nativeImport := ← fields.field? "pinvoke" (Value.optional? NativeImport.ofValue?) none
    securityDeclarations :=
      ← fields.field? "security_declarations" (Value.list? SecurityDeclaration.ofValue?) [] }

def toValue (m : Method) : Value := .table [
  ("name", .text m.name),
  ("declaring_type", .ofOption TypeId.toValue m.declaringType),
  ("visibility", m.visibility.toValue),
  ("attributes", m.flags.toValue),
  ("parameters", .ofList Parameter.toValue m.parameters),
  ("return_type", m.returnType.toValue),
  ("generic_parameters", .ofList GenericParameter.toValue m.genericParameters),
  ("body", .ofOption MethodBody.toValue m.body),
  ("overrides", .ofList MethodRef.toValue m.overrides),
  ("custom_attributes", .ofList AttributeUse.toValue m.attributes),
  ("pinvoke", .ofOption NativeImport.toValue m.nativeImport),
  ("security_declarations", .ofList SecurityDeclaration.toValue m.securityDeclarations)]

end Method

namespace Field

def ofValue? (v : Value) : Option Field := do
  let fields ← v.table?
  return {
    name := ← fields.required? "name" Value.text?
    declaringType := ← fields.field? "declaring_type" (Value.optional? TypeId.ofValue?) none
    type := ← fields.required? "field_type" TypeRef.ofValue?
    visibility := ← fields.field? "visibility" Visibility.ofValue? .ownType
    isStatic := ← fields.field? "is_static" Value.bool? false
    isReadOnly := ← fields.field? "is_init_only" Value.bool? false
    isLiteral := ← fields.field? "is_literal" Value.bool? false
    marshalling := ← fields.field? "marshal" (Value.optional? Marshalling.ofValue?) none
    attributes := ← fields.field? "custom_attributes" (Value.list? AttributeUse.ofValue?) [] }

def toValue (f : Field) : Value := .table [
  ("name", .text f.name),
  ("declaring_type", .ofOption TypeId.toValue f.declaringType),
  ("field_type", f.type.toValue),
  ("visibility", f.visibility.toValue),
  ("is_static", .bool f.isStatic),
  ("is_init_only", .bool f.isReadOnly),
  ("is_literal", .bool f.isLiteral),
  ("marshal", .ofOption Marshalling.toValue f.marshalling),
  ("custom_attributes", .ofList AttributeUse.toValue f.attributes)]

end Field
end StubSource
