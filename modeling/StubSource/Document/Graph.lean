import StubSource.Document.Member
import StubSource.Metadata.Graph

/-!
# Graphs in documents

Readers and writers for type definitions, assembly references and whole graphs.
-/

namespace StubSource
set_option autoImplicit false

namespace TypeKind

def key : TypeKind → String
  | .classType => "class"
  | .structType => "struct"
  | .interfaceType => "interface"
  | .enumType => "enum"

def ofKey? : String → Option TypeKind
  | "class" => some .classType
  | "struct" => some .structType
  | "interface" => some .interfaceType
  | "enum" => some .enumType
  | _ => none

def ofValue? (v : Value) : Option TypeKind := (v.choice? .json).bind ofKey?

def toValue (k : TypeKind) : Value := .text k.key

end TypeKind

namespace TypeDef

def ofValue? (v : Value) : Option TypeDef := do
  let fields ← v.table?
  return {
    ns := ← fields.field? "namespace" Value.text? ""
    name := ← fields.required? "name" Value.text?
    kind := ← fields.field? "kind" TypeKind.ofValue? .classType
    isAbstract := ← fields.field? "is_abstract" Value.bool? false
    isSealed := ← fields.field? "is_sealed" Value.bool? false
    baseType := ← fields.field? "base_type" (Value.optional? TypeRef.ofValue?) none
    genericParameters :=
      ← fields.field? "generic_parameters" (Value.list? GenericParameter.ofValue?) []
    interfaces := ← fields.field? "interfaces" (Value.list? TypeRef.ofValue?) []
    methods := ← fields.field? "methods" (Value.list? MethodId.ofValue?) []
    fields := ← fields.field? "fields" (Value.list? FieldId.ofValue?) []
    nestedTypes := ← fields.field? "nested_types" (Value.list? TypeId.ofValue?) []
    properties := ← fields.field? "properties" (Value.list? Property.ofValue?) []
    events := ← fields.field? "events" (Value.list? Event.ofValue?) []
    attributes := ← fields.field? "custom_attributes" (Value.list? AttributeUse.ofValue?) []
    securityDeclarations :=
      ← fields.field? "security_declarations" (Value.list? SecurityDeclaration.ofValue?) []
    declaringType := ← fields.field? "declaring_type" (Value.optional? TypeId.ofValue?) none }

def toValue (t : TypeDef) : Value := .table [
  ("namespace", .text t.ns),
  ("name", .text t.name),
  ("kind", t.kind.toValue),
  ("is_abstract", .bool t.isAbstract),
  ("is_sealed", .bool t.isSealed),
  ("base_type", .ofOption TypeRef.toValue t.baseType),
  ("generic_parameters", .ofList GenericParameter.toValue t.genericParameters),
  ("interfaces", .ofList TypeRef.toValue t.interfaces),
  ("methods", .ofList MethodId.toValue t.methods),
  ("fields", .ofList FieldId.toValue t.fields),
  ("nested_types", .ofList TypeId.toValue t.nestedTypes),
  ("properties", .ofList Property.toValue t.properties),
  ("events", .ofList Event.toValue t.events),
  ("custom_attributes", .ofList AttributeUse.toValue t.attributes),
  ("security_declarations", .ofList SecurityDeclaration.toValue t.securityDeclarations),
  ("declaring_type", .ofOption TypeId.toValue t.declaringType)]

end TypeDef

namespace Version

/-- In a document a version is its text. -/
def ofValue? (v : Value) : Option Version := v.text?.bind fun s => (parse s).toOption

def toValue (v : Version) : Value := .text v.toString

end Version

namespace AssemblyRef

def ofValue? (v : Value) : Option AssemblyRef := do
  let fields ← v.table?
  return {
    name := ← fields.required? "name" Value.text?
    version := ← fields.field? "version" Version.ofValue? {} }

def toValue (r : AssemblyRef) : Value := .table [
  ("name", .text r.name), ("version", r.version.toValue)]

end AssemblyRef

namespace Graph

def ofValue? (v : Value) : Option Graph := do
  let fields ← v.table?
  return {
    types := ← fields.field? "types" (Value.list? TypeDef.ofValue?) []
    methods := ← fields.field? "methods" (Value.list? Method.ofValue?) []
    fields := ← fields.field? "fields" (Value.list? Field.ofValue?) []
    references := ← fields.field? "references" (Value.list? AssemblyRef.ofValue?) [] }

def toValue (g : Graph) : Value := .table [
  ("types", .ofList TypeDef.toValue g.types),
  ("methods", .ofList Method.toValue g.methods),
  ("fields", .ofList Field.toValue g.fields),
  ("references", .ofList AssemblyRef.toValue g.references)]

end Graph
end StubSource
