import StubSource.Document.Graph
import StubSource.Writing.Method

/-!
# Elements of metadata

Anything that a walk through the metadata may come upon, alone or in a list. Some elements are
written as source; the others are passed over, which is noted in the journal.
-/

namespace StubSource
set_option autoImplicit false

inductive Element where
  | typeDefinition (t : TypeDef)
  | typeReference (r : TypeRef)
  | method (m : Method)
  | field (f : Field)
  | parameter (p : Parameter)
  | parameters (ps : List Parameter)
  | genericParameter (p : GenericParameter)
  | genericParameters (ps : List GenericParameter)
  | attribute (a : AttributeUse)
  | attributes (as : List AttributeUse)
  | securityDeclaration (d : SecurityDeclaration)
  | securityDeclarations (ds : List SecurityDeclaration)
  | overridden (r : MethodRef)
  | overriddens (rs : List MethodRef)
  | interface (r : TypeRef)
  | interfaces (rs : List TypeRef)
  | nestedType (id : TypeId)
  | nestedTypes (ids : List TypeId)
  | property (p : Property)
  | properties (ps : List Property)
  | event (e : Event)
  | events (es : List Event)
  | constructor (m : Method)
  | constructors (ms : List Method)
  | nativeImport (n : NativeImport)
  | marshalling (m : Marshalling)

namespace Element

/-- What kind of element it is, in words. -/
def label : Element → String
  | .typeDefinition _ => "type definition"
  | .typeReference _ => "type reference"
  | .method _ => "method"
  | .field _ => "field"
  | .parameter _ => "parameter"
  | .parameters _ => "parameters"
  | .genericParameter _ => "generic parameter"
  | .genericParameters _ => "generic parameters"
  | .attribute _ => "custom attribute"
  | .attributes _ => "custom attributes"
  | .securityDeclaration _ => "security declaration"
  | .securityDeclarations _ => "security declarations"
  | .overridden _ => "override"
  | .overriddens _ => "overrides"
  | .interface _ => "interface"
  | .interfaces _ => "interfaces"
  | .nestedType _ => "nested type"
  | .nestedTypes _ => "nested types"
  | .property _ => "property"
  | .properties _ => "properties"
  | .event _ => "event"
  | .events _ => "events"
  | .constructor _ => "constructor"
  | .constructors _ => "constructors"
  | .nativeImport _ => "pinvoke info"
  | .marshalling _ => "marshal spec"

/-- The reader for elements of a kind, by the name of the kind in documents. -/
def reader? : String → Option (Value → Option Element)
  | "type_definition" => some fun v => (TypeDef.ofValue? v).map .typeDefinition
  | "type_reference" => some fun v => (TypeRef.ofValue? v).map .typeReference
  | "method" => some fun v => (Method.ofValue? v).map .method
  | "field" => some fun v => (Field.ofValue? v).map .field
  | "parameter" => some fun v => (Parameter.ofValue? v).map .parameter
  | "parameters" => some fun v => (v.list? Parameter.ofValue?).map .parameters
  | "generic_parameter" => some fun v => (GenericParameter.ofValue? v).map .genericParameter
  | "generic_parameters" => some fun v => (v.list? GenericParameter.ofValue?).map .genericParameters
  | "custom_attribute" => some fun v => (AttributeUse.ofValue? v).map .attribute
  | "custom_attributes" => some fun v => (v.list? AttributeUse.ofValue?).map .attributes
  | "security_declaration" =>
    some fun v => (SecurityDeclaration.ofValue? v).map .securityDeclaration
  | "security_declarations" =>
    some fun v => (v.list? SecurityDeclaration.ofValue?).map .securityDeclarations
  | "override" => some fun v => (MethodRef.ofValue? v).map .overridden
  | "overrides" => some fun v => (v.list? MethodRef.ofValue?).map .overriddens
  | "interface" => some fun v => (TypeRef.ofValue? v).map .interface
  | "interfaces" => some fun v => (v.list? TypeRef.ofValue?).map .interfaces
  | "nested_type" => some fun v => (TypeId.ofValue? v).map .nestedType
  | "nested_types" => some fun v => (v.list? TypeId.ofValue?).map .nestedTypes
  | "property" => some fun v => (Property.ofValue? v).map .property
  | "properties" => some fun v => (v.list? Property.ofValue?).map .properties
  | "event" => some fun v => (Event.ofValue? v).map .event
  | "events" => some fun v => (v.list? Event.ofValue?).map .events
  | "constructor" => some fun v => (Method.ofValue? v).map .constructor
  | "constructors" => some fun v => (v.list? Method.ofValue?).map .constructors
  | "pinvoke_info" => some fun v => (NativeImport.ofValue? v).map .nativeImport
  | "marshal_spec" => some fun v => (Marshalling.ofValue? v).map .marshalling
  | _ => none

end Element

namespace Scope

open Write

/-- Writes an element, or passes over it. -/
def visit (s : Scope) : Element → Write Unit
  | .typeDefinition t => s.writeTypeSignature t
  | .typeReference r => s.writeTypeRef r
  | .method m => s.writeSignature m
  | .field f => s.writeField f
  | .parameter p => s.writeParameter p
  | .parameters ps => s.writeParameters ps
  | .genericParameter p => push (s.safeName p.name)
  | .genericParameters ps => s.writeGenericParameters ps
  | other => note .trace ("no writer for " ++ other.label ++ " nodes, skipping")

/-- Writes an element as an item of a list, where a type definition stands for its name. -/
def visitItem (s : Scope) : Element → Write Unit
  | .typeDefinition t => s.writeTypeName t
  | other => s.visit other

/-- Writes a list of elements in brackets, which may be left out of an empty list. -/
def visitAll (s : Scope) (brackets : Brackets) (separator : String) (always : Bool)
    (items : List Element) : Write Unit :=
  enclosed brackets separator always (items.map s.visitItem)

end Scope
end StubSource
