import StubSource.Metadata.Member

/-!
# Type definitions

A type lists its methods, fields and nested types by their positions in the graph. A nested type
has no namespace of its own; its definition points to the type around it.
-/

namespace StubSource
set_option autoImplicit false

inductive TypeKind where
  | classType
  | structType
  | interfaceType
  | enumType
  deriving DecidableEq, Repr, Inhabited

structure TypeDef where
  ns : String := ""
  name : String
  kind : TypeKind := .classType
  isAbstract : Bool := false
  isSealed : Bool := false
  baseType : Option TypeRef := none
  genericParameters : List GenericParameter := []
  interfaces : List TypeRef := []
  methods : List MethodId := []
  fields : List FieldId := []
  nestedTypes : List TypeId := []
  properties : List Property := []
  events : List Event := []
  attributes : List AttributeUse := []
  securityDeclarations : List SecurityDeclaration := []
  declaringType : Option TypeId := none
  deriving Repr, Inhabited

namespace TypeDef

/-- A class without members. -/
def ofClass (ns name : String) : TypeDef := { ns, name }

/-- A value type without members. -/
def ofStruct (ns name : String) : TypeDef := { ns, name, kind := .structType }

def asAbstract (t : TypeDef) : TypeDef := { t with isAbstract := true }

def asSealed (t : TypeDef) : TypeDef := { t with isSealed := true }

def extending (t : TypeDef) (base : TypeRef) : TypeDef := { t with baseType := some base }

def implementing (t : TypeDef) (interface : TypeRef) : TypeDef :=
  { t with interfaces := t.interfaces ++ [interface] }

def withGeneric (t : TypeDef) (p : GenericParameter) : TypeDef :=
  { t with genericParameters := t.genericParameters ++ [p] }

/-- A type that can be neither instantiated nor inherited holds only static members. -/
def isStatic (t : TypeDef) : Bool := t.isAbstract && t.isSealed

def fullName (t : TypeDef) : String := Name.qualify t.ns t.name

end TypeDef
end StubSource
