import StubSource.Metadata.TypeRef

/-!
# Members of a type

Methods and fields with all that hangs on them. Part of it only travels with the member and is
never written as source: bodies, overrides, attributes, native imports, marshalling, constraints.
-/

namespace StubSource
set_option autoImplicit false

/-- Position of a method in its graph. -/
structure MethodId where
  index : Nat
  deriving DecidableEq, Repr, Inhabited

/-- Position of a field in its graph. -/
structure FieldId where
  index : Nat
  deriving DecidableEq, Repr, Inhabited

instance : ToString MethodId := ⟨fun id => "method#" ++ id.index.repr⟩

instance : ToString FieldId := ⟨fun id => "field#" ++ id.index.repr⟩

/-- Who may use a member. The family is the type with its heirs. -/
inductive Visibility where
  | ownType
  | everyone
  | family
  | assembly
  | familyOrAssembly
  | familyAndAssembly
  deriving DecidableEq, Repr, Inhabited

/-- How a parameter or field is passed to native code. -/
structure Marshalling where
  nativeType : String
  deriving Repr, Inhabited

/-- The native function behind an external method. -/
structure NativeImport where
  library : String
  entryPoint : String
  deriving Repr, Inhabited

structure SecurityDeclaration where
  action : String
  deriving Repr, Inhabited

/-- An attribute with its arguments in written form. -/
structure AttributeUse where
  attributeType : TypeRef
  arguments : List String := []
  deriving Repr, Inhabited

/-- A method of some type, named where it is overridden. -/
structure MethodRef where
  declaringType : TypeRef
  name : String
  deriving Repr, Inhabited

structure GenericParameter where
  name : String
  constraints : List TypeRef := []
  deriving Repr, Inhabited

structure Parameter where
  name : String
  type : TypeRef
  /-- Set for a by-reference parameter that the method fills in. -/
  isOut : Bool := false
  marshalling : Option Marshalling := none
  deriving Repr, Inhabited

/-- A parameter that the method fills in. -/
def Parameter.out (name : String) (type : TypeRef) : Parameter :=
  { name, type := .byRef type, isOut := true }

structure Property where
  name : String
  type : TypeRef
  getter : Option MethodId := none
  setter : Option MethodId := none
  deriving Repr, Inhabited

structure Event where
  name : String
  type : TypeRef
  deriving Repr, Inhabited

structure MethodFlags where
  isStatic : Bool := false
  isVirtual : Bool := false
  isAbstract : Bool := false
  /-- Set when heirs may not override the method. -/
  isFinal : Bool := false
  isOverride : Bool := false
  isSpecialName : Bool := false
  deriving DecidableEq, Repr, Inhabited

/-- The size of a method's code; the code itself is not part of the graph. -/
structure MethodBody where
  codeSize : UInt32 := 0
  maxStack : UInt16 := 0
  initLocals : Bool := false
  deriving DecidableEq, Repr, Inhabited

structure Method where
  name : String
  declaringType : Option TypeId := none
  visibility : Visibility := .ownType
  flags : MethodFlags := {}
  parameters : List Parameter := []
  returnType : TypeRef := .void
  genericParameters : List GenericParameter := []
  body : Option MethodBody := some {}
  overrides : List MethodRef := []
  attributes : List AttributeUse := []
  nativeImport : Option NativeImport := none
  securityDeclarations : List SecurityDeclaration := []
  deriving Repr, Inhabited

namespace Method

/-- The metadata name of every instance constructor. -/
def constructorName : String := ".ctor"

/-- The metadata name of every type initialiser. -/
def initialiserName : String := ".cctor"

/-- A public method without parameters that returns nothing. -/
def ofName (name : String) : Method := { name, visibility := .everyone }

def constructor : Method :=
  { ofName constructorName with flags := { isSpecialName := true } }

def returning (m : Method) (type : TypeRef) : Method := { m with returnType := type }

def withParameter (m : Method) (p : Parameter) : Method :=
  { m with parameters := m.parameters ++ [p] }

def withGeneric (m : Method) (p : GenericParameter) : Method :=
  { m with genericParameters := m.genericParameters ++ [p] }

def withVisibility (m : Method) (v : Visibility) : Method := { m with visibility := v }

def asStatic (m : Method) : Method := { m with flags := { m.flags with isStatic := true } }

def asVirtual (m : Method) : Method := { m with flags := { m.flags with isVirtual := true } }

def asOverride (m : Method) : Method :=
  { m with flags := { m.flags with isVirtual := true, isOverride := true } }

/-- An abstract method is virtual and has no body. -/
def asAbstract (m : Method) : Method :=
  { m with flags := { m.flags with isVirtual := true, isAbstract := true }, body := none }

/-- Instance constructors and type initialisers. -/
def isConstructor (m : Method) : Bool :=
  m.name == constructorName || m.name == initialiserName

theorem isConstructor_iff {m : Method} :
    m.isConstructor ↔ m.name = ".ctor" ∨ m.name = ".cctor" := by
  rw [isConstructor, Bool.or_eq_true, beq_iff_eq, beq_iff_eq]
  rfl

def returnsVoid (m : Method) : Bool := m.returnType.isVoid

/-- A method that returns a value, which a constructor never does. -/
def isFunction (m : Method) : Bool := !m.isConstructor && !m.returnsVoid

end Method

structure Field where
  name : String
  declaringType : Option TypeId := none
  type : TypeRef
  visibility : Visibility := .ownType
  isStatic : Bool := false
  isReadOnly : Bool := false
  /-- A constant; its value is not part of the graph. -/
  isLiteral : Bool := false
  marshalling : Option Marshalling := none
  attributes : List AttributeUse := []
  deriving Repr, Inhabited

namespace Field

def withVisibility (f : Field) (v : Visibility) : Field := { f with visibility := v }

def asStatic (f : Field) : Field := { f with isStatic := true }

def asReadOnly (f : Field) : Field := { f with isReadOnly := true }

/-- A constant belongs to its type, not to an instance. -/
def asLiteral (f : Field) : Field := { f with isLiteral := true, isStatic := true }

end Field
end StubSource
