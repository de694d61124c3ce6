import StubSource.Renderer
import StubSource.Proofs.Agreement
import StubSource.Proofs.Nesting

/-!
# What is never written

Part of a graph only travels with it: what a type descends from and lists beside its methods and
fields, the bodies of methods and what they override, attributes, marshalling, constraints. A
renderer gives the same outcome with that part taken away, for every request.
-/

namespace StubSource
set_option autoImplicit false

/-! ## The part of a graph that is written -/

def GenericParameter.stripped (p : GenericParameter) : GenericParameter :=
  { p with constraints := [] }

def Parameter.stripped (p : Parameter) : Parameter := { p with marshalling := none }

/-- Whether a method is abstract stays, and it decides alone whether there is a block. -/
def Method.stripped (m : Method) : Method :=
  { m with
    flags := { m.flags with isSpecialName := false }
    parameters := m.parameters.map Parameter.stripped
    genericParameters := m.genericParameters.map GenericParameter.stripped
    body := none
    overrides := []
    attributes := []
    nativeImport := none
    securityDeclarations := [] }

/-- A field is found through its type, and its own way back is not taken. -/
def Field.stripped (f : Field) : Field :=
  { f with declaringType := none, marshalling := none, attributes := [] }

def TypeDef.stripped (t : TypeDef) : TypeDef :=
  { t with
    baseType := none
    genericParameters := t.genericParameters.map GenericParameter.stripped
    interfaces := []
    nestedTypes := []
    properties := []
    events := []
    attributes := []
    securityDeclarations := [] }

theorem TypeDef.outline_stripped (t : TypeDef) : t.stripped.outline = t.outline := by
  simp [outline, stripped, GenericParameter.stripped]

namespace Graph

def stripped (g : Graph) : Graph :=
  { g with
    types := g.types.map TypeDef.stripped
    methods := g.methods.map Method.stripped
    fields := g.fields.map Field.stripped }

variable (g : Graph)

@[simp] theorem type?_stripped (id : TypeId) :
    g.stripped.type? id = (g.type? id).map TypeDef.stripped :=
  List.getElem?_map

@[simp] theorem method?_stripped (id : MethodId) :
    g.stripped.method? id = (g.method? id).map Method.stripped :=
  List.getElem?_map

@[simp] theorem field?_stripped (id : FieldId) :
    g.stripped.field? id = (g.field? id).map Field.stripped :=
  List.getElem?_map

theorem findType_stripped (id : TypeId) :
    g.stripped.findType id = (g.findType id).map TypeDef.stripped := by
  rw [findType, findType, type?_stripped]
  cases g.type? id <;> rfl

theorem findMethod_stripped (id : MethodId) :
    g.stripped.findMethod id = (g.findMethod id).map Method.stripped := by
  rw [findMethod, findMethod, method?_stripped]
  cases g.method? id <;> rfl

theorem findField_stripped (id : FieldId) :
    g.stripped.findField id = (g.findField id).map Field.stripped := by
  rw [findField, findField, field?_stripped]
  cases g.field? id <;> rfl

theorem nestingChain_stripped (id : TypeId) : g.stripped.nestingChain id = g.nestingChain id := by
  have inside (id : TypeId) :
      (g.stripped.type? id).map (·.declaringType) = (g.type? id).map (·.declaringType) := by
    rw [type?_stripped, Option.map_map]
    rfl
  have walk (steps : Nat) : g.stripped.outward steps id = g.outward steps id :=
    outward_congr (fun id (_ : True) => inside id) (fun _ _ _ _ => trivial) steps trivial
  have size : g.stripped.types.length = g.types.length := List.length_map ..
  rw [nestingChain, nestingChain, walk, size]

theorem effectiveNs_stripped (id : TypeId) : g.stripped.effectiveNs id = g.effectiveNs id := by
  rw [effectiveNs, effectiveNs, nestingChain_stripped]
  cases (g.nestingChain id).head? with
  | none => rfl
  | some outermost =>
    rw [Option.bind_some, Option.bind_some, type?_stripped]
    cases g.type? outermost <;> rfl

theorem methodsOf_stripped (id : TypeId) :
    g.stripped.methodsOf id = (g.methodsOf id).map fun stub => (stub.1, stub.2.stripped) := by
  rw [methodsOf, methodsOf, type?_stripped]
  cases g.type? id with
  | none => rfl
  | some t =>
    simp only [Option.map_some, method?_stripped, List.map_filterMap, Option.map_map]
    rfl

theorem fieldsOf_stripped (id : TypeId) :
    g.stripped.fieldsOf id = (g.fieldsOf id).map fun stub => (stub.1, stub.2.stripped) := by
  rw [fieldsOf, fieldsOf, type?_stripped]
  cases g.type? id with
  | none => rfl
  | some t =>
    simp only [Option.map_some, field?_stripped, List.map_filterMap, Option.map_map]
    rfl

theorem methodStubs_stripped (target : MethodId) :
    g.stripped.methodStubs target =
      (g.methodStubs target).map (List.map fun stub => (stub.1, stub.2.stripped)) := by
  rw [methodStubs, methodStubs, findMethod_stripped]
  cases g.findMethod target with
  | error fault => rfl
  | ok m =>
    show (m.owner >>= fun owner =>
        pure ((g.stripped.methodsOf owner).filter fun stub => stub.1 ≠ target)) =
      (m.owner >>= fun owner => pure ((g.methodsOf owner).filter fun stub => stub.1 ≠ target)).map _
    cases m.owner with
    | error fault => rfl
    | ok owner =>
      have kept : (g.stripped.methodsOf owner).filter (fun stub => stub.1 ≠ target) =
          ((g.methodsOf owner).filter fun stub => stub.1 ≠ target).map
            fun stub => (stub.1, stub.2.stripped) := by
        rw [methodsOf_stripped, List.filter_map]
        rfl
      exact congrArg Except.ok kept

end Graph

theorem Write.require_map_bind {α β : Type} (found : Except Fault α) (change : α → β)
    (next : β → Write Unit) :
    (require (found.map change) >>= next) = require found >>= fun a => next (change a) := by
  cases found <;> rfl

theorem Write.forM_map {α β : Type} (items : List α) (change : α → β) (write : β → Write Unit) :
    (items.map change).forM write = items.forM fun a => write (change a) :=
  List.forM_map

namespace Scope

open Write

/-! ## Texts in a stripped scope -/

/-- The scope with only that part of its graph that is written. -/
def stripped (s : Scope) : Scope := { s with graph := s.graph.stripped }

variable (s : Scope)

theorem agreesOn_stripped : s.stripped.AgreesOn s fun _ => True where
  dialect := ⟨s.dialect.aliases, rfl⟩
  resolve _ _ := rfl
  outline id _ := by
    show (s.graph.stripped.type? id).map TypeDef.outline = _
    rw [Graph.type?_stripped, Option.map_map]
    exact congrArg (fun shown => (s.graph.type? id).map shown) (funext TypeDef.outline_stripped)

theorem genericParameters_stripped (ps : List GenericParameter) :
    s.genericParameters (ps.map GenericParameter.stripped) = s.genericParameters ps := by
  rw [genericParameters, genericParameters, List.map_map]
  rfl

theorem parameters_stripped (ps : List Parameter) :
    s.parameters (ps.map Parameter.stripped) = s.parameters ps := by
  rw [parameters, parameters, List.map_map]
  rfl

theorem field_stripped (f : Field) : s.stripped.field f.stripped = s.field f :=
  s.agreesOn_stripped.field f.stripped fun _ _ => trivial

theorem methodModifiers_stripped (m : Method) :
    s.stripped.methodModifiers m.stripped = s.methodModifiers m :=
  s.agreesOn_stripped.methodModifiers m.stripped

theorem methodName_stripped (m : Method) : s.stripped.methodName m.stripped = s.methodName m :=
  s.agreesOn_stripped.methodName m.stripped fun _ _ => trivial

theorem methodDeclaration_stripped (m : Method) (name : String) :
    s.stripped.methodDeclaration m.stripped name = s.methodDeclaration m name := by
  rw [s.agreesOn_stripped.methodDeclaration m.stripped name fun _ _ => trivial, methodDeclaration,
    methodDeclaration, ← s.genericParameters_stripped m.genericParameters,
    ← s.parameters_stripped m.parameters]
  rfl

theorem returnDefault_stripped (type : TypeRef) :
    s.stripped.returnDefault type = s.returnDefault type :=
  s.agreesOn_stripped.returnDefault type fun _ _ => trivial

theorem typeSignature_stripped (t : TypeDef) :
    s.stripped.typeSignature t.stripped = s.typeSignature t :=
  s.agreesOn_stripped.typeSignature t.outline_stripped

theorem typeHeader_stripped (t : TypeDef) : s.stripped.typeHeader t.stripped = s.typeHeader t := by
  rw [typeHeader, typeHeader, typeSignature_stripped]
  rfl

theorem findShells_stripped (owner : TypeId) :
    s.stripped.findShells owner = (s.findShells owner).map (List.map TypeDef.stripped) := by
  have shells : s.stripped.shells owner = (s.shells owner).map TypeDef.stripped := by
    show ((s.graph.stripped.nestingChain owner).filter fun id => id ≠ owner).filterMap
      s.graph.stripped.type? = _
    rw [Graph.nestingChain_stripped, Scope.shells, List.map_filterMap]
    exact List.filterMap_congr fun id _ => s.graph.type?_stripped id
  rw [findShells_eq, findShells_eq, shells]
  rfl

/-! ## Writers in a stripped scope -/

theorem writeSignature_stripped (m : Method) :
    s.stripped.writeSignature m.stripped = s.writeSignature m := by
  simp only [writeSignature, methodModifiers_stripped, methodName_stripped, writeDeclaration_eq,
    methodDeclaration_stripped]

theorem stubBody_stripped (m : Method) : stubBody s.stripped m.stripped = stubBody s m := by
  simp only [stubBody, writeReturnDefault_eq, returnDefault_stripped]
  rfl

theorem writeMethod_stripped (m : Method) :
    s.stripped.writeMethod stubBody m.stripped = s.writeMethod stubBody m := by
  rw [writeMethod, writeMethod, writeSignature_stripped, stubBody_stripped]

theorem writeMethodStubs_stripped (target : MethodId) :
    s.stripped.writeMethodStubs stubBody target = s.writeMethodStubs stubBody target := by
  have stubs : s.stripped.graph.methodStubs target = (s.graph.methodStubs target).map
      (List.map fun stub => (stub.1, stub.2.stripped)) := s.graph.methodStubs_stripped target
  simp only [writeMethodStubs, stubs, require_map_bind, List.length_map, forM_map,
    writeMethod_stripped]
  rfl

theorem writeFieldStubs_stripped (owner : TypeId) :
    s.stripped.writeFieldStubs owner = s.writeFieldStubs owner := by
  have stubs : s.stripped.graph.fieldStubs owner =
      (s.graph.fieldStubs owner).map fun stub => (stub.1, stub.2.stripped) :=
    s.graph.fieldsOf_stripped owner
  simp only [writeFieldStubs, stubs, List.length_map, forM_map, writeField_eq, field_stripped]
  rfl

theorem openType_stripped (t : TypeDef) : s.stripped.openType t.stripped = s.openType t := by
  rw [openType, openType, writeTypeHeader_eq, writeTypeHeader_eq, typeHeader_stripped]
  rfl

theorem closeType_stripped (t : TypeDef) : s.stripped.closeType t.stripped = s.closeType t := rfl

theorem writeEnclosingType_stripped (target : MethodId) :
    s.stripped.writeEnclosingType stubBody target = s.writeEnclosingType stubBody target := by
  have found : s.stripped.graph.findMethod target =
      (s.graph.findMethod target).map Method.stripped := s.graph.findMethod_stripped target
  have defined (owner : TypeId) : s.stripped.graph.findType owner =
      (s.graph.findType owner).map TypeDef.stripped := s.graph.findType_stripped owner
  have owned (m : Method) : m.stripped.owner = m.owner := rfl
  simp only [writeEnclosingType, found, defined, owned, findShells_stripped, require_map_bind,
    ← List.map_reverse, forM_map, openType_stripped, closeType_stripped, writeMethod_stripped,
    writeMethodStubs_stripped, writeFieldStubs_stripped]
  rfl

theorem writeSource_stripped (target : MethodId) (owner : TypeId)
    (references : List AssemblyRef) :
    s.stripped.writeSource stubBody target owner references =
      s.writeSource stubBody target owner references := by
  have ns : s.stripped.graph.effectiveNs owner = s.graph.effectiveNs owner :=
    s.graph.effectiveNs_stripped owner
  rw [writeSource, writeSource, writeEnclosingType_stripped, ns]
  rfl

end Scope

namespace Renderer

open Write

/-- What is stripped off a graph shows in no answer and in no note that goes with it: every request
has the same outcome on a graph and on what is written of it. -/
theorem stripped_never_shows (g : Graph) (d : Dialect) (naming : Naming) :
    let r : Renderer := ⟨⟨g, d, naming⟩, Scope.stubBody⟩
    let r' : Renderer := ⟨⟨g.stripped, d, naming⟩, Scope.stubBody⟩
    (∀ id, r.methodSignature id = r'.methodSignature id) ∧
    (∀ id, r.method id = r'.method id) ∧
    (∀ id, r.field id = r'.field id) ∧
    (∀ id, r.typeSignature id = r'.typeSignature id) ∧
    ∀ target references, r.source target references = r'.source target references := by
  let s : Scope := ⟨g, d, naming⟩
  -- Both renderers start on the same blank sheet, so it is enough to compare what they write.
  have answered {w w' : Write Unit} (same : w' = w) : (Renderer.mk s Scope.stubBody).answer w =
      (Renderer.mk s.stripped Scope.stubBody).answer w' := by
    rw [same]
    rfl
  refine ⟨fun id => answered ?_, fun id => answered ?_, fun id => answered ?_,
    fun id => answered ?_, fun target references => answered ?_⟩
  · rw [g.findMethod_stripped, require_map_bind]
    exact bind_congr fun m => bind_congr fun _ => s.writeSignature_stripped m
  · rw [g.findMethod_stripped, require_map_bind]
    exact bind_congr fun m => bind_congr fun _ => s.writeMethod_stripped m
  · rw [g.findField_stripped, require_map_bind]
    refine bind_congr fun f => bind_congr fun _ => ?_
    rw [Scope.writeField_eq, Scope.writeField_eq]
    exact congrArg push (s.field_stripped f)
  · rw [g.findType_stripped, require_map_bind]
    refine bind_congr fun t => bind_congr fun _ => ?_
    rw [Scope.writeTypeSignature_eq, Scope.writeTypeSignature_eq]
    exact congrArg push (s.typeSignature_stripped t)
  · rw [g.findMethod_stripped, require_map_bind]
    refine bind_congr fun m => bind_congr fun owner => ?_
    rw [g.findType_stripped, require_map_bind]
    exact bind_congr fun t => bind_congr fun _ => s.writeSource_stripped target owner references

end Renderer
end StubSource
