import Mathlib.Data.List.Basic
import StubSource.Proofs.Answers

/-!
# Scopes that agree

What is written of a member depends on the words of the dialect, on how names are shown, and on the
outlines of the types that the member mentions. Two scopes that agree on these write the member
alike, and they write the same source if they also find the same members and the same types around
them.
-/

namespace StubSource
set_option autoImplicit false

/-- What other definitions and the headers of blocks show of a type, and the type around it. -/
def TypeDef.outline (t : TypeDef) : TypeDef :=
  { ns := t.ns, name := t.name, kind := t.kind, isAbstract := t.isAbstract, isSealed := t.isSealed,
    genericParameters := t.genericParameters.map fun p => { name := p.name },
    declaringType := t.declaringType }

mutual

/-- The definitions that a reference points to, at any depth. -/
def TypeRef.definitions : TypeRef → List TypeId
  | .named _ _ arguments definition => definition.toList ++ TypeRef.definitionsOfAll arguments
  | .array element _ => element.definitions
  | .byRef element => element.definitions
  | .pointer element => element.definitions
  | .parameter _ => []

def TypeRef.definitionsOfAll : List TypeRef → List TypeId
  | [] => []
  | ref :: refs => ref.definitions ++ TypeRef.definitionsOfAll refs

end

def Method.definitions (m : Method) : List TypeId :=
  m.returnType.definitions ++ m.parameters.flatMap (·.type.definitions)

/-- All types that a method points to. -/
def Method.mentioned (m : Method) : List TypeId := m.declaringType.toList ++ m.definitions

namespace Graph

variable {α : Type} {g g' : Graph}

theorem bind_findMethod_congr {id : MethodId} {read read' : Method → Except Fault α}
    (found : g.method? id = g'.method? id) (same : ∀ m, g.method? id = some m → read m = read' m) :
    g.findMethod id >>= read = g'.findMethod id >>= read' := by
  rw [findMethod, findMethod, ← found]
  cases present : g.method? id with
  | none => rfl
  | some m => exact same m present

theorem bind_findField_congr {id : FieldId} {read read' : Field → Except Fault α}
    (found : g.field? id = g'.field? id) (same : ∀ f, g.field? id = some f → read f = read' f) :
    g.findField id >>= read = g'.findField id >>= read' := by
  rw [findField, findField, ← found]
  cases present : g.field? id with
  | none => rfl
  | some f => exact same f present

end Graph

theorem mapM_congr {α β : Type} {read read' : α → Except Fault β} {items : List α}
    (same : ∀ a ∈ items, read a = read' a) : items.mapM read = items.mapM read' := by
  induction items with
  | nil => rfl
  | cons a items ih =>
    rw [List.mapM_cons, List.mapM_cons, same a List.mem_cons_self,
      ih fun b mem => same b (List.mem_cons_of_mem a mem)]

namespace Scope

theorem genericParameters_outline (s : Scope) (ps : List GenericParameter) :
    s.genericParameters (ps.map fun p => { name := p.name }) = s.genericParameters ps := by
  simp only [genericParameters, List.map_map]
  rfl

theorem typeSignature_outline (s : Scope) (t : TypeDef) :
    s.typeSignature t.outline = s.typeSignature t := by
  rw [typeSignature, typeSignature, ← s.genericParameters_outline t.genericParameters]
  rfl

theorem typeBlock_outline (s : Scope) (t : TypeDef) : s.typeBlock t.outline = s.typeBlock t := by
  simp only [typeBlock, typeHeader, typeSignature_outline]
  rfl

/-- What a stub body puts behind a signature. -/
def stubText (s : Scope) (m : Method) (level : Nat) : String :=
  s.dialect.indent.linesAt level (s.stubLines m "")

structure AgreesOn (s s' : Scope) (known : TypeId → Prop) : Prop where
  /-- The aliases of a dialect are used only through the naming. -/
  dialect : ∃ aliases, s'.dialect = { s.dialect with aliases }
  resolve : ∀ name ns, s.naming.resolve name ns = s'.naming.resolve name ns
  outline : ∀ id, known id →
    (s.graph.type? id).map TypeDef.outline = (s'.graph.type? id).map TypeDef.outline

namespace AgreesOn

variable {s s' : Scope} {known : TypeId → Prop} (agrees : s.AgreesOn s' known)
include agrees

theorem indent : s.dialect.indent = s'.dialect.indent := by
  obtain ⟨aliases, same⟩ := agrees.dialect
  rw [same]

theorem safeName (name : String) : s.safeName name = s'.safeName name := by
  obtain ⟨aliases, same⟩ := agrees.dialect
  simp only [Scope.safeName, same]

theorem shownName (ns name : String) : s.shownName ns name = s'.shownName ns name :=
  agrees.resolve _ _

theorem typeName {t t' : TypeDef} (same : t.outline = t'.outline) :
    s.typeName t = s'.typeName t' := by
  calc s.typeName t = s'.typeName t.outline := agrees.shownName _ _
    _ = s'.typeName t'.outline := by rw [same]
    _ = s'.typeName t' := rfl

theorem exists_type? {id : TypeId} (inside : known id) {t : TypeDef}
    (found : s.graph.type? id = some t) :
    ∃ t', s'.graph.type? id = some t' ∧ t.outline = t'.outline := by
  have same := agrees.outline id inside
  rw [found, Option.map_some] at same
  obtain ⟨t', found', outline⟩ := Option.map_eq_some_iff.1 same.symm
  exact ⟨t', found', outline.symm⟩

theorem type?_eq_none {id : TypeId} (inside : known id) (absent : s.graph.type? id = none) :
    s'.graph.type? id = none := by
  have same := agrees.outline id inside
  rw [absent] at same
  exact Option.map_eq_none_iff.1 same.symm

theorem map_type? {α : Type} {shown shown' : TypeDef → α}
    (alike : ∀ t t', t.outline = t'.outline → shown t = shown' t') {id : TypeId}
    (inside : known id) : (s.graph.type? id).map shown = (s'.graph.type? id).map shown' := by
  cases found : s.graph.type? id with
  | none =>
    rw [agrees.type?_eq_none inside found]
    rfl
  | some t =>
    obtain ⟨t', found', same⟩ := agrees.exists_type? inside found
    rw [found', Option.map_some, Option.map_some, alike t t' same]

theorem definition? (ref : TypeRef) (inside : ∀ id ∈ ref.definitions, known id) :
    (s.definition? ref).map s.typeName = (s'.definition? ref).map s'.typeName := by
  unfold Scope.definition?
  split
  · exact agrees.map_type? (fun _ _ => agrees.typeName) (inside _ (by simp [TypeRef.definitions]))
  · rfl

mutual

theorem typeRef : ∀ ref : TypeRef, (∀ id ∈ ref.definitions, known id) →
    s.typeRef ref = s'.typeRef ref
  | .named ns name arguments _, inside => by
    obtain ⟨aliases, same⟩ := agrees.dialect
    have inner := typeArguments arguments
      fun id mem => inside id (by simp [TypeRef.definitions, mem])
    simp only [Scope.typeRef, agrees.shownName, inner, same]
  | .array element rank, inside => by
    obtain ⟨aliases, same⟩ := agrees.dialect
    simp only [Scope.typeRef, typeRef element inside, same]
  | .byRef element, inside => by
    obtain ⟨aliases, same⟩ := agrees.dialect
    simp only [Scope.typeRef, typeRef element inside, same]
  | .pointer element, inside => by
    obtain ⟨aliases, same⟩ := agrees.dialect
    simp only [Scope.typeRef, typeRef element inside, same]
  | .parameter name, _ => by
    simp only [Scope.typeRef, agrees.safeName]

theorem typeArguments : ∀ refs : List TypeRef, (∀ id ∈ TypeRef.definitionsOfAll refs, known id) →
    s.typeArguments refs = s'.typeArguments refs
  | [], _ => rfl
  | ref :: refs, inside => by
    simp only [TypeRef.definitionsOfAll, List.mem_append] at inside
    have first := typeRef ref fun id mem => inside id (.inl mem)
    have rest := typeArguments refs fun id mem => inside id (.inr mem)
    -- An argument is shown through its definition where there is one, and both scopes have one.
    have through := agrees.definition? ref fun id mem => inside id (.inl mem)
    rw [Scope.typeArguments, Scope.typeArguments, rest]
    cases found : s.definition? ref with
    | none =>
      cases found' : s'.definition? ref with
      | none => rw [first]
      | some t' => simp [found, found'] at through
    | some t =>
      cases found' : s'.definition? ref with
      | none => simp [found, found'] at through
      | some t' =>
        rw [found, found', Option.map_some, Option.map_some, Option.some.injEq] at through
        simp only [through]

end

theorem typedName (name type : String) : s.typedName name type = s'.typedName name type := by
  obtain ⟨aliases, same⟩ := agrees.dialect
  simp only [Scope.typedName, same]

theorem parameter (p : Parameter) (inside : ∀ id ∈ p.type.definitions, known id) :
    s.parameter p = s'.parameter p := by
  obtain ⟨aliases, same⟩ := agrees.dialect
  unfold Scope.parameter
  split
  · rename_i element byRef
    rw [byRef] at inside
    simp only [agrees.safeName, agrees.typedName, agrees.typeRef element inside, same]
  · simp only [agrees.safeName, agrees.typedName, agrees.typeRef p.type inside, same]

theorem parameters (ps : List Parameter)
    (inside : ∀ p ∈ ps, ∀ id ∈ p.type.definitions, known id) :
    s.parameters ps = s'.parameters ps := by
  obtain ⟨aliases, same⟩ := agrees.dialect
  have each : ps.map s.parameter = ps.map s'.parameter :=
    List.map_congr_left fun p mem => agrees.parameter p (inside p mem)
  simp only [Scope.parameters, each, same]

theorem genericParameters (ps : List GenericParameter) :
    s.genericParameters ps = s'.genericParameters ps := by
  obtain ⟨aliases, same⟩ := agrees.dialect
  simp only [Scope.genericParameters, agrees.safeName, same]

theorem visibility (v : Visibility) : s.visibility v = s'.visibility v := by
  obtain ⟨aliases, same⟩ := agrees.dialect
  cases v <;> simp only [Scope.visibility, same]

theorem field (f : Field) (inside : ∀ id ∈ f.type.definitions, known id) :
    s.field f = s'.field f := by
  obtain ⟨aliases, same⟩ := agrees.dialect
  simp only [Scope.field, agrees.visibility, agrees.typedName, agrees.safeName,
    agrees.typeRef f.type inside, same]

theorem methodModifiers (m : Method) : s.methodModifiers m = s'.methodModifiers m := by
  obtain ⟨aliases, same⟩ := agrees.dialect
  simp only [Scope.methodModifiers, agrees.visibility, same]

theorem constructorName (m : Method) (inside : ∀ id ∈ m.declaringType, known id) :
    s.constructorName m = s'.constructorName m := by
  obtain ⟨aliases, same⟩ := agrees.dialect
  simp only [Scope.constructorName, same]
  split
  · rfl
  · cases owned : m.declaringType with
    | none => simp only [Method.owner, owned, bind, Except.bind]
    | some owner =>
      have there := inside owner owned
      cases found : s.graph.type? owner with
      | none =>
        simp only [Method.owner, owned, bind, Except.bind, Graph.findType, found,
          agrees.type?_eq_none there found]
      | some t =>
        obtain ⟨t', found', outline⟩ := agrees.exists_type? there found
        have name : t.name = t'.name := (TypeDef.mk.inj outline).2.1
        simp only [Method.owner, owned, bind, Except.bind, Graph.findType, found, found', name,
          agrees.safeName]

theorem methodName (m : Method) (inside : ∀ id ∈ m.declaringType, known id) :
    s.methodName m = s'.methodName m := by
  rw [Scope.methodName, Scope.methodName, agrees.constructorName m inside, agrees.safeName]

theorem methodDeclaration (m : Method) (name : String)
    (inside : ∀ id ∈ m.mentioned, known id) :
    s.methodDeclaration m name = s'.methodDeclaration m name := by
  obtain ⟨aliases, same⟩ := agrees.dialect
  simp only [Method.mentioned, Method.definitions, List.mem_append, List.mem_flatMap] at inside
  have result := agrees.typeRef m.returnType fun id mem => inside id (.inr (.inl mem))
  have parameters := agrees.parameters m.parameters
    fun p member id mem => inside id (.inr (.inr ⟨p, member, mem⟩))
  simp only [Scope.methodDeclaration, agrees.genericParameters, result, parameters, same]

theorem signature (m : Method) (inside : ∀ id ∈ m.mentioned, known id) :
    s.signature m = s'.signature m := by
  have named := agrees.methodName m fun id mem => inside id (by simp_all [Method.mentioned])
  simp only [Scope.signature, agrees.methodModifiers, named, agrees.methodDeclaration m _ inside]

theorem returnDefault (type : TypeRef) (inside : ∀ id ∈ type.definitions, known id) :
    s.returnDefault type = s'.returnDefault type := by
  obtain ⟨aliases, same⟩ := agrees.dialect
  simp only [Scope.returnDefault, agrees.typeRef type inside, same]

theorem stubLines (m : Method) (signature : String) (inside : ∀ id ∈ m.mentioned, known id) :
    s.stubLines m signature = s'.stubLines m signature := by
  obtain ⟨aliases, same⟩ := agrees.dialect
  have value := agrees.returnDefault m.returnType
    fun id mem => inside id (by simp [Method.mentioned, Method.definitions, mem])
  simp only [Scope.stubLines, Scope.blockLines, value, same]

theorem methodLines (m : Method) (inside : ∀ id ∈ m.mentioned, known id) :
    s.methodLines m = s'.methodLines m := by
  rw [Scope.methodLines, Scope.methodLines, agrees.signature m inside]
  cases s'.signature m with
  | error fault => rfl
  | ok signature => exact congrArg Except.ok (agrees.stubLines m signature inside)

theorem typeSignature {t t' : TypeDef} (same : t.outline = t'.outline) :
    s.typeSignature t = s'.typeSignature t' := by
  rw [← s.typeSignature_outline, ← s'.typeSignature_outline, same]
  simp only [Scope.typeSignature, agrees.safeName, agrees.genericParameters]

theorem typeBlock {t t' : TypeDef} (same : t.outline = t'.outline) :
    s.typeBlock t = s'.typeBlock t' := by
  obtain ⟨aliases, words⟩ := agrees.dialect
  rw [← s.typeBlock_outline, ← s'.typeBlock_outline, same]
  have kind : s.kindWords t'.outline.kind = s'.kindWords t'.outline.kind := by
    cases t'.outline.kind <;> simp only [Scope.kindWords, words]
  simp only [Scope.typeBlock, Scope.typeHeader, Scope.typeModifier, kind,
    agrees.typeSignature (t := t'.outline) rfl, words]

theorem namespaceBlocks (ns : String) : s.namespaceBlocks ns = s'.namespaceBlocks ns := by
  obtain ⟨aliases, same⟩ := agrees.dialect
  simp only [Scope.namespaceBlocks, same]

theorem commentAt (depth : Nat) (text : String) :
    s.commentAt depth text = s'.commentAt depth text := by
  obtain ⟨aliases, same⟩ := agrees.dialect
  simp only [Scope.commentAt, same]

theorem preamble (references : List AssemblyRef) :
    s.preamble references = s'.preamble references := by
  obtain ⟨aliases, same⟩ := agrees.dialect
  simp only [Scope.preamble, agrees.commentAt, same]

theorem methodAt (depth : Nat) (m : Method) (inside : ∀ id ∈ m.mentioned, known id) :
    s.methodAt s.stubText depth m = s'.methodAt s'.stubText depth m := by
  simp only [Scope.methodAt, Scope.stubText, agrees.signature m inside,
    agrees.stubLines m "" inside, agrees.indent]

theorem membersAt (depth : Nat) (target : String) (stubs : List String) {fields : List Field}
    (inside : ∀ f ∈ fields, ∀ id ∈ f.type.definitions, known id) :
    s.membersAt depth target stubs fields = s'.membersAt depth target stubs fields := by
  obtain ⟨aliases, same⟩ := agrees.dialect
  have declared : (fields.map fun f => s.dialect.indent.lineAt depth (s.field f)) =
      fields.map fun f => s'.dialect.indent.lineAt depth (s'.field f) :=
    List.map_congr_left fun f mem => by rw [agrees.field f (inside f mem), agrees.indent]
  have notice : disclaimer.map (s.commentAt depth) = disclaimer.map (s'.commentAt depth) :=
    List.map_congr_left fun text _ => agrees.commentAt depth text
  simp only [Scope.membersAt, Scope.regionAt, declared, notice, agrees.commentAt, same]

end AgreesOn

/-- Scopes that agree, and find the same members in a type and the same types around it. -/
structure AgreesInside (s s' : Scope) (known : TypeId → Prop) (owner : TypeId) : Prop
    extends s.AgreesOn s' known where
  chain : s.graph.nestingChain owner = s'.graph.nestingChain owner
  chain_known : ∀ id ∈ s.graph.nestingChain owner, known id
  methods : s.graph.methodsOf owner = s'.graph.methodsOf owner
  methods_known : ∀ stub ∈ s.graph.methodsOf owner, ∀ id ∈ stub.2.mentioned, known id
  fields : s.graph.fieldsOf owner = s'.graph.fieldsOf owner
  fields_known : ∀ stub ∈ s.graph.fieldsOf owner, ∀ id ∈ stub.2.type.definitions, known id

namespace AgreesInside

variable {s s' : Scope} {known : TypeId → Prop} {owner : TypeId}
  (agrees : s.AgreesInside s' known owner)
include agrees

theorem effectiveNs : s.graph.effectiveNs owner = s'.graph.effectiveNs owner := by
  unfold Graph.effectiveNs
  rw [← agrees.chain]
  cases first : (s.graph.nestingChain owner).head? with
  | none => rfl
  | some id =>
    have there := agrees.chain_known id (List.mem_of_head? first)
    rw [Option.bind_some, Option.bind_some]
    cases found : s.graph.type? id with
    | none => rw [agrees.type?_eq_none there found]
    | some t =>
      obtain ⟨t', found', outline⟩ := agrees.exists_type? there found
      rw [found']
      exact (TypeDef.mk.inj outline).1

theorem map_typeBlock_shells :
    (s.shells owner).map s.typeBlock = (s'.shells owner).map s'.typeBlock := by
  rw [shells, shells, ← agrees.chain, List.map_filterMap, List.map_filterMap]
  apply List.filterMap_congr
  intro id mem
  exact agrees.map_type? (fun _ _ => agrees.typeBlock)
    (agrees.chain_known id (List.mem_filter.1 mem).1)

theorem blocksAround {t t' : TypeDef} (same : t.outline = t'.outline) :
    s.blocksAround owner t = s'.blocksAround owner t' := by
  rw [Scope.blocksAround, Scope.blocksAround, agrees.effectiveNs, agrees.namespaceBlocks,
    agrees.map_typeBlock_shells, agrees.typeBlock same]

theorem members (depth : Nat) (target : MethodId) (m : Method)
    (inside : ∀ id ∈ m.mentioned, known id) :
    s.members s.stubText depth m
        ((s.graph.methodsOf owner).filter fun stub => stub.1 ≠ target)
        (s.graph.fieldStubs owner) =
      s'.members s'.stubText depth m
        ((s'.graph.methodsOf owner).filter fun stub => stub.1 ≠ target)
        (s'.graph.fieldStubs owner) := by
  have stubs : ∀ stub ∈ (s.graph.methodsOf owner).filter fun stub => stub.1 ≠ target,
      s.methodAt s.stubText depth stub.2 = s'.methodAt s'.stubText depth stub.2 :=
    fun stub mem => agrees.methodAt depth stub.2
      (agrees.methods_known stub (List.mem_filter.1 mem).1)
  have fields : ∀ f ∈ (s.graph.fieldsOf owner).map Prod.snd,
      ∀ id ∈ f.type.definitions, known id := by
    intro f mem
    obtain ⟨stub, listed, rfl⟩ := List.mem_map.1 mem
    exact agrees.fields_known stub listed
  simp only [Scope.members, Graph.fieldStubs, agrees.methodAt depth m inside, mapM_congr stubs,
    agrees.membersAt depth _ _ fields]
  rw [agrees.methods, agrees.fields]

theorem sourceAround (target : MethodId) (m : Method) (inside : ∀ id ∈ m.mentioned, known id)
    {t t' : TypeDef} (same : t.outline = t'.outline) (references : List AssemblyRef) :
    s.sourceAround s.stubText target m owner t references =
      s'.sourceAround s'.stubText target m owner t' references := by
  simp only [Scope.sourceAround, agrees.blocksAround same, agrees.members _ target m inside,
    agrees.preamble, agrees.indent]

end AgreesInside

/-- Scopes that agree inside the type of a target write the same source for it. -/
theorem AgreesOn.sourceText {s s' : Scope} {known : TypeId → Prop} (agrees : s.AgreesOn s' known)
    {target : MethodId} (found : s.graph.method? target = s'.graph.method? target)
    (inside : ∀ m, s.graph.method? target = some m → ∀ id ∈ m.mentioned, known id)
    (around : ∀ m owner, s.graph.method? target = some m → m.declaringType = some owner →
      s.AgreesInside s' known owner) (references : List AssemblyRef) :
    s.sourceText s.stubText target references = s'.sourceText s'.stubText target references := by
  apply Graph.bind_findMethod_congr found
  intro m present
  cases owned : m.declaringType with
  | none => simp only [Method.owner, owned, bind, Except.bind]
  | some owner =>
    have there : known owner := inside m present owner (by simp [Method.mentioned, owned])
    simp only [Method.owner, owned, Graph.findType, bind, Except.bind]
    cases defined : s.graph.type? owner with
    | none => rw [agrees.type?_eq_none there defined]
    | some t =>
      obtain ⟨t', defined', outline⟩ := agrees.exists_type? there defined
      rw [defined']
      exact (around m owner present owned).sourceAround target m (inside m present) outline
        references

end Scope

namespace Renderer

variable {s s' : Scope} {known : TypeId → Prop}

theorem result_methodSignature_congr (agrees : s.AgreesOn s' known) {id : MethodId}
    (found : s.graph.method? id = s'.graph.method? id)
    (inside : ∀ m, s.graph.method? id = some m → ∀ t ∈ m.mentioned, known t) (body : BodyWriter) :
    ((Renderer.mk s body).methodSignature id).result =
      ((Renderer.mk s' body).methodSignature id).result := by
  rw [result_methodSignature, result_methodSignature]
  exact Graph.bind_findMethod_congr found fun m present => agrees.signature m (inside m present)

theorem result_method_congr (agrees : s.AgreesOn s' known) {id : MethodId}
    (found : s.graph.method? id = s'.graph.method? id)
    (inside : ∀ m, s.graph.method? id = some m → ∀ t ∈ m.mentioned, known t) :
    ((Renderer.mk s Scope.stubBody).method id).result =
      ((Renderer.mk s' Scope.stubBody).method id).result := by
  rw [result_method, result_method]
  apply Graph.bind_findMethod_congr found
  intro m present
  rw [agrees.methodLines m (inside m present), agrees.indent]

theorem result_field_congr (agrees : s.AgreesOn s' known) {id : FieldId}
    (found : s.graph.field? id = s'.graph.field? id)
    (inside : ∀ f, s.graph.field? id = some f → ∀ t ∈ f.type.definitions, known t)
    (body : BodyWriter) :
    ((Renderer.mk s body).field id).result = ((Renderer.mk s' body).field id).result := by
  rw [result_field, result_field]
  apply Graph.bind_findField_congr found
  intro f present
  rw [agrees.field f (inside f present)]

theorem result_typeSignature_congr (agrees : s.AgreesOn s' known) {id : TypeId} (inside : known id)
    (body : BodyWriter) :
    ((Renderer.mk s body).typeSignature id).result =
      ((Renderer.mk s' body).typeSignature id).result := by
  rw [result_typeSignature, result_typeSignature, Graph.findType, Graph.findType]
  cases present : s.graph.type? id with
  | none => simp only [agrees.type?_eq_none inside present, bind, Except.bind]
  | some t =>
    obtain ⟨t', present', outline⟩ := agrees.exists_type? inside present
    simp only [present', agrees.typeSignature outline, bind, Except.bind]

theorem result_source_congr (agrees : s.AgreesOn s' known) {target : MethodId}
    (found : s.graph.method? target = s'.graph.method? target)
    (inside : ∀ m, s.graph.method? target = some m → ∀ id ∈ m.mentioned, known id)
    (around : ∀ m owner, s.graph.method? target = some m → m.declaringType = some owner →
      s.AgreesInside s' known owner) (references : List AssemblyRef) :
    ((Renderer.mk s Scope.stubBody).source target references).result =
      ((Renderer.mk s' Scope.stubBody).source target references).result := by
  rw [result_source _ s.stubBody_levelDetermined, result_source _ s'.stubBody_levelDetermined]
  exact agrees.sourceText found inside around references

end Renderer
end StubSource
