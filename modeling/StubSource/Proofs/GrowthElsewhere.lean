import StubSource.Dialect.VisualBasic
import StubSource.Proofs.Agreement
import StubSource.Proofs.Growth
import StubSource.Proofs.Nesting

/-!
# Growing a graph elsewhere

Additions keep what is there at its position. They change the members of the type that they go into
and nothing that is shown of any type. So in a graph whose positions all lead somewhere and whose
nesting is not cyclic, the text of a member stays the same whatever is added, and the source for a
method stays the same if nothing is added to the methods and fields of its type.
-/

namespace StubSource
set_option autoImplicit false

/-- The type that gets a new method or field. -/
def Addition.memberHost? : Addition → Option TypeId
  | .method owner _ | .field owner _ => some owner
  | .type _ | .nestedType .. | .reference _ => none

namespace Graph

/-- What the members and types of a graph point to is there. -/
structure Closed (g : Graph) : Prop where
  listed : ∀ kind id, ∀ i ∈ g.listed kind id, i < (g.owners kind).length
  owners : ∀ kind (id : TypeId), some id ∈ g.owners kind → id.index < g.types.length
  methods : ∀ m ∈ g.methods, ∀ id ∈ m.definitions, id.index < g.types.length
  fields : ∀ f ∈ g.fields, ∀ id ∈ f.type.definitions, id.index < g.types.length

theorem Complete.acyclic {g : Graph} (complete : g.Complete) : g.Acyclic := by
  apply acyclic_of_outer_lt
  rintro id outer ⟨t, found, stands⟩
  apply complete.outer_lt outer id.index
  rw [owners, List.getElem?_map]
  exact Option.map_eq_some_iff.2 ⟨t, found, stands⟩

/-- In a graph that was built in order, only type references can lead nowhere. -/
theorem Complete.closed {g : Graph} (complete : g.Complete) (linked : g.Linked)
    (methods : ∀ m ∈ g.methods, ∀ id ∈ m.definitions, id.index < g.types.length)
    (fields : ∀ f ∈ g.fields, ∀ id ∈ f.type.definitions, id.index < g.types.length) :
    g.Closed where
  listed := fun kind id i mem =>
    (List.getElem?_eq_some_iff.1 (linked.pointsBack kind id i mem)).1
  owners := by
    intro kind id mem
    obtain ⟨i, points⟩ := List.mem_iff_getElem?.1 mem
    obtain ⟨t, found⟩ := Option.isSome_iff_exists.1
      (isSome_type?_of_mem_listed (complete.mem_listed points))
    exact (List.getElem?_eq_some_iff.1 found).1
  methods := methods
  fields := fields

theorem map_type?_modifyType {α : Type} {shown : TypeDef → α} (g : Graph) {host id : TypeId}
    {change : TypeDef → TypeDef} (kept : host = id → ∀ t, shown (change t) = shown t) :
    ((g.modifyType host change).type? id).map shown = (g.type? id).map shown := by
  simp only [type?, modifyType, List.getElem?_modify]
  by_cases here : host = id
  · subst here
    cases g.types[host.index]? <;> simp [kept rfl]
  · have apart : host.index ≠ id.index := fun same => here (by cases host; cases id; simp_all)
    simp [apart]

theorem type?_addType (g : Graph) (t : TypeDef) {id : TypeId} (inside : id.index < g.types.length) :
    (g.addType t).type? id = g.type? id :=
  List.getElem?_append_left inside

/-- An addition changes the list of nested types of a type, and its methods and fields if it adds
one to them. -/
theorem map_type?_grow {α : Type} {shown : TypeDef → α} (g : Graph) (a : Addition) {id : TypeId}
    (inside : id.index < g.types.length)
    (nested : ∀ t ids, shown { t with nestedTypes := ids } = shown t)
    (members : a.memberHost? = some id → ∀ t ms fs,
      shown { t with methods := ms, fields := fs } = shown t) :
    ((g.grow a).type? id).map shown = (g.type? id).map shown := by
  cases a with
  | type t => rw [grow, type?_addType g t inside]
  | nestedType outer t =>
    rw [grow, addNestedType, map_type?_modifyType _ fun _ t => nested t _, type?_addType g _ inside]
  | method owner m =>
    rw [grow, addMethod, map_type?_modifyType]
    · rfl
    · intro here t
      exact members (congrArg some here) t _ t.fields
  | field owner f =>
    rw [grow, addField, map_type?_modifyType]
    · rfl
    · intro here t
      exact members (congrArg some here) t t.methods _
  | reference r => rfl

/-- `g'` has what `g` has at the same positions, and the types in `kept` have the same members. -/
structure Extends (g g' : Graph) (kept : TypeId → Prop) : Prop where
  types : g.types.length ≤ g'.types.length
  methods : g.methods <+: g'.methods
  fields : g.fields <+: g'.fields
  outline : ∀ id : TypeId, id.index < g.types.length →
    (g.type? id).map TypeDef.outline = (g'.type? id).map TypeDef.outline
  members : ∀ id : TypeId, id.index < g.types.length → kept id →
    (g.type? id).map (fun t => (t.methods, t.fields)) =
      (g'.type? id).map fun t => (t.methods, t.fields)

theorem Extends.refl (g : Graph) (kept : TypeId → Prop) : g.Extends g kept :=
  ⟨Nat.le_refl _, List.prefix_rfl, List.prefix_rfl, fun _ _ => rfl, fun _ _ _ => rfl⟩

theorem Extends.trans {g g' g'' : Graph} {kept : TypeId → Prop} (first : g.Extends g' kept)
    (second : g'.Extends g'' kept) : g.Extends g'' kept where
  types := Nat.le_trans first.types second.types
  methods := first.methods.trans second.methods
  fields := first.fields.trans second.fields
  outline := fun id inside =>
    (first.outline id inside).trans (second.outline id (Nat.lt_of_lt_of_le inside first.types))
  members := fun id inside apart =>
    (first.members id inside apart).trans
      (second.members id (Nat.lt_of_lt_of_le inside first.types) apart)

theorem methods_prefix_grow (g : Graph) (a : Addition) : g.methods <+: (g.grow a).methods := by
  cases a with
  | method owner m => exact List.prefix_append _ _
  | type t => exact List.prefix_rfl
  | nestedType outer t => exact List.prefix_rfl
  | field owner f => exact List.prefix_rfl
  | reference r => exact List.prefix_rfl

theorem fields_prefix_grow (g : Graph) (a : Addition) : g.fields <+: (g.grow a).fields := by
  cases a with
  | field owner f => exact List.prefix_append _ _
  | type t => exact List.prefix_rfl
  | nestedType outer t => exact List.prefix_rfl
  | method owner m => exact List.prefix_rfl
  | reference r => exact List.prefix_rfl

theorem extends_grow (g : Graph) {a : Addition} {kept : TypeId → Prop}
    (elsewhere : ∀ id, kept id → a.memberHost? ≠ some id) : g.Extends (g.grow a) kept where
  types := by
    rw [length_types_grow]
    omega
  methods := methods_prefix_grow g a
  fields := fields_prefix_grow g a
  outline := fun id inside =>
    (map_type?_grow g a inside (fun _ _ => rfl) fun _ _ _ _ => rfl).symm
  members := fun id inside apart =>
    (map_type?_grow g a inside (fun _ _ => rfl) fun host => absurd host (elsewhere id apart)).symm

theorem extends_growAll (g : Graph) {additions : List Addition} {kept : TypeId → Prop}
    (elsewhere : ∀ a ∈ additions, ∀ id, kept id → a.memberHost? ≠ some id) :
    g.Extends (g.growAll additions) kept := by
  induction additions generalizing g with
  | nil => exact .refl g kept
  | cons a later ih =>
    exact (extends_grow g (elsewhere a List.mem_cons_self)).trans
      (ih (g.grow a) fun b mem => elsewhere b (List.mem_cons_of_mem a mem))

namespace Extends

variable {g g' : Graph} {kept : TypeId → Prop} (ext : g.Extends g' kept)
include ext

theorem method? (id : MethodId) (inside : id.index < g.methods.length) :
    g.method? id = g'.method? id := by
  obtain ⟨later, grown⟩ := ext.methods
  rw [Graph.method?, Graph.method?, ← grown, List.getElem?_append_left inside]

theorem field? (id : FieldId) (inside : id.index < g.fields.length) :
    g.field? id = g'.field? id := by
  obtain ⟨later, grown⟩ := ext.fields
  rw [Graph.field?, Graph.field?, ← grown, List.getElem?_append_left inside]

theorem listed {id : TypeId} (inside : id.index < g.types.length) (apart : kept id)
    {kind : MemberKind} (member : kind ≠ .nestedType) : g.listed kind id = g'.listed kind id := by
  have same := ext.members id inside apart
  unfold Graph.listed
  cases found : g.type? id with
  | none =>
    rw [found] at same
    rw [Option.map_eq_none_iff.1 same.symm]
  | some t =>
    rw [found, Option.map_some] at same
    obtain ⟨t', found', lists⟩ := Option.map_eq_some_iff.1 same.symm
    rw [found']
    cases kind with
    | method => exact congrArg (List.map (·.index)) (Prod.mk.inj lists).1.symm
    | field => exact congrArg (List.map (·.index)) (Prod.mk.inj lists).2.symm
    | nestedType => exact absurd rfl member

theorem methodsOf (closed : g.Closed) {id : TypeId} (inside : id.index < g.types.length)
    (apart : kept id) : g.methodsOf id = g'.methodsOf id := by
  rw [methodsOf_eq_filterMap_listed, methodsOf_eq_filterMap_listed,
    ← ext.listed inside apart (by decide)]
  apply List.filterMap_congr
  intro i mem
  have there : i < g.methods.length := by simpa [Graph.owners] using closed.listed .method id i mem
  exact congrArg (Option.map _) (ext.method? ⟨i⟩ there)

theorem fieldsOf (closed : g.Closed) {id : TypeId} (inside : id.index < g.types.length)
    (apart : kept id) : g.fieldsOf id = g'.fieldsOf id := by
  rw [fieldsOf_eq_filterMap_listed, fieldsOf_eq_filterMap_listed,
    ← ext.listed inside apart (by decide)]
  apply List.filterMap_congr
  intro i mem
  have there : i < g.fields.length := by simpa [Graph.owners] using closed.listed .field id i mem
  exact congrArg (Option.map _) (ext.field? ⟨i⟩ there)

/-- The types around a type stay the same. The walk through the larger graph has more steps, but it
ends before it takes them. -/
theorem nestingChain (closed : g.Closed) (acyclic : g.Acyclic) {id : TypeId}
    (inside : id.index < g.types.length) : g.nestingChain id = g'.nestingChain id := by
  have stands (id : TypeId) (there : id.index < g.types.length) :
      (g.type? id).map (·.declaringType) = (g'.type? id).map (·.declaringType) := by
    have same := congrArg (Option.map (·.declaringType)) (ext.outline id there)
    rw [Option.map_map, Option.map_map] at same
    exact same
  have stays (id outer : TypeId) (_ : id.index < g.types.length) (step : g.Inside id outer) :
      outer.index < g.types.length := by
    obtain ⟨t, found, outside⟩ := step
    apply closed.owners .nestedType outer
    exact outside ▸ List.mem_map_of_mem (List.mem_of_getElem? found)
  have walk := outward_congr stands stays (g'.types.length + 1) inside
  have grounded := acyclic.grounded id
  rw [Graph.nestingChain, Graph.nestingChain, ← walk, grounded.outward_eq (Nat.le_succ _),
    grounded.outward_eq (Nat.le_succ_of_le ext.types)]

end Extends

theorem Closed.mentioned {g : Graph} (closed : g.Closed) {id : MethodId} {m : Method}
    (found : g.method? id = some m) : ∀ t ∈ m.mentioned, t.index < g.types.length := by
  have present : m ∈ g.methods := List.mem_of_getElem? found
  intro t mem
  rcases List.mem_append.1 mem with owner | definition
  · apply closed.owners .method t
    exact Option.mem_toList.1 owner ▸ List.mem_map_of_mem present
  · exact closed.methods m present t definition

theorem method?_of_mem_methodsOf {g : Graph} {owner : TypeId} {stub : MethodId × Method}
    (mem : stub ∈ g.methodsOf owner) : g.method? stub.1 = some stub.2 := by
  unfold methodsOf at mem
  split at mem
  · cases mem
  · obtain ⟨id, -, found⟩ := List.mem_filterMap.1 mem
    obtain ⟨m, known, rfl⟩ := Option.map_eq_some_iff.1 found
    exact known

theorem field?_of_mem_fieldsOf {g : Graph} {owner : TypeId} {stub : FieldId × Field}
    (mem : stub ∈ g.fieldsOf owner) : g.field? stub.1 = some stub.2 := by
  unfold fieldsOf at mem
  split at mem
  · cases mem
  · obtain ⟨id, -, found⟩ := List.mem_filterMap.1 mem
    obtain ⟨f, known, rfl⟩ := Option.map_eq_some_iff.1 found
    exact known

theorem Extends.agreesInside {g g' : Graph} {kept : TypeId → Prop} (ext : g.Extends g' kept)
    (closed : g.Closed) (acyclic : g.Acyclic) {owner : TypeId}
    (inside : owner.index < g.types.length) (apart : kept owner) {d : Dialect} {naming : Naming}
    (agrees : Scope.AgreesOn ⟨g, d, naming⟩ ⟨g', d, naming⟩ fun id => id.index < g.types.length) :
    Scope.AgreesInside ⟨g, d, naming⟩ ⟨g', d, naming⟩ (fun id => id.index < g.types.length) owner :=
  { agrees with
    chain := ext.nestingChain closed acyclic inside
    chain_known := fun _ passed => lt_of_mem_outward (List.mem_reverse.1 passed)
    methods := ext.methodsOf closed inside apart
    methods_known := fun _ listed => closed.mentioned (method?_of_mem_methodsOf listed)
    fields := ext.fieldsOf closed inside apart
    fields_known := fun stub listed =>
      closed.fields stub.2 (List.mem_of_getElem? (field?_of_mem_fieldsOf listed)) }

end Graph

namespace Renderer

/-- What is added elsewhere never shows. In a graph whose positions lead somewhere and whose nesting
is not cyclic, the source for a method stays the same while nothing is added to the methods and
fields of its type, and what is written of a single definition stays the same whatever is added. -/
theorem growth_elsewhere_never_shows (g : Graph) (closed : g.Closed) (acyclic : g.Acyclic)
    (additions : List Addition) (d : Dialect) (naming : Naming) :
    let r : Renderer := ⟨⟨g, d, naming⟩, Scope.stubBody⟩
    let r' : Renderer := ⟨⟨g.growAll additions, d, naming⟩, Scope.stubBody⟩
    (∀ (target : MethodId) (references : List AssemblyRef), target.index < g.methods.length →
      (∀ a ∈ additions, ∀ owner, a.memberHost? = some owner →
        (g.method? target).bind (·.declaringType) ≠ some owner) →
      (r.source target references).result = (r'.source target references).result) ∧
    (∀ id : MethodId, id.index < g.methods.length →
      (r.methodSignature id).result = (r'.methodSignature id).result ∧
      (r.method id).result = (r'.method id).result) ∧
    (∀ id : FieldId, id.index < g.fields.length → (r.field id).result = (r'.field id).result) ∧
    ∀ id : TypeId, id.index < g.types.length →
      (r.typeSignature id).result = (r'.typeSignature id).result := by
  intro r r'
  -- The types whose lists of members have to stay are those that no addition goes into.
  have ext : g.Extends (g.growAll additions) fun id => ∀ a ∈ additions, a.memberHost? ≠ some id :=
    g.extends_growAll fun a mem id apart => apart a mem
  have agrees : Scope.AgreesOn ⟨g, d, naming⟩ ⟨g.growAll additions, d, naming⟩
      fun id => id.index < g.types.length := ⟨⟨d.aliases, rfl⟩, fun _ _ => rfl, ext.outline⟩
  refine ⟨?_, ?_, ?_, ?_⟩
  · intro target references inside elsewhere
    apply result_source_congr agrees (ext.method? target inside)
      (fun _ found => closed.mentioned found)
    intro m owner found owned
    have there : owner.index < g.types.length :=
      closed.mentioned found owner (by simp [Method.mentioned, owned])
    refine ext.agreesInside closed acyclic there ?_ agrees
    intro a mem host
    exact elsewhere a mem owner host (by rw [found, Option.bind_some, owned])
  · intro id inside
    exact ⟨result_methodSignature_congr agrees (ext.method? id inside)
        (fun _ found => closed.mentioned found) _,
      result_method_congr agrees (ext.method? id inside) fun _ found => closed.mentioned found⟩
  · intro id inside
    exact result_field_congr agrees (ext.field? id inside)
      (fun f found => closed.fields f (List.mem_of_getElem? found)) _
  · intro id inside
    exact result_typeSignature_congr agrees inside _

/-- A type inside another one, with a method that mentions it inside a list. -/
def shelves : List Addition :=
  [.type (.ofClass "App" "Shelf"), .nestedType ⟨0⟩ (.ofStruct "" "Slot"),
    .method ⟨1⟩ ((Method.ofName "Neighbours").returning
      (.named "System.Collections.Generic" "List`1" [.named "App" "Slot" [] (some ⟨1⟩)] none)),
    .field ⟨1⟩ { name := "shelf", type := .named "App" "Shelf" [] (some ⟨0⟩) }]

theorem growth_elsewhere_never_shows_shelves :
    let g := Graph.growAll {} shelves
    let additions := [.nestedType ⟨1⟩ (.ofClass "" "Label"), .type (.ofClass "App" "Slot"),
      .method ⟨0⟩ (.ofName "Neighbours"), .field ⟨3⟩ { name := "shelf", type := .void },
      .reference { name := "mscorlib" }]
    let r := Renderer.ofDialect g .visualBasic
    let r' := Renderer.ofDialect (g.growAll additions) .visualBasic
    g.Closed ∧ g.Acyclic ∧ fault? (r.source ⟨0⟩ []).result = none ∧
      (r.source ⟨0⟩ []).result = (r'.source ⟨0⟩ []).result ∧
      (r.method ⟨0⟩).result = (r'.method ⟨0⟩).result := by
  intro g additions r r'
  have bare : ∀ a ∈ shelves, a.Bare := by
    simp only [shelves, List.forall_mem_cons]
    exact ⟨TypeDef.bare_ofClass _ _, TypeDef.bare_ofStruct _ _, trivial, trivial,
      List.forall_mem_nil _⟩
  have complete : g.Complete :=
    Graph.complete_empty.growAll (List.forall_mem_nil _) bare (by decide)
  have closed : g.Closed :=
    complete.closed (Graph.linked_empty.growAll bare) (by decide) (by decide)
  have same := growth_elsewhere_never_shows g closed complete.acyclic additions .visualBasic
    Dialect.visualBasic.naming
  exact ⟨closed, complete.acyclic, by decide +kernel, same.1 ⟨0⟩ [] (by decide) (by decide),
    (same.2.1 ⟨0⟩ (by decide)).2⟩

end Renderer
end StubSource
