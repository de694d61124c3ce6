import Mathlib.Data.List.Basic
import Mathlib.Data.List.Induction
import StubSource.Metadata.Graph

/-!
# Growing a graph

A definition points back to its type, and the type lists the positions of its members. Both
directions are described for methods, fields and nested types alike, by the positions that a type
lists and by the types that the definitions of a kind point back to. An addition appends to both, so
whatever a type lists points back to it. The converse needs that nothing is added to a type before
the type itself.
-/

namespace StubSource
set_option autoImplicit false

inductive MemberKind where
  | method
  | field
  | nestedType
  deriving DecidableEq, Repr

def TypeDef.listed (t : TypeDef) : MemberKind → List Nat
  | .method => t.methods.map (·.index)
  | .field => t.fields.map (·.index)
  | .nestedType => t.nestedTypes.map (·.index)

/-- A type without members that stands in no other type. -/
structure TypeDef.Bare (t : TypeDef) : Prop where
  listed : ∀ kind, t.listed kind = []
  declaringType : t.declaringType = none

theorem TypeDef.bare_ofClass (ns name : String) : (ofClass ns name).Bare where
  listed := by intro kind; cases kind <;> rfl
  declaringType := rfl

theorem TypeDef.bare_ofStruct (ns name : String) : (ofStruct ns name).Bare where
  listed := by intro kind; cases kind <;> rfl
  declaringType := rfl

inductive Addition where
  | type (t : TypeDef)
  | nestedType (outer : TypeId) (t : TypeDef)
  | method (owner : TypeId) (m : Method)
  | field (owner : TypeId) (f : Field)
  | reference (r : AssemblyRef)
  deriving Repr

namespace Addition

def Bare : Addition → Prop
  | type t | nestedType _ t => t.Bare
  | _ => True

/-- The type that the addition goes into. -/
def host? : Addition → Option TypeId
  | type _ | reference _ => none
  | nestedType owner _ | method owner _ | field owner _ => some owner

/-- What the added definition points back to, if it is of the given kind. -/
def owner? : Addition → MemberKind → Option (Option TypeId)
  | type t, .nestedType => some t.declaringType
  | nestedType outer _, .nestedType => some (some outer)
  | method owner _, .method => some (some owner)
  | field owner _, .field => some (some owner)
  | _, _ => none

theorem host?_of_owner? {a : Addition} (bare : a.Bare) {kind : MemberKind} {t : TypeId}
    (owned : a.owner? kind = some (some t)) : a.host? = some t := by
  cases a with
  | type d =>
    cases kind with
    | method => simp [owner?] at owned
    | field => simp [owner?] at owned
    | nestedType => simp [owner?, TypeDef.Bare.declaringType bare] at owned
  | nestedType outer d => cases kind <;> simp_all [owner?, host?]
  | method owner m => cases kind <;> simp_all [owner?, host?]
  | field owner f => cases kind <;> simp_all [owner?, host?]
  | reference r => simp [owner?] at owned

end Addition

namespace Graph

def grow (g : Graph) : Addition → Graph
  | .type t => g.addType t
  | .nestedType outer t => g.addNestedType outer t
  | .method owner m => g.addMethod owner m
  | .field owner f => g.addField owner f
  | .reference r => g.addReference r

def growAll (g : Graph) (additions : List Addition) : Graph := additions.foldl grow g

def givenType? (g : Graph) : Addition → Option TypeId
  | .type _ | .nestedType .. => some g.nextType
  | _ => none

/-- Additions go into types only that are among `given` or were given by an earlier addition. -/
def HostsGiven : (g : Graph) → (given : List TypeId) → List Addition → Prop
  | _, _, [] => True
  | g, given, a :: later =>
    (∀ t ∈ a.host?, t ∈ given) ∧ HostsGiven (g.grow a) (given ++ (g.givenType? a).toList) later

instance decidableHostsGiven : (g : Graph) → (given : List TypeId) → (additions : List Addition) →
    Decidable (g.HostsGiven given additions)
  | _, _, [] => inferInstanceAs (Decidable True)
  | g, given, a :: later =>
    have := decidableHostsGiven (g.grow a) (given ++ (g.givenType? a).toList) later
    inferInstanceAs (Decidable (_ ∧ _))

/-- The types that the definitions of one kind point back to, in the order of the definitions. -/
def owners (g : Graph) : MemberKind → List (Option TypeId)
  | .method => g.methods.map (·.declaringType)
  | .field => g.fields.map (·.declaringType)
  | .nestedType => g.types.map (·.declaringType)

/-- The positions that the type at `id` lists. A dangling position lists nothing. -/
def listed (g : Graph) (kind : MemberKind) (id : TypeId) : List Nat :=
  match g.type? id with
  | none => []
  | some t => t.listed kind

theorem isSome_type?_of_mem_listed {g : Graph} {kind : MemberKind} {id : TypeId} {i : Nat}
    (mem : i ∈ g.listed kind id) : (g.type? id).isSome := by
  unfold listed at mem
  split at mem
  · simp at mem
  · rename_i t found
    simp [found]

theorem listed_addType (g : Graph) {t : TypeDef} (bare : ∀ kind, t.listed kind = [])
    (kind : MemberKind) (id : TypeId) : (g.addType t).listed kind id = g.listed kind id := by
  simp only [listed, type?, addType, List.getElem?_append]
  by_cases inside : id.index < g.types.length
  · simp [inside]
  · cases last : id.index - g.types.length with
    | zero => simp [inside, bare]
    | succ n => simp [inside]

theorem listed_modifyType (g : Graph) (host : TypeId) {change : TypeDef → TypeDef}
    {added : MemberKind} {i : Nat}
    (lists : ∀ t kind, (change t).listed kind = t.listed kind ++ if kind = added then [i] else [])
    (kind : MemberKind) (id : TypeId) :
    (g.modifyType host change).listed kind id =
      g.listed kind id ++
        if kind = added ∧ host = id ∧ id.index < g.types.length then [i] else [] := by
  simp only [listed, type?, modifyType, List.getElem?_modify]
  by_cases inside : id.index < g.types.length
  · by_cases same : host = id
    · subst same
      simp [inside, lists]
    · have apart : host.index ≠ id.index := fun h => same (by cases id; cases host; simp_all)
      simp [inside, same, apart]
  · simp [inside]

theorem owners_modifyType (g : Graph) (host : TypeId) {change : TypeDef → TypeDef}
    (kept : ∀ t, (change t).declaringType = t.declaringType) (kind : MemberKind) :
    (g.modifyType host change).owners kind = g.owners kind := by
  cases kind with
  | method => rfl
  | field => rfl
  | nestedType =>
    apply List.ext_getElem?
    intro i
    by_cases here : host.index = i
    · cases found : g.types[i]? <;> simp [owners, modifyType, here, found, kept]
    · simp [owners, modifyType, here]

theorem owners_grow (g : Graph) (a : Addition) (kind : MemberKind) :
    (g.grow a).owners kind = g.owners kind ++ (a.owner? kind).toList := by
  cases a with
  | type t => cases kind <;> simp [grow, addType, owners, Addition.owner?]
  | nestedType outer t =>
    rw [grow, addNestedType, owners_modifyType _ _ (by intro; rfl)]
    cases kind <;> simp [addType, owners, Addition.owner?]
  | method owner m =>
    rw [grow, addMethod, owners_modifyType _ _ (by intro; rfl)]
    cases kind <;> simp [owners, Addition.owner?]
  | field owner f =>
    rw [grow, addField, owners_modifyType _ _ (by intro; rfl)]
    cases kind <;> simp [owners, Addition.owner?]
  | reference r => cases kind <;> simp [grow, addReference, owners, Addition.owner?]

/-- The type that an added definition points back to lists the position of the definition, if the
type is in the graph by then. Nothing else is listed anew. -/
theorem listed_grow (g : Graph) {a : Addition} (bare : a.Bare) (kind : MemberKind) (id : TypeId) :
    (g.grow a).listed kind id =
      g.listed kind id ++
        if a.owner? kind = some (some id) ∧ id.index < (g.grow a).types.length then
          [(g.owners kind).length]
        else [] := by
  cases a with
  | type t =>
    have unowned : (Addition.type t).owner? kind ≠ some (some id) := by
      intro owned
      simpa [Addition.host?] using Addition.host?_of_owner? bare owned
    simp [grow, listed_addType g (TypeDef.Bare.listed bare), unowned]
  | nestedType outer t =>
    have lists (d : TypeDef) (kind : MemberKind) :
        TypeDef.listed { d with nestedTypes := d.nestedTypes ++ [g.nextType] } kind =
          d.listed kind ++ if kind = .nestedType then [g.types.length] else [] := by
      cases kind <;> simp [TypeDef.listed, nextType]
    have bare' (kind : MemberKind) :
        TypeDef.listed { t with declaringType := some outer, ns := "" } kind = [] := by
      cases kind with
      | method => exact TypeDef.Bare.listed bare .method
      | field => exact TypeDef.Bare.listed bare .field
      | nestedType => exact TypeDef.Bare.listed bare .nestedType
    -- The host is looked up in the larger graph: it may be the new type itself.
    rw [grow, addNestedType, listed_modifyType _ outer lists, listed_addType g bare']
    cases kind <;> simp [Addition.owner?, owners, modifyType]
  | method owner m =>
    have lists (d : TypeDef) (kind : MemberKind) :
        TypeDef.listed { d with methods := d.methods ++ [g.nextMethod] } kind =
          d.listed kind ++ if kind = .method then [g.methods.length] else [] := by
      cases kind <;> simp [TypeDef.listed, nextMethod]
    rw [grow, addMethod, listed_modifyType _ owner lists]
    cases kind <;> simp [Addition.owner?, owners, modifyType, listed, type?]
  | field owner f =>
    have lists (d : TypeDef) (kind : MemberKind) :
        TypeDef.listed { d with fields := d.fields ++ [g.nextField] } kind =
          d.listed kind ++ if kind = .field then [g.fields.length] else [] := by
      cases kind <;> simp [TypeDef.listed, nextField]
    rw [grow, addField, listed_modifyType _ owner lists]
    cases kind <;> simp [Addition.owner?, owners, modifyType, listed, type?]
  | reference r => simp [grow, addReference, Addition.owner?, listed, type?]

/-- Whatever a type lists points back to that type, and no type inside another has a namespace. -/
structure Linked (g : Graph) : Prop where
  increasing : ∀ kind id, (g.listed kind id).Pairwise (· < ·)
  pointsBack : ∀ kind id, ∀ i ∈ g.listed kind id, (g.owners kind)[i]? = some (some id)
  ns_eq_empty : ∀ t ∈ g.types, t.declaringType.isSome → t.ns = ""

theorem linked_empty : ({} : Graph).Linked where
  increasing := by intro kind id; simp [listed, type?]
  pointsBack := by intro kind id i mem; simp [listed, type?] at mem
  ns_eq_empty := by intro t mem; simp at mem

theorem ns_eq_empty_modifyType {g : Graph} {host : TypeId} {change : TypeDef → TypeDef}
    (kept : ∀ t, (change t).declaringType = t.declaringType ∧ (change t).ns = t.ns)
    (known : ∀ t ∈ g.types, t.declaringType.isSome → t.ns = "") :
    ∀ t ∈ (g.modifyType host change).types, t.declaringType.isSome → t.ns = "" := by
  intro t mem inner
  obtain ⟨i, found⟩ := List.mem_iff_getElem?.1 mem
  rw [modifyType, List.getElem?_modify] at found
  obtain ⟨old, there, rfl⟩ := Option.map_eq_some_iff.1 found
  have before := known old (List.mem_of_getElem? there)
  by_cases here : host.index = i
  · rw [if_pos here] at inner ⊢
    rw [(kept old).1] at inner
    rw [(kept old).2]
    exact before inner
  · rw [if_neg here] at inner ⊢
    exact before inner

theorem ns_eq_empty_addType {g : Graph} {d : TypeDef} (new : d.declaringType.isSome → d.ns = "")
    (known : ∀ t ∈ g.types, t.declaringType.isSome → t.ns = "") :
    ∀ t ∈ (g.addType d).types, t.declaringType.isSome → t.ns = "" := by
  intro t mem inner
  rcases List.mem_append.1 mem with old | last
  · exact known t old inner
  · rw [List.mem_singleton.1 last] at inner ⊢
    exact new inner

theorem ns_eq_empty_grow {g : Graph} {a : Addition} (bare : a.Bare)
    (known : ∀ t ∈ g.types, t.declaringType.isSome → t.ns = "") :
    ∀ t ∈ (g.grow a).types, t.declaringType.isSome → t.ns = "" := by
  cases a with
  | type d =>
    have outermost : d.declaringType.isSome → d.ns = "" := by
      intro inner
      rw [TypeDef.Bare.declaringType bare] at inner
      cases inner
    exact ns_eq_empty_addType outermost known
  | nestedType outer d =>
    exact ns_eq_empty_modifyType (fun _ => ⟨rfl, rfl⟩) (ns_eq_empty_addType (fun _ => rfl) known)
  | method owner m => exact ns_eq_empty_modifyType (fun _ => ⟨rfl, rfl⟩) known
  | field owner f => exact ns_eq_empty_modifyType (fun _ => ⟨rfl, rfl⟩) known
  | reference r => exact known

theorem Linked.grow {g : Graph} {a : Addition} (linked : g.Linked) (bare : a.Bare) :
    (g.grow a).Linked where
  increasing := by
    intro kind id
    rw [listed_grow g bare]
    split
    · rw [List.pairwise_append]
      refine ⟨linked.increasing kind id, List.pairwise_singleton _ _, ?_⟩
      intro i listed j new
      rw [List.mem_singleton.1 new]
      exact (List.getElem?_eq_some_iff.1 (linked.pointsBack kind id i listed)).1
    · rw [List.append_nil]
      exact linked.increasing kind id
  pointsBack := by
    intro kind id i mem
    rw [listed_grow g bare, List.mem_append] at mem
    rw [owners_grow]
    rcases mem with listed | new
    · have there := linked.pointsBack kind id i listed
      rw [List.getElem?_append_left (List.getElem?_eq_some_iff.1 there).1]
      exact there
    · split at new
      · rename_i added
        rw [List.mem_singleton.1 new, added.1]
        simp
      · simp at new
  ns_eq_empty := ns_eq_empty_grow bare linked.ns_eq_empty

theorem Linked.growAll {g : Graph} (linked : g.Linked) {additions : List Addition}
    (bare : ∀ a ∈ additions, a.Bare) : (g.growAll additions).Linked := by
  induction additions generalizing g with
  | nil => exact linked
  | cons a later ih =>
    exact ih (linked.grow (bare a List.mem_cons_self))
      fun b mem => bare b (List.mem_cons_of_mem a mem)

theorem Linked.disjoint {g : Graph} (linked : g.Linked) (kind : MemberKind) {id other : TypeId}
    (apart : id ≠ other) : (g.listed kind id).Disjoint (g.listed kind other) := by
  intro i mem memOther
  have points := linked.pointsBack kind id i mem
  rw [linked.pointsBack kind other i memOther] at points
  exact apart (Option.some.inj (Option.some.inj points)).symm

theorem Linked.ns_of_mem_listed {g : Graph} (linked : g.Linked) {id : TypeId} {i : Nat}
    (mem : i ∈ g.listed .nestedType id) : ∃ t, g.type? ⟨i⟩ = some t ∧ t.ns = "" := by
  have points := linked.pointsBack .nestedType id i mem
  rw [owners, List.getElem?_map] at points
  obtain ⟨t, found, inner⟩ := Option.map_eq_some_iff.1 points
  exact ⟨t, found, linked.ns_eq_empty t (List.mem_of_getElem? found) (by simp [inner])⟩

/-- A type lists exactly what points back to it, and it comes before the types inside it. -/
structure Complete (g : Graph) : Prop where
  listed_eq : ∀ kind id, g.listed kind id = (g.owners kind).idxsOf (some id)
  outer_lt : ∀ (id : TypeId) (i : Nat),
    (g.owners .nestedType)[i]? = some (some id) → id.index < i

theorem complete_empty : ({} : Graph).Complete where
  listed_eq := by intro kind id; cases kind <;> simp [listed, type?, owners]
  outer_lt := by intro id i found; simp [owners] at found

theorem length_types_grow (g : Graph) (a : Addition) :
    (g.grow a).types.length = g.types.length + (g.givenType? a).toList.length := by
  cases a <;> simp [grow, addType, addNestedType, addMethod, addField, addReference, modifyType,
    givenType?]

/-- A step that goes into a type of the graph, if it goes into any, leaves no member unlisted. -/
theorem Complete.grow {g : Graph} {a : Addition} (complete : g.Complete) (bare : a.Bare)
    (hosted : ∀ id ∈ a.host?, id.index < g.types.length) : (g.grow a).Complete where
  listed_eq := by
    intro kind id
    rw [listed_grow g bare, owners_grow, complete.listed_eq, List.idxsOf_append, Nat.zero_add]
    congr 1
    by_cases owned : a.owner? kind = some (some id)
    · have inside := hosted id (Addition.host?_of_owner? bare owned)
      have stays : id.index < (g.grow a).types.length := by
        rw [length_types_grow]
        omega
      simp [owned, stays]
    · cases new : a.owner? kind with
      | none => simp
      | some owner =>
        rw [new, Option.some.injEq] at owned
        simp [owned]
  outer_lt := by
    intro id i found
    rw [owners_grow] at found
    by_cases old : i < (g.owners .nestedType).length
    · rw [List.getElem?_append_left old] at found
      exact complete.outer_lt id i found
    · rw [List.getElem?_append_right (Nat.le_of_not_lt old)] at found
      have owned := Option.mem_toList.1 (List.mem_of_getElem? found)
      have inside := hosted id (Addition.host?_of_owner? bare owned)
      simp only [owners, List.length_map] at old
      omega

theorem given_lt_grow {g : Graph} {given : List TypeId} (a : Addition)
    (known : ∀ id ∈ given, id.index < g.types.length) :
    ∀ id ∈ given ++ (g.givenType? a).toList, id.index < (g.grow a).types.length := by
  intro id mem
  rw [length_types_grow]
  rcases List.mem_append.1 mem with old | new
  · have := known id old
    omega
  · cases a <;> simp_all [givenType?, nextType]

theorem Complete.growAll {g : Graph} (complete : g.Complete) {given : List TypeId}
    (known : ∀ id ∈ given, id.index < g.types.length) {additions : List Addition}
    (bare : ∀ a ∈ additions, a.Bare) (hosts : g.HostsGiven given additions) :
    (g.growAll additions).Complete := by
  induction additions generalizing g given with
  | nil => exact complete
  | cons a later ih =>
    -- Given positions are in the graph, so the host of the first addition is.
    have step := complete.grow (bare a List.mem_cons_self)
      fun id host => known id (hosts.1 id host)
    exact ih step (given_lt_grow a known) (fun b mem => bare b (List.mem_cons_of_mem a mem)) hosts.2

theorem Complete.mem_listed {g : Graph} (complete : g.Complete) {kind : MemberKind} {id : TypeId}
    {i : Nat} (points : (g.owners kind)[i]? = some (some id)) : i ∈ g.listed kind id := by
  obtain ⟨inside, points⟩ := List.getElem?_eq_some_iff.1 points
  rw [complete.listed_eq, List.mem_idxsOf_iff_getElem_pos inside, points]
  exact BEq.rfl

/-- Looking up the positions at which a property of the entries has a value gives the entries with
that value, in their order. -/
theorem filterMap_idxsOf {α β γ : Type} [BEq β] (entries : List α) (property : α → β)
    (value : β) (withPosition : Nat → α → γ) :
    ((entries.map property).idxsOf value).filterMap (fun i => entries[i]?.map (withPosition i)) =
      (entries.zipIdx.filter fun e => property e.1 == value).map fun e => withPosition e.2 e.1 := by
  induction entries using List.reverseRecOn with
  | nil => simp
  | append_singleton entries last ih =>
    have earlier : ∀ i ∈ (entries.map property).idxsOf value,
        (entries ++ [last])[i]?.map (withPosition i) = entries[i]?.map (withPosition i) := by
      intro i mem
      have inside := List.lt_add_of_mem_idxsOf i mem
      rw [List.getElem?_append_left (by simpa using inside)]
    rw [List.map_append, List.idxsOf_append, List.filterMap_append, List.filterMap_congr earlier,
      ih]
    cases here : property last == value <;> simp [List.zipIdx_append, here]

theorem methodsOf_eq_filterMap_listed (g : Graph) (id : TypeId) :
    g.methodsOf id = (g.listed .method id).filterMap fun i => g.methods[i]?.map (⟨i⟩, ·) := by
  unfold methodsOf listed
  cases g.type? id with
  | none => rfl
  | some t => simp only [TypeDef.listed, List.filterMap_map]; rfl

theorem fieldsOf_eq_filterMap_listed (g : Graph) (id : TypeId) :
    g.fieldsOf id = (g.listed .field id).filterMap fun i => g.fields[i]?.map (⟨i⟩, ·) := by
  unfold fieldsOf listed
  cases g.type? id with
  | none => rfl
  | some t => simp only [TypeDef.listed, List.filterMap_map]; rfl

theorem Complete.methodsOf_eq {g : Graph} (complete : g.Complete) (id : TypeId) :
    g.methodsOf id =
      (g.methods.zipIdx.filter fun m => m.1.declaringType == some id).map
        fun m => (⟨m.2⟩, m.1) := by
  rw [methodsOf_eq_filterMap_listed, complete.listed_eq, owners, filterMap_idxsOf]

theorem Complete.fieldsOf_eq {g : Graph} (complete : g.Complete) (id : TypeId) :
    g.fieldsOf id =
      (g.fields.zipIdx.filter fun f => f.1.declaringType == some id).map
        fun f => (⟨f.2⟩, f.1) := by
  rw [fieldsOf_eq_filterMap_listed, complete.listed_eq, owners, filterMap_idxsOf]

/-- However a graph was built from types without members, the positions that a type lists increase
and lead to definitions that point back to that type and to no other. If nothing was added to a type
before the type itself, then the type lists all that points back to it. -/
theorem members_and_types_in_step (additions : List Addition) (bare : ∀ a ∈ additions, a.Bare) :
    let g := growAll {} additions
    (∀ kind id, (g.listed kind id).Pairwise (· < ·) ∧
        ∀ i ∈ g.listed kind id, (g.owners kind)[i]? = some (some id)) ∧
      (∀ kind id other, id ≠ other → (g.listed kind id).Disjoint (g.listed kind other)) ∧
      (∀ id, ∀ i ∈ g.listed .nestedType id, ∃ t, g.type? ⟨i⟩ = some t ∧ t.ns = "") ∧
      (HostsGiven {} [] additions →
        (∀ kind (id : TypeId) i, (g.owners kind)[i]? = some (some id) →
          i ∈ g.listed kind id ∧ (g.type? id).isSome ∧ (kind = .nestedType → id.index < i)) ∧
        ∀ id,
          g.methodsOf id =
              (g.methods.zipIdx.filter fun m => m.1.declaringType == some id).map
                (fun m => (⟨m.2⟩, m.1)) ∧
            g.fieldsOf id =
              (g.fields.zipIdx.filter fun f => f.1.declaringType == some id).map
                (fun f => (⟨f.2⟩, f.1))) := by
  intro g
  have linked : g.Linked := linked_empty.growAll bare
  refine ⟨fun kind id => ⟨linked.increasing kind id, linked.pointsBack kind id⟩,
    fun kind id other apart => linked.disjoint kind apart,
    fun id i mem => linked.ns_of_mem_listed mem, ?_⟩
  intro hosts
  have complete : g.Complete := complete_empty.growAll (List.forall_mem_nil _) bare hosts
  refine ⟨?_, fun id => ⟨complete.methodsOf_eq id, complete.fieldsOf_eq id⟩⟩
  intro kind id i points
  have mem := complete.mem_listed points
  refine ⟨mem, isSome_type?_of_mem_listed mem, ?_⟩
  intro nested
  subst nested
  exact complete.outer_lt id i points

def turns : List Addition :=
  [.type (.ofClass "App" "Program"), .method ⟨0⟩ (.ofName "Main"),
    .nestedType ⟨0⟩ (.ofStruct "App" "Entry"), .method ⟨1⟩ (.ofName "Key"),
    .reference { name := "mscorlib" }, .method ⟨0⟩ (.ofName "Run"),
    .field ⟨1⟩ { name := "key", type := .void }]

theorem members_and_types_in_step_by_turns :
    (∀ a ∈ turns, a.Bare) ∧ HostsGiven {} [] turns ∧
      (growAll {} turns).listed .method ⟨0⟩ = [0, 2] ∧
      (growAll {} turns).listed .nestedType ⟨0⟩ = [1] ∧
      (growAll {} turns).methodsOf ⟨0⟩ =
        ((growAll {} turns).methods.zipIdx.filter fun m => m.1.declaringType == some ⟨0⟩).map
          (fun m => (⟨m.2⟩, m.1)) := by
  have bare : ∀ a ∈ turns, a.Bare := by
    simp only [turns, List.forall_mem_cons]
    exact ⟨TypeDef.bare_ofClass _ _, trivial, TypeDef.bare_ofStruct _ _, trivial, trivial, trivial,
      trivial, List.forall_mem_nil _⟩
  have hosts : HostsGiven {} [] turns := by decide
  have inStep := members_and_types_in_step turns bare
  exact ⟨bare, hosts, by decide, by decide, ((inStep.2.2.2 hosts).2 ⟨0⟩).1⟩

end Graph
end StubSource
