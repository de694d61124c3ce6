import StubSource.Proofs.Growth
import StubSource.Writing.Stub

/-!
# The stubs of a type

In a graph where nothing was added to a type before the type itself, a target and its stubs are all
methods that point back to the type of the target, each once. Stubs are told from the target by
their positions, so neither overloads nor methods that are alike get lost.
-/

namespace StubSource
set_option autoImplicit false

namespace Graph

theorem mem_numbered_iff {α ι : Type} (entries : List α) (keep : α → Bool) {number : Nat → ι}
    (injective : Function.Injective number) (i : Nat) (a : α) :
    (number i, a) ∈ (entries.zipIdx.filter fun e => keep e.1).map (fun e => (number e.2, e.1)) ↔
      entries[i]? = some a ∧ keep a := by
  simp only [List.mem_map, List.mem_filter, Prod.mk.injEq]
  constructor
  · rintro ⟨⟨b, j⟩, ⟨mem, kept⟩, same, rfl⟩
    obtain rfl := injective same
    exact ⟨List.mem_zipIdx_iff_getElem?.1 mem, kept⟩
  · rintro ⟨found, kept⟩
    exact ⟨(a, i), ⟨List.mem_zipIdx_iff_getElem?.2 found, kept⟩, rfl, rfl⟩

theorem pairwise_numbered {α : Type} (entries : List α) (keep : α × Nat → Bool) :
    (entries.zipIdx.filter keep).Pairwise fun a b => a.2 < b.2 := by
  apply List.Pairwise.filter
  have numbers : (entries.zipIdx.map Prod.snd).Pairwise (· < ·) := by
    rw [List.zipIdx_map_snd]
    exact List.pairwise_lt_range'
  exact List.pairwise_map.1 numbers

theorem Complete.mem_methodsOf_iff {g : Graph} (complete : g.Complete) {owner : TypeId}
    {id : MethodId} {m : Method} :
    (id, m) ∈ g.methodsOf owner ↔ g.method? id = some m ∧ m.declaringType = some owner := by
  obtain ⟨i⟩ := id
  have injective : Function.Injective MethodId.mk := fun _ _ same => MethodId.mk.inj same
  have numbered := mem_numbered_iff g.methods (·.declaringType == some owner) injective i m
  rw [beq_iff_eq] at numbered
  rw [complete.methodsOf_eq]
  exact numbered

theorem Complete.mem_fieldsOf_iff {g : Graph} (complete : g.Complete) {owner : TypeId}
    {id : FieldId} {f : Field} :
    (id, f) ∈ g.fieldsOf owner ↔ g.field? id = some f ∧ f.declaringType = some owner := by
  obtain ⟨i⟩ := id
  have injective : Function.Injective FieldId.mk := fun _ _ same => FieldId.mk.inj same
  have numbered := mem_numbered_iff g.fields (·.declaringType == some owner) injective i f
  rw [beq_iff_eq] at numbered
  rw [complete.fieldsOf_eq]
  exact numbered

theorem Complete.pairwise_methodsOf {g : Graph} (complete : g.Complete) (owner : TypeId) :
    (g.methodsOf owner).Pairwise fun a b => a.1.index < b.1.index := by
  rw [complete.methodsOf_eq, List.pairwise_map]
  exact pairwise_numbered _ _

theorem Complete.pairwise_fieldsOf {g : Graph} (complete : g.Complete) (owner : TypeId) :
    (g.fieldsOf owner).Pairwise fun a b => a.1.index < b.1.index := by
  rw [complete.fieldsOf_eq, List.pairwise_map]
  exact pairwise_numbered _ _

theorem isSome_of_mem_owners_grow {g : Graph} (a : Addition)
    (known : ∀ owner ∈ g.owners .method, owner.isSome) :
    ∀ owner ∈ (g.grow a).owners .method, owner.isSome := by
  intro owner mem
  rw [owners_grow, List.mem_append] at mem
  rcases mem with old | new
  · exact known owner old
  · cases a with
    | method host m =>
      obtain rfl : owner = some host := by simpa [Addition.owner?] using new
      rfl
    | type t => simp [Addition.owner?] at new
    | nestedType outer t => simp [Addition.owner?] at new
    | field host f => simp [Addition.owner?] at new
    | reference r => simp [Addition.owner?] at new

theorem isSome_of_mem_owners_growAll {g : Graph} (additions : List Addition)
    (known : ∀ owner ∈ g.owners .method, owner.isSome) :
    ∀ owner ∈ (g.growAll additions).owners .method, owner.isSome := by
  induction additions generalizing g with
  | nil => exact known
  | cons a later ih => exact ih (isSome_of_mem_owners_grow a known)

/-- Every method that was added has a type to point back to. -/
theorem exists_declaringType_growAll {additions : List Addition} {id : MethodId} {m : Method}
    (found : (growAll {} additions).method? id = some m) :
    ∃ owner, m.declaringType = some owner := by
  have owned : m.declaringType ∈ (growAll {} additions).owners .method :=
    List.mem_map_of_mem (List.mem_of_getElem? found)
  exact Option.isSome_iff_exists.1
    (isSome_of_mem_owners_growAll additions (List.forall_mem_nil _) _ owned)

theorem methodStubs_eq {g : Graph} {target : MethodId} {m : Method} {owner : TypeId}
    (known : g.method? target = some m) (owned : m.declaringType = some owner) :
    g.methodStubs target = .ok ((g.methodsOf owner).filter fun stub => stub.1 ≠ target) := by
  simp only [methodStubs, findMethod, known, Method.owner, owned, bind, Except.bind, pure,
    Except.pure]

/-- The target and its stubs, in some order, are the methods that the type lists. -/
theorem Complete.perm_cons_stubs {g : Graph} (complete : g.Complete) {target : MethodId}
    {m : Method} {owner : TypeId} (known : g.method? target = some m)
    (owned : m.declaringType = some owner) :
    ((target, m) :: (g.methodsOf owner).filter fun stub => stub.1 ≠ target).Perm
      (g.methodsOf owner) := by
  have apart : (g.methodsOf owner).Nodup := by
    apply (complete.pairwise_methodsOf owner).imp
    rintro a _ less rfl
    exact Nat.lt_irrefl _ less
  have fresh : (target, m) ∉ (g.methodsOf owner).filter fun stub => stub.1 ≠ target := by
    simp
  rw [List.perm_ext_iff_of_nodup (List.nodup_cons.2 ⟨fresh, apart.filter _⟩) apart]
  rintro ⟨id, m'⟩
  rw [List.mem_cons, List.mem_filter, complete.mem_methodsOf_iff, decide_eq_true_eq]
  constructor
  · rintro (same | ⟨listed, -⟩)
    · cases same
      exact ⟨known, owned⟩
    · exact listed
  · rintro ⟨found, points⟩
    by_cases here : id = target
    · subst here
      obtain rfl := Option.some.inj (known.symm.trans found)
      exact .inl rfl
    · exact .inr ⟨⟨found, points⟩, here⟩

/-- However a graph was built, the stubs for a target are all other methods of its type, and the
field stubs of a type are all its fields: each once, and in the order in which they were added. -/
theorem stubs_exactly_other_members (additions : List Addition) (bare : ∀ a ∈ additions, a.Bare)
    (hosts : HostsGiven {} [] additions) :
    let g := growAll {} additions
    (∀ target m, g.method? target = some m → ∃ owner stubs,
      m.declaringType = some owner ∧ g.methodStubs target = .ok stubs ∧
      (stubs.Pairwise fun a b => a.1.index < b.1.index) ∧
      (∀ id m', (id, m') ∈ stubs ↔
        g.method? id = some m' ∧ id ≠ target ∧ m'.declaringType = some owner) ∧
      ((target, m) :: stubs).Perm
        ((g.methods.zipIdx.filter fun e => e.1.declaringType == some owner).map
          fun e => (⟨e.2⟩, e.1))) ∧
    ∀ owner,
      ((g.fieldStubs owner).Pairwise fun a b => a.1.index < b.1.index) ∧
      ∀ id f, (id, f) ∈ g.fieldStubs owner ↔
        g.field? id = some f ∧ f.declaringType = some owner := by
  intro g
  have complete : g.Complete := complete_empty.growAll (List.forall_mem_nil _) bare hosts
  refine ⟨?_, fun owner =>
    ⟨complete.pairwise_fieldsOf owner, fun id f => complete.mem_fieldsOf_iff⟩⟩
  intro target m known
  obtain ⟨owner, owned⟩ := exists_declaringType_growAll known
  refine ⟨owner, _, owned, methodStubs_eq known owned,
    (complete.pairwise_methodsOf owner).filter _, ?_, ?_⟩
  · intro id m'
    rw [List.mem_filter, complete.mem_methodsOf_iff, decide_eq_true_eq]
    constructor
    · rintro ⟨⟨found, points⟩, other⟩
      exact ⟨found, other, points⟩
    · rintro ⟨found, other, points⟩
      exact ⟨⟨found, points⟩, other⟩
  · rw [← complete.methodsOf_eq]
    exact complete.perm_cons_stubs known owned

/-- Two methods and two fields that are alike, and others of the same names in a nested type. -/
def twins : List Addition :=
  [.type (.ofClass "App" "Program"), .method ⟨0⟩ (.ofName "Run"),
    .field ⟨0⟩ { name := "count", type := .void }, .nestedType ⟨0⟩ (.ofStruct "" "Entry"),
    .method ⟨1⟩ (.ofName "Run"), .field ⟨1⟩ { name := "count", type := .void },
    .method ⟨0⟩ (.ofName "Run"), .field ⟨0⟩ { name := "count", type := .void }]

/-- Of two methods that are alike one is the target and the other its stub, and both of the fields
that are alike are stubs. -/
theorem stubs_exactly_other_members_twins :
    let g := growAll {} twins
    (∀ a ∈ twins, a.Bare) ∧ HostsGiven {} [] twins ∧
      (∃ stubs, g.methodStubs ⟨2⟩ = .ok stubs ∧
        (∃ m, (⟨0⟩, m) ∈ stubs) ∧ ∀ m, (⟨1⟩, m) ∉ stubs) ∧
      (∃ f, (⟨0⟩, f) ∈ g.fieldStubs ⟨0⟩ ∧ (⟨2⟩, f) ∈ g.fieldStubs ⟨0⟩) ∧
      ∀ f, (⟨1⟩, f) ∉ g.fieldStubs ⟨0⟩ := by
  intro g
  have bare : ∀ a ∈ twins, a.Bare := by
    simp only [twins, List.forall_mem_cons]
    exact ⟨TypeDef.bare_ofClass _ _, trivial, trivial, TypeDef.bare_ofStruct _ _, trivial, trivial,
      trivial, trivial, List.forall_mem_nil _⟩
  have hosts : HostsGiven {} [] twins := by decide
  obtain ⟨methods, fields⟩ := stubs_exactly_other_members twins bare hosts
  obtain ⟨owner, stubs, owned, found, -, mem, -⟩ := methods ⟨2⟩ _ rfl
  obtain rfl : (⟨0⟩ : TypeId) = owner := Option.some.inj owned
  have memField := (fields ⟨0⟩).2
  refine ⟨bare, hosts, ⟨stubs, found, ⟨_, (mem ⟨0⟩ _).2 ⟨rfl, by decide, rfl⟩⟩, ?_⟩,
    ⟨_, (memField ⟨0⟩ _).2 ⟨rfl, rfl⟩, (memField ⟨2⟩ _).2 ⟨rfl, rfl⟩⟩, ?_⟩
  · intro m listed
    obtain ⟨known, -, points⟩ := (mem ⟨1⟩ m).1 listed
    obtain rfl := Option.some.inj known
    cases points
  · intro f listed
    obtain ⟨known, points⟩ := (memField ⟨1⟩ f).1 listed
    obtain rfl := Option.some.inj known
    cases points

end Graph
end StubSource
