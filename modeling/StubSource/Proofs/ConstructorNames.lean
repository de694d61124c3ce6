import StubSource.Dialect.CSharp
import StubSource.Proofs.Collections
import StubSource.Proofs.Stubs

/-!
# Constructors and the type around them

A dialect without a fixed name for constructors names each of them after the type that it points
back to, while the header above them is that of the type to which the target points back. In a graph
that was built in order these are one type, so all constructors of a source have the name that is in
the header.
-/

namespace StubSource
set_option autoImplicit false

namespace Graph

variable {g : Graph} {target : MethodId} {m : Method} {owner : TypeId}

theorem Complete.exists_type?_of_declaringType (complete : g.Complete)
    (known : g.method? target = some m) (owned : m.declaringType = some owner) :
    ∃ t, g.type? owner = some t := by
  have points : (g.owners .method)[target.index]? = some (some owner) := by
    rw [owners, List.getElem?_map, Option.map_eq_some_iff]
    exact ⟨m, known, owned⟩
  exact Option.isSome_iff_exists.1 (isSome_type?_of_mem_listed (complete.mem_listed points))

/-- The target and its stubs point back to one type. -/
theorem Complete.declaringType_of_mem_stubs (complete : g.Complete)
    (known : g.method? target = some m) (owned : m.declaringType = some owner)
    {stubs : List (MethodId × Method)} (listed : g.methodStubs target = .ok stubs) :
    ∀ m' ∈ m :: stubs.map Prod.snd, m'.declaringType = some owner := by
  rw [methodStubs_eq known owned, Except.ok.injEq] at listed
  subst listed
  intro m' mem
  rcases List.mem_cons.1 mem with rfl | beside
  · exact owned
  · obtain ⟨stub, kept, rfl⟩ := List.mem_map.1 beside
    exact (complete.mem_methodsOf_iff.1 (List.mem_filter.1 kept).1).2

end Graph

namespace Scope

def declaredName (s : Scope) (t : TypeDef) : String := s.safeName (Name.dropArity t.name)

/-- The block around the members of a type that goes by a name. -/
def typeBlockNamed (s : Scope) (name : String) (t : TypeDef) : BlockWords :=
  { s.typeBlock t with
    header := s.typeModifier t ++ (s.kindWords t.kind).header ++ name ++
      s.genericParameters t.genericParameters }

/-- A constructor under a name. Where types follow names there is a word for procedures. -/
def constructorHead (s : Scope) (name : String) (m : Method) : String :=
  s.methodModifiers m ++
    (match s.dialect.declarations.placement with
      | .beforeName => ""
      | .afterName => s.dialect.methods.procedureWord) ++
    name ++ s.parameters m.parameters

/-- A method in a type whose constructors go by a name. -/
def headIn (s : Scope) (name : String) (m : Method) : String :=
  if m.isConstructor then s.constructorHead name m
  else s.methodModifiers m ++ s.methodDeclaration m (s.safeName m.name)

variable {s : Scope}

theorem typeBlockNamed_declaredName (t : TypeDef) :
    s.typeBlockNamed (s.declaredName t) t = s.typeBlock t := by
  simp only [typeBlockNamed, typeBlock, typeHeader, typeSignature, declaredName,
    String.append_assoc]

theorem constructorName_of_owner {m : Method} {owner : TypeId} {t : TypeDef}
    (byType : s.dialect.methods.constructorName = none) (owned : m.declaringType = some owner)
    (defined : s.graph.type? owner = some t) : s.constructorName m = .ok (s.declaredName t) := by
  simp only [constructorName, byType, Method.owner, owned, Graph.findType, defined, bind,
    Except.bind, pure, Except.pure, declaredName]

theorem modifiers_append_declaration {m : Method} (construct : m.isConstructor) (name : String) :
    s.methodModifiers m ++ s.methodDeclaration m name = s.constructorHead name m := by
  have procedure : m.isFunction = false := by simp [Method.isFunction, construct]
  unfold methodDeclaration constructorHead
  cases s.dialect.declarations.placement with
  | beforeName => simp [construct, String.append_assoc]
  | afterName => simp [construct, procedure, String.append_assoc]

theorem writeSignature_of_signature {m : Method} {head : String}
    (known : s.signature m = .ok head) : s.writeSignature m = Write.push head := by
  apply funext
  intro sheet
  have ran := s.runOn_writeSignature m sheet
  rw [known] at ran
  exact ran

theorem signature_eq_headIn {m : Method} {owner : TypeId} {t : TypeDef}
    (byType : s.dialect.methods.constructorName = none) (owned : m.declaringType = some owner)
    (defined : s.graph.type? owner = some t) :
    s.signature m = .ok (s.headIn (s.declaredName t) m) := by
  unfold signature methodName headIn
  by_cases construct : m.isConstructor
  · rw [if_pos construct, if_pos construct, constructorName_of_owner byType owned defined]
    exact congrArg Except.ok (modifiers_append_declaration construct _)
  · rw [if_neg construct, if_neg construct]
    rfl

theorem members_of_signatures {head : Method → String} {body : Method → Nat → String} {depth : Nat}
    {m : Method} {stubs : List (MethodId × Method)} (fields : List (FieldId × Field))
    (heads : ∀ m' ∈ m :: stubs.map Prod.snd, s.signature m' = .ok (head m')) :
    let written (m : Method) := s.dialect.indent.lineAt depth (head m ++ body m depth)
    s.members body depth m stubs fields =
      .ok (s.membersAt depth (written m) (stubs.map fun stub => written stub.2)
        (fields.map Prod.snd)) := by
  intro written
  have each : ∀ m' ∈ m :: stubs.map Prod.snd, s.methodAt body depth m' = .ok (written m') := by
    intro m' mem
    rw [methodAt, heads m' mem]
    rfl
  have others : stubs.mapM (fun stub => s.methodAt body depth stub.2) =
      .ok (stubs.map fun stub => written stub.2) := by
    rw [mapM_eq_ok_iff, List.map_map]
    apply List.map_congr_left
    intro stub mem
    exact each stub.2 (List.mem_cons_of_mem m (List.mem_map_of_mem mem))
  rw [members, each m List.mem_cons_self, others]
  rfl

theorem sourceText_of_signatures {head : Method → String} {body : Method → Nat → String}
    {target : MethodId} {m : Method} {owner : TypeId} {t : TypeDef}
    {stubs : List (MethodId × Method)} (references : List AssemblyRef)
    (known : s.graph.method? target = some m) (owned : m.declaringType = some owner)
    (defined : s.graph.type? owner = some t) (listed : s.graph.methodStubs target = .ok stubs)
    (heads : ∀ m' ∈ m :: stubs.map Prod.snd, s.signature m' = .ok (head m'))
    {blocks : List BlockWords} (around : s.blocksAround owner t = blocks) :
    let unit := s.dialect.indent
    let depth := blocks.length
    s.sourceText body target references =
      .ok (s.preamble references ++ BlockWords.openings unit 0 blocks ++
        s.membersAt depth (unit.lineAt depth (head m ++ body m depth))
          (stubs.map fun stub => unit.lineAt depth (head stub.2 ++ body stub.2 depth))
          ((s.graph.fieldsOf owner).map Prod.snd) ++
        BlockWords.closings unit 0 blocks) := by
  intro unit depth
  rw [Graph.methodStubs_eq known owned, Except.ok.injEq] at listed
  subst listed around
  have located : s.sourceText body target references =
      s.sourceAround body target m owner t references := by
    simp only [sourceText, Graph.findMethod, known, Method.owner, owned, Graph.findType, defined,
      bind, Except.bind]
  rw [located, sourceAround, Graph.fieldStubs, members_of_signatures _ heads]
  rfl

open Write

/-- If nothing was added to a type before the type itself, there is a source for every target, and
the name in the header of the type is the name of every constructor among the target and its stubs.
In the header the type parameters of the type follow the name. In a constructor its parameters do,
and it has no type parameters. -/
theorem constructors_named_as_type_header (additions : List Addition)
    (bare : ∀ a ∈ additions, a.Bare) (hosts : Graph.HostsGiven {} [] additions) (dialect : Dialect)
    (byType : dialect.methods.constructorName = none) (naming : Naming) (target : MethodId)
    (m : Method) (known : (Graph.growAll {} additions).method? target = some m) :
    let g := Graph.growAll {} additions
    let s : Scope := ⟨g, dialect, naming⟩
    let unit := dialect.indent
    ∃ owner t stubs, m.declaringType = some owner ∧ g.type? owner = some t ∧
      g.methodStubs target = .ok stubs ∧
      let name := s.safeName (Name.dropArity t.name)
      let blocks := s.namespaceBlocks (g.effectiveNs owner) ++ (s.shells owner).map s.typeBlock ++
        [s.typeBlockNamed name t]
      let depth := blocks.length
      s.visit (.typeDefinition t) = push (name ++ s.genericParameters t.genericParameters) ∧
      (∀ c ∈ m :: stubs.map Prod.snd, c.isConstructor →
        s.writeSignature c = push (s.constructorHead name c)) ∧
      (∃ text, BodyWriter.LevelDetermined stubBody s text) ∧
      ∀ body text, BodyWriter.LevelDetermined body s text → ∀ references,
        (Renderer.source ⟨s, body⟩ target references).result =
          .ok (s.preamble references ++ BlockWords.openings unit 0 blocks ++
            s.membersAt depth (unit.lineAt depth (s.headIn name m ++ text m depth))
              (stubs.map fun stub =>
                unit.lineAt depth (s.headIn name stub.2 ++ text stub.2 depth))
              ((g.fieldsOf owner).map Prod.snd) ++
            BlockWords.closings unit 0 blocks) := by
  intro g s unit
  have complete : g.Complete := Graph.complete_empty.growAll (List.forall_mem_nil _) bare hosts
  obtain ⟨owner, owned⟩ := Graph.exists_declaringType_growAll known
  obtain ⟨t, defined⟩ := complete.exists_type?_of_declaringType known owned
  obtain ⟨stubs, listed⟩ : ∃ stubs, g.methodStubs target = .ok stubs :=
    ⟨_, Graph.methodStubs_eq known owned⟩
  refine ⟨owner, t, stubs, owned, defined, listed, ?_⟩
  intro name blocks depth
  -- Each constructor asks for the type that it points back to, which the target also points to.
  have heads : ∀ m' ∈ m :: stubs.map Prod.snd, s.signature m' = .ok (s.headIn name m') := by
    intro m' mem
    have points := complete.declaringType_of_mem_stubs known owned listed m' mem
    exact signature_eq_headIn byType points defined
  have around : s.blocksAround owner t = blocks := by
    rw [blocksAround, ← typeBlockNamed_declaredName]
    rfl
  refine ⟨s.writeTypeSignature_eq t, ?_, ⟨_, s.stubBody_levelDetermined⟩, ?_⟩
  · intro c mem construct
    apply writeSignature_of_signature
    rw [heads c mem, headIn, if_pos construct]
  · intro body text fixed references
    rw [Renderer.result_source ⟨s, body⟩ fixed]
    exact sourceText_of_signatures references known owned defined listed heads around

def initialised : List Addition :=
  [.type (.ofClass "App" "Program"), .method ⟨0⟩ .constructor,
    .nestedType ⟨0⟩ ((TypeDef.ofStruct "" "event\x601").withGeneric { name := "T" }),
    .method ⟨1⟩ (Method.constructor.withGeneric { name := "U" }),
    .method ⟨1⟩ (Method.ofName Method.initialiserName).asStatic]

theorem constructors_named_as_type_header_event :
    let g := Graph.growAll {} initialised
    let s : Scope := ⟨g, .csharp, Dialect.csharp.naming⟩
    (∀ a ∈ initialised, a.Bare) ∧ Graph.HostsGiven {} [] initialised ∧
      s.dialect.methods.constructorName = none ∧
      ∃ t m stub source, g.type? ⟨1⟩ = some t ∧ g.method? ⟨1⟩ = some m ∧
        g.methodStubs ⟨1⟩ = .ok [(⟨2⟩, stub)] ∧
        s.visit (.typeDefinition t) = push "@event<T>" ∧
        s.writeSignature m = push "public @event()" ∧
        s.writeSignature stub = push "static @event()" ∧
        (Renderer.source ⟨s, stubBody⟩ ⟨1⟩ []).result = .ok source := by
  intro g s
  have generic : ((TypeDef.ofStruct "" "event\x601").withGeneric { name := "T" }).Bare :=
    ⟨by intro kind; cases kind <;> rfl, rfl⟩
  have bare : ∀ a ∈ initialised, a.Bare := by
    simp only [initialised, List.forall_mem_cons]
    exact ⟨TypeDef.bare_ofClass _ _, trivial, generic, trivial, trivial, List.forall_mem_nil _⟩
  have hosts : Graph.HostsGiven {} [] initialised := by decide
  obtain ⟨owner, t, stubs, owned, defined, listed, declared, named, ⟨text, fixed⟩, written⟩ :=
    constructors_named_as_type_header initialised bare hosts .csharp rfl Dialect.csharp.naming ⟨1⟩ _
      rfl
  obtain rfl : (⟨1⟩ : TypeId) = owner := Option.some.inj owned
  obtain rfl := Option.some.inj defined
  obtain rfl := Except.ok.inj listed
  refine ⟨bare, hosts, rfl, _, _, _, _, rfl, rfl, rfl, ?_, ?_, ?_, written _ text fixed []⟩
  · rw [declared]
    exact congrArg push (by decide +kernel)
  · rw [named _ List.mem_cons_self rfl]
    exact congrArg push (by decide +kernel)
  · rw [named _ (List.mem_cons_of_mem _ List.mem_cons_self) rfl]
    exact congrArg push (by decide +kernel)

end Scope
end StubSource
