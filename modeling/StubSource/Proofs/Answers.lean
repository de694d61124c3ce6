import StubSource.Proofs.SourceLayout

/-!
# Answers and faults

With stub bodies every answer of a renderer is a function of its scope, without sheets. From these
functions one reads off when there is no text. Only a constructor can lack a name, so the faults are
those of the lookups that a request begins with and those of constructors among the stubs.
-/

namespace StubSource
set_option autoImplicit false

namespace Renderer

open Write

variable (s : Scope) (body : BodyWriter)

/-- A request is answered by what it looks up and what is written of that on a blank sheet. -/
theorem result_request {α : Type} (found : Except Fault α) (message : α → String)
    {write : α → Write Unit} {text : α → Except Fault String}
    (written : ∀ a journal, ∃ draft journal',
      (write a).runOn ⟨⟨"", 0, s.dialect.indent⟩, journal⟩ =
          ((text a).map fun _ => (), ⟨draft, journal'⟩) ∧
        ∀ shown, text a = .ok shown → draft.text = shown) :
    ((Renderer.mk s body).answer do
      let a ← require found
      (Renderer.mk s body).noteRequest (message a)
      write a).result = found >>= text := by
  cases found with
  | error fault => rfl
  | ok a =>
    obtain ⟨draft, journal', ran, ended⟩ :=
      written a [⟨.debug, s.dialect.name ++ ": " ++ message a⟩]
    have whole : (do
        let a ← require (.ok a)
        (Renderer.mk s body).noteRequest (message a)
        write a : Write Unit).runOn (.blank s.dialect) =
          ((text a).map fun _ => (), ⟨draft, journal'⟩) := by
      simp only [runOn_bind, runOn_require_ok, noteRequest, runOn_note]
      exact ran
    rw [answer, whole]
    cases shown : text a with
    | error fault => exact shown.symm
    | ok words =>
      rw [← ended words shown] at shown
      exact shown.symm

theorem result_methodSignature (id : MethodId) :
    ((Renderer.mk s body).methodSignature id).result = s.graph.findMethod id >>= s.signature := by
  apply result_request
  intro m journal
  rw [Scope.runOn_writeSignature]
  cases found : s.signature m with
  | error fault => exact ⟨_, _, rfl, nofun⟩
  | ok text =>
    refine ⟨_, _, rfl, ?_⟩
    rintro _ ⟨⟩
    simp [Draft.push]

theorem result_method (id : MethodId) :
    ((Renderer.mk s Scope.stubBody).method id).result =
      s.graph.findMethod id >>= fun m => s.dialect.indent.linesAt 0 <$> s.methodLines m := by
  apply result_request
  intro m journal
  rw [Scope.runOn_writeMethod_stubBody]
  cases found : s.methodLines m with
  | error fault => exact ⟨_, _, rfl, nofun⟩
  | ok lines =>
    refine ⟨_, _, rfl, ?_⟩
    rintro _ ⟨⟩
    simp

theorem result_field (id : FieldId) :
    ((Renderer.mk s body).field id).result = s.graph.findField id >>= fun f => .ok (s.field f) := by
  apply result_request
  intro f journal
  rw [Scope.writeField_eq, runOn_push]
  refine ⟨_, _, rfl, ?_⟩
  rintro _ ⟨⟩
  simp [Draft.push]

theorem result_typeSignature (id : TypeId) :
    ((Renderer.mk s body).typeSignature id).result =
      s.graph.findType id >>= fun t => .ok (s.typeSignature t) := by
  apply result_request
  intro t journal
  rw [Scope.writeTypeSignature_eq, runOn_push]
  refine ⟨_, _, rfl, ?_⟩
  rintro _ ⟨⟩
  simp [Draft.push]

end Renderer

def fault? {α : Type} : Except Fault α → Option Fault
  | .error fault => some fault
  | .ok _ => none

@[simp] theorem fault?_error {α : Type} (fault : Fault) :
    fault? (.error fault : Except Fault α) = some fault := rfl

@[simp] theorem fault?_ok {α : Type} (a : α) : fault? (.ok a) = none := rfl

theorem fault?_eq_some_iff {α : Type} {result : Except Fault α} {fault : Fault} :
    fault? result = some fault ↔ result = .error fault := by
  cases result <;> simp

/-- A traversal stops with the first fault among the items that are picked. -/
theorem mapM_filterMap_eq_error_iff {α β γ : Type} (pick : α → Option β)
    (read : β → Except Fault γ) (items : List α) (fault : Fault) :
    (items.filterMap pick).mapM read = .error fault ↔
      items.findSome? (fun a => (pick a).bind fun b => fault? (read b)) = some fault := by
  induction items with
  | nil => simp [pure, Except.pure]
  | cons a items ih =>
    cases picked : pick a with
    | none => simpa [picked] using ih
    | some b =>
      rw [List.filterMap_cons_some picked, List.mapM_cons, List.findSome?_cons, picked]
      cases result : read b with
      | error other => simp [result, bind, Except.bind]
      | ok c =>
        rw [Option.bind_some, result, fault?_ok]
        simp only [← ih]
        cases (items.filterMap pick).mapM read <;> simp [bind, Except.bind, pure, Except.pure]

namespace Scope

/-- Constructors that are to be named after their type, which is not there. -/
inductive Nameless (s : Scope) (m : Method) : Fault → Prop where
  | noOwner (construct : m.name = ".ctor" ∨ m.name = ".cctor")
      (byType : s.dialect.methods.constructorName = none) (owned : m.declaringType = none) :
      Nameless s m (.noDeclaringType m.name)
  | unknownOwner {owner : TypeId} (construct : m.name = ".ctor" ∨ m.name = ".cctor")
      (byType : s.dialect.methods.constructorName = none) (owned : m.declaringType = some owner)
      (unknown : s.graph.type? owner = none) : Nameless s m (.unknownType owner)

/-- Why there is no signature for a position. -/
inductive MethodFault (s : Scope) (id : MethodId) : Fault → Prop where
  | unknown (unknown : s.graph.method? id = none) : MethodFault s id (.unknownMethod id)
  | nameless {m : Method} {fault : Fault} (known : s.graph.method? id = some m)
      (nameless : s.Nameless m fault) : MethodFault s id fault

/-- Why there is no source for a target, in the order in which it is found out. The last case is
the first nameless method that the type lists beside the target. -/
inductive SourceFault (s : Scope) (target : MethodId) : Fault → Prop where
  | unknown (unknown : s.graph.method? target = none) : SourceFault s target (.unknownMethod target)
  | noOwner {m : Method} (known : s.graph.method? target = some m)
      (owned : m.declaringType = none) : SourceFault s target (.noDeclaringType m.name)
  | unknownOwner {m : Method} {owner : TypeId} (known : s.graph.method? target = some m)
      (owned : m.declaringType = some owner) (unknown : s.graph.type? owner = none) :
      SourceFault s target (.unknownType owner)
  | namelessStub {m stub : Method} {owner : TypeId} {t : TypeDef} {before after : List MethodId}
      {id : MethodId} {fault : Fault} (known : s.graph.method? target = some m)
      (owned : m.declaringType = some owner) (defined : s.graph.type? owner = some t)
      (listed : t.methods = before ++ id :: after) (other : id ≠ target)
      (found : s.graph.method? id = some stub) (nameless : s.Nameless stub fault)
      (first : ∀ earlier ∈ before, earlier ≠ target → ∀ m', s.graph.method? earlier = some m' →
        ∀ fault', ¬ s.Nameless m' fault') : SourceFault s target fault

variable {s : Scope}

theorem methodName_eq_error_iff {m : Method} {fault : Fault} :
    s.methodName m = .error fault ↔ s.Nameless m fault := by
  constructor
  · intro failed
    unfold methodName at failed
    split at failed
    · rename_i named
      have construct := Method.isConstructor_iff.1 named
      unfold constructorName at failed
      split at failed
      · cases failed
      · rename_i byType
        cases owned : m.declaringType with
        | none =>
          simp only [Method.owner, owned, bind, Except.bind, Except.error.injEq] at failed
          exact failed ▸ .noOwner construct byType owned
        | some owner =>
          cases unknown : s.graph.type? owner with
          | none =>
            simp only [Method.owner, owned, Graph.findType, unknown, bind, Except.bind,
              Except.error.injEq] at failed
            exact failed ▸ .unknownOwner construct byType owned unknown
          | some t =>
            simp [Method.owner, owned, Graph.findType, unknown, bind, Except.bind, pure,
              Except.pure] at failed
    · cases failed
  · rintro (⟨construct, byType, owned⟩ | ⟨construct, byType, owned, unknown⟩)
    · simp [methodName, Method.isConstructor_iff.2 construct, constructorName, byType,
        Method.owner, owned, bind, Except.bind]
    · simp [methodName, Method.isConstructor_iff.2 construct, constructorName, byType,
        Method.owner, owned, Graph.findType, unknown, bind, Except.bind]

theorem signature_eq_error_iff {m : Method} {fault : Fault} :
    s.signature m = .error fault ↔ s.Nameless m fault := by
  rw [← methodName_eq_error_iff, signature]
  cases s.methodName m <;> simp [bind, Except.bind, pure, Except.pure]

theorem fault?_signature_eq_none_iff {m : Method} :
    fault? (s.signature m) = none ↔ ∀ fault, ¬ s.Nameless m fault := by
  simp only [Option.eq_none_iff_forall_ne_some, ne_eq, fault?_eq_some_iff, signature_eq_error_iff]

/-- A body adds nothing to the faults of a signature. -/
theorem fault?_methodAt (body : Method → Nat → String) (depth : Nat) (m : Method) :
    fault? (s.methodAt body depth m) = fault? (s.signature m) := by
  rw [methodAt]
  cases s.signature m <;> rfl

theorem methodLines_eq_error_iff {m : Method} {fault : Fault} :
    s.methodLines m = .error fault ↔ s.Nameless m fault := by
  rw [← signature_eq_error_iff, methodLines]
  cases s.signature m <;> simp [Functor.map, Except.map]

/-- A method whose type is there has a signature, be it a constructor or not. -/
theorem not_nameless {m : Method} {owner : TypeId} {t : TypeDef}
    (owned : m.declaringType = some owner) (defined : s.graph.type? owner = some t)
    (fault : Fault) : ¬ s.Nameless m fault := by
  rintro (⟨-, -, none⟩ | ⟨-, -, some, unknown⟩)
  · rw [owned] at none
    cases none
  · rw [owned] at some
    obtain rfl := Option.some.inj some
    rw [defined] at unknown
    cases unknown

theorem mapM_stubs_eq_error_iff {body : Method → Nat → String} {depth : Nat} {target : MethodId}
    {owner : TypeId} {t : TypeDef} {fault : Fault} (defined : s.graph.type? owner = some t) :
    ((s.graph.methodsOf owner).filter fun stub => stub.1 ≠ target).mapM
        (fun stub => s.methodAt body depth stub.2) = .error fault ↔
      ∃ before id after stub, t.methods = before ++ id :: after ∧ id ≠ target ∧
        s.graph.method? id = some stub ∧ s.Nameless stub fault ∧
        ∀ earlier ∈ before, earlier ≠ target → ∀ m', s.graph.method? earlier = some m' →
          ∀ fault', ¬ s.Nameless m' fault' := by
  -- What a listed position contributes: the fault of its method, unless it is the target.
  have single (id : MethodId) :
      ((((s.graph.method? id).map (id, ·)).filter fun stub => stub.1 ≠ target).bind fun stub =>
        fault? (s.methodAt body depth stub.2)) =
          if id ≠ target then (s.graph.method? id).bind fun m => fault? (s.signature m)
          else none := by
    cases found : s.graph.method? id with
    | none => simp
    | some m => by_cases other : id = target <;> simp [other, fault?_methodAt, Option.filter]
  rw [Graph.methodsOf, defined]
  simp only [List.filter_filterMap, mapM_filterMap_eq_error_iff, single,
    List.findSome?_eq_some_iff]
  constructor
  · rintro ⟨before, id, after, listed, failed, passed⟩
    by_cases other : id = target
    · simp [other] at failed
    · rw [if_pos other, Option.bind_eq_some_iff] at failed
      obtain ⟨stub, found, failed⟩ := failed
      refine ⟨before, id, after, stub, listed, other, found,
        signature_eq_error_iff.1 (fault?_eq_some_iff.1 failed), ?_⟩
      intro earlier mem apart m' known
      have none := passed earlier mem
      rw [if_pos apart, known, Option.bind_some] at none
      exact fault?_signature_eq_none_iff.1 none
  · rintro ⟨before, id, after, stub, listed, other, found, nameless, first⟩
    refine ⟨before, id, after, listed, ?_, ?_⟩
    · rw [if_pos other, found, Option.bind_some]
      exact fault?_eq_some_iff.2 (signature_eq_error_iff.2 nameless)
    · intro earlier mem
      by_cases apart : earlier = target
      · simp [apart]
      · rw [if_pos apart, Option.bind_eq_none_iff]
        intro m' known
        exact fault?_signature_eq_none_iff.2 (first earlier mem apart m' known)

theorem sourceAround_eq_error_iff {body : Method → Nat → String} {target : MethodId} {m : Method}
    {owner : TypeId} {t : TypeDef} {references : List AssemblyRef} {fault : Fault}
    (owned : m.declaringType = some owner) (defined : s.graph.type? owner = some t) :
    s.sourceAround body target m owner t references = .error fault ↔
      ((s.graph.methodsOf owner).filter fun stub => stub.1 ≠ target).mapM
        (fun stub => s.methodAt body (s.blocksAround owner t).length stub.2) = .error fault := by
  have named : fault? (s.methodAt body (s.blocksAround owner t).length m) = none := by
    rw [fault?_methodAt, fault?_signature_eq_none_iff]
    exact not_nameless owned defined
  rw [sourceAround, members]
  cases written : s.methodAt body (s.blocksAround owner t).length m with
  | error other =>
    rw [written] at named
    cases named
  | ok text =>
    cases ((s.graph.methodsOf owner).filter fun stub => stub.1 ≠ target).mapM
      fun stub => s.methodAt body (s.blocksAround owner t).length stub.2 <;>
        simp [bind, Except.bind, pure, Except.pure]

theorem sourceText_eq_error_iff {body : Method → Nat → String} {target : MethodId}
    {references : List AssemblyRef} {fault : Fault} :
    s.sourceText body target references = .error fault ↔ s.SourceFault target fault := by
  constructor
  · intro failed
    cases known : s.graph.method? target with
    | none =>
      simp only [sourceText, Graph.findMethod, known, bind, Except.bind,
        Except.error.injEq] at failed
      exact failed ▸ .unknown known
    | some m =>
      cases owned : m.declaringType with
      | none =>
        simp only [sourceText, Graph.findMethod, known, Method.owner, owned, bind, Except.bind,
          Except.error.injEq] at failed
        exact failed ▸ .noOwner known owned
      | some owner =>
        cases defined : s.graph.type? owner with
        | none =>
          simp only [sourceText, Graph.findMethod, known, Method.owner, owned, Graph.findType,
            defined, bind, Except.bind, Except.error.injEq] at failed
          exact failed ▸ .unknownOwner known owned defined
        | some t =>
          simp only [sourceText, Graph.findMethod, known, Method.owner, owned, Graph.findType,
            defined, bind, Except.bind] at failed
          rw [sourceAround_eq_error_iff owned defined, mapM_stubs_eq_error_iff defined] at failed
          obtain ⟨before, id, after, stub, listed, other, found, nameless, first⟩ := failed
          exact .namelessStub known owned defined listed other found nameless first
  · intro failed
    cases failed with
    | unknown unknown => simp [sourceText, Graph.findMethod, unknown, bind, Except.bind]
    | noOwner known owned =>
      simp [sourceText, Graph.findMethod, known, Method.owner, owned, bind, Except.bind]
    | unknownOwner known owned unknown =>
      simp [sourceText, Graph.findMethod, known, Method.owner, owned, Graph.findType, unknown, bind,
        Except.bind]
    | namelessStub known owned defined listed other found nameless first =>
      simp only [sourceText, Graph.findMethod, known, Method.owner, owned, Graph.findType, defined,
        bind, Except.bind]
      rw [sourceAround_eq_error_iff owned defined, mapM_stubs_eq_error_iff defined]
      exact ⟨_, _, _, _, listed, other, found, nameless, first⟩

end Scope

namespace Renderer

theorem bind_findMethod_eq_error_iff {α : Type} {s : Scope} {read : Method → Except Fault α}
    (faults : ∀ m fault, read m = .error fault ↔ s.Nameless m fault) (id : MethodId)
    (fault : Fault) :
    s.graph.findMethod id >>= read = .error fault ↔ s.MethodFault id fault := by
  cases known : s.graph.method? id with
  | none =>
    rw [Graph.findMethod, known]
    constructor
    · rintro ⟨⟩
      exact .unknown known
    · rintro (_ | ⟨found, -⟩)
      · rfl
      · rw [known] at found
        cases found
  | some m =>
    rw [Graph.findMethod, known]
    constructor
    · intro failed
      exact .nameless known ((faults m fault).1 failed)
    · rintro (unknown | ⟨found, nameless⟩)
      · rw [known] at unknown
        cases unknown
      · obtain rfl := Option.some.inj (known.symm.trans found)
        exact (faults m fault).2 nameless

/-- When a request with stub bodies has no text, on any graph. Types, parameters, fields and the
heads of types are always written, with all their lists, and the types around a type are always
found. A method has no text exactly if it is not there or has no name. A source lacks its target,
the type of the target or the name of a method beside it, and the fault is that of the first thing
it lacks. -/
theorem faults_exactly (s : Scope) :
    let r : Renderer := ⟨s, Scope.stubBody⟩
    (∀ sheet : Sheet,
      (∀ ref, (s.writeTypeRef ref).runOn sheet =
        (.ok (), { sheet with draft := sheet.draft.push (s.typeRef ref) })) ∧
      (∀ p, (s.writeParameter p).runOn sheet =
        (.ok (), { sheet with draft := sheet.draft.push (s.parameter p) })) ∧
      (∀ f, (s.writeField f).runOn sheet =
        (.ok (), { sheet with draft := sheet.draft.push (s.field f) })) ∧
      ∀ t, (s.writeTypeSignature t).runOn sheet =
        (.ok (), { sheet with draft := sheet.draft.push (s.typeSignature t) })) ∧
    (∀ owner, (∀ id ∈ s.graph.nestingChain owner, ∃ t, s.graph.findType id = .ok t) ∧
      ∃ shells, s.findShells owner = .ok shells) ∧
    (∀ id fault, (r.methodSignature id).result = .error fault ↔ s.MethodFault id fault) ∧
    (∀ id fault, (r.method id).result = .error fault ↔ s.MethodFault id fault) ∧
    (∀ target references fault,
      (r.source target references).result = .error fault ↔ s.SourceFault target fault) ∧
    (∀ name,
      (Fault.noDeclaringType name).message = "method `" ++ name ++ "` has no declaring type") ∧
    ∀ index, (Fault.unknownType ⟨index⟩).message = "unknown type type#" ++ index.repr := by
  refine ⟨?_, ?_, ?_, ?_, ?_, fun _ => rfl, ?_⟩
  · intro sheet
    refine ⟨fun ref => ?_, fun p => ?_, fun f => ?_, fun t => ?_⟩
    · rw [Scope.writeTypeRef_eq, Write.runOn_push]
    · rw [Scope.writeParameter_eq, Write.runOn_push]
    · rw [Scope.writeField_eq, Write.runOn_push]
    · rw [Scope.writeTypeSignature_eq, Write.runOn_push]
  · intro owner
    refine ⟨fun id passed => ?_, s.shells owner, s.findShells_eq owner⟩
    have known := Graph.isSome_type?_of_mem_outward (List.mem_reverse.1 passed)
    obtain ⟨t, found⟩ := Option.isSome_iff_exists.1 known
    exact ⟨t, by rw [Graph.findType, found]⟩
  · intro id fault
    rw [result_methodSignature]
    exact bind_findMethod_eq_error_iff (fun m fault => Scope.signature_eq_error_iff) id fault
  · intro id fault
    rw [result_method]
    refine bind_findMethod_eq_error_iff (fun m fault => ?_) id fault
    rw [← Scope.methodLines_eq_error_iff]
    cases s.methodLines m <;> simp [Functor.map, Except.map]
  · intro target references fault
    rw [result_source _ s.stubBody_levelDetermined]
    exact Scope.sourceText_eq_error_iff
  · intro index
    exact String.append_assoc.symm

example :
    let g : Graph := {
      types := [{ name := "T", methods := [⟨2⟩, ⟨0⟩, ⟨9⟩, ⟨1⟩] }]
      methods := [{ name := "Run", declaringType := some ⟨0⟩ },
        { name := ".cctor" }, { name := ".ctor", declaringType := some ⟨7⟩ }] }
    fault? ((Renderer.ofDialect g .braces).source ⟨0⟩ []).result = some (.unknownType ⟨7⟩) := by
  decide +kernel

end Renderer
end StubSource
