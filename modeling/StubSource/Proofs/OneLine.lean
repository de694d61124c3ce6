import StubSource.Writing.Declaration

/-!
# Texts on one line

A declaration is put together from the words of the dialect, the names of the metadata and the
shown forms of aliases. Where none of these has a line break, neither has the declaration.
-/

namespace StubSource
set_option autoImplicit false

/-- The text has no line break of its own. -/
def OneLine (text : String) : Prop := '\n' ∉ text.toList

instance (text : String) : Decidable (OneLine text) := inferInstanceAs (Decidable (¬_))

@[simp] theorem oneLine_empty : OneLine "" := by decide

@[simp] theorem oneLine_append {a b : String} : OneLine (a ++ b) ↔ OneLine a ∧ OneLine b := by
  simp [OneLine]

theorem oneLine_ite {c : Prop} [Decidable c] {a b : String} (ha : OneLine a) (hb : OneLine b) :
    OneLine (if c then a else b) := by
  split
  · exact ha
  · exact hb

theorem oneLine_join {parts : List String} (each : ∀ part ∈ parts, OneLine part) :
    OneLine (String.join parts) := by
  intro found
  rw [String.toList_join, List.mem_flatMap] at found
  obtain ⟨part, member, inside⟩ := found
  exact each part member inside

theorem oneLine_intercalate {separator : String} {parts : List String} (hs : OneLine separator)
    (each : ∀ part ∈ parts, OneLine part) : OneLine (separator.intercalate parts) := by
  induction parts with
  | nil => simp
  | cons part parts ih =>
    have rest := ih fun b hb => each b (List.mem_cons_of_mem part hb)
    cases parts with
    | nil => simpa using each part List.mem_cons_self
    | cons next parts =>
      rw [String.intercalate_cons_cons, oneLine_append, oneLine_append]
      exact ⟨⟨each part List.mem_cons_self, hs⟩, rest⟩

theorem OneLine.of_subset {a b : String} (hb : OneLine b) (sub : a.toList ⊆ b.toList) :
    OneLine a := fun found => hb (sub found)

theorem oneLine_enclose {b : Brackets} {separator : String} {always : Bool} {items : List String}
    (ho : OneLine b.opening) (hc : OneLine b.closing) (hs : OneLine separator)
    (each : ∀ item ∈ items, OneLine item) : OneLine (b.enclose separator always items) := by
  apply oneLine_ite
  · rw [oneLine_append, oneLine_append]
    exact ⟨⟨ho, oneLine_intercalate hs each⟩, hc⟩
  · exact oneLine_empty

theorem Text.subset_of_cutAt? {marker text before after : List Char}
    (cut : cutAt? marker text = some (before, after)) : before ⊆ text ∧ after ⊆ text := by
  induction text generalizing before with
  | nil =>
    simp only [cutAt?, Option.map_eq_some_iff, Prod.mk.injEq] at cut
    obtain ⟨rest, found, rfl, rfl⟩ := cut
    refine ⟨List.nil_subset _, ?_⟩
    rw [after?_eq_some.1 found]
    exact List.subset_append_right _ _
  | cons c text ih =>
    simp only [cutAt?] at cut
    split at cut
    · rename_i rest found
      cases cut
      rw [after?_eq_some.1 found]
      exact ⟨List.nil_subset _, List.subset_append_right _ _⟩
    · simp only [Option.map_eq_some_iff, Prod.mk.injEq] at cut
      obtain ⟨⟨front, back⟩, below, rfl, rfl⟩ := cut
      have parts := ih below
      exact ⟨List.cons_subset_cons c parts.1, List.subset_cons_of_subset c parts.2⟩

namespace Name

theorem oneLine_dropArity {name : String} (h : OneLine name) : OneLine (dropArity name) := by
  apply h.of_subset
  rw [dropArity, String.toList_ofList]
  exact (List.takeWhile_sublist _).subset

theorem oneLine_qualify {ns name : String} (hns : OneLine ns) (hname : OneLine name) :
    OneLine (qualify ns name) := by
  apply oneLine_ite hname
  rw [oneLine_append, oneLine_append]
  exact ⟨⟨hns, by decide⟩, hname⟩

end Name

namespace AliasTable

theorem longest?_mem {text : List Char} {entries : List (String × String)}
    {entry : String × String} (found : longest? text entries = some entry) : entry ∈ entries := by
  induction entries with
  | nil => cases found
  | cons first entries ih =>
    simp only [longest?] at found
    split at found
    · exact List.mem_cons_of_mem first (ih found)
    · split at found
      · cases found
        exact List.mem_cons_self
      · rename_i other below
        split at found
        · cases found
          exact List.mem_cons_self
        · cases found
          exact List.mem_cons_of_mem first (ih below)

/-- What substitution writes is in the text or in a shown form. -/
theorem mem_substituteFrom {entries : List (String × String)} {c : Char} {fresh : Bool}
    {skip : Nat} {text : List Char} (found : c ∈ substituteFrom entries fresh skip text) :
    c ∈ text ∨ ∃ entry ∈ entries, c ∈ entry.2.toList := by
  fun_induction substituteFrom entries fresh skip text with
  | case1 => cases found
  | case2 _ _ d text ih => exact (ih found).imp_left (List.mem_cons_of_mem d)
  | case3 fresh d text key shown matched ih =>
    rcases List.mem_append.1 found with inShown | below
    · split at matched
      · exact .inr ⟨_, longest?_mem matched, inShown⟩
      · cases matched
    · exact (ih below).imp_left (List.mem_cons_of_mem d)
  | case4 fresh d text _ ih =>
    rcases List.mem_cons.1 found with rfl | below
    · exact .inl List.mem_cons_self
    · exact (ih below).imp_left (List.mem_cons_of_mem d)

end AliasTable

theorem Naming.oneLine_resolve {naming : Naming} {name : String} (ns : String)
    (hname : OneLine name) (shown : ∀ entry ∈ naming.aliases.entries, OneLine entry.2) :
    OneLine (naming.resolve name ns) := by
  have aliased : OneLine (naming.aliases.substitute name) := by
    intro found
    rw [AliasTable.substitute, String.toList_ofList] at found
    rcases AliasTable.mem_substituteFrom found with inName | ⟨entry, member, inShown⟩
    · exact hname inName
    · exact shown entry member inShown
  unfold resolve shorten
  split
  · exact aliased
  · split
    · rename_i rest cut
      apply aliased.of_subset
      rw [Text.after?_eq_some.1 cut, String.toList_ofList]
      exact List.subset_append_right _ _
    · exact aliased

def Dialect.methodWords (d : Dialect) : List String :=
  [d.generics.opening, d.generics.closing, d.parameters.opening, d.parameters.closing,
    d.arrays.opening, d.arrays.closing, d.separator, d.rankSeparator, d.pointerMark,
    d.declarations.annotation, d.declarations.byRef, d.declarations.byValue, d.declarations.out,
    d.modifiers.everyone, d.modifiers.ownType, d.modifiers.family, d.modifiers.assembly,
    d.modifiers.familyOrAssembly, d.modifiers.familyAndAssembly, d.modifiers.staticWord,
    d.modifiers.abstractWord, d.modifiers.virtualWord, d.modifiers.overrideWord,
    d.modifiers.sealedWord, d.methods.procedureWord, d.methods.functionWord, d.methods.voidType,
    d.methods.start, d.methods.procedureFinish, d.methods.functionFinish, d.methods.returnDefault,
    d.methods.abstractEnd, d.identifiers.escape.before, d.identifiers.escape.after] ++
    d.methods.constructorName.toList

mutual

def TypeRef.names : TypeRef → List String
  | .named ns name arguments _ => ns :: name :: TypeRef.namesOfAll arguments
  | .array element _ => element.names
  | .byRef element => element.names
  | .pointer element => element.names
  | .parameter name => [name]

def TypeRef.namesOfAll : List TypeRef → List String
  | [] => []
  | ref :: refs => ref.names ++ TypeRef.namesOfAll refs

end

def Method.names (m : Method) : List String :=
  m.name :: m.returnType.names ++ m.genericParameters.map GenericParameter.name ++
    m.parameters.flatMap fun p => p.name :: p.type.names

/-- Everything that the text of a method may be put together from: the words of the dialect, the
shown forms of aliases, the names of the defined types and those in the method itself. -/
def Scope.methodTokens (s : Scope) (m : Method) : List String :=
  s.dialect.methodWords ++ s.naming.aliases.entries.map Prod.snd ++
    s.graph.types.flatMap (fun t => [t.ns, t.name]) ++ m.names

namespace Scope

/-- No word, alias or type that a scope may write has a line break. -/
structure OneLineWords (s : Scope) : Prop where
  words : ∀ word ∈ s.dialect.methodWords, OneLine word
  shown : ∀ entry ∈ s.naming.aliases.entries, OneLine entry.2
  types : ∀ t ∈ s.graph.types, OneLine t.ns ∧ OneLine t.name

variable {s : Scope}

theorem oneLineWords_of_tokens {m : Method} (tokens : ∀ token ∈ s.methodTokens m, OneLine token) :
    s.OneLineWords ∧ ∀ name ∈ m.names, OneLine name := by
  simp only [methodTokens, List.mem_append, List.mem_map, List.mem_flatMap] at tokens
  refine ⟨⟨?_, ?_, ?_⟩, ?_⟩
  · exact fun word h => tokens word (.inl (.inl (.inl h)))
  · exact fun entry h => tokens entry.2 (.inl (.inl (.inr ⟨entry, h, rfl⟩)))
  · intro t h
    exact ⟨tokens t.ns (.inl (.inr ⟨t, h, by simp⟩)), tokens t.name (.inl (.inr ⟨t, h, by simp⟩))⟩
  · exact fun name h => tokens name (.inr h)

namespace OneLineWords

variable (h : s.OneLineWords)
include h

theorem safeName {name : String} (hname : OneLine name) : OneLine (s.safeName name) := by
  have before := h.words s.dialect.identifiers.escape.before (by simp [Dialect.methodWords])
  have after := h.words s.dialect.identifiers.escape.after (by simp [Dialect.methodWords])
  apply oneLine_ite _ hname
  rw [Frame.around, oneLine_append, oneLine_append]
  exact ⟨⟨before, hname⟩, after⟩

theorem shownName {ns name : String} (hns : OneLine ns) (hname : OneLine name) :
    OneLine (s.shownName ns name) :=
  Naming.oneLine_resolve ns (Name.oneLine_qualify hns (Name.oneLine_dropArity hname)) h.shown

theorem definition {ref : TypeRef} {t : TypeDef} (found : s.definition? ref = some t) :
    OneLine (s.typeName t) := by
  unfold definition? at found
  split at found
  · have inGraph := h.types t (List.mem_of_getElem? found)
    exact h.shownName inGraph.1 inGraph.2
  · cases found

theorem generics {items : List String} (each : ∀ item ∈ items, OneLine item) :
    OneLine (s.dialect.generics.enclose s.dialect.separator false items) :=
  oneLine_enclose (h.words _ (by simp [Dialect.methodWords]))
    (h.words _ (by simp [Dialect.methodWords])) (h.words _ (by simp [Dialect.methodWords])) each

mutual

theorem typeRef : ∀ ref : TypeRef, (∀ name ∈ ref.names, OneLine name) → OneLine (s.typeRef ref)
  | .named ns name arguments _, names => by
    simp only [TypeRef.names, List.mem_cons, forall_eq_or_imp] at names
    rw [Scope.typeRef, oneLine_append]
    exact ⟨h.shownName names.1 names.2.1, h.generics (typeArguments arguments names.2.2)⟩
  | .array element rank, names => by
    have inner := typeRef element names
    rw [Scope.typeRef, oneLine_append, oneLine_append, oneLine_append]
    refine ⟨⟨⟨inner, h.words _ (by simp [Dialect.methodWords])⟩, oneLine_join ?_⟩,
      h.words _ (by simp [Dialect.methodWords])⟩
    intro part member
    rw [List.eq_of_mem_replicate member]
    exact h.words _ (by simp [Dialect.methodWords])
  | .byRef element, names => by
    rw [Scope.typeRef, oneLine_append]
    exact ⟨h.words _ (by simp [Dialect.methodWords]), typeRef element names⟩
  | .pointer element, names => by
    rw [Scope.typeRef, oneLine_append]
    exact ⟨typeRef element names, h.words _ (by simp [Dialect.methodWords])⟩
  | .parameter name, names => by
    rw [Scope.typeRef]
    exact h.safeName (names name (by simp [TypeRef.names]))

theorem typeArguments : ∀ refs : List TypeRef, (∀ name ∈ TypeRef.namesOfAll refs, OneLine name) →
    ∀ item ∈ s.typeArguments refs, OneLine item
  | [], _ => nofun
  | ref :: refs, names => by
    simp only [TypeRef.namesOfAll, List.mem_append] at names
    have first := typeRef ref fun name member => names name (.inl member)
    have rest := typeArguments refs fun name member => names name (.inr member)
    intro item member
    rw [Scope.typeArguments] at member
    rcases List.mem_cons.1 member with rfl | below
    · split
      · rename_i t found
        exact h.definition found
      · exact first
    · exact rest item below

end

theorem typedName {name type : String} (hname : OneLine name) (htype : OneLine type) :
    OneLine (s.typedName name type) := by
  unfold Scope.typedName
  split
  · rw [oneLine_append, oneLine_append]
    exact ⟨⟨htype, by decide⟩, hname⟩
  · rw [oneLine_append, oneLine_append]
    exact ⟨⟨hname, h.words _ (by simp [Dialect.methodWords])⟩, htype⟩

theorem parameter {p : Parameter} (hname : OneLine p.name)
    (names : ∀ name ∈ p.type.names, OneLine name) : OneLine (s.parameter p) := by
  have declared := h.safeName hname
  unfold Scope.parameter
  split
  · rename_i element byRef
    rw [byRef, TypeRef.names] at names
    rw [oneLine_append]
    refine ⟨oneLine_ite ?_ ?_, h.typedName declared (h.typeRef element names)⟩
    · exact h.words _ (by simp [Dialect.methodWords])
    · exact h.words _ (by simp [Dialect.methodWords])
  · rw [oneLine_append]
    exact ⟨h.words _ (by simp [Dialect.methodWords]), h.typedName declared (h.typeRef _ names)⟩

theorem genericParameters {ps : List GenericParameter}
    (names : ∀ p ∈ ps, OneLine p.name) : OneLine (s.genericParameters ps) := by
  apply h.generics
  intro item member
  obtain ⟨p, hp, rfl⟩ := List.mem_map.1 member
  exact h.safeName (names p hp)

theorem visibility (v : Visibility) : OneLine (s.visibility v) := by
  cases v <;> exact h.words _ (by simp [Dialect.methodWords, Scope.visibility])

theorem methodModifiers (m : Method) : OneLine (s.methodModifiers m) := by
  unfold Scope.methodModifiers
  rw [oneLine_append, oneLine_append]
  refine ⟨⟨oneLine_ite oneLine_empty (h.visibility _), oneLine_ite ?_ oneLine_empty⟩, ?_⟩
  · exact h.words _ (by simp [Dialect.methodWords])
  refine oneLine_ite (h.words _ (by simp [Dialect.methodWords]))
    (oneLine_ite ?_ (oneLine_ite ?_ ?_))
  · rw [oneLine_append]
    exact ⟨oneLine_ite (h.words _ (by simp [Dialect.methodWords])) oneLine_empty,
      h.words _ (by simp [Dialect.methodWords])⟩
  · exact h.words _ (by simp [Dialect.methodWords])
  · exact oneLine_empty

/-- A constructor is named by the dialect or after a type of the graph. -/
theorem methodName {m : Method} {name : String} (hname : OneLine m.name)
    (found : s.methodName m = .ok name) : OneLine name := by
  unfold Scope.methodName at found
  split at found
  · unfold constructorName at found
    split at found
    · rename_i fixed chosen
      cases found
      exact h.words _ (by simp [Dialect.methodWords, chosen])
    · cases owner : m.owner with
      | error fault => simp [owner, bind, Except.bind] at found
      | ok id =>
        cases known : s.graph.type? id with
        | none => simp [owner, Graph.findType, known, bind, Except.bind] at found
        | some t =>
          simp only [owner, Graph.findType, known, bind, Except.bind, pure, Except.pure,
            Except.ok.injEq] at found
          have inGraph := h.types t (List.mem_of_getElem? known)
          exact found ▸ h.safeName (Name.oneLine_dropArity inGraph.2)
  · cases found
    exact h.safeName hname

theorem methodDeclaration {m : Method} {name : String} (names : ∀ n ∈ m.names, OneLine n)
    (hname : OneLine name) : OneLine (s.methodDeclaration m name) := by
  simp only [Method.names, List.mem_cons, List.mem_append, List.mem_map, List.mem_flatMap] at names
  have result : OneLine (s.typeRef m.returnType) :=
    h.typeRef _ fun n hn => names n (.inl (.inl (.inr hn)))
  have generic : OneLine (if m.isConstructor then "" else
      s.genericParameters m.genericParameters) :=
    oneLine_ite oneLine_empty
      (h.genericParameters fun p hp => names p.name (.inl (.inr ⟨p, hp, rfl⟩)))
  have arguments : OneLine (s.parameters m.parameters) := by
    refine oneLine_enclose (h.words _ (by simp [Dialect.methodWords]))
      (h.words _ (by simp [Dialect.methodWords])) (h.words _ (by simp [Dialect.methodWords])) ?_
    intro item member
    obtain ⟨p, hp, rfl⟩ := List.mem_map.1 member
    exact h.parameter (names p.name (.inr ⟨p, hp, .inl rfl⟩))
      fun n hn => names n (.inr ⟨p, hp, .inr hn⟩)
  cases placed : s.dialect.declarations.placement with
  | beforeName =>
    simp only [Scope.methodDeclaration, placed, oneLine_append]
    refine ⟨⟨⟨oneLine_ite oneLine_empty ?_, hname⟩, generic⟩, arguments⟩
    rw [oneLine_append]
    exact ⟨oneLine_ite (h.words _ (by simp [Dialect.methodWords])) result, by decide⟩
  | afterName =>
    simp only [Scope.methodDeclaration, placed, oneLine_append]
    refine ⟨⟨⟨⟨oneLine_ite ?_ ?_, hname⟩, generic⟩, arguments⟩, oneLine_ite ?_ oneLine_empty⟩
    · exact h.words _ (by simp [Dialect.methodWords])
    · exact h.words _ (by simp [Dialect.methodWords])
    · rw [oneLine_append]
      exact ⟨h.words _ (by simp [Dialect.methodWords]), result⟩

theorem returnDefault {type : TypeRef} (names : ∀ n ∈ type.names, OneLine n) :
    OneLine (s.returnDefault type) := by
  have template := h.words s.dialect.methods.returnDefault (by simp [Dialect.methodWords])
  simp only [Scope.returnDefault]
  split
  · rename_i before after cut
    have parts := Text.subset_of_cutAt? cut
    rw [oneLine_append, oneLine_append]
    exact ⟨⟨template.of_subset (by simpa using parts.1), h.typeRef type names⟩,
      template.of_subset (by simpa using parts.2)⟩
  · exact template

end OneLineWords
end Scope
end StubSource
