import StubSource.Proofs.Bodies

/-!
# The layout of a source

A source is flat text: imports and references at the left margin, then the headers of the blocks
around the members, each one level deeper than the one before, the members at the depth of all
headers, and the ends of the blocks from the innermost to the outermost, each at the depth of its
header. How deep the blocks are nested and which of them have a start token makes no difference.
-/

namespace StubSource
set_option autoImplicit false

theorem exists_of_bind_eq_ok {α β : Type} {first : Except Fault α} {next : α → Except Fault β}
    {b : β} (done : first >>= next = .ok b) : ∃ a, first = .ok a ∧ next a = .ok b := by
  cases first with
  | error fault => cases done
  | ok a => exact ⟨a, rfl, done⟩

theorem mapM_eq_ok_iff {α β : Type} {read : α → Except Fault β} {items : List α}
    {results : List β} : items.mapM read = .ok results ↔ items.map read = results.map .ok := by
  induction items generalizing results with
  | nil => cases results <;> simp [pure, Except.pure]
  | cons a items ih =>
    rw [List.mapM_cons, List.map_cons]
    cases first : read a with
    | error fault => cases results <;> simp [bind, Except.bind]
    | ok b =>
      cases rest : items.mapM read with
      | error fault => cases results <;> simp [bind, Except.bind, ← ih, rest]
      | ok bs =>
        cases results <;> simp [bind, Except.bind, pure, Except.pure, ← ih, rest]

namespace Graph

variable {g : Graph}

theorem method?_of_findMethod {id : MethodId} {m : Method} (found : g.findMethod id = .ok m) :
    g.method? id = some m := by
  unfold findMethod at found
  split at found
  · rename_i known
    rw [known, Except.ok.inj found]
  · cases found

theorem type?_of_findType {id : TypeId} {t : TypeDef} (found : g.findType id = .ok t) :
    g.type? id = some t := by
  unfold findType at found
  split at found
  · rename_i known
    rw [known, Except.ok.inj found]
  · cases found

theorem toOption_findType (g : Graph) (id : TypeId) : (g.findType id).toOption = g.type? id := by
  unfold findType
  cases g.type? id <;> rfl

theorem mapM_findType {ids : List TypeId} (known : ∀ id ∈ ids, (g.type? id).isSome) :
    ids.mapM g.findType = .ok (ids.filterMap g.type?) := by
  rw [mapM_eq_ok_iff]
  induction ids with
  | nil => rfl
  | cons id ids ih =>
    obtain ⟨t, found⟩ := Option.isSome_iff_exists.1 (known id List.mem_cons_self)
    rw [List.map_cons, List.filterMap_cons_some found, List.map_cons, findType, found,
      ih fun other member => known other (List.mem_cons_of_mem id member)]

theorem isSome_type?_of_mem_outward {steps : Nat} {id outer : TypeId}
    (passed : outer ∈ g.outward steps id) : (g.type? outer).isSome := by
  induction steps generalizing id with
  | zero => cases passed
  | succ steps ih =>
    rw [outward] at passed
    split at passed
    · cases passed
    · rename_i t known
      rcases List.mem_cons.1 passed with rfl | beyond
      · rw [known]
        rfl
      · split at beyond
        · cases beyond
        · exact ih beyond

end Graph

theorem Method.declaringType_of_owner {m : Method} {id : TypeId} (found : m.owner = .ok id) :
    m.declaringType = some id := by
  unfold owner at found
  split at found
  · rename_i known
    rw [known, Except.ok.inj found]
  · cases found

namespace BlockWords

def opening (b : BlockWords) (unit : IndentUnit) (depth : Nat) : String :=
  unit.lineAt depth b.header ++ unit.startLine depth b.start

def closing (b : BlockWords) (unit : IndentUnit) (depth : Nat) : String :=
  unit.lineAt depth b.finish

/-- The beginnings of blocks inside each other, the first at `depth`. -/
def openings (unit : IndentUnit) (depth : Nat) (blocks : List BlockWords) : String :=
  String.join (blocks.mapIdx fun i b => b.opening unit (depth + i))

/-- The ends of blocks inside each other, from the innermost out to the first, at `depth`. -/
def closings (unit : IndentUnit) (depth : Nat) (blocks : List BlockWords) : String :=
  String.join (blocks.mapIdx fun i b => b.closing unit (depth + i)).reverse

variable (unit : IndentUnit) (depth : Nat)

@[simp] theorem openings_nil : openings unit depth [] = "" := rfl

@[simp] theorem closings_nil : closings unit depth [] = "" := rfl

theorem openings_cons (b : BlockWords) (blocks : List BlockWords) :
    openings unit depth (b :: blocks) =
      b.opening unit depth ++ openings unit (depth + 1) blocks := by
  simp [openings, List.mapIdx_cons, Nat.add_comm 1, Nat.add_assoc]

theorem closings_cons (b : BlockWords) (blocks : List BlockWords) :
    closings unit depth (b :: blocks) =
      closings unit (depth + 1) blocks ++ b.closing unit depth := by
  simp [closings, List.mapIdx_cons, Nat.add_comm 1, Nat.add_assoc]

theorem openings_append (outer inner : List BlockWords) :
    openings unit depth (outer ++ inner) =
      openings unit depth outer ++ openings unit (depth + outer.length) inner := by
  simp [openings, List.mapIdx_append, Nat.add_comm, Nat.add_left_comm]

theorem closings_append (outer inner : List BlockWords) :
    closings unit depth (outer ++ inner) =
      closings unit (depth + outer.length) inner ++ closings unit depth outer := by
  simp [closings, List.mapIdx_append, Nat.add_comm, Nat.add_left_comm]

end BlockWords

namespace Write.Lays

variable {unit : IndentUnit}

theorem of_eq {w : Write Unit} {level level' : Nat} {added added' : Except Fault String}
    (laid : w.Lays unit level level' added) (same : added = added') :
    w.Lays unit level level' added' := same ▸ laid

theorem openBlocks {α : Type} (block : α → BlockWords) (level : Nat) (items : List α) :
    (items.forM fun a => do push (block a).header; Write.openBlock (block a).start).Lays unit level
      (level + items.length) (.ok (BlockWords.openings unit level (items.map block))) := by
  induction items generalizing level with
  | nil => exact nothing
  | cons a items ih =>
    have both := (openBlock (block a).header (block a).start).bind (ih (level + 1))
    rw [Nat.add_assoc, Nat.add_comm 1] at both
    rw [List.map_cons, BlockWords.openings_cons]
    exact both

/-- Blocks are left in the reverse order, each at the depth of its header. -/
theorem closeBlocks {α : Type} (block : α → BlockWords) (level : Nat) (items : List α) :
    (items.reverse.forM fun a => Write.closeBlock (block a).finish).Lays unit
      (level + items.length) level (.ok (BlockWords.closings unit level (items.map block))) := by
  induction items generalizing level with
  | nil => exact nothing
  | cons a items ih =>
    have both := (ih (level + 1)).bind (closeBlock (block a).finish)
    have last : ((a :: items).reverse.forM fun a => Write.closeBlock (block a).finish) =
        (do items.reverse.forM fun a => Write.closeBlock (block a).finish
            Write.closeBlock (block a).finish) := by
      simp
    rw [Nat.add_assoc, Nat.add_comm 1] at both
    rw [List.map_cons, BlockWords.closings_cons, last]
    exact both

end Write.Lays

namespace Scope

open Write

def typeBlock (s : Scope) (t : TypeDef) : BlockWords :=
  ⟨s.typeHeader t, s.dialect.types.start, (s.kindWords t.kind).finish⟩

/-- The block around the types of a namespace; the empty namespace has none. -/
def namespaceBlocks (s : Scope) (ns : String) : List BlockWords :=
  if ns.isEmpty then []
  else [{ s.dialect.namespaceBlock with header := s.dialect.namespaceBlock.header ++ ns }]

/-- The types around `owner` that are there, from the outermost inward. -/
def shells (s : Scope) (owner : TypeId) : List TypeDef :=
  ((s.graph.nestingChain owner).filter fun id => id ≠ owner).filterMap s.graph.type?

/-- A nesting chain is made of types that are there, so none is missing when they are looked up. -/
theorem findShells_eq (s : Scope) (owner : TypeId) : s.findShells owner = .ok (s.shells owner) := by
  apply Graph.mapM_findType
  intro id member
  exact Graph.isSome_type?_of_mem_outward (List.mem_reverse.1 (List.mem_filter.1 member).1)

/-- The blocks around the members of a type, from the outermost inward. -/
def blocksAround (s : Scope) (owner : TypeId) (t : TypeDef) : List BlockWords :=
  s.namespaceBlocks (s.graph.effectiveNs owner) ++ (s.shells owner).map s.typeBlock ++
    [s.typeBlock t]

def commentAt (s : Scope) (depth : Nat) (text : String) : String :=
  s.dialect.indent.lineAt depth (s.dialect.commentMark ++ text)

/-- What is said of a referenced assembly: its name and the four parts of its version. -/
def referenceWords (r : AssemblyRef) : String :=
  "- " ++ r.name ++ " v" ++ r.version.major.toNat.repr ++ "." ++ r.version.minor.toNat.repr ++
    "." ++ r.version.build.toNat.repr ++ "." ++ r.version.revision.toNat.repr

theorem dash_display (r : AssemblyRef) : "- " ++ r.display = referenceWords r := by
  unfold AssemblyRef.display Version.toString referenceWords
  simp only [String.append_assoc]

/-- The lines above all blocks. -/
def preamble (s : Scope) (references : List AssemblyRef) : String :=
  String.join (s.dialect.defaultImports.map fun ns =>
      s.dialect.indent.lineAt 0 (s.dialect.importLine.around ns)) ++
    s.dialect.indent.lineAt 0 "" ++
    s.commentAt 0 "[Referenced assemblies]" ++
    String.join (references.map fun r => s.commentAt 0 (referenceWords r)) ++
    s.dialect.indent.lineAt 0 ""

def regionAt (s : Scope) (depth : Nat) (label notice : String) (content : String) : String :=
  s.dialect.indent.lineAt depth (s.dialect.region.around label) ++ s.commentAt depth notice ++
    content ++ s.dialect.indent.lineAt depth s.dialect.regionEnd

/-- A method with the body that is fixed by its level. Since a body leaves a line begun, the line
break behind it makes an empty line. -/
def methodAt (s : Scope) (body : Method → Nat → String) (depth : Nat) (m : Method) :
    Except Fault String := do
  return s.dialect.indent.lineAt depth ((← s.signature m) ++ body m depth)

def signatureD (s : Scope) (m : Method) : String := (s.signature m).toOption.getD ""

theorem exists_of_methodAt {s : Scope} {body : Method → Nat → String} {depth : Nat} {m : Method}
    {text : String} (laid : s.methodAt body depth m = .ok text) :
    s.signature m = .ok (s.signatureD m) ∧
      text = s.dialect.indent.lineAt depth (s.signatureD m ++ body m depth) := by
  obtain ⟨signature, known, laid⟩ := exists_of_bind_eq_ok laid
  obtain rfl := Except.ok.inj laid
  rw [signatureD, known]
  exact ⟨rfl, rfl⟩

/-- The lines inside a type: the notice for whoever edits it, the target, the other methods and the
fields. -/
def membersAt (s : Scope) (depth : Nat) (target : String) (stubs : List String)
    (fields : List Field) : String :=
  String.join (disclaimer.map (s.commentAt depth)) ++ target ++
    s.regionAt depth methodsLabel methodsNotice (String.join stubs) ++
    s.dialect.indent.lineAt depth "" ++
    s.regionAt depth fieldsLabel fieldsNotice
      (String.join (fields.map fun f => s.dialect.indent.lineAt depth (s.field f)))

/-- The lines inside a type with the target and the other methods, or the fault of the first method
without a signature. -/
def members (s : Scope) (body : Method → Nat → String) (depth : Nat) (m : Method)
    (stubs : List (MethodId × Method)) (fields : List (FieldId × Field)) : Except Fault String := do
  return s.membersAt depth (← s.methodAt body depth m)
    (← stubs.mapM fun stub => s.methodAt body depth stub.2) (fields.map Prod.snd)

variable {s : Scope}

theorem lays_writeComment (level : Nat) (text : String) :
    (s.writeComment text).Lays s.dialect.indent level level (.ok (s.commentAt level text)) :=
  Lays.line _

theorem lays_writeRegion (level : Nat) (label notice : String) {content : Write Unit}
    {added : Except Fault String} (inner : content.Lays s.dialect.indent level level added) :
    (s.writeRegion label notice content).Lays s.dialect.indent level level
      (s.regionAt level label notice <$> added) := by
  have whole := (Lays.line (s.dialect.region.around label)).bind
    ((s.lays_writeComment level notice).bind (inner.bind (Lays.line s.dialect.regionEnd)))
  apply whole.of_eq
  cases added with
  | error fault => rfl
  | ok text => exact congrArg Except.ok (by simp [regionAt, String.append_assoc])

theorem lays_writeMethod {body : BodyWriter} {text : Method → Nat → String}
    (fixed : body.LevelDetermined s text) (level : Nat) (m : Method) :
    (do s.writeMethod body m; breakLine : Write Unit).Lays s.dialect.indent level level
      (s.methodAt text level m) := by
  cases found : s.signature m with
  | error fault =>
    have lacking : s.methodAt text level m = .error fault := by rw [methodAt, found]; rfl
    intro lines journal
    refine ⟨(Draft.fresh s.dialect.indent lines level).push (s.methodModifiers m), journal, ?_, ?_⟩
    · simp [writeMethod, runOn_bind, runOn_writeSignature, found, lacking, Except.map]
    · simp [lacking]
  | ok signature =>
    have whole : s.methodAt text level m =
        .ok (s.dialect.indent.lineAt level (signature ++ text m level)) := by
      rw [methodAt, found]; rfl
    rw [whole]
    refine Lays.of_draft fun lines journal => ?_
    have begun : (Draft.fresh s.dialect.indent lines level).push signature =
        ⟨lines ++ s.dialect.indent.times level ++ signature, level, s.dialect.indent⟩ := rfl
    obtain ⟨journal', ran⟩ := fixed.appends m
      (lines ++ s.dialect.indent.times level ++ signature) level journal
    refine ⟨journal', ?_⟩
    simp only [writeMethod, runOn_bind, runOn_writeSignature, found, begun, ran, runOn_breakLine,
      Draft.breakLine_eq_fresh]
    simp [IndentUnit.lineAt, String.append_assoc]

theorem lays_writeMethodStubs {body : BodyWriter} {text : Method → Nat → String}
    (fixed : body.LevelDetermined s text) (level : Nat) {target : MethodId}
    {stubs : List (MethodId × Method)} (listed : s.graph.methodStubs target = .ok stubs) :
    (s.writeMethodStubs body target).Lays s.dialect.indent level level
      ((fun texts => s.regionAt level methodsLabel methodsNotice (String.join texts)) <$>
        stubs.mapM fun stub => s.methodAt text level stub.2) := by
  have region := lays_writeRegion level methodsLabel methodsNotice
    (Lays.forM stubs fun stub _ => lays_writeMethod fixed level stub.2)
  rw [writeMethodStubs, listed, require, pure_bind]
  apply Lays.after_note
  apply region.of_eq
  cases stubs.mapM fun stub => s.methodAt text level stub.2 <;> rfl

theorem lays_writeFieldStubs (level : Nat) (owner : TypeId) :
    (s.writeFieldStubs owner).Lays s.dialect.indent level level
      (.ok (s.regionAt level fieldsLabel fieldsNotice (String.join
        ((s.graph.fieldStubs owner).map fun stub =>
          s.dialect.indent.lineAt level (s.field stub.2))))) := by
  have each : ∀ stub ∈ s.graph.fieldStubs owner,
      (do s.writeField stub.2; breakLine : Write Unit).Lays s.dialect.indent level level
        (.ok (s.dialect.indent.lineAt level (s.field stub.2))) := by
    intro stub _
    rw [writeField_eq]
    exact Lays.line (s.field stub.2)
  exact Lays.after_note _ _ (lays_writeRegion level fieldsLabel fieldsNotice (Lays.forM_ok _ each))

theorem lays_members {body : BodyWriter} {text : Method → Nat → String}
    (fixed : body.LevelDetermined s text) (level : Nat) {target : MethodId} (m : Method)
    (owner : TypeId) {stubs : List (MethodId × Method)}
    (listed : s.graph.methodStubs target = .ok stubs) :
    (do
      s.writeDisclaimer
      s.writeMethod body m
      breakLine
      s.writeMethodStubs body target
      breakLine
      s.writeFieldStubs owner : Write Unit).Lays s.dialect.indent level level
        (s.members text level m stubs (s.graph.fieldStubs owner)) := by
  have notice : s.writeDisclaimer.Lays s.dialect.indent level level
      (.ok (String.join (disclaimer.map (s.commentAt level)))) :=
    Lays.forM_ok disclaimer fun text _ => lays_writeComment level text
  have whole := notice.bind ((lays_writeMethod fixed level m).bind
    ((lays_writeMethodStubs fixed level listed).bind
      (Lays.breakLine.bind (lays_writeFieldStubs level owner))))
  rw [bind_assoc] at whole
  apply whole.of_eq
  rw [members]
  cases s.methodAt text level m with
  | error fault => rfl
  | ok method =>
    cases stubs.mapM fun stub => s.methodAt text level stub.2 with
    | error fault => rfl
    | ok texts =>
      refine congrArg Except.ok ?_
      simp only [membersAt, List.map_map, String.append_assoc]
      rfl

theorem openType_eq (t : TypeDef) : s.openType t = (do
    push (s.typeBlock t).header
    openBlock (s.typeBlock t).start) := by
  rw [openType, writeTypeHeader_eq]
  rfl

theorem lays_writeEnclosingType {body : BodyWriter} {text : Method → Nat → String}
    (fixed : body.LevelDetermined s text) (level : Nat) {target : MethodId} {m : Method}
    {owner : TypeId} {t : TypeDef} {stubs : List (MethodId × Method)}
    (known : s.graph.findMethod target = .ok m) (owned : m.owner = .ok owner)
    (defined : s.graph.findType owner = .ok t) (listed : s.graph.methodStubs target = .ok stubs)
    {blocks : List BlockWords}
    (around : blocks = (s.shells owner).map s.typeBlock ++ [s.typeBlock t]) :
    (s.writeEnclosingType body target).Lays s.dialect.indent level level
      ((fun lines => BlockWords.openings s.dialect.indent level blocks ++ lines ++
        BlockWords.closings s.dialect.indent level blocks) <$>
          s.members text (level + blocks.length) m stubs (s.graph.fieldStubs owner)) := by
  subst around
  have inner := lays_members fixed (level + (s.shells owner).length + 1) m owner listed
  have whole := (Lays.openBlocks s.typeBlock level (s.shells owner)).bind
    ((Lays.openBlock (s.typeBlock t).header (s.typeBlock t).start).bind
      (inner.bind ((Lays.closeBlock (s.typeBlock t).finish).bind
        (Lays.closeBlocks s.typeBlock level (s.shells owner)))))
  have program : s.writeEnclosingType body target = (do
      (s.shells owner).forM fun t => do
        push (s.typeBlock t).header
        openBlock (s.typeBlock t).start
      (do
        push (s.typeBlock t).header
        openBlock (s.typeBlock t).start)
      (do
        s.writeDisclaimer
        s.writeMethod body m
        breakLine
        s.writeMethodStubs body target
        breakLine
        s.writeFieldStubs owner)
      s.closeType t
      (s.shells owner).reverse.forM s.closeType) := by
    simp only [writeEnclosingType, known, owned, defined, findShells_eq, require, pure_bind,
      bind_assoc, ← openType_eq]
  rw [program]
  apply whole.of_eq
  have depth : level + ((s.shells owner).map s.typeBlock ++ [s.typeBlock t]).length =
      level + (s.shells owner).length + 1 := by
    simp [Nat.add_assoc]
  rw [depth]
  cases s.members text (level + (s.shells owner).length + 1) m stubs
      (s.graph.fieldStubs owner) with
  | error fault => rfl
  | ok lines =>
    refine congrArg Except.ok ?_
    simp [BlockWords.openings_append, BlockWords.closings_append, BlockWords.openings_cons,
      BlockWords.closings_cons, BlockWords.opening, BlockWords.closing, String.append_assoc]

theorem lays_inNamespace (level : Nat) (ns : String) {content : Write Unit}
    {added : Except Fault String}
    (inner : content.Lays s.dialect.indent (level + (s.namespaceBlocks ns).length)
      (level + (s.namespaceBlocks ns).length) added) :
    (s.inNamespace ns content).Lays s.dialect.indent level level
      ((fun lines => BlockWords.openings s.dialect.indent level (s.namespaceBlocks ns) ++ lines ++
        BlockWords.closings s.dialect.indent level (s.namespaceBlocks ns)) <$> added) := by
  by_cases empty : ns.isEmpty
  · simp only [namespaceBlocks, empty, if_true, List.length_nil, Nat.add_zero,
      BlockWords.openings_nil, BlockWords.closings_nil, String.empty_append, String.append_empty,
      id_map'] at inner ⊢
    rw [inNamespace, if_pos empty]
    exact inner
  · simp only [namespaceBlocks, if_neg empty, List.length_singleton] at inner ⊢
    have whole := (Lays.openBlock (s.dialect.namespaceBlock.header ++ ns)
      s.dialect.namespaceBlock.start).bind
        (inner.bind (Lays.closeBlock s.dialect.namespaceBlock.finish))
    have program : s.inNamespace ns content = (do
        (do
          push (s.dialect.namespaceBlock.header ++ ns)
          openBlock s.dialect.namespaceBlock.start)
        content
        closeBlock s.dialect.namespaceBlock.finish) := by
      rw [inNamespace, if_neg empty, bind_assoc]
    rw [program]
    apply whole.of_eq
    cases added with
    | error fault => rfl
    | ok lines =>
      refine congrArg Except.ok ?_
      simp [BlockWords.openings_cons, BlockWords.closings_cons, BlockWords.opening,
        BlockWords.closing, String.append_assoc]

theorem lays_preamble (references : List AssemblyRef) :
    (do
      s.writeDefaultImports
      breakLine
      s.writeReferences references
      breakLine : Write Unit).Lays s.dialect.indent 0 0 (.ok (s.preamble references)) := by
  have imports : s.writeDefaultImports.Lays s.dialect.indent 0 0 (.ok (String.join
      (s.dialect.defaultImports.map fun ns =>
        s.dialect.indent.lineAt 0 (s.dialect.importLine.around ns)))) :=
    Lays.forM_ok _ fun ns _ => Lays.line _
  have each : ∀ r ∈ references, (s.writeComment ("- " ++ r.display)).Lays s.dialect.indent 0 0
      (.ok (s.commentAt 0 (referenceWords r))) := by
    intro r _
    rw [dash_display]
    exact s.lays_writeComment 0 (referenceWords r)
  have listed := (s.lays_writeComment 0 "[Referenced assemblies]").bind
    (Lays.forM_ok references each)
  have whole := imports.bind (Lays.breakLine.bind (listed.bind Lays.breakLine))
  apply whole.of_eq
  refine congrArg Except.ok ?_
  simp only [preamble, String.append_assoc]

/-- The source for a method `m` of the type `t`, as flat text, or the fault of a method in it. -/
def sourceAround (s : Scope) (body : Method → Nat → String) (target : MethodId) (m : Method)
    (owner : TypeId) (t : TypeDef) (references : List AssemblyRef) : Except Fault String := do
  let blocks := s.blocksAround owner t
  let members ← s.members body blocks.length m
    ((s.graph.methodsOf owner).filter fun stub => stub.1 ≠ target) (s.graph.fieldStubs owner)
  return s.preamble references ++ BlockWords.openings s.dialect.indent 0 blocks ++ members ++
    BlockWords.closings s.dialect.indent 0 blocks

/-- The source for a target, as flat text, or the fault for which there is none. -/
def sourceText (s : Scope) (body : Method → Nat → String) (target : MethodId)
    (references : List AssemblyRef) : Except Fault String := do
  let m ← s.graph.findMethod target
  let owner ← m.owner
  let t ← s.graph.findType owner
  s.sourceAround body target m owner t references

theorem lays_writeSource {body : BodyWriter} {text : Method → Nat → String}
    (fixed : body.LevelDetermined s text) {target : MethodId} {m : Method}
    {owner : TypeId} {t : TypeDef} (references : List AssemblyRef)
    (known : s.graph.findMethod target = .ok m) (owned : m.owner = .ok owner)
    (defined : s.graph.findType owner = .ok t) :
    (s.writeSource body target owner references).Lays s.dialect.indent 0 0
      (s.sourceAround text target m owner t references) := by
  have listed : s.graph.methodStubs target =
      .ok ((s.graph.methodsOf owner).filter fun stub => stub.1 ≠ target) := by
    rw [Graph.methodStubs, known]
    simp only [bind, Except.bind, owned]
    rfl
  have inner := lays_inNamespace 0 (s.graph.effectiveNs owner)
    (lays_writeEnclosingType fixed (0 + (s.namespaceBlocks (s.graph.effectiveNs owner)).length)
      known owned defined listed rfl)
  have whole := (lays_preamble references).bind inner
  have program : s.writeSource body target owner references = (do
      (do
        s.writeDefaultImports
        breakLine
        s.writeReferences references
        breakLine)
      s.inNamespace (s.graph.effectiveNs owner) (s.writeEnclosingType body target)) := by
    simp only [writeSource, bind_assoc]
  -- The namespace and the types are written by different writers, but they nest as one list.
  have blocks : s.blocksAround owner t = s.namespaceBlocks (s.graph.effectiveNs owner) ++
      ((s.shells owner).map s.typeBlock ++ [s.typeBlock t]) := List.append_assoc _ _ _
  have depth : 0 + (s.namespaceBlocks (s.graph.effectiveNs owner)).length +
      ((s.shells owner).map s.typeBlock ++ [s.typeBlock t]).length =
        (s.blocksAround owner t).length := by
    simp [blocks]
  rw [program]
  apply whole.of_eq
  rw [depth, sourceAround]
  cases s.members text (s.blocksAround owner t).length m
      ((s.graph.methodsOf owner).filter fun stub => stub.1 ≠ target)
      (s.graph.fieldStubs owner) with
  | error fault => rfl
  | ok lines =>
    refine congrArg Except.ok ?_
    simp [blocks, BlockWords.openings_append, BlockWords.closings_append, String.append_assoc]

theorem map_type?_shells (s : Scope) (owner : TypeId) :
    ((s.graph.nestingChain owner).filter fun id => id ≠ owner).map s.graph.type? =
      (s.shells owner).map some := by
  have found := congrArg (List.map Except.toOption) (mapM_eq_ok_iff.1 (s.findShells_eq owner))
  rw [List.map_map, List.map_map] at found
  rw [← show Except.toOption ∘ s.graph.findType = s.graph.type? from
    funext s.graph.toOption_findType]
  exact found

theorem exists_of_mapM_methodAt {body : Method → Nat → String} {depth : Nat}
    {stubs : List (MethodId × Method)} {texts : List String}
    (laid : stubs.mapM (fun stub => s.methodAt body depth stub.2) = .ok texts) :
    (∀ stub ∈ stubs, s.signature stub.2 = .ok (s.signatureD stub.2)) ∧
      texts = stubs.map fun stub =>
        s.dialect.indent.lineAt depth (s.signatureD stub.2 ++ body stub.2 depth) := by
  induction stubs generalizing texts with
  | nil =>
    rw [List.mapM_nil] at laid
    obtain rfl := Except.ok.inj laid
    exact ⟨List.forall_mem_nil _, rfl⟩
  | cons stub stubs ih =>
    rw [List.mapM_cons] at laid
    obtain ⟨first, found, laid⟩ := exists_of_bind_eq_ok laid
    obtain ⟨rest, below, laid⟩ := exists_of_bind_eq_ok laid
    obtain ⟨known, rfl⟩ := exists_of_methodAt found
    obtain ⟨others, rfl⟩ := ih below
    obtain rfl := Except.ok.inj laid
    exact ⟨List.forall_mem_cons.2 ⟨known, others⟩, rfl⟩

theorem exists_of_members {body : Method → Nat → String} {depth : Nat} {m : Method}
    {stubs : List (MethodId × Method)} {fields : List (FieldId × Field)} {text : String}
    (laid : s.members body depth m stubs fields = .ok text) :
    (∀ m' ∈ m :: stubs.map Prod.snd, s.signature m' = .ok (s.signatureD m')) ∧
      text = s.membersAt depth
        (s.dialect.indent.lineAt depth (s.signatureD m ++ body m depth))
        (stubs.map fun stub =>
          s.dialect.indent.lineAt depth (s.signatureD stub.2 ++ body stub.2 depth))
        (fields.map Prod.snd) := by
  obtain ⟨target, found, laid⟩ := exists_of_bind_eq_ok laid
  obtain ⟨texts, below, laid⟩ := exists_of_bind_eq_ok laid
  obtain ⟨known, rfl⟩ := exists_of_methodAt found
  obtain ⟨others, rfl⟩ := exists_of_mapM_methodAt below
  obtain rfl := Except.ok.inj laid
  refine ⟨List.forall_mem_cons.2 ⟨known, ?_⟩, rfl⟩
  intro m' member
  obtain ⟨stub, listed, rfl⟩ := List.mem_map.1 member
  exact others stub listed

theorem exists_of_sourceText_eq_ok {body : Method → Nat → String} {target : MethodId}
    {references : List AssemblyRef} {text : String}
    (written : s.sourceText body target references = .ok text) :
    ∃ m owner t members, s.graph.findMethod target = .ok m ∧ m.owner = .ok owner ∧
      s.graph.findType owner = .ok t ∧
      s.members body (s.blocksAround owner t).length m
        ((s.graph.methodsOf owner).filter fun stub => stub.1 ≠ target)
        (s.graph.fieldStubs owner) = .ok members ∧
      text = s.preamble references ++
        BlockWords.openings s.dialect.indent 0 (s.blocksAround owner t) ++ members ++
        BlockWords.closings s.dialect.indent 0 (s.blocksAround owner t) := by
  rw [sourceText] at written
  obtain ⟨m, known, written⟩ := exists_of_bind_eq_ok written
  obtain ⟨owner, owned, written⟩ := exists_of_bind_eq_ok written
  obtain ⟨t, defined, written⟩ := exists_of_bind_eq_ok written
  obtain ⟨members, laid, written⟩ := exists_of_bind_eq_ok written
  exact ⟨m, owner, t, members, known, owned, defined, laid, (Except.ok.inj written).symm⟩

end Scope

namespace Renderer

open Write

theorem result_answer {r : Renderer} {w : Write Unit} {added : Except Fault String}
    (laid : w.Lays r.scope.dialect.indent 0 0 added) : (r.answer w).result = added := by
  have blank : Sheet.blank r.scope.dialect = ⟨.fresh r.scope.dialect.indent "" 0, []⟩ := by
    simp [Sheet.blank, Draft.fresh]
  obtain ⟨draft, journal, ran, ended⟩ := laid "" []
  rw [answer, blank, ran]
  cases added with
  | error fault => rfl
  | ok text =>
    obtain rfl := ended text rfl
    exact congrArg Except.ok (by simp [Draft.fresh])

/-- The answer to a request for a source is flat text. -/
theorem result_source (r : Renderer) {text : Method → Nat → String}
    (fixed : r.body.LevelDetermined r.scope text) (target : MethodId)
    (references : List AssemblyRef) :
    (r.source target references).result = r.scope.sourceText text target references := by
  apply result_answer
  refine Lays.require _ fun m known => Lays.require _ fun owner owned =>
    Lays.require _ fun t defined => ?_
  exact Lays.after_note _ _ (Scope.lays_writeSource fixed references known owned defined)

/-- The layout of a source, for every body writer that is fixed by its level: the imports, an empty
line, the references, each with its name and the four parts of its version, and an empty line; the
headers of the namespace, of the types around the declaring type and of the declaring type, the one
at place `i` at depth `i`; the members at the depth of all headers; and the ends of the blocks, each
at the depth of its header, in the reverse order. Stub bodies and bodies that only throw are fixed
by their level, and every type of the nesting chain but the declaring type has a header. -/
theorem source_layout (r : Renderer) :
    (∃ text, BodyWriter.LevelDetermined Scope.stubBody r.scope text) ∧
    (∃ text, BodyWriter.LevelDetermined Scope.throwingBody r.scope text) ∧
    ∀ body, r.body.LevelDetermined r.scope body → ∀ target references text,
      (r.source target references).result = .ok text →
      ∃ m owner t, ∃ signature : Method → String,
        let s := r.scope
        let unit := s.dialect.indent
        let comment (words : String) := unit.lineAt 0 (s.dialect.commentMark ++ words)
        let version (v : Version) := v.major.toNat.repr ++ "." ++ v.minor.toNat.repr ++ "." ++
          v.build.toNat.repr ++ "." ++ v.revision.toNat.repr
        let blocks := s.blocksAround owner t
        let depth := blocks.length
        let stubs := (s.graph.methodsOf owner).filter fun stub => stub.1 ≠ target
        s.graph.method? target = some m ∧ m.declaringType = some owner ∧
        s.graph.type? owner = some t ∧
        ((s.graph.nestingChain owner).filter fun id => id ≠ owner).map s.graph.type? =
          (s.shells owner).map some ∧
        (∀ m' ∈ m :: stubs.map Prod.snd, s.signature m' = .ok (signature m')) ∧
        text =
          String.join (s.dialect.defaultImports.map fun ns =>
            unit.lineAt 0 (s.dialect.importLine.before ++ ns ++ s.dialect.importLine.after)) ++
          unit.lineAt 0 "" ++
          comment "[Referenced assemblies]" ++
          String.join (references.map fun ref =>
            comment ("- " ++ ref.name ++ " v" ++ version ref.version)) ++
          unit.lineAt 0 "" ++
          BlockWords.openings unit 0 blocks ++
          s.membersAt depth (unit.lineAt depth (signature m ++ body m depth))
            (stubs.map fun stub =>
              unit.lineAt depth (signature stub.2 ++ body stub.2 depth))
            ((s.graph.fieldsOf owner).map Prod.snd) ++
          BlockWords.closings unit 0 blocks := by
  refine ⟨⟨_, r.scope.stubBody_levelDetermined⟩, ⟨_, r.scope.throwingBody_levelDetermined⟩, ?_⟩
  intro body fixed target references text written
  rw [r.result_source fixed] at written
  obtain ⟨m, owner, t, members, known, owned, defined, laid, rfl⟩ :=
    Scope.exists_of_sourceText_eq_ok written
  obtain ⟨signatures, rfl⟩ := Scope.exists_of_members laid
  refine ⟨m, owner, t, r.scope.signatureD, Graph.method?_of_findMethod known,
    Method.declaringType_of_owner owned, Graph.type?_of_findType defined,
    r.scope.map_type?_shells owner, signatures, ?_⟩
  unfold Scope.preamble Scope.referenceWords Scope.commentAt Frame.around Graph.fieldStubs
  simp only [String.append_assoc]

/-- A class with two methods and a field, in a structure in a namespace. -/
def nestedClass : Graph :=
  let outer := ({} : Graph).addType (.ofStruct "N" "Outer")
  let inner := outer.addNestedType ⟨0⟩ (.ofClass "" "Inner")
  let methods := (inner.addMethod ⟨1⟩ (.ofName "Run")).addMethod ⟨1⟩
    ((Method.ofName "stop").returning (.system "Int32"))
  methods.addField ⟨1⟩ { name := "count", type := .system "Int32" }

/-- A dialect in which types have a start token and namespaces have none. -/
def openNamespaces : Dialect where
  defaultImports := ["System", "System.Text"]
  namespaceBlock := ⟨"Namespace ", "", "End Namespace"⟩
  identifiers := { reserved := ["stop"] }

/-- The source for the first method of the class, with one reference. -/
def nestedSource : List String := [
  "using System;",
  "using System.Text;",
  "",
  "// [Referenced assemblies]",
  "// - mscorlib v4.0.30319.65535",
  "",
  "Namespace N",
  "    struct Outer",
  "    \x7b",
  "        class Inner",
  "        \x7b",
  "            // Limited support!",
  "            // You can only reference methods or fields defined in the class (not in " ++
    "ancestors classes)",
  "            // Fields and methods stubs are needed for compilation purposes only.",
  "            // References to the current type, its fields and methods are mapped back to " ++
    "the originals automatically.",
  "            public void Run()",
  "            \x7b",
  "            \x7d",
  "            ",
  "            #region \" Methods stubs \"",
  "            // Do not add or update any method. If compilation fails because of a method " ++
    "declaration, comment it",
  "            public System.Int32 @stop()",
  "            \x7b",
  "                return default(System.Int32);",
  "            \x7d",
  "            ",
  "            #endregion",
  "            ",
  "            #region \" Fields stubs \"",
  "            // Do not add or update any field. If compilation fails because of a field " ++
    "declaration, comment it",
  "            private System.Int32 count;",
  "            #endregion",
  "        \x7d",
  "    \x7d",
  "End Namespace"]

theorem source_layout_in_three_blocks :
    let r := Renderer.ofDialect nestedClass openNamespaces
    let references := [{ name := "mscorlib", version := ⟨4, 0, 30319, 65535⟩ }]
    (r.source ⟨0⟩ references).result = .ok (String.join (nestedSource.map (· ++ "\n"))) := by
  intro r references
  let run : Method := { Method.ofName "Run" with declaringType := some ⟨1⟩ }
  let stop : Method :=
    { (Method.ofName "stop").returning (.system "Int32") with declaringType := some ⟨1⟩ }
  have written : (r.source ⟨0⟩ references).result.toOption.isSome := by decide +kernel
  cases found : (r.source ⟨0⟩ references).result with
  | error fault =>
    rw [found] at written
    cases written
  | ok text =>
    obtain ⟨m, owner, t, signature, known, owned, defined, -, signatures, laid⟩ :=
      r.source_layout.2.2 _ r.scope.stubBody_levelDetermined ⟨0⟩ references text found
    obtain rfl : run = m := Option.some.inj known
    obtain rfl : (⟨1⟩ : TypeId) = owner := Option.some.inj owned
    obtain rfl := Option.some.inj defined
    have beside : ((r.scope.graph.methodsOf ⟨1⟩).filter fun stub => stub.1 ≠ ⟨0⟩) =
        [(⟨1⟩, stop)] := rfl
    have headed {m : Method} {head : String} (listed : m ∈ [run, stop])
        (shown : (r.scope.signature m).toOption = some head) : signature m = head := by
      rw [signatures m listed] at shown
      exact Option.some.inj shown
    have first : signature run = "public void Run()" :=
      headed List.mem_cons_self (by decide +kernel)
    have second : signature stop = "public System.Int32 @stop()" :=
      headed (List.mem_cons_of_mem run List.mem_cons_self) (by decide +kernel)
    simp only [beside, List.map_cons, List.map_nil, first, second] at laid
    rw [laid]
    exact congrArg Except.ok (by decide +kernel)

end Renderer
end StubSource
