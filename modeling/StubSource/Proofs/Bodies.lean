import StubSource.Dialect.CSharp
import StubSource.Renderer
import StubSource.Sample.Calculator
import StubSource.Proofs.LineTexts
import StubSource.Proofs.OneLine

/-!
# Methods with their bodies

A body writer is fixed by its level if the text it puts behind a signature depends on the method and
the level only. Stub bodies are such, and the lines of a method with a stub body do not even depend
on the level: a deeper level indents every line that the writer began, and nothing else.
-/

namespace StubSource
set_option autoImplicit false

/-- At every level the body of a method is a fixed text. It ends with a line begun at that level,
and the level is the same again afterwards. -/
structure BodyWriter.LevelDetermined (body : BodyWriter) (s : Scope)
    (text : Method → Nat → String) : Prop where
  appends : ∀ m before level journal, ∃ journal',
    (body s m).runOn ⟨⟨before, level, s.dialect.indent⟩, journal⟩ =
      (.ok (), ⟨⟨before ++ text m level, level, s.dialect.indent⟩, journal'⟩)
  ends : ∀ m level, ∃ lines, text m level = lines ++ "\n" ++ s.dialect.indent.times level

/-- Lines with a line break and the indentation of a level between them. -/
def IndentUnit.linesAt (unit : IndentUnit) (level : Nat) (lines : List String) : String :=
  ("\n" ++ unit.times level).intercalate lines

theorem IndentUnit.linesAt_concat (unit : IndentUnit) (level : Nat) (first : String)
    (lines : List String) :
    unit.linesAt level (first :: lines ++ [""]) =
      first ++ "\n" ++ String.join (lines.map (unit.lineAt level)) ++ unit.times level := by
  induction lines generalizing first with
  | nil => simp [linesAt, String.append_assoc]
  | cons line lines ih =>
    have next := ih line
    simp only [linesAt, List.cons_append, String.intercalate_cons_cons] at next ⊢
    rw [next]
    simp [lineAt, String.append_assoc]

/-- Where no line has a line break of its own, the indentation goes behind every line break. -/
theorem IndentUnit.linesAt_eq_replaceAll (unit : IndentUnit) (level : Nat) {lines : List String}
    (each : ∀ line ∈ lines, OneLine line) :
    (unit.linesAt level lines).toList =
      Text.replaceAll ['\n'] ("\n" ++ unit.times level).toList (unit.linesAt 0 lines).toList := by
  rw [Text.replaceAll_singleton]
  induction lines with
  | nil => simp [linesAt]
  | cons line lines ih =>
    have kept := Text.flatMap_replace_of_notMem ("\n" ++ unit.times level).toList
      (each line List.mem_cons_self)
    have rest := ih fun l hl => each l (List.mem_cons_of_mem line hl)
    cases lines with
    | nil => simpa [linesAt] using kept.symm
    | cons next lines =>
      simp only [linesAt, String.intercalate_cons_cons, String.toList_append,
        List.flatMap_append] at kept rest ⊢
      rw [kept, ← rest]
      simp

theorem IndentUnit.exists_lineBegun (unit : IndentUnit) (level : Nat) (before last : String) :
    ∃ lines, before ++ unit.lineAt level last ++ unit.times level =
      lines ++ "\n" ++ unit.times level :=
  ⟨before ++ unit.times level ++ last, by simp [lineAt, String.append_assoc]⟩

namespace Scope

open Write

def signature (s : Scope) (m : Method) : Except Fault String := do
  return s.methodModifiers m ++ s.methodDeclaration m (← s.methodName m)

theorem runOn_writeSignature (s : Scope) (m : Method) (sheet : Sheet) :
    (s.writeSignature m).runOn sheet =
      match s.signature m with
      | .ok text => (.ok (), { sheet with draft := sheet.draft.push text })
      | .error fault =>
        (.error fault, { sheet with draft := sheet.draft.push (s.methodModifiers m) }) := by
  cases named : s.methodName m with
  | error fault =>
    have lacking : s.signature m = .error fault := by rw [signature, named]; rfl
    simp [writeSignature, runOn_bind, named, lacking]
  | ok name =>
    have whole : s.signature m = .ok (s.methodModifiers m ++ s.methodDeclaration m name) := by
      rw [signature, named]; rfl
    simp [writeSignature, runOn_bind, named, whole]

def blockLines (s : Scope) (m : Method) : List String :=
  let words := s.dialect.methods
  (if words.start.isEmpty then [] else [words.start]) ++
    if m.isFunction then
      [s.dialect.indent.text ++ s.returnDefault m.returnType, words.functionFinish]
    else [words.procedureFinish]

/-- The lines of a method with a stub body behind its signature, as they are at level zero. The
last one is the line that the body leaves begun. -/
def stubLines (s : Scope) (m : Method) (signature : String) : List String :=
  if m.flags.isAbstract then [signature ++ s.dialect.methods.abstractEnd, ""]
  else signature :: s.blockLines m ++ [""]

def methodLines (s : Scope) (m : Method) : Except Fault (List String) :=
  s.stubLines m <$> s.signature m

theorem exists_of_methodLines_eq_ok {s : Scope} {m : Method} {lines : List String}
    (found : s.methodLines m = .ok lines) :
    ∃ signature, s.signature m = .ok signature ∧ lines = s.stubLines m signature := by
  rw [methodLines] at found
  cases known : s.signature m with
  | error fault =>
    rw [known] at found
    cases found
  | ok signature =>
    rw [known] at found
    cases found
    exact ⟨signature, rfl, rfl⟩

theorem linesAt_stubLines (s : Scope) (m : Method) (signature : String) (level : Nat) :
    s.dialect.indent.linesAt level (s.stubLines m signature) =
      signature ++ s.dialect.indent.linesAt level (s.stubLines m "") := by
  unfold stubLines
  split
  · simp [IndentUnit.linesAt, String.append_assoc]
  · rw [IndentUnit.linesAt_concat, IndentUnit.linesAt_concat]
    simp [String.append_assoc]

theorem join_blockLines (s : Scope) (m : Method) (level : Nat) :
    String.join ((s.blockLines m).map (s.dialect.indent.lineAt level)) =
      s.dialect.indent.startLine level s.dialect.methods.start ++
        if m.isFunction then
          s.dialect.indent.lineAt (level + 1) (s.returnDefault m.returnType) ++
            s.dialect.indent.lineAt level s.dialect.methods.functionFinish
        else s.dialect.indent.lineAt level s.dialect.methods.procedureFinish := by
  simp only [blockLines, List.map_append, String.join_append]
  congr 1
  · unfold IndentUnit.startLine
    split <;> simp
  · split <;> simp [IndentUnit.lineAt_succ]

theorem runOn_stubBody (s : Scope) (m : Method) (before : String) (level : Nat)
    (journal : List Note) :
    (stubBody s m).runOn ⟨⟨before, level, s.dialect.indent⟩, journal⟩ =
      (.ok (), ⟨⟨before ++ s.dialect.indent.linesAt level (s.stubLines m ""), level,
        s.dialect.indent⟩, journal⟩) := by
  by_cases bodiless : m.flags.isAbstract
  · simp [stubBody, stubLines, IndentUnit.linesAt, bodiless, Draft.line, Draft.breakLine,
      Draft.push, String.append_assoc]
  · have ran : (stubBody s m).runOn ⟨⟨before, level, s.dialect.indent⟩, journal⟩ =
        (.ok (), ⟨.fresh s.dialect.indent (before ++ "\n" ++
          String.join ((s.blockLines m).map (s.dialect.indent.lineAt level))) level, journal⟩) := by
      rw [join_blockLines]
      by_cases value : m.isFunction
      · simp [stubBody, bodiless, value, runOn_bind, Draft.openBlock_eq_fresh, Draft.line_fresh,
          Draft.closeBlock_fresh, String.append_assoc]
      · simp [stubBody, bodiless, value, runOn_bind, Draft.openBlock_eq_fresh,
          Draft.closeBlock_fresh, String.append_assoc]
    rw [ran, stubLines, if_neg bodiless, IndentUnit.linesAt_concat]
    simp [Draft.fresh, String.append_assoc]

theorem stubBody_levelDetermined (s : Scope) :
    BodyWriter.LevelDetermined stubBody s fun m level =>
      s.dialect.indent.linesAt level (s.stubLines m "") where
  appends := fun m before level journal => ⟨journal, s.runOn_stubBody m before level journal⟩
  ends := by
    intro m level
    unfold stubLines
    split
    · exact ⟨s.dialect.methods.abstractEnd, by simp [IndentUnit.linesAt, String.append_assoc]⟩
    · rw [IndentUnit.linesAt_concat, join_blockLines]
      split
      · simpa [String.append_assoc] using s.dialect.indent.exists_lineBegun level
          ("\n" ++ s.dialect.indent.startLine level s.dialect.methods.start ++
            s.dialect.indent.lineAt (level + 1) (s.returnDefault m.returnType))
          s.dialect.methods.functionFinish
      · simpa [String.append_assoc] using s.dialect.indent.exists_lineBegun level
          ("\n" ++ s.dialect.indent.startLine level s.dialect.methods.start)
          s.dialect.methods.procedureFinish

def throwingBody : BodyWriter := fun _ _ => do
  openBlock "\x7b"
  line "throw new System.NotImplementedException();"
  closeBlock "\x7d"

theorem throwingBody_levelDetermined (s : Scope) :
    BodyWriter.LevelDetermined throwingBody s fun _ level =>
      "\n" ++ s.dialect.indent.lineAt level "\x7b" ++
        s.dialect.indent.lineAt (level + 1) "throw new System.NotImplementedException();" ++
        s.dialect.indent.lineAt level "\x7d" ++ s.dialect.indent.times level where
  appends := fun m before level journal => ⟨journal, by
    have ran : (throwingBody s m).runOn ⟨⟨before, level, s.dialect.indent⟩, journal⟩ =
        (.ok (), ⟨.fresh s.dialect.indent (before ++ "\n" ++
          s.dialect.indent.startLine level "\x7b" ++
          s.dialect.indent.lineAt (level + 1) "throw new System.NotImplementedException();" ++
          s.dialect.indent.lineAt level "\x7d") level, journal⟩) := by
      simp [throwingBody, runOn_bind, Draft.openBlock_eq_fresh, Draft.line_fresh,
        Draft.closeBlock_fresh, String.append_assoc]
    rw [ran]
    simp [Draft.fresh, IndentUnit.startLine, String.append_assoc]⟩
  ends := fun _ level => s.dialect.indent.exists_lineBegun level _ "\x7d"

theorem runOn_writeMethod_stubBody (s : Scope) (m : Method) (before : String) (level : Nat)
    (journal : List Note) :
    (s.writeMethod stubBody m).runOn ⟨⟨before, level, s.dialect.indent⟩, journal⟩ =
      match s.methodLines m with
      | .ok lines => (.ok (), ⟨⟨before ++ s.dialect.indent.linesAt level lines, level,
          s.dialect.indent⟩, journal⟩)
      | .error fault => (.error fault, ⟨⟨before ++ s.methodModifiers m, level,
          s.dialect.indent⟩, journal⟩) := by
  rw [writeMethod, runOn_bind, runOn_writeSignature, methodLines]
  cases s.signature m with
  | error fault => rfl
  | ok signature =>
    have ran := s.runOn_stubBody m (before ++ signature) level journal
    rw [String.append_assoc, ← linesAt_stubLines] at ran
    exact ran

theorem result_method {s : Scope} {m : Method} {id : MethodId} {lines : List String}
    (known : s.graph.method? id = some m) (found : s.methodLines m = .ok lines) :
    ((Renderer.mk s stubBody).method id).result = .ok (s.dialect.indent.linesAt 0 lines) := by
  have blank : Sheet.blank s.dialect = ⟨⟨"", 0, s.dialect.indent⟩, []⟩ := rfl
  have looked : s.graph.findMethod id = .ok m := by rw [Graph.findMethod, known]
  simp [Renderer.method, Renderer.answer, Renderer.noteRequest, looked, runOn_bind, blank,
    runOn_writeMethod_stubBody, found, Except.map]

theorem oneLine_of_mem_blockLines {s : Scope} (h : s.OneLineWords) {m : Method}
    (names : ∀ n ∈ m.returnType.names, OneLine n) : ∀ line ∈ s.blockLines m, OneLine line := by
  have value : OneLine (s.dialect.indent.text ++ s.returnDefault m.returnType) := by
    rw [oneLine_append]
    exact ⟨s.dialect.indent.newline_notMem_text, h.returnDefault names⟩
  intro line member
  simp only [blockLines, List.mem_append] at member
  rcases member with start | inner
  · split at start
    · cases start
    · rw [List.mem_singleton.1 start]
      exact h.words _ (by simp [Dialect.methodWords])
  · split at inner
    · rcases List.mem_cons.1 inner with rfl | finish
      · exact value
      · rw [List.mem_singleton.1 finish]
        exact h.words _ (by simp [Dialect.methodWords])
    · rw [List.mem_singleton.1 inner]
      exact h.words _ (by simp [Dialect.methodWords])

theorem oneLine_of_signature_eq_ok {s : Scope} (h : s.OneLineWords) {m : Method} {text : String}
    (names : ∀ n ∈ m.names, OneLine n) (found : s.signature m = .ok text) : OneLine text := by
  cases named : s.methodName m with
  | error fault =>
    rw [signature, named] at found
    cases found
  | ok name =>
    rw [signature, named] at found
    cases found
    have hname := h.methodName (names m.name (by simp [Method.names])) named
    rw [oneLine_append]
    exact ⟨h.methodModifiers m, h.methodDeclaration names hname⟩

/-- A line of a method has a line break of its own only if a word or name in it has one. -/
theorem oneLine_of_mem_methodLines {s : Scope} {m : Method} {lines : List String}
    (tokens : ∀ token ∈ s.methodTokens m, OneLine token) (found : s.methodLines m = .ok lines) :
    ∀ line ∈ lines, OneLine line := by
  obtain ⟨words, names⟩ := oneLineWords_of_tokens tokens
  obtain ⟨signature, known, rfl⟩ := exists_of_methodLines_eq_ok found
  have first := oneLine_of_signature_eq_ok words names known
  intro line member
  unfold stubLines at member
  split at member
  · rcases List.mem_cons.1 member with rfl | last
    · rw [oneLine_append]
      exact ⟨first, words.words _ (by simp [Dialect.methodWords])⟩
    · rw [List.mem_singleton.1 last]
      exact oneLine_empty
  · rw [List.cons_append, List.mem_cons, List.mem_append, List.mem_singleton] at member
    rcases member with rfl | inner | rfl
    · exact first
    · exact oneLine_of_mem_blockLines words
        (fun n hn => names n (by simp [Method.names, hn])) line inner
    · exact oneLine_empty

/-- A method with a stub body reads the same everywhere. Behind any text and at any level, its
lines are those of the method alone, with the indentation of the level at the start of every line
but the first; the level stays, and the last line is begun and empty. Where no name or word has a
line break, this puts the indentation behind every line break of the method alone. -/
theorem writeMethod_stubBody_at_level (s : Scope) (m : Method) (before : String) (level : Nat)
    (journal : List Note) (after : Sheet)
    (ran : (s.writeMethod stubBody m).runOn ⟨⟨before, level, s.dialect.indent⟩, journal⟩ =
      (.ok (), after)) :
    ∃ lines, s.methodLines m = .ok lines ∧
      after.draft = ⟨before ++ s.dialect.indent.linesAt level lines, level, s.dialect.indent⟩ ∧
      (∃ written, after.draft.text =
        before ++ written ++ "\n" ++ s.dialect.indent.times level) ∧
      (∀ id, s.graph.method? id = some m →
        ((Renderer.mk s stubBody).method id).result = .ok (s.dialect.indent.linesAt 0 lines)) ∧
      ((∀ line ∈ lines, OneLine line) ∨ (∀ token ∈ s.methodTokens m, OneLine token) →
        (s.dialect.indent.linesAt level lines).toList =
          Text.replaceAll ['\n'] ("\n" ++ s.dialect.indent.times level).toList
            (s.dialect.indent.linesAt 0 lines).toList) := by
  rw [runOn_writeMethod_stubBody] at ran
  cases found : s.methodLines m with
  | error fault => simp [found] at ran
  | ok lines =>
    rw [found] at ran
    cases ran
    refine ⟨lines, rfl, rfl, ?_, fun id known => result_method known found, ?_⟩
    · obtain ⟨signature, -, rfl⟩ := exists_of_methodLines_eq_ok found
      obtain ⟨written, ended⟩ := s.stubBody_levelDetermined.ends m level
      refine ⟨signature ++ written, ?_⟩
      rw [linesAt_stubLines, ended]
      simp [String.append_assoc]
    · rintro (each | tokens)
      · exact s.dialect.indent.linesAt_eq_replaceAll level each
      · exact s.dialect.indent.linesAt_eq_replaceAll level (oneLine_of_mem_methodLines tokens found)

theorem writeMethod_stubBody_add_at_level_two :
    let s : Scope := ⟨Sample.calculator "App", .csharp, Dialect.csharp.naming⟩
    let m := Sample.methods.get ⟨1, by decide⟩
    ∃ after, (s.writeMethod stubBody m).runOn ⟨⟨"x ", 2, s.dialect.indent⟩, []⟩ = (.ok (), after) ∧
      after.draft.text = "x public int Add(int a, int b)\n        \x7b\n" ++
        "            return default(int);\n        \x7d\n        " := by
  intro s m
  have shown : (s.methodLines m).toOption = some ["public int Add(int a, int b)", "\x7b",
      "    return default(int);", "\x7d", ""] := by decide +kernel
  cases found : s.methodLines m with
  | error fault =>
    rw [found] at shown
    cases shown
  | ok lines =>
    have ran := s.runOn_writeMethod_stubBody m "x " 2 []
    rw [found] at ran shown
    obtain ⟨_, known, placed, -⟩ := s.writeMethod_stubBody_at_level m "x " 2 [] _ ran
    obtain rfl := Except.ok.inj (found.symm.trans known)
    cases shown
    refine ⟨_, ran, ?_⟩
    rw [placed]
    decide +kernel

end Scope
end StubSource
