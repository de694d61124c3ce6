import StubSource.Draft
import StubSource.Writing.Scope

/-!
# Writing

A writer works on a sheet: the draft of the source and the journal of what was done. It may stop
with a fault, and then the sheet keeps what was written up to there.
-/

namespace StubSource
set_option autoImplicit false

structure Sheet where
  draft : Draft
  journal : List Note := []

/-- An empty sheet for a dialect. -/
def Sheet.blank (d : Dialect) : Sheet := { draft := { unit := d.indent } }

abbrev Write := ExceptT Fault (StateM Sheet)

/-- Writes what follows the signature of a method, from the end of its line to the start of a new
line at the same level. -/
abbrev BodyWriter := Scope → Method → Write Unit

namespace Write

/-- The result of a writer and the sheet that it leaves. -/
def runOn {α : Type} (w : Write α) (sheet : Sheet) : Except Fault α × Sheet :=
  Id.run (w.run.run sheet)

def edit (change : Draft → Draft) : Write Unit :=
  modify fun sheet => { sheet with draft := change sheet.draft }

def push (text : String) : Write Unit := edit (·.push text)

def breakLine : Write Unit := edit Draft.breakLine

def line (text : String) : Write Unit := edit (·.line text)

def openBlock (start : String) : Write Unit := edit (·.openBlock start)

def closeBlock (finish : String) : Write Unit := edit (·.closeBlock finish)

def note (importance : Importance) (message : String) : Write Unit :=
  modify fun sheet => { sheet with journal := sheet.journal ++ [⟨importance, message⟩] }

/-- Goes on with what was found, or stops with the fault. -/
def require {α : Type} : Except Fault α → Write α
  | .ok a => pure a
  | .error fault => throw fault

/-- Writers one after another, with a separator between any two of them. -/
def separated (separator : String) : List (Write Unit) → Write Unit
  | [] => pure ()
  | [w] => w
  | w :: ws => do
    w
    push separator
    separated separator ws

/-- Separated writers in brackets, which may be left out if there are no writers. -/
def enclosed (brackets : Brackets) (separator : String) (always : Bool)
    (ws : List (Write Unit)) : Write Unit := do
  let bracketed := always || !ws.isEmpty
  if bracketed then push brackets.opening
  separated separator ws
  if bracketed then push brackets.closing

@[simp] theorem runOn_pure {α : Type} (a : α) (sheet : Sheet) :
    (pure a : Write α).runOn sheet = (.ok a, sheet) := rfl

@[simp] theorem runOn_edit (change : Draft → Draft) (sheet : Sheet) :
    (edit change).runOn sheet = (.ok (), { sheet with draft := change sheet.draft }) := rfl

@[simp] theorem runOn_note (importance : Importance) (message : String) (sheet : Sheet) :
    (note importance message).runOn sheet =
      (.ok (), { sheet with journal := sheet.journal ++ [⟨importance, message⟩] }) := rfl

@[simp] theorem runOn_require_ok {α : Type} (a : α) (sheet : Sheet) :
    (require (.ok a)).runOn sheet = (.ok a, sheet) := rfl

@[simp] theorem runOn_require_error {α : Type} (fault : Fault) (sheet : Sheet) :
    (require (.error fault : Except Fault α)).runOn sheet = (.error fault, sheet) := rfl

/-- A writer that stops leaves its sheet to whoever ran it, and what comes after it is not run. -/
theorem runOn_bind {α β : Type} (w : Write α) (next : α → Write β) (sheet : Sheet) :
    (w >>= next).runOn sheet =
      match w.runOn sheet with
      | (.ok a, sheet) => (next a).runOn sheet
      | (.error fault, sheet) => (.error fault, sheet) := by
  simp only [runOn, bind, ExceptT.bind, ExceptT.mk, ExceptT.run, StateT.bind, StateT.run, Id.run,
    ExceptT.bindCont]
  rcases w sheet with ⟨result, after⟩
  cases result <;> rfl

end Write

namespace Scope

open Write

/-- A comment on a line of its own. -/
def writeComment (s : Scope) (text : String) : Write Unit := line (s.dialect.commentMark ++ text)

def writeDefaultImports (s : Scope) : Write Unit :=
  s.dialect.defaultImports.forM fun ns => line (s.dialect.importLine.around ns)

/-- The assemblies that the source refers to, as comments. -/
def writeReferences (s : Scope) (references : List AssemblyRef) : Write Unit := do
  s.writeComment "[Referenced assemblies]"
  references.forM fun r => s.writeComment ("- " ++ r.display)

end Scope
end StubSource
