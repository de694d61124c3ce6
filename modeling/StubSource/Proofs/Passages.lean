import StubSource.Proofs.Writing

/-!
# Passages of a source

A passage is a line, or a header with a block of passages behind it. Written step by step, its lines
are indented by how deep they lie, and by nothing else: neither what the texts begin or end with nor
which blocks have a start token makes a difference, and behind the last line stands the indentation
that was there before.
-/

namespace StubSource
set_option autoImplicit false

inductive Passage where
  | line (text : String)
  | block (header start : String) (content : List Passage) (finish : String)

namespace Passage

open Write

mutual

def write : Passage → Write Unit
  | .line text => Write.line text
  | .block header start content finish => do
    push header
    openBlock start
    writeAll content
    closeBlock finish

def writeAll : List Passage → Write Unit
  | [] => pure ()
  | passage :: passages => do
    write passage
    writeAll passages

end

mutual

/-- The lines of a passage at a depth. -/
def render (unit : IndentUnit) (depth : Nat) : Passage → String
  | .line text => unit.lineAt depth text
  | .block header start content finish =>
    unit.lineAt depth header ++ unit.startLine depth start ++ renderAll unit (depth + 1) content ++
      unit.lineAt depth finish

def renderAll (unit : IndentUnit) (depth : Nat) : List Passage → String
  | [] => ""
  | passage :: passages => render unit depth passage ++ renderAll unit depth passages

end

mutual

theorem lays_write (unit : IndentUnit) : ∀ (passage : Passage) (level : Nat),
    passage.write.Lays unit level level (.ok (passage.render unit level))
  | .line text, level => by
    rw [write, render]
    exact Lays.line text
  | .block header start content finish, level => by
    -- The content is one level deeper, and the end token brings the level back.
    have inside := (lays_writeAll unit content (level + 1)).bind (Lays.closeBlock finish)
    have whole := (Lays.openBlock header start).bind inside
    rw [bind_assoc] at whole
    rw [write, render, String.append_assoc]
    exact whole

theorem lays_writeAll (unit : IndentUnit) : ∀ (passages : List Passage) (level : Nat),
    (writeAll passages).Lays unit level level (.ok (renderAll unit level passages))
  | [], level => by
    rw [writeAll, renderAll]
    exact Lays.nothing
  | passage :: passages, level => by
    rw [writeAll, renderAll]
    exact (lays_write unit passage level).bind (lays_writeAll unit passages level)

end

/-- Behind any text and at any level, with the next line begun, passages add their lines at that
level and leave the line after them begun there. -/
theorem passages_render_by_depth (passages : List Passage) (unit : IndentUnit) (before : String)
    (level : Nat) (journal : List Note) :
    let ran := (writeAll passages).runOn ⟨⟨before ++ unit.times level, level, unit⟩, journal⟩
    ran.1 = .ok () ∧ ran.2.draft =
      ⟨before ++ renderAll unit level passages ++ unit.times level, level, unit⟩ := by
  intro ran
  obtain ⟨draft, journal', laid, ended⟩ := lays_writeAll unit passages level before journal
  have outcome : ran = (.ok (), ⟨draft, journal'⟩) := laid
  rw [outcome]
  exact ⟨rfl, ended _ rfl⟩

/-- Texts that look like indentation, a block with nothing in it, and an indentation of nothing. -/
example :
    let passages := [.block "\tif " "" [.block "" "" [] "\t", .line "\t"] "end", .line ""]
    ((writeAll passages).runOn ⟨⟨"x\t\t", 1, .tab⟩, []⟩).2.draft.text =
        "x\t\t\tif \n\t\t\n\t\t\t\n\t\t\t\n\tend\n\t\n\t" ∧
      ((writeAll passages).runOn ⟨⟨"x", 3, .spaces 0⟩, []⟩).2.draft.text =
        "x\tif \n\n\t\n\t\nend\n\n" := by
  decide +kernel

end Passage
end StubSource
