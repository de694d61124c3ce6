import StubSource.Text.Piece

/-!
# Drafts

A draft is text under construction with a level of indentation. A line break puts the indentation
of the next line down at once, so a level that changes after the break has to be mended: `reindent`
takes the indentation at the end of the text away and writes that of another level.
-/

namespace StubSource
set_option autoImplicit false

/-- One level of indentation. -/
inductive IndentUnit where
  | spaces (width : UInt8)
  | tab
  deriving DecidableEq, Repr, Inhabited

def IndentUnit.text : IndentUnit → String
  | .spaces width => String.ofList (List.replicate width.toNat ' ')
  | .tab => "\t"

/-- The indentation of a level. -/
def IndentUnit.times (unit : IndentUnit) (level : Nat) : String :=
  String.join (List.replicate level unit.text)

@[simp] theorem IndentUnit.times_zero (unit : IndentUnit) : unit.times 0 = "" := rfl

theorem IndentUnit.toList_times_succ (unit : IndentUnit) (level : Nat) :
    (unit.times (level + 1)).toList = unit.text.toList ++ (unit.times level).toList := by
  simp [times, List.replicate_succ, String.toList_join]

structure Draft where
  text : String := ""
  level : Nat := 0
  unit : IndentUnit
  deriving DecidableEq, Repr, Inhabited

namespace Draft

def push (d : Draft) (s : String) : Draft := { d with text := d.text ++ s }

@[simp] theorem text_push (d : Draft) (s : String) : (d.push s).text = d.text ++ s := rfl

@[simp] theorem level_push (d : Draft) (s : String) : (d.push s).level = d.level := rfl

@[simp] theorem unit_push (d : Draft) (s : String) : (d.push s).unit = d.unit := rfl

/-- Ends the line and indents the next one. -/
def breakLine (d : Draft) : Draft := d.push ("\n" ++ d.unit.times d.level)

@[simp] theorem text_breakLine (d : Draft) :
    d.breakLine.text = d.text ++ ("\n" ++ d.unit.times d.level) := rfl

@[simp] theorem level_breakLine (d : Draft) : d.breakLine.level = d.level := rfl

@[simp] theorem unit_breakLine (d : Draft) : d.breakLine.unit = d.unit := rfl

def line (d : Draft) (s : String) : Draft := (d.push s).breakLine

/-- One level deeper from the next line on. -/
def deepen (d : Draft) : Draft := { d with level := d.level + 1 }

/-- One level less from the next line on; there is nothing below level zero. -/
def raise (d : Draft) : Draft := { d with level := d.level - 1 }

/-- Changes to `level`, the indentation of the current line included. -/
def reindent (d : Draft) (level : Nat) : Draft :=
  { d with
    text := String.ofList (Text.dropTails d.unit.text.toList d.level d.text.toList) ++
      d.unit.times level
    level }

@[simp] theorem level_reindent (d : Draft) (level : Nat) : (d.reindent level).level = level := rfl

@[simp] theorem unit_reindent (d : Draft) (level : Nat) : (d.reindent level).unit = d.unit := rfl

/-- Writes `new` in place of every `old` so far. -/
def replace (d : Draft) (old new : String) : Draft :=
  { d with text := String.ofList (Text.replaceAll old.toList new.toList d.text.toList) }

/-- Back to an empty text at level zero. -/
def clear (d : Draft) : Draft := { d with text := "", level := 0 }

/-- Ends a header and enters its block. A start token has its own line at the level of the header;
without one the line that was begun is moved one level in. -/
def openBlock (d : Draft) (start : String) : Draft :=
  let d := d.breakLine.deepen
  if start.isEmpty then d.reindent d.level else d.line start

/-- Leaves a block, with its end token on a line of the level around it. -/
def closeBlock (d : Draft) (finish : String) : Draft :=
  (d.reindent (d.level - 1)).line finish

end Draft
end StubSource
