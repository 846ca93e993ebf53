/-!
# Writing indented text

A writer holds the text so far, the level of indentation and the imports that what was written needs. A
layout is text that is organised in suites: a header line, the lines under it one level deeper, and
possibly a closing line.

* `Layout.write_level`: writing a layout leaves the level as it was.
-/
namespace GoGlue

/-- How a level of indentation is written; mirrors `IndentStyle`. -/
inductive IndentStyle where
  | spaces (width : Nat)
  | tabs
  deriving DecidableEq, Repr

/-- Something to import: the local name, which may be empty, and where it comes from; mirrors `ImportIR`. -/
structure Import where
  names : String
  source : String
  deriving DecidableEq, Repr

/-- mirrors `EmitContext` -/
structure Writer where
  style : IndentStyle
  level : Nat
  /-- In order of their first use, none twice. -/
  imports : List Import
  text : String
  deriving Repr

namespace Writer

/-- mirrors `new` -/
def new (style : IndentStyle) : Writer := ⟨style, 0, [], ""⟩

/-- The blanks at the beginning of a line; mirrors `indent`. -/
def indent (w : Writer) : String :=
  match w.style with
  | .spaces width => "".pushn ' ' (w.level * width)
  | .tabs => "".pushn '\t' w.level

/-- mirrors `push_indent` -/
def pushIndent (w : Writer) : Writer := { w with level := w.level + 1 }

/-- The outermost level is not left; mirrors `pop_indent`. -/
def popIndent (w : Writer) : Writer := { w with level := w.level - 1 }

/-- Write text as it stands; mirrors `raw`. -/
def raw (w : Writer) (s : String) : Writer := { w with text := w.text ++ s }

/-- Write a line; an empty one takes no indentation; mirrors `line`. -/
def line (w : Writer) (s : String) : Writer :=
  if s = "" then w.raw "\n" else w.raw (w.indent ++ s ++ "\n")

/-- mirrors `blank` -/
def blank (w : Writer) : Writer := w.raw "\n"

/-- Write a header, a body one level deeper, and a footer unless it is empty; mirrors `block`. -/
def block (w : Writer) (header footer : String) (body : Writer → Writer) : Writer :=
  let w := (body (w.line header).pushIndent).popIndent
  if footer = "" then w else w.line footer

/-- mirrors `add_import` -/
def addImport (w : Writer) (i : Import) : Writer :=
  if w.imports.contains i then w else { w with imports := w.imports ++ [i] }

/-- Hand out the imports and forget them; mirrors `take_imports`. -/
def takeImports (w : Writer) : List Import × Writer := (w.imports, { w with imports := [] })

theorem line_level (w : Writer) (s : String) : (w.line s).level = w.level := by
  unfold line; split <;> rfl

theorem block_level (w : Writer) (header footer : String) (body : Writer → Writer)
    (h : (body (w.line header).pushIndent).level = (w.line header).pushIndent.level) :
    (w.block header footer body).level = w.level := by
  have hb : (body (w.line header).pushIndent).popIndent.level = w.level := by
    rw [popIndent, h]; simp [pushIndent, line_level]
  unfold block
  split
  · exact hb
  · rw [line_level]; exact hb

end Writer

/-- Text in suites. -/
inductive Layout where
  | blank
  | line (text : String)
  | suite (header : String) (body : List Layout) (footer : String)
  deriving Repr

namespace Layout

/-- A suite that is closed by indentation alone. -/
def indented (header : String) (body : List Layout) : Layout := suite header body ""

/-- A suite in braces. -/
def braced (header : String) (body : List Layout) : Layout :=
  suite (header ++ " \x7b") body "\x7d"

mutual
def write (w : Writer) : Layout → Writer
  | blank => w.blank
  | line text => w.line text
  | suite header body footer => w.block header footer fun w => writeAll w body
def writeAll (w : Writer) : List Layout → Writer
  | [] => w
  | l :: rest => writeAll (l.write w) rest
end

mutual
theorem write_level (w : Writer) (l : Layout) : (l.write w).level = w.level := by
  cases l with
  | blank => simp [write, Writer.blank, Writer.raw]
  | line text => simp [write, Writer.line_level]
  | suite header body footer =>
    rw [write]
    exact Writer.block_level _ _ _ _ (writeAll_level _ body)
theorem writeAll_level (w : Writer) (ls : List Layout) : (writeAll w ls).level = w.level := by
  cases ls with
  | nil => simp [writeAll]
  | cons l rest => rw [writeAll, writeAll_level (l.write w) rest, write_level w l]
end

/-- The text of a sequence of layouts at the outermost level. -/
def text (style : IndentStyle) (ls : List Layout) : String := (writeAll (.new style) ls).text

end Layout

end GoGlue
