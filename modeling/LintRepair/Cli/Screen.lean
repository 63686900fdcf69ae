/-
What is shown to the user: lines of text and rows of tables.

* `Table`: a title, the names of the columns and rows of cells;
* `Notice`: a text or a table, with marks for style;
* `Screen.ofNotice`: the lines that a notice takes;
* `Screen.ofNotices`: the lines of notices up to the first that cannot be
  shown.
-/
import LintRepair.Cli.Layout
import LintRepair.Cli.Markup

namespace LintRepair.Cli

/-- A line that is shown. -/
inductive Line
  | text (t : Text)
  /-- A line of a table, by its cells. -/
  | row (cells : List Text)
  deriving DecidableEq, Repr

/-- A line as text, with bars between cells. -/
def Line.toText : Line → Text
  | text t => t
  | row cells => " | ".toList.intercalate cells

/-- What is shown. -/
abbrev Screen := List Line

/-- A title, the names of the columns and rows of cells. -/
structure Table where
  title : String
  columns : List String
  rows : List (List String)

/-- Something to be shown, with marks for style. -/
inductive Notice
  | text (s : String)
  | table (t : Table)

namespace Screen

/-- The number of cells in a line of the screen. -/
def width : Nat := 5000

/-- The lines as text. -/
def toText (s : Screen) : String :=
  String.join (s.map fun l => String.ofList l.toText ++ "\n")

/-- The lines of a text, which are shown as they are. -/
def ofText (t : Text) : Screen := (Text.lines t).map .text

/-- The lines of a text without marks, cut to the width of the screen. -/
def ofPlain (t : Text) : Screen :=
  (Layout.wrap width .fold (Markup.visible t)).map .text

/-- A row of cells, each of which may take several lines in its column, as the
lines that it takes in a table. -/
def ofCells (widths : List Nat) (cells : List Text) : Screen :=
  let columns := List.zipWith (fun w t => Layout.wrap w .ellipsis t) widths cells
  let height := (columns.map List.length).foldl max 1
  (List.range height).map fun i => .row (columns.map fun ls => ls.getD i [])

/-- The lines of a table with some columns. The columns and the bars beside
them share the width of the screen. -/
def ofTable (title : Text) (names : List Text) (rows : List (List Text)) : Screen :=
  let contents := (List.range names.length).map fun i =>
    (names :: rows).map fun cells => cells.getD i []
  let widths := Layout.columnWidths (width - (names.length + 1)) contents
  .text title :: (names :: rows).flatMap (ofCells widths)

/-- The lines that a notice takes, unless its marks do not match. -/
def ofNotice : Notice → Except MarkFault Screen
  | .text s => do return ofPlain (← Markup.shown s.toList)
  | .table t => do
    let rows ← t.rows.mapM fun cells => cells.mapM fun s => Markup.shown s.toList
    return ofTable t.title.toList (t.columns.map String.toList) rows

/-- The lines of notices up to the first that cannot be shown, and why that
is so. -/
def ofNotices : List Notice → Screen × Option MarkFault
  | [] => ([], none)
  | n :: rest =>
    match ofNotice n with
    | .ok ls => let (more, fault?) := ofNotices rest; (ls ++ more, fault?)
    | .error fault => ([], some fault)

end Screen

end LintRepair.Cli
