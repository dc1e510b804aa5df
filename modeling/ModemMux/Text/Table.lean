/-!
# Tables of text

A table is drawn with a frame, a double rule below its head, dashed rules between its rows and
dashed bars between its columns. A column is as wide as its widest cell, with a blank on either
side.
-/

namespace ModemMux.Text

structure Table where
  head : List String
  rows : List (List String)
  deriving DecidableEq, Repr

namespace Table

/-- A horizontal rule: what stands at its left end, along a column, between columns and at its
right end. -/
structure Rule where
  left : String
  fill : Char
  cross : String
  right : String

def top : Rule := ⟨"┌", '─', "┬", "┐"⟩

def double : Rule := ⟨"╞", '═', "╪", "╡"⟩

def dashed : Rule := ⟨"├", '╌', "┼", "┤"⟩

def bottom : Rule := ⟨"└", '─', "┴", "┘"⟩

def widths (t : Table) : List Nat :=
  t.rows.foldl (fun widths row ↦ List.zipWith max widths (row.map (·.length)))
    (t.head.map (·.length))

def Rule.draw (rule : Rule) (widths : List Nat) : String :=
  let columns := widths.map fun width ↦ String.ofList (List.replicate (width + 2) rule.fill)
  rule.left ++ rule.cross.intercalate columns ++ rule.right

/-- A cell of the given width, between its blanks. -/
def cell (width : Nat) (text : String) : String :=
  " " ++ String.ofList (text.toList.rightpad width ' ') ++ " "

def line (widths : List Nat) (cells : List String) : String :=
  "│" ++ "┆".intercalate (List.zipWith cell widths cells) ++ "│"

def lines (t : Table) : List String :=
  let widths := t.widths
  let rows := t.rows.map (line widths)
  [top.draw widths, line widths t.head, double.draw widths] ++
    rows.intersperse (dashed.draw widths) ++ [bottom.draw widths]

end Table

end ModemMux.Text
