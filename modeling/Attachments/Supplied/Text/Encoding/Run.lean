/-!
Contract: tables of characters by row and cell.

Owns:
- runs of characters in neighbouring cells of a row, and the look-up of a cell;
- the items that are missing from an ascending list.

Does not own: any particular table.
-/

namespace Attachments.Text

/-- Characters in neighbouring cells of a row. A point marks an empty cell. -/
structure TableRun where
  row : Nat
  first : Nat
  cells : String
  deriving DecidableEq, Repr

def TableRun.character? (run : TableRun) (row cell : Nat) : Option Char :=
  if run.row = row ∧ run.first ≤ cell then
    (run.cells.toList[cell - run.first]?).filter (· != '.')
  else none

def cellOf? (runs : List TableRun) (row cell : Nat) : Option Char :=
  runs.findSome? (·.character? row cell)

/-- The number that comes `index` places behind `first` when the numbers of an ascending list are
left out. -/
def missing (first index : Nat) : List Nat → Nat
  | [] => first + index
  | taken :: rest =>
    if first + index < taken then first + index
    else if taken < first then missing first index rest
    else missing first (index + 1) rest

end Attachments.Text
