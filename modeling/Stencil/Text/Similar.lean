/-!
# Similar names

`distance` is the least number of insertions, deletions and replacements of single characters that
turn one text into another. `similar` ranks the names that lie within half of the target's length in
bytes and gives the first three.
-/

namespace Stencil.Text

/--
The next row of the distance table: `before` is the row of the text without its last character `c`,
whose first entry stands apart as `corner`, and `left` is the entry just computed.
-/
def nextRow (c : Char) (corner left : Nat) : List Char → List Nat → List Nat
  | d :: other, above :: before =>
    let entry := min (min (left + 1) (above + 1)) (corner + if c = d then 0 else 1)
    entry :: nextRow c above entry other before
  | _, _ => []

/-- The last row of the distance table, from the row of the empty text: its first entry and the others. -/
def lastRow (other : List Char) : List Char → Nat × List Nat → Nat × List Nat
  | [], row => row
  | c :: text, (corner, before) =>
    lastRow other text (corner + 1, nextRow c corner (corner + 1) other before)

/-- How many single-character edits turn one text into the other. -/
def distance (text other : String) : Nat :=
  let (corner, row) := lastRow other.toList text.toList (0, List.range' 1 other.toList.length)
  row.getLastD corner

/-- The most suggestions that are made. -/
def maxSuggestions : Nat := 3

/-- Whether one scored name ranks before another: by distance, then by name. -/
def ranksBefore (a b : String × Nat) : Bool :=
  decide (a.2 < b.2) || (a.2 == b.2 && decide (a.1 ≤ b.1))

/-- The names closest to `target`, at most half of its bytes away, the closest first. -/
def similar (target : String) (names : List String) : List String :=
  let scored := names.map fun name => (name, distance target name)
  ((scored.mergeSort ranksBefore).filter fun entry => entry.2 ≤ target.utf8ByteSize * 50 / 100).take
    maxSuggestions |>.map Prod.fst

end Stencil.Text
