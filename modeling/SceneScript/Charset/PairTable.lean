import Std.Data.HashMap
import SceneScript.Text.Utf8
/-!
# Tables of two-byte codes

A table is a list of rows. Decoding looks a code up by row and place; encoding goes through an index from characters
to codes, built from the same rows.
-/
namespace SceneScript

/-- A two-byte code: lead byte and trail byte. -/
abbrev Code := UInt8 × UInt8

/-- Stands in a row where no character is assigned. -/
def unassigned : Char := '\uFFFD'

/-- Runs of trail bytes, first and last inclusive, in the order in which a row lists their characters. -/
abbrev TrailRuns := List (Nat × Nat)

/-- The place of a trail byte in a row. -/
def TrailRuns.place? : TrailRuns → Nat → Option Nat
  | [], _ => none
  | (first, last) :: more, n =>
    if first ≤ n ∧ n ≤ last then some (n - first)
    else (TrailRuns.place? more n).map (· + (last + 1 - first))

/-- The trail byte at a place in a row. -/
def TrailRuns.trailAt? : TrailRuns → Nat → Option Nat
  | [], _ => none
  | (first, last) :: more, k =>
    if first + k ≤ last then some (first + k)
    else TrailRuns.trailAt? more (k - (last + 1 - first))

/-- The assigned codes of rows with their characters, in byte order. -/
def cellsOf (runs : TrailRuns) (rows : List (UInt8 × String)) : List (Code × Char) :=
  rows.flatMap fun (lead, row) =>
    row.toList.zipIdx.filterMap fun (c, k) =>
      if c = unassigned then none
      else (runs.trailAt? k).map fun trail => ((lead, UInt8.ofNat trail), c)

/-- The code each character is written as, by code point. Of several codes the first counts, or the last for the
characters in `lastWins`. -/
def indexOf (lastWins : List Char) (cells : List (Code × Char)) : Std.HashMap Nat Code :=
  cells.foldl (fun index (code, c) =>
    if lastWins.contains c then index.insert c.toNat code else index.insertIfNew c.toNat code) ∅

/-- A table of two-byte codes, ready for look-up in both directions. -/
structure PairTable where
  runs : TrailRuns
  /-- The row of each lead byte from 0 to 255. -/
  grid : Array (Array Char)
  /-- The code each encodable character is written as, by code point. -/
  index : Std.HashMap Nat Code

namespace PairTable

/-- Builds a table. Only codes whose lead byte is `written` are used for writing. -/
def build (runs : TrailRuns) (rows : List (UInt8 × String)) (written : UInt8 → Bool) (lastWins : List Char) :
    PairTable where
  runs := runs
  grid := (Array.range 256).map fun lead => ((rows.lookup (UInt8.ofNat lead)).getD "").toList.toArray
  index := indexOf lastWins ((cellsOf runs rows).filter fun (code, _) => written code.1)

def char? (table : PairTable) (lead trail : UInt8) : Option Char := do
  let row ← table.grid[lead.toNat]?
  let place ← table.runs.place? trail.toNat
  let c ← row[place]?
  if c = unassigned then none else some c

def code? (table : PairTable) (c : Char) : Option Code := table.index[c.toNat]?

end PairTable
end SceneScript
