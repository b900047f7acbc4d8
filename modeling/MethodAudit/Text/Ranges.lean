/-!
Sets of characters given by ranges of code points, and case maps given by runs.
-/

namespace MethodAudit.Text

/-- Membership in a set given by the first code point of each range and the one after its
last, in ascending order. -/
def inRanges (n : Nat) : List Nat → Bool
  | first :: stop :: rest => if n < first then false else n < stop || inRanges n rest
  | _ => false

/-- The image of a code point under a map given by runs in ascending order. A run takes
`first, first + step, …, last` to code points at the same distances from `image`, and is given
by these four numbers. -/
def mapRuns (n : Nat) : List Nat → Option Nat
  | first :: last :: step :: image :: rest =>
    if n < first then none
    else if n ≤ last && (n - first) % step = 0 then some (image + (n - first))
    else mapRuns n rest
  | _ => none

/-- The code points of the runs, each with its image. -/
def expandRuns : List Nat → List (Nat × Nat)
  | first :: last :: step :: image :: rest =>
    (List.range ((last - first) / step + 1)).map (fun i => (first + i * step, image + i * step)) ++
      expandRuns rest
  | _ => []

end MethodAudit.Text
