import MethodAudit.Text.Ranges

/-!
Sets of characters, given by the code points where membership changes. Combining two sets is one
walk along both lists.
-/

namespace MethodAudit

/-- A set of characters, by the code points where membership changes, in ascending order: those
from the first on are in it, those from the second on are not, and so forth. -/
structure CharSet where
  bounds : List Nat
  deriving DecidableEq, Repr

namespace CharSet

def empty : CharSet := ⟨[]⟩

/-- All characters; surrogates are none. -/
def all : CharSet := ⟨[0, 0xd800, 0xe000, 0x110000]⟩

def contains (s : CharSet) (n : Nat) : Bool := Text.inRanges n s.bounds

def mem (s : CharSet) (c : Char) : Bool := s.contains c.toNat

/-! ### Combinations -/

/-- The bounds of a combination of two sets, from where one is a member of them or not as `a`
and `b` say. -/
def merge (keep : Bool → Bool → Bool) (a b : Bool) : List Nat → List Nat → List Nat
  | [], [] => []
  | x :: xs, [] =>
    let rest := merge keep (!a) b xs []
    if keep (!a) b = keep a b then rest else x :: rest
  | [], y :: ys =>
    let rest := merge keep a (!b) [] ys
    if keep a (!b) = keep a b then rest else y :: rest
  | x :: xs, y :: ys =>
    if x < y then
      let rest := merge keep (!a) b xs (y :: ys)
      if keep (!a) b = keep a b then rest else x :: rest
    else if y < x then
      let rest := merge keep a (!b) (x :: xs) ys
      if keep a (!b) = keep a b then rest else y :: rest
    else
      let rest := merge keep (!a) (!b) xs ys
      if keep (!a) (!b) = keep a b then rest else x :: rest
  termination_by xs ys => xs.length + ys.length

def union (s t : CharSet) : CharSet := ⟨merge (· || ·) false false s.bounds t.bounds⟩

def inter (s t : CharSet) : CharSet := ⟨merge (· && ·) false false s.bounds t.bounds⟩

/-- What is in `s` and not in `t`. -/
def minus (s t : CharSet) : CharSet :=
  ⟨merge (fun a b => a && !b) false false s.bounds t.bounds⟩

/-- What is in one of two sets only. -/
def apart (s t : CharSet) : CharSet := ⟨merge (· != ·) false false s.bounds t.bounds⟩

/-- All characters that are not in `s`. -/
def compl (s : CharSet) : CharSet := all.minus s

/-! ### Ranges -/

/-- The characters from `first` to `last`, both among them. -/
def range (first last : Char) : CharSet := inter ⟨[first.toNat, last.toNat + 1]⟩ all

def ofRanges (rs : List (Char × Char)) : CharSet :=
  rs.foldl (fun s r => s.union (range r.1 r.2)) empty

/-- The bounds of the code points from `first` up to `stop` and of those that follow, in
ascending order. -/
def boundsFrom (first stop : Nat) : List Nat → List Nat
  | [] => [first, stop]
  | n :: ns =>
    if n ≤ stop then boundsFrom first (max stop (n + 1)) ns
    else first :: stop :: boundsFrom n (n + 1) ns

/-- The set of some code points, given in ascending order. -/
def ofAscending : List Nat → CharSet
  | [] => empty
  | n :: ns => ⟨boundsFrom n (n + 1) ns⟩

/-- The first and the last code point of each range. -/
def pairs : List Nat → List (Nat × Nat)
  | first :: stop :: rest => (first, stop - 1) :: pairs rest
  | _ => []

def ranges (s : CharSet) : List (Nat × Nat) := pairs s.bounds

def isEmpty (s : CharSet) : Bool := s.bounds.isEmpty

/-- The only character of a set. -/
def single? (s : CharSet) : Option Char :=
  match s.bounds with
  | [first, stop] => if stop = first + 1 then some (Char.ofNat first) else none
  | _ => none

def isAscii (s : CharSet) : Bool := s.bounds.all (· ≤ 0x80)

end CharSet

end MethodAudit
