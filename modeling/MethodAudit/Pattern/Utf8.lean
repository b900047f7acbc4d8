import MethodAudit.Text.CharSet

/-!
Ranges of characters as sequences of ranges of bytes. A range is cut until, at every place of
the encoding, its bytes vary independently of those before.
-/

namespace MethodAudit.Pattern

/-- A range of bytes. -/
structure ByteRange where
  first : UInt8
  last : UInt8
  deriving DecidableEq, Repr

/-- The code point after which a range that spans several lengths of encoding is to be cut. -/
def lengthCut? (first last : Nat) : Option Nat :=
  [0x7f, 0x7ff, 0xffff].find? fun top => first ≤ top && top < last

/-- The code point after which a range is to be cut because it starts or ends within a block of
`size` code points and goes beyond it. -/
def blockCut? (first last size : Nat) : Option Nat :=
  if first / size = last / size then none
  else if first % size ≠ 0 then some ((first / size + 1) * size - 1)
  else if last % size ≠ size - 1 then some (last / size * size - 1)
  else none

def cut? (first last : Nat) : Option Nat :=
  (lengthCut? first last).or
    (if last < 0x80 then none
      else ([0x40, 0x1000, 0x40000].findSome? fun size => blockCut? first last size))

/-- The pieces of a range, from the left. -/
def pieces (first last : Nat) : List (Nat × Nat) :=
  match cut? first last with
  | none => [(first, last)]
  | some c =>
    if _h : first ≤ c ∧ c < last then pieces first c ++ pieces (c + 1) last
    else [(first, last)]
  termination_by last - first

/-- The bytes of a piece. -/
def byteRanges (piece : Nat × Nat) : List ByteRange :=
  List.zipWith ByteRange.mk (String.utf8EncodeChar (Char.ofNat piece.1))
    (String.utf8EncodeChar (Char.ofNat piece.2))

/-- The sequences of bytes that encode the characters of a set. -/
def sequences (s : CharSet) : List (List ByteRange) :=
  (s.ranges.flatMap fun r => pieces r.1 r.2).map byteRanges

end MethodAudit.Pattern
