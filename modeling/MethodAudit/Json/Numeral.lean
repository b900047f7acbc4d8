/-!
Numbers as they are written in a text, and how one more character extends, ends or spoils
them.
-/

namespace MethodAudit.Json

/-- A number as written: digits before the point, after it, and of the exponent. -/
structure Numeral where
  negative : Bool
  whole : List Nat
  fraction : Option (List Nat)
  exponent : Option (Bool × List Nat)
  deriving DecidableEq, Repr

def Numeral.ofNat (n : Nat) : Numeral :=
  ⟨false, (Nat.toDigits 10 n).map fun c => c.toNat - '0'.toNat, none, none⟩

def digitChars (ds : List Nat) : List Char := ds.map Nat.digitChar

def Numeral.chars (n : Numeral) : List Char :=
  (if n.negative then ['-'] else []) ++ digitChars n.whole ++
    (match n.fraction with
      | none => []
      | some ds => '.' :: digitChars ds) ++
    match n.exponent with
      | none => []
      | some (negative, ds) => 'e' :: (if negative then ['-'] else []) ++ digitChars ds

/-- The part of a number read last. -/
inductive Stage
  | sign
  | zero
  | whole
  | point
  | fraction
  | mark
  | markSign
  | exponent

def digit? (c : Char) : Option Nat :=
  if '0' ≤ c && c ≤ '9' then some (c.toNat - '0'.toNat) else none

/-- What a character does to a number: extend it, end it, or spoil it. -/
inductive Turn
  | more (stage : Stage) (n : Numeral)
  | over
  | wrong

def addWhole (n : Numeral) (d : Nat) : Numeral := { n with whole := n.whole ++ [d] }

def addPlace (n : Numeral) (d : Nat) : Numeral :=
  { n with fraction := some (n.fraction.getD [] ++ [d]) }

def addPower (n : Numeral) (d : Nat) : Numeral :=
  { n with exponent := n.exponent.map fun (neg, ds) => (neg, ds ++ [d]) }

def signPower (n : Numeral) (neg : Bool) : Numeral := { n with exponent := some (neg, []) }

/-- After the digits before the point. -/
def afterWhole (n : Numeral) (c : Char) : Turn :=
  match c with
  | '.' => .more .point n
  | 'e' | 'E' => .more .mark (signPower n false)
  | _ => .over

def Stage.turn (stage : Stage) (n : Numeral) (c : Char) : Turn :=
  match stage, digit? c with
  | .sign, some 0 => .more .zero (addWhole n 0)
  | .sign, some d => .more .whole (addWhole n d)
  | .sign, none => .wrong
  | .zero, some _ => .wrong
  | .zero, none => afterWhole n c
  | .whole, some d => .more .whole (addWhole n d)
  | .whole, none => afterWhole n c
  | .point, some d => .more .fraction (addPlace n d)
  | .point, none => .wrong
  | .fraction, some d => .more .fraction (addPlace n d)
  | .fraction, none =>
    match c with
    | 'e' | 'E' => .more .mark (signPower n false)
    | _ => .over
  | .mark, some d => .more .exponent (addPower n d)
  | .mark, none =>
    match c with
    | '+' => .more .markSign n
    | '-' => .more .markSign (signPower n true)
    | _ => .wrong
  | .markSign, some d => .more .exponent (addPower n d)
  | .markSign, none => .wrong
  | .exponent, some d => .more .exponent (addPower n d)
  | .exponent, none => .over

/-- A number may end here. -/
def Stage.isFinal : Stage → Bool
  | .zero | .whole | .fraction | .exponent => true
  | _ => false

end MethodAudit.Json
