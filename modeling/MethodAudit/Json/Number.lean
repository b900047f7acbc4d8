import MethodAudit.Decimal.Double
import MethodAudit.Json.Fault
import MethodAudit.Json.Numeral

/-!
The numbers that numerals stand for: integers of 64 bits where the writing and the range
allow it, else floating-point numbers.
-/

namespace MethodAudit.Json

inductive Number
  | integer (i : Int)
  | real (negative : Bool) (magnitude : Double)
  deriving DecidableEq, Repr

def Number.found : Number → Found
  | .integer i => .integer i
  | .real negative x => .float ((if negative then "-" else "") ++ x.text)

/-- The largest significand that is kept exactly. -/
def maxSignificand : Nat := 0xffffffffffffffff

/-- Takes digits into a significand as long as it stays in range; also returns the digits
that did not fit. -/
def takeDigits (sig : Nat) : List Nat → Nat × List Nat
  | [] => (sig, [])
  | d :: ds =>
    if sig * 10 + d ≤ maxSignificand then takeDigits (sig * 10 + d) ds else (sig, d :: ds)

/-- The number `sig * 10 ^ e`, computed in floating point by one multiplication or by
divisions by at most `10 ^ 308` each; `none` if it is too large. -/
def scale (sig : Nat) (e : Int) : Option Double := do
  let f ← Double.ofQuotient sig 1
  let ten (k : Nat) := Double.ofQuotient (tenTo k) 1
  if f.mant = 0 then some f
  else if 308 < e then none
  else if 0 ≤ e then f.mul (← ten e.toNat)
  else if -308 ≤ e then f.div (← ten (-e).toNat)
  else if -616 ≤ e then (← f.div (← ten 308)).div (← ten (-e - 308).toNat)
  else some .zero

/-- The value of an exponent's digits, `none` if it does not fit 31 bits. -/
def exponentSize (ds : List Nat) : Option Nat :=
  ds.foldl (fun acc d => acc.bind fun n =>
    if n * 10 + d < 0x80000000 then some (n * 10 + d) else none) (some 0)

/-- The digits of an exponent behind the one that makes it too large. -/
def exponentRest (n : Nat) : List Nat → List Nat
  | [] => []
  | d :: ds => if n * 10 + d < 0x80000000 then exponentRest (n * 10 + d) ds else ds

/-- The number a numeral stands for, `none` if it is out of range. -/
def Numeral.value (n : Numeral) : Option Number := do
  let (sig, more) := takeDigits 0 n.whole
  match n.fraction, n.exponent, more with
  | none, none, [] =>
    if !n.negative then some (.integer sig)
    else if 0 < sig && sig ≤ 0x8000000000000000 then some (.integer (-sig))
    else some (.real true (← Double.ofQuotient sig 1))
  | fraction, exponent, more =>
    let places := fraction.getD []
    let (sig, rest) := takeDigits sig places
    let e : Int := more.length - (places.length - rest.length)
    let real (e : Int) : Option Number := do return .real n.negative (← scale sig e)
    match exponent with
    | none => real e
    | some (negative, ds) =>
      match exponentSize ds with
      | some size => real (if negative then e - size else e + size)
      | none => if sig = 0 || negative then some (.real n.negative .zero) else none

/-- The fault of a numeral that is out of range. The reader stops at the digit that makes the
exponent too large, and behind the numeral otherwise. -/
def Numeral.rangeFault (n : Numeral) (span : Span) : Fault :=
  let unread := match n.exponent with
    | some (false, ds) => exponentRest 0 ds
    | _ => []
  ⟨.outOfRange, span.stop.back unread.length⟩

end MethodAudit.Json
