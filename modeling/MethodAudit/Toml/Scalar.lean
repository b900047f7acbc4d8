import MethodAudit.Decimal.Double
import MethodAudit.Text.Hex
import MethodAudit.Toml

/-!
Truth values, numbers, dates and times, each told apart by its spelling.
-/

namespace MethodAudit.Toml

/-- The digits of groups of digits with single underscores between. -/
def digitGroups (isDigit : Char → Bool) (cs : List Char) : Option (List Char) :=
  let groups := cs.splitOn '_'
  if groups.all fun g => !g.isEmpty && g.all isDigit then some groups.flatten else none

def decimal (digits : List Char) : Nat :=
  digits.foldl (fun n c => 10 * n + (c.toNat - '0'.toNat)) 0

/-- Takes a sign off; true means negative. -/
def splitSign : List Char → Bool × List Char
  | '-' :: rest => (true, rest)
  | '+' :: rest => (false, rest)
  | cs => (false, cs)

/-- Digits of a decimal number, with no zero in front. -/
def plainDigits (cs : List Char) : Option (List Char) :=
  match cs with
  | '0' :: _ :: _ => none
  | cs => digitGroups Char.isDigit cs

def maxInt : Nat := 0x7fffffffffffffff

/-- A number in a base that a letter after the zero tells. -/
def isBased (base : Nat) (cs : List Char) : Bool :=
  let value (c : Char) := (Text.hexDigit? c).getD base
  match digitGroups (fun c => value c < base) cs with
  | some ds => ds.foldl (fun n c => base * n + value c) 0 ≤ maxInt
  | none => false

def isInteger (cs : List Char) : Bool :=
  match cs with
  | '0' :: 'x' :: rest => isBased 16 rest
  | '0' :: 'o' :: rest => isBased 8 rest
  | '0' :: 'b' :: rest => isBased 2 rest
  | cs =>
    let (negative, cs) := splitSign cs
    match plainDigits cs with
    | some ds => decimal ds ≤ if negative then maxInt + 1 else maxInt
    | none => false

/-- The number is not too large for a double. `digits` are those before the exponent, `places`
of them after the point. -/
def isFinite (digits : List Char) (places : Nat) (exponent : Int) : Bool :=
  let n := decimal digits
  let shift := exponent - places
  if n = 0 || digits.length + shift < 300 then true
  else if 400 < n.repr.length + shift then false
  else
    let limit := twoTo 1024 - twoTo 970
    if 0 ≤ shift then n * tenTo shift.toNat < limit else n < limit * tenTo (-shift).toNat

/-- The digits of an exponent with its sign. -/
def exponent? (cs : List Char) : Option Int := do
  let (negative, cs) := splitSign cs
  let n := decimal (← digitGroups Char.isDigit cs)
  return if negative then -(n : Int) else n

def isFloat (cs : List Char) : Bool :=
  let (negative, cs) := splitSign cs
  if cs = "inf".toList || cs = "nan".toList then true
  else
    let isMark := fun (c : Char) => c = 'e' || c = 'E'
    let mantissa := cs.takeWhile (!isMark ·)
    let power := cs.dropWhile (!isMark ·)
    let whole := mantissa.takeWhile (· ≠ '.')
    let point := mantissa.dropWhile (· ≠ '.')
    let parts : Option (List Char × List Char × Int) := do
      let whole ← plainDigits whole
      let places ← if point.isEmpty then some [] else digitGroups Char.isDigit (point.drop 1)
      let power ← if power.isEmpty then some 0 else exponent? (power.drop 1)
      return (whole, places, power)
    match parts with
    | some (whole, places, exponent) =>
      (!power.isEmpty || !point.isEmpty) &&
        (negative || isFinite (whole ++ places) places.length exponent)
    | none => false

/-- The value of a number of exactly `count` digits. -/
def fixedDigits (count : Nat) (cs : List Char) : Option Nat :=
  if cs.length = count && cs.all Char.isDigit then some (decimal cs) else none

def daysIn (year month : Nat) : Nat :=
  let leap := year % 4 = 0 && (year % 100 ≠ 0 || year % 400 = 0)
  if month = 2 then if leap then 29 else 28
  else if [4, 6, 9, 11].contains month then 30
  else 31

def isDate (cs : List Char) : Bool :=
  let parts : Option (Nat × Nat × Nat) := do
    match cs.splitOn '-' with
    | [y, m, d] => return (← fixedDigits 4 y, ← fixedDigits 2 m, ← fixedDigits 2 d)
    | _ => none
  match parts with
  | some (y, m, d) => 1 ≤ m && m ≤ 12 && 1 ≤ d && d ≤ daysIn y m
  | none => false

/-- Hours and minutes. -/
def isClock (h m : List Char) : Bool :=
  (fixedDigits 2 h).any (· ≤ 23) && (fixedDigits 2 m).any (· ≤ 59)

def isTime (cs : List Char) : Bool :=
  match cs.splitOn ':' with
  | [h, m, s] =>
    let seconds := s.takeWhile (· ≠ '.')
    isClock h m && (fixedDigits 2 seconds).any (· ≤ 60) &&
      match s.dropWhile (· ≠ '.') with
      | [] => true
      | _ :: fraction => !fraction.isEmpty && fraction.all Char.isDigit
  | _ => false

/-- A time with or without its distance from universal time. -/
def isZonedTime (cs : List Char) : Bool :=
  let isZone := fun (c : Char) => ['Z', 'z', '+', '-'].contains c
  isTime (cs.takeWhile (!isZone ·)) &&
    match cs.dropWhile (!isZone ·) with
    | [] => true
    | ['Z'] | ['z'] => true
    | c :: rest =>
      (c = '+' || c = '-') && match rest.splitOn ':' with
        | [h, m] => isClock h m
        | _ => false

/-- A date, a time, or both with a `T` between. -/
def isMoment (cs : List Char) : Bool :=
  let isMark := fun (c : Char) => c = 'T' || c = 't'
  match cs.dropWhile (!isMark ·) with
  | [] => isDate cs || isTime cs
  | _ :: time => isDate (cs.takeWhile (!isMark ·)) && isZonedTime time

/-- What a word stands for. -/
def scalar? (cs : List Char) : Option Toml :=
  let text := String.ofList cs
  if text = "true" then some (.bool true)
  else if text = "false" then some (.bool false)
  else if isInteger cs || isFloat cs then some (.number text)
  else if isMoment cs then some (.moment text)
  else none

def isScalarChar (c : Char) : Bool := c.isAlphanum || ['+', '-', '_', '.', ':'].contains c

/-- Reads a word; a date may go on after a blank with a time. -/
def readScalar (cs : List Char) : Option (Toml × List Char) := do
  let word := cs.takeWhile isScalarChar
  let rest := cs.dropWhile isScalarChar
  let v ← scalar? word
  match rest with
  | ' ' :: after =>
    let time := after.takeWhile isScalarChar
    if isDate word && isZonedTime time then
      return (.moment (String.ofList (word ++ ' ' :: time)), after.dropWhile isScalarChar)
    else return (v, rest)
  | _ => return (v, rest)

end MethodAudit.Toml
