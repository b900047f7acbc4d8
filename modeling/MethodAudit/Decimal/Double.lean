/-!
Binary floating-point numbers as pairs of a mantissa and an exponent, correctly rounded
quotients, and the shortest decimal that reads back as a given number.
-/

namespace MethodAudit

def twoTo (n : Nat) : Nat := Nat.pow 2 n

def tenTo (n : Nat) : Nat := Nat.pow 10 n

/-- The number `mant * 2 ^ exp`, where `mant < 2 ^ 53` and `-1074 ≤ exp`. -/
structure Double where
  mant : Nat
  exp : Int
  deriving DecidableEq, Repr

namespace Double

def zero : Double := ⟨0, 0⟩

/-- The number as a fraction. -/
def fraction (x : Double) : Nat × Nat :=
  (x.mant * twoTo x.exp.toNat, twoTo (-x.exp).toNat)

/-- The quotient `num / (den * 2 ^ e)`, to the nearest natural number, a half to the even one. -/
def scaled (num den : Nat) (e : Int) : Nat :=
  let n := num * twoTo (-e).toNat
  let d := den * twoTo e.toNat
  let q := n / d
  let r := n % d
  if d < 2 * r || (d = 2 * r && q % 2 = 1) then q + 1 else q

/-- The number nearest to `num / den`; `none` if that is beyond the largest one. -/
def ofQuotient (num den : Nat) : Option Double :=
  if num = 0 then some zero
  else
    let e₀ : Int := (num.log2 : Int) - den.log2 - 53
    let wide := num * twoTo (-e₀).toNat / (den * twoTo e₀.toNat)
    let e₁ := if wide < twoTo 53 then e₀ else e₀ + 1
    let e := max e₁ (-1074)
    let q := scaled num den e
    let x : Double := if q = twoTo 53 then ⟨twoTo 52, e + 1⟩ else ⟨q, e⟩
    if x.exp ≤ 971 then some x else none

def mul (x y : Double) : Option Double :=
  ofQuotient (x.fraction.1 * y.fraction.1) (x.fraction.2 * y.fraction.2)

def div (x y : Double) : Option Double :=
  ofQuotient (x.fraction.1 * y.fraction.2) (x.fraction.2 * y.fraction.1)

/-! ### Shortest decimals -/

/-- The decimal exponent of the leading digit of `num / den`. -/
def leading (num den : Nat) : Int :=
  if den ≤ num then ((Nat.toDigits 10 (num / den)).length : Int) - 1
  else
    match (List.range 400).find? fun j => den ≤ num * tenTo j with
    | some j => -j
    | none => -400

/-- The decimal `c * 10 ^ k` lies in the interval of numbers that round to `x`. -/
def reads (x : Double) (c : Nat) (k : Int) : Bool :=
  let below := if x.mant = twoTo 52 && -1074 < x.exp then 4 * x.mant - 1 else 4 * x.mant - 2
  let above := 4 * x.mant + 2
  let left := c * tenTo k.toNat * twoTo (2 - x.exp).toNat
  let unit := tenTo (-k).toNat * twoTo (x.exp - 2).toNat
  if x.mant % 2 = 0 then below * unit ≤ left && left ≤ above * unit
  else below * unit < left && left < above * unit

/-- The nearer of `c * 10 ^ k` and `(c + 1) * 10 ^ k` among those that read back as `x`. -/
def neighbour (x : Double) (c : Nat) (k : Int) : Option Nat :=
  match x.reads c k, x.reads (c + 1) k with
  | false, false => none
  | true, false => some c
  | false, true => some (c + 1)
  | true, true =>
    let twice := 2 * x.fraction.1 * tenTo (-k).toNat
    let middle := (2 * c + 1) * tenTo k.toNat * x.fraction.2
    if twice < middle || (twice = middle && c % 2 = 0) then some c else some (c + 1)

/-- The fewest digits that read back as `x`, and the decimal exponent of the first. -/
def shortest (x : Double) : List Char × Int :=
  let (num, den) := x.fraction
  let top := leading num den
  let hit := (List.range 17).findSome? fun (i : Nat) =>
    let k := top - (i : Int)
    let c := num * tenTo (-k).toNat / (den * tenTo k.toNat)
    (x.neighbour c k).map fun c => (c, k)
  match hit with
  | none => (['0'], 0)
  | some (c, k) =>
    let ds := Nat.toDigits 10 c
    ((ds.reverse.dropWhile (· = '0')).reverse, k + (ds.length - 1))

/-- Digits with a point and at least one place; an exponent with its sign takes over below
`1e-5` and from `1e16`. -/
def layout (ds : List Char) (e : Int) : String :=
  let places (ds : List Char) := if ds = [] then ['0'] else ds
  if -5 ≤ e && e < 0 then
    String.ofList (['0', '.'] ++ List.replicate (-e - 1).toNat '0' ++ ds)
  else if 0 ≤ e && e < 16 then
    let n := e.toNat + 1
    String.ofList (ds.take n ++ List.replicate (n - ds.length) '0' ++ ['.'] ++ places (ds.drop n))
  else
    let point := if ds.length = 1 then ds else ds.take 1 ++ ['.'] ++ ds.drop 1
    let sign := if e < 0 then '-' else '+'
    String.ofList (point ++ ['e', sign] ++ Nat.toDigits 10 e.natAbs)

def text (x : Double) : String :=
  if x.mant = 0 then "0.0" else layout x.shortest.1 x.shortest.2

end Double

end MethodAudit
