import MethodAudit.Pattern.Look

/-!
Patterns as trees. The functions that put trees together leave out what is redundant: sequences
and choices are flat, neighbouring literals are one, a choice between characters is a set, and
what all the choices start with stands before them.
-/

namespace MethodAudit.Pattern

/-- A pattern. Literals are in UTF-8; `most` bounds the number of repetitions; groups that
capture are numbered. -/
inductive Tree
  | empty
  | literal (bytes : List UInt8)
  | set (s : CharSet)
  | look (l : Look)
  | repeated (t : Tree) (least : Nat) (most : Option Nat) (greedy : Bool)
  | group (index : Nat) (t : Tree)
  | seq (ts : List Tree)
  | alt (ts : List Tree)

namespace Tree

mutual

/-- Equality of trees. -/
def same : Tree → Tree → Bool
  | .empty, .empty => true
  | .literal a, .literal b => a == b
  | .set s, .set t => s == t
  | .look l, .look m => l == m
  | .repeated t a b c, .repeated u d e f => a == d && b == e && c == f && t.same u
  | .group i t, .group j u => i == j && t.same u
  | .seq ts, .seq us => sameAll ts us
  | .alt ts, .alt us => sameAll ts us
  | _, _ => false

def sameAll : List Tree → List Tree → Bool
  | [], [] => true
  | t :: ts, u :: us => t.same u && sameAll ts us
  | _, _ => false

end

mutual

/-- The number of nodes. -/
def weight : Tree → Nat
  | .empty | .literal _ | .set _ | .look _ => 1
  | .repeated t _ _ _ | .group _ t => t.weight + 1
  | .seq ts | .alt ts => weights ts + 1

def weights : List Tree → Nat
  | [] => 0
  | t :: ts => t.weight + weights ts

end

/-! ### Lengths of matches -/

/-- The length of a character in UTF-8. -/
def utf8Length (n : Nat) : Nat :=
  if n < 0x80 then 1 else if n < 0x800 then 2 else if n < 0x10000 then 3 else 4

mutual

/-- The length of a shortest match, in bytes; none if a part cannot match. -/
def shortest? : Tree → Option Nat
  | .empty | .look _ => some 0
  | .literal bs => some bs.length
  | .set s => s.ranges.head?.map fun r => utf8Length r.1
  | .repeated t least _ _ => t.shortest?.map (· * least)
  | .group _ t => t.shortest?
  | .seq ts => (shortestAll? ts).map fun ns => ns.foldl (· + ·) 0
  | .alt ts => (shortestAll? ts).bind fun ns => ns.min?

def shortestAll? : List Tree → Option (List Nat)
  | [] => some []
  | t :: ts => do return (← t.shortest?) :: (← shortestAll? ts)

end

mutual

/-- The length of a longest match, in bytes, if there is a bound. -/
def longest? : Tree → Option Nat
  | .empty | .look _ => some 0
  | .literal bs => some bs.length
  | .set s => s.ranges.getLast?.map fun r => utf8Length r.2
  | .repeated t _ most _ => do return (← t.longest?) * (← most)
  | .group _ t => t.longest?
  | .seq ts => (longestAll? ts).map fun ns => ns.foldl (· + ·) 0
  | .alt ts => (longestAll? ts).bind fun ns => ns.max?

def longestAll? : List Tree → Option (List Nat)
  | [] => some []
  | t :: ts => do return (← t.longest?) :: (← longestAll? ts)

end

mutual

/-- Every match starts with the condition `l`, before any character. -/
def startsWith (l : Look) : Tree → Bool
  | .look m => m == l
  | .repeated t least _ _ => 0 < least && t.startsWith l
  | .group _ t => t.startsWith l
  | .seq ts => seqStartsWith l ts
  | .alt ts => allStartWith l ts
  | _ => false

def seqStartsWith (l : Look) : List Tree → Bool
  | [] => false
  | t :: ts => t.startsWith l || (t.longest? == some 0 && seqStartsWith l ts)

def allStartWith (l : Look) : List Tree → Bool
  | [] => true
  | t :: ts => t.startsWith l && allStartWith l ts

end

mutual

/-- The tree read from the right, as far as the order of the parts goes. -/
def reversed : Tree → Tree
  | .repeated t least most greedy => .repeated t.reversed least most greedy
  | .group i t => .group i t.reversed
  | .seq ts => .seq (reversedAll ts).reverse
  | .alt ts => .alt (reversedAll ts)
  | .literal bs => .literal bs.reverse
  | t => t

def reversedAll : List Tree → List Tree
  | [] => []
  | t :: ts => t.reversed :: reversedAll ts

end

/-! ### Putting trees together -/

/-- What never matches. -/
def nothing : Tree := .set .empty

def char (c : Char) : Tree := .literal (String.utf8EncodeChar c)

/-- One character of a set. -/
def ofSet (s : CharSet) : Tree :=
  match s.single? with
  | some c => char c
  | none => .set s

/-- A repetition, where it does not come to less. What matches the empty text only need not be
repeated. -/
def times (t : Tree) (least : Nat) (most : Option Nat) (greedy : Bool) : Tree :=
  let (least, most) :=
    if t.longest? = some 0 then (min least 1, some (min (most.getD 1) 1)) else (least, most)
  if least = 0 && most = some 0 then .empty
  else if least = 1 && most = some 1 then t
  else .repeated t least most greedy

/-- Joins neighbouring literals. -/
def joinLiterals : List Tree → List Tree
  | [] => []
  | .literal a :: ts =>
    match joinLiterals ts with
    | .literal b :: rest => .literal (a ++ b) :: rest
    | rest => .literal a :: rest
  | t :: ts => t :: joinLiterals ts

def seqParts : Tree → List Tree
  | .empty => []
  | .seq ts => ts
  | t => [t]

/-- One tree after the other. -/
def seqOf (ts : List Tree) : Tree :=
  match joinLiterals (ts.flatMap seqParts) with
  | [] => .empty
  | [t] => t
  | ts => .seq ts

def altParts : Tree → List Tree
  | .alt ts => ts
  | t => [t]

/-- The character of a literal that has only one. -/
def literalChar? : Tree → Option CharSet
  | .literal bs =>
    match (String.fromUTF8? ⟨bs.toArray⟩).map String.toList with
    | some [c] => some (.range c c)
    | _ => none
  | _ => none

def set? : Tree → Option CharSet
  | .set s => some s
  | _ => none

/-- The choices as one set, if all are characters, or all are sets. -/
def oneSet? (ts : List Tree) : Option CharSet :=
  ((ts.mapM literalChar?).or (ts.mapM set?)).map fun ss => ss.foldl CharSet.union .empty

/-- What two lists of trees both start with. -/
def commonStart : List Tree → List Tree → List Tree
  | t :: ts, u :: us => if t.same u then t :: commonStart ts us else []
  | _, _ => []

/-- The parts of the trees, if all are sequences. -/
def sequences? (ts : List Tree) : Option (List (List Tree)) :=
  ts.mapM fun t => match t with
    | .seq us => some us
    | _ => none

/-- A choice between trees; the number bounds how often a common start is taken out. -/
def altWith : Nat → List Tree → Tree
  | rounds, ts =>
    match ts.flatMap altParts with
    | [] => nothing
    | [t] => t
    | ts =>
      match oneSet? ts, rounds, sequences? ts with
      | some s, _, _ => ofSet s
      | none, rounds + 1, some (first :: others) =>
        match others.foldl commonStart first with
        | [] => .alt ts
        | start =>
          let rests := (first :: others).map fun us => seqOf (us.drop start.length)
          seqOf (start ++ [altWith rounds rests])
      | _, _, _ => .alt ts

/-- A choice between trees. -/
def altOf (ts : List Tree) : Tree := altWith (weights ts) ts

end Tree

end MethodAudit.Pattern
