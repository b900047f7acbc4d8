import MethodAudit.Pattern.SetBuild
import MethodAudit.Pattern.Tree

/-!
The automaton of a pattern. A pattern is refused if its automaton, or the one that reads texts
from the right, does not fit.
-/

namespace MethodAudit.Pattern.Build

/-! ### Repetitions -/

/-- Follows a part by a number of others. -/
def follow (step : Build Part) : Nat → Part → Build Part
  | 0, p => fun a => some (p, a)
  | n + 1, p => fun a =>
    match step a with
    | none => none
    | some (q, a) =>
      match connect p.last q.first a with
      | none => none
      | some (_, a) => follow step n ⟨p.first, q.last⟩ a

def exactly (step : Build Part) : Nat → Build Part
  | 0 => blank
  | n + 1 => do follow step n (← step)

/-- Follows a part by a number of others, before each of which one may stop at `stop`. -/
def followUpTo (step : Build Part) (stop : Nat) : Nat → Part → Build Part
  | 0, p => fun a =>
    match connect p.last stop a with
    | none => none
    | some (_, a) => some (⟨p.first, stop⟩, a)
  | n + 1, p => fun a =>
    let more : Build Part := do
      let branch ← fork
      let q ← step
      connect p.last branch
      connect branch q.first
      connect branch stop
      return ⟨p.first, q.last⟩
    match more a with
    | none => none
    | some (p, a) => followUpTo step stop n p a

def between (step : Build Part) (least most : Nat) : Build Part := do
  let p ← exactly step least
  let stop ← add (.pass 0)
  followUpTo step stop (most - least) p

def optional (step : Build Part) : Build Part := do
  let branch ← fork
  let p ← step
  let stop ← add (.pass 0)
  connect branch p.first
  connect branch stop
  connect p.last stop
  return ⟨branch, stop⟩

/-- Any number of times, what may match nothing. -/
def starOfEmpty (step : Build Part) : Build Part := do
  let p ← step
  let again ← fork
  connect p.last again
  connect again p.first
  let branch ← fork
  let stop ← add (.pass 0)
  connect branch p.first
  connect branch stop
  connect again stop
  return ⟨branch, stop⟩

/-- Any number of times, what matches something. -/
def star (step : Build Part) : Build Part := do
  let branch ← fork
  let p ← step
  connect branch p.first
  connect p.last branch
  return ⟨branch, branch⟩

/-- At least once. -/
def plus (step : Build Part) : Build Part := do
  let p ← step
  let again ← fork
  connect p.last again
  connect again p.first
  return ⟨p.first, again⟩

def atLeast (step : Build Part) (n : Nat) : Build Part := do
  let p ← exactly step (n - 1)
  let q ← step
  let again ← fork
  connect p.last q.first
  connect q.last again
  connect again q.first
  return ⟨p.first, again⟩

def repetition (step : Build Part) (canBeEmpty : Bool) (least : Nat) (most : Option Nat) :
    Build Part :=
  match least, most with
  | 0, some 1 => optional step
  | 0, none => if canBeEmpty then starOfEmpty step else star step
  | 1, none => plus step
  | n, none => atLeast step n
  | n, some m => if n = m then exactly step n else between step n m

/-! ### Choices -/

def choice (steps : List (Build Part)) : Build Part := do
  match steps with
  | [] => anyByte []
  | [step] => step
  | step :: second :: others =>
    let p ← step
    let q ← second
    let branch ← fork
    let stop ← add (.pass 0)
    let link (p : Part) : Build Unit := do
      connect branch p.first
      connect p.last stop
    link p
    link q
    others.forM fun step => do link (← step)
    return ⟨branch, stop⟩

/-- Words by their first bytes, in ascending order; words with the same one stay in order. -/
def byFirst (words : List (List UInt8)) : List (UInt8 × List (List UInt8)) :=
  let firsts := (words.filterMap List.head?).eraseDups.mergeSort
  firsts.map fun b =>
    (b, words.filterMap fun w => match w with
      | c :: rest => if c = b then some rest else none
      | [] => none)

/-- The words up to each empty one, and those after the last. Several empty words in front count
as one. -/
def chunks (words : List (List UInt8)) : List (List (List UInt8)) :=
  let (front, rest) := (words.takeWhile List.isEmpty, words.dropWhile List.isEmpty)
  let split := rest.foldr (fun w groups => match w, groups with
    | [], groups => [] :: groups
    | w, g :: groups => (w :: g) :: groups
    | w, [] => [[w]]) [[]]
  if front.isEmpty then split else [] :: split

/-- The state that reads one of some words and leads to `stop`. Words that start alike share
states, in the order of the words; the number bounds their length. -/
def wordState (stop : Nat) : Nat → List (List UInt8) → Build Nat
  | 0, _ => return stop
  | n + 1, words => do
    let groups ← (chunks words).mapM fun chunk => do
      let arcs ← (byFirst chunk).mapM fun (b, rests) => do
        let next ← if rests.all List.isEmpty then pure stop else wordState stop n rests
        return (⟨⟨b, b⟩, next⟩ : Arc)
      match arcs with
      | [] => return []
      | [a] => return [← add (.byte a)]
      | arcs => return [← add (.bytes arcs)]
    add (.fork ((groups.intersperse [stop]).flatten.toArray))

/-- One of some words. -/
def wordPart (words : List (List UInt8)) : Build Part := do
  let stop ← add (.pass 0)
  let longest := words.foldl (fun n w => max n w.length) 0
  let first ← wordState stop (longest + 1) words
  return ⟨first, stop⟩

def literal? : Tree → Option (List UInt8)
  | .literal bs => some bs
  | _ => none

/-! ### Trees -/

/-- A part between two states that mark a group. -/
def groupPart (step : Build Part) : Build Part := do
  let start ← add (.pass 0)
  let p ← step
  let stop ← add (.pass 0)
  connect start p.first
  connect p.last stop
  return ⟨start, stop⟩

mutual

/-- The part of a tree. Groups only count from the left. -/
def treePart (backward : Bool) : Tree → Build Part
  | .empty => blank
  | .literal bs => join (bs.map fun b => single (.byte ⟨⟨b, b⟩, 0⟩))
  | .set s => setPart backward s
  | .look l => single (.look l 0)
  | .repeated t least most _ =>
    repetition (treePart backward t) (t.shortest?.getD 0 = 0) least most
  | .group _ t => if backward then treePart backward t else groupPart (treePart backward t)
  | .seq ts => join (treeParts backward ts)
  | .alt ts =>
    match ts.mapM literal? with
    | some words => wordPart words
    | none => choice (treeParts backward ts)

def treeParts (backward : Bool) : List Tree → List (Build Part)
  | [] => []
  | t :: ts => treePart backward t :: treeParts backward ts

end

/-- Skips any bytes, unless the tree matches at one end of the text only. -/
def lead (anchored : Bool) : Build Part :=
  if anchored then blank else star (anyByte [⟨0, 255⟩])

/-- The automaton of a tree, and where matches start. -/
def whole (backward : Bool) (t : Tree) : Build Nat := do
  let before ← lead (t.startsWith (if backward then .endText else .startText))
  let p ← if backward then treePart backward t else groupPart (treePart backward t)
  let stop ← add .accept
  connect p.last stop
  connect before.last p.first
  return p.first

end MethodAudit.Pattern.Build
