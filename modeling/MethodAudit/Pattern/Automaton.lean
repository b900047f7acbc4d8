import MethodAudit.Pattern.Look
import MethodAudit.Pattern.Utf8

/-!
Automata that read a text byte by byte, and how they are put together. An automaton may take up
ten mebibytes: so much for each state, and more for its arcs and branches.
-/

namespace MethodAudit.Pattern

/-- What leads on to a state at some bytes. -/
structure Arc where
  range : ByteRange
  next : Nat
  deriving DecidableEq, Repr

/-- A state leads on without a byte, at bytes, under a condition, or in several ways. -/
inductive State
  | pass (next : Nat)
  | byte (a : Arc)
  | bytes (arcs : List Arc)
  | look (l : Look) (next : Nat)
  | fork (nexts : Array Nat)
  | accept

namespace State

/-- What a state takes up beyond what every state does. -/
def extra : State → Nat
  | .bytes arcs => 8 * arcs.length
  | .fork nexts => 4 * nexts.size
  | _ => 0

/-- Leads on to a state; a fork gets one more branch. -/
def leadTo (next : Nat) : State → State
  | .pass _ => .pass next
  | .byte a => .byte { a with next }
  | .look l _ => .look l next
  | .fork nexts => .fork (nexts.push next)
  | s => s

def isFork : State → Bool
  | .fork _ => true
  | _ => false

/-- The state after a byte. -/
def after? (b : UInt8) : State → Option Nat
  | .byte a => if a.range.first ≤ b && b ≤ a.range.last then some a.next else none
  | .bytes arcs =>
    (arcs.find? fun a => a.range.first ≤ b && b ≤ a.range.last).map Arc.next
  | _ => none

end State

/-- The states by their numbers, and what they take up beyond what every state does. -/
structure Automaton where
  states : Array State
  extra : Nat

namespace Automaton

def empty : Automaton := ⟨#[], 0⟩

def size (a : Automaton) : Nat := 32 * a.states.size + a.extra

def limit : Nat := 0xa00000

def fit? (a : Automaton) : Option Automaton := if a.size ≤ limit then some a else none

end Automaton

/-- Steps that add to an automaton, as long as it fits. -/
abbrev Build := StateT Automaton Option

namespace Build

/-- Adds a state. -/
def add (s : State) : Build Nat := fun a =>
  let number := a.states.size
  match Automaton.fit? ⟨a.states.push s, a.extra + s.extra⟩ with
  | some a => some (number, a)
  | none => none

/-- Lets a state lead on to another. -/
def connect (s next : Nat) : Build Unit := fun a =>
  let more := if a.states[s]?.any State.isFork then 4 else 0
  match Automaton.fit? ⟨a.states.modify s (State.leadTo next), a.extra + more⟩ with
  | some a => some ((), a)
  | none => none

/-- A part of an automaton: where it starts and which state leads on from it. -/
structure Part where
  first : Nat
  last : Nat

/-- A part of one state. -/
def single (s : State) : Build Part := do
  let n ← add s
  return ⟨n, n⟩

def blank : Build Part := single (.pass 0)

def fork : Build Nat := add (.fork #[])

/-- One part after the other. -/
def join (steps : List (Build Part)) : Build Part :=
  match steps with
  | [] => blank
  | step :: steps => do
    steps.foldlM (fun p step => do
      let q ← step
      connect p.last q.first
      return ⟨p.first, q.last⟩) (← step)

end Build

end MethodAudit.Pattern
