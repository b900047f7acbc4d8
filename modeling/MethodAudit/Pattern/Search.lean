import MethodAudit.Pattern.Automaton

/-!
Searching a text with an automaton. All matches that may still come are followed at once, so a
search takes a time that is at most the product of the lengths of the text and the automaton.
-/

namespace MethodAudit.Pattern

/-- How far a search is: the states that wait for a byte, the step in which each state was last
reached, the number of the current step, and whether there was a match. -/
structure Front where
  live : List Nat
  marks : Array Nat
  step : Nat
  found : Bool

namespace Automaton

def front (a : Automaton) : Front := ⟨[], Array.replicate a.states.size 0, 1, false⟩

/-- Follows states to those that wait for a byte, under the conditions that hold. Each is
followed once in a step, so the size of the automaton bounds their number. -/
def reach (a : Automaton) (holds : Look → Bool) : Nat → List Nat → Front → Front
  | n + 1, s :: todo, f =>
    if f.marks[s]? = some f.step then reach a holds n todo f
    else
      let f := { f with marks := f.marks.setIfInBounds s f.step }
      match a.states[s]? with
      | some (.pass next) => reach a holds n (next :: todo) f
      | some (.look l next) => reach a holds n (if holds l then next :: todo else todo) f
      | some (.fork nexts) => reach a holds n (nexts.foldr List.cons todo) f
      | some .accept => { f with found := true }
      | _ => reach a holds n todo { f with live := s :: f.live }
  | _, _, f => f

/-- Adds states to a front. -/
def enter (a : Automaton) (holds : Look → Bool) (states : List Nat) (f : Front) : Front :=
  a.reach holds (a.size + 1) states f

/-- Reads a byte. -/
def read (a : Automaton) (holds : Look → Bool) (f : Front) (b : UInt8) : Front :=
  let nexts := f.live.filterMap fun s => a.states[s]?.bind (State.after? b)
  a.enter holds nexts { f with live := [], step := f.step + 1 }

/-- Whether there is a match in a text or has been one. Matches start at `start`, anywhere
between two characters. -/
def search (a : Automaton) (start : Nat) : Option Char → List Char → Front → Bool
  | before, cs, f =>
    let f := a.enter (Look.holds before cs.head?) [start] f
    f.found || match cs with
      | [] => false
      | c :: rest =>
        a.search start (some c) rest
          ((String.utf8EncodeChar c).foldl (a.read (Look.holds (some c) rest.head?)) f)

end Automaton

end MethodAudit.Pattern
