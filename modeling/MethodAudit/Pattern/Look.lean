import MethodAudit.Text.Classes

/-!
Conditions on a position in a text. They depend on the characters before and after it only.
-/

namespace MethodAudit.Pattern

/-- Where a position stands at a word. The halves ask for one side only. -/
inductive Edge
  | boundary
  | inside
  | start
  | stop
  | startHalf
  | stopHalf
  deriving DecidableEq, Repr

/-- Conditions on a position. A line may also end at `\r`, alone or before `\n`; words may be of
ASCII characters only. -/
inductive Look
  | startText
  | endText
  | startLine (carriage : Bool)
  | endLine (carriage : Bool)
  | word (edge : Edge) (ascii : Bool)
  deriving DecidableEq, Repr

def isAsciiWord (c : Char) : Bool := c.isAlphanum || c = '_'

def Edge.holds (e : Edge) (before after : Bool) : Bool :=
  match e with
  | .boundary => before != after
  | .inside => before == after
  | .start => !before && after
  | .stop => before && !after
  | .startHalf => !before
  | .stopHalf => !after

/-- Whether a condition holds between two characters; there is none before the first position
and none after the last. -/
def Look.holds (before after : Option Char) : Look → Bool
  | .startText => before.isNone
  | .endText => after.isNone
  | .startLine false => before.isNone || before = some '\n'
  | .startLine true =>
    before.isNone || before = some '\n' || (before = some '\r' && after ≠ some '\n')
  | .endLine false => after.isNone || after = some '\n'
  | .endLine true =>
    after.isNone || after = some '\r' || (after = some '\n' && before ≠ some '\r')
  | .word e ascii =>
    let isWord := if ascii then isAsciiWord else Text.isWord
    e.holds (before.any isWord) (after.any isWord)

end MethodAudit.Pattern
