import MethodAudit.Pattern.Meaning
import MethodAudit.Pattern.Reader
import MethodAudit.Pattern.Search
import MethodAudit.Pattern.TreeBuild

/-!
Patterns and their matches in a text.
-/

namespace MethodAudit

/-- A pattern is searched for by an automaton, in which matches start at a state. A choice between
very many words is searched for word by word, in UTF-8. -/
inductive Pattern
  | automaton (a : Pattern.Automaton) (start : Nat)
  | words (ws : List (List UInt8))

namespace Pattern

/-- Why a text is not a pattern. -/
inductive Rejection
  | malformed (f : Fault)
  | tooLarge
  deriving DecidableEq, Repr

/-- The message about a text that is not a pattern. -/
def Rejection.message (text : String) : Rejection → String
  | .malformed f => f.message text
  | .tooLarge => "Compiled regex exceeds size limit of 10485760 bytes."

/-- The tree that a text describes. -/
def Tree.parse (text : String) : Except Fault Tree := do
  let f ← Form.parse text
  return (← f.tree {}).1

/-- The words of a choice between so many of them that it needs no automaton. -/
def Tree.words? : Tree → Option (List (List UInt8))
  | .alt ts => (ts.mapM Build.literal?).filter fun ws => 3000 ≤ ws.length
  | _ => none

/-- The pattern of a tree, unless its automaton or the one that reads from the right is too
large. -/
def ofTree? (t : Tree) : Option Pattern :=
  match t.words? with
  | some ws => some (.words ws)
  | none =>
    match Build.whole false t .empty, Build.whole true t.reversed .empty with
    | some (start, a), some _ => some (.automaton a start)
    | _, _ => none

/-- The pattern that a text describes. -/
def parse (text : String) : Except Rejection Pattern :=
  match Tree.parse text with
  | .error f => .error (.malformed f)
  | .ok t =>
    match ofTree? t with
    | some p => .ok p
    | none => .error .tooLarge

/-- The word stands somewhere in the bytes. -/
def occurs (w : List UInt8) : List UInt8 → Bool
  | [] => w.isEmpty
  | b :: bs => w.isPrefixOf (b :: bs) || occurs w bs

/-- The pattern matches somewhere in the text. -/
def isMatch (p : Pattern) (text : String) : Bool :=
  match p with
  | .automaton a start => a.search start none text.toList a.front
  | .words ws => ws.any (occurs · text.toUTF8.toList)

end Pattern

end MethodAudit
