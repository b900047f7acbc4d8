import MethodAudit.Pattern.Fault
import MethodAudit.Pattern.Look

/-!
Patterns as they are written. A form keeps the spans of its parts, so that one can say where a
pattern is wrong.

A pattern may be nested 250 levels deep. Repetitions, groups and sets, choices and sequences of
more than one item are each one level deeper than what they hold.
-/

namespace MethodAudit.Pattern

/-- A character; it may be written as the code of a byte. -/
structure Literal where
  span : Span
  char : Char
  isByte : Bool
  deriving Repr

/-- Conditions on a position. Those of lines depend on the flags. -/
inductive Anchor
  | lineStart
  | lineEnd
  | textStart
  | textEnd
  | word (e : Edge)
  deriving Repr

/-- Classes of characters: by a letter, by a property, or by first and last characters. -/
inductive ClassForm
  | letter (l : Char) (negated : Bool)
  | property (query : List Char) (negated : Bool)
  | ranges (rs : List (Char × Char)) (negated : Bool)
  deriving Repr

/-- What is written by one character or one escape. -/
inductive Atom
  | literal (l : Literal)
  | dot (span : Span)
  | anchor (span : Span) (a : Anchor)
  | cls (span : Span) (c : ClassForm)
  deriving Repr

def Atom.span : Atom → Span
  | .literal l => l.span
  | .dot s | .anchor s _ | .cls s _ => s

/-- How two sets are combined. -/
inductive SetOp
  | inter
  | minus
  | apart
  deriving Repr

/-- What stands between brackets. -/
inductive SetForm
  | empty (span : Span)
  | literal (l : Literal)
  | range (first last : Literal)
  | cls (span : Span) (c : ClassForm)
  | items (span : Span) (ss : List SetForm)
  | op (span : Span) (o : SetOp) (left right : SetForm)
  | bracket (span : Span) (negated : Bool) (s : SetForm)
  deriving Repr

def SetForm.span : SetForm → Span
  | .literal l => l.span
  | .range a b => ⟨a.span.first, b.span.stop⟩
  | .empty s | .cls s _ | .items s _ | .op s _ _ _ | .bracket s _ _ => s

/-- Flags in the order in which they are written, and whether each is switched on. -/
abbrev FlagChange := List (Char × Bool)

inductive GroupKind
  | capture (number : Nat)
  | plain (flags : FlagChange)
  deriving Repr

/-- A pattern as it is written; `most` bounds the number of repetitions. -/
inductive Form
  | empty (span : Span)
  | flags (span : Span) (change : FlagChange)
  | atom (a : Atom)
  | set (s : SetForm)
  | repeated (span : Span) (f : Form) (least : Nat) (most : Option Nat) (greedy : Bool)
  | group (span : Span) (kind : GroupKind) (f : Form)
  | alt (span : Span) (fs : List Form)
  | seq (span : Span) (fs : List Form)
  deriving Repr

def Form.span : Form → Span
  | .atom a => a.span
  | .set s => s.span
  | .empty s | .flags s _ | .repeated s _ _ _ _ | .group s _ _ | .alt s _ | .seq s _ => s

/-! ### Depth -/

/-- How deep a pattern may be nested. -/
def maxDepth : Nat := 250

mutual

/-- The first part that is more than a number of levels deep. -/
def SetForm.beyond? : Nat → SetForm → Option Span
  | 0, .items s _ | 0, .op s _ _ _ | 0, .bracket s _ _ => some s
  | n + 1, .items _ ss => SetForm.anyBeyond? n ss
  | n + 1, .op _ _ left right => (left.beyond? n).or (right.beyond? n)
  | n + 1, .bracket _ _ s => s.beyond? n
  | _, _ => none

def SetForm.anyBeyond? (n : Nat) : List SetForm → Option Span
  | [] => none
  | s :: ss => (s.beyond? n).or (SetForm.anyBeyond? n ss)

end

mutual

/-- The first part that is more than a number of levels deep. -/
def Form.beyond? : Nat → Form → Option Span
  | n, .set s => s.beyond? n
  | 0, .repeated s _ _ _ _ | 0, .group s _ _ | 0, .alt s _ | 0, .seq s _ => some s
  | n + 1, .repeated _ f _ _ _ | n + 1, .group _ _ f => f.beyond? n
  | n + 1, .alt _ fs | n + 1, .seq _ fs => Form.anyBeyond? n fs
  | _, _ => none

def Form.anyBeyond? (n : Nat) : List Form → Option Span
  | [] => none
  | f :: fs => (f.beyond? n).or (Form.anyBeyond? n fs)

end

end MethodAudit.Pattern
