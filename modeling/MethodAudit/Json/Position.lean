/-!
Places in a text. They are told by the bytes before them: how many lines these make, and how
many bytes stand on the last one.
-/

namespace MethodAudit.Json

structure Position where
  line : Nat
  column : Nat
  deriving DecidableEq, Inhabited, Repr

namespace Position

def start : Position := ⟨1, 0⟩

/-- The place behind a character. -/
def after (p : Position) (c : Char) : Position :=
  if c = '\n' then ⟨p.line + 1, 0⟩ else ⟨p.line, p.column + c.utf8Size⟩

/-- The place behind the first byte of a character. -/
def afterByte (p : Position) (c : Char) : Position :=
  if c = '\n' then ⟨p.line + 1, 0⟩ else ⟨p.line, p.column + 1⟩

/-- The place some bytes before, on the same line. -/
def back (p : Position) (bytes : Nat) : Position := ⟨p.line, p.column - bytes⟩

end Position

/-- The part of a line from one place to another. -/
structure Span where
  start : Position
  stop : Position
  deriving DecidableEq, Inhabited, Repr

/-- The place behind the first byte of a span, or the end of the text if it is empty there. -/
def Span.peek (s : Span) : Position :=
  if s.start = s.stop then s.start else ⟨s.start.line, s.start.column + 1⟩

end MethodAudit.Json
