import MethodAudit.Text.Classes

/-!
Places in the text of a pattern, and walking along it. Where a pattern is verbose, blanks and
comments do not count.
-/

namespace MethodAudit.Pattern

/-- A line and a column, both counted from one. -/
structure Place where
  line : Nat
  column : Nat
  deriving DecidableEq, Repr

namespace Place

def start : Place := ⟨1, 1⟩

/-- The place after a character. -/
def after (p : Place) (c : Char) : Place :=
  if c = '\n' then ⟨p.line + 1, 1⟩ else ⟨p.line, p.column + 1⟩

/-- The order of places in a text. -/
def le (p q : Place) : Bool := p.line < q.line || (p.line = q.line && p.column ≤ q.column)

end Place

/-- What stands from one place up to another. -/
structure Span where
  first : Place
  stop : Place
  deriving DecidableEq, Repr

def Span.isOneLine (s : Span) : Bool := s.first.line = s.stop.line

/-- A place and what follows there. -/
structure Cursor where
  place : Place
  rest : List Char

namespace Cursor

def start (text : String) : Cursor := ⟨.start, text.toList⟩

/-- Goes past one character. -/
def next (c : Cursor) : Cursor :=
  match c.rest with
  | [] => c
  | x :: xs => ⟨c.place.after x, xs⟩

/-- The span from here to here. -/
def here (c : Cursor) : Span := ⟨c.place, c.place⟩

/-- The span of the next character. -/
def char (c : Cursor) : Span := ⟨c.place, c.next.place⟩

/-- The span from an earlier place to here. -/
def since (c : Cursor) (first : Place) : Span := ⟨first, c.place⟩

/-- Goes past blanks and comments, and past the rest of a comment if `inside`. -/
def skipFrom (inside : Bool) (p : Place) : List Char → Cursor
  | [] => ⟨p, []⟩
  | x :: xs =>
    if inside then skipFrom (x ≠ '\n') (p.after x) xs
    else if Text.isSpace x then skipFrom false (p.after x) xs
    else if x = '#' then skipFrom true (p.after x) xs
    else ⟨p, x :: xs⟩

/-- Goes past what does not count. -/
def skip (verbose : Bool) (c : Cursor) : Cursor :=
  if verbose then skipFrom false c.place c.rest else c

/-- Goes past one character and what does not count after it. -/
def advance (verbose : Bool) (c : Cursor) : Cursor := c.next.skip verbose

/-- The character after the next one, blanks aside where they do not count; if nothing but
blanks is left, the first of them. A first `#` does not count either. -/
def peek? (verbose : Bool) (c : Cursor) : Option Char :=
  let rest := c.rest.drop 1
  if !verbose then rest.head?
  else
    let next := match rest.dropWhile Text.isSpace with
      | '#' :: rest => (rest.dropWhile Text.isSpace).head?
      | rest => rest.head?
    next.or rest.head?

/-- The characters that satisfy `keep`; the number bounds how many. -/
def collect (verbose : Bool) (keep : Char → Bool) : Nat → Cursor → List Char × Cursor
  | 0, c => ([], c)
  | n + 1, c =>
    match c.rest with
    | [] => ([], c)
    | x :: _ =>
      if keep x then
        let (xs, c) := collect verbose keep n (c.advance verbose)
        (x :: xs, c)
      else ([], c)

/-- All the characters from here that satisfy `keep`. -/
def takeWhile (verbose : Bool) (keep : Char → Bool) (c : Cursor) : List Char × Cursor :=
  c.collect verbose keep c.rest.length

/-- Goes past a text, if it stands here. -/
def after? (text : List Char) (c : Cursor) : Option Cursor :=
  if text.isPrefixOf c.rest then some (text.foldl (fun c _ => c.next) c) else none

end Cursor

end MethodAudit.Pattern
