import MethodAudit.Pattern.Escape

/-!
Reading sets of characters between brackets.
-/

namespace MethodAudit.Pattern

/-- Items of a set one after the other, newest first. -/
structure Items where
  span : Span
  forms : List SetForm

namespace Items

/-- No items yet. -/
def none (c : Cursor) : Items := ⟨c.here, []⟩

def add (is : Items) (s : SetForm) : Items :=
  ⟨⟨if is.forms.isEmpty then s.span.first else is.span.first, s.span.stop⟩, s :: is.forms⟩

def form (is : Items) : SetForm :=
  match is.forms with
  | [] => .empty is.span
  | [s] => s
  | ss => .items is.span ss.reverse

end Items

/-- A set being read: the span of its opening, whether it is negated, what the last operator has
on its left, and what has been read since. -/
structure Bracket where
  opening : Span
  negated : Bool
  left : Option (SetOp × SetForm)
  items : Items

namespace Bracket

def add (b : Bracket) (s : SetForm) : Bracket := { b with items := b.items.add s }

/-- What there is so far, with the last operator applied. -/
def form (b : Bracket) : SetForm :=
  let right := b.items.form
  match b.left with
  | none => right
  | some (o, left) => .op ⟨left.span.first, right.span.stop⟩ o left right

/-- Goes on after an operator. -/
def operator (b : Bracket) (o : SetOp) (c : Cursor) : Bracket :=
  { b with left := some (o, b.form), items := .none c }

def close (b : Bracket) (c : Cursor) : SetForm :=
  .bracket (c.since b.opening.first) b.negated b.form

/-- That the set has no end. -/
def unclosed (b : Bracket) : Fault := ⟨.setUnclosed, b.opening, none⟩

end Bracket

/-- A character that stands for itself. -/
def plainLiteral (c : Cursor) (x : Char) : Literal := ⟨c.char, x, false⟩

/-- The hyphens at the front of a set that starts at `first`; the number bounds how many. -/
def readHyphens (verbose : Bool) (first : Place) :
    Nat → Items → Cursor → Except Fault (Items × Cursor)
  | n + 1, is, c =>
    match c.rest with
    | '-' :: _ =>
      let after := c.advance verbose
      if after.rest.isEmpty then .error ⟨.setUnclosed, ⟨first, first⟩, none⟩
      else readHyphens verbose first n (is.add (.literal (plainLiteral c '-'))) after
    | _ => return (is, c)
  | 0, is, c => return (is, c)

/-- Reads the opening bracket. Hyphens at the front, or else a closing bracket there, stand for
themselves. -/
def Bracket.start (verbose : Bool) (c : Cursor) : Except Fault (Bracket × Cursor) := do
  let first := c.place
  let unclosed (c : Cursor) : Fault := ⟨.setUnclosed, c.since first, none⟩
  let c := c.advance verbose
  if c.rest.isEmpty then .error (unclosed c)
  let negated := c.rest.head? = some '^'
  let c := if negated then c.advance verbose else c
  if c.rest.isEmpty then .error (unclosed c)
  let (is, c) ← readHyphens verbose first c.rest.length (.none c) c
  if is.forms.isEmpty && c.rest.head? = some ']' then
    let is := is.add (.literal (plainLiteral c ']'))
    let c := c.advance verbose
    if c.rest.isEmpty then .error (unclosed c)
    return (⟨c.since first, negated, Option.none, is⟩, c)
  else return (⟨c.since first, negated, Option.none, is⟩, c)

/-- The named sets of the ASCII range, by their first and last characters. -/
def namedSets : List (String × List (Char × Char)) := [
  ("alnum", [('0', '9'), ('A', 'Z'), ('a', 'z')]),
  ("alpha", [('A', 'Z'), ('a', 'z')]),
  ("ascii", [('\x00', '\x7f')]),
  ("blank", [('\t', '\t'), (' ', ' ')]),
  ("cntrl", [('\x00', '\x1f'), ('\x7f', '\x7f')]),
  ("digit", [('0', '9')]),
  ("graph", [('!', '~')]),
  ("lower", [('a', 'z')]),
  ("print", [(' ', '~')]),
  ("punct", [('!', '/'), (':', '@'), ('[', '\x60'), ('\x7b', '~')]),
  ("space", [('\t', '\r'), (' ', ' ')]),
  ("upper", [('A', 'Z')]),
  ("word", [('0', '9'), ('A', 'Z'), ('_', '_'), ('a', 'z')]),
  ("xdigit", [('0', '9'), ('A', 'F'), ('a', 'f')])]

/-- A named set, from its opening bracket on, if there is one. -/
def readName (c : Cursor) : Option (SetForm × Cursor) := do
  let name ← c.after? ['[', ':']
  let negated := name.rest.head? = some '^'
  let (letters, stop) := (if negated then name.next else name).takeWhile false (· ≠ ':')
  let stop ← stop.after? [':', ']']
  let ranges ← namedSets.lookup (String.ofList letters)
  return (.cls (stop.since c.place) (.ranges ranges negated), stop)

/-- A character or an escape. -/
def readMember (verbose : Bool) (c : Cursor) : Except Fault (Atom × Cursor) :=
  match c.rest with
  | '\\' :: _ => readEscape verbose c
  | [] => .error ⟨.setUnclosed, c.here, none⟩
  | x :: _ => return (.literal (plainLiteral c x), c.next)

/-- What can stand in a set on its own. -/
def Atom.member : Atom → Except Fault SetForm
  | .literal l => .ok (.literal l)
  | .cls s c => .ok (.cls s c)
  | a => .error ⟨.setEscape, a.span, none⟩

/-- What can stand at an end of a range. -/
def Atom.bound : Atom → Except Fault Literal
  | .literal l => .ok l
  | a => .error ⟨.setRangeBound, a.span, none⟩

/-- A character, a range, or a class that an escape stands for. -/
def readRange (verbose : Bool) (b : Bracket) (c : Cursor) : Except Fault (SetForm × Cursor) := do
  let (a, c) ← readMember verbose c
  let c := c.skip verbose
  let isRange := c.rest.head? = some '-' &&
    c.peek? verbose ≠ some ']' && c.peek? verbose ≠ some '-'
  if c.rest.isEmpty then .error b.unclosed
  else if !isRange then return (← a.member, c)
  else
    let c := c.advance verbose
    if c.rest.isEmpty then .error b.unclosed
    let (z, c) ← readMember verbose c
    let first ← a.bound
    let last ← z.bound
    if first.char ≤ last.char then return (.range first last, c)
    else .error ⟨.setRangeOrder, ⟨first.span.first, last.span.stop⟩, none⟩

/-- Reads up to the bracket that closes the outermost set; every round takes at least one
character. -/
def readBracket (verbose : Bool) :
    Nat → List Bracket → Bracket → Cursor → Except Fault (SetForm × Cursor)
  | 0, _, b, _ => .error b.unclosed
  | n + 1, outer, b, c =>
    let c := c.skip verbose
    match c.rest with
    | [] => .error b.unclosed
    | '[' :: _ =>
      match readName c with
      | some (s, c) => readBracket verbose n outer (b.add s) c
      | none => do
        let (inner, c) ← Bracket.start verbose c
        readBracket verbose n (b :: outer) inner c
    | ']' :: _ =>
      let c := c.next
      match outer with
      | [] => return (b.close c, c)
      | o :: outer => readBracket verbose n outer (o.add (b.close c)) c
    | '&' :: '&' :: _ => readBracket verbose n outer (b.operator .inter c.next.next) c.next.next
    | '-' :: '-' :: _ => readBracket verbose n outer (b.operator .minus c.next.next) c.next.next
    | '~' :: '~' :: _ => readBracket verbose n outer (b.operator .apart c.next.next) c.next.next
    | _ => do
      let (s, c) ← readRange verbose b c
      readBracket verbose n outer (b.add s) c

/-- Reads a set from its opening bracket on. -/
def readSet (verbose : Bool) (c : Cursor) : Except Fault (SetForm × Cursor) := do
  let (b, c) ← Bracket.start verbose c
  readBracket verbose (c.rest.length + 1) [] b c

end MethodAudit.Pattern
