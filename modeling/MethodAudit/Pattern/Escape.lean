import MethodAudit.Pattern.Form
import MethodAudit.Text.Hex

/-!
What a backslash introduces in a pattern.
-/

namespace MethodAudit.Pattern

/-! ### Characters by their codes -/

def isHexDigit (c : Char) : Bool := (Text.hexDigit? c).isSome

/-- A number of hexadecimal digits. -/
def readHexDigits (verbose : Bool) : Nat → Cursor → Except Fault (List Char × Cursor)
  | 0, c => return ([], c)
  | n + 1, c =>
    match c.rest with
    | [] => .error ⟨.escapeCutOff, c.here, none⟩
    | d :: _ =>
      if isHexDigit d then do
        let (ds, c) ← readHexDigits verbose n (c.advance verbose)
        return (d :: ds, c)
      else .error ⟨.codeDigit, c.char, none⟩

/-- A code of any number of digits, from its opening brace on. -/
def readBracedCode (verbose : Bool) (first : Place) (c : Cursor) :
    Except Fault (Literal × Cursor) :=
  let (ds, close) := (c.advance verbose).takeWhile verbose isHexDigit
  match close.rest with
  | [] => .error ⟨.escapeCutOff, close.since c.place, none⟩
  | '\x7d' :: _ =>
    let stop := close.advance verbose
    match ds, Text.charOfHex? ds with
    | [], _ => .error ⟨.codeEmpty, stop.since c.place, none⟩
    | _, none => .error ⟨.codeOutOfRange, close.since c.next.place, none⟩
    | _, some x => return (⟨stop.since first, x, false⟩, stop)
  | _ => .error ⟨.codeDigit, close.char, none⟩

/-- A code after its letter: `count` digits, or any number between braces. One of two digits may
be that of a byte. -/
def readCode (verbose : Bool) (first : Place) (count : Nat) (c : Cursor) :
    Except Fault (Literal × Cursor) :=
  match c.rest with
  | [] => .error ⟨.escapeCutOff, c.here, none⟩
  | '\x7b' :: _ => readBracedCode verbose first c
  | _ => do
    let (ds, stop) ← readHexDigits verbose count c
    match Text.charOfHex? ds with
    | none => .error ⟨.codeOutOfRange, stop.since c.place, none⟩
    | some x => return (⟨stop.since first, x, count = 2⟩, stop)

/-! ### Properties -/

/-- A property after its letter, by one letter or between braces. -/
def readProperty (verbose : Bool) (first : Place) (negated : Bool) (c : Cursor) :
    Except Fault (Atom × Cursor) :=
  match c.rest with
  | [] => .error ⟨.escapeCutOff, c.here, none⟩
  | '\\' :: _ => .error ⟨.propertyForm, c.char, none⟩
  | '\x7b' :: _ =>
    let (query, close) := (c.advance verbose).takeWhile verbose (· ≠ '\x7d')
    match close.rest with
    | [] => .error ⟨.escapeCutOff, close.here, none⟩
    | _ => return (.cls (close.next.since first) (.property query negated), close.next)
  | x :: _ =>
    let stop := c.advance verbose
    return (.cls (stop.since first) (.property [x] negated), stop)

/-! ### Word boundaries -/

def edges : List (String × Edge) :=
  [("start", .start), ("end", .stop), ("start-half", .startHalf), ("end-half", .stopHalf)]

def isEdgeChar (c : Char) : Bool := c.isAlpha || c = '-'

/-- The kind of a word boundary, which may be named between braces. What does not start with a
letter there is no name. -/
def readEdge (verbose : Bool) (first : Place) (c : Cursor) : Except Fault (Edge × Cursor) :=
  match c.rest with
  | '\x7b' :: _ =>
    let start := c.advance verbose
    match start.rest with
    | [] => .error ⟨.edgeOrCountCutOff, start.since first, none⟩
    | x :: _ =>
      if !isEdgeChar x then return (.boundary, c)
      else
        let (name, close) := start.takeWhile verbose isEdgeChar
        match close.rest with
        | '\x7d' :: _ =>
          match edges.lookup (String.ofList name) with
          | some e => return (e, close.next)
          | none => .error ⟨.edgeUnknown, close.since start.place, none⟩
        | _ => .error ⟨.edgeUnclosed, close.since c.place, none⟩
  | _ => return (.boundary, c)

/-! ### Escapes -/

/-- Characters without a meaning of their own after a backslash. -/
def isPlain (c : Char) : Bool := c.toNat < 0x80 && !c.isAlphanum && c ≠ '<' && c ≠ '>'

/-- Control characters that have a letter. -/
def controls : List (Char × Char) :=
  [('a', '\x07'), ('f', '\x0c'), ('n', '\n'), ('r', '\r'), ('t', '\t'), ('v', '\x0b')]

/-- Anchors that have a letter. -/
def anchors : List (Char × Anchor) :=
  [('A', .textStart), ('z', .textEnd), ('B', .word .inside), ('<', .word .start),
    ('>', .word .stop)]

/-- Reads an escape, from its backslash on. -/
def readEscape (verbose : Bool) (c : Cursor) : Except Fault (Atom × Cursor) :=
  let first := c.place
  let c := c.next
  match c.rest with
  | [] => .error ⟨.escapeCutOff, c.since first, none⟩
  | x :: _ =>
    let stop := c.next
    let span := stop.since first
    let code (count : Nat) : Except Fault (Atom × Cursor) := do
      let (l, c) ← readCode verbose first count (c.advance verbose)
      return (.literal l, c)
    if x.isDigit then .error ⟨.backreference, span, none⟩
    else if isPlain x then return (.literal ⟨span, x, false⟩, stop)
    else match controls.lookup x, anchors.lookup x with
      | some control, _ => return (.literal ⟨span, control, false⟩, stop)
      | _, some a => return (.anchor span a, stop)
      | none, none =>
        match x with
        | 'x' => code 2
        | 'u' => code 4
        | 'U' => code 8
        | 'p' => readProperty verbose first false (c.advance verbose)
        | 'P' => readProperty verbose first true (c.advance verbose)
        | 'd' | 's' | 'w' => return (.cls span (.letter x false), stop)
        | 'D' | 'S' | 'W' => return (.cls span (.letter x.toLower true), stop)
        | 'b' => do
          let (e, c) ← readEdge verbose first stop
          return (.anchor (c.since first) (.word e), c)
        | _ => .error ⟨.escapeUnknown, span, none⟩

end MethodAudit.Pattern
