import MethodAudit.Json.Numeral
import MethodAudit.Json.Spelling

/-!
The tokens of a JSON text, by a scan over its characters.

The scan never fails: a token cut short, or a character that starts none, is a token as well,
and the last one. It counts lines and bytes, so that each token knows where it stands and each
fault where the reader does.
-/

namespace MethodAudit.Json

/-- What a token that the text breaks off was going to be. -/
inductive Fragment
  | string
  | null
  | other
  deriving DecidableEq, Repr

/-- A token that the text breaks off. A reader that needs its value reports `read`, one that
passes over it `skip`. -/
structure Cut where
  fragment : Fragment
  read : Fault
  skip : Fault
  deriving DecidableEq, Repr

inductive Lexeme
  | openList
  | closeList
  | openObject
  | closeObject
  | comma
  | colon
  | null
  | bool (b : Bool)
  | number (n : Numeral)
  | string (s : Literal)
  | cut (c : Cut)
  | stray
  | ending

structure Token where
  lexeme : Lexeme
  span : Span

/-- Where the scan stands. -/
inductive Mode
  | ready
  | word (next : Char) (rest : List Char) (lexeme : Lexeme)
  | number (stage : Stage) (n : Numeral)
  | text (s : Spelling)
  | escape (s : Spelling)
  | hex (s : Spelling) (got : List Char)
  | done

/-- `here` is the place reached, `start` that of the token being read; `tokens` has the newest
first. -/
structure Scan where
  mode : Mode
  here : Position
  start : Position
  tokens : List Token

namespace Scan

def init : Scan := ⟨.ready, .start, .start, []⟩

/-- Consumes a character. -/
def take (s : Scan) (c : Char) : Scan := { s with here := s.here.after c }

def emit (s : Scan) (l : Lexeme) : Scan :=
  { s with mode := .ready, tokens := ⟨l, ⟨s.start, s.here⟩⟩ :: s.tokens }

/-- Ends the scan with a token that breaks off. -/
def stop (s : Scan) (l : Lexeme) : Scan :=
  { s with mode := .done, tokens := ⟨l, ⟨s.start, s.here⟩⟩ :: s.tokens }

/-- The first character of a token, or a blank between two. -/
def start? (c : Char) : Option Mode :=
  match c with
  | 'n' => some (.word 'u' ['l', 'l'] .null)
  | 't' => some (.word 'r' ['u', 'e'] (.bool true))
  | 'f' => some (.word 'a' ['l', 's', 'e'] (.bool false))
  | '"' => some (.text .empty)
  | '-' => some (.number .sign ⟨true, [], none, none⟩)
  | '0' => some (.number .zero ⟨false, [0], none, none⟩)
  | _ => (digit? c).map fun d => .number .whole ⟨false, [d], none, none⟩

def begin (s : Scan) (c : Char) : Scan :=
  let s := { s.take c with start := s.here }
  match c with
  | ' ' | '\n' | '\t' | '\r' => { s with mode := .ready }
  | '[' => s.emit .openList
  | ']' => s.emit .closeList
  | '\x7b' => s.emit .openObject
  | '\x7d' => s.emit .closeObject
  | ',' => s.emit .comma
  | ':' => s.emit .colon
  | _ =>
    match start? c with
    | some mode => { s with mode := mode }
    | none => s.stop .stray

/-! ### Words and numbers -/

def cutWord (l : Lexeme) (p : Problem) (pos : Position) : Lexeme :=
  let fragment : Fragment := match l with
    | .null => .null
    | _ => .other
  .cut ⟨fragment, ⟨p, pos⟩, ⟨p, pos⟩⟩

def cutNumber (p : Problem) (pos : Position) : Lexeme := .cut ⟨.other, ⟨p, pos⟩, ⟨p, pos⟩⟩

def word (s : Scan) (next : Char) (rest : List Char) (l : Lexeme) (c : Char) : Scan :=
  if c = next then
    match rest with
    | [] => (s.take c).emit l
    | next :: rest => { s.take c with mode := .word next rest l }
  else s.stop (cutWord l .expectedWord (s.here.afterByte c))

def number (s : Scan) (stage : Stage) (n : Numeral) (c : Char) : Scan :=
  match stage.turn n c with
  | .more stage n => { s.take c with mode := .number stage n }
  | .over => (s.emit (.number n)).begin c
  | .wrong => s.stop (cutNumber .invalidNumber (s.here.afterByte c))

/-! ### Strings -/

def cutString (w : Spelling) (p : Problem) (read skip : Position) : Lexeme :=
  .cut ⟨.string, w.wrong.getD ⟨p, read⟩, ⟨p, skip⟩⟩

def text (s : Scan) (w : Spelling) (c : Char) : Scan :=
  if c = '\\' then { s.take c with mode := .escape w }
  else
    let w := w.unpaired (s.here.afterByte c)
    if c = '"' then (s.take c).emit (.string w.literal)
    else if c.toNat < 0x20 then
      s.stop (cutString w .controlCharacter (s.here.afterByte c) s.here)
    else { s.take c with mode := .text (w.push c) }

def escape (s : Scan) (w : Spelling) (c : Char) : Scan :=
  if c = 'u' then { s.take c with mode := .hex w [] }
  else
    let pos := s.here.afterByte c
    let w := w.unpaired pos
    match unescape? c with
    | some d => { s.take c with mode := .text (w.push d) }
    | none => s.stop (cutString w .invalidEscape pos pos)

/-- An escape takes the next four bytes of the text, whatever they are. -/
def hex (s : Scan) (w : Spelling) (got : List Char) (c : Char) : Scan :=
  let s := s.take c
  let got := got ++ [c]
  let size := got.foldr (fun c n => c.utf8Size + n) 0
  if size < 4 then { s with mode := .hex w got }
  else
    let pos := s.here.back (size - 4)
    match hexUnit? got with
    | some u => { s with mode := .text (w.unit u pos) }
    | none => s.stop (cutString w .invalidEscape pos pos)

/-! ### The whole text -/

def step (s : Scan) (c : Char) : Scan :=
  match s.mode with
  | .ready => s.begin c
  | .word next rest l => s.word next rest l c
  | .number stage n => s.number stage n c
  | .text w => s.text w c
  | .escape w => s.escape w c
  | .hex w got => s.hex w got c
  | .done => s

def run (s : Scan) (cs : List Char) : Scan := cs.foldl step s

def finish (s : Scan) : List Token :=
  let close (s : Scan) : List Token := (⟨.ending, ⟨s.here, s.here⟩⟩ :: s.tokens).reverse
  match s.mode with
  | .ready => close s
  | .number stage n =>
    if stage.isFinal then close (s.emit (.number n))
    else (s.stop (.cut ⟨.other, ⟨.endOfValue, s.here⟩, ⟨.invalidNumber, s.here⟩⟩)).tokens.reverse
  | .word _ _ l => (s.stop (cutWord l .endOfValue s.here)).tokens.reverse
  | .text w | .escape w | .hex w _ =>
    (s.stop (cutString w .endOfString s.here s.here)).tokens.reverse
  | .done => s.tokens.reverse

end Scan

/-- The tokens of a text. -/
def Token.scan (cs : List Char) : List Token := (Scan.init.run cs).finish

end MethodAudit.Json
