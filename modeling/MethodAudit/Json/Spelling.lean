import MethodAudit.Json.Fault
import MethodAudit.Text.Hex

/-!
String literals part way through, and the characters their escapes stand for.
-/

namespace MethodAudit.Json

/-- The text of a string literal, or the first of its surrogate escapes that stands for no
character. -/
abbrev Literal := Except Fault String

/-- The characters of a literal so far, newest first, the first surrogate escape that went
wrong, and a leading surrogate that waits for its partner. -/
structure Spelling where
  chars : List Char
  wrong : Option Fault
  lead : Option Nat

namespace Spelling

def empty : Spelling := ⟨[], none, none⟩

def push (w : Spelling) (c : Char) : Spelling := { w with chars := c :: w.chars }

/-- Records a surrogate that went wrong, unless one did before. -/
def blame (w : Spelling) (p : Problem) (pos : Position) : Spelling :=
  { w with wrong := w.wrong <|> some ⟨p, pos⟩, lead := none }

/-- Gives up a leading surrogate that no escape follows. -/
def unpaired (w : Spelling) (pos : Position) : Spelling :=
  match w.lead with
  | some _ => w.blame .brokenSurrogate pos
  | none => w

/-- Takes in a UTF-16 unit given by an escape that ends at `pos`. -/
def unit (w : Spelling) (u : Nat) (pos : Position) : Spelling :=
  match w.lead with
  | some lead =>
    if 0xDC00 ≤ u && u ≤ 0xDFFF then
      { w.push (Char.ofNat ((lead - 0xD800) * 0x400 + (u - 0xDC00) + 0x10000)) with lead := none }
    else w.blame .loneSurrogate pos
  | none =>
    if 0xDC00 ≤ u && u ≤ 0xDFFF then w.blame .loneSurrogate pos
    else if 0xD800 ≤ u && u ≤ 0xDBFF then { w with lead := some u }
    else w.push (Char.ofNat u)

def literal (w : Spelling) : Literal :=
  match w.wrong with
  | some f => .error f
  | none => .ok (String.ofList w.chars.reverse)

end Spelling

/-- The character an escape of one letter stands for. -/
def unescape? (c : Char) : Option Char :=
  match c with
  | '"' => some '"'
  | '\\' => some '\\'
  | '/' => some '/'
  | 'b' => some '\x08'
  | 'f' => some '\x0c'
  | 'n' => some '\n'
  | 'r' => some '\r'
  | 't' => some '\t'
  | _ => none

/-- The unit given by four hexadecimal digits. -/
def hexUnit? (cs : List Char) : Option Nat :=
  match cs.map Text.hexDigit? with
  | [some a, some b, some c, some d] => some (((a * 16 + b) * 16 + c) * 16 + d)
  | _ => none

end MethodAudit.Json
