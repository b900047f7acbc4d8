import MethodAudit.Pattern.Cursor

/-!
What can be wrong with a pattern, and the message about it, which shows the pattern with marks
below what is wrong.
-/

namespace MethodAudit.Pattern

inductive Flaw
  | setEscape
  | setRangeOrder
  | setRangeBound
  | setUnclosed
  | countTooLarge
  | countMissing
  | countOrder
  | countUnclosed
  | codeEmpty
  | codeOutOfRange
  | codeDigit
  | escapeCutOff
  | escapeUnknown
  | backreference
  | flagDangling
  | flagTwice
  | flagNegatedTwice
  | flagCutOff
  | flagUnknown
  | nameTwice
  | nameEmpty
  | nameCharacter
  | nameCutOff
  | groupUnclosed
  | groupUnopened
  | tooDeep
  | nothingToRepeat
  | edgeUnclosed
  | edgeUnknown
  | edgeOrCountCutOff
  | propertyForm
  | lookAround
  | unicodeForbidden
  | invalidText
  | propertyUnknown
  | propertyValueUnknown
  deriving DecidableEq, Repr

def Flaw.message : Flaw → String
  | .setEscape => "invalid escape sequence found in character class"
  | .setRangeOrder => "invalid character class range, the start must be <= the end"
  | .setRangeBound => "invalid range boundary, must be a literal"
  | .setUnclosed => "unclosed character class"
  | .countTooLarge => "decimal literal invalid"
  | .countMissing => "repetition quantifier expects a valid decimal"
  | .countOrder => "invalid repetition count range, the start must be <= the end"
  | .countUnclosed => "unclosed counted repetition"
  | .codeEmpty => "hexadecimal literal empty"
  | .codeOutOfRange => "hexadecimal literal is not a Unicode scalar value"
  | .codeDigit => "invalid hexadecimal digit"
  | .escapeCutOff => "incomplete escape sequence, reached end of pattern prematurely"
  | .escapeUnknown => "unrecognized escape sequence"
  | .backreference => "backreferences are not supported"
  | .flagDangling => "dangling flag negation operator"
  | .flagTwice => "duplicate flag"
  | .flagNegatedTwice => "flag negation operator repeated"
  | .flagCutOff => "expected flag but got end of regex"
  | .flagUnknown => "unrecognized flag"
  | .nameTwice => "duplicate capture group name"
  | .nameEmpty => "empty capture group name"
  | .nameCharacter => "invalid capture group character"
  | .nameCutOff => "unclosed capture group name"
  | .groupUnclosed => "unclosed group"
  | .groupUnopened => "unopened group"
  | .tooDeep => "exceed the maximum number of nested parentheses/brackets (250)"
  | .nothingToRepeat => "repetition operator missing expression"
  | .edgeUnclosed =>
    "special word boundary assertion is either unclosed or contains an invalid character"
  | .edgeUnknown =>
    "unrecognized special word boundary assertion, valid choices are: start, end, start-half " ++
      "or end-half"
  | .edgeOrCountCutOff =>
    "found either the beginning of a special word boundary or a bounded repetition on a \\b " ++
      "with an opening brace, but no closing brace"
  | .propertyForm => "invalid Unicode character class"
  | .lookAround => "look-around, including look-ahead and look-behind, is not supported"
  | .unicodeForbidden => "Unicode not allowed here"
  | .invalidText => "pattern can match invalid UTF-8"
  | .propertyUnknown => "Unicode property not found"
  | .propertyValueUnknown => "Unicode property value not found"

/-- What is wrong and where. A flag or a name given twice also has the place of its first
occurrence. -/
structure Fault where
  flaw : Flaw
  span : Span
  earlier : Option Span := none
  deriving DecidableEq, Repr

/-! ### Messages -/

/-- The lines of a text, without the characters that end them. -/
def linesOf (text : String) : List String :=
  match (text.splitOn "\n").reverse with
  | [] => []
  | last :: ended =>
    let ended := ended.map fun l =>
      String.ofList (match l.toList.reverse with
        | '\r' :: rest => rest.reverse
        | _ => l.toList)
    ended.reverse ++ if last.isEmpty then [] else [last]

namespace Fault

/-- All spans, in the order of their places. -/
def spans (f : Fault) : List Span :=
  match f.earlier with
  | none => [f.span]
  | some s => if s.first.le f.span.first then [s, f.span] else [f.span, s]

/-- Marks below some spans of one line. -/
def marks (spans : List Span) : List Char :=
  spans.foldl (fun out s =>
    let blanks := List.replicate (s.first.column - 1 - out.length) ' '
    out ++ blanks ++ List.replicate (max 1 (s.stop.column - s.first.column)) '^') []

/-- The text of a number, aligned to the right. -/
def padded (width n : Nat) : String :=
  let digits := Nat.toDigits 10 n
  String.ofList (List.replicate (width - digits.length) ' ' ++ digits)

/-- The lines of a pattern with marks below them. They are numbered if there are several. -/
def shown (pattern : String) (f : Fault) : List String :=
  let lines := linesOf pattern
  let count := lines.length + if pattern.endsWith "\n" then 1 else 0
  let width := if count ≤ 1 then 0 else (Nat.toDigits 10 count).length
  let margin := if width = 0 then 4 else width + 2
  (lines.zipIdx 1).flatMap fun (line, n) =>
    let label := if width = 0 then "    " else padded width n ++ ": "
    let here := f.spans.filter fun s => s.isOneLine && s.first.line = n
    (label ++ line) ::
      if here.isEmpty then []
      else [String.ofList (List.replicate margin ' ' ++ marks here)]

/-- Where a span of several lines starts and ends. -/
def extent (s : Span) : String :=
  "on line " ++ toString s.first.line ++ " (column " ++ toString s.first.column ++
    ") through line " ++ toString s.stop.line ++ " (column " ++ toString (s.stop.column - 1) ++ ")"

/-- The message about a fault of a pattern. -/
def message (pattern : String) (f : Fault) : String :=
  let divider := String.ofList (List.replicate 79 '~')
  let body :=
    if pattern.contains '\n' then
      let extents := (f.spans.filter fun s => !s.isOneLine).map extent
      [divider] ++ f.shown pattern ++ [divider] ++ extents
    else f.shown pattern
  "\n".intercalate (["regex parse error:"] ++ body ++ ["error: " ++ f.flaw.message])

end Fault

end MethodAudit.Pattern
