import MethodAudit.Text.Hex

/-!
Strings of a TOML text. They are read after their opening quotes.
-/

namespace MethodAudit.Toml

/-- What may stand in a comment or a string without an escape. -/
def isTextChar (c : Char) : Bool := c = '\t' || (0x20 ≤ c.toNat && c.toNat ≠ 0x7f)

/-- The escapes of one letter. -/
def escaped? : Char → Option Char
  | 'b' => some '\x08'
  | 't' => some '\t'
  | 'n' => some '\n'
  | 'f' => some '\x0c'
  | 'r' => some '\r'
  | '"' => some '"'
  | '\\' => some '\\'
  | _ => none

/-- Puts a character in front of what is read. -/
def push (c : Char) : Option (List Char × List Char) → Option (List Char × List Char)
  | some (cs, rest) => some (c :: cs, rest)
  | none => none

/-- A string between double quotes. -/
def readBasic : List Char → Option (List Char × List Char)
  | [] => none
  | '"' :: rest => some ([], rest)
  | '\\' :: 'u' :: a :: b :: c :: d :: rest =>
    match Text.charOfHex? [a, b, c, d] with
    | some x => push x (readBasic rest)
    | none => none
  | '\\' :: 'U' :: a :: b :: c :: d :: e :: f :: g :: h :: rest =>
    match Text.charOfHex? [a, b, c, d, e, f, g, h] with
    | some x => push x (readBasic rest)
    | none => none
  | '\\' :: c :: rest =>
    match escaped? c with
    | some x => push x (readBasic rest)
    | none => none
  | c :: rest => if isTextChar c && c ≠ '\\' then push c (readBasic rest) else none

/-- A string between single quotes, without escapes. -/
def readLiteral : List Char → Option (List Char × List Char)
  | [] => none
  | '\x27' :: rest => some ([], rest)
  | c :: rest => if isTextChar c then push c (readLiteral rest) else none

/-- What a backslash at the end of a line leaves out: the blanks up to the line's end, then all
blanks and line ends. -/
inductive Gap
  | none
  | line
  | blank

/-- A string of several lines between three double quotes; it may end in one or two more. -/
def readBasicLines : Gap → List Char → Option (List Char × List Char)
  | _, [] => none
  | .line, ' ' :: rest | .line, '\t' :: rest => readBasicLines .line rest
  | .line, '\n' :: rest | .line, '\r' :: '\n' :: rest => readBasicLines .blank rest
  | .line, _ :: _ => none
  | .blank, ' ' :: rest | .blank, '\t' :: rest => readBasicLines .blank rest
  | .blank, '\n' :: rest | .blank, '\r' :: '\n' :: rest => readBasicLines .blank rest
  | _, '"' :: '"' :: '"' :: '"' :: '"' :: rest => some (['"', '"'], rest)
  | _, '"' :: '"' :: '"' :: '"' :: rest => some (['"'], rest)
  | _, '"' :: '"' :: '"' :: rest => some ([], rest)
  | _, '\r' :: '\n' :: rest => push '\n' (readBasicLines .none rest)
  | _, '\n' :: rest => push '\n' (readBasicLines .none rest)
  | _, '\\' :: 'u' :: a :: b :: c :: d :: rest =>
    match Text.charOfHex? [a, b, c, d] with
    | some x => push x (readBasicLines .none rest)
    | none => none
  | _, '\\' :: 'U' :: a :: b :: c :: d :: e :: f :: g :: h :: rest =>
    match Text.charOfHex? [a, b, c, d, e, f, g, h] with
    | some x => push x (readBasicLines .none rest)
    | none => none
  | _, '\\' :: ' ' :: rest | _, '\\' :: '\t' :: rest => readBasicLines .line rest
  | _, '\\' :: '\n' :: rest | _, '\\' :: '\r' :: '\n' :: rest => readBasicLines .blank rest
  | _, '\\' :: c :: rest =>
    match escaped? c with
    | some x => push x (readBasicLines .none rest)
    | none => none
  | _, c :: rest =>
    if isTextChar c && c ≠ '\\' then push c (readBasicLines .none rest) else none

/-- A string of several lines between three single quotes. -/
def readLiteralLines : List Char → Option (List Char × List Char)
  | [] => none
  | '\x27' :: '\x27' :: '\x27' :: '\x27' :: '\x27' :: rest => some (['\x27', '\x27'], rest)
  | '\x27' :: '\x27' :: '\x27' :: '\x27' :: rest => some (['\x27'], rest)
  | '\x27' :: '\x27' :: '\x27' :: rest => some ([], rest)
  | '\r' :: '\n' :: rest => push '\n' (readLiteralLines rest)
  | '\n' :: rest => push '\n' (readLiteralLines rest)
  | c :: rest => if isTextChar c then push c (readLiteralLines rest) else none

/-- A line end right after the opening quotes does not count. -/
def skipLineEnd : List Char → List Char
  | '\n' :: rest => rest
  | '\r' :: '\n' :: rest => rest
  | cs => cs

/-- Reads a string of any of the four forms, if one starts here. -/
def readString : List Char → Option (String × List Char)
  | '"' :: '"' :: '"' :: rest => text (readBasicLines .none (skipLineEnd rest))
  | '"' :: rest => text (readBasic rest)
  | '\x27' :: '\x27' :: '\x27' :: rest => text (readLiteralLines (skipLineEnd rest))
  | '\x27' :: rest => text (readLiteral rest)
  | _ => none
where
  text (r : Option (List Char × List Char)) : Option (String × List Char) :=
    r.map fun (cs, rest) => (String.ofList cs, rest)

end MethodAudit.Toml
