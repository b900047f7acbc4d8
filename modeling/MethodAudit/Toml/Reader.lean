import MethodAudit.Toml.Quoted
import MethodAudit.Toml.Scalar

/-!
Reading a TOML text line by line.
-/

namespace MethodAudit.Toml

def isBlank (c : Char) : Bool := c = ' ' || c = '\t'

def skipBlanks (cs : List Char) : List Char := cs.dropWhile isBlank

def isBareKeyChar (c : Char) : Bool := c.isAlphanum || c = '_' || c = '-'

/-- One part of a key. -/
def readKeyPart : List Char → Option (String × List Char)
  | '"' :: rest => (readBasic rest).map fun (cs, rest) => (String.ofList cs, rest)
  | '\x27' :: rest => (readLiteral rest).map fun (cs, rest) => (String.ofList cs, rest)
  | cs =>
    let name := cs.takeWhile isBareKeyChar
    if name.isEmpty then none else some (String.ofList name, cs.dropWhile isBareKeyChar)

/-- How deep keys and values may nest. -/
def maxDepth : Nat := 79

/-- A key of at most `n` parts with dots between; `path` has those before, newest first. What
is read is the path and the last part. -/
def readKey : Nat → List String → List Char → Option ((List String × String) × List Char)
  | 0, _, _ => none
  | n + 1, path, cs => do
    let (part, rest) ← readKeyPart (skipBlanks cs)
    match skipBlanks rest with
    | '.' :: rest => readKey n (part :: path) rest
    | rest => return ((path.reverse, part), rest)

/-- A key, an equals sign and a value. -/
def readPair (value : List Char → Option (Toml × List Char)) (cs : List Char) :
    Option ((List String × String) × Toml × List Char) := do
  match ← readKey maxDepth [] cs with
  | (key, '=' :: rest) => do
    let (v, rest) ← value (skipBlanks rest)
    return (key, v, rest)
  | _ => none

/-- A comment up to the end of its line. -/
def skipComment : List Char → List Char
  | '#' :: rest => rest.dropWhile isTextChar
  | cs => cs

/-- Blanks, comments and line ends; every round takes at least one character. -/
def skipLines : Nat → List Char → List Char
  | 0, cs => cs
  | n + 1, cs =>
    match skipComment (skipBlanks cs) with
    | '\n' :: rest => skipLines n rest
    | '\r' :: '\n' :: rest => skipLines n rest
    | cs => cs

def skipAllLines (cs : List Char) : List Char := skipLines cs.length cs

/-- The items of a list after its opening bracket. -/
def readItems (value : List Char → Option (Toml × List Char)) :
    Nat → List Char → Option (List Toml × List Char)
  | 0, _ => none
  | n + 1, cs =>
    match skipAllLines cs with
    | ']' :: rest => some ([], rest)
    | cs => do
      let (v, rest) ← value cs
      match skipAllLines rest with
      | ',' :: rest => do
        let (vs, rest) ← readItems value n rest
        return (v :: vs, rest)
      | ']' :: rest => return ([v], rest)
      | _ => none

/-- The pairs of a table written as a value, after those in `es`. -/
def readPairs (value : List Char → Option (Toml × List Char)) :
    Nat → Entries → List Char → Option (Entries × List Char)
  | 0, _, _ => none
  | n + 1, es, cs => do
    let ((path, key), v, rest) ← readPair value cs
    let es ← define path key v .inline es
    match skipBlanks rest with
    | ',' :: rest => readPairs value n es rest
    | '\x7d' :: rest => return (es, rest)
    | _ => none

/-- A value with at most a number of brackets inside each other. -/
def readValue (depth : Nat) : List Char → Option (Toml × List Char) := fun cs =>
  match depth, cs with
  | 0, '[' :: _ | 0, '\x7b' :: _ => none
  | depth + 1, '[' :: rest => do
    let (vs, rest) ← readItems (readValue depth) (rest.length + 1) rest
    return (.list vs, rest)
  | depth + 1, '\x7b' :: rest =>
    match skipBlanks rest with
    | '\x7d' :: rest => some (.table .inline [], rest)
    | rest => do
      let (es, rest) ← readPairs (readValue depth) (rest.length + 1) [] rest
      return (.table .inline es, rest)
  | _, '"' :: rest => (readString ('"' :: rest)).map fun (s, rest) => (.text s, rest)
  | _, '\x27' :: rest => (readString ('\x27' :: rest)).map fun (s, rest) => (.text s, rest)
  | _, cs => readScalar cs

/-- The rest of a line may hold a comment and nothing else. -/
def endLine (cs : List Char) : Option (List Char) :=
  match skipComment (skipBlanks cs) with
  | [] => some []
  | '\n' :: rest => some rest
  | '\r' :: '\n' :: rest => some rest
  | _ => none

/-- The tables so far and the header they stand under. -/
structure Document where
  entries : Entries
  header : List String

/-- Reads one line that is not empty. -/
def readLine (d : Document) : List Char → Option (Document × List Char)
  | '[' :: '[' :: rest => do
    match ← readKey maxDepth [] rest with
    | ((path, key), ']' :: ']' :: rest) => do
      let entries ← openRow path key d.entries
      return (⟨entries, path ++ [key]⟩, ← endLine rest)
    | _ => none
  | '[' :: rest => do
    match ← readKey maxDepth [] rest with
    | ((path, key), ']' :: rest) => do
      let entries ← openTable path key d.entries
      return (⟨entries, path ++ [key]⟩, ← endLine rest)
    | _ => none
  | cs => do
    let ((path, key), v, rest) ← readPair (readValue maxDepth) cs
    let entries ← defineBelow d.header path key v d.entries
    return ({ d with entries }, ← endLine rest)

/-- Reads all lines; every round takes at least one character. -/
def readLines : Nat → Document → List Char → Option Document
  | 0, _, _ => none
  | n + 1, d, cs =>
    match skipAllLines cs with
    | [] => some d
    | cs => do
      let (d, rest) ← readLine d cs
      readLines n d rest

/-- The entries of a text; a byte order mark at the front does not count. -/
def parse? (text : String) : Option Entries :=
  let cs := match text.toList with
    | '\ufeff' :: rest => rest
    | cs => cs
  (readLines (cs.length + 1) ⟨[], []⟩ cs).map (·.entries)

end MethodAudit.Toml
