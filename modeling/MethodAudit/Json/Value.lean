import MethodAudit.Json.Numeral

/-!
JSON values and their text, on one line or indented.
-/

namespace MethodAudit

inductive Json
  | null
  | bool (b : Bool)
  | number (n : Json.Numeral)
  | string (s : String)
  | list (items : List Json)
  | object (members : List (String × Json))
  deriving Repr

namespace Json

def nat (n : Nat) : Json := .number (.ofNat n)

/-- The value of an optional, `null` if there is none. -/
def optional (f : α → Json) : Option α → Json
  | none => .null
  | some a => f a

def hexDigit (n : Nat) : Char := Nat.digitChar n

def escapeChar (c : Char) : List Char :=
  match c with
  | '"' => ['\\', '"']
  | '\\' => ['\\', '\\']
  | '\x08' => ['\\', 'b']
  | '\x0c' => ['\\', 'f']
  | '\n' => ['\\', 'n']
  | '\r' => ['\\', 'r']
  | '\t' => ['\\', 't']
  | _ =>
    if c.toNat < 0x20 then
      ['\\', 'u', '0', '0', hexDigit (c.toNat / 16), hexDigit (c.toNat % 16)]
    else [c]

def stringChars (s : String) : List Char :=
  '"' :: s.toList.flatMap escapeChar ++ ['"']

mutual

/-- The text of a value on one line. -/
def chars : Json → List Char
  | .null => ['n', 'u', 'l', 'l']
  | .bool true => ['t', 'r', 'u', 'e']
  | .bool false => ['f', 'a', 'l', 's', 'e']
  | .number n => n.chars
  | .string s => stringChars s
  | .list [] => ['[', ']']
  | .list (v :: vs) => '[' :: chars v ++ itemChars vs ++ [']']
  | .object [] => ['\x7b', '\x7d']
  | .object ((k, v) :: ms) =>
    '\x7b' :: stringChars k ++ ':' :: chars v ++ memberChars ms ++ ['\x7d']

def itemChars : List Json → List Char
  | [] => []
  | v :: vs => ',' :: chars v ++ itemChars vs

def memberChars : List (String × Json) → List Char
  | [] => []
  | (k, v) :: ms => ',' :: stringChars k ++ ':' :: chars v ++ memberChars ms

end

def compact (v : Json) : String := String.ofList v.chars

/-- A line break and the indentation of a level. -/
def breakLine (level : Nat) : List Char := '\n' :: List.replicate (2 * level) ' '

mutual

/-- The text of a value with each element on a line of its own. -/
def indented (level : Nat) : Json → List Char
  | .null => ['n', 'u', 'l', 'l']
  | .bool true => ['t', 'r', 'u', 'e']
  | .bool false => ['f', 'a', 'l', 's', 'e']
  | .number n => n.chars
  | .string s => stringChars s
  | .list [] => ['[', ']']
  | .list (v :: vs) =>
    '[' :: breakLine (level + 1) ++ indented (level + 1) v ++ indentedItems level vs ++
      breakLine level ++ [']']
  | .object [] => ['\x7b', '\x7d']
  | .object ((k, v) :: ms) =>
    '\x7b' :: breakLine (level + 1) ++ stringChars k ++ ':' :: ' ' :: indented (level + 1) v ++
      indentedMembers level ms ++ breakLine level ++ ['\x7d']

def indentedItems (level : Nat) : List Json → List Char
  | [] => []
  | v :: vs => ',' :: breakLine (level + 1) ++ indented (level + 1) v ++ indentedItems level vs

def indentedMembers (level : Nat) : List (String × Json) → List Char
  | [] => []
  | (k, v) :: ms =>
    ',' :: breakLine (level + 1) ++ stringChars k ++ ':' :: ' ' :: indented (level + 1) v ++
      indentedMembers level ms

end

def pretty (v : Json) : String := String.ofList (v.indented 0)

/-- How many bytes the indented text has. -/
def prettySize (v : Json) : Nat := (v.indented 0).foldr (fun c n => c.utf8Size + n) 0

theorem utf8ByteSize_pretty (v : Json) : v.pretty.utf8ByteSize = v.prettySize := by
  rw [pretty, prettySize]
  induction v.indented 0 with
  | nil => rfl
  | cons c cs ih =>
    rw [List.foldr_cons, ← ih, String.ofList_cons]
    simp

mutual

/-- The value with the members of every object in the order of their keys. -/
def sortKeys : Json → Json
  | .list vs => .list (sortItems vs)
  | .object ms => .object ((sortMembers ms).mergeSort fun a b => a.1 ≤ b.1)
  | v => v

def sortItems : List Json → List Json
  | [] => []
  | v :: vs => sortKeys v :: sortItems vs

def sortMembers : List (String × Json) → List (String × Json)
  | [] => []
  | (k, v) :: ms => (k, sortKeys v) :: sortMembers ms

end

end Json

end MethodAudit
