import MethodAudit.Text.CharSet
import MethodAudit.Text.Hex

/-!
Sets of characters written as texts. An entry is a code point, a range `first-last`, or a run
`first-last/step` of code points at equal distances, all in hexadecimal digits; entries are in
ascending order, with blanks between them.
-/

namespace MethodAudit.Text

/-- The bounds so far and the numbers of the current entry, both newest first, and the number
being read. -/
structure TableReading where
  bounds : List Nat
  numbers : List Nat
  number : Option Nat

namespace TableReading

def start : TableReading := ⟨[], [], none⟩

/-- Ends the number being read. -/
def endNumber (r : TableReading) : TableReading :=
  match r.number with
  | none => r
  | some n => { r with numbers := n :: r.numbers, number := none }

/-- Ends the current entry. -/
def endEntry (r : TableReading) : TableReading :=
  let r := r.endNumber
  match r.numbers with
  | [n] => ⟨(n + 1) :: n :: r.bounds, [], none⟩
  | [last, first] => ⟨(last + 1) :: first :: r.bounds, [], none⟩
  | [step, last, first] =>
    let run := (List.range ((last - first) / step + 1)).map fun i => first + i * step
    ⟨run.foldl (fun bs n => (n + 1) :: n :: bs) r.bounds, [], none⟩
  | _ => { r with numbers := [] }

def step (r : TableReading) (c : Char) : TableReading :=
  match hexDigit? c with
  | some d => { r with number := some (16 * r.number.getD 0 + d) }
  | none => if c = '-' || c = '/' then r.endNumber else r.endEntry

end TableReading

/-- The set that a text describes. -/
def charsOf (text : String) : CharSet :=
  ⟨(text.toList.foldl TableReading.step .start).endEntry.bounds.reverse⟩

/-- Sets by their names. -/
abbrev Table := List (List String × String)

def Table.find? (t : Table) (name : String) : Option CharSet :=
  (List.find? (fun e => e.1.contains name) t).map fun e => charsOf e.2

/-- The union of some entries of a table. -/
def Table.union (t : Table) (names : List String) : CharSet :=
  names.foldl (fun s name => s.union ((t.find? name).getD .empty)) .empty

end MethodAudit.Text
