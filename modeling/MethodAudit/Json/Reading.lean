import MethodAudit.Json.Node
import MethodAudit.Json.Number
import MethodAudit.Json.Value

/-!
Reading a tree: the fault at a token or bracket that does not fit, passing over a value, and
taking in a whole value.
-/

namespace MethodAudit.Json

/-- The fault of a value that starts with this lexeme where `wanted` was to stand. -/
def Lexeme.mismatch (l : Lexeme) (span : Span) (wanted : String) : Fault :=
  let wrong (found : Found) : Fault := ⟨.wrongType found wanted, span.stop⟩
  match l with
  | .null => wrong .null
  | .bool b => wrong (.bool b)
  | .number n =>
    match n.value with
    | some v => wrong v.found
    | none => n.rangeFault span
  | .string (.ok s) => wrong (.string s)
  | .string (.error f) => f
  | .openList => ⟨.wrongType .sequence wanted, span.start⟩
  | .openObject => ⟨.wrongType .map wanted, span.start⟩
  | .cut c => c.read
  | .ending => ⟨.endOfValue, span.peek⟩
  | _ => ⟨.expectedValue, span.peek⟩

def Token.mismatch (t : Token) (wanted : String) : Fault := t.lexeme.mismatch t.span wanted

/-- A key without its colon. -/
def Token.colonFault (t : Token) : Fault :=
  match t.lexeme with
  | .ending => ⟨.endOfObject, t.span.peek⟩
  | _ => ⟨.expectedColon, t.span.peek⟩

def Node.mismatch (n : Node) (wanted : String) : Fault :=
  match n with
  | .leaf t => t.mismatch wanted
  | .noColon t => t.colonFault
  | .list span _ => Lexeme.openList.mismatch span wanted
  | .object span _ => Lexeme.openObject.mismatch span wanted

/-- The fault of a list that breaks off, for a reader that needs its items. -/
def Breach.inList : Breach → Fault
  | .first t | .next t =>
    match t.lexeme with
    | .ending => ⟨.endOfList, t.span.peek⟩
    | _ => ⟨.expectedListComma, t.span.peek⟩
  | .comma _ t =>
    match t.lexeme with
    | .ending => ⟨.endOfValue, t.span.peek⟩
    | _ => ⟨.trailingComma, t.span.peek⟩

/-- The same, for a reader that passes over the list. -/
def Breach.inSkippedList : Breach → Fault
  | .comma _ t =>
    match t.lexeme with
    | .ending => ⟨.endOfValue, t.span.peek⟩
    | _ => ⟨.expectedValue, t.span.peek⟩
  | b => b.inList

/-- Something else in place of a key. -/
def Token.keyFault (t : Token) (read : Cut → Fault) : Fault :=
  match t.lexeme with
  | .cut c => if c.fragment = .string then read c else ⟨.keyNotString, t.span.peek⟩
  | _ => ⟨.keyNotString, t.span.peek⟩

/-- The fault of an object that breaks off, for a reader that needs its members. -/
def Breach.inObject : Breach → Fault
  | .first t =>
    match t.lexeme with
    | .ending => ⟨.endOfObject, t.span.peek⟩
    | _ => t.keyFault Cut.read
  | .next t =>
    match t.lexeme with
    | .ending => ⟨.endOfObject, t.span.peek⟩
    | _ => ⟨.expectedObjectComma, t.span.peek⟩
  | .comma _ t =>
    match t.lexeme with
    | .ending => ⟨.endOfValue, t.span.peek⟩
    | .closeObject => ⟨.trailingComma, t.span.peek⟩
    | _ => t.keyFault Cut.read

/-- The same, for a reader that passes over the object. -/
def Breach.inSkippedObject : Breach → Fault
  | .next t => (Breach.next t).inObject
  | .first t | .comma _ t =>
    match t.lexeme with
    | .ending => ⟨.endOfObject, t.span.peek⟩
    | _ => t.keyFault Cut.skip

/-! ### Passing over a value -/

def Token.skip (t : Token) : Except Fault Unit :=
  match t.lexeme with
  | .null | .bool _ | .number _ | .string _ => .ok ()
  | .cut c => .error c.skip
  | _ => .error (t.mismatch "")

mutual

/-- Checks the form of a value only: numbers may be out of range, surrogates unpaired. -/
def Node.skip : Node → Except Fault Unit
  | .leaf t => t.skip
  | .noColon t => .error t.colonFault
  | .list _ items => items.skip
  | .object _ members => members.skip

def Items.skip : Items → Except Fault Unit
  | .stop (.closed _) => .ok ()
  | .stop (.broken b) => .error b.inSkippedList
  | .cons n rest => do
    n.skip
    rest.skip

def Members.skip : Members → Except Fault Unit
  | .stop (.closed _) => .ok ()
  | .stop (.broken b) => .error b.inSkippedObject
  | .cons _ v rest => do
    v.skip
    rest.skip

end

/-! ### Taking in a value -/

/-- Levels of nesting that are still allowed; `none` allows any number. -/
abbrev Room := Option Nat

/-- The room of a reader that limits nesting. -/
def Room.limited : Room := some 128

/-- Enters a bracket. -/
def Room.enter (r : Room) (span : Span) : Except Fault Room :=
  match r with
  | none => .ok none
  | some n => if n ≤ 1 then .error ⟨.tooDeep, span.peek⟩ else .ok (some (n - 1))

mutual

/-- The value of a tree, numbers in range and surrogates paired. -/
def Node.value (room : Room) : Node → Except Fault Json
  | .leaf t =>
    match t.lexeme with
    | .null => .ok .null
    | .bool b => .ok (.bool b)
    | .number n => if n.value.isSome then .ok (.number n) else .error (n.rangeFault t.span)
    | .string s => .string <$> s
    | _ => .error (t.mismatch "")
  | .noColon t => .error t.colonFault
  | .list span items => do return .list (← items.values (← room.enter span))
  | .object span members => do return .object (← members.values (← room.enter span))

def Items.values (room : Room) : Items → Except Fault (List Json)
  | .stop (.closed _) => .ok []
  | .stop (.broken b) => .error b.inList
  | .cons n rest => do
    let v ← n.value room
    return v :: (← rest.values room)

def Members.values (room : Room) : Members → Except Fault (List (String × Json))
  | .stop (.closed _) => .ok []
  | .stop (.broken b) => .error b.inObject
  | .cons k v rest => do
    let name ← k.text
    let v ← v.value room
    return (name, v) :: (← rest.values room)

end

end MethodAudit.Json
