import MethodAudit.Json.Token

/-!
The tree of a JSON text, built from its tokens with a stack of open brackets.

A text that goes wrong has a tree too: it ends in the token at which it goes wrong, and every
bracket open there stays open. Reading such a tree from the left meets its problems in the
order of the text.
-/

namespace MethodAudit.Json

/-- Where a reader stands that gives up an object before the token `t`: it still takes the closing
bracket. -/
def Token.leave (t : Token) : Position :=
  match t.lexeme with
  | .closeObject => t.span.stop
  | _ => t.span.start

/-- Where the elements of a bracket break off: at a token after the opening bracket, after an
element, or after a comma, whose place is kept. -/
inductive Breach
  | first (t : Token)
  | next (t : Token)
  | comma (span : Span) (t : Token)

/-- How the elements of a bracket end: by the closing bracket, or broken off. -/
inductive Stop
  | closed (span : Span)
  | broken (b : Breach)

/-- A key: its text and place, the place of the bracket or comma before it, and where a reader
stands that gives up its object right behind it. -/
structure Key where
  text : Literal
  span : Span
  before : Span
  leave : Position

mutual

/-- `noColon` stands for the value of a key that no colon follows. -/
inductive Node
  | leaf (t : Token)
  | noColon (t : Token)
  | list (span : Span) (items : Items)
  | object (span : Span) (members : Members)

inductive Items
  | stop (s : Stop)
  | cons (n : Node) (rest : Items)

inductive Members
  | stop (s : Stop)
  | cons (k : Key) (v : Node) (rest : Members)

end

/-- The place of the first token of a value. -/
def Node.span : Node → Span
  | .leaf t | .noColon t => t.span
  | .list span _ | .object span _ => span

/-- The value of a text, and the place of what follows it, if anything does. -/
structure Document where
  root : Node
  trailing : Option Span

/-! ### Building -/

/-- Items given with the newest first. -/
def Items.build (s : Stop) (ns : List Node) : Items :=
  ns.foldl (fun rest n => .cons n rest) (.stop s)

def Members.build (s : Stop) (ms : List (Key × Node)) : Members :=
  ms.foldl (fun rest (k, v) => .cons k v rest) (.stop s)

/-- An open bracket with the elements before the one being read, newest first. -/
inductive Frame
  | list (span : Span) (items : List Node)
  | object (span : Span) (members : List (Key × Node)) (key : Key)

/-- What the next token has to be. -/
inductive Expect
  | value (fs : List Frame)
  | firstItem (span : Span) (fs : List Frame)
  | nextItem (span : Span) (items : List Node) (fs : List Frame)
  | item (span : Span) (items : List Node) (comma : Span) (fs : List Frame)
  | firstKey (span : Span) (fs : List Frame)
  | nextKey (span : Span) (members : List (Key × Node)) (fs : List Frame)
  | key (span : Span) (members : List (Key × Node)) (comma : Span) (fs : List Frame)
  | colon (span : Span) (members : List (Key × Node)) (key : Key) (fs : List Frame)
  | ending (root : Node)
  | nothing (d : Document)

namespace Expect

/-- Puts a finished value in its place. -/
def plug (n : Node) : List Frame → Expect
  | [] => .ending n
  | .list span items :: fs => .nextItem span (n :: items) fs
  | .object span members k :: fs => .nextKey span ((k, n) :: members) fs

/-- The tree of a text that ends in the value `n` at the token `t`. -/
def unwind (t : Token) (n : Node) : List Frame → Node
  | [] => n
  | .list span items :: fs =>
    unwind t (.list span (.build (.broken (.next t)) (n :: items))) fs
  | .object span members k :: fs =>
    unwind t (.object span (.build (.broken (.next t)) ((k, n) :: members))) fs

/-- Gives up at the token `t`, inside or in place of the value `n`. -/
def fail (t : Token) (n : Node) (fs : List Frame) : Expect :=
  .nothing ⟨unwind t n fs, none⟩

def failItem (span : Span) (items : List Node) (t : Token) (b : Breach) (fs : List Frame) :
    Expect :=
  fail t (.list span (.build (.broken b) items)) fs

def failKey (span : Span) (members : List (Key × Node)) (t : Token) (b : Breach)
    (fs : List Frame) : Expect :=
  fail t (.object span (.build (.broken b) members)) fs

/-- A value starts with the token `t`. -/
def begin (t : Token) (fs : List Frame) : Expect :=
  match t.lexeme with
  | .openList => .firstItem t.span fs
  | .openObject => .firstKey t.span fs
  | .null | .bool _ | .number _ | .string _ => plug (.leaf t) fs
  | _ => fail t (.leaf t) fs

def step : Expect → Token → Expect
  | .value fs, t => begin t fs
  | .firstItem span fs, t =>
    match t.lexeme with
    | .closeList => plug (.list span (.stop (.closed t.span))) fs
    | .ending => failItem span [] t (.first t) fs
    | _ => begin t (.list span [] :: fs)
  | .nextItem span items fs, t =>
    match t.lexeme with
    | .closeList => plug (.list span (.build (.closed t.span) items)) fs
    | .comma => .item span items t.span fs
    | _ => failItem span items t (.next t) fs
  | .item span items comma fs, t =>
    match t.lexeme with
    | .closeList | .ending => failItem span items t (.comma comma t) fs
    | _ => begin t (.list span items :: fs)
  | .firstKey span fs, t =>
    match t.lexeme with
    | .closeObject => plug (.object span (.stop (.closed t.span))) fs
    | .string text => .colon span [] ⟨text, t.span, span, t.span.stop⟩ fs
    | _ => failKey span [] t (.first t) fs
  | .nextKey span members fs, t =>
    match t.lexeme with
    | .closeObject => plug (.object span (.build (.closed t.span) members)) fs
    | .comma => .key span members t.span fs
    | _ => failKey span members t (.next t) fs
  | .key span members comma fs, t =>
    match t.lexeme with
    | .string text => .colon span members ⟨text, t.span, comma, t.span.stop⟩ fs
    | _ => failKey span members t (.comma comma t) fs
  | .colon span members k fs, t =>
    let frame := Frame.object span members { k with leave := t.leave }
    match t.lexeme with
    | .colon => .value (frame :: fs)
    | _ => fail t (.noColon t) (frame :: fs)
  | .ending root, t =>
    match t.lexeme with
    | .ending => .nothing ⟨root, none⟩
    | _ => .nothing ⟨root, some t.span⟩
  | .nothing d, _ => .nothing d

def run (e : Expect) (ts : List Token) : Expect := ts.foldl step e

end Expect

/-- The tree of the tokens. The last token of a text always completes it. -/
def Document.ofTokens (ts : List Token) : Document :=
  match (Expect.value []).run ts with
  | .nothing d => d
  | _ => ⟨.leaf ⟨.ending, ⟨.start, .start⟩⟩, none⟩

def Document.read (text : String) : Document := .ofTokens (Token.scan text.toList)

end MethodAudit.Json
