import MethodAudit.Pattern.Form
import MethodAudit.Pattern.Tree
import MethodAudit.Text.Property

/-!
What forms stand for. Flags hold up to the end of the group in which they are set.
-/

namespace MethodAudit.Pattern

/-- `reluctant` swaps which repetitions take as little as they can; `carriage` lets lines end at
`\r`; without `unicode` all sets are of ASCII characters. -/
structure Flags where
  anyCase : Bool := false
  multiLine : Bool := false
  dotAll : Bool := false
  reluctant : Bool := false
  carriage : Bool := false
  unicode : Bool := true

namespace Flags

/-- Switches one flag on or off. -/
def set (f : Flags) : Char × Bool → Flags
  | ('i', on) => { f with anyCase := on }
  | ('m', on) => { f with multiLine := on }
  | ('s', on) => { f with dotAll := on }
  | ('U', on) => { f with reluctant := on }
  | ('R', on) => { f with carriage := on }
  | ('u', on) => { f with unicode := on }
  | _ => f

def apply (f : Flags) (change : FlagChange) : Flags := change.foldl set f

/-- Sets that differ in case only are one. -/
def fold (f : Flags) (s : CharSet) : CharSet :=
  if !f.anyCase then s else if f.unicode then s.anyCase else s.anyAsciiCase

/-- A set or all other characters, which must be Unicode's. -/
def negate (f : Flags) (span : Span) (negated : Bool) (s : CharSet) : Except Fault CharSet :=
  if !negated then .ok s
  else if f.unicode then .ok s.compl
  else .error ⟨.invalidText, span, none⟩

end Flags

/-! ### Sets -/

/-- A byte that is not ASCII is no character. -/
def Literal.check (f : Flags) (l : Literal) : Except Fault Unit :=
  if l.isByte && !f.unicode && 0x80 ≤ l.char.toNat then .error ⟨.invalidText, l.span, none⟩
  else .ok ()

/-- A literal as a member of a set. -/
def Literal.member (f : Flags) (l : Literal) : Except Fault Char := do
  l.check f
  if f.unicode || l.char.toNat < 0x80 then return l.char
  else .error ⟨.unicodeForbidden, l.span, none⟩

/-- Digits, blanks and word characters. -/
def letterClass (f : Flags) (letter : Char) : CharSet :=
  let all := match letter with
    | 'd' => Text.digitChars
    | 's' => Text.spaceChars
    | _ => Text.wordChars
  if f.unicode then all else all.inter ⟨[0, 0x80]⟩

/-- Divides a text where a mark first occurs in it. -/
def divide? (mark : List Char) : List Char → Option (List Char × List Char)
  | [] => none
  | c :: cs =>
    if mark.isPrefixOf (c :: cs) then some ([], (c :: cs).drop mark.length)
    else (divide? mark cs).map fun (before, after) => (c :: before, after)

/-- The name and the value of a property, and whether it is not to have it. -/
def splitQuery (query : List Char) : Option (String × String × Bool) :=
  let named (unequal : Bool) (parts : List Char × List Char) :=
    (String.ofList parts.1, String.ofList parts.2, unequal)
  match divide? ['!', '='] query with
  | some parts => some (named true parts)
  | none => ((divide? [':'] query).or (divide? ['='] query)).map (named false)

/-- The characters of a property, with a value or without. -/
def propertyClass (f : Flags) (span : Span) (query : List Char) (negated : Bool) :
    Except Fault CharSet := do
  let unknown (hasName : Bool) : Fault :=
    ⟨if hasName then .propertyValueUnknown else .propertyUnknown, span, none⟩
  if !f.unicode then .error ⟨.unicodeForbidden, span, none⟩
  match splitQuery query with
  | none =>
    let name := String.ofList query
    match Text.property? name with
    | some s => f.negate span negated (f.fold s)
    | none => .error (unknown (Text.isEmptyValue name))
  | some (name, value, unequal) =>
    match Text.propertyValue? name value with
    | some s => f.negate span (negated != unequal) (f.fold s)
    | none => .error (unknown (Text.isPropertyName name))

def ClassForm.chars (f : Flags) (span : Span) : ClassForm → Except Fault CharSet
  | .letter l negated => f.negate span negated (letterClass f l)
  | .property query negated => propertyClass f span query negated
  | .ranges rs negated => f.negate span negated (f.fold (.ofRanges rs))

/-- Combines two sets. -/
def SetOp.apply : SetOp → CharSet → CharSet → CharSet
  | .inter => .inter
  | .minus => .minus
  | .apart => .apart

mutual

def SetForm.chars (f : Flags) : SetForm → Except Fault CharSet
  | .empty _ => .ok .empty
  | .literal l => do
    let c ← l.member f
    return .range c c
  | .range a b => do
    let first ← a.member f
    let last ← b.member f
    return .range first last
  | .cls span c => c.chars f span
  | .items _ ss => SetForm.allChars f ss .empty
  | .op _ o left right => do
    let s ← left.chars f
    let t ← right.chars f
    return o.apply (f.fold s) (f.fold t)
  | .bracket span negated s => do f.negate span negated (f.fold (← s.chars f))

/-- What some items have between them, and what came before. -/
def SetForm.allChars (f : Flags) : List SetForm → CharSet → Except Fault CharSet
  | [], all => .ok all
  | s :: ss, all => do SetForm.allChars f ss (all.union (← s.chars f))

end

/-! ### Trees -/

/-- A character on its own. -/
def charTree (f : Flags) (c : Char) : Tree :=
  if f.anyCase && (f.unicode || c.toNat < 0x80) then .ofSet (f.fold (.range c c)) else .char c

/-- Any character, line ends aside. -/
def anyChar (f : Flags) : CharSet :=
  if f.dotAll then .all
  else if f.carriage then (CharSet.ofRanges [('\n', '\n'), ('\r', '\r')]).compl
  else (CharSet.range '\n' '\n').compl

def Anchor.look (f : Flags) : Anchor → Look
  | .lineStart => if f.multiLine then .startLine f.carriage else .startText
  | .lineEnd => if f.multiLine then .endLine f.carriage else .endText
  | .textStart => .startText
  | .textEnd => .endText
  | .word e => .word e !f.unicode

def Atom.tree (f : Flags) : Atom → Except Fault Tree
  | .literal l => do
    l.check f
    return charTree f l.char
  | .dot span => if f.unicode then .ok (.set (anyChar f)) else .error ⟨.invalidText, span, none⟩
  | .anchor _ a => .ok (.look (a.look f))
  | .cls span c => do return .ofSet (← c.chars f span)

mutual

/-- The tree of a form, and the flags after it. -/
def Form.tree (f : Flags) : Form → Except Fault (Tree × Flags)
  | .empty _ => return (.empty, f)
  | .flags _ change => return (.empty, f.apply change)
  | .atom a => do return (← a.tree f, f)
  | .set s => do return (.ofSet (← s.chars f), f)
  | .repeated _ p least most greedy => do
    let (t, f) ← p.tree f
    return (t.times least most (greedy != f.reluctant), f)
  | .group _ (.capture i) p => do
    let (t, _) ← p.tree f
    return (.group i t, f)
  | .group _ (.plain change) p => do
    let (t, _) ← p.tree (f.apply change)
    return (t, f)
  | .alt _ ps => do
    let (ts, f) ← Form.trees f ps
    return (.altOf ts, f)
  | .seq _ ps => do
    let (ts, f) ← Form.trees f ps
    return (.seqOf ts, f)

/-- The trees of some forms one after the other. -/
def Form.trees (f : Flags) : List Form → Except Fault (List Tree × Flags)
  | [] => return ([], f)
  | p :: ps => do
    let (t, f) ← p.tree f
    let (ts, f) ← Form.trees f ps
    return (t :: ts, f)

end

end MethodAudit.Pattern
