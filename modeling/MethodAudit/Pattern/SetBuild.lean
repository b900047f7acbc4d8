import Std.Data.TreeMap
import MethodAudit.Pattern.Automaton

/-!
The parts of an automaton that read one character of a set.

Sequences of bytes that end alike share states. What may be shared is remembered in a number of
slots, and what comes later takes the slot of what came before, so that not everything is.
-/

namespace MethodAudit.Pattern.Build

/-- Mixes a number into a hash. -/
def mix (h : UInt64) (n : Nat) : UInt64 := (h ^^^ n.toUInt64) * 0x100000001b3

def hashStart : UInt64 := 0xcbf29ce484222325

/-- A slot for some numbers. -/
def slot (slots : Nat) (ns : List Nat) : Nat := (ns.foldl mix hashStart).toNat % slots

/-! ### From the left -/

/-- States by what leads on from them. -/
abbrev Known := Std.TreeMap Nat (List Arc × Nat)

def arcSlot (arcs : List Arc) : Nat :=
  slot 10000 (arcs.flatMap fun a => [a.range.first.toNat, a.range.last.toNat, a.next])

/-- A state with some arcs, a known one if there is one. -/
def shareArcs (known : Known) (arcs : List Arc) : Build (Nat × Known) := do
  let i := arcSlot arcs
  match known.get? i with
  | some (seen, n) =>
    if seen = arcs then return (n, known)
    else
      let n ← add (.bytes arcs)
      return (n, known.insert i (arcs, n))
  | none =>
    let n ← add (.bytes arcs)
    return (n, known.insert i (arcs, n))

/-- A state to be: its arcs, newest first, and the bytes of the arc whose next state is not yet
known. -/
structure Sprout where
  arcs : List Arc
  pending : Option ByteRange

/-- The arcs in order, the pending one leading to `next`. -/
def Sprout.close (s : Sprout) (next : Nat) : Sprout :=
  match s.pending with
  | none => s
  | some r => ⟨⟨r, next⟩ :: s.arcs, none⟩

/-- Ends the states beyond the first `kept + 1`. The states are those along the sequence added
last, the deepest first. -/
def closeBeyond (kept next : Nat) : List Sprout → Known → Build (List Sprout × Known)
  | [], known => return ([], known)
  | s :: above, known =>
    if above.length ≤ kept then return (s.close next :: above, known)
    else do
      let (n, known) ← shareArcs known (s.close next).arcs.reverse
      closeBeyond kept n above known

/-- The number of places at which a sequence goes along with the one before. -/
def alongWith : List ByteRange → List Sprout → Nat
  | r :: rs, s :: ss => if s.pending = some r then alongWith rs ss + 1 else 0
  | _, _ => 0

/-- Adds a sequence. -/
def sprout (target : Nat) (rs : List ByteRange) (open₀ : List Sprout) (known : Known) :
    Build (List Sprout × Known) := do
  let kept := alongWith rs open₀.reverse
  let (left, known) ← closeBeyond kept target open₀ known
  match left, rs.drop kept with
  | s :: above, r :: more =>
    let deeper := more.map fun r => (⟨[], some r⟩ : Sprout)
    return (deeper.reverse ++ { s with pending := some r } :: above, known)
  | _, _ => return (left, known)

/-- Adds the sequences of a set, given in ascending order. -/
def setForward (seqs : List (List ByteRange)) : Build Part := do
  let target ← add (.pass 0)
  let (left, known) ← seqs.foldlM (fun (left, known) rs => sprout target rs left known)
    (([⟨[], none⟩] : List Sprout), (∅ : Known))
  let (left, known) ← closeBeyond 0 target left known
  let root := left.headD ⟨[], none⟩
  let (first, _) ← shareArcs known root.arcs.reverse
  return ⟨first, target⟩

/-! ### From the right -/

/-- States by the state they lead to and the bytes. -/
abbrev KnownEnds := Std.TreeMap Nat (Arc × Nat)

def endSlot (a : Arc) : Nat := slot 1000 [a.next, a.range.first.toNat, a.range.last.toNat]

/-- A state with one arc, a known one if there is one. -/
def shareEnd (known : KnownEnds) (a : Arc) : Build (Nat × KnownEnds) := do
  let i := endSlot a
  match known.get? i with
  | some (seen, n) =>
    if seen = a then return (n, known)
    else
      let n ← add (.byte a)
      return (n, known.insert i (a, n))
  | none =>
    let n ← add (.byte a)
    return (n, known.insert i (a, n))

/-- Adds the sequences of a set, to be read from the right. -/
def setBackward (seqs : List (List ByteRange)) : Build Part := do
  let branches ← fork
  let target ← add (.pass 0)
  let _ ← seqs.foldlM (fun known rs => do
    let (first, known) ← rs.foldlM (fun (next, known) r => shareEnd known ⟨r, next⟩)
      (target, known)
    connect branches first
    return known) (∅ : KnownEnds)
  return ⟨branches, target⟩

/-! ### Sets -/

/-- One byte of some ranges. -/
def anyByte (rs : List ByteRange) : Build Part := do
  let target ← add (.pass 0)
  let first ← add (.bytes (rs.map fun r => ⟨r, target⟩))
  return ⟨first, target⟩

/-- One character of a set. -/
def setPart (backward : Bool) (s : CharSet) : Build Part :=
  if s.isAscii then anyByte (s.ranges.map fun r => ⟨r.1.toUInt8, r.2.toUInt8⟩)
  else if backward then setBackward (sequences s)
  else setForward (sequences s)

end MethodAudit.Pattern.Build
