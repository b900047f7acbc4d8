import MethodAudit.Json.Reading

/-!
Decoders: readers that take a value of a known shape out of the tree of a text. The first
problem in the order of the text is the one reported.
-/

namespace MethodAudit.Json

abbrev Decoder (α : Type) := Room → Node → Except Fault α

namespace Decoder

def string : Decoder String := fun _ n =>
  match n with
  | .leaf ⟨.string s, _⟩ => s
  | n => .error (n.mismatch "a string")

def bool : Decoder Bool := fun _ n =>
  match n with
  | .leaf ⟨.bool b, _⟩ => .ok b
  | n => .error (n.mismatch "a boolean")

/-- A natural number below `bound`, described as `wanted`. -/
def natural (bound : Nat) (wanted : String) : Decoder Nat := fun _ n =>
  match n with
  | .leaf ⟨.number m, span⟩ =>
    match m.value with
    | some (.integer i) =>
      if 0 ≤ i && i < bound then .ok i.toNat
      else .error ⟨.wrongValue (.integer i) wanted, span.stop⟩
    | some v => .error ⟨.wrongType v.found wanted, span.stop⟩
    | none => .error (m.rangeFault span)
  | n => .error (n.mismatch wanted)

def u8 : Decoder UInt8 := fun room n => Nat.toUInt8 <$> natural 0x100 "u8" room n
def u32 : Decoder UInt32 := fun room n => Nat.toUInt32 <$> natural 0x100000000 "u32" room n
def u64 : Decoder UInt64 := fun room n => Nat.toUInt64 <$> natural 0x10000000000000000 "u64" room n
def size : Decoder Nat := natural 0x10000000000000000 "usize"

/-- `null` stands for an absent value, and a broken `null` is taken for nothing else. -/
def optional (d : Decoder α) : Decoder (Option α) := fun room n =>
  match n with
  | .leaf ⟨.null, _⟩ => .ok none
  | .leaf ⟨.cut ⟨.null, read, _⟩, _⟩ => .error read
  | n => some <$> d room n

def items (d : Decoder α) (room : Room) : Items → Except Fault (List α)
  | .stop (.closed _) => .ok []
  | .stop (.broken b) => .error b.inList
  | .cons n rest => do
    let a ← d room n
    return a :: (← items d room rest)

def list (d : Decoder α) : Decoder (List α) := fun room n =>
  match n with
  | .list span is => do items d (← room.enter span) is
  | n => .error (n.mismatch "a sequence")

def entries (d : Decoder α) (room : Room) : Members → Except Fault (List (String × α))
  | .stop (.closed _) => .ok []
  | .stop (.broken b) => .error b.inObject
  | .cons k v rest => do
    let name ← k.text
    let a ← d room v
    return (name, a) :: (← entries d room rest)

/-- The members of an object, all of one shape. -/
def map (d : Decoder α) : Decoder (List (String × α)) := fun room n =>
  match n with
  | .object span ms => do entries d (← room.enter span) ms
  | n => .error (n.mismatch "a map")

/-! ### Variants -/

/-- Looks up the name of a variant. -/
def pick (variants : List (String × α)) (name : String) : Except Problem α :=
  match variants.lookup name with
  | some a => .ok a
  | none => .error (.unknownVariant name (variants.map Prod.fst))

/-- A problem at a place. -/
def located (pos : Position) (r : Except Problem α) : Except Fault α :=
  r.mapError fun p => ⟨p, pos⟩

def unit : Decoder Unit := fun _ n =>
  match n with
  | .leaf ⟨.null, _⟩ => .ok ()
  | n => .error (n.mismatch "unit")

/-- What may follow the one member of an object that names a variant. -/
def soleMember : Members → Except Fault Unit
  | .stop (.closed _) => .ok ()
  | .cons k _ _ => .error ⟨.expectedValue, k.before.start⟩
  | .stop (.broken (.comma span _)) => .error ⟨.expectedValue, span.start⟩
  | .stop (.broken (.first t)) | .stop (.broken (.next t)) =>
    match t.lexeme with
    | .ending => .error ⟨.endOfObject, t.span.start⟩
    | _ => .error ⟨.expectedValue, t.span.start⟩

/-- One of several names, as a string or as the only key of an object whose value is `null`. -/
def variant (variants : List (String × α)) : Decoder α := fun room n =>
  match n with
  | .leaf ⟨.string s, span⟩ => do located span.stop (pick variants (← s))
  | .leaf ⟨.cut c, span⟩ =>
    .error (if c.fragment = .string then c.read else ⟨.expectedValue, span.peek⟩)
  | .leaf ⟨.ending, span⟩ => .error ⟨.endOfValue, span.peek⟩
  | .leaf t => .error ⟨.expectedValue, t.span.peek⟩
  | .noColon t => .error t.colonFault
  | .list span _ => .error ⟨.expectedValue, span.peek⟩
  | .object span ms => do
    let room ← room.enter span
    match ms with
    | .stop (.closed span) => .error ⟨.expectedValue, span.peek⟩
    | .stop (.broken b) => .error b.inObject
    | .cons k v rest => do
      let a ← located k.span.stop (pick variants (← k.text))
      unit room v
      soleMember rest
      return a

/-! ### Records -/

/-- A field of a record: its name, whether it must be given, and how its value changes the
record. -/
structure Field (ρ : Type) where
  name : String
  required : Bool
  read : Decoder (ρ → ρ)

def Field.of (name : String) (d : Decoder α) (set : α → ρ → ρ) : Field ρ :=
  ⟨name, true, fun room n => set <$> d room n⟩

/-- A field that may be left out. -/
def Field.opt (name : String) (d : Decoder α) (set : α → ρ → ρ) : Field ρ :=
  ⟨name, false, fun room n => set <$> d room n⟩

/-- A kind of record, read as an object or as a list of its fields in order. `blank` is the
record with nothing given. -/
structure Schema (ρ : Type) where
  name : String
  blank : ρ
  fields : List (Field ρ)

namespace Schema

def wanted (s : Schema ρ) : String := "struct " ++ s.name

/-- The first required field that is not among the names. -/
def missing? (s : Schema ρ) (seen : List String) : Option (Field ρ) :=
  s.fields.find? fun f => f.required && !seen.contains f.name

def members (s : Schema ρ) (room : Room) (seen : List String) (r : ρ) :
    Members → Except Fault ρ
  | .stop (.closed span) =>
    match s.missing? seen with
    | some f => .error ⟨.missingField f.name, span.stop⟩
    | none => .ok r
  | .stop (.broken b) => .error b.inObject
  | .cons k v rest => do
    let name ← k.text
    match s.fields.find? (·.name = name) with
    | none => do
      v.skip
      s.members room seen r rest
    | some f =>
      if seen.contains name then .error ⟨.duplicateField name, k.leave⟩
      else do
        let set ← f.read room v
        s.members room (name :: seen) (set r) rest

/-- What may follow the last field of a list. -/
def surplus : Items → Except Fault Unit
  | .stop (.closed _) => .ok ()
  | .cons n _ => .error ⟨.trailingCharacters, n.span.peek⟩
  | .stop (.broken (.first t)) | .stop (.broken (.next t)) =>
    match t.lexeme with
    | .ending => .error ⟨.endOfList, t.span.peek⟩
    | _ => .error ⟨.trailingCharacters, t.span.peek⟩
  | .stop (.broken (.comma _ t)) =>
    match t.lexeme with
    | .closeList => .error ⟨.trailingComma, t.span.peek⟩
    | _ => .error ⟨.trailingCharacters, t.span.peek⟩

def elements (s : Schema ρ) (room : Room) (index : Nat) (r : ρ) :
    List (Field ρ) → Items → Except Fault ρ
  | [], rest => do
    surplus rest
    return r
  | f :: fs, .cons n rest => do
    let set ← f.read room n
    s.elements room (index + 1) (set r) fs rest
  | f :: fs, .stop (.closed span) =>
    if f.required then
      let count := s.fields.length
      let unit := if count = 1 then " element" else " elements"
      .error ⟨.wrongLength index (s.wanted ++ " with " ++ toString count ++ unit), span.stop⟩
    else s.elements room (index + 1) r fs (.stop (.closed span))
  | _ :: _, .stop (.broken b) => .error b.inList

def decode (s : Schema ρ) : Decoder ρ := fun room n =>
  match n with
  | .object span ms => do s.members (← room.enter span) [] s.blank ms
  | .list span is => do s.elements (← room.enter span) 0 s.blank s.fields is
  | n => .error (n.mismatch s.wanted)

end Schema

end Decoder

/-- Reads a whole text. -/
def decode (d : Decoder α) (room : Room) (text : String) : Except Fault α := do
  let doc := Document.read text
  let a ← d room doc.root
  match doc.trailing with
  | none => return a
  | some span => .error ⟨.trailingCharacters, span.peek⟩

/-- The value of a text. -/
def parse (room : Room) (text : String) : Except Fault Json :=
  decode (fun room n => n.value room) room text

end MethodAudit.Json
