import MethodAudit.Dump
import MethodAudit.Json.Decoder

/-!
Reading dumps. A declaration is an object, or a list of its fields in order. A statement is an
object whose `children` are statements; what its other members mean depends on its `kind`, so
they are set aside and looked at when the object ends.
-/

namespace MethodAudit

open Json Json.Decoder

namespace Reader

def setterPolicies : List (String × SetterPolicy) :=
  [("assign", .assign), ("strong", .strong), ("copy", .copy), ("weak", .weak)]

def receivers : List (String × Receiver) :=
  [("instance", .object), ("class", .classObject), ("super_instance", .superObject),
    ("super_class", .superClass)]

def methodSchema : Schema Method where
  name := "MethodDecl"
  blank := ⟨"", false⟩
  fields := [
    .of "selector" string fun v r => { r with selector := v },
    .opt "class_method" bool fun v r => { r with classMethod := v }]

def propertySchema : Schema Property where
  name := "PropertyDecl"
  blank := ⟨"", false, .strong, none, none, false, none⟩
  fields := [
    .of "name" string fun v r => { r with name := v },
    .opt "readonly" bool fun v r => { r with readonly := v },
    .opt "setter_policy" (variant setterPolicies) fun v r => { r with policy := v },
    .opt "getter" (optional string) fun v r => { r with customGetter := v },
    .opt "setter" (optional string) fun v r => { r with customSetter := v },
    .opt "object_type" bool fun v r => { r with objectType := v },
    .opt "line" (optional u32) fun v r => { r with line := v }]

/-- The fields that declarations have in common. -/
def bodyFields (set : (Body → Body) → ρ → ρ) : List (Json.Decoder.Field ρ) := [
  .opt "protocols" (list string) fun v => set fun b => { b with protocols := v },
  .opt "methods" (list methodSchema.decode) fun v => set fun b => { b with methods := v },
  .opt "properties" (list propertySchema.decode) fun v => set fun b => { b with properties := v }]

def interfaceSchema : Schema Interface where
  name := "InterfaceDecl"
  blank := ⟨"", none, .empty, false⟩
  fields := [
    .of "name" string fun v r => { r with name := v },
    .opt "superclass" (optional string) fun v r => { r with superclass := v }] ++
    bodyFields (fun f r => { r with body := f r.body }) ++ [
    .opt "forward" bool fun v r => { r with forward := v }]

def protocolSchema : Schema Protocol where
  name := "ProtocolDecl"
  blank := ⟨"", .empty, false⟩
  fields := [
    .of "name" string fun v r => { r with name := v }] ++
    bodyFields (fun f r => { r with body := f r.body }) ++ [
    .opt "forward" bool fun v r => { r with forward := v }]

def categorySchema : Schema Category where
  name := "CategoryDecl"
  blank := ⟨"", "", .empty⟩
  fields := [
    .opt "name" string fun v r => { r with name := v },
    .of "class_name" string fun v r => { r with className := v }] ++
    bodyFields (fun f r => { r with body := f r.body })

/-! ### Members set aside -/

/-- What a value is, in a message about it. -/
def found : Json → Found
  | .null => .null
  | .bool b => .bool b
  | .number n =>
    match n.value with
    | some v => v.found
    | none => .null
  | .string s => .string s
  | .list _ => .sequence
  | .object _ => .map

def keptString : Json → Except Problem String
  | .string s => .ok s
  | v => .error (.wrongType (found v) "a string")

def keptBool : Json → Except Problem Bool
  | .bool b => .ok b
  | v => .error (.wrongType (found v) "a boolean")

def keptOptional (d : Json → Except Problem α) : Json → Except Problem (Option α)
  | .null => .ok none
  | v => some <$> d v

/-- A name, or an object whose only key is a name and whose value is `null` or empty. -/
def keptVariant (variants : List (String × α)) : Json → Except Problem α
  | .string s => pick variants s
  | .object [(name, v)] => do
    let a ← pick variants name
    match v with
    | .null | .object [] => return a
    | v => .error (.wrongType (found v) "unit")
  | .object _ => .error (.wrongValue .map "map with a single key")
  | v => .error (.wrongType (found v) "string or map")

/-- A field of a record read from members set aside. -/
structure KeptField (ρ : Type) where
  name : String
  required : Bool
  read : Json → Except Problem (ρ → ρ)

def KeptField.of (name : String) (d : Json → Except Problem α) (set : α → ρ → ρ) : KeptField ρ :=
  ⟨name, true, fun v => set <$> d v⟩

def KeptField.opt (name : String) (d : Json → Except Problem α) (set : α → ρ → ρ) : KeptField ρ :=
  ⟨name, false, fun v => set <$> d v⟩

def keptRecord (fields : List (KeptField ρ)) (seen : List String) (r : ρ) :
    List (String × Json) → Except Problem ρ
  | [] =>
    match fields.find? fun f => f.required && !seen.contains f.name with
    | some f => .error (.missingField f.name)
    | none => .ok r
  | (name, v) :: rest =>
    match fields.find? (·.name = name) with
    | none => keptRecord fields seen r rest
    | some f =>
      if seen.contains name then .error (.duplicateField name)
      else do
        let set ← f.read v
        keptRecord fields (name :: seen) (set r) rest

inductive ActionKind
  | send
  | access
  | selectorLiteral
  | other

def actionKinds : List (String × ActionKind) :=
  [("message_send", .send), ("property_access", .access),
    ("selector_literal", .selectorLiteral), ("other", .other)]

/-- The kind of a statement, by name or by position among the kinds. -/
def actionKind : Json → Except Problem ActionKind
  | .string s => pick actionKinds s
  | .number n =>
    match n.value with
    | some (.integer (.ofNat i)) =>
      match actionKinds[i]? with
      | some (_, kind) => .ok kind
      | none =>
        .error (.wrongValue (.integer i)
          ("variant index 0 <= i < " ++ toString actionKinds.length))
    | _ => .error (.wrongType (found (.number n)) "variant identifier")
  | v => .error (.wrongType (found v) "variant identifier")

/-- Takes the kind out of the members; they keep their order. -/
def splitKind (kind : Option ActionKind) :
    List (String × Json) → Except Problem (ActionKind × List (String × Json))
  | [] =>
    match kind with
    | some kind => .ok (kind, [])
    | none => .error (.missingField "kind")
  | (name, v) :: rest =>
    if name = "kind" then
      if kind.isSome then .error (.duplicateField "kind")
      else do
        let kind ← actionKind v
        splitKind (some kind) rest
    else do
      let (kind, others) ← splitKind kind rest
      return (kind, (name, v) :: others)

structure SendParts where
  receiver : Receiver
  selector : String
  type : Option String

def sendFields : List (KeptField SendParts) := [
  .of "receiver" (keptVariant receivers) fun v r => { r with receiver := v },
  .of "selector" keptString fun v r => { r with selector := v },
  .opt "receiver_type" (keptOptional keptString) fun v r => { r with type := v }]

structure AccessParts where
  getter : Option String
  setter : Option String
  viaSuper : Bool
  type : Option String

def accessFields : List (KeptField AccessParts) := [
  .opt "getter" (keptOptional keptString) fun v r => { r with getter := v },
  .opt "setter" (keptOptional keptString) fun v r => { r with setter := v },
  .opt "super_receiver" keptBool fun v r => { r with viaSuper := v },
  .opt "receiver_type" (keptOptional keptString) fun v r => { r with type := v }]

/-- What a statement does, from the members of its object other than its children. -/
def actionOf (members : List (String × Json)) : Except Problem Action := do
  let (kind, members) ← splitKind none members
  match kind with
  | .send => do
    let p ← keptRecord sendFields [] ⟨.object, "", none⟩ members
    return .send p.receiver p.selector p.type
  | .access => do
    let p ← keptRecord accessFields [] ⟨none, none, false, none⟩ members
    return .access p.getter p.setter p.viaSuper p.type
  | .selectorLiteral =>
    .selectorLiteral <$>
      keptRecord [.of "selector" keptString fun v (_ : String) => v] [] "" members
  | .other =>
    .other <$>
      keptRecord [.opt "label" (keptOptional keptString) fun v (_ : Option String) => v] []
        none members

/-! ### Statements and implementations -/

mutual

def stmt (room : Room) : Node → Except Fault Stmt
  | .object span ms => do stmtMembers (← room.enter span) [] none ms
  | n => .error (n.mismatch "struct Stmt")

/-- `kept` has the members set aside, newest first. -/
def stmtMembers (room : Room) (kept : List (String × Json)) (children : Option (List Stmt)) :
    Members → Except Fault Stmt
  | .stop (.closed span) => do
    let action ← located span.stop (actionOf kept.reverse)
    return .node action (children.getD [])
  | .stop (.broken b) => .error b.inObject
  | .cons k v rest => do
    let name ← k.text
    if name = "children" then
      if children.isSome then .error ⟨.duplicateField "children", k.leave⟩
      else do
        let cs ← stmtList room v
        stmtMembers room kept (some cs) rest
    else do
      let v ← v.value room
      stmtMembers room ((name, v) :: kept) children rest

def stmtList (room : Room) : Node → Except Fault (List Stmt)
  | .list span items => do stmtItems (← room.enter span) items
  | n => .error (n.mismatch "a sequence")

def stmtItems (room : Room) : Items → Except Fault (List Stmt)
  | .stop (.closed _) => .ok []
  | .stop (.broken b) => .error b.inList
  | .cons n rest => do
    let s ← stmt room n
    return s :: (← stmtItems room rest)

end

def methodDefSchema : Schema MethodDef where
  name := "MethodImpl"
  blank := ⟨⟨"", false⟩, none, none⟩
  fields := [
    .of "selector" string fun v r => { r with method := { r.method with selector := v } },
    .opt "class_method" bool fun v r => { r with method := { r.method with classMethod := v } },
    .opt "body" (optional stmt) fun v r => { r with body := v },
    .opt "line" (optional u32) fun v r => { r with line := v }]

def implementationSchema : Schema Implementation where
  name := "ImplementationDecl"
  blank := ⟨none, none, []⟩
  fields := [
    .opt "class_name" (optional string) fun v r => { r with className := v },
    .opt "category" (optional string) fun v r => { r with category := v },
    .opt "methods" (list methodDefSchema.decode) fun v r => { r with methods := v }]

def dumpSchema : Schema Dump where
  name := "TranslationUnit"
  blank := ⟨"", [], [], [], []⟩
  fields := [
    .opt "file" string fun v r => { r with file := v },
    .opt "interfaces" (list interfaceSchema.decode) fun v r => { r with interfaces := v },
    .opt "protocols" (list protocolSchema.decode) fun v r => { r with protocols := v },
    .opt "categories" (list categorySchema.decode) fun v r => { r with categories := v },
    .opt "implementations" (list implementationSchema.decode) fun v r =>
      { r with implementations := v }]

end Reader

/-- Reads a dump, nested to any depth. -/
def Dump.parse (text : String) : Except Fault Dump := decode Reader.dumpSchema.decode none text

def Stmt.parse (text : String) : Except Fault Stmt := decode Reader.stmt .limited text

def Property.parse (text : String) : Except Fault Property :=
  decode Reader.propertySchema.decode .limited text

end MethodAudit
