import MethodAudit.Dump
import MethodAudit.Json.Value

/-!
Writing declarations, statements and dumps as JSON values, every field present.
-/

namespace MethodAudit

def SetterPolicy.name : SetterPolicy → String
  | .assign => "assign"
  | .strong => "strong"
  | .copy => "copy"
  | .weak => "weak"

def Receiver.name : Receiver → String
  | .object => "instance"
  | .classObject => "class"
  | .superObject => "super_instance"
  | .superClass => "super_class"

namespace Json

def texts (ss : List String) : Json := .list (ss.map .string)

def line (l : Option UInt32) : Json := optional (fun n => nat n.toNat) l

end Json

def Method.toJson (m : Method) : Json :=
  .object [("selector", .string m.selector), ("class_method", .bool m.classMethod)]

def Property.toJson (p : Property) : Json :=
  .object [
    ("name", .string p.name),
    ("readonly", .bool p.readonly),
    ("setter_policy", .string p.policy.name),
    ("getter", .optional .string p.customGetter),
    ("setter", .optional .string p.customSetter),
    ("object_type", .bool p.objectType),
    ("line", .line p.line)]

def Body.members (b : Body) : List (String × Json) := [
  ("protocols", .texts b.protocols),
  ("methods", .list (b.methods.map Method.toJson)),
  ("properties", .list (b.properties.map Property.toJson))]

def Interface.toJson (i : Interface) : Json :=
  .object ([
    ("name", .string i.name),
    ("superclass", .optional .string i.superclass)] ++ i.body.members ++ [
    ("forward", .bool i.forward)])

def Protocol.toJson (p : Protocol) : Json :=
  .object ([("name", .string p.name)] ++ p.body.members ++ [("forward", .bool p.forward)])

def Category.toJson (c : Category) : Json :=
  .object ([("name", .string c.name), ("class_name", .string c.className)] ++ c.body.members)

/-- The members that say what a statement does. -/
def Action.members : Action → List (String × Json)
  | .send receiver selector type => [
    ("kind", .string "message_send"),
    ("receiver", .string receiver.name),
    ("selector", .string selector),
    ("receiver_type", .optional .string type)]
  | .access getter setter viaSuper type => [
    ("kind", .string "property_access"),
    ("getter", .optional .string getter),
    ("setter", .optional .string setter),
    ("super_receiver", .bool viaSuper),
    ("receiver_type", .optional .string type)]
  | .selectorLiteral selector => [
    ("kind", .string "selector_literal"),
    ("selector", .string selector)]
  | .other label => [
    ("kind", .string "other"),
    ("label", .optional .string label)]

mutual

def Stmt.toJson : Stmt → Json
  | .node action children =>
    .object (action.members ++ [("children", .list (Stmt.listToJson children))])

def Stmt.listToJson : List Stmt → List Json
  | [] => []
  | s :: ss => s.toJson :: Stmt.listToJson ss

end

def MethodDef.toJson (d : MethodDef) : Json :=
  .object [
    ("selector", .string d.method.selector),
    ("class_method", .bool d.method.classMethod),
    ("body", .optional Stmt.toJson d.body),
    ("line", .line d.line)]

def Implementation.toJson (i : Implementation) : Json :=
  .object [
    ("class_name", .optional .string i.className),
    ("category", .optional .string i.category),
    ("methods", .list (i.methods.map MethodDef.toJson))]

def Dump.toJson (d : Dump) : Json :=
  .object [
    ("file", .string d.file),
    ("interfaces", .list (d.interfaces.map Interface.toJson)),
    ("protocols", .list (d.protocols.map Protocol.toJson)),
    ("categories", .list (d.categories.map Category.toJson)),
    ("implementations", .list (d.implementations.map Implementation.toJson))]

/-- The text of a dump. -/
def Dump.write (d : Dump) : String := d.toJson.compact

end MethodAudit
