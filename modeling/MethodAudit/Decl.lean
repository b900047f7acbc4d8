import MethodAudit.Text.Upper

/-!
Declarations of Objective-C methods and properties, and of the interfaces, protocols and
categories that hold them.
-/

namespace MethodAudit

/-- A method is known by its selector and by whether it belongs to the class or to its
instances. -/
structure Method where
  selector : String
  classMethod : Bool
  deriving DecidableEq, Repr

/-- `-[container selector]`, or with a plus for a class method. -/
def Method.symbol (m : Method) (container : String) : String :=
  (if m.classMethod then "+[" else "-[") ++ container ++ " " ++ m.selector ++ "]"

inductive SetterPolicy
  | assign
  | strong
  | copy
  | weak
  deriving DecidableEq, Repr

structure Property where
  name : String
  readonly : Bool
  policy : SetterPolicy
  customGetter : Option String
  customSetter : Option String
  objectType : Bool
  line : Option UInt32
  deriving DecidableEq, Repr

namespace Property

def getter (p : Property) : String := p.customGetter.getD p.name

/-- The selector of the setter that a name gives rise to. -/
def defaultSetter (name : String) : Option String :=
  match name.toList with
  | [] => none
  | c :: cs => some (String.ofList ("set".toList ++ Text.upper c ++ cs ++ [':']))

/-- A property that can be written has a setter, unless it has neither a name nor a setter of
its own. -/
def setter (p : Property) : Option String :=
  if p.readonly then none else p.customSetter <|> defaultSetter p.name

/-- The property declares `m` as one of its accessors. -/
def declares (p : Property) (m : Method) : Bool :=
  !m.classMethod && (p.getter == m.selector || p.setter == some m.selector)

/-- A writable object property that does not keep its object alive. -/
def isDangling (p : Property) : Bool :=
  p.objectType && !p.readonly && p.policy == .assign

end Property

/-- What a declaration holds: the protocols it adopts, its methods and its properties. -/
structure Body where
  protocols : List String
  methods : List Method
  properties : List Property
  deriving DecidableEq, Repr

def Body.empty : Body := ⟨[], [], []⟩

/-- The body itself declares `m`, protocols left aside. -/
def Body.declares (b : Body) (m : Method) : Bool :=
  b.methods.any (· == m) || b.properties.any (·.declares m)

/-- A class interface, or a forward declaration of one. -/
structure Interface where
  name : String
  superclass : Option String
  body : Body
  forward : Bool
  deriving DecidableEq, Repr

/-- The declaration of a class of which only the name is known. -/
def Interface.named (name : String) : Interface := ⟨name, none, .empty, true⟩

structure Protocol where
  name : String
  body : Body
  forward : Bool
  deriving DecidableEq, Repr

/-- A category of a class; a class extension has an empty name. -/
structure Category where
  name : String
  className : String
  body : Body
  deriving DecidableEq, Repr

def Category.title (c : Category) : String := c.className ++ "(" ++ c.name ++ ")"

end MethodAudit
