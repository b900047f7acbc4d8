/-!
Statements of method bodies. Only what can refer to a method is told apart.
-/

namespace MethodAudit

/-- What a message is sent to: an object or a class, or either by way of `super`. -/
inductive Receiver
  | object
  | classObject
  | superObject
  | superClass
  deriving DecidableEq, Repr

namespace Receiver

def isSuper : Receiver → Bool
  | .superObject | .superClass => true
  | _ => false

/-- The message looks for an instance method. -/
def isInstance : Receiver → Bool
  | .object | .superObject => true
  | _ => false

end Receiver

inductive Action
  | send (receiver : Receiver) (selector : String) (receiverType : Option String)
  | access (getter setter : Option String) (viaSuper : Bool) (receiverType : Option String)
  | selectorLiteral (selector : String)
  | other (label : Option String)
  deriving DecidableEq, Repr

/-- The static type of the object that is sent a message or whose property is used. -/
def Action.receiverType? : Action → Option String
  | .send _ _ type | .access _ _ _ type => type
  | _ => none

inductive Stmt
  | node (action : Action) (children : List Stmt)
  deriving Repr

namespace Stmt

def action : Stmt → Action
  | .node a _ => a

def children : Stmt → List Stmt
  | .node _ cs => cs

/-- The number of nodes in a list of statements. -/
def count : List Stmt → Nat
  | [] => 0
  | .node _ cs :: rest => count cs + count rest + 1

theorem count_append (ss ts : List Stmt) : count (ss ++ ts) = count ss + count ts := by
  induction ss with
  | nil => simp [count]
  | cons s ss ih =>
    obtain ⟨a, cs⟩ := s
    simp only [List.cons_append, count, ih]
    omega

theorem count_reverse (ss : List Stmt) : count ss.reverse = count ss := by
  induction ss with
  | nil => rfl
  | cons s ss ih =>
    obtain ⟨a, cs⟩ := s
    simp only [List.reverse_cons, count_append, ih, count]
    omega

/-- Every node of the statements on a stack, each before its children. -/
def walk : List Stmt → List Stmt
  | [] => []
  | .node a cs :: rest => .node a cs :: walk (cs ++ rest)
termination_by ss => count ss
decreasing_by simp only [count_append, count]; omega

/-- The same, but from the last child to the first. -/
def walkBack : List Stmt → List Stmt
  | [] => []
  | .node a cs :: rest => .node a cs :: walkBack (cs.reverse ++ rest)
termination_by ss => count ss
decreasing_by simp [count_append, count_reverse, count]

/-- The nodes of a body, each before its children. -/
def scan (body : Option Stmt) : List Stmt := walk body.toList

/-- The receiver types named in a body, in the order of `walkBack`. -/
def receiverTypes (body : Option Stmt) : List String :=
  (walkBack body.toList).filterMap (·.action.receiverType?)

end Stmt

end MethodAudit
