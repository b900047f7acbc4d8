import MethodAudit.Failure
import MethodAudit.Violation

/-!
The rules, what each finds in a unit, and the selection of rules by name.
-/

namespace MethodAudit

inductive Rule
  /-- Methods that nothing declares or calls. -/
  | methodIsUsed
  /-- Object properties that do not keep their object alive. -/
  | shouldUseWeak
  deriving DecidableEq, Repr

namespace Rule

def name : Rule → String
  | .methodIsUsed => "method is used"
  | .shouldUseWeak => "should use weak"

def priority : Rule → UInt8
  | .methodIsUsed | .shouldUseWeak => 1

def category : Rule → String
  | .methodIsUsed | .shouldUseWeak => "cocoa"

def violation (r : Rule) (location : Location) (message : String) (verdict : Option Verdict) :
    Violation :=
  ⟨r.name, r.priority, r.category, location, message, verdict⟩

/-- The methods of a unit that may be dead. -/
def deadMethods (u : SourceUnit) : List Violation :=
  u.verdicts.flatMap fun (i, ds) => ds.filterMap fun (d, verdict) =>
    (verdict.message d.method.selector).map fun message =>
      methodIsUsed.violation (.ofMethod u.file i d) message (some verdict)

/-- The properties of a body that do not keep their object alive. -/
def danglingProperties (file container : String) (b : Body) : List Violation :=
  (b.properties.filter Property.isDangling).map fun p =>
    shouldUseWeak.violation (.ofProperty file container p)
      ("property object property " ++ p.name ++ " should use strong, copy, or weak") none

/-- What a rule finds in a unit. -/
def check (r : Rule) (u : SourceUnit) : List Violation :=
  match r with
  | .methodIsUsed => deadMethods u
  | .shouldUseWeak =>
    ((u.interfaces.decls.toList.filter (!·.forward)).flatMap fun i =>
      danglingProperties u.file i.name i.body) ++
    (u.categories.toList.flatMap fun c => danglingProperties u.file c.title c.body) ++
    ((u.protocols.decls.toList.filter (!·.forward)).flatMap fun p =>
      danglingProperties u.file p.name p.body)

/-- Every rule, in order. -/
def all : List Rule := [.methodIsUsed, .shouldUseWeak]

/-- Moves the rules of some names from those available to those selected. The rule of a name that
comes again is no longer available, so such a name is passed over first. -/
def selectFrom (available selected : List Rule) : List String → Except Failure (List Rule)
  | [] => .ok selected
  | name :: rest =>
    if selected.any (·.name = name) then selectFrom available selected rest
    else
      match available.find? (·.name = name) with
      | none => .error (.invalidArgument ("unknown rule: " ++ name))
      | some r => selectFrom (available.erase r) (selected ++ [r]) rest

/-- The rules of a list of names, in the order of the names. -/
def select (names : List String) : Except Failure (List Rule) := selectFrom all [] names

end Rule

end MethodAudit
