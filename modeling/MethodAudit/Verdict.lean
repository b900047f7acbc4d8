import MethodAudit.Surface

/-!
Verdicts on implemented methods. A method is used if its class declares it, or if another
method of the same implementation calls it on an object of the class; a mention that proves
nothing counts for less.
-/

namespace MethodAudit

structure Evidence where
  confirmed : Bool
  possible : Bool
  deriving DecidableEq, Repr

namespace Evidence

def none : Evidence := ⟨false, false⟩
def certain : Evidence := ⟨true, false⟩
def weak : Evidence := ⟨false, true⟩

def merge (a b : Evidence) : Evidence :=
  ⟨a.confirmed || b.confirmed, a.possible || b.possible⟩

def ofMatch : ReceiverMatch → Evidence
  | .compatible => certain
  | .incompatible => none
  | .unknown => weak

/-- The evidence of a list added to `e`, up to the first that confirms. -/
def collect (f : α → Evidence) (e : Evidence) : List α → Evidence
  | [] => e
  | a :: as =>
    let e := e.merge (f a)
    if e.confirmed then e else collect f e as

end Evidence

inductive Verdict
  | usedPublic
  | usedInternal
  | possiblyUsed
  | unused
  deriving DecidableEq, Repr

namespace Verdict

def name : Verdict → String
  | .usedPublic => "used_public"
  | .usedInternal => "used_internal"
  | .possiblyUsed => "possibly_used"
  | .unused => "unused"

/-- The complaint about a method that may be dead. -/
def message (v : Verdict) (selector : String) : Option String :=
  match v with
  | .usedPublic | .usedInternal => none
  | .possiblyUsed =>
    some ("The method " ++ selector ++ " was referenced by @selector(...) but no where else")
  | .unused =>
    some ("The method " ++ selector ++ " was defined but not exported or referenced here")

def ofEvidence (e : Evidence) : Verdict :=
  if e.confirmed then .usedInternal else if e.possible then .possiblyUsed else .unused

end Verdict

namespace SourceUnit

/-- What a statement says about the use of `m`, a method of the class `target`. What goes to
`super` runs another method. -/
def actionEvidence (u : SourceUnit) (m : Method) (target : Option String) : Action → Evidence
  | .selectorLiteral selector => if selector = m.selector then .weak else .none
  | .access getter setter viaSuper type =>
    if m.classMethod || viaSuper then .none
    else if getter = some m.selector ∨ setter = some m.selector then
      .ofMatch (u.matchReceiver type target)
    else .none
  | .send receiver selector type =>
    if receiver.isSuper then .none
    else if (⟨selector, !receiver.isInstance⟩ : Method) = m then
      .ofMatch (u.matchReceiver type target)
    else .none
  | .other _ => .none

def bodyEvidence (u : SourceUnit) (m : Method) (target : Option String) (body : Option Stmt) :
    Evidence :=
  Evidence.collect (fun s => u.actionEvidence m target s.action) .none (Stmt.scan body)

/-- The evidence from the other methods of an implementation. -/
def evidence (u : SourceUnit) (i : Implementation) (m : Method) : Evidence :=
  Evidence.collect (fun d => u.bodyEvidence m i.className d.body) .none
    (i.methods.filter (·.method ≠ m))

def verdict (u : SourceUnit) (i : Implementation) (m : Method) : Verdict :=
  if i.className.any fun name => u.classDeclares name m then .usedPublic
  else .ofEvidence (u.evidence i m)

/-- The verdicts on the methods of an implementation, in order. -/
def verdictsOn (u : SourceUnit) (i : Implementation) : List (MethodDef × Verdict) :=
  i.methods.map fun d => (d, u.verdict i d.method)

/-- The verdicts on all implemented methods, in order. -/
def verdicts (u : SourceUnit) : List (Implementation × List (MethodDef × Verdict)) :=
  u.implementations.map fun i => (i, u.verdictsOn i)

end SourceUnit

end MethodAudit
