import MethodAudit.Decl
import MethodAudit.Stmt

/-!
A dump: the declarations and implementations of one source file, as they are written down.
-/

namespace MethodAudit

/-- An implemented method. The body may be unknown. -/
structure MethodDef where
  method : Method
  body : Option Stmt
  line : Option UInt32
  deriving Repr

/-- The implementation of a class or of one of its categories. -/
structure Implementation where
  className : Option String
  category : Option String
  methods : List MethodDef
  deriving Repr

def Implementation.title (i : Implementation) : String :=
  let name := i.className.getD "<unknown>"
  match i.category with
  | some category => name ++ "(" ++ category ++ ")"
  | none => name

structure Dump where
  file : String
  interfaces : List Interface
  protocols : List Protocol
  categories : List Category
  implementations : List Implementation
  deriving Repr

end MethodAudit
