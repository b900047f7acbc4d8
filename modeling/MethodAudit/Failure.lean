import MethodAudit.Files.Tree
import MethodAudit.Json.Fault

/-!
What can go wrong in an analysis, and the wording of it.
-/

namespace MethodAudit

inductive Failure
  | io (path : Path) (problem : IoProblem)
  | parse (path : Path) (fault : Json.Fault)
  | model (path : Path) (message : String)
  | cache (message : String)
  | config (path : Path) (message : String)
  | invalidArgument (message : String)
  | internal (message : String)
  deriving DecidableEq, Repr

namespace Failure

def message : Failure → String
  | .io path problem => "I/O error at " ++ path.text ++ ": " ++ problem.message
  | .parse path fault => "Parse error in " ++ path.text ++ ": " ++ fault.message
  | .model path message => "Model error in " ++ path.text ++ ": " ++ message
  | .cache message => "Cache error: " ++ message
  | .config path message => "Config error at " ++ path.text ++ ": " ++ message
  | .invalidArgument message => "Invalid argument: " ++ message
  | .internal message => "Internal error: " ++ message

/-- The failure concerns one dump, and the others can still be analyzed. -/
def isRecoverable : Failure → Bool
  | .io .. | .parse .. | .model .. | .cache .. => true
  | .config .. | .invalidArgument .. | .internal .. => false

/-- The message with the cause after it: what the system said about a file stands twice. -/
def report (f : Failure) : String :=
  match f with
  | .io _ problem => f.message ++ ": " ++ problem.message
  | _ => f.message

end Failure

end MethodAudit
