import MethodAudit.Failure
import MethodAudit.Toml.Reader

/-!
Settings, from a file in the folder that is analyzed.
-/

namespace MethodAudit

structure OutputSettings where
  format : Option String
  deriving DecidableEq, Repr

/-- What is not given is left to the command line. -/
structure Settings where
  ignore : Option (List String)
  rules : Option (List String)
  cache : Option Bool
  output : Option OutputSettings
  deriving DecidableEq, Repr

namespace Settings

/-- JSON output is asked for. -/
def wantsJson (s : Settings) : Bool :=
  (s.output.bind (·.format)).any fun f => f.toLower = "json"

def textOf? : Toml → Option String
  | .text s => some s
  | _ => none

def textsOf? : Toml → Option (List String)
  | .list vs => vs.mapM textOf?
  | _ => none

def boolOf? : Toml → Option Bool
  | .bool b => some b
  | _ => none

/-- The value of a key that may be absent; `none` if it is there and of the wrong kind. -/
def field? (es : Toml.Entries) (key : String) (read : Toml → Option α) : Option (Option α) :=
  match es.lookup key with
  | none => some none
  | some v => (read v).map some

/-- Output settings are a table, or a list that starts with the format. A moment counts as a
table without a format. -/
def outputOf? : Toml → Option OutputSettings
  | .table _ es => (field? es "format" textOf?).map fun f => ⟨f⟩
  | .list (v :: _) => (textOf? v).map fun f => ⟨some f⟩
  | .moment _ => some ⟨none⟩
  | _ => none

/-- The settings of a text; keys that mean nothing here are passed over. -/
def parse? (text : String) : Option Settings := do
  let es ← Toml.parse? text
  let ignore ← field? es "ignore" textsOf?
  let rules ← field? es "rules" textsOf?
  let cache ← field? es "cache" boolOf?
  let output ← field? es "output" outputOf?
  return ⟨ignore, rules, cache, output⟩

def fileName : String := "deadsel.toml"

/-- The settings of a root are in it, or beside it if it is a file. -/
def path (t : FileTree) (root : Path) : Path :=
  let folder := if t.isFile root then root.parent?.getD root else root
  folder.join fileName

/-- Reads the settings of a root, if there are any. The message about a text that is not in order
leaves out which part of it is not. -/
def load (t : FileTree) (root : Path) : Except Failure (Option Settings) :=
  let p := path t root
  if !t.exists? p then .ok none
  else match t.readText p with
    | .error problem => .error (.io p problem)
    | .ok text =>
      match parse? text with
      | none => .error (.config p ("Invalid " ++ fileName))
      | some s => .ok (some s)

end Settings

end MethodAudit
