import MethodAudit.Rule
import MethodAudit.Dump.Reader

/-!
The report on a dump: what it holds and what the rules find in it.
-/

namespace MethodAudit

structure Report where
  dump : String
  file : String
  implementations : Nat
  methods : Nat
  violations : List Violation
  deriving DecidableEq, Repr

/-- A dump that could not be analyzed. -/
structure Skipped where
  path : String
  reason : String
  deriving DecidableEq, Repr

namespace Report

def toJson (r : Report) : Json :=
  .object [
    ("dump", .string r.dump),
    ("file", .string r.file),
    ("implementations", .nat r.implementations),
    ("methods", .nat r.methods),
    ("violations", .list (r.violations.map Violation.toJson))]

end Report

def Skipped.toJson (s : Skipped) : Json :=
  .object [("path", .string s.path), ("reason", .string s.reason)]

namespace Reader

open Json.Decoder

def reportSchema : Schema Report where
  name := "UnitReport"
  blank := ⟨"", "", 0, 0, []⟩
  fields := [
    .of "dump" string fun v r => { r with dump := v },
    .of "file" string fun v r => { r with file := v },
    .of "implementations" size fun v r => { r with implementations := v },
    .of "methods" size fun v r => { r with methods := v },
    .of "violations" (list violationSchema.decode) fun v r => { r with violations := v }]

end Reader

/-- Reads and resolves a dump. -/
def SourceUnit.load (path : Path) (text : String) : Except Failure SourceUnit := do
  let dump ← (Dump.parse text).mapError (.parse path)
  dump.resolve.mapError fun d => .model path d.message

/-- What the rules find in a unit. -/
def SourceUnit.report (rules : List Rule) (u : SourceUnit) : Report where
  dump := ""
  file := u.file
  implementations := u.implementations.length
  methods := u.methodCount
  violations := rules.flatMap (·.check u)

/-- A unit together with the report on it. -/
structure Examined where
  unit : SourceUnit
  report : Report

/-- Analyzes the text of a dump. A dump that names no source file goes by its own path. -/
def examine (rules : List Rule) (path : Path) (text : String) : Except Failure Examined := do
  let u ← SourceUnit.load path text
  let u := if u.file = "" then { u with file := path.text } else u
  return ⟨u, { u.report rules with dump := path.text }⟩

inductive Outcome
  | analyzed (report : Report)
  | skipped (skipped : Skipped)
  deriving DecidableEq, Repr

namespace Outcome

/-- A recoverable failure leaves the dump out; any other stands. -/
def settle (path : Path) : Except Failure Report → Except Failure Outcome
  | .ok report => .ok (.analyzed report)
  | .error f => if f.isRecoverable then .ok (.skipped ⟨path.text, f.message⟩) else .error f

def report? : Outcome → Option Report
  | .analyzed report => some report
  | .skipped _ => none

def skipped? : Outcome → Option Skipped
  | .analyzed _ => none
  | .skipped s => some s

end Outcome

/-- What comes of the text of a dump. -/
def judge (rules : List Rule) (path : Path) (text : String) : Except Failure Outcome :=
  Outcome.settle path ((examine rules path text).map (·.report))

end MethodAudit
