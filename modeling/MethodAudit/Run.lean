import MethodAudit.Batch
import MethodAudit.Discovery
import MethodAudit.Pattern

/-!
A run over everything below a root: the dumps are found, analyzed and counted, and what the
patterns match is left out.
-/

namespace MethodAudit

/-- What is asked for. No rules at all stand for every rule. -/
structure Request where
  root : Path
  useCache : Bool
  rules : List String
  exclude : List String
  ignore : List String

/-- Why there is no summary. -/
inductive Refusal
  | rules (failure : Failure)
  | pattern (text : String) (why : Pattern.Rejection)
  | missing (root : Path)
  | analysis (failure : Failure)
  deriving DecidableEq, Repr

/-- That nothing is at a root. -/
def missingMessage (root : Path) : String := "Path does not exist: " ++ root.text

def Refusal.message : Refusal → String
  | .rules f => "Failed to select rules: " ++ f.report
  | .pattern text _ => "Invalid ignore pattern: " ++ text
  | .missing root => "Failed to gather dump files: " ++ missingMessage root
  | .analysis f => "Failed to analyze dumps: " ++ f.report

structure Stats where
  units : Nat
  implementations : Nat
  methods : Nat
  violations : Nat
  unused : Nat
  possiblyUsed : Nat
  deriving DecidableEq, Repr

namespace Stats

def of (units : List Report) (violations : List Violation) : Stats where
  units := units.length
  implementations := units.foldr (fun u n => u.implementations + n) 0
  methods := units.foldr (fun u n => u.methods + n) 0
  violations := violations.length
  unused := violations.countP (·.verdict == some .unused)
  possiblyUsed := violations.countP (·.verdict == some .possiblyUsed)

def toJson (s : Stats) : Json :=
  .object [
    ("units", .nat s.units),
    ("implementations", .nat s.implementations),
    ("methods", .nat s.methods),
    ("violations", .nat s.violations),
    ("unused", .nat s.unused),
    ("possibly_used", .nat s.possiblyUsed)]

end Stats

structure Summary where
  root : Path
  units : List Report
  violations : List Violation
  skipped : List Skipped
  stats : Stats
  deriving DecidableEq, Repr

/-- A pattern matches the selector of a violation or its place. -/
def Violation.isIgnored (patterns : List Pattern) (v : Violation) : Bool :=
  patterns.any fun p => p.isMatch v.location.method.selector || p.isMatch v.location.text

/-- The report without what the patterns match. -/
def Report.without (patterns : List Pattern) (r : Report) : Report :=
  { r with violations := r.violations.filter (!·.isIgnored patterns) }

/-- The summary of a batch, without what the patterns match. -/
def Batch.summarize (root : Path) (patterns : List Pattern) (b : Batch) : Summary :=
  let units := b.reports.map (·.without patterns)
  let violations := units.flatMap (·.violations)
  ⟨root, units, violations, b.skipped, .of units violations⟩

namespace Request

def selectRules (r : Request) : Except Refusal (List Rule) :=
  if r.rules.isEmpty then .ok Rule.all else (Rule.select r.rules).mapError .rules

def readPattern (text : String) : Except Refusal Pattern :=
  (Pattern.parse text).mapError (.pattern text)

def findDumps (t : FileTree) (r : Request) : Except Refusal (List Path) :=
  match t.dumps? r.root r.exclude with
  | some files => .ok files
  | none => .error (.missing r.root)

/-- What has to be known before anything is analyzed. -/
structure Plan where
  rules : List Rule
  patterns : List Pattern
  files : List Path

/-- Rules come first, then patterns, then the root. -/
def plan (t : FileTree) (r : Request) : Except Refusal Plan := do
  let rules ← r.selectRules
  let patterns ← r.ignore.mapM readPattern
  let files ← r.findDumps t
  return ⟨rules, patterns, files⟩

end Request

/-- What happened in a run: the cache found, what came of each file, why the new cache was not
saved, whether it was too large to be kept, and the tree and the summary at the end. -/
structure Run where
  rules : List Rule
  found : Cache.Found
  results : List (Path × FileResult)
  unsaved : Option Failure
  oversized : Bool
  tree : FileTree
  summary : Except Refusal Summary

namespace Request

/-- Analyzes the files of a plan with the cache. -/
def runCached (stamp : Stamp) (t : FileTree) (r : Request) (p : Plan) : Run :=
  let found := Cache.look t r.root p.rules
  let cleared := found.clear t r.root
  match refresh stamp cleared r.root p.rules found.cache? p.files with
  | .error f => ⟨p.rules, found, [], none, false, cleared, .error (.analysis f)⟩
  | .ok pass =>
    ⟨p.rules, found, pass.results, pass.unsaved, pass.oversized, pass.tree,
      .ok (pass.batch.summarize r.root p.patterns)⟩

/-- Analyzes the files of a plan without the cache. -/
def runPlain (t : FileTree) (r : Request) (p : Plan) : Run :=
  let results := examineFiles t p.rules none p.files
  let summary := match Batch.ofResults results with
    | .error f => .error (.analysis f)
    | .ok b => .ok (b.summarize r.root p.patterns)
  ⟨p.rules, .absent, results, none, false, t, summary⟩

def run (stamp : Stamp) (t : FileTree) (r : Request) : Run :=
  match r.plan t with
  | .error refusal => ⟨[], .absent, [], none, false, t, .error refusal⟩
  | .ok p => if r.useCache then r.runCached stamp t p else r.runPlain t p

end Request

namespace Summary

def hasViolations (s : Summary) : Bool := !s.violations.isEmpty

def toJson (s : Summary) : Json :=
  .object [
    ("stats", s.stats.toJson),
    ("violations", .list (s.violations.map Violation.toJson)),
    ("skipped", .list (s.skipped.map Skipped.toJson))]

/-- A violation on a line of its own. -/
def violationLine (v : Violation) : String :=
  let line := match v.location.line with
    | some l => toString l.toNat ++ ": "
    | none => ""
  "  " ++ line ++ v.location.symbol ++ " [" ++ v.rule ++ "] P" ++ toString v.priority.toNat ++
    " " ++ v.message

/-- The violations, under the name of their file where it changes. -/
def violationLines (file : Option String) : List Violation → List String
  | [] => []
  | v :: rest =>
    let f := v.location.file
    (if file = some f then [] else [f]) ++ violationLine v :: violationLines (some f) rest

def lines (s : Summary) : List String :=
  (if s.violations.isEmpty then ["No violations found."]
    else ("VIOLATIONS (" ++ toString s.violations.length ++ "):") ::
      violationLines none s.violations) ++
  (if s.skipped.isEmpty then []
    else ("SKIPPED (" ++ toString s.skipped.length ++ "):") ::
      s.skipped.map fun d => "- " ++ d.path ++ ": " ++ d.reason) ++
  [toString s.stats.units ++ " units, " ++ toString s.stats.methods ++ " methods, " ++
    toString s.stats.unused ++ " unused, " ++ toString s.stats.possiblyUsed ++ " possibly used"]

/-- The text of a summary. -/
def plain (s : Summary) : String := String.join (s.lines.map (· ++ "\n"))

/-- The summary as a JSON text, keys in order. -/
def json (s : Summary) : String := s.toJson.sortKeys.pretty ++ "\n"

end Summary

end MethodAudit
