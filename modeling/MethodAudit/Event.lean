import MethodAudit.Run

/-!
The log of a run: what is worth telling about each file, the cache and the whole.
-/

namespace MethodAudit

inductive Level
  | error
  | warn
  | info
  | debug
  deriving DecidableEq, Repr

def Level.name : Level → String
  | .error => "ERROR"
  | .warn => "WARN"
  | .info => "INFO"
  | .debug => "DEBUG"

/-- How much is told at a level, more at higher ones. -/
def Level.rank : Level → Nat
  | .error => 1
  | .warn => 2
  | .info => 3
  | .debug => 4

structure Event where
  level : Level
  fields : List (String × Json)

namespace Event

/-- An event with a message. -/
def said (level : Level) (message : String) (fields : List (String × Json)) : Event :=
  ⟨level, ("message", .string message) :: fields⟩

def skipping (p : Path) (f : Failure) : Event :=
  said .warn "skipping dump" [("dump", .string p.text), ("reason", .string f.message)]

/-- The verdicts on the methods of a unit. -/
def ofVerdicts (u : SourceUnit) : List Event :=
  u.verdicts.flatMap fun (i, ds) => ds.map fun (d, v) =>
    said .debug "method verdict"
      [("method", .string (d.method.symbol i.title)), ("verdict", .string v.name)]

def ofExamined (rules : List Rule) (e : Examined) : List Event :=
  (if rules.contains .methodIsUsed then ofVerdicts e.unit else []) ++
  [said .debug "unit analyzed" [
    ("file", .string e.report.file),
    ("implementations", .nat e.report.implementations),
    ("violations", .nat e.report.violations.length)]]

def ofResult (rules : List Rule) (p : Path) : FileResult → List Event
  | .unreadable problem => [skipping p (.io p problem)]
  | .reused _ => []
  | .examined _ (.ok e) => ofExamined rules e
  | .examined _ (.error f) => if f.isRecoverable then [skipping p f] else []

def ofFound (p : Path) : Cache.Found → List Event
  | .corrupt f =>
    [said .warn "corrupted cache ignored"
      [("cache", .string p.text), ("error", .string f.message)]]
  | .incompatible i =>
    [said .info "cache incompatible, rebuilding"
      [("cached_version", .nat i.version.toNat), ("cached_deadsel", .string i.tool)]]
  | .absent | .unreadable | .usable _ => []

def ofSummary (s : Summary) : Event :=
  said .info "analysis complete" [
    ("units", .nat s.stats.units),
    ("methods", .nat s.stats.methods),
    ("violations", .nat s.stats.violations),
    ("skipped", .nat s.skipped.length)]

/-- That the new cache was too large to be kept. -/
def clearing : Event :=
  said .warn "cache exceeds size limit, clearing" [("limit_mb", .nat (Cache.maxSize / 1000000))]

/-- Everything about a run whose cache is looked for at `p`. -/
def ofRun (p : Path) (r : Run) : List Event :=
  ofFound p r.found ++ (r.results.flatMap fun (q, f) => ofResult r.rules q f) ++
  (if r.oversized then [clearing] else []) ++
  (r.unsaved.toList.map fun f => said .warn "cache save failed" [("error", .string f.message)]) ++
  (r.summary.toOption.toList.map ofSummary)

end Event

end MethodAudit
