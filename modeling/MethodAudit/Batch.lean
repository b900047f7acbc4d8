import MethodAudit.Cache

/-!
Analyzing files of a tree, each on its own. With a cache, a dump whose text has not changed
keeps its report.
-/

namespace MethodAudit

/-- What came of one file. -/
inductive FileResult
  | unreadable (problem : IoProblem)
  | reused (unit : CachedUnit)
  | examined (text : String) (result : Except Failure Examined)

namespace FileResult

/-- Looks at a file, with an older cache or none. -/
def ofFile (t : FileTree) (rules : List Rule) (old : Option Cache) (p : Path) : FileResult :=
  match t.readText p with
  | .error problem => .unreadable problem
  | .ok text =>
    match old.bind (·.find? p.text) with
    | none => .examined text (examine rules p text)
    | some u =>
      if u.digest = Digest.ofText text then .reused u else .examined text (examine rules p text)

def outcome (p : Path) : FileResult → Except Failure Outcome
  | .unreadable problem => Outcome.settle p (.error (.io p problem))
  | .reused u => .ok (.analyzed u.report)
  | .examined _ result => Outcome.settle p (result.map (·.report))

/-- What the next cache keeps of it. -/
def kept? (p : Path) : FileResult → Option (String × CachedUnit)
  | .unreadable _ => none
  | .reused u => some (p.text, u)
  | .examined text (.ok e) => some (p.text, ⟨Digest.ofText text, e.report⟩)
  | .examined _ (.error _) => none

end FileResult

/-- The reports on some files, and the files left out. -/
structure Batch where
  reports : List Report
  skipped : List Skipped
  deriving DecidableEq, Repr

def Batch.ofOutcomes (os : List Outcome) : Batch :=
  ⟨os.filterMap Outcome.report?, os.filterMap Outcome.skipped?⟩

/-- Looks at files one after the other. -/
def examineFiles (t : FileTree) (rules : List Rule) (old : Option Cache) (files : List Path) :
    List (Path × FileResult) :=
  files.map fun p => (p, .ofFile t rules old p)

/-- The batch of some results; a failure that is not of one dump alone ends it. -/
def Batch.ofResults (rs : List (Path × FileResult)) : Except Failure Batch := do
  return .ofOutcomes (← rs.mapM fun (p, r) => r.outcome p)

/-- What comes of one file. -/
def judgeFile (t : FileTree) (rules : List Rule) (p : Path) : Except Failure Outcome :=
  (FileResult.ofFile t rules none p).outcome p

/-- Analyzes files without a cache. -/
def judgeFiles (t : FileTree) (rules : List Rule) (files : List Path) : Except Failure Batch :=
  Batch.ofResults (examineFiles t rules none files)

/-- What a run takes from outside: the time, and a name for a draft that nothing else has. -/
structure Stamp where
  time : UInt64
  scratch : String

/-- The cache that results leave. -/
def Cache.ofResults (rules : List Rule) (now : UInt64) (rs : List (Path × FileResult)) : Cache :=
  ⟨.current rules now, ofEntries (rs.filterMap fun (p, r) => r.kept? p)⟩

/-- Files analyzed with a cache: the results, the tree with the new cache in it, why that could
not be saved, if so, and whether it was too large to be kept. -/
structure Pass where
  results : List (Path × FileResult)
  batch : Batch
  tree : FileTree
  unsaved : Option Failure
  oversized : Bool

/-- Analyzes files with an older cache and saves the new one. That it cannot be saved does not
change the batch. -/
def refresh (stamp : Stamp) (t : FileTree) (root : Path) (rules : List Rule) (old : Option Cache)
    (files : List Path) : Except Failure Pass := do
  let results := examineFiles t rules old files
  let batch ← Batch.ofResults results
  let cache := Cache.ofResults rules stamp.time results
  let saved := Cache.save t root stamp.scratch cache
  let unsaved := match saved.2 with
    | .ok () => none
    | .error f => some f
  let oversized := unsaved.isNone && cache.isOversized
  return { results, batch, tree := saved.1, unsaved, oversized }

end MethodAudit
