import Std.Time.DateTime.Timestamp
import MethodAudit.CommandLine

/-!
The program on real files. The files of the root are taken in, the run is worked out on them,
and what it did to the cache is written back.
-/

namespace MethodAudit

/-- The content of a file matters if it can be a dump, a cache or the settings. -/
def isRead (name : String) : Bool := isDumpName name || name = Settings.fileName

/-- Folders that are not looked into; the one of the cache is. -/
def isPassedOver (name : String) : Bool :=
  excludedFolders.contains name && name ≠ Cache.folderName

/-- Takes in what is below a folder. -/
partial def takeFolder (folder : String) : IO Entry := do
  let here ← IO.currentDir
  let mut entries := []
  for e in ← (here / folder).readDir do
    if (← e.path.symlinkMetadata).type == .dir then
      let inner ← if isPassedOver e.fileName then pure .emptyFolder else takeFolder e.path.toString
      entries := (e.fileName, inner) :: entries
    else
      let content ← if isRead e.fileName then IO.FS.readBinFile e.path else pure .empty
      entries := (e.fileName, .file content) :: entries
  return .folder entries

/-- Takes in what is at a place, if there is anything. -/
def takeEntry (place : String) : IO (Option Entry) := do
  let p := (← IO.currentDir) / place
  if place = "" then return none
  else if ← p.isDir then return some (← takeFolder place)
  else if ← p.pathExists then return some (.file (← IO.FS.readBinFile place))
  else return none

/-- Puts an entry where a path leads, with every folder on the way. -/
def FileTree.graft (t : FileTree) (p : Path) (e : Entry) : FileTree :=
  let made := (t.makeFolder (if e.isFolder then p else p.parent?.getD p)).1
  match made.locate p, made.place p with
  | .ok names, _ => { made with root := made.root.put e names }
  | _, .ok (folder, name) => { made with root := made.root.put e (folder ++ [name]) }
  | _, _ => t

/-- The tree with what a run from a root may look at. -/
def takeTree (root : Path) : IO FileTree := do
  let here := (← IO.currentDir).components.filter (· ≠ "")
  let bare : FileTree := ⟨Entry.emptyFolder.put .emptyFolder here, here⟩
  let t := (← takeEntry root.text).elim bare (bare.graft root)
  if t.isFolder root then return t
  [Settings.path t root, Cache.path t root].foldlM (fun t p => do
    return (← takeEntry p.text).elim t (t.graft p)) t

/-- Brings the cache on disk to what it is in a tree. -/
def writeBack (stamp : Stamp) (root : Path) (old new : FileTree) : IO Unit := do
  let p := Cache.path old root
  match old.readBytes p, new.readBytes p with
  | .ok _, .error _ => IO.FS.removeFile p.text
  | before, .ok content =>
    if before.toOption != some content then
      let draft := p.text ++ "." ++ stamp.scratch
      IO.FS.createDirAll (Cache.folder old root).text
      IO.FS.writeBinFile draft content
      IO.FS.rename draft p.text
  | .error _, .error _ => pure ()

/-- Tells what is worth a warning. -/
def tell (events : List Event) : IO Unit := do
  for e in events do
    if e.level.rank ≤ Level.warn.rank then
      IO.eprintln (Json.object
        [("level", .string e.level.name), ("fields", .object e.fields)]).compact

end MethodAudit

open MethodAudit

def main (args : List String) : IO UInt32 := do
  let invocation := Invocation.parse args
  let now := (← Std.Time.Timestamp.now).toSecondsSinceUnixEpoch.val.toNat
  let stamp : Stamp := ⟨now.toUInt64, toString (← IO.monoNanosNow) ++ ".tmp"⟩
  let root : Path := match invocation with
    | .run o => ⟨o.path⟩
    | _ => ⟨""⟩
  let tree ← takeTree root
  let finish := invocation.execute stamp tree
  IO.print finish.output
  tell finish.events
  writeBack stamp root tree finish.tree
  if let some e := finish.error then IO.eprintln ("[ERROR] " ++ e)
  return finish.exit
