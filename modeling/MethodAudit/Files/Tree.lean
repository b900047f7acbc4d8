import MethodAudit.Files.Path
import MethodAudit.KeyedList

/-!
A tree of files and folders as a value, and the operations of a file system on it.
-/

namespace MethodAudit

/-- Why the file system refuses something. -/
inductive IoProblem
  | notFound
  | occupied
  | notFolder
  | isFolder
  | notText
  | other (text : String)
  deriving DecidableEq, Repr

def IoProblem.message : IoProblem → String
  | .notFound => "No such file or directory (os error 2)"
  | .occupied => "File exists (os error 17)"
  | .notFolder => "Not a directory (os error 20)"
  | .isFolder => "Is a directory (os error 21)"
  | .notText => "stream did not contain valid UTF-8"
  | .other text => text

inductive Entry
  | file (content : ByteArray)
  | folder (children : List (String × Entry))

namespace Entry

def emptyFolder : Entry := .folder []

def isFile : Entry → Bool
  | .file _ => true
  | .folder _ => false

def isFolder : Entry → Bool
  | .file _ => false
  | .folder _ => true

def children : Entry → List (String × Entry)
  | .file _ => []
  | .folder cs => cs

/-- The entry at a list of names below this one. -/
def get? (e : Entry) : List String → Option Entry
  | [] => some e
  | name :: rest => (e.children.lookup name).bind fun c => c.get? rest

def eraseChild (name : String) (cs : List (String × Entry)) : List (String × Entry) :=
  cs.filter (·.1 ≠ name)

/-- Puts an entry at a list of names, making the folders on the way. -/
def put (e : Entry) (new : Entry) : List String → Entry
  | [] => new
  | name :: rest =>
    let child := (e.children.lookup name).getD emptyFolder
    .folder (assign name (child.put new rest) e.children)

/-- Removes the entry at a list of names. -/
def erase (e : Entry) : List String → Entry
  | [] => emptyFolder
  | [name] => .folder (eraseChild name e.children)
  | name :: rest =>
    match e.children.lookup name with
    | none => e
    | some child => .folder (assign name (child.erase rest) e.children)

end Entry

/-- A tree, and the names from its root to the folder that relative paths start from. -/
structure FileTree where
  root : Entry
  here : List String

namespace FileTree

def empty : FileTree := ⟨.emptyFolder, []⟩

/-- Where a path starts. -/
def origin (t : FileTree) (p : Path) : List String := if p.isAbsolute then [] else t.here

/-- The names from the root to the entry of a path, `names` being those of the segments so
far. Every segment has to stand in a folder. -/
def follow (t : FileTree) (names : List String) : List String → Except IoProblem (List String)
  | [] => if (t.root.get? names).isSome then .ok names else .error .notFound
  | s :: rest =>
    match t.root.get? names with
    | none => .error .notFound
    | some (.file _) => .error .notFolder
    | some (.folder _) =>
      if s = "" || s = "." then t.follow names rest
      else if s = ".." then t.follow names.dropLast rest
      else t.follow (names ++ [s]) rest

/-- The names from the root to the entry of a path. -/
def locate (t : FileTree) (p : Path) : Except IoProblem (List String) :=
  if p.text = "" then .error .notFound else t.follow (t.origin p) p.segments

def get? (t : FileTree) (p : Path) : Option Entry :=
  match t.locate p with
  | .ok names => t.root.get? names
  | .error _ => none

def exists? (t : FileTree) (p : Path) : Bool := (t.get? p).isSome

def isFile (t : FileTree) (p : Path) : Bool := (t.get? p).any Entry.isFile

def isFolder (t : FileTree) (p : Path) : Bool := (t.get? p).any Entry.isFolder

def readBytes (t : FileTree) (p : Path) : Except IoProblem ByteArray := do
  match t.root.get? (← t.locate p) with
  | some (.file content) => .ok content
  | some (.folder _) => .error .isFolder
  | none => .error .notFound

def readText (t : FileTree) (p : Path) : Except IoProblem String := do
  match String.fromUTF8? (← t.readBytes p) with
  | some s => .ok s
  | none => .error .notText

/-- Where a new file of a path belongs: the names of its folder and its own name. -/
def place (t : FileTree) (p : Path) : Except IoProblem (List String × String) := do
  let segments := p.segments
  let name := segments.getLastD ""
  if p.text = "" then .error .notFound
  let folder ← t.follow (t.origin p) segments.dropLast
  if !(t.root.get? folder).any Entry.isFolder then .error .notFolder
  else if name = "" || name = "." || name = ".." then .error .isFolder
  else return (folder, name)

/-- Writes a file into an existing folder. -/
def write (t : FileTree) (p : Path) (content : ByteArray) : Except IoProblem FileTree := do
  let (folder, name) ← t.place p
  let names := folder ++ [name]
  if (t.root.get? names).any Entry.isFolder then .error .isFolder
  else return { t with root := t.root.put (.file content) names }

/-- Moves a file to another name; a folder is not replaced. -/
def rename (t : FileTree) (source target : Path) : Except IoProblem FileTree := do
  let content ← t.readBytes source
  let names ← t.locate source
  let t' ← t.write target content
  let new ← t'.locate target
  return if names = new then t' else { t' with root := t'.root.erase names }

/-- Removes a file or a folder with all below it. -/
def remove (t : FileTree) (p : Path) : Except IoProblem FileTree := do
  let names ← t.locate p
  return { t with root := t.root.erase names }

/-- Removes the file at a path; where there is none, nothing happens. -/
def discard (t : FileTree) (p : Path) : FileTree :=
  if t.isFile p then (t.remove p).toOption.getD t else t

/-- Makes the folders of a list of segments below `names`, as far as nothing is in the way. -/
def makeFolders (t : FileTree) (names : List String) : List String → FileTree × Option IoProblem
  | [] => (t, none)
  | s :: rest =>
    if s = "" || s = "." then t.makeFolders names rest
    else if s = ".." then t.makeFolders names.dropLast rest
    else
      let names := names ++ [s]
      match t.root.get? names with
      | some (.folder _) => t.makeFolders names rest
      | some (.file _) => (t, some (if rest = [] then .occupied else .notFolder))
      | none => FileTree.makeFolders { t with root := t.root.put .emptyFolder names } names rest

/-- Makes a folder and the folders above it. -/
def makeFolder (t : FileTree) (p : Path) : FileTree × Option IoProblem :=
  t.makeFolders (t.origin p) p.segments

mutual

/-- The paths of everything below an entry, with a slash after a folder. -/
def listing (place : String) : Entry → List String
  | .file _ => []
  | .folder cs => listings place cs

def listings (place : String) : List (String × Entry) → List String
  | [] => []
  | (name, e) :: rest =>
    match e with
    | .file _ => (place ++ name) :: listings place rest
    | .folder cs =>
      (place ++ name ++ "/") :: listings (place ++ name ++ "/") cs ++ listings place rest

end

/-- Everything below the folder that relative paths start from, sorted. -/
def contents (t : FileTree) : List String :=
  ((t.root.get? t.here).elim [] (listing "")).mergeSort fun a b => a ≤ b

end FileTree

end MethodAudit
