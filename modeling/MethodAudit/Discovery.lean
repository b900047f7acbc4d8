import MethodAudit.Files.Tree

/-!
Finding the dumps below a root.
-/

namespace MethodAudit

/-- Folders that hold no dumps of their own. -/
def excludedFolders : List String := [".git", ".deadsel", "target", "node_modules", "DerivedData"]

def isDumpName (name : String) : Bool := extension? name = some "json"

/-- The dumps among the entries of a folder and below them. -/
def dumpsIn (excluded : List String) (folder : Path) : List (String × Entry) → List Path
  | [] => []
  | (name, .file _) :: rest =>
    (if isDumpName name then [folder.join name] else []) ++ dumpsIn excluded folder rest
  | (name, .folder inner) :: rest =>
    (if excluded.contains name then [] else dumpsIn excluded (folder.join name) inner) ++
      dumpsIn excluded folder rest

/-- The dumps of a root, in order; a file stands for itself. There is no answer if the root
does not exist. -/
def FileTree.dumps? (t : FileTree) (root : Path) (exclude : List String) : Option (List Path) :=
  match t.get? root with
  | none => none
  | some (.file _) => some [root]
  | some (.folder entries) => some (Path.sort (dumpsIn (excludedFolders ++ exclude) root entries))

end MethodAudit
