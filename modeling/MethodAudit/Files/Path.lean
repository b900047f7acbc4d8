/-!
Paths of files, kept as they are written and compared by their components.
-/

namespace MethodAudit

structure Path where
  text : String
  deriving DecidableEq, Repr

namespace Path

/-- The parts between the slashes. -/
def segments (p : Path) : List String := (p.text.toList.splitOn '/').map String.ofList

def isAbsolute (p : Path) : Bool := p.text.startsWith "/"

/-- What a part of a path stands for; components are in this order. -/
inductive Component
  | root
  | current
  | parent
  | normal (name : String)
  deriving DecidableEq, Repr

/-- The component a segment stands for, given its position. Empty segments stand for none,
and a dot only does at the front. -/
def component? (segment : String) (index : Nat) (absolute : Bool) : Option Component :=
  if segment = "" then if index = 0 && absolute then some .root else none
  else if segment = "." then if index = 0 then some .current else none
  else if segment = ".." then some .parent
  else some (.normal segment)

/-- The components with the positions of their segments. -/
def placed (p : Path) : List (Component × Nat) :=
  p.segments.zipIdx.filterMap fun (s, i) => (component? s i p.isAbsolute).map (·, i)

def components (p : Path) : List Component := p.placed.map (·.1)

def Component.rank : Component → Nat
  | .root => 0
  | .current => 1
  | .parent => 2
  | .normal _ => 3

def Component.le : Component → Component → Bool
  | .normal a, .normal b => a ≤ b
  | a, b => a.rank ≤ b.rank

/-- The order of lists of components: by the first that differ, a shorter list first. -/
def componentsLe : List Component → List Component → Bool
  | [], _ => true
  | _ :: _, [] => false
  | a :: as, b :: bs => if a = b then componentsLe as bs else a.le b

def le (p q : Path) : Bool := componentsLe p.components q.components

def sort (ps : List Path) : List Path := ps.mergeSort le

/-- A name below a path, with one slash between. -/
def join (p : Path) (name : String) : Path :=
  if name.startsWith "/" then ⟨name⟩
  else if p.text = "" || p.text.endsWith "/" then ⟨p.text ++ name⟩
  else ⟨p.text ++ "/" ++ name⟩

/-- The path without its last component, if it has one that names something. -/
def parent? (p : Path) : Option Path :=
  match p.placed.reverse with
  | [] | (.root, _) :: _ => none
  | _ :: [] => some ⟨""⟩
  | _ :: (.root, _) :: _ => some ⟨"/"⟩
  | _ :: (_, i) :: _ => some ⟨"/".intercalate (p.segments.take (i + 1))⟩

end Path

/-- What follows the last dot of a file's name; a dot at the front starts no extension. -/
def extension? (name : String) : Option String :=
  let cs := name.toList.reverse
  let ext := (cs.takeWhile (· ≠ '.')).reverse
  match cs.dropWhile (· ≠ '.') with
  | _ :: _ :: _ => if name = ".." then none else some (String.ofList ext)
  | _ => none

end MethodAudit
