import MethodAudit.Hierarchy

/-!
The declared surface of a class: what its interfaces, categories and protocols declare, its own
and inherited.

Protocols may adopt one another in a circle. A search keeps the names of the protocols it has
visited without success; a search that goes on elsewhere need not visit them again.
-/

namespace MethodAudit

/-- What a search leaves: that `m` was found, or the protocols visited in vain. -/
inductive Search
  | found
  | visited (names : List String)
  deriving DecidableEq, Repr

namespace Search

def isFound : Search → Bool
  | .found => true
  | .visited _ => false

/-- Goes on with a search that has not succeeded. -/
def andThen (s : Search) (next : List String → Search) : Search :=
  match s with
  | .found => .found
  | .visited names => next names

/-- Searches one place after the other. -/
def through (search : α → List String → Search) (visited : List String) (xs : List α) : Search :=
  xs.foldl (fun s x => s.andThen (search x)) (.visited visited)

end Search

namespace SourceUnit

/-- Searches the protocols of the names, and all that they adopt, for a declaration of `m`. -/
def searchProtocols (u : SourceUnit) (m : Method) (visited : List String) :
    List String → Search
  | [] => .visited visited
  | name :: rest =>
    match _h : u.protocol? name with
    | none => u.searchProtocols m visited rest
    | some p =>
      if _hv : p.name ∈ visited then u.searchProtocols m visited rest
      else if p.body.declares m then .found
      else u.searchProtocols m (p.name :: visited) (p.body.protocols ++ rest)
termination_by names => (remaining Protocol.name visited u.protocols.decls.toList, names.length)
decreasing_by
  · exact Prod.Lex.right _ (by simp)
  · exact Prod.Lex.right _ (by simp)
  · exact Prod.Lex.left _ _ (remaining_lt (NameTable.mem_of_definition? _h) _hv)

/-- The body or a protocol that it adopts declares `m`. -/
def searchBody (u : SourceUnit) (m : Method) (b : Body) (visited : List String) : Search :=
  if b.declares m then .found else u.searchProtocols m visited b.protocols

/-- The class itself, or a protocol that it or one of its superclasses adopts, declares `m`. -/
def searchInterface (u : SourceUnit) (m : Method) (i : Interface) (visited : List String) :
    Search :=
  if i.body.declares m then .found
  else
    Search.through (fun a visited => u.searchProtocols m visited a.body.protocols) visited
      (u.ancestors i)

/-- The definition of a class or one of its categories declares `m`. A class without a
definition declares nothing. -/
def searchClass (u : SourceUnit) (m : Method) (i : Interface) (visited : List String) : Search :=
  match u.definition? i.name with
  | none => .visited visited
  | some d =>
    (u.searchInterface m d visited).andThen fun visited =>
      Search.through (fun (c : Category) => u.searchBody m c.body) visited (u.categoriesOf d.name)

def protocolDeclares (u : SourceUnit) (p : Protocol) (m : Method) : Bool :=
  (if p.body.declares m then Search.found
    else u.searchProtocols m [p.name] p.body.protocols).isFound

def interfaceDeclares (u : SourceUnit) (i : Interface) (m : Method) : Bool :=
  (u.searchInterface m i []).isFound

def categoryDeclares (u : SourceUnit) (c : Category) (m : Method) : Bool :=
  (u.searchBody m c.body []).isFound

/-- The class or one of its superclasses declares `m`, in its definition or in a category. -/
def hierarchyDeclares (u : SourceUnit) (i : Interface) (m : Method) : Bool :=
  (Search.through (u.searchClass m) [] (u.ancestors i)).isFound

/-- The same for the class of a name; an unknown name declares nothing. -/
def classDeclares (u : SourceUnit) (className : String) (m : Method) : Bool :=
  (u.interface? className).any fun i => u.hierarchyDeclares i m

end SourceUnit

end MethodAudit
