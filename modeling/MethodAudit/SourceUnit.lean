import MethodAudit.Dump
import MethodAudit.NameTable

/-!
Resolved units: the declarations of a dump, each name declared once, and tables to find them.

Resolving folds forward declarations into definitions, refuses a second definition, and
declares every class that is only mentioned.
-/

namespace MethodAudit

instance : Declaration Interface := ⟨Interface.name, Interface.forward⟩

instance : Declaration Protocol := ⟨Protocol.name, Protocol.forward⟩

/-- `categoryIndex` has, for the name of a class, the positions of its categories. -/
structure SourceUnit where
  file : String
  interfaces : NameTable Interface
  protocols : NameTable Protocol
  categories : Array Category
  categoryIndex : Std.TreeMap String (List Nat)
  implementations : List Implementation

/-- A second definition of a name. -/
inductive Duplicate
  | interface (name : String)
  | protocol (name : String)
  deriving DecidableEq, Repr

def Duplicate.message : Duplicate → String
  | .interface name => "duplicate definition of interface " ++ name
  | .protocol name => "duplicate definition of protocol " ++ name

/-- The class an implementation is for, and the classes named as receivers in its bodies. -/
def Implementation.classNames (i : Implementation) : List String :=
  i.className.toList ++ i.methods.flatMap fun d => Stmt.receiverTypes d.body

/-- The classes that are mentioned: as superclasses, then by each implementation. -/
def referencedClasses (interfaces : List Interface) (implementations : List Implementation) :
    List String :=
  interfaces.filterMap Interface.superclass ++ implementations.flatMap Implementation.classNames

/-- Declares a class that is mentioned, unless it is declared already. -/
def NameTable.mention (t : NameTable Interface) (name : String) : NameTable Interface :=
  if t.index.contains name then t else t.push (.named name)

def indexCategories (cs : List Category) : Std.TreeMap String (List Nat) :=
  cs.zipIdx.foldl (fun m (c, i) => m.insert c.className (m.getD c.className [] ++ [i])) ∅

def Dump.resolve (d : Dump) : Except Duplicate SourceUnit := do
  let interfaces ← (NameTable.empty.declareAll d.interfaces).mapError .interface
  let protocols ← (NameTable.empty.declareAll d.protocols).mapError .protocol
  let mentioned := referencedClasses interfaces.decls.toList d.implementations
  return {
    file := d.file
    interfaces := mentioned.foldl NameTable.mention interfaces
    protocols := protocols
    categories := d.categories.toArray
    categoryIndex := indexCategories d.categories
    implementations := d.implementations }

namespace SourceUnit

/-- The unit as a dump of its own. -/
def toDump (u : SourceUnit) : Dump where
  file := u.file
  interfaces := u.interfaces.decls.toList
  protocols := u.protocols.decls.toList
  categories := u.categories.toList
  implementations := u.implementations

/-- Any declaration of a class, forward or not. -/
def interface? (u : SourceUnit) (name : String) : Option Interface := u.interfaces.find? name

/-- The definition of a class. -/
def definition? (u : SourceUnit) (name : String) : Option Interface :=
  u.interfaces.definition? name

def superclass? (u : SourceUnit) (i : Interface) : Option Interface :=
  i.superclass.bind u.interface?

/-- The definition of a protocol. -/
def protocol? (u : SourceUnit) (name : String) : Option Protocol := u.protocols.definition? name

/-- The categories of a class, in order. -/
def categoriesOf (u : SourceUnit) (className : String) : List Category :=
  (u.categoryIndex.getD className []).filterMap fun i => u.categories[i]?

/-- The number of implemented methods. -/
def methodCount (u : SourceUnit) : Nat := (u.implementations.flatMap (·.methods)).length

end SourceUnit

end MethodAudit
