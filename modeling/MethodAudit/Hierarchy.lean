import MethodAudit.SourceUnit

/-!
Superclass chains. A chain may run in a circle; a walk along it stops at the first name that
comes again. What is left to visit bounds every walk.
-/

namespace MethodAudit

/-- The number of members of a list whose key has not been visited. -/
def remaining (key : α → String) (visited : List String) (xs : List α) : Nat :=
  xs.countP fun x => key x ∉ visited

theorem remaining_lt {key : α → String} {visited : List String} {xs : List α} {x : α}
    (hx : x ∈ xs) (hv : key x ∉ visited) :
    remaining key (key x :: visited) xs < remaining key visited xs := by
  induction xs with
  | nil => simp at hx
  | cons y ys ih =>
    have hle : remaining key (key x :: visited) ys ≤ remaining key visited ys :=
      List.countP_mono_left fun z _ hz => by simp_all
    simp only [remaining, List.countP_cons] at ih hle ⊢
    rcases List.mem_cons.1 hx with rfl | hx
    · simp [hv] at hle ⊢
      omega
    · have := ih hx
      by_cases hy : key y ∈ visited <;> by_cases hyx : key y = key x <;> grind

/-- How the static type of a receiver relates to the class that implements a method. -/
inductive ReceiverMatch
  | compatible
  | incompatible
  | unknown
  deriving DecidableEq, Repr

namespace SourceUnit

/-- The chain that goes on with the class of a name, `seen` being the names before it. -/
def chain (u : SourceUnit) (seen : List String) (next : Option String) : List Interface :=
  match _h : next.bind u.interface? with
  | none => []
  | some i =>
    if _hs : i.name ∈ seen then []
    else i :: u.chain (i.name :: seen) i.superclass
termination_by remaining Interface.name seen u.interfaces.decls.toList
decreasing_by
  obtain ⟨n, -, hn⟩ := Option.bind_eq_some_iff.1 _h
  exact remaining_lt (NameTable.mem_of_find? hn) _hs

/-- A class and its superclasses, up to the first that comes again. -/
def ancestors (u : SourceUnit) (i : Interface) : List Interface :=
  i :: u.chain [i.name] i.superclass

/-- The classes at which a search for a superclass ends. -/
def rootClasses : List String := ["NSObject", "NSProxy"]

/-- The chain that goes on with the class of a name reaches `target`. -/
def reaches (u : SourceUnit) (target : String) (seen : List String) (next : Option String) : Bool :=
  match _h : next.bind u.interface? with
  | none => false
  | some i =>
    if i.name = target then true
    else if _hs : i.name ∈ rootClasses ∨ i.name ∈ seen then false
    else u.reaches target (i.name :: seen) i.superclass
termination_by remaining Interface.name seen u.interfaces.decls.toList
decreasing_by
  obtain ⟨n, -, hn⟩ := Option.bind_eq_some_iff.1 _h
  exact remaining_lt (NameTable.mem_of_find? hn) fun hm => _hs (.inr hm)

/-- The class is `target` or one of its subclasses; the search does not go past a root class. -/
def isKindOf (u : SourceUnit) (i : Interface) (target : String) : Bool :=
  if i.name = target then true
  else if i.name ∈ rootClasses then false
  else u.reaches target [i.name] i.superclass

/-- A type without a definition cannot be followed, and an unknown class cannot be reached. -/
def matchReceiver (u : SourceUnit) (type target : Option String) : ReceiverMatch :=
  match type.bind u.definition?, target with
  | some i, some t => if u.isKindOf i t then .compatible else .incompatible
  | _, _ => .unknown

end SourceUnit

end MethodAudit
