import Std.Data.TreeMap

/-!
Tables of declarations that are found by name. A name may be declared many times but defined
once; its definition takes the place of a forward declaration.
-/

namespace MethodAudit

/-- Declarations that have a name and may be forward. -/
class Declaration (α : Type) where
  name : α → String
  forward : α → Bool

/-- Declarations in the order of their first mention, with the position of each name. -/
structure NameTable (α : Type) where
  decls : Array α
  index : Std.TreeMap String Nat

namespace NameTable

variable {α : Type} [Declaration α]

open Declaration (name forward)

def empty : NameTable α := ⟨#[], ∅⟩

/-- Any declaration of a name. -/
def find? (t : NameTable α) (n : String) : Option α :=
  t.index[n]?.bind fun i => t.decls[i]?

/-- The definition of a name; a forward declaration is none. -/
def definition? (t : NameTable α) (n : String) : Option α :=
  (t.find? n).filter fun d => !forward d

/-- Adds the declaration of a name that has none. -/
def push (t : NameTable α) (d : α) : NameTable α :=
  ⟨t.decls.push d, t.index.insert (name d) t.decls.size⟩

/-- Adds a declaration; the error is the name that would have two definitions. -/
def declare (t : NameTable α) (d : α) : Except String (NameTable α) :=
  match t.index[name d]? with
  | none => .ok (t.push d)
  | some i =>
    match t.decls[i]? with
    | none => .ok t
    | some old =>
      if forward d then .ok t
      else if forward old then .ok { t with decls := t.decls.setIfInBounds i d }
      else .error (name d)

def declareAll (t : NameTable α) (ds : List α) : Except String (NameTable α) :=
  ds.foldlM declare t

omit [Declaration α] in
theorem mem_of_find? {t : NameTable α} {n : String} {d : α} (h : t.find? n = some d) :
    d ∈ t.decls.toList := by
  obtain ⟨i, -, hi⟩ := Option.bind_eq_some_iff.1 h
  obtain ⟨hlt, rfl⟩ := Array.getElem?_eq_some_iff.1 hi
  simp

theorem mem_of_definition? {t : NameTable α} {n : String} {d : α}
    (h : t.definition? n = some d) : d ∈ t.decls.toList := by
  unfold definition? at h
  cases hf : t.find? n with
  | none => simp [hf] at h
  | some e =>
    rw [hf] at h
    simp only [Option.filter] at h
    split at h
    · cases h; exact mem_of_find? hf
    · cases h

end NameTable

end MethodAudit
