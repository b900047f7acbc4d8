import Mathlib.Data.List.Nodup
import MethodAudit.Stmt

/-!
What stands in a body. The walks over a stack of statements meet every node at every depth,
whichever end of the children they start from. Each lists the nodes as a recursion over the tree
does that puts every statement before those below it: the one that starts from the last child has
the later of two siblings first, the one that starts from the first child the earlier. So a scan
has what stands at each place of a body, every place once.
-/

namespace MethodAudit.Stmt

/-- `s` is the given statement or stands at some depth below it. -/
inductive Within (s : Stmt) : Stmt → Prop
  | self : Within s s
  | child {a : Action} {cs : List Stmt} {t : Stmt} (ht : t ∈ cs) (h : Within s t) :
    Within s (.node a cs)

lemma within_node_iff {s : Stmt} {a : Action} {cs : List Stmt} :
    s.Within (.node a cs) ↔ s = .node a cs ∨ ∃ t ∈ cs, s.Within t := by
  constructor
  · rintro (_ | ⟨ht, h⟩)
    · exact .inl rfl
    · exact .inr ⟨_, ht, h⟩
  · rintro (rfl | ⟨t, ht, h⟩)
    · exact .self
    · exact .child ht h

lemma mem_walk {s : Stmt} (ss : List Stmt) : s ∈ walk ss ↔ ∃ t ∈ ss, s.Within t := by
  induction ss using walk.induct with
  | case1 => simp [walk]
  | case2 a cs rest ih =>
    rw [walk, List.mem_cons, ih]
    simp only [List.mem_cons, List.mem_append, or_and_right, exists_or, exists_eq_left,
      within_node_iff, or_assoc]

lemma mem_walkBack {s : Stmt} (ss : List Stmt) : s ∈ walkBack ss ↔ ∃ t ∈ ss, s.Within t := by
  induction ss using walkBack.induct with
  | case1 => simp [walkBack]
  | case2 a cs rest ih =>
    simp only [List.unattach_reverse, List.unattach_attach] at ih
    rw [walkBack, List.mem_cons, ih]
    simp only [List.mem_cons, List.mem_append, List.mem_reverse, or_and_right, exists_or,
      exists_eq_left, within_node_iff, or_assoc]

lemma mem_scan {s : Stmt} (body : Option Stmt) : s ∈ scan body ↔ ∃ b ∈ body, s.Within b := by
  simp [scan, mem_walk]

lemma mem_receiverTypes {n : String} (body : Option Stmt) :
    n ∈ receiverTypes body ↔
      ∃ b ∈ body, ∃ s : Stmt, s.Within b ∧ s.action.receiverType? = some n := by
  simp only [receiverTypes, List.mem_filterMap, mem_walkBack, Option.mem_toList, Option.mem_def]
  constructor
  · rintro ⟨s, ⟨b, hb, hs⟩, hn⟩
    exact ⟨b, hb, s, hs, hn⟩
  · rintro ⟨b, hb, s, hs, hn⟩
    exact ⟨s, ⟨b, hb, hs⟩, hn⟩

/-! ### From the last child to the first -/

mutual

/-- The statement and all that stands below it, what is below the last child first. -/
def fromLast : Stmt → List Stmt
  | .node a cs => .node a cs :: allFromLast cs

def allFromLast : List Stmt → List Stmt
  | [] => []
  | s :: ss => allFromLast ss ++ fromLast s

end

lemma allFromLast_eq (ss : List Stmt) : allFromLast ss = ss.reverse.flatMap fromLast := by
  induction ss with
  | nil => rfl
  | cons s ss ih => simp [allFromLast, ih]

/-- What is on the stack is gone through one statement after the other. -/
lemma walkBack_eq (ss : List Stmt) : walkBack ss = ss.flatMap fromLast := by
  induction ss using walkBack.induct with
  | case1 => simp [walkBack]
  | case2 a cs rest ih =>
    simp only [List.unattach_reverse, List.unattach_attach] at ih
    rw [walkBack, ih, List.flatMap_append, ← allFromLast_eq, List.flatMap_cons, fromLast,
      List.cons_append]

/-! ### From the first child to the last -/

mutual

/-- The statement and all that stands below it, what is below the first child first. -/
def preorder : Stmt → List Stmt
  | .node a cs => .node a cs :: allPreorder cs

def allPreorder : List Stmt → List Stmt
  | [] => []
  | s :: ss => preorder s ++ allPreorder ss

end

lemma allPreorder_eq (ss : List Stmt) : allPreorder ss = ss.flatMap preorder := by
  induction ss with
  | nil => rfl
  | cons s ss ih => rw [allPreorder, ih, List.flatMap_cons]

lemma preorder_eq (s : Stmt) : s.preorder = s :: s.children.flatMap preorder := by
  obtain ⟨a, cs⟩ := s
  rw [preorder, allPreorder_eq, children]

/-- What is left to list is what is on the stack, one statement after the other. -/
lemma walk_eq (ss : List Stmt) : walk ss = ss.flatMap preorder := by
  induction ss using walk.induct with
  | case1 => simp [walk]
  | case2 a cs rest ih =>
    rw [walk, ih, List.flatMap_append, List.flatMap_cons, preorder_eq, children, List.cons_append]

lemma length_walk (ss : List Stmt) : (walk ss).length = count ss := by
  induction ss using walk.induct with
  | case1 => simp [walk, count]
  | case2 a cs rest ih => rw [walk, List.length_cons, ih, count_append, count]

/-! ### Places in a statement -/

/-- The statement at a place, which says to which child to go at each level. -/
def at? (s : Stmt) : List Nat → Option Stmt
  | [] => some s
  | i :: p => s.children[i]?.bind fun c => c.at? p

/-- The statement at a place below a list of children. -/
def below? (ss : List Stmt) : List Nat → Option Stmt
  | [] => none
  | i :: p => ss[i]?.bind fun c => c.at? p

/-- A list that has what stands at each place, every place once. Equal statements may well stand
at different places. -/
def Enumerates (xs : List Stmt) (get : List Nat → Option Stmt) : Prop :=
  ∃ ps : List (List Nat), ps.Nodup ∧ (∀ p, p ∈ ps ↔ (get p).isSome) ∧ xs.map some = ps.map get

lemma enumerates_nil : Enumerates [] (below? []) := by
  refine ⟨[], .nil, fun p => ?_, rfl⟩
  cases p <;> simp [below?]

lemma Enumerates.node {a : Action} {cs xs : List Stmt} (h : Enumerates xs (below? cs)) :
    Enumerates (.node a cs :: xs) (at? (.node a cs)) := by
  obtain ⟨ps, hnodup, hmem, hlist⟩ := h
  have hbelow : ∀ p ∈ ps, at? (.node a cs) p = below? cs p := by
    intro p hp
    cases p with
    | nil => simp [hmem, below?] at hp
    | cons i p => rfl
  refine ⟨[] :: ps, List.nodup_cons.2 ⟨?_, hnodup⟩, fun p => ?_, ?_⟩
  · simp [hmem, below?]
  · cases p with
    | nil => simp [at?]
    | cons i p =>
      rw [List.mem_cons, hmem]
      simp [below?, at?, children]
  · rw [List.map_cons, List.map_cons, hlist, List.map_congr_left hbelow]
    rfl

/-- The place of a statement once another has been put before those at its level. -/
def next : List Nat → List Nat
  | [] => []
  | i :: p => (i + 1) :: p

lemma next_injective : Function.Injective next := by
  intro p q h
  cases p <;> cases q <;> simp_all [next]

lemma Enumerates.cons {s : Stmt} {ss xs ys : List Stmt} (h : Enumerates xs s.at?)
    (h' : Enumerates ys (below? ss)) : Enumerates (xs ++ ys) (below? (s :: ss)) := by
  obtain ⟨ps, hnodup, hmem, hlist⟩ := h
  obtain ⟨qs, hnodup', hmem', hlist'⟩ := h'
  have hlater : ∀ q, below? (s :: ss) (next q) = below? ss q := by
    intro q
    cases q <;> simp [next, below?]
  refine ⟨ps.map (0 :: ·) ++ qs.map next, ?_, fun p => ?_, ?_⟩
  · have hfirst : (ps.map (0 :: ·)).Nodup := hnodup.map List.cons_injective
    refine List.nodup_append.2 ⟨hfirst, hnodup'.map next_injective, ?_⟩
    simp only [List.mem_map]
    rintro _ ⟨p, -, rfl⟩ _ ⟨q, -, rfl⟩
    cases q <;> simp [next]
  · rw [List.mem_append]
    have hnil : [] ∉ qs := by simp [hmem', below?]
    rcases p with _ | ⟨_ | i, p⟩
    · -- no statement stands above the first level
      have hnext : [] ∉ qs.map next := (List.mem_map_of_injective next_injective).not.2 hnil
      simp [hnext, below?]
    · have hnext : 0 :: p ∉ qs.map next := by
        rw [List.mem_map]
        rintro ⟨q, -, hq⟩
        cases q <;> simp [next] at hq
      simp [hnext, hmem, below?]
    · have hnext : (i + 1) :: p ∈ qs.map next ↔ i :: p ∈ qs :=
        List.mem_map_of_injective next_injective (a := i :: p)
      simp [hnext, hmem', below?]
  · simp only [List.map_append, List.map_map, hlist, hlist', Function.comp_def, hlater]
    rfl

mutual

theorem enumerates_preorder : (s : Stmt) → Enumerates s.preorder s.at?
  | .node _ cs => (enumerates_allPreorder cs).node

theorem enumerates_allPreorder : (ss : List Stmt) → Enumerates (allPreorder ss) (below? ss)
  | [] => enumerates_nil
  | s :: ss => (enumerates_preorder s).cons (enumerates_allPreorder ss)

end

/-- **Scanning a body** lists a statement before those below it, and siblings in their order, as a
recursion over the tree does. It has what stands at each place once, so its length is the number of
nodes. -/
theorem scan_eq_preorder (s : Stmt) :
    scan (some s) = s.preorder ∧ s.preorder = s :: s.children.flatMap preorder ∧
      Enumerates (scan (some s)) s.at? ∧ (scan (some s)).length = count [s] := by
  have hscan : scan (some s) = s.preorder := by simp [scan, walk_eq]
  refine ⟨hscan, s.preorder_eq, ?_, length_walk [s]⟩
  rw [hscan]
  exact enumerates_preorder s

end MethodAudit.Stmt
