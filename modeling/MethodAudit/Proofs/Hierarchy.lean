import MethodAudit.Hierarchy
import MethodAudit.Proofs.Resolved

/-!
The walks along superclass chains, one step at a time, and what they meet.
-/

namespace MethodAudit.SourceUnit

variable {u : SourceUnit} {seen : List String} {next : Option String}

lemma chain_end (h : next.bind u.interface? = none) : u.chain seen next = [] := by
  rw [chain]
  split
  · rfl
  · simp_all

lemma chain_step {i : Interface} (h : next.bind u.interface? = some i) :
    u.chain seen next =
      if i.name ∈ seen then [] else i :: u.chain (i.name :: seen) i.superclass := by
  rw [chain]
  split
  · simp_all
  · next j hj =>
    cases h.symm.trans hj
    rfl

lemma reaches_end {target : String} (h : next.bind u.interface? = none) :
    u.reaches target seen next = false := by
  rw [reaches]
  split
  · rfl
  · simp_all

lemma reaches_step {target : String} {i : Interface} (h : next.bind u.interface? = some i) :
    u.reaches target seen next =
      if i.name = target then true
      else if i.name ∈ rootClasses ∨ i.name ∈ seen then false
      else u.reaches target (i.name :: seen) i.superclass := by
  rw [reaches]
  split
  · simp_all
  · next j hj =>
    cases h.symm.trans hj
    rfl

lemma mem_decls_of_next {i : Interface} (h : next.bind u.interface? = some i) :
    i ∈ u.interfaces.decls.toList := by
  obtain ⟨n, -, hn⟩ := Option.bind_eq_some_iff.1 h
  exact NameTable.mem_of_find? hn

lemma mem_chain {x : Interface} (hx : x ∈ u.chain seen next) :
    x ∈ u.interfaces.decls.toList := by
  induction seen, next using chain.induct u with
  | case1 seen next h =>
    rw [chain_end h] at hx
    cases hx
  | case2 seen next i h hs =>
    rw [chain_step h, if_pos hs] at hx
    cases hx
  | case3 seen next i h hs ih =>
    rw [chain_step h, if_neg hs] at hx
    rcases List.mem_cons.1 hx with rfl | hx
    · exact mem_decls_of_next h
    · exact ih hx

/-- Ancestors of a class of the unit are classes of the unit. -/
lemma mem_ancestors {i x : Interface} (hi : i ∈ u.interfaces.decls.toList)
    (hx : x ∈ u.ancestors i) : x ∈ u.interfaces.decls.toList := by
  rcases List.mem_cons.1 hx with rfl | hx
  · exact hi
  · exact mem_chain hx

/-! ### What stands above a class -/

/-- The class of the name is `c` or stands on the chain of superclasses above it. -/
inductive Inherits (u : SourceUnit) (c : String) : String → Prop
  | self : Inherits u c c
  | up {n k : String} {x : Interface} (h : Inherits u c n) (hx : u.interface? n = some x)
      (hk : x.superclass = some k) : Inherits u c k

/-- A walk meets the class it goes on with, or has met it before. -/
lemma mem_seen_or_chain {y : Interface} (h : next.bind u.interface? = some y) :
    y.name ∈ seen ∨ ∃ z ∈ u.chain seen next, z.name = y.name := by
  rw [chain_step h]
  split_ifs with hseen
  · exact .inl hseen
  · exact .inr ⟨y, List.mem_cons_self, rfl⟩

/-- The same holds of the superclass of every class that it meets. -/
lemma mem_seen_or_chain_of_superclass {x y : Interface} (hx : x ∈ u.chain seen next)
    (hy : x.superclass.bind u.interface? = some y) :
    y.name ∈ seen ∨ ∃ z ∈ u.chain seen next, z.name = y.name := by
  induction seen, next using chain.induct u with
  | case1 seen next h =>
    rw [chain_end h] at hx
    cases hx
  | case2 seen next i h hs =>
    rw [chain_step h, if_pos hs] at hx
    cases hx
  | case3 seen next i h hs ih =>
    rw [chain_step h, if_neg hs] at hx ⊢
    have habove : y.name ∈ i.name :: seen ∨
        ∃ z ∈ u.chain (i.name :: seen) i.superclass, z.name = y.name := by
      rcases List.mem_cons.1 hx with rfl | hx
      · exact mem_seen_or_chain hy
      · exact ih hx
    rcases habove with hmem | ⟨z, hz, hzy⟩
    · rcases List.mem_cons.1 hmem with heq | hmem
      · exact .inr ⟨i, List.mem_cons_self, heq.symm⟩
      · exact .inl hmem
    · exact .inr ⟨z, List.mem_cons_of_mem i hz, hzy⟩

lemma exists_mem_ancestors_of_superclass {i x y : Interface} (hx : x ∈ u.ancestors i)
    (hy : x.superclass.bind u.interface? = some y) : ∃ z ∈ u.ancestors i, z.name = y.name := by
  have habove : y.name ∈ [i.name] ∨ ∃ z ∈ u.chain [i.name] i.superclass, z.name = y.name := by
    rcases List.mem_cons.1 hx with rfl | hx
    · exact mem_seen_or_chain hy
    · exact mem_seen_or_chain_of_superclass hx hy
  rcases habove with hmem | ⟨z, hz, hzy⟩
  · exact ⟨i, List.mem_cons_self, (List.mem_singleton.1 hmem).symm⟩
  · exact ⟨z, List.mem_cons_of_mem i hz, hzy⟩

/-- Everything above a class is among its ancestors, also where the chain runs in a circle. -/
lemma Resolved.exists_mem_ancestors (hu : u.Resolved) {c n : String} {i : Interface}
    (hi : u.interface? c = some i) (h : u.Inherits c n) : ∃ x ∈ u.ancestors i, x.name = n := by
  induction h with
  | self => exact ⟨i, List.mem_cons_self, (hu.interface?_eq_some_iff.1 hi).2⟩
  | @up n k x h hx hk ih =>
    obtain ⟨z, hz, hzn⟩ := ih
    have hdecl := mem_ancestors (hu.interface?_eq_some_iff.1 hi).1 hz
    obtain rfl : z = x :=
      Option.some.inj ((hu.interface?_eq_some_iff.2 ⟨hdecl, hzn⟩).symm.trans hx)
    obtain ⟨y, hy⟩ := hu.superclasses z hdecl k hk
    have hyk : y.name = k := (hu.interface?_eq_some_iff.1 hy).2
    have hnext : z.superclass.bind u.interface? = some y := by rw [hk, Option.bind_some, hy]
    obtain ⟨w, hw, hwy⟩ := exists_mem_ancestors_of_superclass hz hnext
    exact ⟨w, hw, hwy.trans hyk⟩

/-- A walk that goes on above a class meets only what stands above it. -/
lemma Resolved.inherits_of_mem_chain (hu : u.Resolved) {c : String} {x : Interface}
    (hnext : ∀ k ∈ next, u.Inherits c k) (hx : x ∈ u.chain seen next) : u.Inherits c x.name := by
  induction seen, next using chain.induct u with
  | case1 seen next h =>
    rw [chain_end h] at hx
    cases hx
  | case2 seen next i h hs =>
    rw [chain_step h, if_pos hs] at hx
    cases hx
  | case3 seen next i h hs ih =>
    obtain ⟨k, hk, hi⟩ := Option.bind_eq_some_iff.1 h
    have hname : i.name = k := (hu.interface?_eq_some_iff.1 hi).2
    have habove : u.Inherits c i.name := hname ▸ hnext k hk
    rw [chain_step h, if_neg hs] at hx
    rcases List.mem_cons.1 hx with rfl | hx
    · exact habove
    · exact ih (fun n hn => .up habove (hname ▸ hi) hn) hx

lemma Resolved.inherits_of_mem_ancestors (hu : u.Resolved) {c : String} {i x : Interface}
    (hi : u.interface? c = some i) (hx : x ∈ u.ancestors i) : u.Inherits c x.name := by
  rcases List.mem_cons.1 hx with rfl | hx
  · rw [(hu.interface?_eq_some_iff.1 hi).2]
    exact .self
  · exact hu.inherits_of_mem_chain (fun k hk => .up .self hi hk) hx

end MethodAudit.SourceUnit
