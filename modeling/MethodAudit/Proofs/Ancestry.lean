import Mathlib.Data.List.Chain
import Mathlib.Data.List.Perm.Subperm
import MethodAudit.Proofs.Coherence
import MethodAudit.Proofs.Kinship

/-!
The ancestors of a class as a path.

The walk up the superclasses of a class lists a path on which no name comes twice. It goes as far
as such a path can: to a class without a superclass, or to one whose superclass has been listed, as
on a circle that need not run through the class at which the walk starts. Every other path without
repetition from the same class is the beginning of it.
-/

namespace MethodAudit.SourceUnit

/-- Each class of the list is followed by its superclass, and no name comes twice. -/
structure Climbs (u : SourceUnit) (l : List Interface) : Prop where
  steps : l.IsChain fun x y => u.superclass? x = some y
  once : (l.map Interface.name).Nodup

variable {u : SourceUnit} {seen : List String} {next : Option String}

lemma climbs_nil : u.Climbs [] := ⟨.nil, .nil⟩

lemma climbs_cons {x : Interface} {l : List Interface} :
    u.Climbs (x :: l) ↔
      (∀ y ∈ l.head?, u.superclass? x = some y) ∧ (∀ y ∈ l, y.name ≠ x.name) ∧ u.Climbs l := by
  constructor
  · rintro ⟨hsteps, honce⟩
    rw [List.isChain_cons] at hsteps
    rw [List.map_cons, List.nodup_cons] at honce
    refine ⟨hsteps.1, fun y hy hname => honce.1 ?_, hsteps.2, honce.2⟩
    exact hname ▸ List.mem_map_of_mem hy
  · rintro ⟨hhead, hnames, hsteps, honce⟩
    refine ⟨List.isChain_cons.2 ⟨hhead, hsteps⟩, ?_⟩
    rw [List.map_cons, List.nodup_cons, List.mem_map]
    refine ⟨?_, honce⟩
    rintro ⟨y, hy, hname⟩
    exact hnames y hy hname

/-- The walk starts with the class it goes on with. -/
lemma eq_next_of_head?_chain {x : Interface} (h : (u.chain seen next).head? = some x) :
    next.bind u.interface? = some x := by
  rcases hnext : next.bind u.interface? with _ | i
  · rw [chain_end hnext] at h
    cases h
  · rw [chain_step hnext] at h
    split_ifs at h
    · cases h
    · exact h

/-- What the walk lists is new. -/
lemma name_not_mem_of_mem_chain {x : Interface} (hx : x ∈ u.chain seen next) : x.name ∉ seen := by
  induction seen, next using chain.induct u with
  | case1 seen next h =>
    rw [chain_end h] at hx
    cases hx
  | case2 seen next i h hs =>
    rw [chain_step h, if_pos hs] at hx
    cases hx
  | case3 seen next i h hs ih =>
    rw [chain_step h, if_neg hs] at hx
    rcases List.mem_cons.1 hx with rfl | hx
    · exact hs
    · exact fun hmem => ih hx (List.mem_cons_of_mem _ hmem)

lemma climbs_chain : u.Climbs (u.chain seen next) := by
  induction seen, next using chain.induct u with
  | case1 seen next h =>
    rw [chain_end h]
    exact climbs_nil
  | case2 seen next i h hs =>
    rw [chain_step h, if_pos hs]
    exact climbs_nil
  | case3 seen next i h hs ih =>
    rw [chain_step h, if_neg hs, climbs_cons]
    refine ⟨fun y hy => eq_next_of_head?_chain hy, fun y hy hname => ?_, ih⟩
    exact name_not_mem_of_mem_chain hy (hname ▸ List.mem_cons_self)

/-- A path that goes on as the walk does, through names not seen before, is what the walk lists
first. -/
lemma Climbs.isPrefix_chain {l : List Interface} (hl : u.Climbs l)
    (hhead : ∀ x ∈ l.head?, next.bind u.interface? = some x) (hnew : ∀ x ∈ l, x.name ∉ seen) :
    l <+: u.chain seen next := by
  induction l generalizing seen next with
  | nil => exact ⟨_, List.nil_append _⟩
  | cons x l ih =>
    obtain ⟨hnext, hnames, hrest⟩ := climbs_cons.1 hl
    rw [chain_step (hhead x rfl), if_neg (hnew x List.mem_cons_self), List.prefix_cons_inj]
    refine ih hrest hnext fun y hy => ?_
    rw [List.mem_cons, not_or]
    exact ⟨hnames y hy, hnew y (List.mem_cons_of_mem x hy)⟩

/-- A path of classes of the unit is no longer than the table of its classes. -/
lemma Climbs.length_le {l : List Interface} (hl : u.Climbs l)
    (hmem : ∀ x ∈ l, x ∈ u.interfaces.decls.toList) : l.length ≤ u.interfaces.decls.size := by
  have hnodup : l.Nodup := .of_map _ hl.once
  simpa using (hnodup.subperm hmem).length_le

/-- The path ends at a class without a superclass, or below one that it has passed. -/
lemma Resolved.stops_of_getLast? (hu : u.Resolved) {i last : Interface}
    (hi : i ∈ u.interfaces.decls.toList) (hlast : (u.ancestors i).getLast? = some last) :
    last.superclass = none ∨
      ∃ y, u.superclass? last = some y ∧ y.name ∈ (u.ancestors i).map Interface.name := by
  obtain ⟨before, hsplit⟩ := List.getLast?_eq_some_iff.1 hlast
  rcases hsuper : u.superclass? last with _ | y
  · have hdecl := mem_ancestors hi (hsplit ▸ List.mem_append_right _ (List.mem_singleton_self last))
    exact .inl ((hu.superclass?_eq_none_iff hdecl).1 hsuper)
  · rcases hu.met_or_next_of_ancestors hi hsplit hsuper with ⟨z, hz, hname⟩ | ⟨rest, hrest⟩
    · exact .inr ⟨y, rfl, hname ▸ List.mem_map_of_mem (hsplit ▸ hz)⟩
    · cases hrest

/-- **Ancestors** of a class are its longest path of superclasses without repetition: they start
with the class, each is followed by its superclass, no name comes twice, so that there are at most
as many as there are classes, and the last has no superclass or one that is listed already. -/
theorem ancestors_longest_path {d : Dump} {u : SourceUnit} (h : d.resolve = .ok u) {i : Interface}
    (hi : i ∈ u.interfaces.decls.toList) :
    (u.ancestors i).head? = some i ∧ u.Climbs (u.ancestors i) ∧
      (u.ancestors i).length ≤ u.interfaces.decls.size ∧
      (∃ last, (u.ancestors i).getLast? = some last ∧ (last.superclass = none ∨
        ∃ y, u.superclass? last = some y ∧ y.name ∈ (u.ancestors i).map Interface.name)) ∧
      ∀ l, l.head? = some i → u.Climbs l → l <+: u.ancestors i := by
  have hu := Dump.resolved h
  have hclimbs : u.Climbs (u.ancestors i) := by
    rw [hu.ancestors_eq_chain hi]
    exact climbs_chain
  refine ⟨rfl, hclimbs, hclimbs.length_le fun x hx => mem_ancestors hi hx, ?_, fun l hhead hl => ?_⟩
  · obtain ⟨last, hlast⟩ : ∃ last, (u.ancestors i).getLast? = some last :=
      Option.isSome_iff_exists.1 (List.getLast?_isSome.2 (List.cons_ne_nil _ _))
    exact ⟨last, hlast, hu.stops_of_getLast? hi hlast⟩
  · rw [hu.ancestors_eq_chain hi]
    refine hl.isPrefix_chain (fun x hx => ?_) (by simp)
    obtain rfl : i = x := Option.some.inj (hhead.symm.trans hx)
    exact hu.interface?_eq_some_iff.2 ⟨hi, rfl⟩

/-! ### A circle that does not run through the start -/

def leveret : Interface := ⟨"Leveret", some "Hare", .empty, false⟩

def warren : Dump where
  file := "Warren.m"
  interfaces := [leveret, hare, hound, fox]
  protocols := []
  categories := []
  implementations := []

theorem ancestors_longest_path_warren :
    ∃ u, warren.resolve = .ok u ∧ leveret ∈ u.interfaces.decls.toList ∧
      u.superclass? fox = some hare ∧ u.ancestors leveret = [leveret, hare, hound, fox] := by
  obtain ⟨u, hu⟩ := (Dump.isOk_resolve_iff warren).1 (by decide)
  have hleveret : leveret ∈ u.interfaces.decls.toList :=
    NameTable.mem_of_find? ((Dump.interface?_of_resolve hu (n := "Leveret")).2 (.inl rfl))
  have hhare : u.interface? "Hare" = some hare := (Dump.interface?_of_resolve hu).2 (.inl rfl)
  have hhound : u.interface? "Hound" = some hound := (Dump.interface?_of_resolve hu).2 (.inl rfl)
  have hfox : u.interface? "Fox" = some fox := (Dump.interface?_of_resolve hu).2 (.inl rfl)
  obtain ⟨-, ⟨hsteps, honce⟩, -, -, hlongest⟩ := ancestors_longest_path hu hleveret
  have hpath : u.Climbs [leveret, hare, hound, fox] :=
    ⟨.cons_cons hhare (.cons_cons hhound (.cons_cons hfox (.singleton fox))), by decide⟩
  obtain ⟨rest, hrest⟩ := hlongest _ rfl hpath
  refine ⟨u, hu, hleveret, hhare, ?_⟩
  cases rest with
  | nil => exact hrest.symm
  | cons y rest =>
    -- only the hare could follow, and it is listed already
    rw [← hrest] at hsteps honce
    have hy : u.superclass? fox = some y := by
      simp only [List.cons_append, List.nil_append, List.isChain_cons_cons] at hsteps
      exact hsteps.2.2.2.1
    obtain rfl : hare = y := Option.some.inj (hhare.symm.trans hy)
    simp at honce

end MethodAudit.SourceUnit
