import Mathlib.Data.List.Basic
import MethodAudit.Proofs.Body
import MethodAudit.Proofs.NameTable

/-!
What resolving a dump guarantees. The tables of a resolved unit are indexed, its categories are
found by class, and every class that it names has a declaration.
-/

namespace MethodAudit

open NameTable

/-- The classes a dump mentions have been added to the table of those it declares. -/
lemma Dump.resolve_eq_ok {d : Dump} {u : SourceUnit} (h : d.resolve = .ok u) :
    ∃ t p, NameTable.empty.declareAll d.interfaces = .ok t ∧
      NameTable.empty.declareAll d.protocols = .ok p ∧
      u = { file := d.file
            interfaces := (referencedClasses t.decls.toList d.implementations).foldl mention t
            protocols := p
            categories := d.categories.toArray
            categoryIndex := indexCategories d.categories
            implementations := d.implementations } := by
  unfold resolve at h
  cases ht : NameTable.empty.declareAll d.interfaces with
  | error n => simp [ht, Except.mapError, bind, Except.bind] at h
  | ok t =>
    cases hp : NameTable.empty.declareAll d.protocols with
    | error n => simp [ht, hp, Except.mapError, bind, Except.bind] at h
    | ok p =>
      simp only [ht, hp, Except.mapError, bind, Except.bind, pure, Except.pure,
        Except.ok.injEq] at h
      exact ⟨t, p, rfl, rfl, h.symm⟩

lemma Dump.implementations_of_resolve {d : Dump} {u : SourceUnit} (h : d.resolve = .ok u) :
    u.implementations = d.implementations := by
  obtain ⟨t, p, -, -, rfl⟩ := resolve_eq_ok h
  rfl

/-! ### Categories -/

lemma getD_foldl_insert (xs : List (Category × Nat)) (m : Std.TreeMap String (List Nat))
    (n : String) :
    (xs.foldl (fun m (c, i) => m.insert c.className (m.getD c.className [] ++ [i])) m).getD n [] =
      m.getD n [] ++ (xs.filter (·.1.className = n)).map (·.2) := by
  induction xs generalizing m with
  | nil => simp
  | cons x xs ih =>
    have hc : compare x.1.className n = .eq ↔ x.1.className = n :=
      Std.LawfulEqCmp.compare_eq_iff_eq
    rw [List.foldl_cons, ih, Std.TreeMap.getD_insert]
    by_cases hx : x.1.className = n
    · simp [hx]
    · simp [hc, hx]

lemma getD_indexCategories (cs : List Category) (n : String) :
    (indexCategories cs).getD n [] = (cs.zipIdx.filter (·.1.className = n)).map (·.2) := by
  rw [indexCategories, getD_foldl_insert]
  simp

lemma filterMap_indexCategories (cs : List Category) (n : String) :
    ((indexCategories cs).getD n []).filterMap (fun i => cs.toArray[i]?) =
      cs.filter (·.className = n) := by
  have hget : ∀ x ∈ cs.zipIdx.filter (·.1.className = n), cs.toArray[x.2]? = some x.1 := by
    intro x hx
    simpa using List.mem_zipIdx_iff_getElem?.1 (List.mem_filter.1 hx).1
  calc ((indexCategories cs).getD n []).filterMap (fun i => cs.toArray[i]?)
      = (cs.zipIdx.filter (·.1.className = n)).filterMap (some ∘ Prod.fst) := by
        rw [getD_indexCategories, List.filterMap_map]
        exact List.filterMap_congr hget
    _ = (cs.zipIdx.filter ((fun c : Category => decide (c.className = n)) ∘ Prod.fst)).map
          Prod.fst := by
        rw [List.filterMap_eq_map]
        rfl
    _ = cs.filter (·.className = n) := by
        rw [← List.filter_map, List.zipIdx_map_fst]

/-! ### Resolved units -/

/-- What the engine relies on in a unit that was resolved. -/
structure SourceUnit.Resolved (u : SourceUnit) : Prop where
  interfaces : u.interfaces.Indexed
  protocols : u.protocols.Indexed
  categories : ∀ n, u.categoriesOf n = u.categories.toList.filter (·.className = n)
  superclasses : ∀ i ∈ u.interfaces.decls.toList, ∀ n ∈ i.superclass, ∃ s, u.interface? n = some s
  classes : ∀ i ∈ u.implementations, ∀ n ∈ i.classNames, ∃ s, u.interface? n = some s

theorem Dump.resolved {d : Dump} {u : SourceUnit} (h : d.resolve = .ok u) : u.Resolved := by
  obtain ⟨t, p, ht, hp, rfl⟩ := resolve_eq_ok h
  have hti := indexed_declareAll indexed_empty ht
  have hmi := indexed_mentions hti (referencedClasses t.decls.toList d.implementations)
  -- a name that is mentioned has a declaration: its own, or the bare one made for it
  have hdecl : ∀ n ∈ referencedClasses t.decls.toList d.implementations,
      ∃ s, ((referencedClasses t.decls.toList d.implementations).foldl mention t).find? n =
        some s := by
    intro n hn
    rw [find?_mentions hti, if_pos hn]
    cases t.find? n <;> simp
  refine ⟨hmi, indexed_declareAll indexed_empty hp, ?_, ?_, ?_⟩
  · intro n
    exact filterMap_indexCategories d.categories n
  · intro i hi n hn
    have hfind := (find?_eq_some_iff hmi).2 ⟨hi, rfl⟩
    rcases cases_of_find?_mentions hti hfind with hf | ⟨-, hbare⟩
    · exact hdecl n (List.mem_append_left _ (List.mem_filterMap.2 ⟨i, mem_of_find? hf, hn⟩))
    · -- a bare declaration names no superclass
      rw [hbare] at hn
      cases hn
  · intro i hi n hn
    exact hdecl n (List.mem_append_right _ (List.mem_flatMap.2 ⟨i, hi, hn⟩))

namespace SourceUnit.Resolved

variable {u : SourceUnit}

lemma interface?_eq_some_iff (hu : u.Resolved) {n : String} {i : Interface} :
    u.interface? n = some i ↔ i ∈ u.interfaces.decls.toList ∧ i.name = n :=
  find?_eq_some_iff hu.interfaces

lemma definition?_eq_some_iff (hu : u.Resolved) {n : String} {i : Interface} :
    u.definition? n = some i ↔ i ∈ u.interfaces.decls.toList ∧ i.name = n ∧ i.forward = false :=
  NameTable.definition?_eq_some_iff hu.interfaces

lemma protocol?_eq_some_iff (hu : u.Resolved) {n : String} {p : Protocol} :
    u.protocol? n = some p ↔ p ∈ u.protocols.decls.toList ∧ p.name = n ∧ p.forward = false :=
  NameTable.definition?_eq_some_iff hu.protocols

lemma mem_categoriesOf (hu : u.Resolved) {n : String} {c : Category} :
    c ∈ u.categoriesOf n ↔ c ∈ u.categories.toList ∧ c.className = n := by
  simp [hu.categories]

/-- A static type in a body of the unit has a declaration. -/
lemma receiver_declared (hu : u.Resolved) {i : Implementation} (hi : i ∈ u.implementations)
    {d : MethodDef} (hd : d ∈ i.methods) {b s : Stmt} (hb : d.body = some b) (hs : s.Within b)
    {n : String} (hn : s.action.receiverType? = some n) : ∃ x, u.interface? n = some x := by
  refine hu.classes i hi n (List.mem_append_right _ (List.mem_flatMap.2 ⟨d, hd, ?_⟩))
  exact (Stmt.mem_receiverTypes d.body).2 ⟨b, hb, s, hs, hn⟩

end SourceUnit.Resolved

end MethodAudit
