import MethodAudit.Proofs.Folding

/-!
The invariant of resolved units.

Each name is declared once, the indexes are exact, and every class that is named, as a
superclass, by an implementation or as a receiver at any depth of a body, is declared. So
nothing that is looked up by its position is missing, and a chain of superclasses ends only
where a class has none.

Bodies are gone through from the last child to the first when classes are declared, and from the
first to the last when they are judged; both ways meet the same statements.
-/

namespace MethodAudit

open NameTable

namespace NameTable

open Declaration (name)

variable {α : Type} [Declaration α]

/-- The names are all different, and the index has for each name the place of its declaration. -/
structure Exact (t : NameTable α) : Prop where
  nodup : (t.decls.toList.map name).Nodup
  index (n : String) (k : Nat) :
    t.index[n]? = some k ↔ ∃ hk : k < t.decls.size, name t.decls[k] = n
  find {n : String} {k : Nat} (h : t.index[n]? = some k) :
    ∃ hk : k < t.decls.size, t.find? n = some t.decls[k]

lemma nodup_names {t : NameTable α} (ht : t.Indexed) : (t.decls.toList.map name).Nodup := by
  refine (nodup_decls ht).map_on fun d hd e he hname => ?_
  exact eq_of_name_eq ht hd he hname

lemma Indexed.exact {t : NameTable α} (ht : t.Indexed) : t.Exact where
  nodup := nodup_names ht
  index n k := by
    rw [ht n k]
    constructor
    · rintro ⟨d, hd, rfl⟩
      obtain ⟨hk, rfl⟩ := Array.getElem?_eq_some_iff.1 hd
      exact ⟨hk, rfl⟩
    · rintro ⟨hk, rfl⟩
      exact ⟨_, Array.getElem?_eq_getElem hk, rfl⟩
  find {n k} h := by
    obtain ⟨d, hd, -⟩ := (ht n k).1 h
    obtain ⟨hk, rfl⟩ := Array.getElem?_eq_some_iff.1 hd
    exact ⟨hk, find?_of_index h hd⟩

end NameTable

/-! ### Positions of categories -/

lemma pairwise_lt_zipIdx (cs : List α) : cs.zipIdx.Pairwise fun x y => x.2 < y.2 := by
  rw [← List.pairwise_map (R := (· < ·)), List.zipIdx_map_snd]
  exact List.pairwise_lt_range'

lemma pairwise_lt_indexCategories (cs : List Category) (n : String) :
    ((indexCategories cs).getD n []).Pairwise (· < ·) := by
  rw [getD_indexCategories, List.pairwise_map]
  exact (pairwise_lt_zipIdx cs).filter _

lemma mem_getD_indexCategories {cs : List Category} {n : String} {k : Nat} :
    k ∈ (indexCategories cs).getD n [] ↔ ∃ hk : k < cs.length, cs[k].className = n := by
  rw [getD_indexCategories, List.mem_map]
  constructor
  · rintro ⟨⟨c, k⟩, hmem, rfl⟩
    obtain ⟨hzip, hname⟩ := List.mem_filter.1 hmem
    obtain ⟨hk, hget⟩ := List.getElem?_eq_some_iff.1 (List.mem_zipIdx_iff_getElem?.1 hzip)
    exact ⟨hk, hget ▸ of_decide_eq_true hname⟩
  · rintro ⟨hk, hname⟩
    refine ⟨(cs[k], k), List.mem_filter.2 ⟨?_, decide_eq_true hname⟩, rfl⟩
    exact List.mem_zipIdx_iff_getElem?.2 (List.getElem?_eq_getElem hk)

lemma mem_foldl_insert (xs : List (Category × Nat)) (m : Std.TreeMap String (List Nat))
    (n : String) :
    n ∈ xs.foldl (fun m (c, i) => m.insert c.className (m.getD c.className [] ++ [i])) m ↔
      n ∈ m ∨ ∃ x ∈ xs, x.1.className = n := by
  induction xs generalizing m with
  | nil => simp
  | cons x xs ih =>
    rw [List.foldl_cons, ih, Std.TreeMap.mem_insert, Std.LawfulEqCmp.compare_eq_iff_eq]
    simp only [List.mem_cons, exists_eq_or_imp]
    tauto

lemma mem_indexCategories {cs : List Category} {n : String} :
    n ∈ indexCategories cs ↔ ∃ c ∈ cs, c.className = n := by
  rw [indexCategories, mem_foldl_insert]
  constructor
  · rintro (hempty | ⟨⟨c, k⟩, hmem, hname⟩)
    · exact absurd hempty (by simp)
    · exact ⟨c, List.fst_mem_of_mem_zipIdx hmem, hname⟩
  · rintro ⟨c, hc, hname⟩
    obtain ⟨k, hk⟩ := List.mem_iff_getElem?.1 hc
    exact .inr ⟨(c, k), List.mem_zipIdx_iff_getElem?.2 hk, hname⟩

/-! ### Units -/

namespace SourceUnit

/-- The places that the index has for the categories of a class. -/
def positions (u : SourceUnit) (n : String) : List Nat := u.categoryIndex.getD n []

/-- **The invariant**: tables and indexes agree, and every class that is named is declared. -/
structure Coherent (u : SourceUnit) : Prop where
  interfaces : u.interfaces.Exact
  protocols : u.protocols.Exact
  ascending (n : String) : (u.positions n).Pairwise (· < ·)
  mem_positions (n : String) (k : Nat) :
    k ∈ u.positions n ↔ ∃ hk : k < u.categories.size, u.categories[k].className = n
  mem_categoryIndex (n : String) :
    n ∈ u.categoryIndex ↔ ∃ c ∈ u.categories.toList, c.className = n
  categoriesOf (n : String) :
    (u.categoriesOf n).map some = (u.positions n).map fun k => u.categories[k]?
  superclasses : ∀ x ∈ u.interfaces.decls.toList, ∀ n, x.superclass = some n →
    ∃ s, u.interface? n = some s ∧ s.name = n
  classNames : ∀ i ∈ u.implementations, ∀ n, i.className = some n →
    ∃ s, u.interface? n = some s ∧ s.name = n
  receiverTypes : ∀ i ∈ u.implementations, ∀ e ∈ i.methods, ∀ s ∈ Stmt.scan e.body, ∀ n,
    s.action.receiverType? = some n → ∃ x, u.interface? n = some x ∧ x.name = n
  superclass?_eq_none : ∀ x ∈ u.interfaces.decls.toList,
    u.superclass? x = none ↔ x.superclass = none

namespace Resolved

variable {u : SourceUnit}

/-- What is found under a name has that name. -/
lemma named_of_declared (hu : u.Resolved) {n : String} (h : ∃ s, u.interface? n = some s) :
    ∃ s, u.interface? n = some s ∧ s.name = n := by
  obtain ⟨s, hs⟩ := h
  exact ⟨s, hs, (hu.interface?_eq_some_iff.1 hs).2⟩

lemma superclass?_eq_none_iff (hu : u.Resolved) {x : Interface}
    (hx : x ∈ u.interfaces.decls.toList) : u.superclass? x = none ↔ x.superclass = none := by
  rw [superclass?]
  cases hn : x.superclass with
  | none => simp
  | some n =>
    obtain ⟨s, hs⟩ := hu.superclasses x hx n hn
    simp [hs]

end Resolved

end SourceUnit

/-! ### Resolving -/

namespace Dump

variable {d : Dump} {u : SourceUnit} (h : d.resolve = .ok u)
include h

lemma positions_of_resolve (n : String) :
    u.positions n = (indexCategories d.categories).getD n [] := by
  obtain ⟨t, p, -, -, rfl⟩ := resolve_eq_ok h
  rfl

lemma mem_positions_of_resolve {n : String} {k : Nat} :
    k ∈ u.positions n ↔ ∃ hk : k < u.categories.size, u.categories[k].className = n := by
  rw [positions_of_resolve h, mem_getD_indexCategories]
  simp [← categories_of_resolve h]

lemma mem_categoryIndex_of_resolve {n : String} :
    n ∈ u.categoryIndex ↔ ∃ c ∈ u.categories.toList, c.className = n := by
  obtain ⟨t, p, -, -, rfl⟩ := resolve_eq_ok h
  exact mem_indexCategories

/-- No position leads past the end of the categories. -/
lemma map_some_categoriesOf (n : String) :
    (u.categoriesOf n).map some = (u.positions n).map fun k => u.categories[k]? := by
  have hsome : ∀ x ∈ (u.positions n).map fun k => u.categories[k]?, x.isSome = true := by
    intro x hx
    obtain ⟨k, hk, rfl⟩ := List.mem_map.1 hx
    obtain ⟨hlt, -⟩ := (mem_positions_of_resolve h).1 hk
    simp [hlt]
  rw [SourceUnit.categoriesOf, List.map_filterMap_some_eq_filter_map_isSome]
  exact List.filter_eq_self.2 hsome

/-- **Resolving establishes the invariant.** -/
theorem coherent_of_resolve : u.Coherent := by
  have hu := resolved h
  refine {
    interfaces := hu.interfaces.exact
    protocols := hu.protocols.exact
    ascending := fun n => ?_
    mem_positions := fun n k => mem_positions_of_resolve h
    mem_categoryIndex := fun n => mem_categoryIndex_of_resolve h
    categoriesOf := map_some_categoriesOf h
    superclasses := fun x hx n hn => hu.named_of_declared (hu.superclasses x hx n hn)
    classNames := fun i hi n hn => ?_
    receiverTypes := fun i hi e he s hs n hn => ?_
    superclass?_eq_none := fun x hx => hu.superclass?_eq_none_iff hx }
  · rw [positions_of_resolve h]
    exact pairwise_lt_indexCategories d.categories n
  · have hnamed : n ∈ i.classNames := List.mem_append_left _ (by simp [hn])
    exact hu.named_of_declared (hu.classes i hi n hnamed)
  · -- what the one walk meets, the other has met
    obtain ⟨b, hb, hwithin⟩ := (Stmt.mem_scan e.body).1 hs
    exact hu.named_of_declared (hu.receiver_declared hi he hb hwithin hn)

end Dump

/-- The receiver stands deep in the body. -/
def folding : MethodDef where
  method := ⟨"fold", false⟩
  body := some (.node (.other none) [
    .node (.other none) [.node (.send .object "crease" (some "Paper")) []],
    .node (.selectorLiteral "fold") []])
  line := none

/-- A map is declared ahead of a globe and defined after it. Their superclasses are declared
nowhere, nor is the receiver in the body; the categories of the two alternate. -/
def atlas : Dump where
  file := "Atlas.m"
  interfaces := [
    ⟨"Map", none, .empty, true⟩,
    ⟨"Globe", some "Sphere", .empty, false⟩,
    ⟨"Map", some "Sheet", ⟨["Folded"], [], []⟩, false⟩]
  protocols := [⟨"Folded", .empty, true⟩]
  categories := [⟨"Legend", "Map", .empty⟩, ⟨"Axis", "Globe", .empty⟩, ⟨"", "Map", .empty⟩]
  implementations := [⟨some "Map", none, [folding]⟩]

theorem Dump.coherent_of_resolve_atlas :
    ∃ u, atlas.resolve = .ok u ∧ u.Coherent ∧ u.positions "Map" = [0, 2] ∧
      ∃ x, u.interface? "Paper" = some x := by
  obtain ⟨u, hu⟩ := (isOk_resolve_iff atlas).1 (by decide)
  have hcoherent := coherent_of_resolve hu
  have hpositions : u.positions "Map" = [0, 2] := by
    rw [positions_of_resolve hu]
    decide
  have hscan : .node (.send .object "crease" (some "Paper")) [] ∈ Stmt.scan folding.body :=
    (Stmt.mem_scan _).2 ⟨_, rfl, .child List.mem_cons_self (.child List.mem_cons_self .self)⟩
  have himplementation : ⟨some "Map", none, [folding]⟩ ∈ u.implementations := by
    rw [implementations_of_resolve hu]
    exact List.mem_cons_self
  obtain ⟨x, hx, -⟩ :=
    hcoherent.receiverTypes _ himplementation folding List.mem_cons_self _ hscan "Paper" rfl
  exact ⟨u, hu, hcoherent, hpositions, x, hx⟩

end MethodAudit
