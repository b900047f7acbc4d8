import MethodAudit.Proofs.Coherence
import MethodAudit.Proofs.Resolution

/-!
Resolving what is resolved.

A table is fixed by its declarations: names enter the index one after the other, each once, so the
index is the one that the names give in their order. Declaring the declarations of a table in their
order therefore makes the same table again. A resolved unit names no class that it does not declare,
so nothing is added to it either, and it is its own resolution.
-/

namespace MethodAudit

namespace NameTable

variable {α : Type} [Declaration α]

open Declaration (name forward)

/-! ### The index by the names -/

/-- The index of names that come one after the other. -/
def indexNames (names : List String) : Std.TreeMap String Nat :=
  names.zipIdx.foldl (fun m x => m.insert x.1 x.2) ∅

lemma indexNames_concat (names : List String) (n : String) :
    indexNames (names ++ [n]) = (indexNames names).insert n names.length := by
  simp [indexNames, List.zipIdx_append]

/-- The index has been made by appending the names in the order in which they stand. -/
def InOrder (t : NameTable α) : Prop := t.index = indexNames (t.decls.toList.map name)

lemma inOrder_empty : (empty : NameTable α).InOrder := rfl

lemma InOrder.push {t : NameTable α} (h : t.InOrder) (d : α) : (t.push d).InOrder := by
  have hnames : (t.push d).decls.toList.map name = t.decls.toList.map name ++ [name d] := by
    simp [NameTable.push]
  rw [InOrder, hnames, indexNames_concat, ← h]
  simp [NameTable.push]

/-- One step: a new name is appended, and any other leaves index and names as they are. -/
lemma InOrder.declare {t t' : NameTable α} {d : α} (h : t.InOrder) (ht : t.Indexed)
    (hd : t.declare d = .ok t') : t'.InOrder := by
  have hnames := names_declare ht hd
  unfold NameTable.declare at hd
  split at hd
  · cases hd
    exact h.push d
  · next i hi =>
    obtain ⟨old, hold, -⟩ := (ht _ i).1 hi
    have hindex : t'.index = t.index := by
      simp only [hold] at hd
      split_ifs at hd
      · cases hd
        rfl
      · cases hd
        rfl
    rw [if_pos ((mem_names_iff ht).2 ⟨old, find?_of_index hi hold⟩)] at hnames
    rw [InOrder, hnames, hindex]
    exact h

lemma InOrder.declareAll {t t' : NameTable α} {ds : List α} (h : t.InOrder) (ht : t.Indexed)
    (hds : t.declareAll ds = .ok t') : t'.InOrder := by
  induction ds generalizing t with
  | nil =>
    cases hds
    exact h
  | cons d ds ih =>
    rw [NameTable.declareAll, List.foldlM_cons] at hds
    cases hd : t.declare d with
    | error n => simp [hd, bind, Except.bind] at hds
    | ok u =>
      rw [hd] at hds
      exact ih (h.declare ht hd) (indexed_declare ht hd) hds

lemma InOrder.mentions {t : NameTable Interface} (h : t.InOrder) (names : List String) :
    (names.foldl mention t).InOrder := by
  induction names generalizing t with
  | nil => exact h
  | cons n names ih =>
    rw [List.foldl_cons]
    apply ih
    unfold mention
    split_ifs
    · exact h
    · exact h.push (.named n)

/-- Nothing but the declarations counts in such a table. -/
lemma InOrder.eq_of_decls_eq {t t' : NameTable α} (h : t.InOrder) (h' : t'.InOrder)
    (hdecls : t.decls.toList = t'.decls.toList) : t = t' := by
  have hindex : t.index = t'.index := by rw [h, h', hdecls]
  cases t
  cases t'
  simp only [mk.injEq]
  exact ⟨Array.toList_inj.1 hdecls, hindex⟩

/-! ### Declaring a second time -/

lemma declare_of_new {t : NameTable α} (ht : t.Indexed) {d : α}
    (hd : name d ∉ t.decls.toList.map name) : t.declare d = .ok (t.push d) := by
  have hindex : t.index[name d]? = none := by
    refine Option.eq_none_iff_forall_ne_some.2 fun i hi => hd ?_
    obtain ⟨old, hold, -⟩ := (ht _ i).1 hi
    exact (mem_names_iff ht).2 ⟨old, find?_of_index hi hold⟩
  simp only [declare, hindex]

/-- Declarations of different new names are appended as they are. -/
lemma exists_declareAll_of_nodup {t : NameTable α} (ht : t.Indexed) {ds : List α}
    (hds : ((t.decls.toList ++ ds).map name).Nodup) :
    ∃ t', t.declareAll ds = .ok t' ∧ t'.decls.toList = t.decls.toList ++ ds := by
  induction ds generalizing t with
  | nil => exact ⟨t, rfl, by simp⟩
  | cons d ds ih =>
    have hnew : name d ∉ t.decls.toList.map name := by
      rw [List.map_append, List.nodup_append] at hds
      intro hmem
      exact hds.2.2 _ hmem (name d) (by simp) rfl
    have hd := declare_of_new ht hnew
    have hdecls : (t.push d).decls.toList ++ ds = t.decls.toList ++ d :: ds := by simp [push]
    obtain ⟨t', ht', hall⟩ := ih (indexed_declare ht hd) (hdecls ▸ hds)
    refine ⟨t', ?_, hall.trans hdecls⟩
    rw [declareAll, List.foldlM_cons, hd]
    exact ht'

/-- **Declaring** the declarations of a table again makes the same table. -/
theorem declareAll_decls {t : NameTable α} (ht : t.Indexed) (horder : t.InOrder) :
    empty.declareAll t.decls.toList = .ok t := by
  have hnodup : ((empty.decls.toList ++ t.decls.toList).map name).Nodup := nodup_names ht
  obtain ⟨t', ht', hdecls⟩ := exists_declareAll_of_nodup indexed_empty hnodup
  have hsame : t'.decls.toList = t.decls.toList := by simpa [empty] using hdecls
  rw [ht', (inOrder_empty.declareAll indexed_empty ht').eq_of_decls_eq horder hsame]

/-- Mentioning what is declared adds nothing. -/
lemma mentions_of_declared {t : NameTable Interface} (ht : t.Indexed) {names : List String}
    (h : ∀ n ∈ names, ∃ d, t.find? n = some d) : names.foldl mention t = t := by
  induction names with
  | nil => rfl
  | cons n names ih =>
    have hn : t.mention n = t := by
      rw [mention, if_pos ((contains_iff ht).2 (h n List.mem_cons_self))]
    rw [List.foldl_cons, hn]
    exact ih fun k hk => h k (List.mem_cons_of_mem n hk)

end NameTable

open NameTable

/-! ### Units -/

namespace SourceUnit

/-- Every class that a resolved unit names has a declaration in it. -/
lemma Resolved.referenced_declared {u : SourceUnit} (hu : u.Resolved) {n : String}
    (hn : n ∈ referencedClasses u.interfaces.decls.toList u.implementations) :
    ∃ x, u.interfaces.find? n = some x := by
  rcases List.mem_append.1 hn with hn | hn
  · obtain ⟨x, hx, hsuper⟩ := List.mem_filterMap.1 hn
    exact hu.superclasses x hx n hsuper
  · obtain ⟨i, hi, hclass⟩ := List.mem_flatMap.1 hn
    exact hu.classes i hi n hclass

end SourceUnit

namespace Dump

/-- What resolving leaves besides the look-ups: both tables in order, and the index of the
categories. -/
lemma inOrder_of_resolve {d : Dump} {u : SourceUnit} (h : d.resolve = .ok u) :
    u.interfaces.InOrder ∧ u.protocols.InOrder ∧
      u.categoryIndex = indexCategories u.categories.toList := by
  obtain ⟨t, p, ht, hp, rfl⟩ := resolve_eq_ok h
  exact ⟨(inOrder_empty.declareAll indexed_empty ht).mentions _,
    inOrder_empty.declareAll indexed_empty hp, rfl⟩

/-- **Resolving is idempotent**: a resolved unit, taken as a dump, resolves to itself, with the same
declarations in the same order and the same tables to look them up. -/
theorem resolve_toDump {d : Dump} {u : SourceUnit} (h : d.resolve = .ok u) :
    u.toDump.resolve = .ok u := by
  have hu := resolved h
  obtain ⟨hinterfaces, hprotocols, hcategories⟩ := inOrder_of_resolve h
  have ht := declareAll_decls hu.interfaces hinterfaces
  have hp := declareAll_decls hu.protocols hprotocols
  have hmentions := mentions_of_declared hu.interfaces fun n hn => hu.referenced_declared hn
  rw [resolve, SourceUnit.toDump]
  simp only [ht, hp, Except.mapError, bind, Except.bind, pure, Except.pure]
  rw [hmentions, ← hcategories]

/-- Six declarations come to three classes, and five more are only mentioned; of the eight that the
unit lists, none is added and none moves when it is resolved again. -/
theorem resolve_toDump_orchard :
    ∃ u, orchard.resolve = .ok u ∧ u.toDump.resolve = .ok u ∧
      u.toDump.interfaces.map Interface.name =
        ["Plum", "Apple", "Pear", "Drupe", "Fruit", "Core", "Peel", "Juice"] := by
  obtain ⟨u, hu⟩ := (isOk_resolve_iff orchard).1 (by decide)
  have hnames : u.toDump.interfaces.map Interface.name =
      ["Plum", "Apple", "Pear", "Drupe", "Fruit", "Core", "Peel", "Juice"] := by
    rw [SourceUnit.toDump, (describes_of_resolve hu).names]
    decide
  exact ⟨u, hu, resolve_toDump hu, hnames⟩

end Dump

end MethodAudit
