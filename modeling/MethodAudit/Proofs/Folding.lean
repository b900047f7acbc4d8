import Mathlib.Data.List.Nodup
import Mathlib.Data.List.Perm.Basic
import Mathlib.Data.Option.Basic
import MethodAudit.Proofs.Lists
import MethodAudit.Proofs.Resolved

/-!
What a list of declarations comes to.

Declaring one after the other keeps the definition of each name and, as long as there is none,
the first declaration made ahead; it goes wrong exactly if a name is defined twice. So a table
is described by the list it was made from, and so are the look-ups of a resolved unit by the
dump, without a word about positions.
-/

namespace MethodAudit

namespace NameTable

variable {α : Type} [Declaration α]

open Declaration (name forward)

def definitionsOf (ds : List α) (n : String) : List α :=
  ds.filter fun d => name d = n && !forward d

def forwardsOf (ds : List α) (n : String) : List α :=
  ds.filter fun d => name d = n && forward d

/-- The declaration that counts: the definition, or else the first that is made ahead. -/
def declaration? (ds : List α) (n : String) : Option α :=
  (definitionsOf ds n).head? <|> (forwardsOf ds n).head?

/-- No name is defined twice. -/
def DefinedOnce (ds : List α) : Prop := ∀ n, (definitionsOf ds n).length ≤ 1

lemma mem_definitionsOf {ds : List α} {n : String} {d : α} :
    d ∈ definitionsOf ds n ↔ d ∈ ds ∧ name d = n ∧ forward d = false := by
  simp [definitionsOf]

lemma mem_forwardsOf {ds : List α} {n : String} {d : α} :
    d ∈ forwardsOf ds n ↔ d ∈ ds ∧ name d = n ∧ forward d = true := by
  simp [forwardsOf]

lemma mem_of_declaration? {ds : List α} {n : String} {d : α} (h : declaration? ds n = some d) :
    d ∈ ds ∧ name d = n := by
  rcases (Option.orElse_eq_some _ _ _).1 h with hd | ⟨-, hd⟩
  · obtain ⟨hmem, hname, -⟩ := mem_definitionsOf.1 (List.mem_of_mem_head? hd)
    exact ⟨hmem, hname⟩
  · obtain ⟨hmem, hname, -⟩ := mem_forwardsOf.1 (List.mem_of_mem_head? hd)
    exact ⟨hmem, hname⟩

/-! ### One declaration more -/

lemma definitionsOf_snoc (ds : List α) (d : α) (n : String) :
    definitionsOf (ds ++ [d]) n =
      if name d = n ∧ forward d = false then definitionsOf ds n ++ [d] else definitionsOf ds n := by
  rw [definitionsOf, List.filter_append]
  split_ifs with h
  · simp [h.1, h.2, definitionsOf]
  · have hd : (decide (name d = n) && !forward d) = false := by
      simpa [← Bool.not_eq_true] using h
    simp [hd, definitionsOf]

lemma definedOnce_snoc (ds : List α) (d : α) :
    DefinedOnce (ds ++ [d]) ↔
      DefinedOnce ds ∧ (forward d = true ∨ definitionsOf ds (name d) = []) := by
  constructor
  · intro h
    refine ⟨fun n => ?_, ?_⟩
    · have hn := h n
      rw [definitionsOf_snoc] at hn
      split_ifs at hn
      · rw [List.length_append] at hn
        omega
      · exact hn
    · cases hf : forward d with
      | true => exact .inl rfl
      | false =>
        have hn := h (name d)
        rw [definitionsOf_snoc, if_pos ⟨rfl, hf⟩, List.length_append, List.length_singleton] at hn
        exact .inr (List.length_eq_zero_iff.1 (by omega))
  · rintro ⟨h, hd⟩ n
    rw [definitionsOf_snoc]
    split_ifs with hn
    · obtain ⟨rfl, hf⟩ := hn
      have hnone := hd.resolve_left (by simp [hf])
      simp [hnone]
    · exact h n

lemma declaration?_snoc (ds : List α) (d : α) (n : String) :
    declaration? (ds ++ [d]) n =
      if name d = n then
        (if forward d = true then declaration? ds n else (definitionsOf ds n).head?) <|> some d
      else declaration? ds n := by
  have hfwd : forwardsOf (ds ++ [d]) n =
      forwardsOf ds n ++ if name d = n ∧ forward d = true then [d] else [] := by
    rw [forwardsOf, List.filter_append, forwardsOf]
    by_cases h : name d = n ∧ forward d = true
    · simp [h.1, h.2]
    · have hd : (decide (name d = n) && forward d) = false := by
        simpa [← Bool.not_eq_true] using h
      rw [if_neg h]
      simp [hd]
  rw [declaration?, hfwd, definitionsOf_snoc]
  by_cases hn : name d = n
  · cases hf : forward d with
    | true => simp [declaration?, hn, List.head?_append]
    | false => simp [hn, List.head?_append]
  · simp [hn, declaration?]

/-! ### Declaring -/

lemma find?_set {t : NameTable α} (ht : t.Indexed) {i : Nat} {old d : α}
    (hold : t.decls[i]? = some old) (hname : name old = name d) (n : String) :
    ({ t with decls := t.decls.setIfInBounds i d } : NameTable α).find? n =
      if name d = n then some d else t.find? n := by
  have hi : i < t.decls.size := (Array.getElem?_eq_some_iff.1 hold).1
  split_ifs with hn
  · have hindex : t.index[n]? = some i := (ht n i).2 ⟨old, hold, hname.trans hn⟩
    simp [find?, hindex, hi]
  · -- no other name leads to the position
    refine Option.bind_congr fun j hj => ?_
    obtain ⟨e, he, hen⟩ := (ht n j).1 hj
    have hij : i ≠ j := by
      rintro rfl
      rw [hold] at he
      cases he
      exact hn (hname.symm.trans hen)
    rw [Array.getElem?_setIfInBounds, if_neg hij]

omit [Declaration α] in
lemma find?_of_index {t : NameTable α} {n : String} {i : Nat} {d : α} (hi : t.index[n]? = some i)
    (hd : t.decls[i]? = some d) : t.find? n = some d :=
  Option.bind_eq_some_iff.2 ⟨i, hi, hd⟩

/-- What declaring does to a look-up. -/
lemma find?_declare {t t' : NameTable α} {d : α} (ht : t.Indexed) (h : t.declare d = .ok t')
    (n : String) :
    t'.find? n =
      if name d = n then (if forward d = true then t.find? n else t.definition? n) <|> some d
      else t.find? n := by
  unfold declare at h
  split at h
  · -- the name is new
    next hd =>
    cases h
    rw [find?_push ht hd]
    by_cases hn : name d = n
    · subst hn
      have hnone : t.find? (name d) = none := by simp [find?, hd]
      simp [definition?, hnone]
    · rw [if_neg (Ne.symm hn), if_neg hn]
  · next i hi =>
    obtain ⟨old, hold, hname⟩ := (ht _ i).1 hi
    have hfind := find?_of_index hi hold
    simp only [hold] at h
    split_ifs at h with hf hfold
    · -- one made ahead changes nothing
      cases h
      split_ifs with hn
      · rw [← hn, hfind]
        rfl
      · rfl
    · -- a definition takes the place of one made ahead
      cases h
      rw [find?_set ht hold hname]
      split_ifs with hn
      · rw [← hn, definition?, hfind, Option.filter_some]
        simp [hfold]
      · rfl

lemma exists_declare_iff {t : NameTable α} (ht : t.Indexed) (d : α) :
    (∃ t', t.declare d = .ok t') ↔ forward d = true ∨ t.definition? (name d) = none := by
  unfold declare
  cases hi : t.index[name d]? with
  | none =>
    have hnone : t.find? (name d) = none := by simp [find?, hi]
    simp [definition?, hnone]
  | some i =>
    obtain ⟨old, hold, hname⟩ := (ht _ i).1 hi
    rw [definition?, find?_of_index hi hold]
    by_cases hf : forward d = true <;> by_cases hfold : forward old = true <;>
      simp [hold, hf, hfold]

/-- The table holds what the list comes to. -/
structure Folds (t : NameTable α) (ds : List α) : Prop where
  indexed : t.Indexed
  once : DefinedOnce ds
  find (n : String) : t.find? n = declaration? ds n

namespace Folds

variable {t t' : NameTable α} {ds es : List α}

lemma definition (h : t.Folds ds) (n : String) : t.definition? n = (definitionsOf ds n).head? := by
  rw [definition?, h.find, declaration?]
  cases hd : (definitionsOf ds n).head? with
  | some d =>
    have hf := (mem_definitionsOf.1 (List.mem_of_mem_head? hd)).2.2
    simp [hf]
  | none =>
    cases hw : (forwardsOf ds n).head? with
    | none => rfl
    | some d =>
      have hf := (mem_forwardsOf.1 (List.mem_of_mem_head? hw)).2.2
      simp [hf]

lemma declare (h : t.Folds ds) {d : α} (hd : t.declare d = .ok t') : t'.Folds (ds ++ [d]) := by
  have hok := (exists_declare_iff h.indexed d).1 ⟨t', hd⟩
  refine ⟨indexed_declare h.indexed hd, (definedOnce_snoc ds d).2 ⟨h.once, ?_⟩, fun n => ?_⟩
  · rwa [h.definition, List.head?_eq_none_iff] at hok
  · rw [find?_declare h.indexed hd, declaration?_snoc, h.find, h.definition]

lemma exists_declare (h : t.Folds ds) {d : α} (hd : DefinedOnce (ds ++ [d])) :
    ∃ t', t.declare d = .ok t' := by
  rw [exists_declare_iff h.indexed, h.definition, List.head?_eq_none_iff]
  exact ((definedOnce_snoc ds d).1 hd).2

lemma declareAll (h : t.Folds ds) (hes : t.declareAll es = .ok t') : t'.Folds (ds ++ es) := by
  induction es generalizing t ds with
  | nil =>
    cases hes
    simpa using h
  | cons e es ih =>
    rw [NameTable.declareAll, List.foldlM_cons] at hes
    cases he : t.declare e with
    | error n => simp [he, bind, Except.bind] at hes
    | ok u =>
      rw [he] at hes
      simpa using ih (h.declare he) hes

lemma exists_declareAll (h : t.Folds ds) (hes : DefinedOnce (ds ++ es)) :
    ∃ t', t.declareAll es = .ok t' := by
  induction es generalizing t ds with
  | nil => exact ⟨t, rfl⟩
  | cons e es ih =>
    have hsplit : ds ++ e :: es = ds ++ [e] ++ es := by simp
    rw [hsplit] at hes
    -- a name that is defined once in the whole list is so in the part read
    have hpart : DefinedOnce (ds ++ [e]) := fun n =>
      Nat.le_trans ((List.sublist_append_left _ es).filter _).length_le (hes n)
    obtain ⟨u, hu⟩ := h.exists_declare hpart
    obtain ⟨t', ht'⟩ := ih (h.declare hu) hes
    refine ⟨t', ?_⟩
    rw [NameTable.declareAll, List.foldlM_cons, hu]
    exact ht'

end Folds

lemma folds_empty : (empty : NameTable α).Folds [] := by
  refine ⟨indexed_empty, fun n => ?_, fun n => ?_⟩
  · simp [definitionsOf]
  · simp [find?, empty, declaration?, definitionsOf, forwardsOf]

lemma folds_declareAll {t : NameTable α} {ds : List α} (h : empty.declareAll ds = .ok t) :
    t.Folds ds := by
  simpa using folds_empty.declareAll h

/-- **Folding** a list of declarations succeeds exactly if no name is defined twice. -/
theorem exists_declareAll_iff (ds : List α) :
    (∃ t, empty.declareAll ds = .ok t) ↔ DefinedOnce ds := by
  constructor
  · rintro ⟨t, ht⟩
    exact (folds_declareAll ht).once
  · intro h
    exact folds_empty.exists_declareAll h

/-! ### Definitions -/

lemma nodup_decls {t : NameTable α} (ht : t.Indexed) : t.decls.toList.Nodup := by
  rw [List.nodup_iff_getElem?_ne_getElem?]
  intro i j hij hj heq
  obtain ⟨d, hd⟩ : ∃ d, t.decls.toList[j]? = some d := ⟨_, List.getElem?_eq_getElem hj⟩
  have hdj : t.decls[j]? = some d := by simpa using hd
  have hdi : t.decls[i]? = some d := by simpa using heq.trans hd
  -- the name of a declaration leads to one position only
  have hsame := ((ht _ i).2 ⟨d, hdi, rfl⟩).symm.trans ((ht _ j).2 ⟨d, hdj, rfl⟩)
  exact absurd (Option.some.inj hsame) (by omega)

lemma DefinedOnce.nodup {ds : List α} (h : DefinedOnce ds) : (ds.filter (!forward ·)).Nodup := by
  rw [List.nodup_iff_sublist]
  intro d hd
  have htwice : List.Sublist [d, d] (definitionsOf ds (name d)) := by
    have hf : forward d = false := by
      have hmem := (List.mem_filter.1 (hd.subset List.mem_cons_self)).2
      simpa using hmem
    simpa [definitionsOf, hf] using hd.filter fun e => decide (name e = name d)
  have htwo : 2 ≤ (definitionsOf ds (name d)).length := htwice.length_le
  have hone := h (name d)
  omega

lemma DefinedOnce.head?_eq_some_iff {ds : List α} (h : DefinedOnce ds) {n : String} {d : α} :
    (definitionsOf ds n).head? = some d ↔ d ∈ ds ∧ name d = n ∧ forward d = false := by
  rw [← mem_definitionsOf]
  have hn := h n
  rcases hds : definitionsOf ds n with _ | ⟨e, _ | ⟨f, es⟩⟩
  · simp
  · simp [eq_comm]
  · rw [hds] at hn
    simp at hn

/-- A table with the definitions of a list holds them in some order. -/
lemma definitions_perm {t : NameTable α} {ds : List α} (ht : t.Indexed) (hds : DefinedOnce ds)
    (h : ∀ n, t.definition? n = (definitionsOf ds n).head?) :
    (t.decls.toList.filter (!forward ·)).Perm (ds.filter (!forward ·)) := by
  refine (List.perm_ext_iff_of_nodup ((nodup_decls ht).filter _) hds.nodup).2 fun d => ?_
  have hd := (definition?_eq_some_iff ht (n := name d) (d := d)).symm
  rw [h, hds.head?_eq_some_iff] at hd
  simpa using hd

/-! ### Order -/

/-- The names that are declared, in the order in which they come first. -/
def firstNames (ds : List α) : List String := (ds.map name).eraseDups

/-- The definitions of a list, in the order in which their names come first. -/
def definitionsInOrder (ds : List α) : List α := (firstNames ds).flatMap (definitionsOf ds)

lemma firstNames_snoc (ds : List α) (d : α) :
    firstNames (ds ++ [d]) =
      if name d ∈ firstNames ds then firstNames ds else firstNames ds ++ [name d] := by
  simp only [firstNames, List.map_append, List.map_singleton, eraseDups_concat, List.mem_eraseDups]

/-- Declaring appends the name or leaves the order of the names as it is. -/
lemma names_declare {t t' : NameTable α} {d : α} (ht : t.Indexed) (h : t.declare d = .ok t') :
    t'.decls.toList.map name =
      if name d ∈ t.decls.toList.map name then t.decls.toList.map name
      else t.decls.toList.map name ++ [name d] := by
  unfold declare at h
  split at h
  · next hd =>
    cases h
    have hnew : name d ∉ t.decls.toList.map name := by
      rw [mem_names_iff ht]
      rintro ⟨e, he⟩
      simp [find?, hd] at he
    rw [if_neg hnew]
    simp [push]
  · next i hi =>
    obtain ⟨old, hold, hname⟩ := (ht _ i).1 hi
    obtain ⟨hlt, hget⟩ := Array.getElem?_eq_some_iff.1 hold
    have hmem : name d ∈ t.decls.toList.map name :=
      List.mem_map.2 ⟨old, by rw [← hget]; simp, hname⟩
    simp only [hold] at h
    rw [if_pos hmem]
    split_ifs at h with hf hfold
    · cases h
      rfl
    · -- the definition has the name of the declaration whose place it takes
      cases h
      have hplace : (t.decls.toList.map name)[i]? = some (name d) := by simp [hold, hname]
      obtain ⟨hlt, hat⟩ := List.getElem?_eq_some_iff.1 hplace
      rw [Array.toList_setIfInBounds, List.map_set, ← hat]
      exact List.set_getElem_self hlt

lemma names_declareAll {t t' : NameTable α} {ds es : List α} (ht : t.Indexed)
    (hds : t.decls.toList.map name = firstNames ds) (h : t.declareAll es = .ok t') :
    t'.decls.toList.map name = firstNames (ds ++ es) := by
  induction es generalizing t ds with
  | nil =>
    cases h
    simpa using hds
  | cons e es ih =>
    rw [declareAll, List.foldlM_cons] at h
    cases he : t.declare e with
    | error n => simp [he, bind, Except.bind] at h
    | ok u =>
      rw [he] at h
      have hnames : u.decls.toList.map name = firstNames (ds ++ [e]) := by
        rw [names_declare ht he, firstNames_snoc, hds]
      simpa using ih (indexed_declare ht he) hnames h

lemma names_eq_firstNames {t : NameTable α} {ds : List α} (h : empty.declareAll ds = .ok t) :
    t.decls.toList.map name = firstNames ds :=
  names_declareAll indexed_empty (show _ = firstNames ([] : List α) from rfl) h

/-- What a table holds stands in the order of the names. -/
lemma decls_declareAll {t : NameTable α} {ds : List α} (h : empty.declareAll ds = .ok t) :
    t.decls.toList = (firstNames ds).filterMap t.find? := by
  have ht := (folds_declareAll h).indexed
  have hfind : ∀ d ∈ t.decls.toList, (t.find? ∘ name) d = some d := fun d hd =>
    (find?_eq_some_iff ht).2 ⟨hd, rfl⟩
  rw [← names_eq_firstNames h, List.filterMap_map, List.filterMap_congr hfind, List.filterMap_some]

lemma DefinedOnce.toList_head? {ds : List α} (h : DefinedOnce ds) (n : String) :
    (definitionsOf ds n).head?.toList = definitionsOf ds n := by
  have hn := h n
  rcases hds : definitionsOf ds n with _ | ⟨d, _ | ⟨e, es⟩⟩
  · rfl
  · rfl
  · rw [hds] at hn
    simp at hn

lemma DefinedOnce.head?_eq_some_iff_eq_singleton {ds : List α} (h : DefinedOnce ds) {n : String}
    {d : α} : (definitionsOf ds n).head? = some d ↔ definitionsOf ds n = [d] := by
  constructor
  · intro hd
    rw [← h.toList_head? n, hd, Option.toList_some]
  · intro hds
    rw [hds, List.head?_cons]

/-- Folding keeps each definition once, where its name comes first. -/
theorem definitions_declareAll {t : NameTable α} {ds : List α} (h : empty.declareAll ds = .ok t) :
    t.decls.toList.filter (!forward ·) = definitionsInOrder ds := by
  have hfolds := folds_declareAll h
  rw [decls_declareAll h, List.filter_filterMap, definitionsInOrder,
    List.filterMap_eq_flatMap_toList]
  congr 1
  funext n
  change (t.definition? n).toList = definitionsOf ds n
  rw [hfolds.definition, hfolds.once.toList_head?]

/-- Classes that are only mentioned are not defined. -/
lemma definitions_mentions (t : NameTable Interface) (names : List String) :
    (names.foldl mention t).decls.toList.filter (!Interface.forward ·) =
      t.decls.toList.filter (!Interface.forward ·) := by
  induction names generalizing t with
  | nil => rfl
  | cons n names ih =>
    rw [List.foldl_cons, ih, mention]
    split
    · rfl
    · simp [push, Interface.named]

end NameTable

open NameTable

/-! ### Resolved units -/

namespace Dump

/-- The class is the superclass of one that is declared, or an implementation names it. -/
def Mentions (d : Dump) (n : String) : Prop :=
  (∃ k x, declaration? d.interfaces k = some x ∧ x.superclass = some n) ∨
    ∃ i ∈ d.implementations, n ∈ i.classNames

lemma mem_referencedClasses_iff {d : Dump} {t : NameTable Interface} (ht : t.Folds d.interfaces)
    (n : String) : n ∈ referencedClasses t.decls.toList d.implementations ↔ d.Mentions n := by
  rw [referencedClasses, List.mem_append, List.mem_filterMap, List.mem_flatMap, Mentions]
  refine or_congr_left ?_
  simp only [← ht.find, find?_eq_some_iff ht.indexed]
  constructor
  · rintro ⟨x, hx, hn⟩
    exact ⟨_, x, ⟨hx, rfl⟩, hn⟩
  · rintro ⟨k, x, ⟨hx, -⟩, hn⟩
    exact ⟨x, hx, hn⟩

lemma isOk_resolve_iff (d : Dump) : d.resolve.isOk = true ↔ ∃ u, d.resolve = .ok u := by
  cases d.resolve with
  | error e => simp [Except.isOk, Except.toBool]
  | ok u => simp [Except.isOk, Except.toBool]

/-- **Resolving** fails exactly if a class or a protocol is defined twice. -/
theorem exists_resolve_iff (d : Dump) :
    (∃ u, d.resolve = .ok u) ↔ DefinedOnce d.interfaces ∧ DefinedOnce d.protocols := by
  constructor
  · rintro ⟨u, h⟩
    obtain ⟨t, p, ht, hp, -⟩ := resolve_eq_ok h
    exact ⟨(folds_declareAll ht).once, (folds_declareAll hp).once⟩
  · rintro ⟨hi, hp⟩
    obtain ⟨t, ht⟩ := (exists_declareAll_iff _).2 hi
    obtain ⟨p, hp⟩ := (exists_declareAll_iff _).2 hp
    simp only [resolve, ht, hp]
    exact ⟨_, rfl⟩

section

variable {d : Dump} {u : SourceUnit} (h : d.resolve = .ok u)
include h

lemma interface?_of_resolve {n : String} {x : Interface} :
    u.interface? n = some x ↔
      declaration? d.interfaces n = some x ∨
        declaration? d.interfaces n = none ∧ d.Mentions n ∧ x = .named n := by
  obtain ⟨t, p, ht, -, rfl⟩ := resolve_eq_ok h
  have hfold := folds_declareAll ht
  rw [SourceUnit.interface?, find?_mentions hfold.indexed, hfold.find,
    ← mem_referencedClasses_iff hfold]
  cases declaration? d.interfaces n with
  | some y => simp
  | none => simp [eq_comm]

/-- A class of the unit is declared in the dump, or it is only mentioned there. -/
lemma mem_or_eq_named_of_resolve {n : String} {x : Interface} (hx : u.interface? n = some x) :
    x ∈ d.interfaces ∨ x = .named n :=
  ((interface?_of_resolve h).1 hx).imp (fun hd => (mem_of_declaration? hd).1) fun hm => hm.2.2

lemma definition?_of_resolve (n : String) :
    u.definition? n = (definitionsOf d.interfaces n).head? := by
  obtain ⟨t, p, ht, -, rfl⟩ := resolve_eq_ok h
  have hfold := folds_declareAll ht
  rw [SourceUnit.definition?, definition?_mentions hfold.indexed, hfold.definition]

lemma protocol?_of_resolve (n : String) :
    u.protocol? n = (definitionsOf d.protocols n).head? := by
  obtain ⟨t, p, -, hp, rfl⟩ := resolve_eq_ok h
  exact (folds_declareAll hp).definition n

lemma categories_of_resolve : u.categories.toList = d.categories := by
  obtain ⟨t, p, -, -, rfl⟩ := resolve_eq_ok h
  rfl

lemma file_of_resolve : u.file = d.file := by
  obtain ⟨t, p, -, -, rfl⟩ := resolve_eq_ok h
  rfl

lemma interfaces_perm_of_resolve :
    (u.interfaces.decls.toList.filter (!Interface.forward ·)).Perm
      (d.interfaces.filter (!Interface.forward ·)) :=
  definitions_perm (resolved h).interfaces ((exists_resolve_iff d).1 ⟨u, h⟩).1
    (definition?_of_resolve h)

lemma protocols_perm_of_resolve :
    (u.protocols.decls.toList.filter (!Protocol.forward ·)).Perm
      (d.protocols.filter (!Protocol.forward ·)) :=
  definitions_perm (resolved h).protocols ((exists_resolve_iff d).1 ⟨u, h⟩).2
    (protocol?_of_resolve h)

lemma interfaces_of_resolve :
    u.interfaces.decls.toList.filter (!Interface.forward ·) = definitionsInOrder d.interfaces := by
  obtain ⟨t, p, ht, -, rfl⟩ := resolve_eq_ok h
  exact (definitions_mentions t _).trans (definitions_declareAll ht)

lemma protocols_of_resolve :
    u.protocols.decls.toList.filter (!Protocol.forward ·) = definitionsInOrder d.protocols := by
  obtain ⟨t, p, -, hp, rfl⟩ := resolve_eq_ok h
  exact definitions_declareAll hp

end

end Dump

end MethodAudit
