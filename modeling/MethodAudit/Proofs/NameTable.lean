import Mathlib.Tactic.Common
import MethodAudit.SourceUnit

/-!
Tables of declarations, seen through their look-ups.

A table built by declaring and mentioning names is indexed: its index points at the
declarations it holds and at nothing else. Looking up a name is then the same as searching the
declarations for it, and mentioning names adds forward declarations only where there was none.
-/

namespace MethodAudit.NameTable

variable {α : Type} [Declaration α]

open Declaration (name forward)

/-- The index gives a position to a name exactly if a declaration of that name stands there. -/
def Indexed (t : NameTable α) : Prop :=
  ∀ n i, t.index[n]? = some i ↔ ∃ d, t.decls[i]? = some d ∧ name d = n

lemma indexed_empty : (empty : NameTable α).Indexed := by
  intro n i
  simp [empty]

lemma find?_eq_some_iff {t : NameTable α} (ht : t.Indexed) {n : String} {d : α} :
    t.find? n = some d ↔ d ∈ t.decls.toList ∧ name d = n := by
  constructor
  · intro h
    obtain ⟨i, hi, hd⟩ := Option.bind_eq_some_iff.1 h
    obtain ⟨e, he, rfl⟩ := (ht n i).1 hi
    rw [he] at hd
    cases hd
    exact ⟨mem_of_find? h, rfl⟩
  · rintro ⟨hd, rfl⟩
    obtain ⟨i, hi⟩ := List.mem_iff_getElem?.1 hd
    have hi' : t.decls[i]? = some d := by simpa using hi
    exact Option.bind_eq_some_iff.2 ⟨i, (ht _ i).2 ⟨d, hi', rfl⟩, hi'⟩

/-- A name is declared once. -/
lemma eq_of_name_eq {t : NameTable α} (ht : t.Indexed) {d e : α} (hd : d ∈ t.decls.toList)
    (he : e ∈ t.decls.toList) (h : name d = name e) : d = e := by
  have hfind := (find?_eq_some_iff ht).2 ⟨hd, h⟩
  exact Option.some.inj (hfind.symm.trans ((find?_eq_some_iff ht).2 ⟨he, rfl⟩))

lemma definition?_eq_some_iff {t : NameTable α} (ht : t.Indexed) {n : String} {d : α} :
    t.definition? n = some d ↔ d ∈ t.decls.toList ∧ name d = n ∧ forward d = false := by
  simp only [definition?, Option.filter_eq_some_iff, find?_eq_some_iff ht, Bool.not_eq_true',
    and_assoc]

lemma mem_names_iff {t : NameTable α} (ht : t.Indexed) {n : String} :
    n ∈ t.decls.toList.map name ↔ ∃ d, t.find? n = some d := by
  simp only [find?_eq_some_iff ht, List.mem_map]

lemma contains_iff {t : NameTable α} (ht : t.Indexed) {n : String} :
    t.index.contains n = true ↔ ∃ d, t.find? n = some d := by
  rw [Std.TreeMap.contains_eq_isSome_getElem?, Option.isSome_iff_exists]
  constructor
  · rintro ⟨i, hi⟩
    obtain ⟨d, hd, -⟩ := (ht n i).1 hi
    exact ⟨d, Option.bind_eq_some_iff.2 ⟨i, hi, hd⟩⟩
  · rintro ⟨d, hd⟩
    obtain ⟨i, hi, -⟩ := Option.bind_eq_some_iff.1 hd
    exact ⟨i, hi⟩

/-! ### Declaring -/

lemma index_push (t : NameTable α) (d : α) (n : String) :
    (t.push d).index[n]? = if n = name d then some t.decls.size else t.index[n]? := by
  have h : compare (name d) n = .eq ↔ n = name d :=
    Std.LawfulEqCmp.compare_eq_iff_eq.trans eq_comm
  simp only [push, Std.TreeMap.getElem?_insert, h]

lemma mem_push {t : NameTable α} {d e : α} :
    e ∈ (t.push d).decls.toList ↔ e ∈ t.decls.toList ∨ e = d := by
  simp [push]

lemma indexed_push {t : NameTable α} (ht : t.Indexed) {d : α} (hd : t.index[name d]? = none) :
    (t.push d).Indexed := by
  intro n i
  have hlt : ∀ e, t.decls[i]? = some e → i < t.decls.size := fun e he =>
    (Array.getElem?_eq_some_iff.1 he).1
  rw [index_push, push, Array.getElem?_push]
  split_ifs with hn hi hi
  · simp [hn, hi]
  · subst hn
    refine ⟨fun h => absurd (Option.some.inj h).symm hi, ?_⟩
    rintro ⟨e, he, hname⟩
    rw [(ht _ i).2 ⟨e, he, hname⟩] at hd
    cases hd
  · refine ⟨fun h => ?_, ?_⟩
    · obtain ⟨e, he, -⟩ := (ht n i).1 h
      exact absurd (hlt e he) (by omega)
    · rintro ⟨e, he, rfl⟩
      cases he
      exact absurd rfl hn
  · exact ht n i

lemma find?_push {t : NameTable α} (ht : t.Indexed) {d : α} (hd : t.index[name d]? = none)
    (n : String) : (t.push d).find? n = if n = name d then some d else t.find? n := by
  have hp := indexed_push ht hd
  split_ifs with hn
  · exact (find?_eq_some_iff hp).2 ⟨mem_push.2 (.inr rfl), hn.symm⟩
  · ext e
    rw [find?_eq_some_iff hp, find?_eq_some_iff ht, mem_push]
    constructor
    · rintro ⟨he | rfl, hen⟩
      · exact ⟨he, hen⟩
      · exact absurd hen.symm hn
    · rintro ⟨he, hen⟩
      exact ⟨.inl he, hen⟩

/-- A definition takes the place of a declaration of the same name. -/
lemma indexed_set {t : NameTable α} (ht : t.Indexed) {i : Nat} {old d : α}
    (hold : t.decls[i]? = some old) (hname : name old = name d) :
    ({ t with decls := t.decls.setIfInBounds i d } : NameTable α).Indexed := by
  intro n j
  rw [ht n j, Array.getElem?_setIfInBounds]
  have hi : i < t.decls.size := (Array.getElem?_eq_some_iff.1 hold).1
  split_ifs with hij
  · subst hij
    simp [hold, hname]
  · rfl

lemma indexed_declare {t t' : NameTable α} {d : α} (ht : t.Indexed) (h : t.declare d = .ok t') :
    t'.Indexed := by
  unfold declare at h
  split at h
  · next hd =>
    cases h
    exact indexed_push ht hd
  · next i hi =>
    obtain ⟨old, hold, hname⟩ := (ht _ i).1 hi
    simp only [hold] at h
    split_ifs at h
    · cases h
      exact ht
    · cases h
      exact indexed_set ht hold hname

lemma indexed_declareAll {ds : List α} {t t' : NameTable α} (ht : t.Indexed)
    (h : t.declareAll ds = .ok t') : t'.Indexed := by
  induction ds generalizing t with
  | nil =>
    cases h
    exact ht
  | cons d ds ih =>
    simp only [declareAll, List.foldlM_cons] at h
    cases hd : t.declare d with
    | error e => simp [hd, bind, Except.bind] at h
    | ok u =>
      rw [hd] at h
      exact ih (indexed_declare ht hd) h

/-! ### Mentioning -/

omit [Declaration α] in
lemma index_eq_none_of_not_contains {t : NameTable α} {n : String}
    (h : ¬t.index.contains n = true) : t.index[n]? = none := by
  rwa [Std.TreeMap.contains_eq_isSome_getElem?, Bool.not_eq_true, Option.isSome_eq_false_iff,
    Option.isNone_iff_eq_none] at h

lemma indexed_mention {t : NameTable Interface} (ht : t.Indexed) (n : String) :
    (t.mention n).Indexed := by
  unfold mention
  split_ifs with h
  · exact ht
  · exact indexed_push ht (index_eq_none_of_not_contains h)

lemma find?_mention {t : NameTable Interface} (ht : t.Indexed) (n k : String) :
    (t.mention n).find? k = (t.find? k <|> if k = n then some (.named n) else none) := by
  have hname : name (Interface.named n) = n := rfl
  unfold mention
  split_ifs with h hk hk
  · obtain ⟨d, hd⟩ := (contains_iff ht).1 h
    simp [hk, hd]
  · simp
  · have hn := index_eq_none_of_not_contains h
    rw [find?_push ht hn, hname, if_pos hk, hk, find?, hn]
    rfl
  · rw [find?_push ht (index_eq_none_of_not_contains h), hname, if_neg hk]
    simp

lemma indexed_mentions {t : NameTable Interface} (ht : t.Indexed) (names : List String) :
    (names.foldl mention t).Indexed := by
  induction names generalizing t with
  | nil => exact ht
  | cons n names ih => exact ih (indexed_mention ht n)

/-- **Mentioning names** leaves every declaration in place and makes a bare one for each name
that had none. -/
lemma find?_mentions {t : NameTable Interface} (ht : t.Indexed) (names : List String)
    (k : String) :
    (names.foldl mention t).find? k =
      (t.find? k <|> if k ∈ names then some (.named k) else none) := by
  induction names generalizing t with
  | nil => simp
  | cons n names ih =>
    rw [List.foldl_cons, ih (indexed_mention ht n), find?_mention ht]
    by_cases hn : k = n <;> cases t.find? k <;> simp [hn]

/-- A declaration was there before the names were mentioned, or it is a bare one. -/
lemma cases_of_find?_mentions {t : NameTable Interface} (ht : t.Indexed) {names : List String}
    {k : String} {i : Interface} (h : (names.foldl mention t).find? k = some i) :
    t.find? k = some i ∨ k ∈ names ∧ i = .named k := by
  rw [find?_mentions ht] at h
  cases hf : t.find? k with
  | some j =>
    rw [hf] at h
    exact .inl h
  | none =>
    rw [hf] at h
    have hk : k ∈ names ∧ Interface.named k = i := by simpa using h
    exact .inr ⟨hk.1, hk.2.symm⟩

/-- A bare declaration is no definition. -/
lemma definition?_mentions {t : NameTable Interface} (ht : t.Indexed) (names : List String)
    (k : String) : (names.foldl mention t).definition? k = t.definition? k := by
  rw [definition?, definition?, find?_mentions ht]
  cases t.find? k with
  | some i => rfl
  | none =>
    by_cases hk : k ∈ names
    · simp [hk, forward, Interface.named]
    · simp [hk]

end MethodAudit.NameTable
