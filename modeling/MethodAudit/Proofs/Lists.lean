import Mathlib.Data.List.Basic
import Mathlib.Data.List.Induction
import MethodAudit.KeyedList

/-!
Lists without what was there before, and the values in a list under keys.
-/

namespace MethodAudit

variable {α : Type}

/-- One more element is left out if it was there before. -/
lemma eraseDups_concat [DecidableEq α] (l : List α) (a : α) :
    (l ++ [a]).eraseDups = if a ∈ l then l.eraseDups else l.eraseDups ++ [a] := by
  rw [List.eraseDups_append]
  by_cases ha : a ∈ l
  · have hold : [a].removeAll l = [] := by simpa [List.removeAll] using ha
    rw [if_pos ha, hold]
    simp
  · have hnew : [a].removeAll l = [a] := by simpa [List.removeAll] using ha
    rw [if_neg ha, hnew]
    rfl

lemma eraseDups_of_nodup [DecidableEq α] {l : List α} (h : l.Nodup) : l.eraseDups = l := by
  induction l with
  | nil => rfl
  | cons a l ih =>
    rw [List.nodup_cons] at h
    have hothers : l.filter (fun b => !b == a) = l :=
      List.filter_eq_self.2 fun b hb => by simpa using ne_of_mem_of_not_mem hb h.1
    rw [List.eraseDups_cons, hothers, ih h.2]

lemma map_eraseDups {β : Type} [DecidableEq α] [DecidableEq β] {f : α → β}
    (hf : Function.Injective f) (l : List α) : l.eraseDups.map f = (l.map f).eraseDups := by
  induction l using List.reverseRecOn with
  | nil => rfl
  | append_singleton l a ih =>
    rw [List.map_append, List.map_singleton, eraseDups_concat, eraseDups_concat,
      apply_ite (List.map f), List.map_append, List.map_singleton, ih]
    simp only [List.mem_map_of_injective hf]

/-! ### Keys -/

lemma lookup_map_snd {β : Type} (g : α → β) (l : List (String × α)) (k : String) :
    (l.map fun p => (p.1, g p.2)).lookup k = (l.lookup k).map g := by
  induction l with
  | nil => rfl
  | cons p l ih =>
    obtain ⟨key, v⟩ := p
    rw [List.map_cons, lookup_cons_ite, lookup_cons_ite, ih]
    split <;> rfl

lemma mem_of_lookup {key : String} {v : α} {l : List (String × α)} (h : l.lookup key = some v) :
    (key, v) ∈ l := by
  obtain ⟨before, after, rfl, -⟩ := List.lookup_eq_some_iff.1 h
  simp

lemma exists_lookup_of_mem {key : String} {v : α} {l : List (String × α)} (h : (key, v) ∈ l) :
    ∃ w, l.lookup key = some w := by
  by_contra hnone
  have hlookup : l.lookup key = none := Option.eq_none_iff_forall_ne_some.2 (not_exists.1 hnone)
  rw [List.lookup_eq_none_iff] at hlookup
  simpa using hlookup _ h

lemma lookup_of_mem {key : String} {v : α} {l : List (String × α)} (hnodup : (l.map Prod.fst).Nodup)
    (h : (key, v) ∈ l) : l.lookup key = some v := by
  induction l with
  | nil => exact nomatch h
  | cons x l ih =>
    obtain ⟨m, old⟩ := x
    rw [List.map_cons, List.nodup_cons] at hnodup
    rw [lookup_cons_ite]
    rcases List.mem_cons.1 h with heq | hmem
    · rw [Prod.mk.injEq] at heq
      rw [if_pos heq.1, heq.2]
    · have hne : key ≠ m := by
        rintro rfl
        exact hnodup.1 (List.mem_map.2 ⟨_, hmem, rfl⟩)
      rw [if_neg hne, ih hnodup.2 hmem]

end MethodAudit
