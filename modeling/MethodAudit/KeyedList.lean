/-!
Lists of values under keys, where a key that gets a new value keeps its place.
-/

namespace MethodAudit

variable {α : Type}

/-- Gives a key a value, in its old place or at the end. -/
def assign (key : String) (v : α) : List (String × α) → List (String × α)
  | [] => [(key, v)]
  | (k, old) :: rest => if k = key then (k, v) :: rest else (k, old) :: assign key v rest

theorem lookup_cons_ite (k key : String) (v : α) (l : List (String × α)) :
    ((key, v) :: l).lookup k = if k = key then some v else l.lookup k := by
  rw [List.lookup_cons]
  by_cases h : k = key
  · simp [h]
  · have hbeq : (k == key) = false := by simp [h]
    simp [hbeq, h]

theorem lookup_assign (key : String) (v : α) (l : List (String × α)) (k : String) :
    (assign key v l).lookup k = if k = key then some v else l.lookup k := by
  induction l with
  | nil => simp [assign, lookup_cons_ite]
  | cons x l ih =>
    obtain ⟨m, old⟩ := x
    rw [assign, lookup_cons_ite]
    by_cases hm : m = key
    · rw [if_pos hm, lookup_cons_ite, hm]
      by_cases hk : k = key <;> simp [hk]
    · rw [if_neg hm, lookup_cons_ite, ih]
      by_cases hkm : k = m
      · simp [hkm, hm]
      · simp [hkm]

theorem mem_assign {key : String} {v : α} {l : List (String × α)} {x : String × α}
    (h : x ∈ assign key v l) : x = (key, v) ∨ x ∈ l := by
  induction l with
  | nil => exact .inl (List.mem_singleton.1 h)
  | cons y l ih =>
    obtain ⟨m, old⟩ := y
    rw [assign] at h
    by_cases hm : m = key
    · rw [if_pos hm, hm] at h
      rcases List.mem_cons.1 h with rfl | hmem
      · exact .inl rfl
      · exact .inr (List.mem_cons_of_mem _ hmem)
    · rw [if_neg hm] at h
      rcases List.mem_cons.1 h with rfl | hmem
      · exact .inr List.mem_cons_self
      · exact (ih hmem).imp_right (List.mem_cons_of_mem _)

theorem assign_of_not_mem {key : String} {l : List (String × α)} (h : key ∉ l.map Prod.fst)
    (v : α) : assign key v l = l ++ [(key, v)] := by
  induction l with
  | nil => rfl
  | cons x l ih =>
    rw [List.map_cons, List.mem_cons, not_or] at h
    rw [assign, if_neg (Ne.symm h.1), ih h.2, List.cons_append]

theorem keys_assign_of_mem {key : String} {l : List (String × α)} (h : key ∈ l.map Prod.fst)
    (v : α) : (assign key v l).map Prod.fst = l.map Prod.fst := by
  induction l with
  | nil => simp at h
  | cons x l ih =>
    obtain ⟨m, old⟩ := x
    rw [assign]
    by_cases hm : m = key
    · simp [hm]
    · have hmem : key ∈ l.map Prod.fst := by simpa [Ne.symm hm] using h
      rw [if_neg hm, List.map_cons, ih hmem, List.map_cons]

/-- Keys that are all different stay so. -/
theorem nodup_keys_assign {l : List (String × α)} (h : (l.map Prod.fst).Nodup) (key : String)
    (v : α) : ((assign key v l).map Prod.fst).Nodup := by
  by_cases hmem : key ∈ l.map Prod.fst
  · rwa [keys_assign_of_mem hmem]
  · rw [assign_of_not_mem hmem, List.map_append, List.map_singleton]
    refine List.nodup_append.2 ⟨h, by simp, fun a ha b hb => ?_⟩
    rintro rfl
    rw [List.mem_singleton.1 hb] at ha
    exact hmem ha

end MethodAudit
