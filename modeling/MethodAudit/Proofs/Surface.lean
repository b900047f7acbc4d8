import MethodAudit.Proofs.Hierarchy
import MethodAudit.Surface

/-!
Searching the declared surface with one set of visited protocols.

A search may pass over the protocols that earlier searches visited because of what these left
behind: none of the protocols visited declares the method, and all that they adopt has been
visited as well. While a search runs, what is adopted may also be pending. Such a set can be
handed on from class to class and from category to category; every answer is the one that a
search with an empty set would give.
-/

namespace MethodAudit.SourceUnit

variable (u : SourceUnit) (m : Method)

/-- The protocol of a name is defined and declares `m`, or it adopts one that offers `m`. -/
inductive Offers : String → Prop
  | own {n : String} {p : Protocol} (hp : u.protocol? n = some p) (hm : p.body.declares m = true) :
    Offers n
  | adopted {n k : String} {p : Protocol} (hp : u.protocol? n = some p)
    (hk : k ∈ p.body.protocols) (h : Offers k) : Offers n

/-- No visited protocol declares `m`, and a protocol that it adopts is visited or pending. -/
def Spent (visited pending : List String) : Prop :=
  ∀ n ∈ visited, ∀ p, u.protocol? n = some p →
    p.body.declares m = false ∧
      ∀ k ∈ p.body.protocols, ∀ q, u.protocol? k = some q → k ∈ visited ∨ k ∈ pending

variable {u m}

lemma spent_nil : u.Spent m [] [] := by
  intro n hn
  cases hn

lemma not_offers_of_spent {visited : List String} (hs : u.Spent m visited []) {n : String}
    (hn : n ∈ visited) : ¬u.Offers m n := by
  intro h
  induction h with
  | own hp hm =>
    rw [(hs _ hn _ hp).1] at hm
    cases hm
  | adopted hp hk h ih =>
    -- what a protocol offers is defined, so the adopted name was visited too
    obtain ⟨q, hq⟩ : ∃ q, u.protocol? _ = some q := by
      cases h with
      | own hq | adopted hq => exact ⟨_, hq⟩
    rcases (hs _ hn _ hp).2 _ hk q hq with hv | hv
    · exact ih hv
    · cases hv

/-! ### The search of protocols -/

section Equations

variable {visited rest : List String} {name : String}

lemma searchProtocols_undefined (hp : u.protocol? name = none) :
    u.searchProtocols m visited (name :: rest) = u.searchProtocols m visited rest := by
  rw [searchProtocols]
  split
  · rfl
  · simp_all

lemma searchProtocols_defined {p : Protocol} (hp : u.protocol? name = some p) :
    u.searchProtocols m visited (name :: rest) =
      if p.name ∈ visited then u.searchProtocols m visited rest
      else if p.body.declares m = true then .found
      else u.searchProtocols m (p.name :: visited) (p.body.protocols ++ rest) := by
  rw [searchProtocols]
  split
  · simp_all
  · next q hq =>
    cases hp.symm.trans hq
    rfl

end Equations

lemma offers_of_found {visited names : List String}
    (h : u.searchProtocols m visited names = .found) : ∃ n ∈ names, u.Offers m n := by
  induction visited, names using searchProtocols.induct u m with
  | case1 visited => simp [searchProtocols] at h
  | case2 visited name rest hp ih =>
    rw [searchProtocols_undefined hp] at h
    obtain ⟨n, hn, ho⟩ := ih h
    exact ⟨n, List.mem_cons_of_mem _ hn, ho⟩
  | case3 visited name rest p hp hv ih =>
    rw [searchProtocols_defined hp, if_pos hv] at h
    obtain ⟨n, hn, ho⟩ := ih h
    exact ⟨n, List.mem_cons_of_mem _ hn, ho⟩
  | case4 visited name rest p hp hv hm =>
    exact ⟨name, List.mem_cons_self, .own hp hm⟩
  | case5 visited name rest p hp hv hm ih =>
    rw [searchProtocols_defined hp, if_neg hv, if_neg hm] at h
    obtain ⟨n, hn, ho⟩ := ih h
    rcases List.mem_append.1 hn with hn | hn
    · exact ⟨name, List.mem_cons_self, .adopted hp hn ho⟩
    · exact ⟨n, List.mem_cons_of_mem _ hn, ho⟩

/-- A name that is undefined or visited need not stay pending. -/
lemma Spent.drop {visited rest : List String} {name : String}
    (hs : u.Spent m visited (name :: rest))
    (hn : ∀ p, u.protocol? name = some p → name ∈ visited) : u.Spent m visited rest := by
  intro n hv p hp
  refine ⟨(hs n hv p hp).1, fun k hk q hq => ?_⟩
  rcases (hs n hv p hp).2 k hk q hq with h | h
  · exact .inl h
  · rcases List.mem_cons.1 h with rfl | h
    · exact .inl (hn q hq)
    · exact .inr h

/-- Visiting a protocol that does not declare `m` makes what it adopts pending. -/
lemma Spent.visit {visited rest : List String} {name : String} {p : Protocol}
    (hs : u.Spent m visited (name :: rest)) (hp : u.protocol? name = some p)
    (hm : p.body.declares m = false) :
    u.Spent m (name :: visited) (p.body.protocols ++ rest) := by
  intro n hv p' hp'
  rcases List.mem_cons.1 hv with rfl | hv
  · cases hp.symm.trans hp'
    exact ⟨hm, fun k hk q hq => .inr (List.mem_append_left _ hk)⟩
  · refine ⟨(hs n hv p' hp').1, fun k hk q hq => ?_⟩
    rcases (hs n hv p' hp').2 k hk q hq with h | h
    · exact .inl (List.mem_cons_of_mem _ h)
    · rcases List.mem_cons.1 h with rfl | h
      · exact .inl List.mem_cons_self
      · exact .inr (List.mem_append_right _ h)

/-- **The invariant of the search**: it keeps what was visited, leaves nothing pending and has
visited every name that is defined. -/
lemma spent_of_visited (hu : u.Resolved) {visited names left : List String}
    (hs : u.Spent m visited names) (h : u.searchProtocols m visited names = .visited left) :
    u.Spent m left [] ∧ visited ⊆ left ∧ ∀ n ∈ names, ∀ p, u.protocol? n = some p → n ∈ left := by
  induction visited, names using searchProtocols.induct u m with
  | case1 visited =>
    rw [searchProtocols] at h
    cases h
    exact ⟨hs, fun _ h => h, by simp⟩
  | case2 visited name rest hp ih =>
    rw [searchProtocols_undefined hp] at h
    have hd := hs.drop fun p hp' => by simp [hp] at hp'
    obtain ⟨h1, h2, h3⟩ := ih hd h
    refine ⟨h1, h2, fun n hn p hp' => ?_⟩
    rcases List.mem_cons.1 hn with rfl | hn
    · simp [hp] at hp'
    · exact h3 n hn p hp'
  | case3 visited name rest p hp hv ih =>
    have hname : p.name = name := ((hu.protocol?_eq_some_iff).1 hp).2.1
    rw [searchProtocols_defined hp, if_pos hv] at h
    obtain ⟨h1, h2, h3⟩ := ih (hs.drop fun _ _ => hname ▸ hv) h
    refine ⟨h1, h2, fun n hn q hq => ?_⟩
    rcases List.mem_cons.1 hn with rfl | hn
    · exact h2 (hname ▸ hv)
    · exact h3 n hn q hq
  | case4 visited name rest p hp hv hm =>
    rw [searchProtocols_defined hp, if_neg hv, if_pos hm] at h
    cases h
  | case5 visited name rest p hp hv hm ih =>
    have hname : p.name = name := ((hu.protocol?_eq_some_iff).1 hp).2.1
    rw [searchProtocols_defined hp, if_neg hv, if_neg hm] at h
    rw [hname] at h ih
    obtain ⟨h1, h2, h3⟩ := ih (hs.visit hp (by simpa using hm)) h
    refine ⟨h1, fun n hn => h2 (List.mem_cons_of_mem _ hn), fun n hn q hq => ?_⟩
    rcases List.mem_cons.1 hn with rfl | hn
    · exact h2 List.mem_cons_self
    · exact h3 n (List.mem_append_right _ hn) q hq

/-! ### Searches that hand on what they visited -/

variable (u m) in
/-- From any spent set the search finds `m` exactly if `P` holds, and else leaves a spent
set. -/
def Decides (search : List String → Search) (P : Prop) : Prop :=
  ∀ visited, u.Spent m visited [] →
    (search visited = .found ∧ P) ∨
      ∃ left, search visited = .visited left ∧ u.Spent m left [] ∧ ¬P

lemma Decides.isFound_iff {search : List String → Search} {P : Prop}
    (h : u.Decides m search P) : (search []).isFound = true ↔ P := by
  rcases h [] spent_nil with ⟨hf, hP⟩ | ⟨left, hf, -, hP⟩ <;> simp [hf, hP, Search.isFound]

/-- A search decides what it answers when nothing has been visited. -/
lemma Decides.fresh {search : List String → Search} {P : Prop} (h : u.Decides m search P) :
    u.Decides m search ((search []).isFound = true) := by
  rwa [h.isFound_iff]

lemma decides_visited : u.Decides m (fun visited => .visited visited) False := by
  intro visited hs
  exact .inr ⟨visited, rfl, hs, not_false⟩

lemma decides_protocols (hu : u.Resolved) (names : List String) :
    u.Decides m (fun visited => u.searchProtocols m visited names)
      (∃ n ∈ names, u.Offers m n) := by
  intro visited hs
  cases h : u.searchProtocols m visited names with
  | found => exact .inl ⟨h, offers_of_found h⟩
  | visited left =>
    have hs' : u.Spent m visited names := fun n hn p hp =>
      ⟨(hs n hn p hp).1, fun k hk q hq => .inl (((hs n hn p hp).2 k hk q hq).resolve_right nofun)⟩
    obtain ⟨h1, -, h3⟩ := spent_of_visited hu hs' h
    refine .inr ⟨left, h, h1, ?_⟩
    rintro ⟨n, hn, ho⟩
    obtain ⟨q, hq⟩ : ∃ q, u.protocol? n = some q := by
      cases ho with
      | own hq | adopted hq => exact ⟨_, hq⟩
    exact not_offers_of_spent h1 (h3 n hn q hq) ho

lemma Decides.orElse {search : List String → Search} {P : Prop} (h : u.Decides m search P)
    (b : Bool) :
    u.Decides m (fun visited => if b = true then .found else search visited) (b = true ∨ P) := by
  cases b with
  | true =>
    intro visited hs
    exact .inl ⟨rfl, .inl rfl⟩
  | false => simpa [Decides] using h

lemma Decides.andThen {first next : List String → Search} {P Q : Prop}
    (hf : u.Decides m first P) (hn : u.Decides m next Q) :
    u.Decides m (fun visited => (first visited).andThen next) (P ∨ Q) := by
  intro visited hs
  rcases hf visited hs with ⟨h, hP⟩ | ⟨left, h, hl, hP⟩
  · exact .inl ⟨by simp only [h, Search.andThen], .inl hP⟩
  · rcases hn left hl with ⟨h', hQ⟩ | ⟨left', h', hl', hQ⟩
    · exact .inl ⟨by simp only [h, Search.andThen, h'], .inr hQ⟩
    · exact .inr ⟨left', by simp only [h, Search.andThen, h'], hl', not_or.2 ⟨hP, hQ⟩⟩

lemma decides_through {search : α → List String → Search} {P : α → Prop} (xs : List α)
    (h : ∀ x ∈ xs, u.Decides m (search x) (P x)) :
    u.Decides m (fun visited => Search.through search visited xs) (∃ x ∈ xs, P x) := by
  -- the fold is taken apart from the left, so the first search is the one that has started
  suffices hg : ∀ (start : List String → Search) (S : Prop), u.Decides m start S →
      u.Decides m (fun visited => xs.foldl (fun s x => s.andThen (search x)) (start visited))
        (S ∨ ∃ x ∈ xs, P x) by
    simpa [Search.through] using hg _ _ decides_visited
  induction xs with
  | nil => simp
  | cons x xs ih =>
    intro start S hstart
    have hx := hstart.andThen (h x List.mem_cons_self)
    have := ih (fun y hy => h y (List.mem_cons_of_mem _ hy)) _ _ hx
    simpa only [List.foldl_cons, List.mem_cons, exists_eq_or_imp, or_assoc] using this

/-! ### Classes and their categories -/

lemma decides_interface (hu : u.Resolved) (i : Interface) :
    u.Decides m (u.searchInterface m i) (u.interfaceDeclares i m = true) :=
  ((decides_through (u.ancestors i) fun a _ => decides_protocols hu a.body.protocols).orElse
    (i.body.declares m)).fresh

lemma decides_category (hu : u.Resolved) (c : Category) :
    u.Decides m (u.searchBody m c.body) (u.categoryDeclares c m = true) :=
  ((decides_protocols hu c.body.protocols).orElse (c.body.declares m)).fresh

lemma decides_class (hu : u.Resolved) (i : Interface) :
    u.Decides m (u.searchClass m i)
      (∃ x, u.definition? i.name = some x ∧
        (u.interfaceDeclares x m = true ∨
          ∃ c ∈ u.categoriesOf x.name, u.categoryDeclares c m = true)) := by
  cases hx : u.definition? i.name with
  | none =>
    have hs : u.searchClass m i = fun visited => .visited visited := by
      funext visited
      simp [searchClass, hx]
    simpa [hs] using decides_visited
  | some x =>
    have hs : u.searchClass m i = fun visited =>
        (u.searchInterface m x visited).andThen fun visited =>
          Search.through (fun c : Category => u.searchBody m c.body) visited
            (u.categoriesOf x.name) := by
      funext visited
      simp [searchClass, hx]
    rw [hs]
    simpa using (decides_interface hu x).andThen
      (decides_through (u.categoriesOf x.name) fun c _ => decides_category hu c)

lemma interfaceDeclares_iff (hu : u.Resolved) (i : Interface) :
    u.interfaceDeclares i m = true ↔
      i.body.declares m = true ∨ ∃ a ∈ u.ancestors i, ∃ n ∈ a.body.protocols, u.Offers m n :=
  ((decides_through (u.ancestors i) fun a _ => decides_protocols hu a.body.protocols).orElse
    (i.body.declares m)).isFound_iff

lemma categoryDeclares_iff (hu : u.Resolved) (c : Category) :
    u.categoryDeclares c m = true ↔
      c.body.declares m = true ∨ ∃ n ∈ c.body.protocols, u.Offers m n :=
  ((decides_protocols hu c.body.protocols).orElse (c.body.declares m)).isFound_iff

lemma hierarchyDeclares_iff (hu : u.Resolved) (i : Interface) :
    u.hierarchyDeclares i m = true ↔
      ∃ a ∈ u.ancestors i, ∃ x, u.definition? a.name = some x ∧
        (u.interfaceDeclares x m = true ∨
          ∃ c ∈ u.categoriesOf x.name, u.categoryDeclares c m = true) :=
  (decides_through (u.ancestors i) fun a _ => decides_class hu a).isFound_iff

/-- **One visited set serves the whole hierarchy**: the search that hands it on from ancestor
to ancestor and through their categories answers as if every query started afresh. -/
theorem hierarchyDeclares_iff_fresh {d : Dump} {u : SourceUnit} (h : d.resolve = .ok u)
    {i : Interface} (hi : i ∈ u.interfaces.decls.toList) (m : Method) :
    u.hierarchyDeclares i m = true ↔
      ∃ x ∈ u.ancestors i, x.forward = false ∧
        (u.interfaceDeclares x m = true ∨
          ∃ c ∈ u.categories.toList, c.className = x.name ∧ u.categoryDeclares c m = true) := by
  have hu := Dump.resolved h
  rw [hierarchyDeclares,
    (decides_through (u.ancestors i) fun x _ => decides_class hu x).isFound_iff]
  refine exists_congr fun x => and_congr_right fun hx => ?_
  have hmem := mem_ancestors hi hx
  -- names are distinct, so the definition of the ancestor's name is the ancestor itself
  have hdef : ∀ y, u.definition? x.name = some y ↔ y = x ∧ x.forward = false := by
    intro y
    rw [hu.definition?_eq_some_iff]
    constructor
    · rintro ⟨hy, hname, hf⟩
      have hyx : y = x := Option.some.inj <|
        (hu.interface?_eq_some_iff.2 ⟨hy, hname⟩).symm.trans
          (hu.interface?_eq_some_iff.2 ⟨hmem, rfl⟩)
      exact ⟨hyx, hyx ▸ hf⟩
    · rintro ⟨rfl, hf⟩
      exact ⟨hmem, rfl, hf⟩
  simp only [hdef, and_assoc, exists_eq_left, hu.mem_categoriesOf]

/-- A class that is its own ancestor by way of another. -/
def leaf : Interface := ⟨"Leaf", some "Branch", ⟨["Shown", "Sized"], [], []⟩, false⟩

/-- Two classes in a circle, protocols that form a diamond and a circle, and a category that
adopts one of them again. -/
def thicket : Dump where
  file := "Leaf.m"
  interfaces := [leaf, ⟨"Branch", some "Leaf", ⟨["Sized"], [], []⟩, false⟩]
  protocols := [
    ⟨"Shown", ⟨["Placed"], [], []⟩, false⟩,
    ⟨"Sized", ⟨["Placed", "Shown"], [], []⟩, false⟩,
    ⟨"Placed", ⟨["Placed", "Sized"], [⟨"origin", false⟩], []⟩, false⟩]
  categories := [⟨"Layout", "Branch", ⟨["Shown"], [⟨"layout", false⟩], []⟩⟩]
  implementations := []

theorem hierarchyDeclares_iff_fresh_leaf :
    ∃ u, thicket.resolve = .ok u ∧ leaf ∈ u.interfaces.decls.toList ∧
      (u.hierarchyDeclares leaf ⟨"layout", false⟩ = true ↔
        ∃ x ∈ u.ancestors leaf, x.forward = false ∧
          (u.interfaceDeclares x ⟨"layout", false⟩ = true ∨
            ∃ c ∈ u.categories.toList, c.className = x.name ∧
              u.categoryDeclares c ⟨"layout", false⟩ = true)) := by
  have hok : thicket.resolve.toOption.any (leaf ∈ ·.interfaces.decls.toList) = true := by decide
  cases hu : thicket.resolve with
  | error e =>
    rw [hu] at hok
    cases hok
  | ok u =>
    rw [hu] at hok
    have hl : leaf ∈ u.interfaces.decls.toList := of_decide_eq_true hok
    exact ⟨u, rfl, hl, hierarchyDeclares_iff_fresh hu hl ⟨"layout", false⟩⟩

end MethodAudit.SourceUnit
