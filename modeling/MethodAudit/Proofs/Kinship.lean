import Mathlib.Logic.Relation
import MethodAudit.Proofs.Exported

/-!
Kinds of classes.

Two walks go up the superclasses of a class. The one that lists them stops at a class that comes
again; the one that looks for a class compares each first, then stops at a root class or at a class
that comes again. They agree: what the second finds is what the first lists up to the first root
class, and that is what can be reached in steps up from classes that are no roots, in however many
rounds of a circle.

So the declared surface of a class is inherited: what is declared for a class is declared for
everything that is a kind of it. And being a kind is an order of the declared names, up to circles,
in which the names above one stand in a line.
-/

namespace MethodAudit.SourceUnit

/-- The name of a class at which a search for a superclass ends. -/
def IsRoot (n : String) : Prop := n = "NSObject" ∨ n = "NSProxy"

lemma mem_rootClasses {n : String} : n ∈ rootClasses ↔ IsRoot n := by
  simp [rootClasses, IsRoot]

/-! ### Both walks over one list -/

/-- A class of the name stands in the list, and no root class before it. -/
def FoundBelowRoot (t : String) (l : List Interface) : Prop :=
  ∃ before x after, l = before ++ x :: after ∧ x.name = t ∧ ∀ a ∈ before, ¬IsRoot a.name

lemma not_foundBelowRoot_nil (t : String) : ¬FoundBelowRoot t [] := by
  rintro ⟨before, x, after, hnil, -⟩
  simp at hnil

lemma foundBelowRoot_cons {t : String} {i : Interface} {l : List Interface} :
    FoundBelowRoot t (i :: l) ↔ i.name = t ∨ ¬IsRoot i.name ∧ FoundBelowRoot t l := by
  constructor
  · rintro ⟨before, x, after, hl, hx, hroots⟩
    cases before with
    | nil =>
      obtain ⟨rfl, -⟩ := List.cons.inj hl
      exact .inl hx
    | cons b before =>
      obtain ⟨rfl, htail⟩ := List.cons.inj hl
      refine .inr ⟨hroots i List.mem_cons_self, before, x, after, htail, hx, fun a ha => ?_⟩
      exact hroots a (List.mem_cons_of_mem i ha)
  · rintro (hname | ⟨hroot, before, x, after, rfl, hx, hroots⟩)
    · exact ⟨[], i, l, rfl, hname, by simp⟩
    · refine ⟨i :: before, x, after, rfl, hx, fun a ha => ?_⟩
      rcases List.mem_cons.1 ha with rfl | ha
      · exact hroot
      · exact hroots a ha

variable {u : SourceUnit} {seen : List String} {next : Option String} {t : String}

/-- The walks that go on from the same place agree on a class that has not been met. -/
lemma reaches_iff_foundBelowRoot (ht : t ∉ seen) :
    u.reaches t seen next = true ↔ FoundBelowRoot t (u.chain seen next) := by
  induction seen, next using reaches.induct u t with
  | case1 seen next h =>
    rw [reaches_end h, chain_end h]
    simpa using not_foundBelowRoot_nil t
  | case2 seen next i h hname =>
    -- the class is new, so it is listed too
    rw [reaches_step h, if_pos hname, chain_step h, if_neg (hname ▸ ht), foundBelowRoot_cons]
    simp [hname]
  | case3 seen next i h hname hstop =>
    rw [reaches_step h, if_neg hname, if_pos hstop, chain_step h]
    split_ifs with hseen
    · simpa using not_foundBelowRoot_nil t
    · have hroot : IsRoot i.name := mem_rootClasses.1 (hstop.resolve_right hseen)
      rw [foundBelowRoot_cons]
      simp [hname, hroot]
  | case4 seen next i h hname hgo ih =>
    rw [not_or] at hgo
    have hnew : t ∉ i.name :: seen := by
      rw [List.mem_cons, not_or]
      exact ⟨Ne.symm hname, ht⟩
    rw [reaches_step h, if_neg hname, if_neg (not_or.2 hgo), ih hnew, chain_step h, if_neg hgo.2,
      foundBelowRoot_cons]
    simp [hname, mem_rootClasses.not.1 hgo.1]

lemma isKindOf_iff_foundBelowRoot (i : Interface) :
    u.isKindOf i t = true ↔ FoundBelowRoot t (u.ancestors i) := by
  rw [isKindOf, ancestors, foundBelowRoot_cons]
  split_ifs with hname hroot
  · simp [hname]
  · simp [hname, mem_rootClasses.1 hroot]
  · rw [reaches_iff_foundBelowRoot (by simpa using Ne.symm hname)]
    simp [hname, mem_rootClasses.not.1 hroot]

/-! ### Steps up -/

/-- One step up, from a class that is no root class to its superclass. -/
def StepsUp (u : SourceUnit) (x y : Interface) : Prop :=
  ¬IsRoot x.name ∧ u.superclass? x = some y

open Relation (ReflTransGen)

lemma mem_decls_of_stepsUp {i x : Interface} (hi : i ∈ u.interfaces.decls.toList)
    (h : ReflTransGen u.StepsUp i x) : x ∈ u.interfaces.decls.toList := by
  cases h with
  | refl => exact hi
  | tail _ hstep => exact mem_decls_of_next hstep.2

lemma stepsUp_of_reaches (h : u.reaches t seen next = true) :
    ∃ y, next.bind u.interface? = some y ∧ ∃ x, ReflTransGen u.StepsUp y x ∧ x.name = t := by
  induction seen, next using reaches.induct u t with
  | case1 seen next hend =>
    rw [reaches_end hend] at h
    cases h
  | case2 seen next i hi hname => exact ⟨i, hi, i, .refl, hname⟩
  | case3 seen next i hi hname hstop =>
    rw [reaches_step hi, if_neg hname, if_pos hstop] at h
    cases h
  | case4 seen next i hi hname hgo ih =>
    rw [reaches_step hi, if_neg hname, if_neg hgo] at h
    obtain ⟨y, hy, x, hpath, hx⟩ := ih h
    have hroot : ¬IsRoot i.name := fun hr => hgo (.inl (mem_rootClasses.2 hr))
    exact ⟨i, hi, x, .head ⟨hroot, hy⟩ hpath, hx⟩

lemma stepsUp_of_isKindOf {i : Interface} (h : u.isKindOf i t = true) :
    ∃ x, ReflTransGen u.StepsUp i x ∧ x.name = t := by
  rw [isKindOf] at h
  split_ifs at h with hname hroot
  · exact ⟨i, .refl, hname⟩
  · obtain ⟨y, hy, x, hpath, hx⟩ := stepsUp_of_reaches h
    exact ⟨x, .head ⟨mem_rootClasses.not.1 hroot, hy⟩ hpath, hx⟩

/-- After a class the walk lists its superclass, unless it has met that before. -/
lemma met_or_next_of_chain {before after : List Interface} {x y : Interface}
    (h : u.chain seen next = before ++ x :: after) (hy : u.superclass? x = some y) :
    y.name ∈ seen ∨ (∃ z ∈ before ++ [x], z.name = y.name) ∨ ∃ rest, after = y :: rest := by
  induction seen, next using chain.induct u generalizing before with
  | case1 seen next hend =>
    rw [chain_end hend] at h
    simp at h
  | case2 seen next i hi hs =>
    rw [chain_step hi, if_pos hs] at h
    simp at h
  | case3 seen next i hi hs ih =>
    rw [chain_step hi, if_neg hs] at h
    -- what has been met when the walk goes on is what had been met, or the class itself
    have hmet : y.name ∈ i.name :: seen → i ∈ before ++ [x] →
        y.name ∈ seen ∨ (∃ z ∈ before ++ [x], z.name = y.name) ∨ ∃ rest, after = y :: rest := by
      intro hmem hi
      rcases List.mem_cons.1 hmem with hname | hmem
      · exact .inr (.inl ⟨i, hi, hname.symm⟩)
      · exact .inl hmem
    cases before with
    | nil =>
      obtain ⟨rfl, hafter⟩ := List.cons.inj h
      rw [chain_step hy] at hafter
      split_ifs at hafter with hmem
      · exact hmet hmem (by simp)
      · exact .inr (.inr ⟨_, hafter.symm⟩)
    | cons b before =>
      obtain ⟨rfl, htail⟩ := List.cons.inj h
      rcases ih htail with hmem | ⟨z, hz, hname⟩ | hrest
      · exact hmet hmem (by simp)
      · exact .inr (.inl ⟨z, List.mem_cons_of_mem i hz, hname⟩)
      · exact .inr (.inr hrest)

/-- The ancestors of a class of the unit are what the walk lists that starts with its name. -/
lemma Resolved.ancestors_eq_chain (hu : u.Resolved) {i : Interface}
    (hi : i ∈ u.interfaces.decls.toList) : u.ancestors i = u.chain [] (some i.name) := by
  have hfind : (some i.name).bind u.interface? = some i := hu.interface?_eq_some_iff.2 ⟨hi, rfl⟩
  rw [chain_step hfind, if_neg (by simp), ancestors]

lemma Resolved.met_or_next_of_ancestors (hu : u.Resolved) {i x y : Interface}
    (hi : i ∈ u.interfaces.decls.toList) {before after : List Interface}
    (h : u.ancestors i = before ++ x :: after) (hy : u.superclass? x = some y) :
    (∃ z ∈ before ++ [x], z.name = y.name) ∨ ∃ rest, after = y :: rest := by
  rw [hu.ancestors_eq_chain hi] at h
  exact (met_or_next_of_chain h hy).resolve_left (by simp)

/-- Everything that can be reached in steps up is listed before anything past a root class. -/
lemma Resolved.foundBelowRoot_of_stepsUp (hu : u.Resolved) {i x : Interface}
    (hi : i ∈ u.interfaces.decls.toList) (h : ReflTransGen u.StepsUp i x) :
    FoundBelowRoot x.name (u.ancestors i) := by
  induction h with
  | refl => exact ⟨[], i, _, rfl, rfl, by simp⟩
  | @tail x y hpath hstep ih =>
    obtain ⟨before, z, after, hlist, hz, hroots⟩ := ih
    have hmem : z ∈ u.interfaces.decls.toList := mem_ancestors hi (by simp [hlist])
    obtain rfl : z = x :=
      NameTable.eq_of_name_eq hu.interfaces hmem (mem_decls_of_stepsUp hi hpath) hz
    have hroots : ∀ a ∈ before ++ [z], ¬IsRoot a.name := by
      intro a ha
      rcases List.mem_append.1 ha with ha | ha
      · exact hroots a ha
      · rw [List.mem_singleton.1 ha]
        exact hstep.1
    rcases hu.met_or_next_of_ancestors hi hlist hstep.2 with ⟨w, hw, hname⟩ | ⟨rest, rfl⟩
    · -- the superclass has been met: it is listed where it was
      obtain ⟨front, back, hsplit⟩ := List.append_of_mem hw
      refine ⟨front, w, back ++ after, ?_, hname, fun a ha => hroots a ?_⟩
      · rw [hlist, ← List.singleton_append, ← List.append_assoc, hsplit]
        simp
      · rw [hsplit]
        exact List.mem_append_left _ ha
    · exact ⟨before ++ [z], y, rest, by simp [hlist], rfl, hroots⟩

lemma Resolved.isKindOf_iff_stepsUp (hu : u.Resolved) {i : Interface}
    (hi : i ∈ u.interfaces.decls.toList) :
    u.isKindOf i t = true ↔ ∃ x, ReflTransGen u.StepsUp i x ∧ x.name = t := by
  constructor
  · intro h
    exact stepsUp_of_isKindOf h
  · rintro ⟨x, hpath, rfl⟩
    exact (isKindOf_iff_foundBelowRoot i).2 (hu.foundBelowRoot_of_stepsUp hi hpath)

/-- **Both walks agree**: a class is a kind of another exactly if that is among its ancestors with
no root class before it, and exactly if it is reached in steps up, circles or not. -/
theorem isKindOf_iff_ancestors_and_steps {d : Dump} {u : SourceUnit} (h : d.resolve = .ok u)
    {i : Interface} (hi : i ∈ u.interfaces.decls.toList) (t : String) :
    (u.isKindOf i t = true ↔ FoundBelowRoot t (u.ancestors i)) ∧
      (u.isKindOf i t = true ↔ ∃ x, ReflTransGen u.StepsUp i x ∧ x.name = t) :=
  ⟨isKindOf_iff_foundBelowRoot i, (Dump.resolved h).isKindOf_iff_stepsUp hi⟩

/-! ### A circle, and a class above a root -/

def hare : Interface := ⟨"Hare", some "Hound", .empty, false⟩

def hound : Interface := ⟨"Hound", some "Fox", .empty, true⟩

def fox : Interface := ⟨"Fox", some "Hare", .empty, false⟩

def badger : Interface := ⟨"Badger", some "NSObject", .empty, false⟩

def rootClass : Interface := ⟨"NSObject", some "Burrow", .empty, false⟩

/-- Three classes run in a circle, and one of them is only declared ahead. The root class has a
superclass of its own. -/
def chase : Dump where
  file := "Chase.m"
  interfaces := [hare, hound, fox, badger, rootClass]
  protocols := []
  categories := [⟨"Running", "Fox", ⟨[], [⟨"run", false⟩], []⟩⟩]
  implementations := []

lemma stepsUp_hare {u : SourceUnit} (h : chase.resolve = .ok u) :
    ReflTransGen u.StepsUp hare fox := by
  have hhound : u.StepsUp hare hound :=
    ⟨by simp [IsRoot, hare], (Dump.interface?_of_resolve h).2 (.inl rfl)⟩
  have hfox : u.StepsUp hound fox :=
    ⟨by simp [IsRoot, hound], (Dump.interface?_of_resolve h).2 (.inl rfl)⟩
  exact .tail (.single hhound) hfox

lemma not_stepsUp_burrow {u : SourceUnit} (h : chase.resolve = .ok u) {x : Interface}
    (hpath : ReflTransGen u.StepsUp badger x) : x.name ≠ "Burrow" := by
  have hroot : u.superclass? badger = some rootClass :=
    (Dump.interface?_of_resolve h).2 (.inl rfl)
  rcases hpath.cases_head with rfl | ⟨y, ⟨-, hy⟩, hrest⟩
  · decide
  · obtain rfl : rootClass = y := Option.some.inj (hroot.symm.trans hy)
    rcases hrest.cases_head with rfl | ⟨z, ⟨hnot, -⟩, -⟩
    · decide
    · exact absurd (.inl rfl) hnot

theorem isKindOf_iff_ancestors_and_steps_chase :
    ∃ u, chase.resolve = .ok u ∧ hare ∈ u.interfaces.decls.toList ∧
      badger ∈ u.interfaces.decls.toList ∧ u.isKindOf hare "Fox" = true ∧
      FoundBelowRoot "Fox" (u.ancestors hare) ∧ ¬u.isKindOf badger "Burrow" = true ∧
      ¬FoundBelowRoot "Burrow" (u.ancestors badger) := by
  obtain ⟨u, hu⟩ := (Dump.isOk_resolve_iff chase).1 (by decide)
  have hhare : hare ∈ u.interfaces.decls.toList :=
    NameTable.mem_of_find? ((Dump.interface?_of_resolve hu (n := "Hare")).2 (.inl rfl))
  have hbadger : badger ∈ u.interfaces.decls.toList :=
    NameTable.mem_of_find? ((Dump.interface?_of_resolve hu (n := "Badger")).2 (.inl rfl))
  obtain ⟨hlisted, hsteps⟩ := isKindOf_iff_ancestors_and_steps hu hhare "Fox"
  obtain ⟨hlisted', hsteps'⟩ := isKindOf_iff_ancestors_and_steps hu hbadger "Burrow"
  have hkind := hsteps.2 ⟨fox, stepsUp_hare hu, rfl⟩
  have hnot : ¬u.isKindOf badger "Burrow" = true := by
    rw [hsteps']
    rintro ⟨x, hpath, hx⟩
    exact not_stepsUp_burrow hu hpath hx
  exact ⟨u, hu, hhare, hbadger, hkind, hlisted.1 hkind, hnot, mt hlisted'.2 hnot⟩

/-! ### Inheritance -/

lemma Inherits.trans {a b c : String} (hab : u.Inherits a b) (hbc : u.Inherits b c) :
    u.Inherits a c := by
  induction hbc with
  | self => exact hab
  | up _ hx hk ih => exact .up ih hx hk

lemma Resolved.inherits_of_stepsUp (hu : u.Resolved) {c : String} {i x : Interface}
    (hi : u.interface? c = some i) (h : ReflTransGen u.StepsUp i x) : u.Inherits c x.name := by
  obtain ⟨hmem, rfl⟩ := hu.interface?_eq_some_iff.1 hi
  induction h with
  | refl => exact .self
  | @tail x y hpath hstep ih =>
    obtain ⟨k, hk, hy⟩ := Option.bind_eq_some_iff.1 hstep.2
    have hx := hu.interface?_eq_some_iff.2 ⟨mem_decls_of_stepsUp hmem hpath, rfl⟩
    rw [(hu.interface?_eq_some_iff.1 hy).2]
    exact .up ih hx hk

lemma Resolved.inherits_of_isKindOf (hu : u.Resolved) {a b : String} {x : Interface}
    (hx : u.interface? a = some x) (h : u.isKindOf x b = true) : u.Inherits a b := by
  obtain ⟨y, hpath, rfl⟩ := stepsUp_of_isKindOf h
  exact hu.inherits_of_stepsUp hx hpath

/-- What is declared for a class is declared by a definition above it, or by a category of one. -/
lemma Resolved.exists_inherits_of_classDeclares (hu : u.Resolved) {c : String} {m : Method}
    (h : u.classDeclares c m = true) :
    ∃ n x, u.Inherits c n ∧ u.definition? n = some x ∧
      (u.interfaceDeclares x m = true ∨
        ∃ k ∈ u.categoriesOf x.name, u.categoryDeclares k m = true) := by
  rw [classDeclares, Option.any_eq_true] at h
  obtain ⟨i, hi, hdeclares⟩ := h
  obtain ⟨y, hy, x, hx, hm⟩ := (hierarchyDeclares_iff hu i).1 hdeclares
  exact ⟨y.name, x, hu.inherits_of_mem_ancestors hi hy, hx, hm⟩

/-- **Subclasses inherit the declared surface**: what is declared for a class is declared for every
class that is a kind of it. -/
theorem classDeclares_of_isKindOf {d : Dump} {u : SourceUnit} (h : d.resolve = .ok u)
    {a b : String} {x : Interface} (hx : u.interface? a = some x) (hkind : u.isKindOf x b = true)
    {m : Method} (hm : u.classDeclares b m = true) : u.classDeclares a m = true := by
  have hu := Dump.resolved h
  obtain ⟨n, y, hn, hy, hdeclares⟩ := hu.exists_inherits_of_classDeclares hm
  rw [classDeclares, hx, Option.any_some]
  exact hu.hierarchyDeclares_of_inherits hx ((hu.inherits_of_isKindOf hx hkind).trans hn) hy
    hdeclares

theorem classDeclares_of_isKindOf_chase :
    ∃ u, chase.resolve = .ok u ∧ u.interface? "Hare" = some hare ∧
      u.isKindOf hare "Fox" = true ∧ u.classDeclares "Fox" ⟨"run", false⟩ = true ∧
      u.classDeclares "Hare" ⟨"run", false⟩ = true := by
  obtain ⟨u, hu⟩ := (Dump.isOk_resolve_iff chase).1 (by decide)
  have hr := Dump.resolved hu
  have hhare : u.interface? "Hare" = some hare := (Dump.interface?_of_resolve hu).2 (.inl rfl)
  have hfox : u.interface? "Fox" = some fox := (Dump.interface?_of_resolve hu).2 (.inl rfl)
  have hkind : u.isKindOf hare "Fox" = true :=
    (hr.isKindOf_iff_stepsUp (NameTable.mem_of_find? hhare)).2 ⟨fox, stepsUp_hare hu, rfl⟩
  have hcategory : ⟨"Running", "Fox", ⟨[], [⟨"run", false⟩], []⟩⟩ ∈ u.categories.toList := by
    rw [Dump.categories_of_resolve hu]
    exact List.mem_singleton.2 rfl
  have hdeclares : u.classDeclares "Fox" ⟨"run", false⟩ = true :=
    hr.classDeclares_of_onSurface hfox <|
      .category .self ((Dump.definition?_of_resolve hu "Fox").trans rfl) hcategory rfl
        (.inl (by decide))
  exact ⟨u, hu, hhare, hkind, hdeclares, classDeclares_of_isKindOf hu hhare hkind hdeclares⟩

/-! ### The order of kinds -/

/-- What is declared under the first name is a kind of the second; an undeclared name is a kind of
nothing. -/
def IsKind (u : SourceUnit) (a b : String) : Prop := (u.interface? a).any (u.isKindOf · b) = true

/-- A class has one superclass, so there is one step up. -/
lemma stepsUp_rightUnique : Relator.RightUnique u.StepsUp := by
  intro x y z hy hz
  exact Option.some.inj (hy.2.symm.trans hz.2)

/-- One name is a kind of another exactly if steps lead up from the class of the one to that of the
other. -/
lemma Resolved.isKind_iff (hu : u.Resolved) {a b : String} :
    u.IsKind a b ↔ ∃ x y, u.interface? a = some x ∧ u.interface? b = some y ∧
      ReflTransGen u.StepsUp x y := by
  rw [IsKind, Option.any_eq_true]
  constructor
  · rintro ⟨x, hx, hkind⟩
    have hmem := (hu.interface?_eq_some_iff.1 hx).1
    obtain ⟨y, hpath, hname⟩ := (hu.isKindOf_iff_stepsUp hmem).1 hkind
    have hy := hu.interface?_eq_some_iff.2 ⟨mem_decls_of_stepsUp hmem hpath, hname⟩
    exact ⟨x, y, hx, hy, hpath⟩
  · rintro ⟨x, y, hx, hy, hpath⟩
    have hmem := (hu.interface?_eq_some_iff.1 hx).1
    have hname := (hu.interface?_eq_some_iff.1 hy).2
    exact ⟨x, hx, (hu.isKindOf_iff_stepsUp hmem).2 ⟨y, hpath, hname⟩⟩

/-- **Kinds are ordered**, in a line above each class: on the names that are declared, being a kind
is reflexive and transitive, and of two names that a class is a kind of, one is a kind of the
other. -/
theorem isKind_preorder_linear_above {d : Dump} {u : SourceUnit} (h : d.resolve = .ok u) :
    (∀ a, u.IsKind a a ↔ ∃ x, u.interface? a = some x) ∧
      (∀ a b, u.IsKind a b → (∃ x, u.interface? a = some x) ∧ ∃ y, u.interface? b = some y) ∧
      (∀ a b c, u.IsKind a b → u.IsKind b c → u.IsKind a c) ∧
      ∀ a b c, u.IsKind a b → u.IsKind a c → u.IsKind b c ∨ u.IsKind c b := by
  have hu := Dump.resolved h
  simp only [hu.isKind_iff]
  refine ⟨fun a => ?_, fun a b => ?_, fun a b c => ?_, fun a b c => ?_⟩
  · constructor
    · rintro ⟨x, -, hx, -, -⟩
      exact ⟨x, hx⟩
    · rintro ⟨x, hx⟩
      exact ⟨x, x, hx, hx, .refl⟩
  · rintro ⟨x, y, hx, hy, -⟩
    exact ⟨⟨x, hx⟩, y, hy⟩
  · rintro ⟨x, y, hx, hy, hpath⟩ ⟨y', z, hy', hz, hpath'⟩
    obtain rfl : y = y' := Option.some.inj (hy.symm.trans hy')
    exact ⟨x, z, hx, hz, hpath.trans hpath'⟩
  · rintro ⟨x, y, hx, hy, hpath⟩ ⟨x', z, hx', hz, hpath'⟩
    obtain rfl : x = x' := Option.some.inj (hx.symm.trans hx')
    rcases hpath.total_of_right_unique stepsUp_rightUnique hpath' with hup | hup
    · exact .inl ⟨y, z, hy, hz, hup⟩
    · exact .inr ⟨z, y, hz, hy, hup⟩

/-- In the circle every class is a kind of every other. A root class is a kind of itself alone,
whatever superclass it has. -/
theorem isKind_preorder_linear_above_chase :
    ∃ u, chase.resolve = .ok u ∧ u.IsKind "Fox" "Hound" ∧ u.IsKind "Badger" "NSObject" ∧
      u.superclass? rootClass = some (.named "Burrow") ∧ ¬u.IsKind "NSObject" "Burrow" ∧
      (u.IsKind "Hound" "Fox" ∨ u.IsKind "Fox" "Hound") := by
  obtain ⟨u, hu⟩ := (Dump.isOk_resolve_iff chase).1 (by decide)
  have hr := Dump.resolved hu
  obtain ⟨-, -, htrans, htotal⟩ := isKind_preorder_linear_above hu
  have hhare : u.interface? "Hare" = some hare := (Dump.interface?_of_resolve hu).2 (.inl rfl)
  have hhound : u.interface? "Hound" = some hound := (Dump.interface?_of_resolve hu).2 (.inl rfl)
  have hfox : u.interface? "Fox" = some fox := (Dump.interface?_of_resolve hu).2 (.inl rfl)
  have hbadger : u.interface? "Badger" = some badger :=
    (Dump.interface?_of_resolve hu).2 (.inl rfl)
  have hroot : u.interface? "NSObject" = some rootClass :=
    (Dump.interface?_of_resolve hu).2 (.inl rfl)
  have hburrow : u.interface? "Burrow" = some (.named "Burrow") :=
    (Dump.interface?_of_resolve hu).2 (.inr ⟨rfl, .inl ⟨"NSObject", rootClass, rfl, rfl⟩, rfl⟩)
  have hfoxHare : u.IsKind "Fox" "Hare" :=
    hr.isKind_iff.2 ⟨fox, hare, hfox, hhare, .single ⟨by simp [IsRoot, fox], hhare⟩⟩
  have hhareHound : u.IsKind "Hare" "Hound" :=
    hr.isKind_iff.2 ⟨hare, hound, hhare, hhound, .single ⟨by simp [IsRoot, hare], hhound⟩⟩
  have hhareFox : u.IsKind "Hare" "Fox" :=
    hr.isKind_iff.2 ⟨hare, fox, hhare, hfox, stepsUp_hare hu⟩
  have hbadgerRoot : u.IsKind "Badger" "NSObject" :=
    hr.isKind_iff.2 ⟨badger, rootClass, hbadger, hroot, .single ⟨by simp [IsRoot, badger], hroot⟩⟩
  have hnot : ¬u.IsKind "Badger" "Burrow" := by
    rw [hr.isKind_iff]
    rintro ⟨x, y, hx, hy, hpath⟩
    obtain rfl : badger = x := Option.some.inj (hbadger.symm.trans hx)
    exact not_stepsUp_burrow hu hpath (hr.interface?_eq_some_iff.1 hy).2
  exact ⟨u, hu, htrans _ _ _ hfoxHare hhareHound, hbadgerRoot, hburrow,
    fun hkind => hnot (htrans _ _ _ hbadgerRoot hkind), htotal _ _ _ hhareHound hhareFox⟩

end MethodAudit.SourceUnit
