import Mathlib.Data.List.Perm.Basic
import MethodAudit.Proofs.Findings
import MethodAudit.Proofs.Monotone

/-!
The order in which a dump lists things does not matter.

Only one order counts: of several forward declarations of a class that is never defined, the
first is kept. If that order is left alone, each of two dumps persists in the other, so that no
verdict can go down either way; and what is found in declarations is the same up to order.
-/

namespace MethodAudit

open NameTable

/-! ### Lists up to order -/

/-- The elements in another order, each with a related one in its place. -/
def Shuffled (R : α → β → Prop) (xs : List α) (ys : List β) : Prop :=
  ∃ zs, xs.Perm zs ∧ List.Forall₂ R zs ys

namespace Shuffled

variable {R : α → β → Prop} {xs : List α} {ys : List β}

lemma symm {S : β → α → Prop} (hRS : ∀ x y, R x y → S y x) (h : Shuffled R xs ys) :
    Shuffled S ys xs := by
  obtain ⟨zs, hp, hf⟩ := h
  have hback : List.Forall₂ S ys zs := (hf.imp hRS).flip
  have hcomp : Relation.Comp (List.Forall₂ S) List.Perm ys xs := ⟨zs, hback, hp.symm⟩
  rwa [List.forall₂_comp_perm_eq_perm_comp_forall₂] at hcomp

lemma exists_mem (h : Shuffled R xs ys) {x : α} (hx : x ∈ xs) : ∃ y ∈ ys, R x y := by
  obtain ⟨zs, hp, hf⟩ := h
  exact exists_mem_of_forall₂ hf (hp.mem_iff.1 hx)

lemma length_eq (h : Shuffled R xs ys) : xs.length = ys.length := by
  obtain ⟨zs, hp, hf⟩ := h
  exact hp.length_eq.trans hf.length_eq

lemma filter {p : α → Bool} {q : β → Bool} (hpq : ∀ x y, R x y → p x = q y)
    (h : Shuffled R xs ys) : Shuffled R (xs.filter p) (ys.filter q) := by
  obtain ⟨zs, hp, hf⟩ := h
  exact ⟨zs.filter p, hp.filter p, List.rel_filter (fun x y hxy => by simp [hpq x y hxy]) hf⟩

/-- A list of at most one element has one order only. -/
lemma forall₂ (h : Shuffled R xs ys) (hx : xs.length ≤ 1) : List.Forall₂ R xs ys := by
  obtain ⟨zs, hp, hf⟩ := h
  rcases xs with _ | ⟨x, _ | ⟨y, xs⟩⟩
  · rwa [List.nil_perm.1 hp] at hf
  · rwa [← List.singleton_perm.1 hp] at hf
  · simp at hx

lemma perm_flatMap {f : α → List γ} {g : β → List γ} (hfg : ∀ x y, R x y → (f x).Perm (g y))
    (h : Shuffled R xs ys) : (xs.flatMap f).Perm (ys.flatMap g) := by
  obtain ⟨zs, hp, hf⟩ := h
  refine (hp.flatMap_right f).trans ?_
  induction hf generalizing xs with
  | nil => exact .refl _
  | cons hxy _ ih => exact (hfg _ _ hxy).append (ih (.refl _))

lemma perm_filterMap {f : α → Option γ} {g : β → Option γ} (hfg : ∀ x y, R x y → f x = g y)
    (h : Shuffled R xs ys) : (xs.filterMap f).Perm (ys.filterMap g) := by
  have hperm := h.perm_flatMap (f := fun x => (f x).toList) (g := fun y => (g y).toList)
    fun x y hxy => hfg x y hxy ▸ .refl _
  simpa only [List.filterMap_eq_flatMap_toList] using hperm

end Shuffled

/-! ### Declarations -/

structure Body.Reordered (b b' : Body) : Prop where
  protocols : b.protocols.Perm b'.protocols
  methods : b.methods.Perm b'.methods
  properties : b.properties.Perm b'.properties

structure Interface.Reordered (i i' : Interface) : Prop where
  name : i.name = i'.name
  superclass : i.superclass = i'.superclass
  forward : i.forward = i'.forward
  body : i.body.Reordered i'.body

structure Protocol.Reordered (p p' : Protocol) : Prop where
  name : p.name = p'.name
  forward : p.forward = p'.forward
  body : p.body.Reordered p'.body

structure Category.Reordered (c c' : Category) : Prop where
  name : c.name = c'.name
  className : c.className = c'.className
  body : c.body.Reordered c'.body

lemma Body.Reordered.symm {b b' : Body} (h : b.Reordered b') : b'.Reordered b :=
  ⟨h.protocols.symm, h.methods.symm, h.properties.symm⟩

lemma Body.Reordered.grows {b b' : Body} (h : b.Reordered b') : b.Grows b' :=
  ⟨h.protocols.subset, h.methods.subset, h.properties.subset⟩

lemma Interface.Reordered.symm {i i' : Interface} (h : i.Reordered i') : i'.Reordered i :=
  ⟨h.name.symm, h.superclass.symm, h.forward.symm, h.body.symm⟩

lemma Interface.Reordered.grows {i i' : Interface} (h : i.Reordered i') : i.Grows i' :=
  ⟨h.name.symm, h.superclass.symm, h.forward.symm, h.body.grows⟩

lemma Protocol.Reordered.symm {p p' : Protocol} (h : p.Reordered p') : p'.Reordered p :=
  ⟨h.name.symm, h.forward.symm, h.body.symm⟩

lemma Protocol.Reordered.grows {p p' : Protocol} (h : p.Reordered p') : p.Grows p' :=
  ⟨h.name.symm, h.forward.symm, h.body.grows⟩

lemma Category.Reordered.symm {c c' : Category} (h : c.Reordered c') : c'.Reordered c :=
  ⟨h.name.symm, h.className.symm, h.body.symm⟩

lemma Category.Reordered.grows {c c' : Category} (h : c.Reordered c') : c.Grows c' :=
  ⟨h.name.symm, h.className.symm, h.body.grows⟩

/-! ### Statements and implementations -/

/-- The children of every node may stand in another order. -/
inductive Stmt.Reordered : Stmt → Stmt → Prop
  | node {a : Action} {cs ds cs' : List Stmt} (hp : cs.Perm ds)
      (h : List.Forall₂ Stmt.Reordered ds cs') : Stmt.Reordered (.node a cs) (.node a cs')

mutual

theorem Stmt.Reordered.symm : {s t : Stmt} → s.Reordered t → t.Reordered s
  | _, _, .node hp h => by
    -- the children of `t` are those of `s` in another order, and each is turned round
    have hback : Relation.Comp (List.Forall₂ Stmt.Reordered) List.Perm _ _ :=
      ⟨_, Stmt.Reordered.symm_children h, hp.symm⟩
    rw [List.forall₂_comp_perm_eq_perm_comp_forall₂] at hback
    obtain ⟨ds, hp', h'⟩ := hback
    exact .node hp' h'

theorem Stmt.Reordered.symm_children : {ss ts : List Stmt} →
    List.Forall₂ Stmt.Reordered ss ts → List.Forall₂ Stmt.Reordered ts ss
  | _, _, .nil => .nil
  | _, _, .cons h hs => .cons (Stmt.Reordered.symm h) (Stmt.Reordered.symm_children hs)

end

lemma Stmt.Reordered.persistsIn {b b' : Stmt} (h : b.Reordered b') : b.PersistsIn b' := by
  refine persistsIn_of_simulation (fun t t' ht => ?_) h
  cases ht with
  | node hp hcs => exact ⟨rfl, fun c hc => exists_mem_of_forall₂ hcs (hp.mem_iff.1 hc)⟩

structure MethodDef.Reordered (d d' : MethodDef) : Prop where
  method : d.method = d'.method
  line : d.line = d'.line
  body : Option.Rel Stmt.Reordered d.body d'.body

structure Implementation.Reordered (i i' : Implementation) : Prop where
  className : i.className = i'.className
  category : i.category = i'.category
  methods : Shuffled MethodDef.Reordered i.methods i'.methods

lemma rel_symm {R : α → β → Prop} {S : β → α → Prop} (hRS : ∀ x y, R x y → S y x) {x : Option α}
    {y : Option β} (h : Option.Rel R x y) : Option.Rel S y x := by
  cases h with
  | some hr => exact .some (hRS _ _ hr)
  | none => exact .none

lemma MethodDef.Reordered.symm {d d' : MethodDef} (h : d.Reordered d') : d'.Reordered d :=
  ⟨h.method.symm, h.line.symm, rel_symm (fun _ _ hb => hb.symm) h.body⟩

lemma Implementation.Reordered.symm {i i' : Implementation} (h : i.Reordered i') :
    i'.Reordered i :=
  ⟨h.className.symm, h.category.symm, h.methods.symm fun _ _ hd => hd.symm⟩

lemma Implementation.Reordered.persistsIn {i i' : Implementation} (h : i.Reordered i') :
    i.PersistsIn i' := by
  refine ⟨h.className.symm, fun e he => ?_⟩
  obtain ⟨e', he', hreorder⟩ := h.methods.exists_mem he
  refine ⟨e', he', hreorder.method.symm, fun b hb => ?_⟩
  obtain ⟨b', hb', hrel⟩ := exists_of_rel_some (hb ▸ hreorder.body)
  exact ⟨b', hb', hrel.persistsIn⟩

lemma Implementation.Reordered.title_eq {i i' : Implementation} (h : i.Reordered i') :
    i.title = i'.title := by
  rw [Implementation.title, Implementation.title, h.className, h.category]

/-! ### Dumps -/

/-- The dump in another order. Of the forward declarations of a class, the order stays. -/
structure Dump.Reordered (d d' : Dump) : Prop where
  file : d.file = d'.file
  interfaces : Shuffled Interface.Reordered d.interfaces d'.interfaces
  forwards (n : String) :
    List.Forall₂ Interface.Reordered (forwardsOf d.interfaces n) (forwardsOf d'.interfaces n)
  protocols : Shuffled Protocol.Reordered d.protocols d'.protocols
  categories : Shuffled Category.Reordered d.categories d'.categories
  implementations : Shuffled Implementation.Reordered d.implementations d'.implementations

namespace Dump.Reordered

variable {d d' : Dump}

lemma symm (h : d.Reordered d') : d'.Reordered d where
  file := h.file.symm
  interfaces := h.interfaces.symm fun _ _ hi => hi.symm
  forwards n := ((h.forwards n).imp fun _ _ hi => hi.symm).flip
  protocols := h.protocols.symm fun _ _ hp => hp.symm
  categories := h.categories.symm fun _ _ hc => hc.symm
  implementations := h.implementations.symm fun _ _ hi => hi.symm

lemma definitions (h : d.Reordered d') (n : String) :
    Shuffled Interface.Reordered (definitionsOf d.interfaces n)
      (definitionsOf d'.interfaces n) := by
  refine h.interfaces.filter fun x y hxy => ?_
  simp [Declaration.name, Declaration.forward, hxy.name, hxy.forward]

lemma protocolDefinitions (h : d.Reordered d') (n : String) :
    Shuffled Protocol.Reordered (definitionsOf d.protocols n) (definitionsOf d'.protocols n) := by
  refine h.protocols.filter fun x y hxy => ?_
  simp [Declaration.name, Declaration.forward, hxy.name, hxy.forward]

lemma exists_resolve (h : d.Reordered d') (hd : ∃ u, d.resolve = .ok u) :
    ∃ u', d'.resolve = .ok u' := by
  obtain ⟨hi, hp⟩ := (exists_resolve_iff d).1 hd
  refine (exists_resolve_iff d').2 ⟨fun n => ?_, fun n => ?_⟩
  · rw [← (h.definitions n).length_eq]
    exact hi n
  · rw [← (h.protocolDefinitions n).length_eq]
    exact hp n

/-- Where a class is defined once, there is only one way to pair its definitions. -/
lemma persistsIn (h : d.Reordered d') (hd : DefinedOnce d.interfaces) : d.PersistsIn d' where
  definitions n := ((h.definitions n).forall₂ (hd n)).imp fun _ _ hi => hi.grows
  forwards n := (h.forwards n).imp fun _ _ hi => hi.grows
  protocols p hp := by
    obtain ⟨p', hp', hreorder⟩ := h.protocols.exists_mem hp
    exact ⟨p', hp', hreorder.grows⟩
  categories c hc := by
    obtain ⟨c', hc', hreorder⟩ := h.categories.exists_mem hc
    exact ⟨c', hc', hreorder.grows⟩
  implementations i hi := by
    obtain ⟨i', hi', hreorder⟩ := h.implementations.exists_mem hi
    exact ⟨i', hi', hreorder.persistsIn⟩

variable {u u' : SourceUnit}

lemma unit (h : d.Reordered d') (hd : d.resolve = .ok u) (hd' : d'.resolve = .ok u') :
    u.PersistsIn u' :=
  (h.persistsIn ((exists_resolve_iff d).1 ⟨u, hd⟩).1).resolve hd hd'

/-- Neither verdict is below the other. -/
lemma verdict_eq (h : d.Reordered d') (hd : d.resolve = .ok u) (hd' : d'.resolve = .ok u')
    {i i' : Implementation} (hi : i.Reordered i') (m : Method) :
    u.verdict i m = u'.verdict i' m := by
  have hu := Dump.resolved hd
  have hu' := Dump.resolved hd'
  apply Verdict.rank_injective
  apply Nat.le_antisymm
  · exact (h.unit hd hd').rank_verdict_le hu hu' hi.persistsIn m
  · exact (h.symm.unit hd' hd).rank_verdict_le hu' hu hi.symm.persistsIn m

end Dump.Reordered

/-! ### Reports -/

namespace Rule

lemma danglingProperties_perm {b b' : Body} (h : b.Reordered b') (file container : String) :
    (danglingProperties file container b).Perm (danglingProperties file container b') :=
  (h.properties.filter _).map _

variable {d d' : Dump} {u u' : SourceUnit}

lemma deadMethods_perm (h : d.Reordered d') (hd : d.resolve = .ok u) (hd' : d'.resolve = .ok u') :
    (deadMethods u).Perm (deadMethods u') := by
  have hfile : u.file = u'.file := by
    rw [Dump.file_of_resolve hd, Dump.file_of_resolve hd', h.file]
  rw [deadMethods_eq, deadMethods_eq, Dump.implementations_of_resolve hd,
    Dump.implementations_of_resolve hd']
  refine h.implementations.perm_flatMap fun i i' hi => ?_
  refine hi.methods.perm_filterMap fun e e' he => ?_
  simp only [Location.ofMethod, h.verdict_eq hd hd' hi, hi.title_eq, he.method, he.line, hfile]

lemma check_perm (h : d.Reordered d') (hd : d.resolve = .ok u) (hd' : d'.resolve = .ok u')
    (r : Rule) : (r.check u).Perm (r.check u') := by
  have hfile : u.file = u'.file := by
    rw [Dump.file_of_resolve hd, Dump.file_of_resolve hd', h.file]
  cases r with
  | methodIsUsed => exact deadMethods_perm h hd hd'
  | shouldUseWeak =>
    have hinterfaces := h.interfaces.filter (p := (!·.forward)) (q := (!·.forward))
      fun x y hxy => by rw [hxy.forward]
    have hprotocols := h.protocols.filter (p := (!·.forward)) (q := (!·.forward))
      fun x y hxy => by rw [hxy.forward]
    -- the definitions of a unit are those of its dump, up to order
    refine .append (.append ?_ ?_) ?_
    · refine ((Dump.interfaces_perm_of_resolve hd).flatMap_right _).trans ?_
      refine .trans ?_ ((Dump.interfaces_perm_of_resolve hd').flatMap_right _).symm
      refine hinterfaces.perm_flatMap fun i i' hi => ?_
      rw [hfile, hi.name]
      exact danglingProperties_perm hi.body _ _
    · rw [Dump.categories_of_resolve hd, Dump.categories_of_resolve hd']
      refine h.categories.perm_flatMap fun c c' hc => ?_
      rw [hfile, Category.title, Category.title, hc.name, hc.className]
      exact danglingProperties_perm hc.body _ _
    · refine ((Dump.protocols_perm_of_resolve hd).flatMap_right _).trans ?_
      refine .trans ?_ ((Dump.protocols_perm_of_resolve hd').flatMap_right _).symm
      refine hprotocols.perm_flatMap fun p p' hp => ?_
      rw [hfile, hp.name]
      exact danglingProperties_perm hp.body _ _

end Rule

/-- **The order of a dump does not matter**: a dump and the same dump in another order both
resolve or both fail, and the same violations are found in both. -/
theorem violations_perm_of_reordered {d d' : Dump} (h : d.Reordered d') :
    d.resolve.isOk = d'.resolve.isOk ∧
      ∀ u u' : SourceUnit, d.resolve = .ok u → d'.resolve = .ok u' → ∀ rules : List Rule,
        (u.report rules).violations.Perm (u'.report rules).violations := by
  constructor
  · rw [Bool.eq_iff_iff, Dump.isOk_resolve_iff, Dump.isOk_resolve_iff]
    exact ⟨h.exists_resolve, h.symm.exists_resolve⟩
  · intro u u' hd hd' rules
    exact .flatMap_left rules fun r _ => r.check_perm h hd hd'

/-- The richer widget with two methods and all children changed about. -/
def turnedWidget : Implementation where
  className := some "Widget"
  category := none
  methods := [
    ⟨⟨"draw", false⟩, some (.node (.other none) [
      .node (.other none) [
        .node (.send .object "tap:" (some "Panel")) [],
        .node (.selectorLiteral "tap:") [],
        .node (.send .object "layout" (some "Panel")) []],
      .node (.send .superObject "reset" none) [.node (.selectorLiteral "close") []]]), none⟩,
    ⟨⟨"close", false⟩, some (.node (.send .object "reset" none) []), none⟩,
    ⟨⟨"layout", false⟩, some (.node (.send .object "layout" (some "Widget")) []), none⟩,
    ⟨⟨"reset", false⟩, some (.node (.send .object "close" (some "Stranger")) []), none⟩,
    ⟨⟨"tap:", false⟩, none, none⟩]

/-- The richer gallery, definitions before what is declared ahead. -/
def turnedGallery : Dump where
  file := "Widget.m"
  interfaces := [
    ⟨"Widget", some "NSObject", ⟨["Layout", "Drawing"], [], []⟩, false⟩,
    ⟨"Widget", none, .empty, true⟩,
    ⟨"Panel", some "Widget", ⟨[], [⟨"fold", false⟩], []⟩, false⟩]
  protocols := [
    ⟨"Drawing", ⟨["Drawing"], [⟨"draw", false⟩], []⟩, false⟩,
    ⟨"Layout", ⟨[], [⟨"layout", false⟩], []⟩, false⟩]
  categories := [⟨"Taps", "Widget", ⟨["Drawing"], [], []⟩⟩]
  implementations := [turnedWidget]

lemma richWidget_reordered : richWidget.Reordered turnedWidget := by
  have leaf : ∀ a, (Stmt.node a []).Reordered (.node a []) := fun a => .node (.refl _) .nil
  have single : ∀ a b, (Stmt.node a [.node b []]).Reordered (.node a [.node b []]) :=
    fun a b => .node (.refl _) (.cons (leaf b) .nil)
  refine ⟨rfl, rfl, _, .swap _ _ _, .cons ⟨rfl, rfl, .some ?_⟩ <|
    .cons ⟨rfl, rfl, .some (leaf _)⟩ <| .cons ⟨rfl, rfl, .some (leaf _)⟩ <|
    .cons ⟨rfl, rfl, .some (leaf _)⟩ <| .cons ⟨rfl, rfl, .none⟩ .nil⟩
  refine .node (.swap _ _ _) (.cons (.node (.swap _ _ _) ?_) (.cons (single _ _) .nil))
  exact .cons (leaf _) (.cons (leaf _) (.cons (leaf _) .nil))

lemma richGallery_reordered : richGallery.Reordered turnedGallery where
  file := rfl
  interfaces := by
    refine ⟨[_, _, _], (List.Perm.swap _ _ _).cons _ |>.trans (.swap _ _ _), ?_⟩
    refine .cons ⟨rfl, rfl, rfl, .swap _ _ _, .refl _, .refl _⟩ <|
      .cons ⟨rfl, rfl, rfl, .refl _, .refl _, .refl _⟩ <|
      .cons ⟨rfl, rfl, rfl, .refl _, .refl _, .refl _⟩ .nil
  forwards n := by
    have hsame : forwardsOf turnedGallery.interfaces n = forwardsOf richGallery.interfaces n := by
      simp [forwardsOf, turnedGallery, richGallery, Declaration.forward, List.filter_cons]
    rw [hsame, List.forall₂_same]
    exact fun i _ => ⟨rfl, rfl, rfl, .refl _, .refl _, .refl _⟩
  protocols := by
    refine ⟨_, .swap _ _ _, ?_⟩
    exact .cons ⟨rfl, rfl, .refl _, .refl _, .refl _⟩ <|
      .cons ⟨rfl, rfl, .refl _, .refl _, .refl _⟩ .nil
  categories := ⟨_, .refl _, .cons ⟨rfl, rfl, .refl _, .refl _, .refl _⟩ .nil⟩
  implementations := ⟨_, .refl _, .cons richWidget_reordered .nil⟩

theorem violations_perm_of_reordered_gallery :
    richGallery.Reordered turnedGallery ∧
      ∃ u u', richGallery.resolve = .ok u ∧ turnedGallery.resolve = .ok u' ∧
        (u.report Rule.all).violations.Perm (u'.report Rule.all).violations := by
  have hok : richGallery.resolve.isOk = true := by decide
  obtain ⟨hsame, hperm⟩ := violations_perm_of_reordered richGallery_reordered
  obtain ⟨u, hu⟩ := richGallery.isOk_resolve_iff.1 hok
  obtain ⟨u', hu'⟩ := turnedGallery.isOk_resolve_iff.1 (hsame ▸ hok)
  exact ⟨richGallery_reordered, u, u', hu, hu', hperm u u' hu hu' Rule.all⟩

end MethodAudit
