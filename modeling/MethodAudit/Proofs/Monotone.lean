import Mathlib.Data.List.Forall2
import MethodAudit.Proofs.Folding
import MethodAudit.Proofs.Surface
import MethodAudit.Proofs.Usage

/-!
More declarations and more references never make a method look less used.

What a unit finds at a name may grow: a body may hold more, a class may have more categories, an
implementation more methods and more statements. Names, superclasses and definitions of classes
stay what they are. Every walk of the engine then finds in the larger unit what it found in the
smaller one, so that no verdict goes down.
-/

namespace MethodAudit

open NameTable

/-! ### Declarations -/

/-- Everything that the body holds is in the other one too. -/
structure Body.Grows (b b' : Body) : Prop where
  protocols : b.protocols ⊆ b'.protocols
  methods : b.methods ⊆ b'.methods
  properties : b.properties ⊆ b'.properties

lemma Body.Grows.declares {b b' : Body} (h : b.Grows b') {m : Method} (hm : b.declares m = true) :
    b'.declares m = true := by
  simp only [Body.declares, Bool.or_eq_true, List.any_eq_true] at hm ⊢
  rcases hm with ⟨k, hk, he⟩ | ⟨p, hp, he⟩
  · exact .inl ⟨k, h.methods hk, he⟩
  · exact .inr ⟨p, h.properties hp, he⟩

structure Interface.Grows (i i' : Interface) : Prop where
  name : i'.name = i.name
  superclass : i'.superclass = i.superclass
  forward : i'.forward = i.forward
  body : i.body.Grows i'.body

structure Protocol.Grows (p p' : Protocol) : Prop where
  name : p'.name = p.name
  forward : p'.forward = p.forward
  body : p.body.Grows p'.body

structure Category.Grows (c c' : Category) : Prop where
  name : c'.name = c.name
  className : c'.className = c.className
  body : c.body.Grows c'.body

/-! ### Statements and implementations -/

/-- Every action in the statement stands in the other one too, at whatever depth. -/
def Stmt.PersistsIn (b b' : Stmt) : Prop :=
  ∀ s : Stmt, s.Within b → ∃ s' : Stmt, s'.Within b' ∧ s'.action = s.action

/-- A relation that keeps the action and finds every child again keeps what stands below. -/
lemma Stmt.persistsIn_of_simulation {R : Stmt → Stmt → Prop}
    (hR : ∀ t t', R t t' →
      t'.action = t.action ∧ ∀ c ∈ t.children, ∃ c' ∈ t'.children, R c c')
    {b b' : Stmt} (h : R b b') : b.PersistsIn b' := by
  intro s hs
  induction hs generalizing b' with
  | self => exact ⟨b', .self, (hR _ _ h).1⟩
  | @child a cs t ht _ ih =>
    obtain ⟨t', ht', hrel⟩ := (hR _ _ h).2 t ht
    obtain ⟨s', hs', ha⟩ := ih hrel
    obtain ⟨a', cs'⟩ := b'
    exact ⟨s', .child ht' hs', ha⟩

/-- Every method is there again, and all that its body says. -/
structure Implementation.PersistsIn (i i' : Implementation) : Prop where
  className : i'.className = i.className
  methods : ∀ d ∈ i.methods, ∃ d' ∈ i'.methods, d'.method = d.method ∧
    ∀ b ∈ d.body, ∃ b' ∈ d'.body, b.PersistsIn b'

namespace Implementation.PersistsIn

variable {i i' : Implementation} (h : i.PersistsIn i')
include h

lemma actsOutside {m : Method} {a : Action} (ha : i.ActsOutside m a) : i'.ActsOutside m a := by
  obtain ⟨d, hd, hne, b, hb, s, hs, rfl⟩ := ha
  obtain ⟨d', hd', hm, hbody⟩ := h.methods d hd
  obtain ⟨b', hb', hp⟩ := hbody b hb
  obtain ⟨s', hs', ha⟩ := hp s hs
  exact ⟨d', hd', hm ▸ hne, b', hb', s', hs', ha⟩

lemma classNames : i.classNames ⊆ i'.classNames := by
  intro n hn
  rw [Implementation.classNames, List.mem_append, List.mem_flatMap] at hn ⊢
  rw [h.className]
  refine hn.imp_right ?_
  rintro ⟨d, hd, hn⟩
  obtain ⟨b, hb, s, hs, hn⟩ := (Stmt.mem_receiverTypes d.body).1 hn
  obtain ⟨d', hd', -, hbody⟩ := h.methods d hd
  obtain ⟨b', hb', hp⟩ := hbody b hb
  obtain ⟨s', hs', ha⟩ := hp s hs
  exact ⟨d', hd', (Stmt.mem_receiverTypes d'.body).2 ⟨b', hb', s', hs', ha ▸ hn⟩⟩

end Implementation.PersistsIn

/-! ### Units -/

/-- The other unit finds at every name what this one finds there, or something larger. It
defines no other classes. -/
structure SourceUnit.PersistsIn (u u' : SourceUnit) : Prop where
  interface {n : String} {x : Interface} (h : u.interface? n = some x) :
    ∃ x', u'.interface? n = some x' ∧ x.Grows x'
  undefined {n : String} (h : u.definition? n = none) : u'.definition? n = none
  protocol {n : String} {p : Protocol} (h : u.protocol? n = some p) :
    ∃ p', u'.protocol? n = some p' ∧ p.Grows p'
  category {n : String} {c : Category} (h : c ∈ u.categoriesOf n) :
    ∃ c' ∈ u'.categoriesOf n, c.Grows c'

namespace SourceUnit.PersistsIn

variable {u u' : SourceUnit} (h : u.PersistsIn u')
include h

lemma definition {n : String} {x : Interface} (hx : u.definition? n = some x) :
    ∃ x', u'.definition? n = some x' ∧ x.Grows x' := by
  rw [definition?, NameTable.definition?, Option.filter_eq_some_iff] at hx
  obtain ⟨x', hx', hgrows⟩ := h.interface hx.1
  refine ⟨x', ?_, hgrows⟩
  have hforward : (!Declaration.forward x') = true := by
    rw [show Declaration.forward x' = x'.forward from rfl, hgrows.forward]
    exact hx.2
  exact Option.filter_eq_some_iff.2 ⟨hx', hforward⟩

/-! #### Superclass chains -/

lemma next {next : Option String} {i : Interface} (hi : next.bind u.interface? = some i) :
    ∃ i', next.bind u'.interface? = some i' ∧ i.Grows i' := by
  obtain ⟨n, rfl, hn⟩ := Option.bind_eq_some_iff.1 hi
  exact h.interface hn

lemma chain {seen : List String} {next : Option String} {x : Interface}
    (hx : x ∈ u.chain seen next) : ∃ x' ∈ u'.chain seen next, x.Grows x' := by
  induction seen, next using chain.induct u with
  | case1 seen next hi =>
    rw [chain_end hi] at hx
    cases hx
  | case2 seen next i hi hs =>
    rw [chain_step hi, if_pos hs] at hx
    cases hx
  | case3 seen next i hi hs ih =>
    obtain ⟨i', hi', hgrows⟩ := h.next hi
    rw [chain_step hi, if_neg hs] at hx
    rw [chain_step hi', hgrows.name, hgrows.superclass, if_neg hs]
    rcases List.mem_cons.1 hx with rfl | hx
    · exact ⟨i', List.mem_cons_self, hgrows⟩
    · obtain ⟨x', hx', hxgrows⟩ := ih hx
      exact ⟨x', List.mem_cons_of_mem _ hx', hxgrows⟩

lemma ancestors {i i' x : Interface} (hi : i.Grows i') (hx : x ∈ u.ancestors i) :
    ∃ x' ∈ u'.ancestors i', x.Grows x' := by
  rw [SourceUnit.ancestors, hi.name, hi.superclass]
  rcases List.mem_cons.1 hx with rfl | hx
  · exact ⟨i', List.mem_cons_self, hi⟩
  · obtain ⟨x', hx', hgrows⟩ := h.chain hx
    exact ⟨x', List.mem_cons_of_mem _ hx', hgrows⟩

lemma reaches {target : String} {seen : List String} {next : Option String}
    (hr : u.reaches target seen next = true) : u'.reaches target seen next = true := by
  induction seen, next using reaches.induct u target with
  | case1 seen next hi =>
    rw [reaches_end hi] at hr
    cases hr
  | case2 seen next i hi ht =>
    obtain ⟨i', hi', hgrows⟩ := h.next hi
    rw [reaches_step hi', hgrows.name, if_pos ht]
  | case3 seen next i hi ht hs =>
    rw [reaches_step hi, if_neg ht, if_pos hs] at hr
    cases hr
  | case4 seen next i hi ht hs ih =>
    obtain ⟨i', hi', hgrows⟩ := h.next hi
    rw [reaches_step hi, if_neg ht, if_neg hs] at hr
    rw [reaches_step hi', hgrows.name, hgrows.superclass, if_neg ht, if_neg hs]
    exact ih hr

lemma isKindOf {i i' : Interface} (hi : i.Grows i') {target : String}
    (hk : u.isKindOf i target = true) : u'.isKindOf i' target = true := by
  rw [SourceUnit.isKindOf, hi.name, hi.superclass]
  rw [SourceUnit.isKindOf] at hk
  split_ifs at hk ⊢ with ht hroot
  · rfl
  · exact h.reaches hk

/-! #### The declared surface -/

lemma offers {m : Method} {n : String} (ho : u.Offers m n) : u'.Offers m n := by
  induction ho with
  | own hp hm =>
    obtain ⟨p', hp', hgrows⟩ := h.protocol hp
    exact .own hp' (hgrows.body.declares hm)
  | adopted hp hk _ ih =>
    obtain ⟨p', hp', hgrows⟩ := h.protocol hp
    exact .adopted hp' (hgrows.body.protocols hk) ih

variable (hu : u.Resolved) (hu' : u'.Resolved) {m : Method}
include hu hu'

lemma interfaceDeclares {i i' : Interface} (hi : i.Grows i') (hd : u.interfaceDeclares i m = true) :
    u'.interfaceDeclares i' m = true := by
  rw [interfaceDeclares_iff hu']
  rcases (interfaceDeclares_iff hu i).1 hd with hm | ⟨a, ha, n, hn, ho⟩
  · exact .inl (hi.body.declares hm)
  · obtain ⟨a', ha', hgrows⟩ := h.ancestors hi ha
    exact .inr ⟨a', ha', n, hgrows.body.protocols hn, h.offers ho⟩

lemma categoryDeclares {c c' : Category} (hc : c.Grows c') (hd : u.categoryDeclares c m = true) :
    u'.categoryDeclares c' m = true := by
  rw [categoryDeclares_iff hu']
  rcases (categoryDeclares_iff hu c).1 hd with hm | ⟨n, hn, ho⟩
  · exact .inl (hc.body.declares hm)
  · exact .inr ⟨n, hc.body.protocols hn, h.offers ho⟩

lemma hierarchyDeclares {i i' : Interface} (hi : i.Grows i')
    (hd : u.hierarchyDeclares i m = true) : u'.hierarchyDeclares i' m = true := by
  rw [hierarchyDeclares_iff hu']
  obtain ⟨a, ha, x, hx, hsurface⟩ := (hierarchyDeclares_iff hu i).1 hd
  obtain ⟨a', ha', hgrows⟩ := h.ancestors hi ha
  obtain ⟨x', hx', hxgrows⟩ := h.definition hx
  refine ⟨a', ha', x', hgrows.name ▸ hx', ?_⟩
  rcases hsurface with hdecl | ⟨c, hc, hdecl⟩
  · exact .inl (h.interfaceDeclares hu hu' hxgrows hdecl)
  · obtain ⟨c', hc', hcgrows⟩ := h.category hc
    exact .inr ⟨c', hxgrows.name ▸ hc', h.categoryDeclares hu hu' hcgrows hdecl⟩

lemma classDeclares {c : String} (hd : u.classDeclares c m = true) :
    u'.classDeclares c m = true := by
  rw [SourceUnit.classDeclares, Option.any_eq_true] at hd ⊢
  obtain ⟨i, hi, hd⟩ := hd
  obtain ⟨i', hi', hgrows⟩ := h.interface hi
  exact ⟨i', hi', h.hierarchyDeclares hu hu' hgrows hd⟩

end SourceUnit.PersistsIn

/-! ### Verdicts -/

/-- Verdicts by how well the use of a method is established. -/
def Verdict.rank : Verdict → Nat
  | .unused => 0
  | .possiblyUsed => 1
  | .usedInternal => 2
  | .usedPublic => 3

lemma Verdict.rank_injective : Function.Injective Verdict.rank := by
  intro v w h
  cases v <;> cases w <;> first | rfl | cases h

lemma Verdict.rank_le (v : Verdict) : v.rank ≤ Verdict.usedPublic.rank := by
  cases v <;> decide

namespace SourceUnit.PersistsIn

variable {u u' : SourceUnit} {i i' : Implementation} {m : Method}

lemma exported (h : u.PersistsIn u') (hu : u.Resolved) (hu' : u'.Resolved)
    (hi : i.PersistsIn i') (he : u.Exported i m) : u'.Exported i' m := by
  obtain ⟨c, hc, hd⟩ := he
  exact ⟨c, hi.className.trans hc, h.classDeclares hu hu' hd⟩

lemma calledInside (h : u.PersistsIn u') (hi : i.PersistsIn i') (hc : u.CalledInside i m) :
    u'.CalledInside i' m := by
  obtain ⟨c, hclass, a, n, x, ha, hcalls, hx, hk⟩ := hc
  obtain ⟨x', hx', hgrows⟩ := h.definition hx
  exact ⟨c, hi.className.trans hclass, a, n, x', hi.actsOutside ha, hcalls, hx',
    h.isKindOf hgrows hk⟩

lemma possible (h : u.PersistsIn u') {target : Option String} {a : Action}
    (ha : (u.actionEvidence m target a).possible = true) :
    (u'.actionEvidence m target a).possible = true := by
  rw [actionEvidence_possible] at ha ⊢
  refine ha.imp_right fun ⟨type, hcalls, hunknown⟩ => ⟨type, hcalls, hunknown.imp_right ?_⟩
  intro hnone
  cases type with
  | none => rfl
  | some n => exact h.undefined hnone

/-- A verdict does not go down where everything is found again. -/
theorem rank_verdict_le (h : u.PersistsIn u') (hu : u.Resolved) (hu' : u'.Resolved)
    (hi : i.PersistsIn i') (m : Method) :
    (u.verdict i m).rank ≤ (u'.verdict i' m).rank := by
  have hexp : u.Exported i m → u'.Exported i' m := h.exported hu hu' hi
  have hcall : u.CalledInside i m → u'.CalledInside i' m := h.calledInside hi
  have hhint : (∃ a, i.ActsOutside m a ∧ (u.actionEvidence m i.className a).possible = true) →
      ∃ a, i'.ActsOutside m a ∧ (u'.actionEvidence m i'.className a).possible = true := by
    rintro ⟨a, ha, hp⟩
    exact ⟨a, hi.actsOutside ha, hi.className ▸ h.possible hp⟩
  rw [verdict_eq_ite, verdict_eq_ite]
  by_cases he : u'.Exported i' m
  · rw [if_pos he]
    exact Verdict.rank_le _
  · rw [if_neg he, if_neg (mt hexp he)]
    by_cases hc : u'.CalledInside i' m
    · rw [if_pos hc]
      split_ifs <;> simp [Verdict.rank]
    · rw [if_neg hc, if_neg (mt hcall hc)]
      split_ifs with hp hp'
      · exact Nat.le_refl _
      · exact absurd (hhint hp) hp'
      all_goals exact Nat.zero_le _

end SourceUnit.PersistsIn

/-! ### Dumps -/

/-- Every declaration and implementation is there again. The classes that are declared are the
same, those made ahead in the same order. -/
structure Dump.PersistsIn (d d' : Dump) : Prop where
  definitions (n : String) :
    List.Forall₂ Interface.Grows (definitionsOf d.interfaces n) (definitionsOf d'.interfaces n)
  forwards (n : String) :
    List.Forall₂ Interface.Grows (forwardsOf d.interfaces n) (forwardsOf d'.interfaces n)
  protocols : ∀ p ∈ d.protocols, ∃ p' ∈ d'.protocols, p.Grows p'
  categories : ∀ c ∈ d.categories, ∃ c' ∈ d'.categories, c.Grows c'
  implementations : ∀ i ∈ d.implementations, ∃ i' ∈ d'.implementations, i.PersistsIn i'

lemma rel_head? {R : α → β → Prop} {xs : List α} {ys : List β} (h : List.Forall₂ R xs ys) :
    Option.Rel R xs.head? ys.head? := by
  cases h with
  | nil => exact .none
  | cons hx _ => exact .some hx

lemma rel_orElse {R : α → β → Prop} {x y : Option α} {x' y' : Option β} (hx : Option.Rel R x x')
    (hy : Option.Rel R y y') : Option.Rel R (x <|> y) (x' <|> y') := by
  cases hx with
  | some h => exact .some h
  | none => simpa using hy

lemma exists_of_rel_some {R : α → β → Prop} {x : α} {y : Option β}
    (h : Option.Rel R (some x) y) : ∃ y', y = some y' ∧ R x y' := by
  cases h with
  | some hr => exact ⟨_, rfl, hr⟩

lemma eq_none_of_rel_none {R : α → β → Prop} {y : Option β} (h : Option.Rel R none y) :
    y = none := by
  cases h
  rfl

namespace Dump.PersistsIn

variable {d d' : Dump} (h : d.PersistsIn d')
include h

lemma declaration (n : String) :
    Option.Rel Interface.Grows (declaration? d.interfaces n) (declaration? d'.interfaces n) :=
  rel_orElse (rel_head? (h.definitions n)) (rel_head? (h.forwards n))

lemma exists_declaration {n : String} {x : Interface}
    (hx : declaration? d.interfaces n = some x) :
    ∃ x', declaration? d'.interfaces n = some x' ∧ x.Grows x' :=
  exists_of_rel_some (hx ▸ h.declaration n)

lemma not_declared {n : String} (hn : declaration? d.interfaces n = none) :
    declaration? d'.interfaces n = none :=
  eq_none_of_rel_none (hn ▸ h.declaration n)

lemma mentions {n : String} (hn : d.Mentions n) : d'.Mentions n := by
  rcases hn with ⟨k, x, hx, hsuper⟩ | ⟨i, hi, hn⟩
  · obtain ⟨x', hx', hgrows⟩ := h.exists_declaration hx
    exact .inl ⟨k, x', hx', hgrows.superclass.trans hsuper⟩
  · obtain ⟨i', hi', hp⟩ := h.implementations i hi
    exact .inr ⟨i', hi', hp.classNames hn⟩

/-- What resolving makes of the dumps: bare declarations persist because what mentions a class
does. -/
lemma resolve {u u' : SourceUnit} (hd : d.resolve = .ok u) (hd' : d'.resolve = .ok u') :
    u.PersistsIn u' where
  interface {n x} hx := by
    rcases (interface?_of_resolve hd).1 hx with hdecl | ⟨hnone, hmention, rfl⟩
    · obtain ⟨x', hx', hgrows⟩ := h.exists_declaration hdecl
      exact ⟨x', (interface?_of_resolve hd').2 (.inl hx'), hgrows⟩
    · refine ⟨.named n, (interface?_of_resolve hd').2 (.inr ⟨h.not_declared hnone, ?_, rfl⟩), ?_⟩
      · exact h.mentions hmention
      · exact ⟨rfl, rfl, rfl, List.Subset.refl _, List.Subset.refl _, List.Subset.refl _⟩
  undefined {n} hn := by
    rw [definition?_of_resolve hd, List.head?_eq_none_iff] at hn
    have hdef := h.definitions n
    rw [hn, List.forall₂_nil_left_iff] at hdef
    rw [definition?_of_resolve hd', hdef]
    rfl
  protocol {n p} hp := by
    have honce := ((exists_resolve_iff d).1 ⟨u, hd⟩).2
    have honce' := ((exists_resolve_iff d').1 ⟨u', hd'⟩).2
    rw [protocol?_of_resolve hd, honce.head?_eq_some_iff] at hp
    obtain ⟨hmem, hname, hforward⟩ := hp
    obtain ⟨p', hp', hgrows⟩ := h.protocols p hmem
    refine ⟨p', ?_, hgrows⟩
    rw [protocol?_of_resolve hd', honce'.head?_eq_some_iff]
    exact ⟨hp', hgrows.name.trans hname, hgrows.forward.trans hforward⟩
  category {n c} hc := by
    rw [(resolved hd).mem_categoriesOf, categories_of_resolve hd] at hc
    obtain ⟨c', hc', hgrows⟩ := h.categories c hc.1
    refine ⟨c', ?_, hgrows⟩
    rw [(resolved hd').mem_categoriesOf, categories_of_resolve hd']
    exact ⟨hc', hgrows.className.trans hc.2⟩

end Dump.PersistsIn

/-! ### Dumps that grow -/

/-- The statement with more children, at any depth. -/
inductive Stmt.Grows : Stmt → Stmt → Prop
  | node {a : Action} {cs cs' : List Stmt} (h : List.SublistForall₂ Stmt.Grows cs cs') :
    Stmt.Grows (.node a cs) (.node a cs')

/-- The method with more in its body, or with a body where there was none. -/
structure MethodDef.Grows (d d' : MethodDef) : Prop where
  method : d'.method = d.method
  line : d'.line = d.line
  body : ∀ b ∈ d.body, ∃ b' ∈ d'.body, b.Grows b'

/-- The implementation with more in its methods, and more methods. -/
structure Implementation.Grows (i i' : Implementation) : Prop where
  className : i'.className = i.className
  category : i'.category = i.category
  methods : List.SublistForall₂ MethodDef.Grows i.methods i'.methods

/-- The dump with more in its declarations and implementations, more categories and more
protocols. -/
structure Dump.Grows (d d' : Dump) : Prop where
  file : d'.file = d.file
  interfaces : List.Forall₂ Interface.Grows d.interfaces d'.interfaces
  protocols : List.SublistForall₂ Protocol.Grows d.protocols d'.protocols
  categories : List.SublistForall₂ Category.Grows d.categories d'.categories
  implementations : List.Forall₂ Implementation.Grows d.implementations d'.implementations

lemma exists_mem_of_forall₂ {R : α → β → Prop} {xs : List α} {ys : List β}
    (h : List.Forall₂ R xs ys) {x : α} (hx : x ∈ xs) : ∃ y ∈ ys, R x y := by
  induction h with
  | nil => cases hx
  | @cons a b as bs hab _ ih =>
    rcases List.mem_cons.1 hx with rfl | hx
    · exact ⟨b, List.mem_cons_self, hab⟩
    · obtain ⟨y, hy, hr⟩ := ih hx
      exact ⟨y, List.mem_cons_of_mem _ hy, hr⟩

lemma exists_mem_of_sublistForall₂ {R : α → β → Prop} {xs : List α} {ys : List β}
    (h : List.SublistForall₂ R xs ys) {x : α} (hx : x ∈ xs) : ∃ y ∈ ys, R x y := by
  obtain ⟨zs, hzs, hsub⟩ := List.sublistForall₂_iff.1 h
  obtain ⟨y, hy, hr⟩ := exists_mem_of_forall₂ hzs hx
  exact ⟨y, hsub.subset hy, hr⟩

lemma Stmt.Grows.persistsIn {b b' : Stmt} (h : b.Grows b') : b.PersistsIn b' := by
  refine persistsIn_of_simulation (fun t t' ht => ?_) h
  cases ht with
  | node hcs => exact ⟨rfl, fun c hc => exists_mem_of_sublistForall₂ hcs hc⟩

lemma Implementation.Grows.persistsIn {i i' : Implementation} (h : i.Grows i') :
    i.PersistsIn i' := by
  refine ⟨h.className, fun e he => ?_⟩
  obtain ⟨e', he', hgrows⟩ := exists_mem_of_sublistForall₂ h.methods he
  refine ⟨e', he', hgrows.method, fun b hb => ?_⟩
  obtain ⟨b', hb', hbgrows⟩ := hgrows.body b hb
  exact ⟨b', hb', hbgrows.persistsIn⟩

lemma Dump.Grows.persistsIn {d d' : Dump} (h : d.Grows d') : d.PersistsIn d' where
  definitions n := by
    refine List.rel_filter (fun x x' hx => ?_) h.interfaces
    simp [Declaration.name, Declaration.forward, hx.name, hx.forward]
  forwards n := by
    refine List.rel_filter (fun x x' hx => ?_) h.interfaces
    simp [Declaration.name, Declaration.forward, hx.name, hx.forward]
  protocols _ hp := exists_mem_of_sublistForall₂ h.protocols hp
  categories _ hc := exists_mem_of_sublistForall₂ h.categories hc
  implementations i hi := by
    obtain ⟨i', hi', hgrows⟩ := exists_mem_of_forall₂ h.implementations hi
    exact ⟨i', hi', hgrows.persistsIn⟩

/-- **More declarations or references never make a method look deader**: where a dump grows and
both dumps resolve, no verdict on a method of the smaller one goes down. -/
theorem rank_verdict_le_of_grows {d d' : Dump} {u u' : SourceUnit} (hg : d.Grows d')
    (h : d.resolve = .ok u) (h' : d'.resolve = .ok u') :
    List.Forall₂
      (fun i i' => ∀ e ∈ i.methods,
        (u.verdict i e.method).rank ≤ (u'.verdict i' e.method).rank)
      u.implementations u'.implementations := by
  rw [Dump.implementations_of_resolve h, Dump.implementations_of_resolve h']
  have hunits := hg.persistsIn.resolve h h'
  refine hg.implementations.imp fun i i' hi e _ => ?_
  exact hunits.rank_verdict_le (Dump.resolved h) (Dump.resolved h') hi.persistsIn e.method

/-- The widget with more said in `draw`, a body for `reset` and a further method. -/
def richWidget : Implementation where
  className := some "Widget"
  category := none
  methods := [
    ⟨⟨"close", false⟩, some (.node (.send .object "reset" none) []), none⟩,
    ⟨⟨"draw", false⟩, some (.node (.other none) [
      .node (.send .superObject "reset" none) [.node (.selectorLiteral "close") []],
      .node (.other none) [
        .node (.selectorLiteral "tap:") [],
        .node (.send .object "tap:" (some "Panel")) [],
        .node (.send .object "layout" (some "Panel")) []]]), none⟩,
    ⟨⟨"layout", false⟩, some (.node (.send .object "layout" (some "Widget")) []), none⟩,
    ⟨⟨"reset", false⟩, some (.node (.send .object "close" (some "Stranger")) []), none⟩,
    ⟨⟨"tap:", false⟩, none, none⟩]

/-- The gallery with a second protocol, a category and the richer widget. -/
def richGallery : Dump where
  file := "Widget.m"
  interfaces := [
    ⟨"Widget", none, .empty, true⟩,
    ⟨"Panel", some "Widget", ⟨[], [⟨"fold", false⟩], []⟩, false⟩,
    ⟨"Widget", some "NSObject", ⟨["Drawing", "Layout"], [], []⟩, false⟩]
  protocols := [
    ⟨"Layout", ⟨[], [⟨"layout", false⟩], []⟩, false⟩,
    ⟨"Drawing", ⟨["Drawing"], [⟨"draw", false⟩], []⟩, false⟩]
  categories := [⟨"Taps", "Widget", ⟨["Drawing"], [], []⟩⟩]
  implementations := [richWidget]

lemma widget_grows : SourceUnit.widget.Grows richWidget := by
  have leaf : ∀ a cs, (Stmt.node a []).Grows (.node a cs) := fun a cs => .node .nil
  refine ⟨rfl, rfl, .cons_right (.cons ⟨rfl, rfl, ?_⟩ (.cons ⟨rfl, rfl, ?_⟩
    (.cons ⟨rfl, rfl, ?_⟩ (.cons ⟨rfl, rfl, ?_⟩ .nil))))⟩
  · rintro b ⟨⟩
    exact ⟨_, rfl, .node (.cons (leaf _ _) (.cons
      (.node (.cons (leaf _ _) (.cons_right (.cons (leaf _ _) .nil)))) .nil))⟩
  · rintro b ⟨⟩
    exact ⟨_, rfl, leaf _ _⟩
  all_goals
    rintro b ⟨⟩

lemma gallery_grows : SourceUnit.gallery.Grows richGallery where
  file := rfl
  interfaces :=
    .cons ⟨rfl, rfl, rfl, by simp, by simp, by simp⟩ <|
    .cons ⟨rfl, rfl, rfl, by simp [Body.empty], by simp [Body.empty], by simp [Body.empty]⟩ <|
    .cons ⟨rfl, rfl, rfl, by simp, by simp, by simp⟩ .nil
  protocols := .cons_right (.cons ⟨rfl, rfl, by simp, by simp, by simp⟩ .nil)
  categories := .nil
  implementations := .cons widget_grows .nil

theorem rank_verdict_le_of_grows_gallery :
    SourceUnit.gallery.Grows richGallery ∧
      ∃ u u', SourceUnit.gallery.resolve = .ok u ∧ richGallery.resolve = .ok u' ∧
        ∀ e ∈ SourceUnit.widget.methods,
          (u.verdict SourceUnit.widget e.method).rank ≤ (u'.verdict richWidget e.method).rank := by
  obtain ⟨u, hu⟩ := SourceUnit.gallery_resolves
  obtain ⟨u', hu'⟩ := richGallery.isOk_resolve_iff.1 (by decide)
  have hle := rank_verdict_le_of_grows gallery_grows hu hu'
  rw [Dump.implementations_of_resolve hu, Dump.implementations_of_resolve hu'] at hle
  exact ⟨gallery_grows, u, u', hu, hu', (List.forall₂_cons.1 hle).1⟩

end MethodAudit
