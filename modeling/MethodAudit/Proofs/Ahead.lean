import MethodAudit.Proofs.Folding
import MethodAudit.Proofs.Surface
import MethodAudit.Verdict

/-!
What classes that are only declared ahead contribute.

A class without a definition is passed over where the declared surface is searched, and stays a
link between the classes below and above it. The protocols of a class that is defined are taken
from all its superclasses, though, and there those without a definition are not passed over. So
the body of a class that is only declared ahead can be emptied without a change of verdicts,
unless it adopts a protocol that offers the method and stands above a class that is defined.
-/

namespace MethodAudit

open NameTable

/-! ### Emptying bodies -/

/-- The declaration with nothing but its name and its superclass. -/
def Interface.bare (i : Interface) : Interface := { i with body := .empty }

/-- The declaration as it stands if it is a definition, and bare if it is made ahead. -/
def Interface.reduced (i : Interface) : Interface := if i.forward then i.bare else i

namespace Interface

@[simp] lemma reduced_name (i : Interface) : i.reduced.name = i.name := by
  unfold reduced
  split <;> rfl

@[simp] lemma reduced_superclass (i : Interface) : i.reduced.superclass = i.superclass := by
  unfold reduced
  split <;> rfl

@[simp] lemma reduced_forward (i : Interface) : i.reduced.forward = i.forward := by
  unfold reduced
  split <;> rfl

lemma reduced_of_defined {i : Interface} (h : i.forward = false) : i.reduced = i := by
  simp [reduced, h]

lemma reduced_of_forward {i : Interface} (h : i.forward = true) : i.reduced = i.bare := by
  simp [reduced, h]

end Interface

/-- The declaration, or the bare one if the list has no definition of the class. -/
def Interface.baredIn (ds : List Interface) (i : Interface) : Interface :=
  if definitionsOf ds i.name = [] then i.bare else i

section Lists

variable (ds : List Interface) (n : String)

lemma baredIn_name (i : Interface) : (i.baredIn ds).name = i.name := by
  unfold Interface.baredIn
  split <;> rfl

lemma baredIn_forward (i : Interface) : (i.baredIn ds).forward = i.forward := by
  unfold Interface.baredIn
  split <;> rfl

/-- Declarations are picked by their names and by whether they are made ahead. -/
lemma filter_map_baredIn (p : String → Bool → Bool) :
    (ds.map (·.baredIn ds)).filter (fun i => p i.name i.forward) =
      (ds.filter fun i => p i.name i.forward).map (·.baredIn ds) := by
  rw [List.filter_map]
  simp only [Function.comp_def, baredIn_name, baredIn_forward]

lemma definitionsOf_baredIn :
    definitionsOf (ds.map (·.baredIn ds)) n = definitionsOf ds n := by
  refine (filter_map_baredIn ds fun k f => k = n && !f).trans ?_
  -- a definition is in the way of its own reduction
  have hsame : ∀ i ∈ definitionsOf ds n, i.baredIn ds = i := by
    intro i hi
    have hname : i.name = n := (mem_definitionsOf.1 hi).2.1
    rw [Interface.baredIn, if_neg (hname ▸ List.ne_nil_of_mem hi)]
  exact (List.map_congr_left hsame).trans (List.map_id' _)

lemma declaration?_baredIn :
    declaration? (ds.map (·.baredIn ds)) n = (declaration? ds n).map Interface.reduced := by
  have hforwards : forwardsOf (ds.map (·.baredIn ds)) n =
      (forwardsOf ds n).map (·.baredIn ds) :=
    filter_map_baredIn ds fun k f => k = n && f
  rw [declaration?, declaration?, definitionsOf_baredIn, hforwards]
  rcases hdefs : definitionsOf ds n with _ | ⟨i, is⟩
  · rcases hfwds : forwardsOf ds n with _ | ⟨i, is⟩
    · rfl
    · obtain ⟨-, hname, hf⟩ := mem_forwardsOf.1 (hfwds ▸ List.mem_cons_self)
      have hname : i.name = n := hname
      have hbare : i.baredIn ds = i.reduced := by
        rw [Interface.baredIn, hname, if_pos hdefs, Interface.reduced_of_forward hf]
      simp [hbare]
  · obtain ⟨-, -, hf⟩ := mem_definitionsOf.1 (hdefs ▸ List.mem_cons_self)
    simp [Interface.reduced_of_defined hf]

end Lists

/-! ### Units -/

/-- The other unit is the same, but there the classes without a definition are bare. -/
structure SourceUnit.Reduces (u u' : SourceUnit) : Prop where
  interface (n : String) : u'.interface? n = (u.interface? n).map Interface.reduced
  protocol (n : String) : u'.protocol? n = u.protocol? n
  categories (n : String) : u'.categoriesOf n = u.categoriesOf n

namespace SourceUnit.Reduces

variable {u u' : SourceUnit} (h : u.Reduces u')
include h

lemma definition (n : String) : u'.definition? n = u.definition? n := by
  have hfind : u'.interfaces.find? n = (u.interfaces.find? n).map Interface.reduced := h.interface n
  rw [definition?, definition?, NameTable.definition?, NameTable.definition?, hfind]
  cases u.interfaces.find? n with
  | none => rfl
  | some x =>
    cases hf : x.forward with
    | false => rw [Option.map_some, Interface.reduced_of_defined hf]
    | true => simp [Option.filter_some, Declaration.forward, hf]

/-! #### Superclass chains -/

section Next

variable {next : Option String}

lemma next_eq_none (hi : next.bind u.interface? = none) : next.bind u'.interface? = none := by
  cases next with
  | none => rfl
  | some n => exact (h.interface n).trans (by rw [show u.interface? n = none from hi]; rfl)

lemma next_eq_some {i : Interface} (hi : next.bind u.interface? = some i) :
    next.bind u'.interface? = some i.reduced := by
  obtain ⟨n, rfl, hn⟩ := Option.bind_eq_some_iff.1 hi
  rw [Option.bind_some, h.interface, hn, Option.map_some]

end Next

lemma chain (seen : List String) (next : Option String) :
    u'.chain seen next = (u.chain seen next).map Interface.reduced := by
  induction seen, next using chain.induct u with
  | case1 seen next hi =>
    rw [chain_end hi, chain_end (h.next_eq_none hi), List.map_nil]
  | case2 seen next i hi hs =>
    rw [chain_step hi, chain_step (h.next_eq_some hi), Interface.reduced_name, if_pos hs,
      if_pos hs, List.map_nil]
  | case3 seen next i hi hs ih =>
    rw [chain_step hi, chain_step (h.next_eq_some hi), Interface.reduced_name,
      Interface.reduced_superclass, if_neg hs, if_neg hs, ih, List.map_cons]

lemma ancestors (i : Interface) :
    u'.ancestors i.reduced = (u.ancestors i).map Interface.reduced := by
  rw [SourceUnit.ancestors, SourceUnit.ancestors, Interface.reduced_name,
    Interface.reduced_superclass, h.chain, List.map_cons]

lemma reaches (target : String) (seen : List String) (next : Option String) :
    u'.reaches target seen next = u.reaches target seen next := by
  induction seen, next using reaches.induct u target with
  | case1 seen next hi =>
    rw [reaches_end hi, reaches_end (h.next_eq_none hi)]
  | case2 seen next i hi ht =>
    rw [reaches_step hi, reaches_step (h.next_eq_some hi), Interface.reduced_name, if_pos ht,
      if_pos ht]
  | case3 seen next i hi ht hs =>
    rw [reaches_step hi, reaches_step (h.next_eq_some hi), Interface.reduced_name, if_neg ht,
      if_neg ht, if_pos hs, if_pos hs]
  | case4 seen next i hi ht hs ih =>
    rw [reaches_step hi, reaches_step (h.next_eq_some hi), Interface.reduced_name,
      Interface.reduced_superclass, if_neg ht, if_neg ht, if_neg hs, if_neg hs, ih]

lemma isKindOf (i : Interface) (target : String) :
    u'.isKindOf i target = u.isKindOf i target := by
  rw [SourceUnit.isKindOf, SourceUnit.isKindOf, h.reaches]

/-! #### What the bodies say -/

lemma matchReceiver : u'.matchReceiver = u.matchReceiver := by
  funext type target
  have hdef : u'.definition? = u.definition? := funext h.definition
  simp only [SourceUnit.matchReceiver, hdef, h.isKindOf]

lemma evidence (i : Implementation) (m : Method) : u'.evidence i m = u.evidence i m := by
  have haction : u'.actionEvidence = u.actionEvidence := by
    funext m target a
    cases a <;> simp only [actionEvidence, h.matchReceiver]
  simp only [SourceUnit.evidence, bodyEvidence, haction]

/-! #### The declared surface -/

lemma offers {m : Method} {n : String} : u'.Offers m n ↔ u.Offers m n := by
  constructor
  · intro ho
    induction ho with
    | own hp hm => exact .own (h.protocol _ ▸ hp) hm
    | adopted hp hk _ ih => exact .adopted (h.protocol _ ▸ hp) hk ih
  · intro ho
    induction ho with
    | own hp hm => exact .own ((h.protocol _).trans hp) hm
    | adopted hp hk _ ih => exact .adopted ((h.protocol _).trans hp) hk ih

section Resolved

variable (hu : u.Resolved) (hu' : u'.Resolved) {m : Method}
include hu hu'

lemma categoryDeclares_iff (c : Category) :
    u'.categoryDeclares c m = true ↔ u.categoryDeclares c m = true := by
  rw [SourceUnit.categoryDeclares_iff hu, SourceUnit.categoryDeclares_iff hu']
  simp only [h.offers]

/-- The protocols of a superclass are lost if it has no definition. -/
lemma interfaceDeclares_iff {x : Interface} (hx : x.forward = false) :
    u.interfaceDeclares x m = true ↔
      u'.interfaceDeclares x m = true ∨
        ∃ a ∈ u.ancestors x, a.forward = true ∧ ∃ n ∈ a.body.protocols, u.Offers m n := by
  have hancestors : u'.ancestors x = (u.ancestors x).map Interface.reduced := by
    rw [← h.ancestors, Interface.reduced_of_defined hx]
  rw [SourceUnit.interfaceDeclares_iff hu, SourceUnit.interfaceDeclares_iff hu', hancestors]
  constructor
  · rintro (hm | ⟨a, ha, n, hn, ho⟩)
    · exact .inl (.inl hm)
    · cases hf : a.forward with
      | true => exact .inr ⟨a, ha, hf, n, hn, ho⟩
      | false =>
        have ha' : a ∈ (u.ancestors x).map Interface.reduced :=
          List.mem_map.2 ⟨a, ha, Interface.reduced_of_defined hf⟩
        exact .inl (.inr ⟨a, ha', n, hn, h.offers.2 ho⟩)
  · rintro ((hm | ⟨_, ha, n, hn, ho⟩) | ⟨a, ha, -, n, hn, ho⟩)
    · exact .inl hm
    · obtain ⟨a, hmem, rfl⟩ := List.mem_map.1 ha
      cases hf : a.forward with
      | true =>
        rw [Interface.reduced_of_forward hf] at hn
        cases hn
      | false =>
        rw [Interface.reduced_of_defined hf] at hn
        exact .inr ⟨a, hmem, n, hn, h.offers.1 ho⟩
    · exact .inr ⟨a, ha, n, hn, ho⟩

/-- A class is declared to have the method in the reduced unit too, or by a protocol that is
lost. -/
lemma hierarchyDeclares_iff (i : Interface) :
    u.hierarchyDeclares i m = true ↔
      u'.hierarchyDeclares i.reduced m = true ∨
        ∃ a ∈ u.ancestors i, ∃ x, u.definition? a.name = some x ∧
          ∃ b ∈ u.ancestors x, b.forward = true ∧ ∃ n ∈ b.body.protocols, u.Offers m n := by
  have hclass (a x : Interface) (hx : u.definition? a.name = some x) :
      (u.interfaceDeclares x m = true ∨
          ∃ c ∈ u.categoriesOf x.name, u.categoryDeclares c m = true) ↔
        (u'.interfaceDeclares x m = true ∨
          ∃ c ∈ u'.categoriesOf x.name, u'.categoryDeclares c m = true) ∨
        ∃ b ∈ u.ancestors x, b.forward = true ∧ ∃ n ∈ b.body.protocols, u.Offers m n := by
    rw [h.interfaceDeclares_iff hu hu' (hu.definition?_eq_some_iff.1 hx).2.2, h.categories]
    simp only [h.categoryDeclares_iff hu hu']
    exact or_right_comm
  rw [SourceUnit.hierarchyDeclares_iff hu, SourceUnit.hierarchyDeclares_iff hu', h.ancestors]
  constructor
  · rintro ⟨a, ha, x, hx, hsurface⟩
    refine ((hclass a x hx).1 hsurface).imp (fun hkept => ?_) fun hlost => ⟨a, ha, x, hx, hlost⟩
    refine ⟨a.reduced, List.mem_map.2 ⟨a, ha, rfl⟩, x, ?_, hkept⟩
    rw [Interface.reduced_name, h.definition, hx]
  · rintro (⟨_, ha, x, hx, hkept⟩ | ⟨a, ha, x, hx, hlost⟩)
    · obtain ⟨a, hmem, rfl⟩ := List.mem_map.1 ha
      rw [Interface.reduced_name, h.definition] at hx
      exact ⟨a, hmem, x, hx, (hclass a x hx).2 (.inl hkept)⟩
    · exact ⟨a, ha, x, hx, (hclass a x hx).2 (.inr hlost)⟩

end Resolved

end SourceUnit.Reduces

/-! ### Protocols that classes adopt ahead of their definition -/

namespace SourceUnit

/-- A class without a definition adopts a protocol that offers `m`. It stands above a class that
is defined and that stands above `c`, or is `c`. -/
def AdoptedAhead (u : SourceUnit) (c : String) (m : Method) : Prop :=
  ∃ n x, u.Inherits c n ∧ u.definition? n = some x ∧
    ∃ k y, u.Inherits n k ∧ u.interface? k = some y ∧ y.forward = true ∧
      ∃ p ∈ y.body.protocols, u.Offers m p

variable {u u' : SourceUnit} {m : Method}

lemma Resolved.interface?_of_definition? (hu : u.Resolved) {n : String} {x : Interface}
    (hx : u.definition? n = some x) : u.interface? n = some x := by
  obtain ⟨hmem, hname, -⟩ := hu.definition?_eq_some_iff.1 hx
  exact hu.interface?_eq_some_iff.2 ⟨hmem, hname⟩

/-- What a walk among ancestors meets, in terms of what stands above. -/
lemma Resolved.adoptedAhead_iff (hu : u.Resolved) {c : String} {i : Interface}
    (hi : u.interface? c = some i) :
    u.AdoptedAhead c m ↔
      ∃ a ∈ u.ancestors i, ∃ x, u.definition? a.name = some x ∧
        ∃ b ∈ u.ancestors x, b.forward = true ∧ ∃ n ∈ b.body.protocols, u.Offers m n := by
  constructor
  · rintro ⟨n, x, hn, hx, k, y, hk, hy, hf, hoffers⟩
    obtain ⟨a, ha, rfl⟩ := hu.exists_mem_ancestors hi hn
    obtain ⟨b, hb, rfl⟩ := hu.exists_mem_ancestors (hu.interface?_of_definition? hx) hk
    have hbdecl := mem_ancestors (hu.definition?_eq_some_iff.1 hx).1 hb
    obtain rfl : b = y :=
      Option.some.inj ((hu.interface?_eq_some_iff.2 ⟨hbdecl, rfl⟩).symm.trans hy)
    exact ⟨a, ha, x, hx, b, hb, hf, hoffers⟩
  · rintro ⟨a, ha, x, hx, b, hb, hf, hoffers⟩
    have hbdecl := mem_ancestors (hu.definition?_eq_some_iff.1 hx).1 hb
    refine ⟨a.name, x, hu.inherits_of_mem_ancestors hi ha, hx, b.name, b, ?_,
      hu.interface?_eq_some_iff.2 ⟨hbdecl, rfl⟩, hf, hoffers⟩
    exact hu.inherits_of_mem_ancestors (hu.interface?_of_definition? hx) hb

/-- **What is lost**: the surface of a class has, besides what the reduced unit knows of, what
protocols offer that are adopted ahead. -/
lemma Reduces.classDeclares_iff (h : u.Reduces u') (hu : u.Resolved) (hu' : u'.Resolved)
    {c : String} (hc : ∃ i, u.interface? c = some i) :
    u.classDeclares c m = true ↔ u'.classDeclares c m = true ∨ u.AdoptedAhead c m := by
  obtain ⟨i, hi⟩ := hc
  have hi' : u'.interface? c = some i.reduced := by rw [h.interface, hi, Option.map_some]
  rw [hu.adoptedAhead_iff hi, classDeclares, classDeclares, hi, hi', Option.any_some,
    Option.any_some, h.hierarchyDeclares_iff hu hu']

end SourceUnit

/-! ### Dumps -/

namespace Dump

/-- The dump in which the classes that it does not define have bare declarations. -/
def bared (d : Dump) : Dump := { d with interfaces := d.interfaces.map (·.baredIn d.interfaces) }

lemma exists_resolve_bared {d : Dump} {u : SourceUnit} (h : d.resolve = .ok u) :
    ∃ u', d.bared.resolve = .ok u' := by
  have honce := (exists_resolve_iff d).1 ⟨u, h⟩
  refine (exists_resolve_iff d.bared).2 ⟨fun n => ?_, honce.2⟩
  rw [bared, definitionsOf_baredIn]
  exact honce.1 n

lemma mentions_bared (d : Dump) (n : String) : d.bared.Mentions n ↔ d.Mentions n := by
  refine or_congr_left ?_
  simp only [bared, declaration?_baredIn, Option.map_eq_some_iff]
  constructor
  · rintro ⟨k, _, ⟨x, hx, rfl⟩, hsuper⟩
    exact ⟨k, x, hx, by rwa [Interface.reduced_superclass] at hsuper⟩
  · rintro ⟨k, x, hx, hsuper⟩
    exact ⟨k, _, ⟨x, hx, rfl⟩, by rwa [Interface.reduced_superclass]⟩

lemma interface?_eq_none_of_resolve {d : Dump} {u : SourceUnit} (h : d.resolve = .ok u)
    {n : String} (hd : declaration? d.interfaces n = none) (hm : ¬d.Mentions n) :
    u.interface? n = none := by
  rw [Option.eq_none_iff_forall_ne_some]
  intro x hx
  rcases (interface?_of_resolve h).1 hx with hx | ⟨-, hmention, -⟩
  · rw [hd] at hx
    cases hx
  · exact hm hmention

/-- Emptying the bodies in the dump empties them in the unit. -/
lemma reduces_bared {d : Dump} {u u' : SourceUnit} (h : d.resolve = .ok u)
    (h' : d.bared.resolve = .ok u') : u.Reduces u' where
  interface n := by
    have hbared : declaration? d.bared.interfaces n =
        (declaration? d.interfaces n).map Interface.reduced := declaration?_baredIn d.interfaces n
    cases hd : declaration? d.interfaces n with
    | some x =>
      rw [hd, Option.map_some] at hbared
      rw [(interface?_of_resolve h).2 (.inl hd), (interface?_of_resolve h').2 (.inl hbared),
        Option.map_some]
    | none =>
      rw [hd, Option.map_none] at hbared
      by_cases hm : d.Mentions n
      · -- the class is declared because it is mentioned, and bare in both units
        have hm' := (d.mentions_bared n).2 hm
        rw [(interface?_of_resolve h).2 (.inr ⟨hd, hm, rfl⟩),
          (interface?_of_resolve h').2 (.inr ⟨hbared, hm', rfl⟩)]
        rfl
      · have hm' := mt (d.mentions_bared n).1 hm
        rw [interface?_eq_none_of_resolve h hd hm, interface?_eq_none_of_resolve h' hbared hm']
        rfl
  protocol n := by
    rw [protocol?_of_resolve h, protocol?_of_resolve h']
    rfl
  categories n := by
    rw [(resolved h).categories, (resolved h').categories, categories_of_resolve h,
      categories_of_resolve h']
    rfl

end Dump

namespace SourceUnit

/-- The class of the implementation has the method from a protocol that is adopted ahead. -/
def GetsAhead (u : SourceUnit) (i : Implementation) (m : Method) : Prop :=
  ∃ c, i.className = some c ∧ u.AdoptedAhead c m

variable {u u' : SourceUnit} {i : Implementation} {m : Method}

section Verdicts

variable (h : u.Reduces u') (hu : u.Resolved) (hu' : u'.Resolved) (hi : i ∈ u.implementations)
include h hu hu' hi

lemma Reduces.declared_iff :
    (i.className.any fun c => u.classDeclares c m) = true ↔
      (i.className.any fun c => u'.classDeclares c m) = true ∨ u.GetsAhead i m := by
  cases hc : i.className with
  | none => simp [GetsAhead, hc]
  | some c =>
    have hnamed : c ∈ i.classNames := List.mem_append_left _ (by simp [hc])
    simp only [Option.any_some, GetsAhead, hc, Option.some.injEq, exists_eq_left']
    exact h.classDeclares_iff hu hu' (hu.classes i hi c hnamed)

lemma Reduces.verdict_of_not_getsAhead (hm : ¬u.GetsAhead i m) :
    u.verdict i m = u'.verdict i m := by
  have hiff := h.declared_iff hu hu' hi (m := m)
  rw [or_iff_left hm] at hiff
  rw [verdict, verdict, Bool.eq_iff_iff.2 hiff, h.evidence]

lemma Reduces.verdict_of_getsAhead (hm : u.GetsAhead i m) : u.verdict i m = .usedPublic := by
  rw [verdict, if_pos ((h.declared_iff hu hu' hi).2 (.inr hm))]

end Verdicts

/-- **Classes declared ahead**: if every class that a dump does not define is left with its name
and its superclass, the dump still resolves, and a verdict is the same exactly if the method does
not come from a protocol that is adopted ahead, or is used publicly in any case. With such a
protocol the method is used publicly. -/
theorem verdict_eq_bared_iff {d : Dump} {u : SourceUnit} (h : d.resolve = .ok u) :
    ∃ u', d.bared.resolve = .ok u' ∧ ∀ i ∈ d.implementations, ∀ m : Method,
      (u.verdict i m = u'.verdict i m ↔
        (u.GetsAhead i m → u'.verdict i m = .usedPublic)) ∧
      (u.GetsAhead i m → u.verdict i m = .usedPublic) := by
  obtain ⟨u', h'⟩ := Dump.exists_resolve_bared h
  have hreduces := Dump.reduces_bared h h'
  have hu := Dump.resolved h
  have hu' := Dump.resolved h'
  refine ⟨u', h', fun i hi m => ?_⟩
  have hmem : i ∈ u.implementations := by rwa [Dump.implementations_of_resolve h]
  have hused := hreduces.verdict_of_getsAhead hu hu' (m := m) hmem
  refine ⟨⟨fun heq hahead => ?_, fun hpublic => ?_⟩, hused⟩
  · rw [← heq, hused hahead]
  · by_cases hahead : u.GetsAhead i m
    · rw [hused hahead, hpublic hahead]
    · exact hreduces.verdict_of_not_getsAhead hu hu' hmem hahead

/-! ### A protocol that is adopted ahead -/

def float : Method := ⟨"float", false⟩

def sink : Method := ⟨"sink", false⟩

def ferry : Implementation := ⟨some "Ferry", none, [⟨float, none, none⟩, ⟨sink, none, none⟩]⟩

/-- Boats are only declared ahead, with a method and with a protocol that they adopt. -/
def harbour : Dump where
  file := "Ferry.m"
  interfaces := [
    ⟨"Ferry", some "Boat", .empty, false⟩,
    ⟨"Boat", none, ⟨["Floating"], [sink], []⟩, true⟩]
  protocols := [⟨"Floating", ⟨[], [float], []⟩, false⟩]
  categories := []
  implementations := [ferry]

lemma offers_harbour {u : SourceUnit} (h : harbour.resolve = .ok u) {m : Method} :
    u.Offers m "Floating" ↔ m = float := by
  have hfloating : u.protocol? "Floating" = some ⟨"Floating", ⟨[], [float], []⟩, false⟩ :=
    (Dump.protocol?_of_resolve h "Floating").trans rfl
  constructor
  · rintro (⟨hp, hm⟩ | ⟨hp, hk, -⟩)
    · cases hfloating.symm.trans hp
      have hfloat : float = m := by simpa [Body.declares] using hm
      exact hfloat.symm
    · cases hfloating.symm.trans hp
      cases hk
  · rintro rfl
    exact .own hfloating (by decide)

/-- A ferry can float because boats adopt the protocol. -/
lemma getsAhead_harbour {u : SourceUnit} (h : harbour.resolve = .ok u) {m : Method} :
    u.GetsAhead ferry m ↔ m = float := by
  constructor
  · rintro ⟨c, -, n, x, -, -, k, y, -, hy, hf, p, hp, hoffers⟩
    obtain rfl : p = "Floating" := by
      rcases Dump.mem_or_eq_named_of_resolve h hy with hmem | rfl
      · have hprotocols : ∀ y ∈ harbour.interfaces, ∀ p ∈ y.body.protocols, p = "Floating" := by
          decide
        exact hprotocols y hmem p hp
      · cases hp
    exact (offers_harbour h).1 hoffers
  · rintro rfl
    have hferry : u.interface? "Ferry" = some ⟨"Ferry", some "Boat", .empty, false⟩ :=
      (Dump.interface?_of_resolve h).2 (.inl rfl)
    refine ⟨"Ferry", rfl, "Ferry", _, .self, (Dump.definition?_of_resolve h _).trans rfl, "Boat", _,
      .up .self hferry rfl, (Dump.interface?_of_resolve h).2 (.inl rfl), rfl, "Floating", ?_, ?_⟩
    · exact List.mem_cons_self
    · exact (offers_harbour h).2 rfl

theorem verdict_eq_bared_iff_harbour :
    ∃ u u', harbour.resolve = .ok u ∧ harbour.bared.resolve = .ok u' ∧
      u.verdict ferry float = .usedPublic ∧ u.verdict ferry sink = u'.verdict ferry sink := by
  obtain ⟨u, hu⟩ := (Dump.isOk_resolve_iff harbour).1 (by decide)
  obtain ⟨u', hu', hverdicts⟩ := verdict_eq_bared_iff hu
  have hferry : ferry ∈ harbour.implementations := List.mem_cons_self
  have hfloat : u.GetsAhead ferry float := (getsAhead_harbour hu).2 rfl
  have hsink : ¬u.GetsAhead ferry sink := fun hahead =>
    absurd ((getsAhead_harbour hu).1 hahead) (by decide)
  exact ⟨u, u', hu, hu', (hverdicts ferry hferry float).2 hfloat,
    (hverdicts ferry hferry sink).1.2 fun hahead => absurd hahead hsink⟩

/-- Nothing is declared for any class where all bodies are empty and there are no categories. -/
lemma Resolved.not_classDeclares_of_empty {u : SourceUnit} (hu : u.Resolved)
    (hbodies : ∀ n x, u.interface? n = some x → x.body = .empty)
    (hcategories : u.categories.toList = []) (c : String) (m : Method) :
    ¬u.classDeclares c m = true := by
  have hempty : ∀ x ∈ u.interfaces.decls.toList, x.body = .empty := fun x hx =>
    hbodies x.name x (hu.interface?_eq_some_iff.2 ⟨hx, rfl⟩)
  rw [classDeclares, Option.any_eq_true]
  rintro ⟨i, hi, hdeclares⟩
  obtain ⟨a, ha, x, hx, hsurface⟩ := (hierarchyDeclares_iff hu i).1 hdeclares
  have hxdecl := (hu.definition?_eq_some_iff.1 hx).1
  rcases hsurface with hinterface | ⟨k, hk, -⟩
  · rcases (interfaceDeclares_iff hu x).1 hinterface with hm | ⟨b, hb, n, hn, -⟩
    · rw [hempty x hxdecl] at hm
      cases hm
    · rw [hempty b (mem_ancestors hxdecl hb)] at hn
      cases hn
  · rw [hu.mem_categoriesOf, hcategories] at hk
    cases hk.1

/-- A class without a definition makes a method used, by way of a protocol that it adopts; with a
bare declaration of the class the method is dead. -/
theorem used_by_protocol_adopted_ahead :
    ∃ u u', harbour.resolve = .ok u ∧ harbour.bared.resolve = .ok u' ∧
      harbour.bared.interfaces =
        [⟨"Ferry", some "Boat", .empty, false⟩, ⟨"Boat", none, .empty, true⟩] ∧
      ferry ∈ harbour.implementations ∧
      u.verdict ferry float = .usedPublic ∧ u'.verdict ferry float = .unused := by
  obtain ⟨u, hu⟩ := (Dump.isOk_resolve_iff harbour).1 (by decide)
  obtain ⟨u', hu'⟩ := Dump.exists_resolve_bared hu
  have hferry : ferry ∈ harbour.implementations := List.mem_cons_self
  refine ⟨u, u', hu, hu', by decide, hferry, ?_, ?_⟩
  · refine (Dump.reduces_bared hu hu').verdict_of_getsAhead (Dump.resolved hu) (Dump.resolved hu')
      ?_ ((getsAhead_harbour hu).2 rfl)
    rwa [Dump.implementations_of_resolve hu]
  · have hbodies : ∀ n x, u'.interface? n = some x → x.body = .empty := by
      intro n x hx
      rcases Dump.mem_or_eq_named_of_resolve hu' hx with hmem | rfl
      · have hbare : ∀ x ∈ harbour.bared.interfaces, x.body = .empty := by decide
        exact hbare x hmem
      · rfl
    have hundeclared := (Dump.resolved hu').not_classDeclares_of_empty hbodies
      (Dump.categories_of_resolve hu') "Ferry" float
    have hevidence : u'.evidence ferry float = .none := by
      simp [evidence, ferry, float, sink, bodyEvidence, Stmt.scan, Stmt.walk, Evidence.collect,
        Evidence.merge, Evidence.none]
    rw [verdict, if_neg (by simpa [ferry] using hundeclared), hevidence]
    rfl

end SourceUnit

end MethodAudit
