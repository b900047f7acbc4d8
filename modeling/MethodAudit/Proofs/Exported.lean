import MethodAudit.Proofs.Folding
import MethodAudit.Proofs.Independence

/-!
What is declared is used.

The declared surface of a class is a union: over the classes above it, over what each of them
and its categories declare, and over the protocols that these adopt. A method on the surface is
used publicly, whatever the bodies hold. Only classes with a definition count: categories of a
class that the dump does not define may come and go, and no verdict changes.
-/

namespace MethodAudit.SourceUnit

/-- The body declares `m`, or a protocol that it adopts, itself or by way of others, does. -/
def Provides (u : SourceUnit) (b : Body) (m : Method) : Prop :=
  b.declares m = true ∨ ∃ n ∈ b.protocols, u.Offers m n

/-- The method is declared for a class: by the definition of a class above it, itself included,
or by a category of such a class. -/
inductive OnSurface (u : SourceUnit) (c : String) (m : Method) : Prop
  | definition {n : String} {x : Interface} (hn : u.Inherits c n) (hx : u.definition? n = some x)
      (hm : u.Provides x.body m)
  | category {n : String} {x : Interface} {k : Category} (hn : u.Inherits c n)
      (hx : u.definition? n = some x) (hk : k ∈ u.categories.toList) (hkn : k.className = n)
      (hm : u.Provides k.body m)

variable {u : SourceUnit} {m : Method}

/-- What is declared for one class above is found from the class below. -/
lemma Resolved.hierarchyDeclares_of_inherits (hu : u.Resolved) {c n : String} {i x : Interface}
    (hi : u.interface? c = some i) (hn : u.Inherits c n) (hx : u.definition? n = some x)
    (hm : u.interfaceDeclares x m = true ∨
      ∃ k ∈ u.categoriesOf x.name, u.categoryDeclares k m = true) :
    u.hierarchyDeclares i m = true := by
  obtain ⟨a, ha, hname⟩ := hu.exists_mem_ancestors hi hn
  rw [hierarchyDeclares_iff hu]
  exact ⟨a, ha, x, hname ▸ hx, hm⟩

lemma Resolved.classDeclares_of_onSurface (hu : u.Resolved) {c : String} {i : Interface}
    (hi : u.interface? c = some i) (h : u.OnSurface c m) : u.classDeclares c m = true := by
  rw [classDeclares, hi, Option.any_some]
  cases h with
  | @definition n x hn hx hm =>
    refine hu.hierarchyDeclares_of_inherits hi hn hx (.inl ?_)
    rw [interfaceDeclares_iff hu]
    -- a class is the first of its own ancestors
    exact hm.imp_right fun hoffers => ⟨x, List.mem_cons_self, hoffers⟩
  | @category n x k hn hx hk hkn hm =>
    have hxn : x.name = n := (hu.definition?_eq_some_iff.1 hx).2.1
    refine hu.hierarchyDeclares_of_inherits hi hn hx (.inr ⟨k, ?_, ?_⟩)
    · rw [hu.mem_categoriesOf, hxn]
      exact ⟨hk, hkn⟩
    · rw [categoryDeclares_iff hu]
      exact hm

lemma Resolved.verdict_of_onSurface (hu : u.Resolved) {i : Implementation}
    (hi : i ∈ u.implementations) {c : String} (hc : i.className = some c) (h : u.OnSurface c m) :
    u.verdict i m = .usedPublic := by
  have hnamed : c ∈ i.classNames := List.mem_append_left _ (by simp [hc])
  obtain ⟨x, hx⟩ := hu.classes i hi c hnamed
  have hdeclares : i.className.any (fun name => u.classDeclares name m) = true := by
    rw [hc, Option.any_some]
    exact hu.classDeclares_of_onSurface hx h
  rw [verdict, if_pos hdeclares]

/-- The categories of a class that is defined are among those of defined classes. -/
lemma filter_className_of_defined {p : String → Bool} {n : String} (hn : p n = true)
    (ks : List Category) :
    (ks.filter (p ·.className)).filter (·.className = n) = ks.filter (·.className = n) := by
  rw [List.filter_filter]
  refine List.filter_congr fun k _ => ?_
  by_cases hk : k.className = n
  · simp [hk, hn]
  · simp [hk]

/-- The unit with other categories of classes that are not defined. -/
lemma exists_alike_of_categories {d : Dump} {u : SourceUnit} (h : d.resolve = .ok u)
    {ks : List Category}
    (hks : ks.filter (fun k => (u.definition? k.className).isSome) =
      d.categories.filter fun k => (u.definition? k.className).isSome) :
    ∃ u', { d with categories := ks }.resolve = .ok u' ∧ u.Alike u' ∧
      u.interface? = u'.interface? := by
  obtain ⟨u', h'⟩ := (Dump.exists_resolve_iff { d with categories := ks }).2
    ((Dump.exists_resolve_iff d).1 ⟨u, h⟩)
  have htables : u.interfaces = u'.interfaces ∧ u.protocols = u'.protocols := by
    obtain ⟨t, p, ht, hp, rfl⟩ := Dump.resolve_eq_ok h
    obtain ⟨t', p', ht', hp', rfl⟩ := Dump.resolve_eq_ok h'
    obtain rfl := Except.ok.inj (ht.symm.trans ht')
    obtain rfl := Except.ok.inj (hp.symm.trans hp')
    exact ⟨rfl, rfl⟩
  have hinterface : u.interface? = u'.interface? := by
    funext n
    rw [interface?, interface?, htables.1]
  refine ⟨u', h', ⟨fun n => ?_, fun n => ?_, fun n x hx => ?_, fun i _ => ?_⟩, hinterface⟩
  · rw [definition?, definition?, htables.1]
  · rw [protocol?, protocol?, htables.2]
  · have hu := Dump.resolved h
    have hname : x.name = n := (hu.definition?_eq_some_iff.1 hx).2.1
    have hdefined : (u.definition? x.name).isSome = true := by rw [hname, hx, Option.isSome_some]
    have hfilter (ks : List Category) :=
      filter_className_of_defined (p := fun n => (u.definition? n).isSome) hdefined ks
    rw [hu.categories, (Dump.resolved h').categories, Dump.categories_of_resolve h,
      Dump.categories_of_resolve h', ← hfilter, ← hfilter ks, hks]
  · rw [superclass?, superclass?, hinterface]

/-- **The declared surface is honoured**: a method of an implementation that is declared for its
class is used publicly. Categories of classes without a definition are no part of the surface:
whatever is put in their place, every verdict stays. -/
theorem verdict_eq_usedPublic_of_onSurface {d : Dump} {u : SourceUnit} (h : d.resolve = .ok u) :
    (∀ i ∈ u.implementations, ∀ c, i.className = some c → ∀ m, u.OnSurface c m →
      u.verdict i m = .usedPublic) ∧
    ∀ ks : List Category,
      ks.filter (fun k => (u.definition? k.className).isSome) =
          d.categories.filter (fun k => (u.definition? k.className).isSome) →
        ∃ u', { d with categories := ks }.resolve = .ok u' ∧
          ∀ i m, u'.verdict i m = u.verdict i m := by
  refine ⟨fun i hi c hc m hm => (Dump.resolved h).verdict_of_onSurface hi hc hm, fun ks hks => ?_⟩
  obtain ⟨u', h', halike, hinterface⟩ := exists_alike_of_categories h hks
  refine ⟨u', h', fun i m => (halike.verdict_eq (fun c _ => ?_) m).symm⟩
  rw [hinterface]

/-! ### A category far up, and one without a class -/

def title : Method := ⟨"setTitle:", false⟩

/-- The setter is called nowhere. -/
def page : Implementation := ⟨some "Page", none, [⟨title, none, none⟩]⟩

/-- Between the class and the one that has the category stands a class that is only declared
ahead, with a category of its own; the other category adopts a protocol that gets the property
from another, and adopts itself. -/
def bookshelf : Dump where
  file := "Page.m"
  interfaces := [
    ⟨"Page", some "Sheet", .empty, false⟩,
    ⟨"Sheet", some "Paper", .empty, true⟩,
    ⟨"Paper", none, .empty, false⟩]
  protocols := [
    ⟨"Bound", ⟨["Bound", "Titled"], [], []⟩, false⟩,
    ⟨"Titled", ⟨[], [], [⟨"title", false, .copy, none, none, true, none⟩]⟩, false⟩]
  categories := [
    ⟨"Binding", "Paper", ⟨["Bound"], [], []⟩⟩,
    ⟨"Folding", "Sheet", ⟨[], [title], []⟩⟩]
  implementations := [page]

lemma onSurface_page {u : SourceUnit} (h : bookshelf.resolve = .ok u) :
    u.OnSurface "Page" title := by
  have hoffers : u.Offers title "Bound" :=
    .adopted (k := "Titled") ((Dump.protocol?_of_resolve h "Bound").trans rfl) (by decide)
      (.own ((Dump.protocol?_of_resolve h "Titled").trans rfl) (by decide))
  have habove : u.Inherits "Page" "Paper" :=
    .up (.up .self ((Dump.interface?_of_resolve h).2 (.inl rfl)) rfl)
      ((Dump.interface?_of_resolve h).2 (.inl rfl)) rfl
  refine .category (k := ⟨"Binding", "Paper", ⟨["Bound"], [], []⟩⟩) habove
    ((Dump.definition?_of_resolve h "Paper").trans rfl) ?_ rfl (.inr ⟨"Bound", by decide, hoffers⟩)
  rw [Dump.categories_of_resolve h]
  exact List.mem_cons_self

theorem verdict_eq_usedPublic_of_onSurface_page :
    ∃ u u', bookshelf.resolve = .ok u ∧ page ∈ u.implementations ∧ u.OnSurface "Page" title ∧
      u.verdict page title = .usedPublic ∧
      { bookshelf with categories := bookshelf.categories.dropLast }.resolve = .ok u' ∧
      u'.verdict page title = u.verdict page title := by
  obtain ⟨u, hu⟩ := (Dump.isOk_resolve_iff bookshelf).1 (by decide)
  have hpage : page ∈ u.implementations := by
    rw [Dump.implementations_of_resolve hu]
    exact List.mem_singleton.2 rfl
  have hsurface := onSurface_page hu
  obtain ⟨hused, hothers⟩ := verdict_eq_usedPublic_of_onSurface hu
  -- the dump defines no such class, so the category may be left out
  obtain ⟨u', hu', hverdicts⟩ := hothers bookshelf.categories.dropLast (by
    simp only [Dump.definition?_of_resolve hu]
    rfl)
  exact ⟨u, u', hu, hpage, hsurface, hused page hpage "Page" rfl title hsurface, hu',
    hverdicts page title⟩

/-- The implementation of a category, and that is all that the dump says of its class. -/
def binding : Implementation := ⟨some "Page", some "Binding", [⟨title, none, none⟩]⟩

/-- The category declares the method. -/
def looseLeaf : Dump where
  file := "Page.m"
  interfaces := []
  protocols := []
  categories := [⟨"Binding", "Page", ⟨[], [title], []⟩⟩]
  implementations := [binding]

/-- A class of which only the name is known declares nothing, whatever its categories do. -/
lemma Resolved.not_classDeclares_named (hu : u.Resolved) {c : String}
    (h : u.interface? c = some (.named c)) : ¬u.classDeclares c m = true := by
  rw [classDeclares, h, Option.any_some, hierarchyDeclares_iff hu]
  have hancestors : u.ancestors (.named c) = [.named c] := by rw [ancestors, chain_end rfl]
  rw [hancestors]
  rintro ⟨a, ha, x, hx, -⟩
  obtain rfl := List.mem_singleton.1 ha
  obtain ⟨hdecl, hname, hforward⟩ := hu.definition?_eq_some_iff.1 hx
  obtain rfl : x = .named c :=
    Option.some.inj ((hu.interface?_eq_some_iff.2 ⟨hdecl, hname⟩).symm.trans h)
  cases hforward

/-- A category of a class without a definition does not make its methods used. -/
theorem unused_of_category_without_definition :
    ∃ u, looseLeaf.resolve = .ok u ∧ binding ∈ u.implementations ∧
      binding.className = some "Page" ∧
      (∃ k ∈ u.categories.toList, k.className = "Page" ∧ k.body.declares title = true) ∧
      u.verdict binding title = .unused := by
  obtain ⟨u, hu⟩ := (Dump.isOk_resolve_iff looseLeaf).1 (by decide)
  refine ⟨u, hu, ?_, rfl, ?_, ?_⟩
  · rw [Dump.implementations_of_resolve hu]
    exact List.mem_singleton.2 rfl
  · rw [Dump.categories_of_resolve hu]
    exact ⟨_, List.mem_singleton.2 rfl, rfl, by decide⟩
  · have hpage : u.interface? "Page" = some (.named "Page") := by
      refine (Dump.interface?_of_resolve hu).2 (.inr ⟨rfl, .inr ⟨binding, ?_, ?_⟩, rfl⟩)
      · exact List.mem_singleton.2 rfl
      · exact List.mem_append_left _ (List.mem_singleton.2 rfl)
    have hundeclared := (Dump.resolved hu).not_classDeclares_named (m := title) hpage
    rw [verdict, if_neg (by simpa [binding] using hundeclared)]
    rfl

end MethodAudit.SourceUnit
