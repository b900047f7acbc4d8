import MethodAudit.Proofs.Surface
import MethodAudit.Proofs.Usage

/-!
What a verdict depends on.

The engine looks at a unit only through a few look-ups: definitions of classes and protocols,
categories of a class that is defined, and superclasses of classes that are declared. Two units
that agree on these give the same verdicts. Resolving a dump adds bare declarations of the
classes that its implementations mention, and these are invisible to all of the look-ups; so no
implementation has a part in the verdicts on another.
-/

namespace MethodAudit

namespace SourceUnit

/-- The units answer alike wherever the engine asks. -/
structure Alike (u v : SourceUnit) : Prop where
  definitions : ∀ n, u.definition? n = v.definition? n
  protocols : ∀ n, u.protocol? n = v.protocol? n
  categories : ∀ n x, u.definition? n = some x → u.categoriesOf x.name = v.categoriesOf x.name
  superclasses : ∀ i ∈ u.interfaces.decls.toList, u.superclass? i = v.superclass? i

namespace Alike

variable {u v : SourceUnit} (h : u.Alike v)
include h

/-! ### Superclass chains -/

lemma chain_eq {seen : List String} {next : Option String}
    (hn : next.bind u.interface? = next.bind v.interface?) :
    u.chain seen next = v.chain seen next := by
  induction seen, next using chain.induct u with
  | case1 seen next hi => rw [chain_end hi, chain_end (hn.symm.trans hi)]
  | case2 seen next i hi hs =>
    rw [chain_step hi, chain_step (hn.symm.trans hi), if_pos hs, if_pos hs]
  | case3 seen next i hi hs ih =>
    rw [chain_step hi, chain_step (hn.symm.trans hi), if_neg hs, if_neg hs,
      ih (h.superclasses i (mem_decls_of_next hi))]

lemma reaches_eq {target : String} {seen : List String} {next : Option String}
    (hn : next.bind u.interface? = next.bind v.interface?) :
    u.reaches target seen next = v.reaches target seen next := by
  induction seen, next using reaches.induct u target with
  | case1 seen next hi => rw [reaches_end hi, reaches_end (hn.symm.trans hi)]
  | case2 seen next i hi ht =>
    rw [reaches_step hi, reaches_step (hn.symm.trans hi), if_pos ht, if_pos ht]
  | case3 seen next i hi ht hs =>
    rw [reaches_step hi, reaches_step (hn.symm.trans hi), if_neg ht, if_neg ht, if_pos hs,
      if_pos hs]
  | case4 seen next i hi ht hs ih =>
    rw [reaches_step hi, reaches_step (hn.symm.trans hi), if_neg ht, if_neg ht, if_neg hs,
      if_neg hs, ih (h.superclasses i (mem_decls_of_next hi))]

lemma ancestors_eq {i : Interface} (hi : i ∈ u.interfaces.decls.toList) :
    u.ancestors i = v.ancestors i := by
  rw [ancestors, ancestors, h.chain_eq (h.superclasses i hi)]

lemma isKindOf_eq {i : Interface} (hi : i ∈ u.interfaces.decls.toList) (target : String) :
    u.isKindOf i target = v.isKindOf i target := by
  rw [isKindOf, isKindOf, h.reaches_eq (h.superclasses i hi)]

/-! ### The declared surface -/

lemma searchProtocols_eq (m : Method) (visited names : List String) :
    u.searchProtocols m visited names = v.searchProtocols m visited names := by
  induction visited, names using searchProtocols.induct u m with
  | case1 visited => rw [searchProtocols, searchProtocols]
  | case2 visited name rest hp ih =>
    rw [searchProtocols_undefined hp, searchProtocols_undefined (h.protocols name ▸ hp), ih]
  | case3 visited name rest p hp hv ih =>
    rw [searchProtocols_defined hp, searchProtocols_defined (h.protocols name ▸ hp), if_pos hv,
      if_pos hv, ih]
  | case4 visited name rest p hp hv hm =>
    rw [searchProtocols_defined hp, searchProtocols_defined (h.protocols name ▸ hp), if_neg hv,
      if_neg hv, if_pos hm, if_pos hm]
  | case5 visited name rest p hp hv hm ih =>
    rw [searchProtocols_defined hp, searchProtocols_defined (h.protocols name ▸ hp), if_neg hv,
      if_neg hv, if_neg hm, if_neg hm, ih]

lemma searchBody_eq (m : Method) : u.searchBody m = v.searchBody m := by
  funext b visited
  rw [searchBody, searchBody, h.searchProtocols_eq]

lemma searchInterface_eq (m : Method) {i : Interface} (hi : i ∈ u.interfaces.decls.toList) :
    u.searchInterface m i = v.searchInterface m i := by
  funext visited
  simp only [searchInterface, h.ancestors_eq hi, h.searchProtocols_eq]

lemma searchClass_eq (m : Method) : u.searchClass m = v.searchClass m := by
  funext i visited
  rw [searchClass, searchClass, ← h.definitions]
  cases hd : u.definition? i.name with
  | none => rfl
  | some x =>
    have hx := NameTable.mem_of_definition? hd
    simp only [h.searchInterface_eq m hx, h.searchBody_eq, h.categories i.name x hd]

lemma hierarchyDeclares_eq {i : Interface} (hi : i ∈ u.interfaces.decls.toList) (m : Method) :
    u.hierarchyDeclares i m = v.hierarchyDeclares i m := by
  rw [hierarchyDeclares, hierarchyDeclares, h.ancestors_eq hi, h.searchClass_eq]

lemma classDeclares_eq {c : String} (hc : u.interface? c = v.interface? c) (m : Method) :
    u.classDeclares c m = v.classDeclares c m := by
  rw [classDeclares, classDeclares, ← hc]
  cases hi : u.interface? c with
  | none => rfl
  | some i => exact h.hierarchyDeclares_eq (NameTable.mem_of_find? hi) m

/-! ### Verdicts -/

lemma matchReceiver_eq : u.matchReceiver = v.matchReceiver := by
  funext type target
  have hd : type.bind u.definition? = type.bind v.definition? := by
    cases type with
    | none => rfl
    | some n => exact h.definitions n
  unfold matchReceiver
  rw [← hd]
  cases hx : type.bind u.definition? with
  | none => rfl
  | some x =>
    obtain ⟨n, -, hn⟩ := Option.bind_eq_some_iff.1 hx
    cases target with
    | none => rfl
    | some t => simp only [h.isKindOf_eq (NameTable.mem_of_definition? hn)]

lemma actionEvidence_eq : u.actionEvidence = v.actionEvidence := by
  funext m target a
  cases a <;> simp only [actionEvidence, h.matchReceiver_eq]

/-- Units that are alike give the same verdict, provided that they declare the class of the
implementation alike. -/
lemma verdict_eq {i : Implementation}
    (hc : ∀ c ∈ i.className, u.interface? c = v.interface? c) (m : Method) :
    u.verdict i m = v.verdict i m := by
  have he : u.evidence i m = v.evidence i m := by
    simp only [evidence, bodyEvidence, h.actionEvidence_eq]
  have hs : (i.className.any fun c => u.classDeclares c m) =
      i.className.any fun c => v.classDeclares c m := by
    cases hn : i.className with
    | none => rfl
    | some c => exact h.classDeclares_eq (hc c hn) m
  rw [verdict, verdict, he, hs]

end Alike

end SourceUnit

/-! ### Bare declarations -/

namespace NameTable

variable {t : NameTable Interface}

/-- Which other names are mentioned does not matter to a name that is mentioned anyway. -/
lemma find?_mentions_congr (ht : t.Indexed) {names names' : List String} {k : String}
    (hk : k ∈ names) (hk' : k ∈ names') :
    (names.foldl mention t).find? k = (names'.foldl mention t).find? k := by
  rw [find?_mentions ht, find?_mentions ht, if_pos hk, if_pos hk']

/-- The superclass of a declared class is the same in both tables: it was mentioned for both, and
a bare declaration has none. -/
lemma superclass_mentions_congr (ht : t.Indexed) {names names' : List String}
    (hs : ∀ i ∈ t.decls.toList, ∀ n, i.superclass = some n → n ∈ names ∧ n ∈ names')
    {x : Interface} (hx : x ∈ (names.foldl mention t).decls.toList) :
    x.superclass.bind (names.foldl mention t).find? =
      x.superclass.bind (names'.foldl mention t).find? := by
  have hfind := (find?_eq_some_iff (indexed_mentions ht names)).2 ⟨hx, rfl⟩
  rcases cases_of_find?_mentions ht hfind with hf | ⟨-, hbare⟩
  · cases hn : x.superclass with
    | none => rfl
    | some n =>
      obtain ⟨h1, h2⟩ := hs x (mem_of_find? hf) n hn
      exact find?_mentions_congr ht h1 h2
  · rw [hbare]
    rfl

end NameTable

open NameTable SourceUnit

lemma mem_referencedClasses_superclass {is : List Interface} {ms : List Implementation}
    {i : Interface} (hi : i ∈ is) {n : String} (hn : i.superclass = some n) :
    n ∈ referencedClasses is ms :=
  List.mem_append_left _ (List.mem_filterMap.2 ⟨i, hi, hn⟩)

lemma mem_referencedClasses_className {is : List Interface} {ms : List Implementation}
    {i : Implementation} (hi : i ∈ ms) {n : String} (hn : i.className = some n) :
    n ∈ referencedClasses is ms := by
  refine List.mem_append_right _ (List.mem_flatMap.2 ⟨i, hi, List.mem_append_left _ ?_⟩)
  simp [hn]

/-- **Implementations are independent**: dumps with the same declarations give an implementation
that both contain the same verdicts, whatever the other implementations mention. -/
theorem verdictsOn_eq_of_same_declarations {d d' : Dump} {u u' : SourceUnit}
    (hi : d.interfaces = d'.interfaces) (hp : d.protocols = d'.protocols)
    (hc : d.categories = d'.categories) (h : d.resolve = .ok u) (h' : d'.resolve = .ok u')
    {i : Implementation} (hd : i ∈ d.implementations) (hd' : i ∈ d'.implementations) :
    u.verdictsOn i = u'.verdictsOn i := by
  obtain ⟨t, p, ht, hpt, rfl⟩ := Dump.resolve_eq_ok h
  obtain ⟨t', p', ht', hpt', rfl⟩ := Dump.resolve_eq_ok h'
  obtain rfl : t = t' := by
    rw [hi, ht'] at ht
    exact (Except.ok.inj ht).symm
  obtain rfl : p = p' := by
    rw [hp, hpt'] at hpt
    exact (Except.ok.inj hpt).symm
  have hti := indexed_declareAll indexed_empty ht
  -- the tables differ in bare declarations only
  set names := referencedClasses t.decls.toList d.implementations with hnames
  set names' := referencedClasses t.decls.toList d'.implementations with hnames'
  have halike : SourceUnit.Alike
      ⟨d.file, names.foldl mention t, p, d.categories.toArray, indexCategories d.categories,
        d.implementations⟩
      ⟨d'.file, names'.foldl mention t, p, d'.categories.toArray, indexCategories d'.categories,
        d'.implementations⟩ := by
    refine ⟨fun n => ?_, fun n => rfl, fun n x _ => ?_, fun x hx => ?_⟩
    · exact (definition?_mentions hti names n).trans (definition?_mentions hti names' n).symm
    · rw [hc]
      rfl
    · refine superclass_mentions_congr hti (fun j hj n hn => ?_) hx
      exact ⟨mem_referencedClasses_superclass hj hn, mem_referencedClasses_superclass hj hn⟩
  refine List.map_congr_left fun e _ => ?_
  rw [halike.verdict_eq]
  intro c hcls
  exact find?_mentions_congr hti (mem_referencedClasses_className hd hcls)
    (mem_referencedClasses_className hd' hcls)

/-- The gallery with an implementation before that of the widget, for a class and with receivers
that nothing else declares. -/
def crowd : Dump := { gallery with
  implementations := [
    ⟨some "Stranger", none, [
      ⟨⟨"layout", false⟩, some (.node (.send .object "tap:" (some "Elsewhere")) []), none⟩]⟩,
    widget] }

theorem verdictsOn_eq_of_same_declarations_crowd :
    ∃ u u', gallery.resolve = .ok u ∧ crowd.resolve = .ok u' ∧
      u.verdictsOn widget = u'.verdictsOn widget := by
  obtain ⟨u, hu⟩ := gallery_resolves
  have hok : crowd.resolve.isOk = true := by decide
  cases hu' : crowd.resolve with
  | error e =>
    rw [hu'] at hok
    cases hok
  | ok u' =>
    have hw : widget ∈ gallery.implementations := List.mem_singleton.2 rfl
    have hw' : widget ∈ crowd.implementations := List.mem_cons_of_mem _ (List.mem_singleton.2 rfl)
    have hi : gallery.interfaces = crowd.interfaces := rfl
    exact ⟨u, u', hu, rfl, verdictsOn_eq_of_same_declarations hi rfl rfl hu hu' hw hw'⟩

end MethodAudit
