import MethodAudit.Proofs.Selection
import MethodAudit.Run

/-!
When there is a plan for a request, and which: every rule asked for exists, every pattern can
be read, and something is at the root.
-/

namespace MethodAudit

/-! ### Rules by name -/

namespace Rule

/-- The rule of a name. -/
def ofName? (name : String) : Option Rule := all.find? (·.name = name)

lemma ofName?_eq_some_iff {name : String} {r : Rule} : ofName? name = some r ↔ r.name = name := by
  constructor
  · intro h
    simpa using List.find?_some h
  · intro h
    have hsome : (ofName? name).isSome := List.find?_isSome.2 ⟨r, mem_all r, by simpa using h⟩
    obtain ⟨r', hr'⟩ := Option.isSome_iff_exists.1 hsome
    have hname : r'.name = name := by simpa using List.find?_some hr'
    rw [hr', name_injective (hname.trans h.symm)]

/-- The rules that a list of names stands for, an empty list for all of them. -/
def named (names : List String) : List Rule :=
  if names = [] then all else (names.filterMap ofName?).eraseDups

lemma map_name_filterMap_ofName? {names : List String} (h : ∀ name ∈ names, IsKnown name) :
    (names.filterMap ofName?).map Rule.name = names := by
  induction names with
  | nil => rfl
  | cons name names ih =>
    obtain ⟨⟨r, hr⟩, hnames⟩ := (List.forall_mem_cons.1 h).imp_left isKnown_iff.1
    rw [List.filterMap_cons_some (ofName?_eq_some_iff.2 hr), List.map_cons, hr, ih hnames]

lemma select_of_known {names : List String} (h : ∀ name ∈ names, IsKnown name) :
    select names = .ok (names.filterMap ofName?).eraseDups := by
  refine select_eq_ok_iff.2 ⟨h, ?_⟩
  rw [map_eraseDups name_injective, map_name_filterMap_ofName? h]

end Rule

/-! ### Patterns -/

/-- The patterns that texts describe, as far as they describe any. -/
def Pattern.described (texts : List String) : List Pattern :=
  texts.filterMap fun text => (Pattern.parse text).toOption

namespace Request

lemma mapM_readPattern_of_readable {texts : List String}
    (h : ∀ text ∈ texts, ∃ p, Pattern.parse text = .ok p) :
    texts.mapM readPattern = .ok (Pattern.described texts) := by
  induction texts with
  | nil => rfl
  | cons text texts ih =>
    obtain ⟨p, hp⟩ := h text List.mem_cons_self
    have hread : readPattern text = .ok p := by rw [readPattern, hp]; rfl
    rw [List.mapM_cons, hread, ih fun s hs => h s (List.mem_cons_of_mem _ hs), Pattern.described,
      Pattern.described, List.filterMap_cons_some (by rw [hp]; rfl)]
    rfl

lemma exists_mapM_readPattern_eq_error {texts : List String} {text : String}
    {why : Pattern.Rejection} (hmem : text ∈ texts) (htext : Pattern.parse text = .error why) :
    ∃ e, texts.mapM readPattern = .error e := by
  induction texts with
  | nil => exact nomatch hmem
  | cons s texts ih =>
    rw [List.mapM_cons]
    rcases hs : readPattern s with e | p
    · exact ⟨e, rfl⟩
    · have hne : text ≠ s := by
        rintro rfl
        rw [readPattern, htext] at hs
        exact nomatch hs
      obtain ⟨e, he⟩ := ih (List.mem_of_ne_of_mem hne hmem)
      exact ⟨e, by rw [he]; rfl⟩

/-! ### The plan -/

variable {t : FileTree} {r : Request}

lemma plan_eq_ok_iff {p : Plan} :
    r.plan t = .ok p ↔ r.selectRules = .ok p.rules ∧ r.ignore.mapM readPattern = .ok p.patterns ∧
      t.dumps? r.root r.exclude = some p.files := by
  rw [plan]
  rcases r.selectRules with e | rules
  · simp [bind, Except.bind]
  rcases r.ignore.mapM readPattern with e | patterns
  · simp [bind, Except.bind]
  obtain ⟨rules', patterns', files'⟩ := p
  rw [findDumps]
  rcases t.dumps? r.root r.exclude with _ | files
  · simp [bind, Except.bind]
  · simp [bind, Except.bind, pure, Except.pure]

lemma dumps?_of_plan {p : Plan} (h : r.plan t = .ok p) :
    t.dumps? r.root r.exclude = some p.files :=
  (plan_eq_ok_iff.1 h).2.2

/-- A request that names rules, readable patterns and a root has a plan. -/
lemma plan_of_known {files : List Path} (hrules : ∀ name ∈ r.rules, ∃ rule : Rule, rule.name = name)
    (hpatterns : ∀ text ∈ r.ignore, ∃ p, Pattern.parse text = .ok p)
    (hfiles : t.dumps? r.root r.exclude = some files) :
    r.plan t = .ok ⟨Rule.named r.rules, Pattern.described r.ignore, files⟩ := by
  refine plan_eq_ok_iff.2 ⟨?_, mapM_readPattern_of_readable hpatterns, hfiles⟩
  rw [selectRules, Rule.named]
  by_cases hnil : r.rules = []
  · simp [hnil]
  · have hselect := Rule.select_of_known fun name hname => Rule.isKnown_iff.2 (hrules name hname)
    rw [if_neg (by simpa using hnil), if_neg hnil]
    exact congrArg (Except.mapError Refusal.rules) hselect

lemma not_plan_of_unknown {name : String} (hmem : name ∈ r.rules)
    (hname : ∀ rule : Rule, rule.name ≠ name) (p : Plan) : r.plan t ≠ .ok p := by
  intro h
  have hselect := (plan_eq_ok_iff.1 h).1
  rw [selectRules, if_neg (by simpa using List.ne_nil_of_mem hmem)] at hselect
  cases hs : Rule.select r.rules with
  | error f =>
    rw [hs] at hselect
    cases hselect
  | ok rules =>
    obtain ⟨rule, hrule⟩ := Rule.isKnown_iff.1 ((Rule.select_eq_ok_iff.1 hs).1 name hmem)
    exact hname rule hrule

lemma not_plan_of_unreadable {text : String} {why : Pattern.Rejection} (hmem : text ∈ r.ignore)
    (htext : Pattern.parse text = .error why) (p : Plan) : r.plan t ≠ .ok p := by
  intro h
  obtain ⟨e, he⟩ := exists_mapM_readPattern_eq_error hmem htext
  exact nomatch he.symm.trans (plan_eq_ok_iff.1 h).2.1

end Request

end MethodAudit
