import MethodAudit.Proofs.Resolved
import MethodAudit.Verdict

/-!
Verdicts without the search that finds them.

The search goes through bodies with a stack, merges what it finds and stops at the first call
that confirms a use. What it says is a plain question about the actions that stand, at any
depth, in the other methods of the implementation.
-/

namespace MethodAudit

/-! ### The classification -/

/-- The action goes by way of `super`. -/
def Action.viaSuper : Action → Bool
  | .send receiver _ _ => receiver.isSuper
  | .access _ _ viaSuper _ => viaSuper
  | _ => false

/-- The action runs `m`, or the method that overrides it, on a receiver of the static type. -/
inductive Action.Calls (m : Method) (type : Option String) : Action → Prop
  | send {receiver : Receiver} (hs : receiver.isSuper = false)
      (hk : receiver.isInstance = !m.classMethod) : Calls m type (.send receiver m.selector type)
  | get {setter : Option String} (hm : m.classMethod = false) :
    Calls m type (.access (some m.selector) setter false type)
  | set {getter : Option String} (hm : m.classMethod = false) :
    Calls m type (.access getter (some m.selector) false type)

lemma Action.Calls.receiverType? {m : Method} {type : Option String} {a : Action}
    (h : Action.Calls m type a) : a.receiverType? = type := by
  cases h <;> rfl

lemma Action.Calls.viaSuper {m : Method} {type : Option String} {a : Action}
    (h : Action.Calls m type a) : a.viaSuper = false := by
  cases h with
  | send hs => exact hs
  | get | set => rfl

/-- The action stands at some depth in the body of a method other than `m`. -/
def Implementation.ActsOutside (i : Implementation) (m : Method) (a : Action) : Prop :=
  ∃ d ∈ i.methods, d.method ≠ m ∧ ∃ b ∈ d.body, ∃ s : Stmt, s.Within b ∧ s.action = a

namespace SourceUnit

variable (u : SourceUnit) (i : Implementation) (m : Method)

/-- The class of the implementation is known and declares `m`. -/
def Exported : Prop := ∃ c, i.className = some c ∧ u.classDeclares c m = true

/-- Another method calls `m` on an object whose type is defined and a kind of the class. -/
def CalledInside : Prop :=
  ∃ c, i.className = some c ∧ ∃ a n x, i.ActsOutside m a ∧ Action.Calls m (some n) a ∧
    u.definition? n = some x ∧ u.isKindOf x c = true

/-- Nothing relates the type to the class: one of them is not known, or the type is only
declared ahead. -/
def Untraceable (type : Option String) : Prop :=
  i.className = none ∨ type = none ∨
    ∃ n x, type = some n ∧ u.interface? n = some x ∧ x.forward = true

/-- Another method names the selector of `m`, or calls it on an object that may be anything. -/
def Hinted : Prop :=
  ∃ a, i.ActsOutside m a ∧
    (a = .selectorLiteral m.selector ∨ ∃ type, Action.Calls m type a ∧ u.Untraceable i type)

open Classical in
/-- The verdict on `m` by what is declared and by what stands in the other bodies. -/
noncomputable def classification : Verdict :=
  if u.Exported i m then .usedPublic
  else if u.CalledInside i m then .usedInternal
  else if u.Hinted i m then .possiblyUsed
  else .unused

end SourceUnit

/-! ### Collecting evidence -/

namespace Evidence

lemma collect_cons (f : α → Evidence) (e : Evidence) (x : α) (xs : List α) :
    collect f e (x :: xs) =
      if (e.merge (f x)).confirmed = true then e.merge (f x) else collect f (e.merge (f x)) xs :=
  rfl

lemma collect_confirmed (f : α → Evidence) (e : Evidence) (xs : List α) :
    (collect f e xs).confirmed = true ↔
      e.confirmed = true ∨ ∃ x ∈ xs, (f x).confirmed = true := by
  induction xs generalizing e with
  | nil => simp [collect]
  | cons x xs ih =>
    have hm : (e.merge (f x)).confirmed = true ↔ e.confirmed = true ∨ (f x).confirmed = true := by
      simp [merge]
    rw [collect_cons]
    split_ifs with h
    · simp only [h, List.mem_cons, exists_eq_or_imp, true_iff]
      exact (hm.1 h).imp id .inl
    · rw [ih, hm]
      simp only [List.mem_cons, exists_eq_or_imp, or_assoc]

/-- Where nothing confirms, nothing was passed over. -/
lemma collect_possible {f : α → Evidence} {e : Evidence} {xs : List α}
    (h : (collect f e xs).confirmed = false) :
    (collect f e xs).possible = true ↔ e.possible = true ∨ ∃ x ∈ xs, (f x).possible = true := by
  induction xs generalizing e with
  | nil => simp [collect]
  | cons x xs ih =>
    rw [collect_cons] at h ⊢
    split_ifs at h ⊢ with hc
    · rw [hc] at h
      cases h
    · rw [ih h]
      simp [merge, or_assoc]

lemma ofMatch_confirmed (r : ReceiverMatch) : (ofMatch r).confirmed = true ↔ r = .compatible := by
  cases r <;> simp [ofMatch, certain, none, weak]

lemma ofMatch_possible (r : ReceiverMatch) : (ofMatch r).possible = true ↔ r = .unknown := by
  cases r <;> simp [ofMatch, certain, none, weak]

end Evidence

/-! ### What one action says -/

namespace SourceUnit

variable (u : SourceUnit)

lemma matchReceiver_eq_compatible (type target : Option String) :
    u.matchReceiver type target = .compatible ↔
      ∃ c n x, target = some c ∧ type = some n ∧ u.definition? n = some x ∧
        u.isKindOf x c = true := by
  unfold matchReceiver
  cases type with
  | none => simp
  | some n =>
    cases target with
    | none => cases u.definition? n <;> simp
    | some c =>
      cases hx : u.definition? n with
      | none => simp [hx]
      | some x => simp [hx]

lemma matchReceiver_eq_unknown (type target : Option String) :
    u.matchReceiver type target = .unknown ↔ target = none ∨ type.bind u.definition? = none := by
  unfold matchReceiver
  cases type.bind u.definition? with
  | none => simp
  | some x =>
    cases target with
    | none => simp
    | some c =>
      simp only [reduceCtorEq, or_self, iff_false]
      split_ifs <;> simp

/-- An action is evidence as a mention of the selector, or as a call, by the match of its
receiver. -/
lemma actionEvidence_eq (m : Method) (target : Option String) (a : Action) :
    (a = .selectorLiteral m.selector ∧ u.actionEvidence m target a = .weak) ∨
    (∃ type, Action.Calls m type a ∧
      u.actionEvidence m target a = .ofMatch (u.matchReceiver type target)) ∨
    (a ≠ .selectorLiteral m.selector ∧ (∀ type, ¬Action.Calls m type a) ∧
      u.actionEvidence m target a = .none) := by
  cases a with
  | selectorLiteral selector =>
    by_cases hs : selector = m.selector
    · exact .inl ⟨by rw [hs], by simp [actionEvidence, hs]⟩
    · refine .inr (.inr ⟨by simpa using hs, ?_, by simp [actionEvidence, hs]⟩)
      rintro type ⟨⟩
  | other label =>
    refine .inr (.inr ⟨by simp, ?_, rfl⟩)
    rintro type ⟨⟩
  | access getter setter viaSuper type =>
    cases hm : m.classMethod with
    | true =>
      refine .inr (.inr ⟨by simp, ?_, by simp [actionEvidence, hm]⟩)
      rintro type (_ | hk | hk) <;> rw [hm] at hk <;> cases hk
    | false =>
      cases viaSuper with
      | true =>
        refine .inr (.inr ⟨by simp, ?_, by simp [actionEvidence]⟩)
        rintro type ⟨⟩
      | false =>
        by_cases hg : getter = some m.selector
        · subst hg
          exact .inr (.inl ⟨type, .get hm, by simp [actionEvidence, hm]⟩)
        · by_cases hs : setter = some m.selector
          · subst hs
            exact .inr (.inl ⟨type, .set hm, by simp [actionEvidence, hm]⟩)
          · refine .inr (.inr ⟨by simp, ?_, by simp [actionEvidence, hg, hs]⟩)
            rintro type (_ | _ | _)
            · exact hg rfl
            · exact hs rfl
  | send receiver selector type =>
    cases hsup : receiver.isSuper with
    | true =>
      refine .inr (.inr ⟨by simp, ?_, by simp [actionEvidence, hsup]⟩)
      rintro type (⟨hs, -⟩ | _ | _)
      rw [hsup] at hs
      cases hs
    | false =>
      by_cases hm : (⟨selector, !receiver.isInstance⟩ : Method) = m
      · subst hm
        refine .inr (.inl ⟨type, .send hsup (by simp), by simp [actionEvidence, hsup]⟩)
      · refine .inr (.inr ⟨by simp, ?_, by simp [actionEvidence, hsup, hm]⟩)
        rintro type (⟨hs, hk⟩ | _ | _)
        exact hm (by rw [hk, Bool.not_not])

lemma actionEvidence_confirmed (m : Method) (target : Option String) (a : Action) :
    (u.actionEvidence m target a).confirmed = true ↔
      ∃ c n x, target = some c ∧ Action.Calls m (some n) a ∧ u.definition? n = some x ∧
        u.isKindOf x c = true := by
  rcases u.actionEvidence_eq m target a with ⟨rfl, he⟩ | ⟨type, hc, he⟩ | ⟨-, hc, he⟩
  · rw [he]
    refine ⟨fun h => absurd h Bool.false_ne_true, ?_⟩
    rintro ⟨c, n, x, -, hc, -⟩
    cases hc
  · rw [he, Evidence.ofMatch_confirmed, matchReceiver_eq_compatible]
    constructor
    · rintro ⟨c, n, x, ht, rfl, hx, hk⟩
      exact ⟨c, n, x, ht, hc, hx, hk⟩
    · rintro ⟨c, n, x, ht, hc', hx, hk⟩
      exact ⟨c, n, x, ht, hc.receiverType?.symm.trans hc'.receiverType?, hx, hk⟩
  · rw [he]
    refine ⟨fun h => absurd h Bool.false_ne_true, ?_⟩
    rintro ⟨c, n, x, -, hc', -⟩
    exact absurd hc' (hc _)

lemma actionEvidence_possible (m : Method) (target : Option String) (a : Action) :
    (u.actionEvidence m target a).possible = true ↔
      a = .selectorLiteral m.selector ∨ ∃ type, Action.Calls m type a ∧
        (target = none ∨ type.bind u.definition? = none) := by
  rcases u.actionEvidence_eq m target a with ⟨rfl, he⟩ | ⟨type, hc, he⟩ | ⟨ha, hc, he⟩
  · simp [he, Evidence.weak]
  · rw [he, Evidence.ofMatch_possible, matchReceiver_eq_unknown]
    constructor
    · intro h
      exact .inr ⟨type, hc, h⟩
    · rintro (rfl | ⟨type', hc', h⟩)
      · cases hc
      · rwa [← hc'.receiverType?, hc.receiverType?] at h
  · rw [he]
    refine ⟨fun h => absurd h Bool.false_ne_true, ?_⟩
    rintro (h | ⟨type, hc', -⟩)
    · exact absurd h ha
    · exact absurd hc' (hc _)

/-! ### What an implementation says -/

variable (i : Implementation) (m : Method)

lemma bodyEvidence_confirmed (target : Option String) (body : Option Stmt) :
    (u.bodyEvidence m target body).confirmed = true ↔
      ∃ b ∈ body, ∃ s : Stmt, s.Within b ∧
        (u.actionEvidence m target s.action).confirmed = true := by
  rw [bodyEvidence, Evidence.collect_confirmed]
  simp only [Stmt.mem_scan, Evidence.none, Bool.false_eq_true, false_or]
  constructor
  · rintro ⟨s, ⟨b, hb, hs⟩, h⟩
    exact ⟨b, hb, s, hs, h⟩
  · rintro ⟨b, hb, s, hs, h⟩
    exact ⟨s, ⟨b, hb, hs⟩, h⟩

lemma bodyEvidence_possible {m : Method} {target : Option String} {body : Option Stmt}
    (hn : (u.bodyEvidence m target body).confirmed = false) :
    (u.bodyEvidence m target body).possible = true ↔
      ∃ b ∈ body, ∃ s : Stmt, s.Within b ∧
        (u.actionEvidence m target s.action).possible = true := by
  rw [bodyEvidence, Evidence.collect_possible hn]
  simp only [Stmt.mem_scan, Evidence.none, Bool.false_eq_true, false_or]
  constructor
  · rintro ⟨s, ⟨b, hb, hs⟩, h⟩
    exact ⟨b, hb, s, hs, h⟩
  · rintro ⟨b, hb, s, hs, h⟩
    exact ⟨s, ⟨b, hb, hs⟩, h⟩

lemma evidence_confirmed :
    (u.evidence i m).confirmed = true ↔
      ∃ a, i.ActsOutside m a ∧ (u.actionEvidence m i.className a).confirmed = true := by
  rw [evidence, Evidence.collect_confirmed]
  simp only [bodyEvidence_confirmed, List.mem_filter, decide_eq_true_eq, Evidence.none,
    Bool.false_eq_true, false_or, Implementation.ActsOutside]
  constructor
  · rintro ⟨d, ⟨hd, hne⟩, b, hb, s, hs, h⟩
    exact ⟨s.action, ⟨d, hd, hne, b, hb, s, hs, rfl⟩, h⟩
  · rintro ⟨_, ⟨d, hd, hne, b, hb, s, hs, rfl⟩, h⟩
    exact ⟨d, ⟨hd, hne⟩, b, hb, s, hs, h⟩

lemma evidence_possible {i : Implementation} {m : Method}
    (hn : (u.evidence i m).confirmed = false) :
    (u.evidence i m).possible = true ↔
      ∃ a, i.ActsOutside m a ∧ (u.actionEvidence m i.className a).possible = true := by
  -- no body confirms the use, so none of them is left early
  have hbody : ∀ d ∈ i.methods.filter (·.method ≠ m),
      (u.bodyEvidence m i.className d.body).confirmed = false := by
    intro d hd
    rw [← Bool.not_eq_true]
    intro hc
    rw [← Bool.not_eq_true] at hn
    exact hn ((Evidence.collect_confirmed _ _ _).2 (.inr ⟨d, hd, hc⟩))
  rw [evidence, Evidence.collect_possible hn]
  simp only [Evidence.none, Bool.false_eq_true, false_or, Implementation.ActsOutside]
  constructor
  · rintro ⟨d, hd, h⟩
    obtain ⟨b, hb, s, hs, h⟩ := (u.bodyEvidence_possible (hbody d hd)).1 h
    obtain ⟨hd, hne⟩ := List.mem_filter.1 hd
    exact ⟨s.action, ⟨d, hd, of_decide_eq_true hne, b, hb, s, hs, rfl⟩, h⟩
  · rintro ⟨_, ⟨d, hd, hne, b, hb, s, hs, rfl⟩, h⟩
    have hd' : d ∈ i.methods.filter (·.method ≠ m) :=
      List.mem_filter.2 ⟨hd, decide_eq_true hne⟩
    exact ⟨d, hd', (u.bodyEvidence_possible (hbody d hd')).2 ⟨b, hb, s, hs, h⟩⟩

lemma evidence_confirmed_iff_calledInside :
    (u.evidence i m).confirmed = true ↔ u.CalledInside i m := by
  simp only [evidence_confirmed, actionEvidence_confirmed, CalledInside]
  constructor
  · rintro ⟨a, ha, c, n, x, hc, hcalls, hx, hk⟩
    exact ⟨c, hc, a, n, x, ha, hcalls, hx, hk⟩
  · rintro ⟨c, hc, a, n, x, ha, hcalls, hx, hk⟩
    exact ⟨a, ha, c, n, x, hc, hcalls, hx, hk⟩

lemma exported_iff :
    (i.className.any fun name => u.classDeclares name m) = true ↔ u.Exported i m := by
  simp [Option.any_eq_true, Exported]

open Classical in
/-- The verdict in a unit that need not be resolved. -/
lemma verdict_eq_ite :
    u.verdict i m =
      if u.Exported i m then .usedPublic
      else if u.CalledInside i m then .usedInternal
      else if ∃ a, i.ActsOutside m a ∧ (u.actionEvidence m i.className a).possible = true
      then .possiblyUsed
      else .unused := by
  unfold verdict Verdict.ofEvidence
  simp only [exported_iff, evidence_confirmed_iff_calledInside]
  by_cases hc : u.CalledInside i m
  · simp only [hc, if_true]
  · have hn : (u.evidence i m).confirmed = false := by
      rwa [← evidence_confirmed_iff_calledInside, Bool.not_eq_true] at hc
    simp only [hc, if_false, u.evidence_possible hn]

/-- A declaration is a definition unless it is made ahead. -/
lemma definition?_eq_ite {u : SourceUnit} {n : String} {x : Interface}
    (hx : u.interface? n = some x) :
    u.definition? n = if x.forward then none else some x := by
  rw [definition?, NameTable.definition?, show u.interfaces.find? n = some x from hx,
    Option.filter_some]
  cases hf : x.forward <;> simp [Declaration.forward, hf]

/-- In a resolved unit a type without a definition is one that is only declared ahead. -/
lemma untraceable_iff {u : SourceUnit} {i : Implementation} (hu : u.Resolved)
    (hi : i ∈ u.implementations) {m : Method} {a : Action} (ha : i.ActsOutside m a)
    {type : Option String} (hc : Action.Calls m type a) :
    i.className = none ∨ type.bind u.definition? = none ↔ u.Untraceable i type := by
  refine or_congr_right ?_
  cases type with
  | none => simp
  | some n =>
    obtain ⟨d, hd, -, b, hb, s, hs, rfl⟩ := ha
    obtain ⟨x, hx⟩ := hu.receiver_declared hi hd hb hs hc.receiverType?
    simp [hx, definition?_eq_ite hx]

lemma hinted_iff {u : SourceUnit} {i : Implementation} (hu : u.Resolved)
    (hi : i ∈ u.implementations) (m : Method) :
    (∃ a, i.ActsOutside m a ∧ (u.actionEvidence m i.className a).possible = true) ↔
      u.Hinted i m := by
  refine exists_congr fun a => and_congr_right fun ha => ?_
  rw [actionEvidence_possible]
  refine or_congr_right (exists_congr fun type => and_congr_right fun hc => ?_)
  exact untraceable_iff hu hi ha hc

/-- Only actions that do not go by way of `super` are evidence. -/
lemma viaSuper_of_evidence {target : Option String} {m : Method} {a : Action}
    (h : (u.actionEvidence m target a).possible = true) : a.viaSuper = false := by
  rcases (u.actionEvidence_possible m target a).1 h with rfl | ⟨type, hc, -⟩
  · rfl
  · exact hc.viaSuper

/-- **A verdict is a classification** by what is declared and by what stands in the other
bodies. Neither the methods that equal `m`, nor what goes by way of `super`, nor the order of
anything has a part in it: an implementation of the same class with the same other actions
gets the same verdict. -/
theorem verdict_eq_classification {d : Dump} {u : SourceUnit} (h : d.resolve = .ok u)
    {i : Implementation} (hi : i ∈ u.implementations) (m : Method) :
    u.verdict i m = u.classification i m ∧
      ∀ j : Implementation, j.className = i.className →
        (∀ a : Action, a.viaSuper = false → (j.ActsOutside m a ↔ i.ActsOutside m a)) →
          u.verdict j m = u.verdict i m := by
  classical
  constructor
  · rw [verdict_eq_ite, classification]
    simp only [hinted_iff (Dump.resolved h) hi]
  · intro j hclass hacts
    have hexp : u.Exported j m ↔ u.Exported i m := by
      rw [Exported, Exported, hclass]
    have hcall : u.CalledInside j m ↔ u.CalledInside i m := by
      rw [CalledInside, CalledInside, hclass]
      refine exists_congr fun c => and_congr_right fun _ => exists_congr fun a => ?_
      refine exists_congr fun n => exists_congr fun x => ?_
      refine and_congr_left fun ⟨hc, _⟩ => hacts a hc.viaSuper
    have hposs : (∃ a, j.ActsOutside m a ∧ (u.actionEvidence m j.className a).possible = true) ↔
        ∃ a, i.ActsOutside m a ∧ (u.actionEvidence m i.className a).possible = true := by
      rw [hclass]
      exact exists_congr fun a => and_congr_left fun ha => hacts a (u.viaSuper_of_evidence ha)
    rw [verdict_eq_ite, verdict_eq_ite]
    simp only [hexp, hcall, hposs]

/-- `layout` is called on a subclass deep in another body, and by itself; `reset` is reached by
way of `super` only, and `tap:` is named. -/
def widget : Implementation where
  className := some "Widget"
  category := none
  methods := [
    ⟨⟨"draw", false⟩, some (.node (.other none) [
      .node (.send .superObject "reset" none) [],
      .node (.other none) [
        .node (.selectorLiteral "tap:") [],
        .node (.send .object "layout" (some "Panel")) []]]), none⟩,
    ⟨⟨"layout", false⟩, some (.node (.send .object "layout" (some "Widget")) []), none⟩,
    ⟨⟨"reset", false⟩, none, none⟩,
    ⟨⟨"tap:", false⟩, none, none⟩]

/-- A class that is declared ahead and later defined, with a protocol that adopts itself. -/
def gallery : Dump where
  file := "Widget.m"
  interfaces := [
    ⟨"Widget", none, .empty, true⟩,
    ⟨"Panel", some "Widget", .empty, false⟩,
    ⟨"Widget", some "NSObject", ⟨["Drawing"], [], []⟩, false⟩]
  protocols := [⟨"Drawing", ⟨["Drawing"], [⟨"draw", false⟩], []⟩, false⟩]
  categories := []
  implementations := [widget]

lemma gallery_resolves : ∃ u, gallery.resolve = .ok u := by
  have hok : gallery.resolve.isOk = true := by decide
  cases hu : gallery.resolve with
  | error e =>
    rw [hu] at hok
    cases hok
  | ok u => exact ⟨u, rfl⟩

theorem verdict_eq_classification_widget :
    ∃ u, gallery.resolve = .ok u ∧ widget ∈ u.implementations ∧
      ∀ d ∈ widget.methods, u.verdict widget d.method = u.classification widget d.method := by
  obtain ⟨u, hu⟩ := gallery_resolves
  have hw : widget ∈ u.implementations := by
    rw [Dump.implementations_of_resolve hu]
    exact List.mem_singleton.2 rfl
  exact ⟨u, hu, hw, fun d _ => (verdict_eq_classification hu hw d.method).1⟩

end SourceUnit

end MethodAudit
