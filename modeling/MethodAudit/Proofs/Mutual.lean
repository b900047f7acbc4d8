import MethodAudit.Proofs.Exported
import MethodAudit.Proofs.Findings
import MethodAudit.Proofs.Usage

/-!
Calls between the methods of an implementation.

A call on an object of the class, or of one of its subclasses, is a use of the method, wherever
it stands in another body. That needs a definition of the static type: a type that is only
declared ahead is not followed, even if it is the class itself, and a call on it is a hint.
-/

namespace MethodAudit

/-- In a body of `n`, at some depth, `m` is called on an object of the static type `r`. -/
def Implementation.CallsFrom (i : Implementation) (n m : Method) (r : String) : Prop :=
  ∃ d ∈ i.methods, d.method = n ∧
    ∃ b ∈ d.body, ∃ s : Stmt, s.Within b ∧ Action.Calls m (some r) s.action

lemma Implementation.CallsFrom.actsOutside {i : Implementation} {n m : Method} {r : String}
    (h : i.CallsFrom n m r) (hne : n ≠ m) :
    ∃ a, i.ActsOutside m a ∧ Action.Calls m (some r) a := by
  obtain ⟨d, hd, rfl, b, hb, s, hs, hcalls⟩ := h
  exact ⟨s.action, ⟨d, hd, hne, b, hb, s, hs, rfl⟩, hcalls⟩

lemma Rule.doubtful_of_mem_deadIn {u : SourceUnit} {i : Implementation} {v : Violation}
    (hv : v ∈ deadIn u i) : (u.verdict i v.location.method).isDoubtful = true := by
  obtain ⟨x, hx, rfl⟩ := List.mem_map.1 hv
  exact (List.mem_filter.1 hx).2

namespace SourceUnit

/-- The method `n` calls `m` on an object of a type that is a kind of the implemented class, and
`x` is the declaration of the type. -/
def CallsKind (u : SourceUnit) (i : Implementation) (n m : Method) (x : Interface) : Prop :=
  ∃ c r, i.className = some c ∧ i.CallsFrom n m r ∧ u.interface? r = some x ∧
    u.isKindOf x c = true

variable {u : SourceUnit} {i : Implementation} {n m : Method} {x : Interface}

/-- A call on the class itself is such a call. -/
lemma Resolved.exists_callsKind (hu : u.Resolved) (hi : i ∈ u.implementations) {c : String}
    (hc : i.className = some c) (h : i.CallsFrom n m c) : ∃ x, u.CallsKind i n m x := by
  have hfrom := h
  obtain ⟨d, hd, -, b, hb, s, hs, hcalls⟩ := h
  obtain ⟨x, hx⟩ := hu.receiver_declared hi hd hb hs hcalls.receiverType?
  refine ⟨x, c, c, hc, hfrom, hx, ?_⟩
  rw [isKindOf, if_pos (hu.interface?_eq_some_iff.1 hx).2]

lemma CallsKind.used (h : u.CallsKind i n m x) (hne : n ≠ m) (hx : x.forward = false) :
    u.verdict i m = .usedInternal ∨ u.verdict i m = .usedPublic := by
  classical
  obtain ⟨c, r, hc, hfrom, hr, hkind⟩ := h
  obtain ⟨a, ha, hcalls⟩ := hfrom.actsOutside hne
  have hdef : u.definition? r = some x := by simp [definition?_eq_ite hr, hx]
  have hinside : u.CalledInside i m := ⟨c, hc, a, r, x, ha, hcalls, hdef, hkind⟩
  rw [verdict_eq_ite, if_pos hinside]
  split_ifs
  · exact .inr rfl
  · exact .inl rfl

lemma CallsKind.location_ne (h : u.CallsKind i n m x) (hne : n ≠ m) (hx : x.forward = false)
    {v : Violation} (hv : v ∈ Rule.deadIn u i) : v.location.method ≠ m := by
  rintro rfl
  have hdoubtful := Rule.doubtful_of_mem_deadIn hv
  rcases h.used hne hx with hused | hused
  · rw [hused] at hdoubtful
    cases hdoubtful
  · rw [hused] at hdoubtful
    cases hdoubtful

lemma CallsKind.hinted (h : u.CallsKind i n m x) (hne : n ≠ m) (hx : x.forward = true) :
    ∃ a, i.ActsOutside m a ∧ (u.actionEvidence m i.className a).possible = true := by
  obtain ⟨c, r, hc, hfrom, hr, hkind⟩ := h
  obtain ⟨a, ha, hcalls⟩ := hfrom.actsOutside hne
  have hdef : u.definition? r = none := by simp [definition?_eq_ite hr, hx]
  exact ⟨a, ha, (u.actionEvidence_possible m _ a).2 (.inr ⟨some r, hcalls, .inr hdef⟩)⟩

lemma CallsKind.ne_unused (h : u.CallsKind i n m x) (hne : n ≠ m) (hx : x.forward = true) :
    u.verdict i m ≠ .unused := by
  classical
  rw [verdict_eq_ite, if_pos (h.hinted hne hx)]
  split_ifs <;> simp

/-- **A call on an object of the class is a use.** The method that is called is used if the type
has a definition, and not given up if it has none; so methods that call each other on types with
definitions are not found by the rule, which goes through the implementations one by one. -/
theorem used_of_callsKind {d : Dump} {u : SourceUnit} (h : d.resolve = .ok u)
    {i : Implementation} (hi : i ∈ u.implementations) {m n : Method} (hne : m ≠ n) :
    (∀ x, u.CallsKind i m n x →
      (x.forward = false → u.verdict i n = .usedInternal ∨ u.verdict i n = .usedPublic) ∧
      (x.forward = true → u.verdict i n ≠ .unused)) ∧
    (∀ c, i.className = some c → i.CallsFrom m n c → ∃ x, u.CallsKind i m n x) ∧
    Rule.methodIsUsed.check u = u.implementations.flatMap (Rule.deadIn u) ∧
    ∀ x y, u.CallsKind i m n x → x.forward = false → u.CallsKind i n m y → y.forward = false →
      ∀ v ∈ Rule.deadIn u i, v.location.method ≠ m ∧ v.location.method ≠ n := by
  refine ⟨fun x hx => ⟨hx.used hne, hx.ne_unused hne⟩,
    fun c hc => (Dump.resolved h).exists_callsKind hi hc, Rule.deadMethods_eq_deadIn u, ?_⟩
  intro x y hx hxdef hy hydef v hv
  exact ⟨hy.location_ne hne.symm hydef hv, hx.location_ne hne hxdef hv⟩

/-! ### Two halves of a pair -/

def left : Method := ⟨"left", false⟩

def right : Method := ⟨"right", false⟩

/-- Each half calls the other: one deep in its body and on an object of the type `r`, the other
as a property of the pair. -/
def pair (r : String) : Implementation where
  className := some "Pair"
  category := none
  methods := [
    ⟨left, some (.node (.other none) [.node (.send .object "right" (some r)) []]), none⟩,
    ⟨right, some (.node (.access (some "left") none false (some "Pair")) []), none⟩]

lemma callsFrom_left (r : String) : (pair r).CallsFrom left right r :=
  ⟨_, List.mem_cons_self, rfl, _, rfl, _, .child List.mem_cons_self .self, .send rfl rfl⟩

lemma callsFrom_right (r : String) : (pair r).CallsFrom right left "Pair" :=
  ⟨_, List.mem_cons_of_mem _ List.mem_cons_self, rfl, _, rfl, _, .self, .get rfl⟩

/-- Pairs are defined, and so are twins, a kind of pairs. -/
def twins : Dump where
  file := "Pair.m"
  interfaces := [⟨"Twins", some "Pair", .empty, false⟩, ⟨"Pair", some "NSObject", .empty, false⟩]
  protocols := []
  categories := []
  implementations := [pair "Twins"]

theorem used_of_callsKind_twins :
    ∃ u, twins.resolve = .ok u ∧ pair "Twins" ∈ u.implementations ∧
      (u.verdict (pair "Twins") right = .usedInternal ∨
        u.verdict (pair "Twins") right = .usedPublic) ∧
      ∀ v ∈ Rule.methodIsUsed.check u, v.location.method ≠ left ∧ v.location.method ≠ right := by
  obtain ⟨u, hu⟩ := (Dump.isOk_resolve_iff twins).1 (by decide)
  have hmem : u.implementations = [pair "Twins"] := Dump.implementations_of_resolve hu
  have hpair : pair "Twins" ∈ u.implementations := hmem ▸ List.mem_singleton.2 rfl
  have htwinsDecl : u.interface? "Twins" = some ⟨"Twins", some "Pair", .empty, false⟩ :=
    (Dump.interface?_of_resolve hu).2 (.inl rfl)
  have hpairDecl : u.interface? "Pair" = some ⟨"Pair", some "NSObject", .empty, false⟩ :=
    (Dump.interface?_of_resolve hu).2 (.inl rfl)
  have hkind : u.isKindOf ⟨"Twins", some "Pair", .empty, false⟩ "Pair" = true := by
    have hnext : (some "Pair").bind u.interface? = some _ := hpairDecl
    rw [isKindOf, if_neg (by decide), if_neg (by decide), reaches_step hnext, if_pos rfl]
  have hleft : u.CallsKind (pair "Twins") left right _ :=
    ⟨"Pair", "Twins", rfl, callsFrom_left _, htwinsDecl, hkind⟩
  have hright : u.CallsKind (pair "Twins") right left _ :=
    ⟨"Pair", "Pair", rfl, callsFrom_right _, hpairDecl, if_pos rfl⟩
  obtain ⟨hused, -, hcheck, hmutual⟩ :=
    used_of_callsKind hu hpair (show left ≠ right by decide)
  refine ⟨u, hu, hpair, (hused _ hleft).1 rfl, ?_⟩
  intro v hv
  rw [hcheck, hmem, List.flatMap_singleton] at hv
  exact hmutual _ _ hleft rfl hright rfl v hv

/-- Nothing but the implementation. -/
def orphans : Dump where
  file := "Pair.m"
  interfaces := []
  protocols := []
  categories := []
  implementations := [pair "Pair"]

/-- Methods of a class without a definition that call each other on objects of the class are not
known to be used. -/
theorem possiblyUsed_of_class_without_definition :
    ∃ u x, orphans.resolve = .ok u ∧ pair "Pair" ∈ u.implementations ∧
      u.interface? "Pair" = some x ∧ u.isKindOf x "Pair" = true ∧
      u.CallsKind (pair "Pair") left right x ∧ u.CallsKind (pair "Pair") right left x ∧
      u.verdict (pair "Pair") left = .possiblyUsed ∧
      u.verdict (pair "Pair") right = .possiblyUsed := by
  classical
  obtain ⟨u, hu⟩ := (Dump.isOk_resolve_iff orphans).1 (by decide)
  have hpair : pair "Pair" ∈ u.implementations := by
    rw [Dump.implementations_of_resolve hu]
    exact List.mem_singleton.2 rfl
  have hdecl : u.interface? "Pair" = some (.named "Pair") := by
    refine (Dump.interface?_of_resolve hu).2 (.inr ⟨rfl, .inr ⟨pair "Pair", ?_, ?_⟩, rfl⟩)
    · exact List.mem_singleton.2 rfl
    · exact List.mem_append_left _ (List.mem_singleton.2 rfl)
  have hkind : u.isKindOf (.named "Pair") "Pair" = true := if_pos rfl
  have hleft : u.CallsKind (pair "Pair") left right (.named "Pair") :=
    ⟨"Pair", "Pair", rfl, callsFrom_left _, hdecl, hkind⟩
  have hright : u.CallsKind (pair "Pair") right left (.named "Pair") :=
    ⟨"Pair", "Pair", rfl, callsFrom_right _, hdecl, hkind⟩
  have hverdict : ∀ n m, u.CallsKind (pair "Pair") n m (.named "Pair") → n ≠ m →
      u.verdict (pair "Pair") m = .possiblyUsed := by
    intro n m hcalls hne
    have hexported : ¬u.Exported (pair "Pair") m := by
      rintro ⟨c, hc, hdeclares⟩
      cases hc
      exact (Dump.resolved hu).not_classDeclares_named hdecl hdeclares
    have hinside : ¬u.CalledInside (pair "Pair") m := by
      rintro ⟨-, -, -, r, y, -, -, hy, -⟩
      exact Option.some_ne_none y (hy.symm.trans (Dump.definition?_of_resolve hu r))
    rw [verdict_eq_ite, if_neg hexported, if_neg hinside, if_pos (hcalls.hinted hne rfl)]
  exact ⟨u, _, hu, hpair, hdecl, hkind, hleft, hright, hverdict right left hright (by decide),
    hverdict left right hleft (by decide)⟩

end SourceUnit

end MethodAudit
