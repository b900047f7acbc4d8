import Mathlib.Data.List.Nodup
import MethodAudit.Proofs.Lists
import MethodAudit.Rule

/-!
The selection of rules by name.

Reading the names one by one moves rules from those available to those selected, and together these
stay all the rules. So whether a name is known does not depend on what was taken out before it, and
the selection is determined by the names alone: the rules have them for their names, each where it
comes first.
-/

namespace MethodAudit.Rule

lemma mem_all (r : Rule) : r ∈ all := by
  cases r <;> simp [all]

lemma nodup_all : all.Nodup := by decide

lemma name_injective : Function.Injective Rule.name := by
  intro a b h
  cases a <;> cases b <;> first | rfl | exact absurd h (by decide)

/-- The name of a rule. -/
def IsKnown (n : String) : Prop := n ∈ all.map Rule.name

lemma isKnown_iff {n : String} : IsKnown n ↔ ∃ r : Rule, r.name = n := by
  simp [IsKnown, mem_all]

/-- A name of no rule is found neither among those selected nor among those available. -/
lemma selectFrom_of_not_isKnown {n : String} (h : ¬IsKnown n) (available selected : List Rule)
    (rest : List String) : selectFrom available selected (n :: rest) =
      .error (.invalidArgument ("unknown rule: " ++ n)) := by
  have hnames : ∀ r : Rule, r.name ≠ n := by simpa [isKnown_iff] using h
  rw [selectFrom, if_neg (by simp [hnames]), List.find?_eq_none.2 (by simp [hnames])]

/-! ### One name after the other -/

/-- What stands after some names have been read: the rules are parted into those selected and those
available, and the selected ones have the names read, each where it came first. -/
structure Drawn (read : List String) (available selected : List Rule) : Prop where
  parts : (selected ++ available).Perm all
  names : selected.map Rule.name = read.eraseDups

namespace Drawn

variable {read names : List String} {available selected : List Rule} {n : String}

lemma init : Drawn [] all [] := ⟨.refl all, rfl⟩

lemma nodup (h : Drawn read available selected) : selected.Nodup :=
  (List.nodup_append.1 (h.parts.nodup_iff.2 nodup_all)).1

lemma mem_names_iff (h : Drawn read available selected) :
    n ∈ selected.map Rule.name ↔ n ∈ read := by
  rw [h.names, List.mem_eraseDups]

lemma any_name_iff (h : Drawn read available selected) :
    selected.any (·.name = n) = true ↔ n ∈ read := by
  rw [← h.mem_names_iff]
  simp

/-- A name neither read before nor found among those available is the name of no rule. -/
lemma not_isKnown (h : Drawn read available selected) (hread : n ∉ read)
    (hnone : available.find? (·.name = n) = none) : ¬IsKnown n := by
  -- every rule is in one of the two parts
  rw [IsKnown, ← (h.parts.map Rule.name).mem_iff, List.map_append, List.mem_append, h.mem_names_iff]
  simpa [hread] using hnone

lemma again (h : Drawn read available selected) (hn : n ∈ read) :
    Drawn (read ++ [n]) available selected := by
  refine ⟨h.parts, ?_⟩
  rw [h.names, eraseDups_concat, if_pos hn]

lemma draw (h : Drawn read available selected) {r : Rule} (hr : r ∈ available)
    (hnew : r.name ∉ read) :
    Drawn (read ++ [r.name]) (available.erase r) (selected ++ [r]) := by
  constructor
  · rw [List.append_assoc, List.singleton_append]
    exact ((List.perm_cons_erase hr).symm.append_left selected).trans h.parts
  · rw [List.map_append, List.map_singleton, h.names, eraseDups_concat, if_neg hnew]

/-- One step: a known name is read, whether its rule is selected or still available. -/
lemma step_of_isKnown (h : Drawn read available selected) (hn : IsKnown n) (rest : List String) :
    ∃ available' selected', Drawn (read ++ [n]) available' selected' ∧
      selectFrom available selected (n :: rest) = selectFrom available' selected' rest := by
  rw [selectFrom]
  by_cases hread : n ∈ read
  · -- its rule is no longer available, but it is not looked for there
    rw [if_pos (h.any_name_iff.2 hread)]
    exact ⟨available, selected, h.again hread, rfl⟩
  · rw [if_neg (mt h.any_name_iff.1 hread)]
    cases hr : available.find? (·.name = n) with
    | none => exact absurd hn (h.not_isKnown hread hr)
    | some r =>
      obtain rfl : r.name = n := by simpa using List.find?_some hr
      exact ⟨_, _, h.draw (List.mem_of_find?_eq_some hr) hread, rfl⟩

/-- A whole list of known names is read, whatever comes after it. -/
lemma run (h : Drawn read available selected) (hnames : ∀ n ∈ names, IsKnown n)
    (rest : List String) :
    ∃ available' selected', Drawn (read ++ names) available' selected' ∧
      selectFrom available selected (names ++ rest) = selectFrom available' selected' rest := by
  induction names generalizing read available selected with
  | nil => exact ⟨available, selected, by simpa using h, rfl⟩
  | cons n names ih =>
    obtain ⟨available₁, selected₁, h₁, hstep⟩ :=
      h.step_of_isKnown (hnames n List.mem_cons_self) (names ++ rest)
    obtain ⟨available₂, selected₂, h₂, hrest⟩ :=
      ih h₁ fun m hm => hnames m (List.mem_cons_of_mem n hm)
    refine ⟨available₂, selected₂, by simpa using h₂, ?_⟩
    rw [List.cons_append, hstep, hrest]

end Drawn

/-! ### The two outcomes -/

variable {names : List String} {rules : List Rule}

/-- The name is no rule's, and every name before it is one. -/
def FirstUnknown (names : List String) (n : String) : Prop :=
  ∃ before after, names = before ++ n :: after ∧ (∀ m ∈ before, IsKnown m) ∧ ¬IsKnown n

lemma exists_drawn_of_known (h : ∀ n ∈ names, IsKnown n) :
    ∃ available rules, Drawn names available rules ∧ select names = .ok rules := by
  obtain ⟨available, rules, hdrawn, hrun⟩ := Drawn.init.run h []
  rw [List.append_nil] at hrun
  exact ⟨available, rules, hdrawn, hrun⟩

lemma select_of_firstUnknown {n : String} (h : FirstUnknown names n) :
    select names = .error (.invalidArgument ("unknown rule: " ++ n)) := by
  obtain ⟨before, after, rfl, hbefore, hn⟩ := h
  obtain ⟨available, selected, -, hrun⟩ := Drawn.init.run hbefore (n :: after)
  rw [select, hrun, selectFrom_of_not_isKnown hn]

lemma known_or_firstUnknown (names : List String) :
    (∀ n ∈ names, IsKnown n) ∨ ∃ n, FirstUnknown names n := by
  induction names with
  | nil => exact .inl (by simp)
  | cons m names ih =>
    by_cases hm : IsKnown m
    · rcases ih with hknown | ⟨n, before, after, rfl, hbefore, hn⟩
      · exact .inl (List.forall_mem_cons.2 ⟨hm, hknown⟩)
      · exact .inr ⟨n, m :: before, after, rfl, List.forall_mem_cons.2 ⟨hm, hbefore⟩, hn⟩
    · exact .inr ⟨m, [], names, rfl, by simp, hm⟩

lemma exists_drawn_of_select (h : select names = .ok rules) :
    (∀ n ∈ names, IsKnown n) ∧ ∃ available, Drawn names available rules := by
  rcases known_or_firstUnknown names with hknown | ⟨n, hn⟩
  · obtain ⟨available, rules', hdrawn, hselect⟩ := exists_drawn_of_known hknown
    obtain rfl := Except.ok.inj (h.symm.trans hselect)
    exact ⟨hknown, available, hdrawn⟩
  · rw [select_of_firstUnknown hn] at h
    cases h

/-- The names decide which rules are selected, and in which order. -/
lemma select_eq_ok_iff :
    select names = .ok rules ↔
      (∀ n ∈ names, IsKnown n) ∧ rules.map Rule.name = names.eraseDups := by
  constructor
  · intro h
    obtain ⟨hknown, available, hdrawn⟩ := exists_drawn_of_select h
    exact ⟨hknown, hdrawn.names⟩
  · rintro ⟨hknown, hrules⟩
    obtain ⟨available, rules', hdrawn, hselect⟩ := exists_drawn_of_known hknown
    rw [hselect, name_injective.list_map (hdrawn.names.trans hrules.symm)]

lemma select_eq_error_iff {f : Failure} :
    select names = .error f ↔
      ∃ n, FirstUnknown names n ∧ f = .invalidArgument ("unknown rule: " ++ n) := by
  constructor
  · intro h
    rcases known_or_firstUnknown names with hknown | ⟨n, hn⟩
    · obtain ⟨available, rules, -, hselect⟩ := exists_drawn_of_known hknown
      rw [hselect] at h
      cases h
    · rw [select_of_firstUnknown hn] at h
      exact ⟨n, hn, (Except.error.inj h).symm⟩
  · rintro ⟨n, hn, rfl⟩
    exact select_of_firstUnknown hn

/-! ### Rule sets -/

/-- The lists of rules that an analysis can be given: all of them, or a selection. -/
def IsRuleSet (rules : List Rule) : Prop := rules = all ∨ ∃ names, select names = .ok rules

lemma IsRuleSet.nodup (h : IsRuleSet rules) : rules.Nodup := by
  rcases h with rfl | ⟨names, h⟩
  · exact nodup_all
  · obtain ⟨-, available, hdrawn⟩ := exists_drawn_of_select h
    exact hdrawn.nodup

lemma select_names_of_nodup (h : rules.Nodup) : select (rules.map Rule.name) = .ok rules := by
  have hnames : (rules.map Rule.name).Nodup := (List.nodup_map_iff name_injective).2 h
  refine select_eq_ok_iff.2 ⟨?_, (eraseDups_of_nodup hnames).symm⟩
  intro n hn
  obtain ⟨r, -, rfl⟩ := List.mem_map.1 hn
  exact isKnown_iff.2 ⟨r, rfl⟩

/-- **Selection by name.** It succeeds exactly if every name is the name of a rule. Then the rules
have the names, each where it comes first, and are the rules of these names, each once. Otherwise it
fails with the first name that is unknown. Any rule set is selected by its own names. -/
theorem select_determined_by_names (names : List String) :
    ((∃ rules, select names = .ok rules) ↔ ∀ n ∈ names, IsKnown n) ∧
    (∀ rules, select names = .ok rules →
      rules.map Rule.name = names.eraseDups ∧ rules.Nodup ∧
        ∀ r, r ∈ rules ↔ r ∈ all ∧ r.name ∈ names) ∧
    (∀ f, select names = .error f ↔
      ∃ n, FirstUnknown names n ∧ f = .invalidArgument ("unknown rule: " ++ n)) ∧
    ∀ rules, IsRuleSet rules → select (rules.map Rule.name) = .ok rules := by
  refine ⟨⟨?_, ?_⟩, ?_, fun f => select_eq_error_iff, fun rules h => select_names_of_nodup h.nodup⟩
  · rintro ⟨rules, h⟩
    exact (exists_drawn_of_select h).1
  · intro h
    obtain ⟨available, rules, -, hselect⟩ := exists_drawn_of_known h
    exact ⟨rules, hselect⟩
  · intro rules h
    obtain ⟨-, available, hdrawn⟩ := exists_drawn_of_select h
    refine ⟨hdrawn.names, hdrawn.nodup, fun r => ?_⟩
    rw [← hdrawn.mem_names_iff, List.mem_map_of_injective name_injective]
    simp [mem_all]

/-- A name that comes again adds nothing, though its rule is taken. -/
theorem select_determined_by_names_repeated :
    select ["should use weak", "method is used", "should use weak"] =
        .ok [.shouldUseWeak, .methodIsUsed] ∧
      (∀ n ∈ ["should use weak", "method is used", "should use weak"], IsKnown n) ∧
      IsRuleSet [.shouldUseWeak, .methodIsUsed] ∧
      select ["should use weak", "method is used"] = .ok [.shouldUseWeak, .methodIsUsed] := by
  have hselect : select ["should use weak", "method is used", "should use weak"] =
      .ok [.shouldUseWeak, .methodIsUsed] := by decide
  have hset : IsRuleSet [.shouldUseWeak, .methodIsUsed] := .inr ⟨_, hselect⟩
  obtain ⟨hknown, -, -, hsame⟩ :=
    select_determined_by_names ["should use weak", "method is used", "should use weak"]
  exact ⟨hselect, hknown.1 ⟨_, hselect⟩, hset, hsame _ hset⟩

example : select ["method is used", "method is used", "weak", "should use weak", "strong"] =
    .error (.invalidArgument "unknown rule: weak") := by decide

end MethodAudit.Rule
