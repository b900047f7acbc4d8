import MethodAudit.Proofs.Folding
import MethodAudit.Report

/-!
The violations of a report, read off the dump.

What is found is listed here without resolving anything but verdicts: a violation for each
method with a doubtful verdict, in the order of the implementations, and one for each property
that does not keep its object alive, in the order in which the dump first names what holds it.
Declarations made ahead and classes that are only mentioned have no part in either list.
-/

namespace MethodAudit

open NameTable

/-- A verdict that leaves a method under suspicion. -/
def Verdict.isDoubtful : Verdict → Bool
  | .possiblyUsed | .unused => true
  | .usedPublic | .usedInternal => false

/-- The violation for a method with a doubtful verdict. -/
def Violation.ofMethod (file : String) (i : Implementation) (x : MethodDef) (v : Verdict) :
    Violation where
  rule := "method is used"
  priority := 1
  category := "cocoa"
  location := ⟨file, i.title, x.method, x.line⟩
  message := "The method " ++ x.method.selector ++
    if v = .possiblyUsed then " was referenced by @selector(...) but no where else"
    else " was defined but not exported or referenced here"
  verdict := some v

/-- The violation for a property that does not keep its object alive. -/
def Violation.ofProperty (file container : String) (p : Property) : Violation where
  rule := "should use weak"
  priority := 1
  category := "cocoa"
  location := ⟨file, container, ⟨p.name, false⟩, p.line⟩
  message := "property object property " ++ p.name ++ " should use strong, copy, or weak"
  verdict := none

/-- The writable object properties that are assigned, together with what holds them. -/
def Body.assignedIn (b : Body) (container : String) : List (String × Property) :=
  (b.properties.filter fun p => p.objectType && !p.readonly && p.policy = .assign).map
    fun p => (container, p)

namespace Dump

def doubtfulMethods (d : Dump) (verdict : Implementation → Method → Verdict) : List Violation :=
  d.implementations.flatMap fun i =>
    (i.methods.filter fun x => (verdict i x.method).isDoubtful).map fun x =>
      .ofMethod d.file i x (verdict i x.method)

/-- The properties that are assigned, each as often as it is declared: those of classes that are
defined, those of categories, and those of protocols that are defined. -/
def assignedProperties (d : Dump) : List (String × Property) :=
  ((definitionsInOrder d.interfaces).flatMap fun i => i.body.assignedIn i.name) ++
  (d.categories.flatMap fun c => c.body.assignedIn c.title) ++
  ((definitionsInOrder d.protocols).flatMap fun p => p.body.assignedIn p.name)

/-- What a rule has to find. -/
def findings (d : Dump) (verdict : Implementation → Method → Verdict) : Rule → List Violation
  | .methodIsUsed => d.doubtfulMethods verdict
  | .shouldUseWeak => d.assignedProperties.map fun x => .ofProperty d.file x.1 x.2

end Dump

/-! ### One rule -/

namespace Rule

lemma deadMethods_eq (u : SourceUnit) :
    deadMethods u = u.implementations.flatMap fun i => i.methods.filterMap fun e =>
      ((u.verdict i e.method).message e.method.selector).map fun message =>
        methodIsUsed.violation (.ofMethod u.file i e) message (some (u.verdict i e.method)) := by
  simp only [deadMethods, SourceUnit.verdicts, SourceUnit.verdictsOn, List.flatMap_map,
    List.filterMap_map]
  rfl

/-- A message comes with a doubtful verdict, and with no other. -/
lemma violation_of_message (file : String) (i : Implementation) (x : MethodDef) (v : Verdict) :
    ((v.message x.method.selector).map fun message =>
        methodIsUsed.violation (.ofMethod file i x) message (some v)) =
      if v.isDoubtful then some (.ofMethod file i x v) else none := by
  cases v with
  | usedPublic | usedInternal => rfl
  | possiblyUsed | unused =>
    simp [Verdict.message, Verdict.isDoubtful, Violation.ofMethod, violation, Location.ofMethod,
      name, priority, category, String.append_assoc]

/-- What is found in one implementation. -/
def deadIn (u : SourceUnit) (i : Implementation) : List Violation :=
  (i.methods.filter fun x => (u.verdict i x.method).isDoubtful).map fun x =>
    .ofMethod u.file i x (u.verdict i x.method)

lemma deadMethods_eq_deadIn (u : SourceUnit) :
    deadMethods u = u.implementations.flatMap (deadIn u) := by
  rw [deadMethods_eq]
  congr 1
  funext i
  simp only [violation_of_message]
  rw [deadIn, ← List.filterMap_eq_map, List.filterMap_filter]
  rfl

lemma danglingProperties_eq (file container : String) (b : Body) :
    danglingProperties file container b =
      (b.assignedIn container).map fun x => .ofProperty file x.1 x.2 := by
  have hfilter : b.properties.filter Property.isDangling =
      b.properties.filter fun p => p.objectType && !p.readonly && p.policy = .assign :=
    List.filter_congr fun p _ => by rw [Property.isDangling, beq_eq_decide]
  rw [danglingProperties, hfilter, Body.assignedIn, List.map_map]
  rfl

variable {d : Dump} {u : SourceUnit}

lemma deadMethods_eq_doubtful (h : d.resolve = .ok u) :
    deadMethods u = d.doubtfulMethods u.verdict := by
  rw [deadMethods_eq_deadIn, Dump.doubtfulMethods, Dump.implementations_of_resolve h]
  unfold deadIn
  rw [Dump.file_of_resolve h]

/-- A rule finds what it has to find. -/
lemma check_eq_findings (h : d.resolve = .ok u) (r : Rule) :
    r.check u = d.findings u.verdict r := by
  cases r with
  | methodIsUsed => exact deadMethods_eq_doubtful h
  | shouldUseWeak =>
    have hinterfaces : u.interfaces.decls.toList.filter (!·.forward) =
        definitionsInOrder d.interfaces := Dump.interfaces_of_resolve h
    have hprotocols : u.protocols.decls.toList.filter (!·.forward) =
        definitionsInOrder d.protocols := Dump.protocols_of_resolve h
    rw [check, hinterfaces, hprotocols, Dump.categories_of_resolve h, Dump.file_of_resolve h]
    simp only [danglingProperties_eq, Dump.findings, Dump.assignedProperties, List.map_append,
      List.map_flatMap]

end Rule

/-- **A report is exact**: its violations are, rule by rule, those that the dump gives rise to;
and the definitions that are gone through are those of the dump, each once. -/
theorem SourceUnit.violations_report_eq {d : Dump} {u : SourceUnit} (h : d.resolve = .ok u)
    (rules : List Rule) :
    (u.report rules).violations = rules.flatMap (d.findings u.verdict) ∧
      (definitionsInOrder d.interfaces).Perm (d.interfaces.filter (!·.forward)) ∧
      (definitionsInOrder d.protocols).Perm (d.protocols.filter (!·.forward)) := by
  refine ⟨?_, ?_, ?_⟩
  · simp only [report, Rule.check_eq_findings h]
  · rw [← Dump.interfaces_of_resolve h]
    exact Dump.interfaces_perm_of_resolve h
  · rw [← Dump.protocols_of_resolve h]
    exact Dump.protocols_perm_of_resolve h

namespace Cabinet

/-- A property that does not keep its object alive. -/
def assigned (name : String) : Property := ⟨name, false, .assign, none, none, true, none⟩

/-- A drawer is declared ahead of a shelf and defined after it; the property of a key that is
only declared ahead does not count. -/
def dump : Dump where
  file := "Cabinet.m"
  interfaces := [
    ⟨"Drawer", none, ⟨[], [], [assigned "lost"]⟩, true⟩,
    ⟨"Shelf", some "Board", ⟨[], [], [assigned "top", assigned "top"]⟩, false⟩,
    ⟨"Key", none, ⟨[], [], [assigned "ring"]⟩, true⟩,
    ⟨"Drawer", none, ⟨[], [], [assigned "handle"]⟩, false⟩]
  protocols := [
    ⟨"Locked", .empty, true⟩,
    ⟨"Sturdy", ⟨[], [], [assigned "frame"]⟩, false⟩,
    ⟨"Locked", ⟨[], [], [assigned "bolt"]⟩, false⟩]
  categories := [⟨"Hidden", "Shelf", ⟨[], [], [assigned "back"]⟩⟩]
  implementations := [⟨some "Drawer", none, [⟨⟨"open", false⟩, none, some 3⟩]⟩]

end Cabinet

theorem SourceUnit.violations_report_eq_cabinet :
    ∃ u, Cabinet.dump.resolve = .ok u ∧
      (u.report [.shouldUseWeak, .methodIsUsed]).violations =
        [.shouldUseWeak, .methodIsUsed].flatMap (Cabinet.dump.findings u.verdict) ∧
      Cabinet.dump.assignedProperties = [
        ("Drawer", Cabinet.assigned "handle"), ("Shelf", Cabinet.assigned "top"),
        ("Shelf", Cabinet.assigned "top"), ("Shelf(Hidden)", Cabinet.assigned "back"),
        ("Locked", Cabinet.assigned "bolt"), ("Sturdy", Cabinet.assigned "frame")] := by
  obtain ⟨u, hu⟩ := (Dump.isOk_resolve_iff Cabinet.dump).1 (by decide)
  exact ⟨u, hu, (violations_report_eq hu _).1, by decide⟩

end MethodAudit
