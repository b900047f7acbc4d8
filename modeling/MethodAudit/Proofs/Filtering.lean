import Mathlib.Algebra.GroupWithZero.Nat
import MethodAudit.Proofs.ExitCode
import MethodAudit.Proofs.Findings

/-!
What patterns take away, and what is counted.

A run with patterns ends as the run without them, except that the violations that a pattern
matches are deleted and the rest is counted again. What the dumps hold is counted in full, with
the cache or without it. Every violation about a method has one of two verdicts and no other
violation has any, so the counts by verdict add up to the violations about methods.
-/

namespace MethodAudit

open FileTree

/-- The summary with some violations deleted, and the rest counted again. -/
def Summary.without (s : Summary) (ignored : Violation → Bool) : Summary :=
  let violations := s.violations.filter (!ignored ·)
  { s with
    units := s.units.map fun r => { r with violations := r.violations.filter (!ignored ·) }
    violations
    stats := { s.stats with
      violations := violations.length
      unused := violations.countP (·.verdict = some .unused)
      possiblyUsed := violations.countP (·.verdict = some .possiblyUsed) } }

/-- What a run finds out about a file: nothing if it cannot be analyzed, or else the unit of the
text that is there, or of a text among `T` that has the digest of the text that is there. -/
inductive Analysis (T : Set String) (t : FileTree) (rules : List Rule) (f : Path) :
    Option Examined → Prop
  | unreadable {problem : IoProblem} (hread : t.readText f = .error problem) :
    Analysis T t rules f none
  | failed {text : String} {failure : Failure} (hread : t.readText f = .ok text)
      (h : examine rules f text = .error failure) : Analysis T t rules f none
  | fresh {text : String} {e : Examined} (hread : t.readText f = .ok text)
      (h : examine rules f text = .ok e) : Analysis T t rules f (some e)
  | kept {now text : String} {e : Examined} (hread : t.readText f = .ok now) (hmem : text ∈ T)
      (hdigest : Digest.ofText text = Digest.ofText now) (h : examine rules f text = .ok e) :
    Analysis T t rules f (some e)

/-- The summary counts what the units hold, and the violations that it lists. -/
structure Summary.Tallies (s : Summary) (es : List Examined) : Prop where
  violations : s.violations = s.units.flatMap (·.violations)
  units : s.stats.units = es.length
  implementations : s.stats.implementations = (es.map (·.unit.implementations.length)).sum
  methods : s.stats.methods = (es.map (·.unit.methodCount)).sum
  count : s.stats.violations = s.violations.length
  verdicts : s.stats.unused + s.stats.possiblyUsed =
    s.violations.countP (·.rule = Rule.methodIsUsed.name)
  others : s.stats.violations = s.stats.unused + s.stats.possiblyUsed +
    s.violations.countP (·.rule = Rule.shouldUseWeak.name)

/-! ### Verdicts of violations -/

/-- The violation is about a method, with a doubtful verdict, or about a property. -/
inductive Violation.Tagged (v : Violation) : Prop
  | method (hrule : v.rule = Rule.methodIsUsed.name)
      (hverdict : v.verdict = some .unused ∨ v.verdict = some .possiblyUsed)
  | property (hrule : v.rule = Rule.shouldUseWeak.name) (hverdict : v.verdict = none)

namespace Rule

lemma tagged_of_mem_deadIn {u : SourceUnit} {i : Implementation} {v : Violation}
    (hv : v ∈ deadIn u i) : v.Tagged := by
  obtain ⟨x, hx, rfl⟩ := List.mem_map.1 hv
  have hdoubtful := (List.mem_filter.1 hx).2
  refine .method rfl ?_
  simp only [Violation.ofMethod]
  cases hverdict : u.verdict i x.method with
  | usedPublic | usedInternal =>
    rw [hverdict] at hdoubtful
    cases hdoubtful
  | possiblyUsed => exact .inr rfl
  | unused => exact .inl rfl

lemma tagged_of_mem_danglingProperties {file container : String} {b : Body} {v : Violation}
    (hv : v ∈ danglingProperties file container b) : v.Tagged := by
  rw [danglingProperties_eq] at hv
  obtain ⟨x, -, rfl⟩ := List.mem_map.1 hv
  exact .property rfl rfl

/-- Whatever a rule finds in a unit is tagged. -/
lemma tagged_of_mem_check {r : Rule} {u : SourceUnit} {v : Violation} (hv : v ∈ r.check u) :
    v.Tagged := by
  cases r with
  | methodIsUsed =>
    rw [check, deadMethods_eq_deadIn] at hv
    obtain ⟨i, -, hv⟩ := List.mem_flatMap.1 hv
    exact tagged_of_mem_deadIn hv
  | shouldUseWeak =>
    simp only [check, List.mem_append, List.mem_flatMap] at hv
    rcases hv with (⟨x, -, hv⟩ | ⟨x, -, hv⟩) | ⟨x, -, hv⟩ <;>
      exact tagged_of_mem_danglingProperties hv

end Rule

lemma countP_verdict {vs : List Violation} (h : ∀ v ∈ vs, v.Tagged) :
    vs.countP (·.verdict == some .unused) + vs.countP (·.verdict == some .possiblyUsed) =
        vs.countP (·.rule = Rule.methodIsUsed.name) ∧
      vs.length = vs.countP (·.rule = Rule.methodIsUsed.name) +
        vs.countP (·.rule = Rule.shouldUseWeak.name) := by
  have hnames : Rule.methodIsUsed.name ≠ Rule.shouldUseWeak.name := by decide
  induction vs with
  | nil => simp
  | cons v vs ih =>
    obtain ⟨ihmethods, ihlength⟩ := ih fun w hw => h w (List.mem_cons_of_mem v hw)
    simp only [List.countP_cons, List.length_cons]
    cases h v List.mem_cons_self with
    | method hrule hverdict =>
      rcases hverdict with hverdict | hverdict <;> simp [hrule, hverdict, hnames] <;> omega
    | property hrule hverdict =>
      simp [hrule, hverdict, hnames.symm]
      omega

/-! ### Summaries -/

lemma report_of_examine {rules : List Rule} {f : Path} {text : String} {e : Examined}
    (h : examine rules f text = .ok e) :
    e.report = { e.unit.report rules with dump := f.text } := by
  rcases hload : SourceUnit.load f text with failure | u
  · rw [examine, hload] at h
    cases h
  · rw [examine, hload] at h
    obtain rfl := Except.ok.inj h
    rfl

namespace Batch

/-- Patterns only delete violations. -/
lemma summarize_eq_without (b : Batch) (root : Path) (patterns : List Pattern) :
    b.summarize root patterns =
      (b.summarize root []).without fun v => v.isIgnored patterns := by
  have hnone (v : Violation) : v.isIgnored [] = false := rfl
  simp [summarize, Summary.without, Stats.of, Report.without, hnone, List.flatMap_map,
    List.filter_flatMap, List.foldr_map, beq_eq_decide]

/-- A number that patterns do not change adds up to the same. -/
lemma foldr_without {es : List Examined} {patterns : List Pattern} {size : Report → Nat}
    {total : Examined → Nat} (h : ∀ e ∈ es, size (e.report.without patterns) = total e) :
    ((es.map (·.report)).map (·.without patterns)).foldr (fun r n => size r + n) 0 =
      (es.map total).sum := by
  simp only [List.foldr_map, List.sum_eq_foldr]
  exact List.foldr_ext _ _ 0 fun e he n => by rw [h e he]

/-- The summary of units counts them, whatever the patterns. -/
lemma tallies_summarize {b : Batch} {rules : List Rule} {es : List Examined}
    (hreports : b.reports = es.map (·.report))
    (hes : ∀ e ∈ es, ∃ f text, examine rules f text = .ok e) (root : Path)
    (patterns : List Pattern) : (b.summarize root patterns).Tallies es := by
  have hreport : ∀ e ∈ es, ∃ f : Path, e.report = { e.unit.report rules with dump := f.text } := by
    intro e he
    obtain ⟨f, text, h⟩ := hes e he
    exact ⟨f, report_of_examine h⟩
  have htagged : ∀ v ∈ (b.summarize root patterns).violations, v.Tagged := by
    intro v hv
    simp only [summarize, hreports, List.map_map, List.mem_flatMap, List.mem_map] at hv
    obtain ⟨-, ⟨e, he, rfl⟩, hv⟩ := hv
    obtain ⟨f, hf⟩ := hreport e he
    have hmem : v ∈ e.report.violations := (List.mem_filter.1 hv).1
    rw [hf] at hmem
    obtain ⟨rule, -, hv⟩ := List.mem_flatMap.1 hmem
    exact Rule.tagged_of_mem_check hv
  obtain ⟨hmethods, hlength⟩ := countP_verdict htagged
  refine ⟨rfl, ?_, ?_, ?_, rfl, hmethods, ?_⟩
  · simp [summarize, Stats.of, hreports]
  · rw [summarize, hreports]
    refine foldr_without fun e he => ?_
    obtain ⟨f, hf⟩ := hreport e he
    rw [Report.without, hf]
    rfl
  · rw [summarize, hreports]
    refine foldr_without fun e he => ?_
    obtain ⟨f, hf⟩ := hreport e he
    rw [Report.without, hf]
    rfl
  · exact hlength.trans (congrArg (· + _) hmethods.symm)

end Batch

/-! ### Runs -/

variable {T : Set String} {t t' : FileTree}

lemma Analysis.exists_examine {rules : List Rule} {f : Path} {e : Examined}
    (h : Analysis T t rules f (some e)) : ∃ text, examine rules f text = .ok e := by
  cases h with
  | fresh _ h => exact ⟨_, h⟩
  | kept _ _ _ h => exact ⟨_, h⟩

/-- A file is analyzed, kept from an earlier run, or left out. -/
lemma FileResult.exists_analysis {rules : List Rule} {old : Option Cache} {f : Path}
    (hold : ∀ u, old.bind (·.find? f.text) = some u → u.Genuine T rules f.text)
    (hread : t'.readText f = t.readText f) :
    ∃ a o, Analysis T t rules f a ∧ (ofFile t' rules old f).outcome f = .ok o ∧
      o.report? = a.map (·.report) := by
  rw [ofFile, hread]
  rcases hnow : t.readText f with problem | now
  · exact ⟨none, _, .unreadable hnow, Outcome.settle_of_ofDump (.io problem), rfl⟩
  have hexamined : ∃ a o, Analysis T t rules f a ∧
      (examined now (examine rules f now)).outcome f = .ok o ∧ o.report? = a.map (·.report) := by
    rcases examine_cases rules f now with ⟨e, he⟩ | ⟨failure, hfailure, hdump⟩
    · exact ⟨some e, .analyzed e.report, .fresh hnow he, by rw [outcome, he]; rfl, rfl⟩
    · refine ⟨none, .skipped ⟨f.text, failure.message⟩, .failed hnow hfailure, ?_, rfl⟩
      rw [outcome, hfailure]
      exact Outcome.settle_of_ofDump hdump
  rcases hu : old.bind (·.find? f.text) with _ | u
  · exact hexamined
  dsimp only
  split_ifs with hdigest
  · obtain ⟨text, hmem, htext, e, he, hreport⟩ := hold u hu
    exact ⟨some e, .analyzed u.report, .kept hnow hmem (htext.symm.trans hdigest) he, rfl,
      congrArg some hreport.symm⟩
  · exact hexamined

/-- The reports of a batch are those of the units that were analyzed or kept, in the order of
the files. -/
lemma Batch.exists_analyses {rules : List Rule} {old : Option Cache} {files : List Path}
    (hold : ∀ f ∈ files, ∀ u, old.bind (·.find? f.text) = some u → u.Genuine T rules f.text)
    (hread : ∀ f ∈ files, t'.readText f = t.readText f) :
    ∃ (b : Batch) (analysis : Path → Option Examined),
      Batch.ofResults (examineFiles t' rules old files) = .ok b ∧
      (∀ f ∈ files, Analysis T t rules f (analysis f)) ∧
      b.reports = (files.filterMap analysis).map (·.report) := by
  choose outcome houtcome _ using FileResult.exists_outcome t' rules old
  have hanalyses : ∀ f ∈ files, ∃ a, Analysis T t rules f a ∧
      (outcome f).report? = a.map (·.report) := by
    intro f hf
    obtain ⟨a, o, ha, ho, hreport⟩ := FileResult.exists_analysis (hold f hf) (hread f hf)
    obtain rfl := Except.ok.inj ((houtcome f).symm.trans ho)
    exact ⟨a, ha, hreport⟩
  choose! analysis hanalysis hreport using hanalyses
  refine ⟨_, analysis, ofResults_examineFiles houtcome files, hanalysis, ?_⟩
  rw [(accounts_ofOutcomes files outcome).reports, List.map_filterMap]
  exact List.filterMap_congr hreport

/-- Only a run with the cache keeps anything from earlier runs. -/
lemma Kept.exists_analyses (h : Kept T t) {r : Request} {p : Request.Plan}
    (hplan : r.plan t = .ok p) :
    ∃ (b : Batch) (analysis : Path → Option Examined),
      Batch.ofResults (r.results t p) = .ok b ∧
      (∀ f ∈ p.files, Analysis (if r.useCache then T else ∅) t p.rules f (analysis f)) ∧
      b.reports = (p.files.filterMap analysis).map (·.report) := by
  rw [Request.results]
  split_ifs
  · exact Batch.exists_analyses (fun f hf => (h.reads hplan hf).1)
      fun f hf => (h.reads hplan hf).2.1
  · refine Batch.exists_analyses (fun f _ u hu => ?_) fun f _ => rfl
    cases hu

/-- The plan is the one without patterns, with the patterns put in. -/
lemma Request.plan_eq_map {r : Request}
    (hpatterns : ∀ text ∈ r.ignore, ∃ p, Pattern.parse text = .ok p) (t : FileTree) :
    r.plan t = (Request.plan t { r with ignore := [] }).map fun p =>
      { p with patterns := Pattern.described r.ignore } := by
  have hselect : Request.selectRules { r with ignore := [] } = r.selectRules := rfl
  have hfind : Request.findDumps t { r with ignore := [] } = r.findDumps t := rfl
  rw [plan, plan, mapM_readPattern_of_readable hpatterns, hselect, hfind]
  rcases r.selectRules with e | rules
  · rfl
  rcases r.findDumps t with e | files
  · rfl
  · rfl

lemma Request.exists_batch (t : FileTree) (r : Request) (p : Plan) :
    ∃ b, Batch.ofResults (r.results t p) = .ok b := by
  rw [results]
  split_ifs
  · exact Batch.exists_ofResults _ _ _ _
  · exact Batch.exists_ofResults _ _ _ _

/-- Whatever the caches hold, patterns only delete violations from the end of a run. -/
lemma Request.summary_run_without {r : Request}
    (hpatterns : ∀ text ∈ r.ignore, ∃ p, Pattern.parse text = .ok p) (stamp : Stamp)
    (t : FileTree) :
    (r.run stamp t).summary =
      (Request.run stamp t { r with ignore := [] }).summary.map
        (·.without fun v => v.isIgnored (Pattern.described r.ignore)) := by
  have hmap := r.plan_eq_map hpatterns t
  rcases hplan : Request.plan t { r with ignore := [] } with e | p
  · rw [hplan] at hmap
    rw [run, run, hplan, hmap]
    rfl
  · rw [hplan] at hmap
    obtain ⟨b, hb⟩ := exists_batch t { r with ignore := [] } p
    have hnil : p.patterns = [] := (Except.ok.inj (plan_eq_ok_iff.1 hplan).2.1).symm
    calc (r.run stamp t).summary
        = .ok (b.summarize r.root (Pattern.described r.ignore)) := summary_of_plan hmap hb stamp
      _ = .ok ((b.summarize r.root []).without
            fun v => v.isIgnored (Pattern.described r.ignore)) := by
          rw [Batch.summarize_eq_without]
      _ = _ := by
          rw [summary_of_plan hplan hb, hnil]
          rfl

/-- **Filtering and counting agree.** With patterns that can be read, a run ends as it does
without patterns, less the violations that a pattern matches. A run that has a plan sums up its
files: each is analyzed, or kept from an earlier run, or left out, the units have their reports
without what the patterns match, and the counts are those of the units and of the violations
that are left. -/
theorem Kept.summary_run_tallies {T : Set String} {t : FileTree} (h : Kept T t) (r : Request)
    (stamp : Stamp) :
    ((∀ text ∈ r.ignore, ∃ p, Pattern.parse text = .ok p) →
      (r.run stamp t).summary =
        (Request.run stamp t { r with ignore := [] }).summary.map
          (·.without fun v => v.isIgnored (Pattern.described r.ignore)) ∧
      ∀ v : Violation, v.isIgnored (Pattern.described r.ignore) ↔ v.Matched r.ignore) ∧
    ∀ p, r.plan t = .ok p → ∃ (s : Summary) (analysis : Path → Option Examined),
      (r.run stamp t).summary = .ok s ∧
      (∀ f ∈ p.files, Analysis (if r.useCache then T else ∅) t p.rules f (analysis f)) ∧
      s.units = (p.files.filterMap analysis).map (·.report.without p.patterns) ∧
      s.Tallies (p.files.filterMap analysis) := by
  refine ⟨fun hpatterns => ⟨Request.summary_run_without hpatterns stamp t,
    fun v => Violation.isIgnored_described⟩, fun p hplan => ?_⟩
  obtain ⟨b, analysis, hb, hanalysis, hreports⟩ := h.exists_analyses hplan
  refine ⟨_, analysis, Request.summary_of_plan hplan hb stamp, hanalysis, ?_, ?_⟩
  · rw [Batch.summarize, hreports, List.map_map]
    rfl
  · have hexamined : ∀ e ∈ p.files.filterMap analysis,
        ∃ f text, examine p.rules f text = .ok e := by
      intro e he
      obtain ⟨f, hf, hfe⟩ := List.mem_filterMap.1 he
      exact ⟨f, Analysis.exists_examine (hfe ▸ hanalysis f hf)⟩
    exact Batch.tallies_summarize hreports hexamined _ _

namespace Sample

/-- The same request, with a pattern. -/
def filtered : Request := { request with ignore := ["^d$"] }

/-- The property that the pattern matches. -/
def weakViolation : Violation :=
  .ofProperty "b.m" "B" ⟨"d", false, .assign, none, none, true, none⟩

lemma exists_summary_weak : ∃ s,
    (request.run ⟨0, "1"⟩ (tree weakText)).summary = .ok s ∧ s.violations = [weakViolation] := by
  have hviolations : (request.run ⟨0, "1"⟩ (tree weakText)).summary.toOption.map (·.violations) =
      some [weakViolation] := by
    decide +kernel
  obtain ⟨s, hs, heq⟩ := Option.map_eq_some_iff.1 hviolations
  exact ⟨s, eq_ok_of_toOption hs, heq⟩

end Sample

open Sample in
theorem Kept.summary_run_tallies_filtered :
    Kept ∅ (tree weakText) ∧ (∀ text ∈ filtered.ignore, ∃ p, Pattern.parse text = .ok p) ∧
      ∃ s s', (request.run ⟨0, "1"⟩ (tree weakText)).summary = .ok s ∧
        (filtered.run ⟨0, "1"⟩ (tree weakText)).summary = .ok s' ∧
        s.violations = [weakViolation] ∧ weakViolation.Matched filtered.ignore ∧
        s'.violations = [] ∧
        s'.stats = { s.stats with violations := 0, unused := 0, possiblyUsed := 0 } ∧
        ∃ p es, filtered.plan (tree weakText) = .ok p ∧ p.files = [dump] ∧ s'.Tallies es := by
  have hkept : Kept ∅ (tree weakText) := (history_tree weakText).kept
  have hpatterns : ∀ text ∈ filtered.ignore, ∃ p, Pattern.parse text = .ok p := by
    have hok : (Pattern.parse "^d$").isOk := by decide +kernel
    intro text htext
    obtain rfl := List.mem_singleton.1 htext
    rcases hp : Pattern.parse "^d$" with e | p
    · rw [hp] at hok
      cases hok
    · exact ⟨p, rfl⟩
  have hfiles : (filtered.plan (tree weakText)).toOption.map (·.files) = some [dump] := by
    decide +kernel
  obtain ⟨p, hp, hpfiles⟩ := Option.map_eq_some_iff.1 hfiles
  obtain ⟨hwithout, hcounts⟩ := Kept.summary_run_tallies hkept filtered ⟨0, "1"⟩
  obtain ⟨hfilter, hmatched⟩ := hwithout hpatterns
  obtain ⟨s', analysis, hs', -, -, htallies⟩ := hcounts p (eq_ok_of_toOption hp)
  obtain ⟨s, hs, hviolations⟩ := exists_summary_weak
  have hignored : weakViolation.isIgnored (Pattern.described filtered.ignore) := by decide +kernel
  obtain rfl : s' = s.without fun v => v.isIgnored (Pattern.described filtered.ignore) :=
    Except.ok.inj (hs'.symm.trans (hfilter.trans (congrArg (Except.map _) hs)))
  refine ⟨hkept, hpatterns, s, _, hs, hs', hviolations, (hmatched _).1 hignored, ?_, ?_, p, _,
    eq_ok_of_toOption hp, hpfiles, htallies⟩
  · simp [Summary.without, hviolations, hignored]
  · simp [Summary.without, hviolations, hignored]

end MethodAudit
