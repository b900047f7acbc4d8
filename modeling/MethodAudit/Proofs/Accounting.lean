import Mathlib.Tactic.Choose
import MethodAudit.Batch

/-!
No dump ends an analysis, and none gets lost in it.

Whatever a file holds, what can go wrong with it is about this file alone and leaves it out. So
the files have their outcomes one by one, and a batch has the outcomes of its files in their
order, the reports and the files left out apart.
-/

namespace MethodAudit

/-- What can go wrong with a dump: its file cannot be read, its text is not a dump, or the dump
defines something twice. -/
inductive Failure.OfDump (p : Path) : Failure → Prop
  | io (problem : IoProblem) : OfDump p (.io p problem)
  | parse (fault : Json.Fault) : OfDump p (.parse p fault)
  | model (d : Duplicate) : OfDump p (.model p d.message)

lemma Failure.OfDump.isRecoverable {p : Path} {f : Failure} (h : f.OfDump p) :
    f.isRecoverable = true := by
  cases h <;> rfl

/-- The outcome is a report, or the file is left out for a reason of its own. -/
def Outcome.Concerns (p : Path) : Outcome → Prop
  | .analyzed _ => True
  | .skipped s => ∃ f : Failure, f.OfDump p ∧ s = ⟨p.text, f.message⟩

/-- The batch has each of the files exactly once, in their order: with its report, or among
those left out. -/
structure Batch.Accounts (b : Batch) (files : List Path) (outcome : Path → Outcome) : Prop where
  reports : b.reports = files.filterMap fun p => (outcome p).report?
  skipped : b.skipped = files.filterMap fun p => (outcome p).skipped?
  length_add : b.reports.length + b.skipped.length = files.length

/-! ### One file -/

lemma SourceUnit.load_of_parse {text : String} {d : Dump} (h : Dump.parse text = .ok d) (p : Path) :
    load p text = d.resolve.mapError fun d => .model p d.message := by
  rw [load, h]
  rfl

/-- Any text at all is loaded, or fails in a way that is about its dump. -/
lemma SourceUnit.load_cases (p : Path) (text : String) :
    (∃ u, load p text = .ok u) ∨ ∃ f, load p text = .error f ∧ f.OfDump p := by
  rcases hparse : Dump.parse text with fault | d
  · refine .inr ⟨.parse p fault, ?_, .parse fault⟩
    rw [load, hparse]
    rfl
  · rcases hresolve : d.resolve with duplicate | u
    · refine .inr ⟨.model p duplicate.message, ?_, .model duplicate⟩
      rw [load_of_parse hparse, hresolve]
      rfl
    · exact .inl ⟨u, by rw [load_of_parse hparse, hresolve]; rfl⟩

lemma examine_cases (rules : List Rule) (p : Path) (text : String) :
    (∃ e, examine rules p text = .ok e) ∨ ∃ f, examine rules p text = .error f ∧ f.OfDump p := by
  rcases SourceUnit.load_cases p text with ⟨u, hu⟩ | ⟨f, hf, hdump⟩
  · exact .inl ⟨_, by rw [examine, hu]; rfl⟩
  · exact .inr ⟨f, by rw [examine, hf]; rfl, hdump⟩

/-- A text that can be analyzed is that of a dump that resolves. -/
lemma exists_resolve_of_examine {rules : List Rule} {p : Path} {text : String} {e : Examined}
    (h : examine rules p text = .ok e) :
    ∃ d u, Dump.parse text = .ok d ∧ d.resolve = .ok u := by
  rcases hparse : Dump.parse text with fault | d
  · rw [examine, SourceUnit.load, hparse] at h
    exact nomatch h
  rcases hresolve : d.resolve with duplicate | u
  · rw [examine, SourceUnit.load_of_parse hparse, hresolve] at h
    exact nomatch h
  · exact ⟨d, u, rfl, hresolve⟩

lemma Outcome.settle_of_ofDump {p : Path} {f : Failure} (h : f.OfDump p) :
    settle p (.error f) = .ok (.skipped ⟨p.text, f.message⟩) := by
  rw [settle, if_pos h.isRecoverable]

/-- Every file has an outcome, with any cache or none. -/
lemma FileResult.exists_outcome (t : FileTree) (rules : List Rule) (old : Option Cache) (p : Path) :
    ∃ o, (ofFile t rules old p).outcome p = .ok o ∧ o.Concerns p := by
  have hexamined (text : String) :
      ∃ o, (examined text (examine rules p text)).outcome p = .ok o ∧ o.Concerns p := by
    rcases examine_cases rules p text with ⟨e, he⟩ | ⟨f, hf, hdump⟩
    · exact ⟨.analyzed e.report, by rw [outcome, he]; rfl, trivial⟩
    · refine ⟨.skipped ⟨p.text, f.message⟩, ?_, f, hdump, rfl⟩
      rw [outcome, hf]
      exact Outcome.settle_of_ofDump hdump
  rcases hread : t.readText p with problem | text
  · have hdump : (Failure.io p problem).OfDump p := .io problem
    refine ⟨.skipped ⟨p.text, (Failure.io p problem).message⟩, ?_, _, hdump, rfl⟩
    rw [ofFile, hread]
    exact Outcome.settle_of_ofDump hdump
  · rcases hold : old.bind (·.find? p.text) with _ | u
    · simpa only [ofFile, hread, hold] using hexamined text
    · by_cases hdigest : u.digest = Digest.ofText text
      · refine ⟨.analyzed u.report, ?_, trivial⟩
        simp only [ofFile, hread, hold, if_pos hdigest, outcome]
      · simpa only [ofFile, hread, hold, if_neg hdigest] using hexamined text

lemma judge_eq_analyzed {rules : List Rule} {p : Path} {text : String} {r : Report} :
    judge rules p text = .ok (.analyzed r) ↔ ∃ e, examine rules p text = .ok e ∧ e.report = r := by
  rw [judge]
  rcases examine rules p text with f | e
  · simp only [Except.map, Outcome.settle]
    split <;> simp
  · simp [Except.map, Outcome.settle]

lemma judgeFile_congr {t t' : FileTree} {rules : List Rule} {p : Path}
    (h : t'.readText p = t.readText p) : judgeFile t' rules p = judgeFile t rules p := by
  rw [judgeFile, judgeFile, FileResult.ofFile, FileResult.ofFile, h]

/-- A file has a report exactly if its text has one. -/
lemma judgeFile_eq_analyzed {t : FileTree} {rules : List Rule} {p : Path} {r : Report} :
    judgeFile t rules p = .ok (.analyzed r) ↔
      ∃ text, t.readText p = .ok text ∧ judge rules p text = .ok (.analyzed r) := by
  rw [judgeFile, FileResult.ofFile]
  rcases t.readText p with problem | text
  · simp [FileResult.outcome, Outcome.settle_of_ofDump (.io problem)]
  · simp [FileResult.outcome, judge]

/-! ### Many files -/

lemma Outcome.length_report?_add_length_skipped? (os : List Outcome) :
    (os.filterMap report?).length + (os.filterMap skipped?).length = os.length := by
  induction os with
  | nil => rfl
  | cons o os ih =>
    cases o with
    | analyzed report =>
      simp only [List.filterMap_cons, report?, skipped?, List.length_cons]
      omega
    | skipped s =>
      simp only [List.filterMap_cons, report?, skipped?, List.length_cons]
      omega

lemma Batch.accounts_ofOutcomes (files : List Path) (outcome : Path → Outcome) :
    (Batch.ofOutcomes (files.map outcome)).Accounts files outcome where
  reports := List.filterMap_map
  skipped := List.filterMap_map
  length_add := by
    simpa only [ofOutcomes, List.length_map] using
      Outcome.length_report?_add_length_skipped? (files.map outcome)

/-- Files that all have an outcome make up a batch. -/
lemma Batch.ofResults_examineFiles {t : FileTree} {rules : List Rule} {old : Option Cache}
    {outcome : Path → Outcome}
    (h : ∀ p, (FileResult.ofFile t rules old p).outcome p = .ok (outcome p)) (files : List Path) :
    Batch.ofResults (examineFiles t rules old files) = .ok (.ofOutcomes (files.map outcome)) := by
  have houtcomes : (examineFiles t rules old files).mapM (fun x => x.2.outcome x.1) =
      Except.ok (files.map outcome) := by
    simp only [examineFiles, List.mapM_map, Function.comp_def, h]
    exact List.mapM_pure
  exact congrArg (· >>= fun os => pure (ofOutcomes os)) houtcomes

lemma Batch.exists_ofResults (t : FileTree) (rules : List Rule) (old : Option Cache)
    (files : List Path) : ∃ b, Batch.ofResults (examineFiles t rules old files) = .ok b := by
  choose outcome houtcome _ using FileResult.exists_outcome t rules old
  exact ⟨_, ofResults_examineFiles houtcome files⟩

lemma exists_judgeFiles (t : FileTree) (rules : List Rule) (files : List Path) :
    ∃ b, judgeFiles t rules files = .ok b :=
  Batch.exists_ofResults t rules none files

/-- The reports of a batch are those of its files. -/
lemma Batch.mem_reports_iff {t : FileTree} {rules : List Rule} {old : Option Cache}
    {files : List Path} {b : Batch}
    (h : Batch.ofResults (examineFiles t rules old files) = .ok b) {r : Report} :
    r ∈ b.reports ↔
      ∃ p ∈ files, (FileResult.ofFile t rules old p).outcome p = .ok (.analyzed r) := by
  choose outcome houtcome _ using FileResult.exists_outcome t rules old
  rw [ofResults_examineFiles houtcome] at h
  rw [← Except.ok.inj h, (accounts_ofOutcomes files outcome).reports, List.mem_filterMap]
  refine exists_congr fun p => and_congr_right fun _ => ?_
  rw [houtcome, Except.ok.injEq]
  cases outcome p <;> simp [Outcome.report?]

/-- A cache that cannot be saved does not matter. -/
lemma refresh_of_ofResults {t : FileTree} {rules : List Rule} {old : Option Cache}
    {files : List Path} {b : Batch}
    (h : Batch.ofResults (examineFiles t rules old files) = .ok b) (stamp : Stamp) (root : Path) :
    ∃ pass, refresh stamp t root rules old files = .ok pass ∧ pass.batch = b := by
  simp only [refresh, h]
  exact ⟨_, rfl, rfl⟩

/-- **Accounting**: a text gives a report or a failure that is about its dump and recoverable.
Each file has an outcome that does not depend on the other files, and an analysis of files,
without a cache or with any, gives a batch with the outcomes of exactly these files. -/
theorem judgeFiles_refresh_account (t : FileTree) (rules : List Rule) :
    (∀ p text, (∃ e, examine rules p text = .ok e) ∨
      ∃ f, examine rules p text = .error f ∧ f.OfDump p ∧ f.isRecoverable = true) ∧
    (∃ outcome : Path → Outcome,
      (∀ p, judgeFile t rules p = .ok (outcome p) ∧ (outcome p).Concerns p) ∧
      ∀ files, ∃ b, judgeFiles t rules files = .ok b ∧ b.Accounts files outcome) ∧
    ∀ old : Option Cache, ∃ outcome : Path → Outcome,
      (∀ p, (FileResult.ofFile t rules old p).outcome p = .ok (outcome p) ∧
        (outcome p).Concerns p) ∧
      ∀ stamp root files, ∃ pass, refresh stamp t root rules old files = .ok pass ∧
        pass.batch.Accounts files outcome := by
  refine ⟨fun p text => ?_, ?_, fun old => ?_⟩
  · rcases examine_cases rules p text with hok | ⟨f, hf, hdump⟩
    · exact .inl hok
    · exact .inr ⟨f, hf, hdump, hdump.isRecoverable⟩
  · choose outcome houtcome hconcerns using FileResult.exists_outcome t rules none
    refine ⟨outcome, fun p => ⟨houtcome p, hconcerns p⟩, fun files => ?_⟩
    exact ⟨_, Batch.ofResults_examineFiles houtcome files, Batch.accounts_ofOutcomes files outcome⟩
  · choose outcome houtcome hconcerns using FileResult.exists_outcome t rules old
    refine ⟨outcome, fun p => ⟨houtcome p, hconcerns p⟩, fun stamp root files => ?_⟩
    obtain ⟨pass, hpass, hbatch⟩ :=
      refresh_of_ofResults (Batch.ofResults_examineFiles houtcome files) stamp root
    exact ⟨pass, hpass, hbatch ▸ Batch.accounts_ofOutcomes files outcome⟩

end MethodAudit
