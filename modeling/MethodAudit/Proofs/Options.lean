import MethodAudit.CommandLine
import MethodAudit.Proofs.Accounting
import MethodAudit.Proofs.Transparency

/-!
How a run with given options ends.

What is refused can be seen from the settings, the names of the rules, the patterns and the path;
what is found can be seen from the dumps one by one. These decide the exit code.
-/

namespace MethodAudit

open FileTree

/-! ### The settings of a path -/

/-- The folder that a path stands for: itself, or the one it is in if it is a file. -/
def FileTree.home? (t : FileTree) (root : Path) : Option (List String) :=
  match t.locate root with
  | .error _ => none
  | .ok names =>
    match t.kindAt names with
    | some .folder => some names
    | _ => some names.dropLast

/-- The settings in the folder of a path, if there are any; `none` if what is there cannot be
read as settings. -/
def FileTree.settings? (t : FileTree) (root : Path) : Option (Option Settings) :=
  match (t.home? root).bind fun ns => t.kindAt (ns ++ [Settings.fileName]) with
  | none => some none
  | some .folder => none
  | some (.file content) => (String.fromUTF8? content).bind fun text =>
    (Settings.parse? text).map some

namespace FileTree

variable {t : FileTree} {root : Path}

lemma exists_home_of_exists (h : t.exists? root) : ∃ ns, t.home? root = some ns := by
  obtain ⟨names, hnames⟩ := exists?_iff.1 h
  rw [home?, hnames]
  dsimp only
  split <;> exact ⟨_, rfl⟩

lemma exists_dumps_iff {excluded : List String} :
    (∃ files, t.dumps? root excluded = some files) ↔ t.exists? root := by
  rw [dumps?, exists?]
  rcases t.get? root with _ | e
  · simp
  · cases e <;> simp

end FileTree

namespace Settings

lemma isName_fileName : IsName fileName := ⟨by decide, by decide, by decide, by decide⟩

variable {t : FileTree} {root : Path} {ns : List String}

/-- The settings are looked for in the folder of the path. -/
lemma exists_path_eq_join (h : t.home? root = some ns) :
    ∃ q : Path, path t root = q.join fileName ∧ t.reach q = .ok ns ∧
      t.kindAt ns = some .folder := by
  rw [home?] at h
  split at h
  · exact nomatch h
  next names hlocate =>
  split at h
  · next hfolder =>
    obtain rfl := Option.some.inj h
    have hreach := reach_of_locate hlocate
    refine ⟨root, ?_, hreach, hfolder⟩
    rw [path, if_neg (not_isFile_of_reach hreach hfolder)]
  · next hkind =>
    obtain rfl := Option.some.inj h
    obtain ⟨content, hfile⟩ : ∃ content, t.kindAt names = some (.file content) := by
      obtain ⟨k, hk⟩ := Option.isSome_iff_exists.1 (isSome_of_follow (reach_of_locate hlocate))
      cases k with
      | folder => exact absurd hk hkind
      | file content => exact ⟨content, hk⟩
    obtain ⟨q, hq, hreach, hfolder⟩ := exists_parent_of_file hlocate hfile
    refine ⟨q, ?_, hreach, hfolder⟩
    rw [path, if_pos (isFile_iff.2 ⟨content, readBytes_eq_ok.2 ⟨_, hlocate, hfile⟩⟩), hq]
    rfl

/-- Loading gives the settings in the folder of the path. -/
lemma toOption_load (h : t.home? root = some ns) :
    (load t root).toOption = t.settings? root := by
  obtain ⟨q, hpath, hreach, hfolder⟩ := exists_path_eq_join h
  simp only [load, settings?, h, Option.bind_some, hpath]
  rcases hkind : t.kindAt (ns ++ [fileName]) with _ | k
  · have hnone : ¬t.exists? (q.join fileName) := by
      rw [exists?_iff]
      rintro ⟨ms, hms⟩
      obtain ⟨ns', hns', -, rfl⟩ := exists_reach_of_locate_join isName_fileName hms
      obtain rfl := Except.ok.inj (hreach.symm.trans hns')
      have hsome := isSome_of_follow (reach_of_locate hms)
      rw [hkind] at hsome
      exact nomatch hsome
    simp [hnone, Except.toOption]
  · have hlocate : t.locate (q.join fileName) = .ok (ns ++ [fileName]) :=
      locate_join_of_reach hreach isName_fileName hfolder (by rw [hkind]; rfl)
    have hexists : t.exists? (q.join fileName) := exists?_iff.2 ⟨_, hlocate⟩
    cases k with
    | folder =>
      obtain ⟨e, he⟩ := exists_readText_eq_error hlocate hkind
      simp [hexists, he, Except.toOption]
    | file content =>
      have hread := readBytes_eq_ok.2 ⟨_, hlocate, hkind⟩
      simp only [hexists, readText, hread, bind, Except.bind]
      rcases String.fromUTF8? content with _ | text
      · simp [Except.toOption]
      · rcases hparse : parse? text with _ | s <;> simp [hparse, Except.toOption]

end Settings

/-! ### What the exit code says -/

/-- Some of the patterns that the texts describe matches the selector of the violation or its
place. -/
def Violation.Matched (texts : List String) (v : Violation) : Prop :=
  ∃ text ∈ texts, ∃ p, Pattern.parse text = .ok p ∧
    (p.isMatch v.location.method.selector ∨ p.isMatch v.location.text)

namespace Options

/-- The settings in the file, if there are any and they can be read. -/
def given (t : FileTree) (o : Options) : Option Settings := (t.settings? ⟨o.path⟩).join

/-- The names of the rules asked for: those given here, or else those in the file. -/
def ruleNames (t : FileTree) (o : Options) : List String :=
  if o.rules = [] then ((o.given t).bind (·.rules)).getD [] else o.rules

/-- The patterns: those in the file and those given here. -/
def patterns (t : FileTree) (o : Options) : List String :=
  ((o.given t).bind (·.ignore)).getD [] ++ o.ignore

/-- The settings cannot be read, a rule or a pattern is none, or nothing is at the path. -/
def Refused (t : FileTree) (o : Options) : Prop :=
  t.settings? ⟨o.path⟩ = none ∨ (∃ name ∈ o.ruleNames t, ∀ r : Rule, r.name ≠ name) ∨
    (∃ text ∈ o.patterns t, ∃ why, Pattern.parse text = .error why) ∨ ¬t.exists? ⟨o.path⟩

/-- Some dump of the path has a violation that no pattern matches. -/
def Finds (t : FileTree) (o : Options) : Prop :=
  ∃ files, t.dumps? ⟨o.path⟩ [] = some files ∧ ∃ p ∈ files, ∃ report,
    judgeFile t (Rule.named (o.ruleNames t)) p = .ok (.analyzed report) ∧
      ∃ v ∈ report.violations, ¬v.Matched (o.patterns t)

/-- A cache that would be used is one that a run wrote, and no two of the texts that were read
then or are there now have one digest. -/
def TrustsCache (t : FileTree) (o : Options) : Prop :=
  ∃ T : Set String,
    Set.InjOn Digest.ofText (T ∪ {text | ∃ files, t.dumps? ⟨o.path⟩ [] = some files ∧
      ∃ p ∈ files, t.readText p = .ok text}) ∧
    ∀ c content, Cache.look t ⟨o.path⟩ (Rule.named (o.ruleNames t)) = .usable c →
      t.readBytes (Cache.path t ⟨o.path⟩) = .ok content → Cache.Genuine T content

/-- The exit code of a run with these options. -/
def exit (stamp : Stamp) (t : FileTree) (o : Options) : UInt32 :=
  (Invocation.execute stamp t (.run o)).exit

end Options

/-! ### Runs -/

lemma Violation.isIgnored_described {texts : List String} {v : Violation} :
    v.isIgnored (Pattern.described texts) ↔ v.Matched texts := by
  simp only [isIgnored, Pattern.described, List.any_eq_true, List.mem_filterMap, Bool.or_eq_true,
    Matched]
  constructor
  · rintro ⟨p, ⟨text, htext, hp⟩, hmatch⟩
    exact ⟨text, htext, p, eq_ok_of_toOption hp, hmatch⟩
  · rintro ⟨text, htext, p, hp, hmatch⟩
    exact ⟨p, ⟨text, htext, by rw [hp]; rfl⟩, hmatch⟩

/-- A summary has violations if some report has one that is not ignored. -/
lemma Batch.hasViolations_summarize {b : Batch} {root : Path} {patterns : List Pattern} :
    (b.summarize root patterns).hasViolations ↔
      ∃ r ∈ b.reports, ∃ v ∈ r.violations, ¬v.isIgnored patterns := by
  simp [Summary.hasViolations, summarize, Report.without]

/-- With a cache that can be trusted or without one, a run sums up what the dumps give. -/
lemma Request.summary_run {t : FileTree} (hwf : t.WellFormed) {r : Request} {p : Plan}
    (hplan : r.plan t = .ok p) {T : Set String} (hsha : Set.InjOn Digest.ofText T)
    (htexts : ∀ f ∈ p.files, ∀ text, t.readText f = .ok text → text ∈ T)
    (hcache : ∀ c content, Cache.look t r.root p.rules = .usable c →
      t.readBytes (Cache.path t r.root) = .ok content → Cache.Genuine T content)
    {b : Batch} (hb : judgeFiles t p.rules p.files = .ok b) (stamp : Stamp) :
    (r.run stamp t).summary = .ok (b.summarize r.root p.patterns) := by
  have hcached : Batch.ofResults (r.cachedResults t p) = .ok b := by
    rw [← hb]
    refine ofResults_examineFiles_congr fun f hf => ?_
    exact outcome_ofFile_eq hsha (fun u => Cache.genuine_of_found hcache)
      (Cache.readText_clear hwf (dumps?_of_plan hplan) hf) (htexts f hf)
  refine summary_of_plan hplan ?_ stamp
  rw [results]
  split_ifs
  · exact hcached
  · exact hb

lemma Request.exists_refusal_of_not_plan {t : FileTree} {r : Request}
    (h : ∀ p, r.plan t ≠ .ok p) (stamp : Stamp) : ∃ e, (r.run stamp t).summary = .error e := by
  rcases hplan : r.plan t with e | p
  · exact ⟨e, by rw [run, hplan]⟩
  · exact absurd hplan (h p)

namespace Options

variable {t : FileTree} {o : Options} {stamp : Stamp}

lemma exit_eq (hlist : o.listRules = false) (hjobs : o.jobs ≠ some 0) :
    o.exit stamp t = match Settings.load t ⟨o.path⟩ with
      | .error _ => 2
      | .ok s => match ((o.request s).run stamp t).summary with
        | .error _ => 2
        | .ok summary => if summary.hasViolations then 1 else 0 := by
  simp only [exit, Invocation.execute, hlist, execute, if_neg hjobs, Bool.false_eq_true, if_false]
  rcases Settings.load t ⟨o.path⟩ with f | s
  · rfl
  · dsimp only
    rcases ((o.request s).run stamp t).summary with refusal | summary <;> rfl

/-- The request that is run asks for the rules and the patterns. -/
lemma request_of_settings {s : Option Settings} (h : t.settings? ⟨o.path⟩ = some s) :
    (o.request s).rules = o.ruleNames t ∧ (o.request s).ignore = o.patterns t := by
  have hgiven : o.given t = s := by rw [given, h]; rfl
  rw [ruleNames, patterns, hgiven, request]
  simp

/-- If the settings can be read and the run still goes ahead, nothing was to be refused. -/
lemma not_refused_of_plan {s : Option Settings} {p : Request.Plan}
    (hload : Settings.load t ⟨o.path⟩ = .ok s) (hplan : (o.request s).plan t = .ok p) :
    ¬o.Refused t := by
  have hdumps := Request.dumps?_of_plan hplan
  have hexists : t.exists? ⟨o.path⟩ := exists_dumps_iff.1 ⟨_, hdumps⟩
  obtain ⟨ns, hns⟩ := exists_home_of_exists hexists
  have hsettings : t.settings? ⟨o.path⟩ = some s := by
    rw [← Settings.toOption_load hns, hload]
    rfl
  obtain ⟨hrules, hignore⟩ := request_of_settings hsettings
  rintro (hbad | ⟨name, hmem, hname⟩ | ⟨text, hmem, why, htext⟩ | hnone)
  · exact nomatch hsettings.symm.trans hbad
  · exact Request.not_plan_of_unknown (hrules ▸ hmem) hname p hplan
  · exact Request.not_plan_of_unreadable (hignore ▸ hmem) htext p hplan
  · exact hnone hexists

lemma exit_of_refused (stamp : Stamp) (hlist : o.listRules = false) (hjobs : o.jobs ≠ some 0)
    (h : o.Refused t) : o.exit stamp t = 2 := by
  rw [exit_eq hlist hjobs]
  rcases hload : Settings.load t ⟨o.path⟩ with f | s
  · rfl
  · obtain ⟨e, he⟩ := Request.exists_refusal_of_not_plan
      (fun p hplan => not_refused_of_plan hload hplan h) stamp
    simp only [he]

/-- What is not refused goes ahead, with the rules and the patterns asked for. -/
lemma exists_plan_of_not_refused (h : ¬o.Refused t) :
    ∃ s files, Settings.load t ⟨o.path⟩ = .ok s ∧ t.dumps? ⟨o.path⟩ [] = some files ∧
      (o.request s).plan t =
        .ok ⟨Rule.named (o.ruleNames t), Pattern.described (o.patterns t), files⟩ := by
  simp only [Refused, not_or, not_exists, not_and, not_forall, not_not] at h
  obtain ⟨hsettings, hnames, hpatterns, hexists⟩ := h
  obtain ⟨ns, hns⟩ := exists_home_of_exists hexists
  obtain ⟨s, hs⟩ := Option.ne_none_iff_exists'.1 hsettings
  obtain ⟨hrules, hignore⟩ := request_of_settings hs
  obtain ⟨files, hfiles⟩ := exists_dumps_iff.2 hexists
  have hreadable : ∀ text ∈ o.patterns t, ∃ p, Pattern.parse text = .ok p := by
    intro text htext
    rcases hparse : Pattern.parse text with why | p
    · exact absurd hparse (hpatterns text htext why)
    · exact ⟨p, rfl⟩
  refine ⟨s, files, eq_ok_of_toOption (by rw [Settings.toOption_load hns, hs]), hfiles, ?_⟩
  rw [← hrules, ← hignore]
  exact Request.plan_of_known (hrules ▸ hnames) (hignore ▸ hreadable) hfiles

/-- The summary of the dumps has violations if something is found. -/
lemma hasViolations_iff_finds {files : List Path} {b : Batch}
    (hfiles : t.dumps? ⟨o.path⟩ [] = some files)
    (hb : judgeFiles t (Rule.named (o.ruleNames t)) files = .ok b) :
    (b.summarize ⟨o.path⟩ (Pattern.described (o.patterns t))).hasViolations ↔ o.Finds t := by
  simp only [Batch.hasViolations_summarize, Batch.mem_reports_iff hb,
    Violation.isIgnored_described, Finds, hfiles, Option.some.injEq, exists_eq_left']
  constructor
  · rintro ⟨r, ⟨p, hp, hr⟩, hv⟩
    exact ⟨p, hp, r, hr, hv⟩
  · rintro ⟨p, hp, r, hr, hv⟩
    exact ⟨r, ⟨p, hp, hr⟩, hv⟩

lemma exit_of_not_refused (stamp : Stamp) (hwf : t.WellFormed) (hlist : o.listRules = false)
    (hjobs : o.jobs ≠ some 0) (htrust : o.TrustsCache t) (h : ¬o.Refused t) :
    (o.Finds t → o.exit stamp t = 1) ∧ (¬o.Finds t → o.exit stamp t = 0) := by
  obtain ⟨s, files, hload, hfiles, hplan⟩ := exists_plan_of_not_refused h
  obtain ⟨T, hsha, hcache⟩ := htrust
  obtain ⟨b, hb⟩ := exists_judgeFiles t (Rule.named (o.ruleNames t)) files
  have hsummary := Request.summary_run hwf hplan hsha
    (fun f hf text htext => .inr ⟨files, hfiles, f, hf, htext⟩)
    (fun c content hlook hread => (hcache c content hlook hread).mono Set.subset_union_left)
    hb stamp
  have hexit : o.exit stamp t =
      if (b.summarize ⟨o.path⟩ (Pattern.described (o.patterns t))).hasViolations then 1 else 0 := by
    rw [exit_eq hlist hjobs, hload]
    simp only [hsummary]
    rfl
  have hfinds := hasViolations_iff_finds hfiles hb
  rw [hexit]
  exact ⟨fun h => if_pos (hfinds.2 h), fun h => if_neg (mt hfinds.1 h)⟩

/-- There are three ways to end. -/
lemma exit_cases (stamp : Stamp) (hwf : t.WellFormed) (hlist : o.listRules = false)
    (hjobs : o.jobs ≠ some 0) (htrust : o.TrustsCache t) :
    (o.Refused t ∧ o.exit stamp t = 2) ∨ (¬o.Refused t ∧ o.Finds t ∧ o.exit stamp t = 1) ∨
      (¬o.Refused t ∧ ¬o.Finds t ∧ o.exit stamp t = 0) := by
  by_cases h : o.Refused t
  · exact .inl ⟨h, exit_of_refused stamp hlist hjobs h⟩
  obtain ⟨hone, hzero⟩ := exit_of_not_refused stamp hwf hlist hjobs htrust h
  by_cases hfinds : o.Finds t
  · exact .inr (.inl ⟨h, hfinds, hone hfinds⟩)
  · exact .inr (.inr ⟨h, hfinds, hzero hfinds⟩)

end Options

end MethodAudit
