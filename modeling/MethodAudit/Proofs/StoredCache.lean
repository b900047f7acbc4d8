import MethodAudit.Proofs.Accounting
import MethodAudit.Proofs.Transparency

/-!
What an analysis leaves in the cache.

A cache that is saved holds the listed files that could be analyzed, each with the digest of
its text and the report on it. Units that were reused are as good as new ones, so nothing of
what was done before shows in the cache.
-/

namespace MethodAudit

open FileTree

/-- An analysis of some files that renews the cache of a root, with the cache that is there or
without it. -/
structure Renewal where
  root : Path
  rules : List Rule
  files : List Path
  reuse : Bool

namespace Renewal

/-- The cache that is used, and the tree in which the files are read. -/
def start (t : FileTree) (n : Renewal) : Option Cache × FileTree :=
  if n.reuse then Cache.load t n.root n.rules else (none, t)

def run (stamp : Stamp) (t : FileTree) (n : Renewal) : Except Failure Pass :=
  refresh stamp (n.start t).2 n.root n.rules (n.start t).1 n.files

/-- The texts of the files. -/
def texts (t : FileTree) (n : Renewal) : Set String :=
  {text | ∃ p ∈ n.files, (n.start t).2.readText p = .ok text}

/-- After a history, the cache is renewed and saved, and it is not too large. The draft has a plain
name, no two of the texts read have one digest, and the counts of the reports are of 64 bits. -/
structure Saves (stamp : Stamp) (t : FileTree) (T : Set String) (n : Renewal) (pass : Pass) :
    Prop where
  history : History t T
  injOn : Set.InjOn Digest.ofText (T ∪ n.texts t)
  run : n.run stamp t = .ok pass
  saved : pass.unsaved = none
  size : pass.oversized = false
  scratch : '/' ∉ stamp.scratch.toList
  fits : ∀ r ∈ pass.batch.reports, r.Fits

end Renewal

/-- The unit holds the digest of the text that a file has now and the report on this text. -/
def CachedUnit.Current (t : FileTree) (rules : List Rule) (key : String) (u : CachedUnit) : Prop :=
  ∃ text, t.readText ⟨key⟩ = .ok text ∧ u.digest = Digest.ofText text ∧
    judge rules ⟨key⟩ text = .ok (.analyzed u.report)

/-! ### Entries -/

lemma CachedUnit.Current.unique {t : FileTree} {rules : List Rule} {key : String}
    {u u' : CachedUnit} (h : u.Current t rules key) (h' : u'.Current t rules key) : u = u' := by
  obtain ⟨text, htext, hdigest, hjudge⟩ := h
  obtain ⟨text', htext', hdigest', hjudge'⟩ := h'
  obtain rfl : text = text' := Except.ok.inj (htext.symm.trans htext')
  obtain ⟨digest, report⟩ := u
  obtain ⟨digest', report'⟩ := u'
  obtain rfl : digest = digest' := hdigest.trans hdigest'.symm
  obtain rfl : report = report' := Outcome.analyzed.inj (Except.ok.inj (hjudge.symm.trans hjudge'))
  rfl

lemma CachedUnit.Current.congr {t t' : FileTree} {rules : List Rule} {key : String}
    {u : CachedUnit} (hread : t'.readText ⟨key⟩ = t.readText ⟨key⟩) :
    u.Current t' rules key ↔ u.Current t rules key := by
  rw [Current, Current, hread]

namespace FileResult

/-- An entry goes with an outcome that is a report. -/
lemma outcome_of_entry {p : Path} {r : FileResult} {x : String × CachedUnit}
    (h : kept? p r = some x) : x.1 = p.text ∧ r.outcome p = .ok (.analyzed x.2.report) := by
  rcases r with problem | u | ⟨text, f | e⟩
  · exact nomatch h
  · obtain rfl := Option.some.inj h
    exact ⟨rfl, rfl⟩
  · exact nomatch h
  · obtain rfl := Option.some.inj h
    exact ⟨rfl, rfl⟩

lemma exists_kept?_of_outcome {p : Path} {r : FileResult} {report : Report}
    (h : r.outcome p = .ok (.analyzed report)) : ∃ x, kept? p r = some x := by
  rcases r with problem | u | ⟨text, f | e⟩
  · rw [outcome, Outcome.settle] at h
    split at h <;> cases h
  · exact ⟨_, rfl⟩
  · simp only [outcome, Except.map, Outcome.settle] at h
    split at h <;> cases h
  · exact ⟨_, rfl⟩

lemma kept?_ofFile_none {t : FileTree} {rules : List Rule} {p : Path} {x : String × CachedUnit} :
    kept? p (ofFile t rules none p) = some x ↔ x.1 = p.text ∧ x.2.Current t rules p.text := by
  have hp : Path.mk p.text = p := rfl
  rw [ofFile, CachedUnit.Current, hp]
  rcases hread : t.readText p with problem | text
  · simp [kept?]
  simp only [Option.bind_none, Except.ok.injEq, exists_eq_left', judge_eq_analyzed]
  rcases hexamine : examine rules p text with f | e
  · simp [kept?]
  · obtain ⟨key, digest, report⟩ := x
    simp only [kept?, Option.some.injEq, Prod.mk.injEq, CachedUnit.mk.injEq, Except.ok.injEq,
      exists_eq_left']
    exact and_congr eq_comm (and_congr eq_comm Iff.rfl)

/-- The entry of a file is the current unit for it, reused or not. -/
lemma kept?_ofFile_iff {T : Set String} {t : FileTree} {rules : List Rule} {old : Option Cache}
    {p : Path} (hsha : Set.InjOn Digest.ofText T)
    (hold : ∀ u, old.bind (·.find? p.text) = some u → u.Genuine T rules p.text)
    (htexts : ∀ text, t.readText p = .ok text → text ∈ T) {x : String × CachedUnit} :
    kept? p (ofFile t rules old p) = some x ↔ x.1 = p.text ∧ x.2.Current t rules p.text := by
  rw [← kept?_ofFile_none]
  rcases ofFile_cases hsha hold htexts with heq | ⟨text, e, htext, hexamine, heq⟩
  · rw [heq]
  · rw [heq, ofFile, htext]
    simp only [kept?, Option.bind_none, hexamine]

end FileResult

/-! ### The cache that is saved -/

/-- What the next cache keeps of some results. -/
def FileResult.entries (rs : List (Path × FileResult)) : List (String × CachedUnit) :=
  rs.filterMap fun x => FileResult.kept? x.1 x.2

lemma Cache.find?_ofResults (rules : List Rule) (now : UInt64) (rs : List (Path × FileResult))
    (key : String) :
    (ofResults rules now rs).find? key = (FileResult.entries rs).reverse.lookup key :=
  lookup_ofEntries (FileResult.entries rs) key

/-- The keys are those of the files that came out with a report. -/
lemma Cache.isSome_find?_ofResults (rules : List Rule) (now : UInt64)
    (rs : List (Path × FileResult)) (key : String) :
    ((ofResults rules now rs).find? key).isSome ↔
      ∃ r report, (⟨key⟩, r) ∈ rs ∧ r.outcome ⟨key⟩ = .ok (.analyzed report) := by
  rw [find?_ofResults, Option.isSome_iff_exists]
  constructor
  · rintro ⟨u, hu⟩
    obtain ⟨⟨p, r⟩, hmem, hentry⟩ := List.mem_filterMap.1 (List.mem_reverse.1 (mem_of_lookup hu))
    obtain ⟨hkey, houtcome⟩ := FileResult.outcome_of_entry hentry
    obtain rfl : key = p.text := hkey
    exact ⟨r, u.report, hmem, houtcome⟩
  · rintro ⟨r, report, hmem, houtcome⟩
    obtain ⟨⟨k, u⟩, hentry⟩ := FileResult.exists_kept?_of_outcome houtcome
    obtain rfl : k = key := (FileResult.outcome_of_entry hentry).1
    have hentries : (k, u) ∈ FileResult.entries rs := List.mem_filterMap.2 ⟨_, hmem, hentry⟩
    exact exists_lookup_of_mem (List.mem_reverse.2 hentries)

lemma refresh_eq_ok {stamp : Stamp} {t : FileTree} {root : Path} {rules : List Rule}
    {old : Option Cache} {files : List Path} {pass : Pass}
    (h : refresh stamp t root rules old files = .ok pass) :
    pass.results = examineFiles t rules old files ∧ Batch.ofResults pass.results = .ok pass.batch ∧
      Cache.save t root stamp.scratch (.ofResults rules stamp.time pass.results) =
        (pass.tree, pass.unsaved.elim (.ok ()) .error) ∧
      pass.oversized =
        (pass.unsaved.isNone && (Cache.ofResults rules stamp.time pass.results).isOversized) := by
  rw [refresh] at h
  rcases hbatch : Batch.ofResults (examineFiles t rules old files) with f | b
  · simp only [hbatch, bind, Except.bind] at h
    cases h
  · simp only [hbatch, bind, Except.bind, pure, Except.pure] at h
    obtain rfl := Except.ok.inj h
    refine ⟨rfl, hbatch, Prod.ext rfl ?_, rfl⟩
    dsimp only
    split <;> assumption

/-- What is found where the text of a cache stands. -/
lemma Cache.look_of_readText {t : FileTree} {root : Path} {c : Cache}
    (h : t.readText (path t root) = .ok c.text) (hfits : c.Fits)
    (hnodup : (c.units.map Prod.fst).Nodup) (rules : List Rule) :
    look t root rules =
      if c.info.isCompatible rules then .usable c else .incompatible c.info := by
  have hexists : t.exists? (path t root) := by
    obtain ⟨ns, hlocate, -⟩ := exists_file_of_readText h
    exact exists?_iff.2 ⟨_, hlocate⟩
  have hparse := eq_ok_of_toOption (c.settles_parse_text.1 hfits)
  rw [ofEntries_of_nodup hnodup] at hparse
  simp only [look, hexists, h, hparse]
  rfl

lemma CacheInfo.isCompatible_current {rules rules' : List Rule} {now : UInt64} :
    (current rules now).isCompatible rules' ↔ rules' = rules := by
  have hnames : (current rules now).isCompatible rules' ↔
      rules.map Rule.name = rules'.map Rule.name := by
    simp only [isCompatible, current, decide_true, Bool.true_and]
    exact decide_eq_true_iff
  rw [hnames]
  exact ⟨fun h => (Rule.name_injective.list_map h).symm, fun h => by rw [h]⟩

namespace Renewal

variable {stamp : Stamp} {t : FileTree} {T : Set String} {n : Renewal} {pass : Pass}

/-- The units that a renewal starts with are genuine. -/
lemma genuine_start (h : History t T) (n : Renewal) {key : String} {u : CachedUnit}
    (hu : (n.start t).1.bind (·.find? key) = some u) : u.Genuine T n.rules key := by
  rw [start] at hu
  split at hu
  · exact Cache.genuine_of_found (fun _ content _ => h.kept.genuine_path) hu
  · exact nomatch hu

/-- The entries of the results are the current units of the files. -/
lemma Saves.mem_entries (h : n.Saves stamp t T pass) {key : String} {u : CachedUnit} :
    (key, u) ∈ FileResult.entries pass.results ↔
      ⟨key⟩ ∈ n.files ∧ u.Current (n.start t).2 n.rules key := by
  have hentry (p : Path) (hp : p ∈ n.files) {x : String × CachedUnit} :
      FileResult.kept? p (.ofFile (n.start t).2 n.rules (n.start t).1 p) = some x ↔
        x.1 = p.text ∧ x.2.Current (n.start t).2 n.rules p.text :=
    FileResult.kept?_ofFile_iff h.injOn
      (fun u hu => (genuine_start h.history n hu).mono Set.subset_union_left)
      fun text htext => .inr ⟨p, hp, htext⟩
  rw [(refresh_eq_ok h.run).1, FileResult.entries, List.mem_filterMap]
  constructor
  · rintro ⟨⟨p, r⟩, hmem, hx⟩
    obtain ⟨p, hp, heq⟩ := List.mem_map.1 hmem
    obtain ⟨rfl, rfl⟩ := Prod.mk.inj heq
    obtain ⟨rfl, hcurrent⟩ := (hentry p hp).1 hx
    exact ⟨hp, hcurrent⟩
  · rintro ⟨hp, hcurrent⟩
    exact ⟨_, List.mem_map.2 ⟨⟨key⟩, hp, rfl⟩, (hentry ⟨key⟩ hp).2 ⟨rfl, hcurrent⟩⟩

lemma Saves.find?_eq_some_iff (h : n.Saves stamp t T pass) {key : String} {u : CachedUnit} :
    (Cache.ofResults n.rules stamp.time pass.results).find? key = some u ↔
      ⟨key⟩ ∈ n.files ∧ u.Current (n.start t).2 n.rules key := by
  rw [← h.mem_entries, Cache.find?_ofResults]
  constructor
  · intro hfind
    exact List.mem_reverse.1 (mem_of_lookup hfind)
  · intro hmem
    -- some unit is found under the key, and it is as current as this one
    obtain ⟨u', hfind⟩ := exists_lookup_of_mem (List.mem_reverse.2 hmem)
    have hmem' := List.mem_reverse.1 (mem_of_lookup hfind)
    rw [hfind, (h.mem_entries.1 hmem').2.unique (h.mem_entries.1 hmem).2]

lemma Saves.fits_ofResults (h : n.Saves stamp t T pass) :
    (Cache.ofResults n.rules stamp.time pass.results).Fits := by
  intro x hx
  obtain ⟨⟨p, r⟩, hmem, hentry⟩ := List.mem_filterMap.1 (Cache.mem_of_mem_ofEntries hx)
  obtain ⟨hresults, hbatch, -, -⟩ := refresh_eq_ok h.run
  rw [hresults] at hbatch hmem
  obtain ⟨p, hp, heq⟩ := List.mem_map.1 hmem
  obtain ⟨rfl, rfl⟩ := Prod.mk.inj heq
  have houtcome := (FileResult.outcome_of_entry hentry).2
  exact h.fits _ ((Batch.mem_reports_iff hbatch).2 ⟨p, hp, houtcome⟩)

/-- The cache that is left, as it is loaded. -/
lemma Saves.load_eq (h : n.Saves stamp t T pass) (rules : List Rule) :
    (Cache.load pass.tree n.root rules).1 =
      if rules = n.rules then some (.ofResults n.rules stamp.time pass.results) else none := by
  obtain ⟨-, -, hsave, hoversized⟩ := refresh_eq_ok h.run
  rw [h.saved] at hsave
  rw [h.saved, h.size, Option.isNone_none, Bool.true_and] at hoversized
  have hread := Cache.readText_save h.scratch (Bool.eq_false_iff.1 hoversized.symm) hsave
  have hcompatible : (Cache.ofResults n.rules stamp.time pass.results).info.isCompatible rules ↔
      rules = n.rules := CacheInfo.isCompatible_current
  rw [Cache.load, Cache.look_of_readText hread h.fits_ofResults (Cache.nodup_ofEntries _)]
  by_cases hrules : rules = n.rules
  · rw [if_pos (hcompatible.2 hrules), if_pos hrules]
    rfl
  · rw [if_neg (mt hcompatible.1 hrules), if_neg hrules]
    rfl

/-- **The cache does not remember**: after any history, the cache that a renewal has saved is
loaded with the rules of the renewal and with no others. It holds a unit for exactly the files
that were analyzed, and each unit is what the file alone gives. So renewals of the same files
with the same texts leave the same units. -/
theorem Saves.load_renewed (h : n.Saves stamp t T pass) :
    (∃ cache, (Cache.load pass.tree n.root n.rules).1 = some cache ∧
      (cache.units.map Prod.fst).Nodup ∧
      (∀ key, (cache.find? key).isSome ↔ ∃ r report, (⟨key⟩, r) ∈ pass.results ∧
        r.outcome ⟨key⟩ = .ok (.analyzed report)) ∧
      (∀ key u, cache.find? key = some u ↔
        ⟨key⟩ ∈ n.files ∧ u.Current (n.start t).2 n.rules key) ∧
      ∀ stamp' t' T' n' pass', Saves stamp' t' T' n' pass' → n'.rules = n.rules →
        (∀ p, p ∈ n'.files ↔ p ∈ n.files) →
        (∀ p ∈ n.files, (n'.start t').2.readText p = (n.start t).2.readText p) →
        ∃ cache', (Cache.load pass'.tree n'.root n'.rules).1 = some cache' ∧
          ∀ key, cache'.find? key = cache.find? key) ∧
      ∀ rules, rules ≠ n.rules → (Cache.load pass.tree n.root rules).1 = none := by
  refine ⟨⟨.ofResults n.rules stamp.time pass.results, by rw [h.load_eq, if_pos rfl],
    Cache.nodup_ofEntries _, Cache.isSome_find?_ofResults _ _ _, fun key u => h.find?_eq_some_iff,
    fun stamp' t' T' n' pass' h' hrules hfiles hread => ?_⟩,
    fun rules hrules => by rw [h.load_eq, if_neg hrules]⟩
  refine ⟨_, by rw [h'.load_eq, if_pos rfl], fun key => Option.ext fun u => ?_⟩
  rw [h'.find?_eq_some_iff, h.find?_eq_some_iff, hfiles, hrules]
  exact and_congr_right fun hp => CachedUnit.Current.congr (hread _ hp)

/-! ### The same dump after two histories -/

def ofDump (reuse : Bool) : Renewal := ⟨Sample.dump, Rule.all, [Sample.dump], reuse⟩

lemma saves_ofDump {reuse : Bool} {stamp : Stamp} {t : FileTree} {T : Set String} {text : String}
    (h : History t T) (hscratch : '/' ∉ stamp.scratch.toList)
    (hsha : Set.InjOn Digest.ofText (T ∪ {text}))
    (htext : (((ofDump reuse).start t).2.readText Sample.dump).toOption = some text)
    (hrun : ((ofDump reuse).run stamp t).toOption.map (fun pass =>
      (pass.unsaved.isNone, pass.oversized, pass.batch.reports.map fun r =>
        (r.implementations, r.methods))) = some (true, false, [(0, 0)])) :
    ∃ pass, (ofDump reuse).Saves stamp t T pass := by
  rcases hpass : (ofDump reuse).run stamp t with f | pass
  · rw [hpass] at hrun
    exact nomatch hrun
  rw [hpass] at hrun
  obtain ⟨hsaved, hrun⟩ := Prod.mk.inj (Option.some.inj hrun)
  obtain ⟨hsize, hreports⟩ := Prod.mk.inj hrun
  have htexts : (ofDump reuse).texts t ⊆ {text} := by
    rintro s ⟨p, hp, hs⟩
    obtain rfl := List.mem_singleton.1 hp
    rw [hs] at htext
    exact Option.some.inj htext
  refine ⟨pass, h, hsha.mono (Set.union_subset_union_right T htexts), hpass,
    Option.isNone_iff_eq_none.1 hsaved, hsize, hscratch, fun r hr => ?_⟩
  have hcounts : (r.implementations, r.methods) ∈ [(0, 0)] :=
    hreports ▸ List.mem_map.2 ⟨r, hr, rfl⟩
  obtain ⟨himplementations, hmethods⟩ := Prod.mk.inj (List.mem_singleton.1 hcounts)
  exact ⟨by omega, by omega⟩

theorem Saves.load_renewed_rewritten :
    ∃ pass pass' cache cache',
      Saves ⟨1, "2"⟩ Sample.after (∅ ∪ Sample.request.dumpTexts Sample.before) (ofDump false) pass ∧
      Saves ⟨3, "4"⟩ (Sample.tree Sample.newText) ∅ (ofDump true) pass' ∧
      (Cache.load pass.tree Sample.dump Rule.all).1 = some cache ∧
      (Cache.load pass'.tree Sample.dump Rule.all).1 = some cache' ∧
      cache.find? "a.json" = some ⟨Digest.ofText Sample.newText, ⟨"a.json", "b.m", 0, 0, []⟩⟩ ∧
      ∀ key, cache'.find? key = cache.find? key := by
  have htext : (((ofDump false).start Sample.after).2.readText Sample.dump).toOption =
      some Sample.newText := Sample.cached_after.2.2.2
  have htext' : (((ofDump true).start (Sample.tree Sample.newText)).2.readText
      Sample.dump).toOption = some Sample.newText := by decide +kernel
  have hjudge : (judge Rule.all Sample.dump Sample.newText).toOption =
      some (.analyzed ⟨"a.json", "b.m", 0, 0, []⟩) := by decide +kernel
  obtain ⟨pass, h⟩ : ∃ pass, Saves ⟨1, "2"⟩ Sample.after _ (ofDump false) pass :=
    saves_ofDump Sample.history_after (by decide) Sample.injOn_newText htext (by decide +kernel)
  obtain ⟨pass', h'⟩ : ∃ pass, Saves ⟨3, "4"⟩ (Sample.tree Sample.newText) ∅ (ofDump true) pass :=
    saves_ofDump (Sample.history_tree Sample.newText) (by decide) (by simp) htext'
      (by decide +kernel)
  have hread : ∀ p ∈ (ofDump false).files,
      ((ofDump true).start (Sample.tree Sample.newText)).2.readText p =
        ((ofDump false).start Sample.after).2.readText p := by
    intro p hp
    obtain rfl := List.mem_singleton.1 hp
    rw [eq_ok_of_toOption htext, eq_ok_of_toOption htext']
  obtain ⟨⟨cache, hcache, -, -, hunits, hother⟩, -⟩ := h.load_renewed
  obtain ⟨cache', hcache', hsame⟩ := hother _ _ _ _ _ h' rfl (fun p => Iff.rfl) hread
  refine ⟨pass, pass', cache, cache', h, h', hcache, hcache', ?_, hsame⟩
  exact (hunits _ _).2 ⟨List.mem_singleton_self Sample.dump, Sample.newText,
    eq_ok_of_toOption htext, rfl, eq_ok_of_toOption hjudge⟩

end Renewal

end MethodAudit
