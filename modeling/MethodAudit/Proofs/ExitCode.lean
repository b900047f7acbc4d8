import MethodAudit.Proofs.Files.Down
import MethodAudit.Proofs.Options

/-!
The exit code of the program.

It says whether the analysis was refused, found something or found nothing. No cache changes it.
Neither does a dump that cannot be analyzed, unless the path is only there with it or one of its
folders takes the place of the settings.
-/

namespace MethodAudit

open FileTree

/-! ### Trees with the same exit code -/

/-- The content is not the text of a dump that can be analyzed. -/
def NotDump (content : ByteArray) : Prop :=
  ∀ text d u, content = text.toUTF8 → Dump.parse text = .ok d → d.resolve ≠ .ok u

/-- `t'` is `t` with one more file, at `names`, that is no dump that can be analyzed. Folders on
the way to it may be new as well. -/
structure AddsBadDump (names : List String) (t t' : FileTree) : Prop where
  here : t'.here = t.here
  new : t.kindAt names = none
  clear : ¬t.Obstructed names
  added : ∃ content, NotDump content ∧ ∀ ms, t'.kindAt ms =
    if ms = names then some (.file content)
    else if ms <+: names then some .folder else t.kindAt ms

/-- The trees are the same for a path, except for what is in the cache folder. -/
structure SameButCache (root : Path) (t t' : FileTree) : Prop where
  locate (names : List String) : t'.locate root = .ok names ↔ t.locate root = .ok names
  kind {names : List String} (h : t.locate root = .ok names) : t'.kindAt names = t.kindAt names
  outside {ns ms : List String} (h : t.home? root = some ns)
    (hms : ¬ns ++ [Cache.folderName] <+: ms) : t'.kindAt ms = t.kindAt ms

/-- What has a report is a dump. -/
lemma not_notDump_of_judgeFile {t : FileTree} {rules : List Rule} {p : Path} {r : Report}
    {content : ByteArray} (hread : t.readBytes p = .ok content)
    (h : judgeFile t rules p = .ok (.analyzed r)) : ¬NotDump content := by
  obtain ⟨text, htext, hjudge⟩ := judgeFile_eq_analyzed.1 h
  obtain ⟨e, he, -⟩ := judge_eq_analyzed.1 hjudge
  obtain ⟨d, u, hparse, hresolve⟩ := exists_resolve_of_examine he
  intro hbad
  have hcontent := Except.ok.inj (hread.symm.trans (toUTF8_of_readText htext))
  exact hbad text d u hcontent hparse hresolve

/-- Dumps of `t` that have a report are the same in `t'`. -/
def KeepsDumps (root : Path) (t t' : FileTree) : Prop :=
  ∀ names ms content, t.locate root = .ok names → (ms = [] ∨ DumpNames excludedFolders ms) →
    t.kindAt (names ++ ms) = some (.file content) → ¬NotDump content →
    t'.kindAt (names ++ ms) = some (.file content)

lemma home?_congr {t t' : FileTree} {root : Path}
    (hlocate : ∀ names, t'.locate root = .ok names ↔ t.locate root = .ok names)
    (hkind : ∀ names, t.locate root = .ok names → t'.kindAt names = t.kindAt names) :
    t'.home? root = t.home? root := by
  rcases h : t.locate root with e | names
  · rcases h' : t'.locate root with e' | names'
    · rw [home?, home?, h, h']
    · cases h.symm.trans ((hlocate names').1 h')
  · rw [home?, home?, h, (hlocate names).2 h]
    dsimp only
    rw [hkind names h]

lemma settings?_congr {t t' : FileTree} {root : Path} (hhome : t'.home? root = t.home? root)
    (hsettings : ∀ ns, t.home? root = some ns →
      t'.kindAt (ns ++ [Settings.fileName]) = t.kindAt (ns ++ [Settings.fileName])) :
    t'.settings? root = t.settings? root := by
  rw [settings?, settings?, hhome]
  rcases h : t.home? root with _ | ns
  · rfl
  · rw [Option.bind_some, Option.bind_some, hsettings ns h]

namespace Options

variable {t t' : FileTree} {o : Options}

lemma Finds.mono (hwf : t.WellFormed) (hwf' : t'.WellFormed)
    (hlocate : ∀ names, t'.locate ⟨o.path⟩ = .ok names ↔ t.locate ⟨o.path⟩ = .ok names)
    (hsettings : t'.settings? ⟨o.path⟩ = t.settings? ⟨o.path⟩)
    (hkeeps : KeepsDumps ⟨o.path⟩ t t') (h : o.Finds t) : o.Finds t' := by
  obtain ⟨files, hfiles, p, hp, report, hjudge, v, hv, hmatched⟩ := h
  have hgiven : o.given t' = o.given t := by rw [given, given, hsettings]
  have hnames : o.ruleNames t' = o.ruleNames t := by rw [ruleNames, ruleNames, hgiven]
  have hpatterns : o.patterns t' = o.patterns t := by rw [patterns, patterns, hgiven]
  obtain ⟨names, ms, content, hroot, hms, rfl, hkind⟩ := kindAt_of_mem_dumps? hwf hfiles hp
  rw [List.append_nil] at hms
  have hdump := locate_of_dumpNames hwf hroot hms hkind
  have hread := readBytes_eq_ok.2 ⟨_, hdump, hkind⟩
  have hkind' := hkeeps names ms content hroot hms hkind (not_notDump_of_judgeFile hread hjudge)
  have hroot' := (hlocate names).2 hroot
  have hread' := readBytes_eq_ok.2 ⟨_, locate_of_dumpNames hwf' hroot' hms hkind', hkind'⟩
  obtain ⟨files', hfiles', hp'⟩ : ∃ files, t'.dumps? ⟨o.path⟩ [] = some files ∧
      ms.foldl Path.join ⟨o.path⟩ ∈ files :=
    (mem_dumps?_iff hwf').2 ⟨names, ms, content, hroot', by rwa [List.append_nil], rfl, hkind'⟩
  refine ⟨files', hfiles', _, hp', report, ?_, v, hv, by rwa [hpatterns]⟩
  rw [hnames, ← hjudge]
  exact judgeFile_congr (readText_congr (hread'.trans hread.symm))

/-- The exit code only depends on the settings, on what is at the path, and on the dumps that
have a report. -/
lemma exit_congr (stamp stamp' : Stamp) (hwf : t.WellFormed) (hwf' : t'.WellFormed)
    (hlist : o.listRules = false) (hjobs : o.jobs ≠ some 0) (htrust : o.TrustsCache t)
    (htrust' : o.TrustsCache t')
    (hlocate : ∀ names, t'.locate ⟨o.path⟩ = .ok names ↔ t.locate ⟨o.path⟩ = .ok names)
    (hsettings : t'.settings? ⟨o.path⟩ = t.settings? ⟨o.path⟩)
    (hkeeps : KeepsDumps ⟨o.path⟩ t t') (hkeeps' : KeepsDumps ⟨o.path⟩ t' t) :
    o.exit stamp' t' = o.exit stamp t := by
  have hexists : t'.exists? ⟨o.path⟩ ↔ t.exists? ⟨o.path⟩ := by
    rw [exists?_iff, exists?_iff]
    exact exists_congr hlocate
  have hrefused : o.Refused t' ↔ o.Refused t := by
    rw [Refused, Refused, ruleNames, ruleNames, patterns, patterns, given, given, hsettings,
      hexists]
  have hfinds : o.Finds t' ↔ o.Finds t :=
    ⟨fun h => h.mono hwf' hwf (fun names => (hlocate names).symm) hsettings.symm hkeeps',
      fun h => h.mono hwf hwf' hlocate hsettings hkeeps⟩
  have hcases := exit_cases stamp hwf hlist hjobs htrust
  have hcases' := exit_cases stamp' hwf' hlist hjobs htrust'
  rw [hrefused, hfinds] at hcases'
  grind

end Options

/-! ### One more dump -/

namespace AddsBadDump

variable {t t' : FileTree} {dump : List String}

/-- Making the folders of a file that is no dump and writing it adds a bad dump. -/
lemma of_write {made : FileTree} {p : Path} {content : ByteArray} {folder : List String}
    {name : String} (hpaves : t.Paves made folder) (hplace : made.place p = .ok (folder, name))
    (hwrite : made.write p content = .ok t') (hnone : t.kindAt (folder ++ [name]) = none)
    (hbad : NotDump content) :
    AddsBadDump (folder ++ [name]) t t' := by
  obtain ⟨folder', name', hplace', -, ht', hkind⟩ := write_eq_ok hwrite
  obtain ⟨rfl, rfl⟩ := Prod.mk.inj (Except.ok.inj (hplace.symm.trans hplace'))
  refine ⟨by rw [ht', ← hpaves.here], hnone, ?_, content, hbad, fun ms => ?_⟩
  · rintro ⟨ms, c, hms, hfile⟩
    rcases List.prefix_concat_iff.1 hms with rfl | hms
    · cases hnone.symm.trans hfile
    · exact hpaves.clear ⟨ms, c, hms, hfile⟩
  · rw [hkind, hpaves.kinds]
    by_cases heq : ms = folder ++ [name]
    · rw [if_pos heq, if_pos heq]
    · simp only [List.prefix_concat_iff, heq, false_or]

/-- What was there is there still. -/
lemma kindAt_of_isSome (h : AddsBadDump dump t t') {ms : List String}
    (hms : (t.kindAt ms).isSome) : t'.kindAt ms = t.kindAt ms := by
  obtain ⟨content, -, hkind⟩ := h.added
  rw [hkind]
  split_ifs with heq hprefix
  · rw [heq, h.new] at hms
    exact nomatch hms
  · obtain ⟨k, hk⟩ := Option.isSome_iff_exists.1 hms
    cases k with
    | folder => exact hk.symm
    | file c => exact absurd ⟨ms, c, hprefix, hk⟩ h.clear
  · rfl

/-- A path that was there leads where it did. -/
lemma locate_iff (h : AddsBadDump dump t t') {root : Path}
    (hroot : t'.exists? root → t.exists? root) (names : List String) :
    t'.locate root = .ok names ↔ t.locate root = .ok names := by
  have hkept (ns : List String) (hns : t.locate root = .ok ns) : t'.locate root = .ok ns := by
    have hsome := isSome_of_follow (reach_of_locate hns)
    refine locate_of_folders h.here (fun ms hms => ?_) ?_ hns
    · rw [h.kindAt_of_isSome (by rw [hms]; rfl), hms]
    · rwa [h.kindAt_of_isSome hsome]
  refine ⟨fun hnames => ?_, hkept names⟩
  obtain ⟨ns, hns⟩ := exists?_iff.1 (hroot (exists?_iff.2 ⟨names, hnames⟩))
  rw [hns, Except.ok.inj (hnames.symm.trans (hkept ns hns))]

lemma keepsDumps (h : AddsBadDump dump t t') (root : Path) : KeepsDumps root t t' := by
  intro names ms content _ _ hkind _
  rw [h.kindAt_of_isSome (by rw [hkind]; rfl), hkind]

/-- The added file is no dump that has a report. -/
lemma keepsDumps_symm (h : AddsBadDump dump t t') (root : Path) : KeepsDumps root t' t := by
  obtain ⟨content, hbad, hkind⟩ := h.added
  intro names ms content' _ _ hfile hdump
  rw [hkind] at hfile
  split_ifs at hfile
  · obtain rfl := Kind.file.inj (Option.some.inj hfile)
    exact absurd hbad hdump
  · exact nomatch hfile
  · exact hfile

end AddsBadDump

/-! ### Another cache -/

namespace SameButCache

variable {t t' : FileTree} {root : Path}

lemma home?_eq (h : SameButCache root t t') : t'.home? root = t.home? root :=
  home?_congr h.locate fun _ => h.kind

lemma symm (h : SameButCache root t t') : SameButCache root t' t where
  locate names := (h.locate names).symm
  kind hnames := (h.kind ((h.locate _).1 hnames)).symm
  outside hns hms := (h.outside (h.home?_eq ▸ hns) hms).symm

lemma settings?_eq (h : SameButCache root t t') : t'.settings? root = t.settings? root := by
  refine settings?_congr h.home?_eq fun ns hns => h.outside hns ?_
  rw [List.prefix_append_right_inj]
  decide

/-- No dump is in the cache folder. -/
lemma keepsDumps (h : SameButCache root t t') : KeepsDumps root t t' := by
  intro names ms content hroot hms hkind _
  rw [← hkind]
  rcases hms with rfl | hms
  · rw [List.append_nil, h.kind hroot]
  · have hfolder : t.kindAt names = some .folder :=
      folder_of_isSome_kindAt hms.ne_nil (by rw [hkind]; rfl)
    have hhome : t.home? root = some names := by
      rw [home?, hroot]
      dsimp only
      rw [hfolder]
    refine h.outside hhome fun hprefix => ?_
    rw [List.prefix_append_right_inj] at hprefix
    obtain ⟨rest, rfl⟩ := hprefix
    cases rest with
    | nil => exact absurd (show isDumpName Cache.folderName from hms) (by decide)
    | cons n rest => exact hms.1 (by decide)

end SameButCache

/-! ### The exit code -/

namespace Options

/-- **Exit code**: 2 if the analysis is refused, else 1 if it finds something and 0 if not. It
stays as it is without the cache, and with anything in the place of the cache but one that passes
for a cache and that no run wrote. It also stays as it is when a file that is no dump is added,
with the folders it needs, if the path is not there only because of it and the same stands in the
place of the settings. -/
theorem exit_eq_iff {t : FileTree} {o : Options} (hwf : t.WellFormed) (hlist : o.listRules = false)
    (hjobs : o.jobs ≠ some 0) (htrust : o.TrustsCache t) (stamp : Stamp) :
    (o.exit stamp t = 2 ↔ o.Refused t) ∧
    (¬o.Refused t → (o.exit stamp t = 1 ↔ o.Finds t) ∧ (o.exit stamp t = 0 ↔ ¬o.Finds t)) ∧
    ∀ stamp' : Stamp,
      (∀ noCache, exit stamp' t { o with noCache := noCache } = o.exit stamp t) ∧
      (∀ dump t', t'.WellFormed → AddsBadDump dump t t' →
        (t'.exists? ⟨o.path⟩ → t.exists? ⟨o.path⟩) →
        (∀ ns, t.home? ⟨o.path⟩ = some ns →
          t'.kindAt (ns ++ [Settings.fileName]) = t.kindAt (ns ++ [Settings.fileName])) →
        o.TrustsCache t' → o.exit stamp' t' = o.exit stamp t) ∧
      ∀ t', t'.WellFormed → SameButCache ⟨o.path⟩ t t' → o.TrustsCache t' →
        o.exit stamp' t' = o.exit stamp t := by
  have hcases := exit_cases stamp hwf hlist hjobs htrust
  refine ⟨?_, ?_, fun stamp' => ⟨fun noCache => ?_,
    fun dump t' hwf' hadds hroot hplace htrust' => ?_, fun t' hwf' hsame htrust' => ?_⟩⟩
  · grind
  · grind
  · -- nothing that is said of the exit code is about the cache
    have hcases' := exit_cases (o := { o with noCache := noCache }) stamp' hwf hlist hjobs htrust
    have hrefused : Refused t { o with noCache := noCache } ↔ o.Refused t := Iff.rfl
    have hfinds : Finds t { o with noCache := noCache } ↔ o.Finds t := Iff.rfl
    rw [hrefused, hfinds] at hcases'
    grind
  · have hlocate := hadds.locate_iff hroot
    have hhome := home?_congr hlocate fun names hnames =>
      hadds.kindAt_of_isSome (isSome_of_follow (reach_of_locate hnames))
    exact exit_congr stamp stamp' hwf hwf' hlist hjobs htrust htrust' hlocate
      (settings?_congr hhome hplace) (hadds.keepsDumps _) (hadds.keepsDumps_symm _)
  · exact exit_congr stamp stamp' hwf hwf' hlist hjobs htrust htrust' hsame.locate
      hsame.settings?_eq hsame.keepsDumps hsame.symm.keepsDumps

end Options

/-! ### A file that is no dump, beside a dump -/

namespace Sample

/-- A dump with a property that does not keep its object alive. -/
def weakText : String :=
  "\x7b\"file\":\"b.m\",\"interfaces\":[\x7b\"name\":\"B\",\"properties\":[" ++
    "\x7b\"name\":\"d\",\"object_type\":true,\"setter_policy\":\"assign\"\x7d]\x7d]\x7d"

def options : Options := ⟨".", false, [], ["should use weak"], false, false, none⟩

/-- A byte that no text holds. -/
def junk : ByteArray := ⟨#[255]⟩

/-- The tree with a folder made. -/
def paved (dir : String) : FileTree := ((tree weakText).makeFolder ⟨dir⟩).1

/-- A file that is no dump, in the folder. -/
def littered (dir : String) : FileTree :=
  ((paved dir).write ⟨dir ++ "/b.json"⟩ junk).toOption.getD .empty

/-- The folder can be made, and the file can be written into it. -/
def IsClear (dir : String) (folder : List String) : Prop :=
  Path.GoesDown ⟨dir⟩ ∧ (tree weakText).aim ⟨dir⟩ = folder ∧
    ((tree weakText).makeFolder ⟨dir⟩).2 = none ∧
    ((paved dir).place ⟨dir ++ "/b.json"⟩).toOption = some (folder, "b.json") ∧
    ((paved dir).write ⟨dir ++ "/b.json"⟩ junk).isOk ∧
    ((tree weakText).kindAt (folder ++ ["b.json"])).isNone

instance (dir : String) (folder : List String) : Decidable (IsClear dir folder) :=
  inferInstanceAs (Decidable (_ ∧ _))

lemma junk_ne (text : String) : junk ≠ text.toUTF8 := by
  intro h
  have hnone : (String.fromUTF8? junk).isNone := by decide +kernel
  rw [h, fromUTF8?_toUTF8] at hnone
  exact nomatch hnone

lemma wellFormed_tree (text : String) : (tree text).WellFormed :=
  (history_tree text).kept.wellFormed

lemma content_of_tree {text : String} {ms : List String} {content : ByteArray}
    (h : (tree text).kindAt ms = some (.file content)) : content = text.toUTF8 := by
  rcases ms with _ | ⟨n, ms⟩
  · cases h
  rw [kindAt, tree, Entry.kindAt_cons, Entry.children, lookup_cons_ite] at h
  split at h
  · rcases ms with _ | ⟨m, ms⟩
    · exact (Kind.file.inj (Option.some.inj h)).symm
    · rw [Option.bind_some, Entry.kindAt_file_cons] at h
      cases h
  · cases h

section Littered

variable {dir : String} {folder : List String} (h : IsClear dir folder)
include h

lemma write_littered : (paved dir).write ⟨dir ++ "/b.json"⟩ junk = .ok (littered dir) := by
  obtain ⟨-, -, -, -, hok, -⟩ := h
  rcases hwrite : (paved dir).write ⟨dir ++ "/b.json"⟩ junk with e | t
  · rw [hwrite] at hok
    exact nomatch hok
  · rw [littered, hwrite]
    rfl

lemma adds_littered : Adds (· = junk) (tree weakText) (littered dir) :=
  (adds_makeFolder (wellFormed_tree weakText) ⟨dir⟩).trans (adds_write (write_littered h) rfl)

lemma wellFormed_littered : (littered dir).WellFormed :=
  (adds_littered h).wellFormed (wellFormed_tree weakText)

lemma addsBadDump_littered : AddsBadDump (folder ++ ["b.json"]) (tree weakText) (littered dir) := by
  have hwrite := write_littered h
  obtain ⟨hdown, haim, hmake, hplace, -, hnone⟩ := h
  have hpaves : (tree weakText).Paves (paved dir) folder := by
    rcases makeFolder_cases hdown (t := tree weakText) rfl with
      ⟨-, problem, hfailed⟩ | ⟨made, hmade, hpaves⟩
    · rw [hfailed] at hmake
      exact nomatch hmake
    · rw [paved, hmade, ← haim]
      exact hpaves
  exact .of_write hpaves (eq_ok_of_toOption hplace) hwrite (Option.isNone_iff_eq_none.1 hnone)
    fun text d u htext => absurd htext (junk_ne text)

end Littered

/-- Where no cache is, none has to be trusted. -/
lemma trustsCache {t : FileTree} {o : Options} {S : Set String}
    (hnone : ¬t.exists? (Cache.path t ⟨o.path⟩)) (hsha : Set.InjOn Digest.ofText S)
    (hfiles : ∀ ms text, t.kindAt ms = some (.file text.toUTF8) → text ∈ S) :
    o.TrustsCache t := by
  refine ⟨∅, hsha.mono ?_, fun c content hlook => ?_⟩
  · rintro text (h | ⟨files, -, p, -, htext⟩)
    · exact h.elim
    · obtain ⟨ms, -, hkind⟩ := readBytes_eq_ok.1 (toUTF8_of_readText htext)
      exact hfiles ms text hkind
  · have habsent : Cache.look t ⟨o.path⟩ (Rule.named (o.ruleNames t)) = .absent := by
      simp only [Cache.look, hnone]
      rfl
    rw [habsent] at hlook
    cases hlook

lemma finds_tree : options.Finds (tree weakText) := by
  have hkind : (tree weakText).kindAt ([] ++ ["a.json"]) = some (.file weakText.toUTF8) := rfl
  have hlocate : ((tree weakText).locate ⟨"."⟩).toOption = some [] := by decide +kernel
  obtain ⟨files, hfiles, hp⟩ : ∃ files, (tree weakText).dumps? ⟨"."⟩ [] = some files ∧
      Path.mk "./a.json" ∈ files :=
    (mem_dumps?_iff (wellFormed_tree _)).2 ⟨[], ["a.json"], _, eq_ok_of_toOption hlocate,
      .inr (show isDumpName "a.json" by decide), by decide +kernel, hkind⟩
  have hreport : ((judgeFile (tree weakText) (Rule.named (options.ruleNames (tree weakText)))
      ⟨"./a.json"⟩).toOption.bind Outcome.report?).map (fun r => r.violations.length) = some 1 := by
    decide +kernel
  have hpatterns : options.patterns (tree weakText) = [] := by decide +kernel
  obtain ⟨report, hreport, hlength⟩ := Option.map_eq_some_iff.1 hreport
  obtain ⟨outcome, houtcome, hreport⟩ := Option.bind_eq_some_iff.1 hreport
  obtain ⟨v, hv⟩ := List.exists_mem_of_length_pos (l := report.violations) (by omega)
  refine ⟨files, hfiles, _, hp, report, ?_, v, hv, ?_⟩
  · rw [eq_ok_of_toOption houtcome]
    cases outcome with
    | analyzed r => rw [Option.some.inj hreport]
    | skipped _ => exact nomatch hreport
  · rw [hpatterns]
    rintro ⟨text, htext, -⟩
    exact nomatch htext

lemma not_refused_tree : ¬options.Refused (tree weakText) := by
  have hsettings : (tree weakText).settings? ⟨"."⟩ = some none := by decide +kernel
  have hnames : options.ruleNames (tree weakText) = ["should use weak"] := by decide +kernel
  have hpatterns : options.patterns (tree weakText) = [] := by decide +kernel
  have hexists : (tree weakText).exists? ⟨"."⟩ := by decide +kernel
  rintro (h | ⟨name, hmem, hname⟩ | ⟨text, hmem, -⟩ | h)
  · exact nomatch hsettings.symm.trans h
  · rw [hnames] at hmem
    exact hname .shouldUseWeak (List.mem_singleton.1 hmem).symm
  · rw [hpatterns] at hmem
    exact nomatch hmem
  · exact h hexists

lemma trustsCache_tree : options.TrustsCache (tree weakText) :=
  trustsCache (S := {weakText}) (by decide +kernel) (Set.injOn_singleton _ _)
    fun _ _ h => String.toByteArray_inj.1 (content_of_tree h)

lemma trustsCache_littered {dir : String} {folder : List String} (h : IsClear dir folder)
    {o : Options} (hnone : ¬(littered dir).exists? (Cache.path (littered dir) ⟨o.path⟩)) :
    o.TrustsCache (littered dir) := by
  refine trustsCache (S := {weakText}) hnone (Set.injOn_singleton _ _) fun ms text hfile => ?_
  rcases (adds_littered h).files hfile with hold | hnew
  · exact String.toByteArray_inj.1 (content_of_tree hold)
  · exact absurd hnew.symm (junk_ne text)

end Sample

theorem Options.exit_eq_iff_littered :
    AddsBadDump ["sub", "b.json"] (Sample.tree Sample.weakText) (Sample.littered "sub") ∧
      ¬Sample.options.Refused (Sample.tree Sample.weakText) ∧
      Sample.options.Finds (Sample.tree Sample.weakText) ∧
      Sample.options.exit ⟨0, "1"⟩ (Sample.tree Sample.weakText) = 1 ∧
      Sample.options.exit ⟨2, "3"⟩ (Sample.littered "sub") = 1 := by
  have hclear : Sample.IsClear "sub" ["sub"] := by decide +kernel
  have hadds := Sample.addsBadDump_littered hclear
  obtain ⟨-, hone, hsame⟩ := Options.exit_eq_iff (Sample.wellFormed_tree Sample.weakText)
    (o := Sample.options) rfl (by decide) Sample.trustsCache_tree ⟨0, "1"⟩
  have hexit := (hone Sample.not_refused_tree).1.2 Sample.finds_tree
  refine ⟨hadds, Sample.not_refused_tree, Sample.finds_tree, hexit, ?_⟩
  have hhome : (Sample.tree Sample.weakText).home? ⟨"."⟩ = some [] := by decide +kernel
  have hsettings : ((Sample.littered "sub").kindAt [Settings.fileName]).isNone ∧
      ((Sample.tree Sample.weakText).kindAt [Settings.fileName]).isNone := by decide +kernel
  rw [(hsame ⟨2, "3"⟩).2.1 _ _ (Sample.wellFormed_littered hclear) hadds ?_ ?_
    (Sample.trustsCache_littered hclear (by decide +kernel)), hexit]
  · intro _
    decide +kernel
  · intro ns hns
    obtain rfl := Option.some.inj (hhome.symm.trans hns)
    rw [List.nil_append, Option.isNone_iff_eq_none.1 hsettings.1,
      Option.isNone_iff_eq_none.1 hsettings.2]

/-- A file that is no dump can be what the path leads to, or stand in a folder that takes the place
of the settings. -/
theorem Options.exit_ne_of_bad_dump :
    (AddsBadDump ["b.json"] (Sample.tree Sample.weakText) (Sample.littered ".") ∧
      exit ⟨0, "1"⟩ (Sample.tree Sample.weakText) { Sample.options with path := "b.json" } = 2 ∧
      exit ⟨0, "1"⟩ (Sample.littered ".") { Sample.options with path := "b.json" } = 0) ∧
    AddsBadDump ["deadsel.toml", "b.json"] (Sample.tree Sample.weakText)
        (Sample.littered "deadsel.toml") ∧
      Sample.options.exit ⟨0, "1"⟩ (Sample.tree Sample.weakText) = 1 ∧
      Sample.options.exit ⟨0, "1"⟩ (Sample.littered "deadsel.toml") = 2 := by
  have hmissing : ¬(Sample.tree Sample.weakText).exists? ⟨"b.json"⟩ := by decide +kernel
  have hfound : exit ⟨0, "1"⟩ (Sample.littered ".")
      { Sample.options with path := "b.json" } = 0 := by decide +kernel
  have hsettings : (Sample.littered "deadsel.toml").settings? ⟨"."⟩ = none := by decide +kernel
  have hclear : Sample.IsClear "." [] ∧ Sample.IsClear "deadsel.toml" ["deadsel.toml"] := by
    decide +kernel
  refine ⟨⟨Sample.addsBadDump_littered hclear.1, ?_, hfound⟩,
    Sample.addsBadDump_littered hclear.2, ?_, ?_⟩
  · exact exit_of_refused _ rfl (by decide) (.inr (.inr (.inr hmissing)))
  · exact (exit_of_not_refused _ (Sample.wellFormed_tree _) rfl (by decide)
      Sample.trustsCache_tree Sample.not_refused_tree).1 Sample.finds_tree
  · exact exit_of_refused _ rfl (by decide) (.inl hsettings)

end MethodAudit
