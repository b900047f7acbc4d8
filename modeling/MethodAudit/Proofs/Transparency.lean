import Mathlib.Data.Set.Function
import MethodAudit.Proofs.CacheFile
import MethodAudit.Proofs.CacheText
import MethodAudit.Proofs.Plan

/-!
Runs with the cache give what runs without it give.

Nobody but the runs writes into a cache folder. So every cache that is found was written by
some run, and each of its units holds the digest of a text that the run read and the report on
that text. As long as no two of the texts have one digest, a unit that is reused is the report
on the text that is there now.
-/

namespace MethodAudit

open FileTree

/-- The texts of the dumps that a run reads. -/
def Request.dumpTexts (t : FileTree) (r : Request) : Set String :=
  {text | ∃ p, r.plan t = .ok p ∧ ∃ f ∈ p.files, t.readText f = .ok text}

/-- A write to the path does not go into a cache folder. -/
def FileTree.WritesOutside (t : FileTree) (p : Path) : Prop :=
  ∀ folder name, t.place p = .ok (folder, name) → Cache.folderName ∉ folder

/-- The trees that come of writing and removing files, making folders and running analyses,
where only the runs write into cache folders. With a tree go the texts of the dumps that the
runs have read. -/
inductive History : FileTree → Set String → Prop
  | start {t : FileTree} (hwf : t.WellFormed)
      (hnone : ∀ names, t.kindAt (names ++ [Cache.folderName]) ≠ some .folder) : History t ∅
  | write {t T p content t'} (h : History t T) (hout : t.WritesOutside p)
      (hwrite : t.write p content = .ok t') : History t' T
  | remove {t T p t'} (h : History t T) (hremove : t.remove p = .ok t') : History t' T
  | makeFolder {t T} (h : History t T) (p : Path) : History (t.makeFolder p).1 T
  | run {t T} (h : History t T) (stamp : Stamp) (r : Request) :
      History (r.run stamp t).tree (T ∪ r.dumpTexts t)

/-! ### What caches hold -/

/-- The unit kept for a path is the report on one of the texts, with its digest. -/
def CachedUnit.Genuine (T : Set String) (rules : List Rule) (key : String) (u : CachedUnit) :
    Prop :=
  ∃ text ∈ T, u.digest = Digest.ofText text ∧
    ∃ e, examine rules ⟨key⟩ text = .ok e ∧ e.report = u.report

/-- The content of a cache file that a run wrote. -/
def Cache.Genuine (T : Set String) (content : ByteArray) : Prop :=
  ∃ (c : Cache) (rules : List Rule) (now : UInt64), content = c.text.toUTF8 ∧
    c.info = .current rules now ∧ ∀ u ∈ c.units, u.2.Genuine T rules u.1

lemma CachedUnit.Genuine.mono {T T' : Set String} (hT : T ⊆ T') {rules : List Rule} {key : String}
    {u : CachedUnit} (h : u.Genuine T rules key) : u.Genuine T' rules key := by
  obtain ⟨text, hmem, hrest⟩ := h
  exact ⟨text, hT hmem, hrest⟩

lemma Cache.Genuine.mono {T T' : Set String} (hT : T ⊆ T') {content : ByteArray}
    (h : Cache.Genuine T content) : Cache.Genuine T' content := by
  obtain ⟨c, rules, now, htext, hinfo, hunits⟩ := h
  exact ⟨c, rules, now, htext, hinfo, fun u hu => (hunits u hu).mono hT⟩

/-- Every cache file of a tree was written by a run that read some of the texts. -/
structure Kept (T : Set String) (t : FileTree) : Prop where
  wellFormed : t.WellFormed
  genuine {names : List String} {content : ByteArray}
    (h : t.kindAt (names ++ [Cache.folderName, Cache.fileName]) = some (.file content)) :
    Cache.Genuine T content

/-- Changes that add no files but genuine caches keep caches genuine. -/
lemma Kept.adds {T T' : Set String} {t t' : FileTree} (h : Kept T t) (hT : T ⊆ T')
    (hadds : Adds (Cache.Genuine T') t t') : Kept T' t' :=
  ⟨hadds.wellFormed h.wellFormed,
    fun hc => (hadds.files hc).elim (fun hold => (h.genuine hold).mono hT) id⟩

/-- A genuine cache that is found usable holds genuine units for the rules asked for. -/
lemma Cache.genuine_of_usable {T : Set String} {t : FileTree} {root : Path}
    (h : ∀ content, t.readBytes (path t root) = .ok content → Genuine T content)
    {rules : List Rule} {c : Cache} (hlook : look t root rules = .usable c) {key : String}
    {u : CachedUnit} (hu : c.find? key = some u) : u.Genuine T rules key := by
  obtain ⟨text, hread, hparse, hcompatible⟩ := exists_text_of_look_eq_usable hlook
  -- the file was written by a run
  obtain ⟨written, rules', now, htext, hinfo, hunits⟩ := h _ (toUTF8_of_readText hread)
  obtain rfl : text = written.text := String.toByteArray_inj.1 htext
  -- and it reads as what was written
  obtain ⟨-, rfl⟩ := written.settles_parse_text.eq_of_eq_some (by rw [hparse]; rfl)
  have hrules : rules'.map Rule.name = rules.map Rule.name := by
    simp only [CacheInfo.isCompatible, hinfo, Bool.and_eq_true, decide_eq_true_eq] at hcompatible
    exact hcompatible.2
  obtain rfl := Rule.name_injective.list_map hrules
  obtain ⟨before, after, hsplit, -⟩ := List.lookup_eq_some_iff.1 hu
  have hmem : (key, u) ∈ ofEntries written.units := by
    rw [show ofEntries written.units = before ++ (key, u) :: after from hsplit]
    simp
  exact hunits _ (mem_of_mem_ofEntries hmem)

lemma Kept.genuine_path {T : Set String} {t : FileTree} (h : Kept T t) {root : Path}
    {content : ByteArray} (hread : t.readBytes (Cache.path t root) = .ok content) :
    Cache.Genuine T content := by
  obtain ⟨names, hlocate, hkind⟩ := readBytes_eq_ok.1 hread
  obtain ⟨ns, -, rfl⟩ := Cache.exists_base_of_locate_path hlocate
  exact h.genuine hkind

/-- Whatever cache is used holds genuine units. -/
lemma Cache.genuine_of_found {T : Set String} {t : FileTree} {root : Path} {rules : List Rule}
    (h : ∀ c content, look t root rules = .usable c → t.readBytes (path t root) = .ok content →
      Genuine T content)
    {key : String} {u : CachedUnit}
    (hu : (look t root rules).cache?.bind (·.find? key) = some u) : u.Genuine T rules key := by
  obtain ⟨c, hc, hu⟩ := Option.bind_eq_some_iff.1 hu
  rcases hlook : look t root rules with _ | _ | _ | _ | c'
  case usable =>
    rw [hlook] at hc
    obtain rfl := Option.some.inj hc
    exact genuine_of_usable (fun content => h _ content hlook) hlook hu
  all_goals
    rw [hlook] at hc
    exact nomatch hc

/-! ### What runs leave -/

/-- Looking at a file with a cache gives a genuine entry for the next one. -/
lemma CachedUnit.genuine_of_result {T : Set String} {t : FileTree} {rules : List Rule}
    {old : Option Cache} {p : Path}
    (hold : ∀ u, old.bind (·.find? p.text) = some u → u.Genuine T rules p.text)
    (htext : ∀ text, t.readText p = .ok text → text ∈ T) {x : String × CachedUnit}
    (hx : FileResult.kept? p (.ofFile t rules old p) = some x) : x.2.Genuine T rules x.1 := by
  rw [FileResult.ofFile] at hx
  rcases hread : t.readText p with e | text
  · rw [hread] at hx
    exact nomatch hx
  have hexamined : FileResult.kept? p (.examined text (examine rules p text)) = some x →
      x.2.Genuine T rules x.1 := by
    intro hx
    rcases hresult : examine rules p text with f | e
    · rw [hresult] at hx
      exact nomatch hx
    · rw [hresult] at hx
      obtain rfl := Option.some.inj hx
      exact ⟨text, htext text hread, rfl, e, hresult, rfl⟩
  rcases hu : old.bind (·.find? p.text) with _ | u
  · simp only [hread, hu] at hx
    exact hexamined hx
  · simp only [hread, hu] at hx
    split at hx
    · obtain rfl := Option.some.inj hx
      exact hold u hu
    · exact hexamined hx

/-- What a run with the cache finds for one of its files: a genuine unit or none, and the text
that was there before. -/
lemma Kept.reads {T : Set String} {t : FileTree} (h : Kept T t) {r : Request} {p : Request.Plan}
    (hplan : r.plan t = .ok p) {f : Path} (hf : f ∈ p.files) :
    let found := Cache.look t r.root p.rules
    (∀ u, found.cache?.bind (·.find? f.text) = some u → u.Genuine T p.rules f.text) ∧
      (found.clear t r.root).readText f = t.readText f ∧
      ∀ text, t.readText f = .ok text → text ∈ r.dumpTexts t := by
  intro found
  refine ⟨fun u hu => ?_, ?_, fun text htext => ⟨p, hplan, f, hf, htext⟩⟩
  · exact Cache.genuine_of_found (fun _ content _ => h.genuine_path) hu
  · exact Cache.readText_clear h.wellFormed (Request.dumps?_of_plan hplan) hf

/-- The cache that a run saves is genuine. -/
lemma Kept.genuine_ofResults {T : Set String} {t : FileTree} (h : Kept T t) {r : Request}
    {p : Request.Plan} (hplan : r.plan t = .ok p) (now : UInt64) :
    let found := Cache.look t r.root p.rules
    Cache.Genuine (T ∪ r.dumpTexts t) (Cache.ofResults p.rules now
      (examineFiles (found.clear t r.root) p.rules found.cache? p.files)).text.toUTF8 := by
  intro found
  refine ⟨_, p.rules, now, rfl, rfl, fun x hx => ?_⟩
  obtain ⟨⟨f, result⟩, hmem, hentry⟩ := List.mem_filterMap.1 (Cache.mem_of_mem_ofEntries hx)
  obtain ⟨f, hf, heq⟩ := List.mem_map.1 hmem
  obtain ⟨rfl, rfl⟩ := Prod.mk.inj heq
  obtain ⟨hold, hread, htexts⟩ := h.reads hplan hf
  refine CachedUnit.genuine_of_result (fun u hu => (hold u hu).mono Set.subset_union_left)
    (fun text htext => ?_) hentry
  rw [hread] at htext
  exact .inr (htexts text htext)

/-- What a run with the cache makes of the files of its plan. -/
def Request.cachedResults (t : FileTree) (r : Request) (p : Plan) : List (Path × FileResult) :=
  let found := Cache.look t r.root p.rules
  examineFiles (found.clear t r.root) p.rules found.cache? p.files

lemma Request.runCached_of_error {stamp : Stamp} {t : FileTree} {r : Request} {p : Plan}
    {f : Failure} (h : Batch.ofResults (r.cachedResults t p) = .error f) :
    (r.runCached stamp t p).tree = (Cache.look t r.root p.rules).clear t r.root ∧
      (r.runCached stamp t p).summary = .error (.analysis f) := by
  rw [cachedResults] at h
  simp only [runCached, refresh, h, bind, Except.bind, and_self]

lemma Request.runCached_of_ok {stamp : Stamp} {t : FileTree} {r : Request} {p : Plan} {b : Batch}
    (h : Batch.ofResults (r.cachedResults t p) = .ok b) :
    (r.runCached stamp t p).tree =
        (Cache.save ((Cache.look t r.root p.rules).clear t r.root) r.root stamp.scratch
          (.ofResults p.rules stamp.time (r.cachedResults t p))).1 ∧
      (r.runCached stamp t p).summary = .ok (b.summarize r.root p.patterns) := by
  rw [cachedResults] at h
  simp only [runCached, refresh, h, bind, Except.bind, pure, Except.pure, cachedResults, and_self]

/-- What a run makes of the files of its plan. -/
def Request.results (t : FileTree) (r : Request) (p : Plan) : List (Path × FileResult) :=
  if r.useCache then r.cachedResults t p else examineFiles t p.rules none p.files

lemma Request.summary_of_plan {t : FileTree} {r : Request} {p : Plan} {b : Batch}
    (hplan : r.plan t = .ok p) (hb : Batch.ofResults (r.results t p) = .ok b) (stamp : Stamp) :
    (r.run stamp t).summary = .ok (b.summarize r.root p.patterns) := by
  rw [run, hplan]
  dsimp only
  rw [results] at hb
  split_ifs at hb ⊢
  · exact (runCached_of_ok hb).2
  · simp only [runPlain, hb]

/-- A run keeps caches genuine. -/
lemma Kept.run {T : Set String} {t : FileTree} (h : Kept T t) (stamp : Stamp) (r : Request) :
    Kept (T ∪ r.dumpTexts t) (r.run stamp t).tree := by
  have hsame : Kept (T ∪ r.dumpTexts t) t := h.adds Set.subset_union_left .refl
  rw [Request.run]
  rcases hplan : r.plan t with refusal | p
  · exact hsame
  dsimp only
  split
  case isFalse => exact hsame
  case isTrue =>
    have hclear : Kept (T ∪ r.dumpTexts t) ((Cache.look t r.root p.rules).clear t r.root) :=
      hsame.adds subset_rfl (Cache.adds_clear r.root _)
    rcases hbatch : Batch.ofResults (r.cachedResults t p) with f | b
    · rw [(Request.runCached_of_error hbatch).1]
      exact hclear
    · rw [(Request.runCached_of_ok hbatch).1]
      have hgenuine := h.genuine_ofResults hplan stamp.time
      exact hclear.adds subset_rfl (Cache.adds_save hclear.wellFormed hgenuine)

/-- **Invariant**: in every history, all caches are genuine. -/
theorem History.kept {t : FileTree} {T : Set String} (h : History t T) : Kept T t := by
  induction h with
  | @start t hwf hnone =>
    refine ⟨hwf, fun {names content} hc => absurd ?_ (hnone names)⟩
    have hinside : (t.kindAt ((names ++ [Cache.folderName]) ++ [Cache.fileName])).isSome := by
      simp [hc]
    exact folder_of_isSome_kindAt (by simp) hinside
  | @write t T p content t' h hout hwrite ih =>
    have hadds : Adds (fun _ => True) t t' := adds_write hwrite trivial
    refine ⟨hadds.wellFormed ih.wellFormed, fun {names content'} hc => ?_⟩
    obtain ⟨folder, name, hplace, -, -, hkind⟩ := write_eq_ok hwrite
    rw [hkind] at hc
    split at hc
    · -- the file would be in a cache folder
      next heq =>
      have hfolder : folder = names ++ [Cache.folderName] := by
        have := congrArg List.dropLast heq
        simpa [List.dropLast_append_cons] using this.symm
      exact absurd (by simp [hfolder]) (hout folder name hplace)
    · exact ih.genuine hc
  | remove h hremove ih => exact ih.adds subset_rfl (adds_remove hremove)
  | makeFolder h p ih => exact ih.adds subset_rfl (adds_makeFolder ih.wellFormed p)
  | run h stamp r ih => exact ih.run stamp r

/-! ### Comparing runs -/

/-- A unit that is reused says what an analysis of the text would say. -/
lemma FileResult.ofFile_cases {T : Set String} {t : FileTree} {rules : List Rule}
    {old : Option Cache} {p : Path} (hsha : Set.InjOn Digest.ofText T)
    (hold : ∀ u, old.bind (·.find? p.text) = some u → u.Genuine T rules p.text)
    (htexts : ∀ text, t.readText p = .ok text → text ∈ T) :
    ofFile t rules old p = ofFile t rules none p ∨
      ∃ text e, t.readText p = .ok text ∧ examine rules p text = .ok e ∧
        ofFile t rules old p = .reused ⟨Digest.ofText text, e.report⟩ := by
  rw [ofFile, ofFile]
  rcases htext : t.readText p with e | text
  · exact .inl rfl
  rcases hu : old.bind (·.find? p.text) with _ | u
  · exact .inl rfl
  · dsimp only [Option.bind_none]
    split
    · next hdigest =>
      obtain ⟨text', hmem, hdigest', e, hexamine, hreport⟩ := hold u hu
      obtain rfl : text' = text := hsha hmem (htexts text htext) (hdigest'.symm.trans hdigest)
      exact .inr ⟨text', e, rfl, hexamine, by rw [← hdigest, hreport]⟩
    · exact .inl rfl

lemma outcome_ofFile_eq {T : Set String} {t t' : FileTree} {rules : List Rule} {old : Option Cache}
    {p : Path} (hsha : Set.InjOn Digest.ofText T)
    (hold : ∀ u, old.bind (·.find? p.text) = some u → u.Genuine T rules p.text)
    (hread : t'.readText p = t.readText p) (htexts : ∀ text, t.readText p = .ok text → text ∈ T) :
    (FileResult.ofFile t' rules old p).outcome p =
      (FileResult.ofFile t rules none p).outcome p := by
  have hnone : FileResult.ofFile t' rules none p = FileResult.ofFile t rules none p := by
    rw [FileResult.ofFile, FileResult.ofFile, hread]
  rcases FileResult.ofFile_cases (t := t') hsha hold (hread ▸ htexts) with
    heq | ⟨text, e, htext, hexamine, heq⟩
  · rw [heq, hnone]
  · rw [heq, ← hnone, FileResult.ofFile, htext]
    simp only [FileResult.outcome, Option.bind_none, hexamine, Except.map, Outcome.settle]

lemma ofResults_examineFiles_congr {t t' : FileTree} {rules : List Rule} {old old' : Option Cache}
    {files : List Path}
    (h : ∀ p ∈ files, (FileResult.ofFile t rules old p).outcome p =
      (FileResult.ofFile t' rules old' p).outcome p) :
    Batch.ofResults (examineFiles t rules old files) =
      Batch.ofResults (examineFiles t' rules old' files) := by
  have hmapM (f : Path × FileResult → Except Failure Outcome)
      (hf : ∀ p r, f (p, r) = FileResult.outcome p r) :
      (examineFiles t rules old files).mapM f = (examineFiles t' rules old' files).mapM f := by
    induction files with
    | nil => rfl
    | cons p files ih =>
      have ih' := ih fun q hq => h q (List.mem_cons_of_mem p hq)
      simp only [examineFiles, List.map_cons, List.mapM_cons, hf] at ih' ⊢
      rw [h p List.mem_cons_self, ih']
  rw [Batch.ofResults, Batch.ofResults, hmapM _ fun _ _ => rfl]

/-- **Transparency**: after any history, a run with the cache gives the same summary as without
it, as long as no two of the texts read have the same digest. -/
theorem History.summary_run_cached {t : FileTree} {T : Set String} (h : History t T) (r : Request)
    (stamp : Stamp) (hsha : Set.InjOn Digest.ofText (T ∪ r.dumpTexts t)) :
    (Request.run stamp t { r with useCache := true }).summary =
      (Request.run stamp t { r with useCache := false }).summary := by
  have hplan (b : Bool) : Request.plan t { r with useCache := b } = r.plan t := rfl
  rw [Request.run, Request.run, hplan true, hplan false]
  rcases hp : r.plan t with refusal | p
  · rfl
  have hbatch : Batch.ofResults (r.cachedResults t p) =
      Batch.ofResults (examineFiles t p.rules none p.files) := by
    refine ofResults_examineFiles_congr fun f hf => ?_
    obtain ⟨hold, hread, htexts⟩ := h.kept.reads hp hf
    exact outcome_ofFile_eq hsha (fun u hu => (hold u hu).mono Set.subset_union_left) hread
      fun text htext => .inr (htexts text htext)
  change (r.runCached stamp t p).summary = (r.runPlain t p).summary
  rcases hplain : Batch.ofResults (examineFiles t p.rules none p.files) with f | b
  · rw [(Request.runCached_of_error (hbatch.trans hplain)).2]
    simp only [Request.runPlain, hplain]
  · rw [(Request.runCached_of_ok (hbatch.trans hplain)).2]
    simp only [Request.runPlain, hplain]

/-! ### A dump that changes between two runs -/

namespace Sample

def oldText : String := "\x7b\"file\":\"\"\x7d"

def newText : String := "\x7b\"file\":\"b.m\"\x7d"

def dump : Path := ⟨"a.json"⟩

def request : Request := ⟨dump, true, [], [], []⟩

/-- A tree with one dump. -/
def tree (text : String) : FileTree := ⟨.folder [("a.json", .file text.toUTF8)], []⟩

def before : FileTree := tree oldText

/-- The tree once a run has left a cache. -/
def cached : FileTree := (request.run ⟨0, "1"⟩ before).tree

/-- The dump is written anew after the run. -/
def after : FileTree := (cached.write dump newText.toUTF8).toOption.getD .empty

lemma dumpTexts_subset {t : FileTree} {text : String}
    (hfiles : (request.plan t).toOption.map (·.files) = some [dump])
    (htext : (t.readText dump).toOption = some text) : request.dumpTexts t ⊆ {text} := by
  rintro s ⟨p, hp, f, hf, hs⟩
  rw [hp] at hfiles
  obtain rfl : f = dump := by
    rw [show p.files = [dump] from Option.some.inj hfiles] at hf
    exact List.mem_singleton.1 hf
  rw [hs] at htext
  exact Option.some.inj htext

lemma history_tree (text : String) : History (tree text) ∅ := by
  have hname : IsName "a.json" := ⟨by decide, by decide, by decide, by decide⟩
  refine .start ⟨.folder ?_ (by simp) ?_, rfl, by simp [tree]⟩ fun names => ?_
  · simpa using hname
  · simpa using Entry.Sound.file _
  · rw [kindAt, tree]
    rcases names with _ | ⟨n, names⟩
    · rw [List.nil_append, Entry.kindAt_cons, Entry.children, lookup_cons_ite,
        if_neg (by decide)]
      simp
    · rw [List.cons_append, Entry.kindAt_cons, Entry.children, lookup_cons_ite]
      split
      · cases names <;> simp [Entry.kindAt_file_cons]
      · simp

/-- The dump is where it was, and the next run reads its new text. -/
lemma cached_after : (cached.place dump).toOption = some ([], "a.json") ∧
    (cached.write dump newText.toUTF8).isOk ∧
    (request.plan after).toOption.map (·.files) = some [dump] ∧
    (after.readText dump).toOption = some newText := by
  decide +kernel

lemma history_after : History after (∅ ∪ request.dumpTexts before) := by
  obtain ⟨hplace, hok, -⟩ := cached_after
  have hwrite : cached.write dump newText.toUTF8 = .ok after := by
    rcases h : cached.write dump newText.toUTF8 with e | t
    · rw [h] at hok
      exact nomatch hok
    · rw [after, h]
      rfl
  refine .write ((history_tree oldText).run ⟨0, "1"⟩ request) (fun folder name h => ?_) hwrite
  have hplace' : (cached.place dump).toOption = some (folder, name) := by
    rw [show cached.place dump = .ok (folder, name) from h]
    rfl
  obtain ⟨rfl, rfl⟩ := Prod.mk.inj (Option.some.inj (hplace.symm.trans hplace'))
  exact List.not_mem_nil

lemma injOn_newText :
    Set.InjOn Digest.ofText ((∅ ∪ request.dumpTexts before) ∪ {newText}) := by
  have hdigests : Digest.ofText oldText ≠ Digest.ofText newText := by decide +kernel
  have hold : request.dumpTexts before ⊆ {oldText} :=
    dumpTexts_subset (by decide +kernel) (by decide +kernel)
  have hpair : Set.InjOn Digest.ofText {oldText, newText} :=
    Set.injOn_pair.2 fun h => absurd h hdigests
  refine hpair.mono (Set.union_subset (Set.union_subset (Set.empty_subset _) ?_) (by simp))
  exact hold.trans (by simp)

lemma injOn_texts :
    Set.InjOn Digest.ofText ((∅ ∪ request.dumpTexts before) ∪ request.dumpTexts after) :=
  injOn_newText.mono (Set.union_subset_union_right _
    (dumpTexts_subset cached_after.2.2.1 cached_after.2.2.2))

end Sample

theorem History.summary_run_cached_rewritten :
    History Sample.after (∅ ∪ Sample.request.dumpTexts Sample.before) ∧
      (Request.run ⟨1, "2"⟩ Sample.after { Sample.request with useCache := true }).summary =
        (Request.run ⟨1, "2"⟩ Sample.after { Sample.request with useCache := false }).summary :=
  ⟨Sample.history_after,
    History.summary_run_cached Sample.history_after Sample.request ⟨1, "2"⟩ Sample.injOn_texts⟩

end MethodAudit
