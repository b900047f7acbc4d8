import MethodAudit.Proofs.CacheRoundTrip
import MethodAudit.Proofs.Files.Down

/-!
A cache is saved as a whole or not at all.

If a cache is not too large, what stands in the tree decides whether it can be saved: a file where
one of its folders would have to be, or a folder in its own place, keeps it from being saved, and
nothing else does.
If it is saved, its text and the folders on the way to it are all that is new. If it is not, the
tree is what it was, and no draft is left in it. An analysis gives its batch in both cases.
-/

namespace MethodAudit

open FileTree

/-- The same stands everywhere. -/
structure FileTree.Unchanged (t t' : FileTree) : Prop where
  here : t'.here = t.here
  kinds (ms : List String) : t'.kindAt ms = t.kindAt ms

namespace Cache

/-- The names of the folder that the cache of a root is kept in. -/
def home (t : FileTree) (root : Path) : List String := t.aim (base t root) ++ [folderName]

/-- Something is in the way of the cache of a root. -/
def Blocked (t : FileTree) (root : Path) : Prop :=
  t.Obstructed (home t root) ∨ t.kindAt (home t root ++ [fileName]) = some .folder

/-- The text has come to stand where the cache of the root is looked for, in folders that are
there or new, and all else is as it was. -/
structure Saved (t t' : FileTree) (root : Path) (text : String) : Prop where
  here : t'.here = t.here
  located : t'.locate (path t root) = .ok (home t root ++ [fileName])
  kinds (ms : List String) : t'.kindAt ms =
    if ms = home t root ++ [fileName] then some (.file text.toUTF8)
    else if ms <+: home t root then some .folder else t.kindAt ms

variable {t t' made : FileTree} {root dir : Path} {ds : List String} {scratch text : String}

lemma goesDown_base (h : root.GoesDown) : (base t root).GoesDown := by
  rw [base]
  split
  · rcases hq : root.parent? with _ | q
    · rw [Option.getD_none]
      decide
    · exact h.parent? hq
  · exact h

lemma goesDown_folder (h : root.GoesDown) : (folder t root).GoesDown :=
  (goesDown_base h).join isName_folderName

lemma aim_folder (t : FileTree) (root : Path) : t.aim (folder t root) = home t root :=
  aim_join _ isName_folderName

/-! ### Moving a text into place -/

/-- Where there is no folder, not even a draft is written. -/
lemma replaceFile_of_not_folder (hscratch : '/' ∉ scratch.toList) (hreach : t.reach dir = .ok ds)
    (hfolder : t.kindAt ds ≠ some .folder) :
    ∃ p problem, replaceFile t dir scratch text = (t, .error (.io p problem)) := by
  rcases hwrite : t.write (dir.join (fileName ++ "." ++ scratch)) text.toUTF8 with problem | written
  · exact ⟨dir.join (fileName ++ "." ++ scratch), problem, by simp only [replaceFile, hwrite]⟩
  · obtain ⟨ds', hds, hfolder', -⟩ := write_join_eq_ok (isName_draft hscratch).2.2.2 hwrite
    obtain rfl := Except.ok.inj (hreach.symm.trans hds)
    exact absurd hfolder' hfolder

section Draft

variable (hscratch : '/' ∉ scratch.toList) (hreach : t.reach dir = .ok ds)
  (hfolder : t.kindAt ds = some .folder)
  (hfresh : t.kindAt (ds ++ [fileName ++ "." ++ scratch]) = none)
include hscratch hreach hfolder hfresh

/-- The draft can be written, and is all that is new then. -/
lemma exists_write_draft (text : String) :
    ∃ written, t.write (dir.join (fileName ++ "." ++ scratch)) text.toUTF8 = .ok written ∧
      written.reach dir = .ok ds ∧ written.here = t.here ∧
      ∀ ms, written.kindAt ms = if ms = ds ++ [fileName ++ "." ++ scratch]
        then some (.file text.toUTF8) else t.kindAt ms := by
  have hdraft := isName_draft hscratch
  obtain ⟨written, hwrite⟩ := exists_write_join hdraft hreach hfolder
    (by simp [hfresh]) text.toUTF8
  obtain ⟨ds', hds, -, -, hreach', hhere, hkind⟩ := write_join_eq_ok hdraft.2.2.2 hwrite
  obtain rfl := Except.ok.inj (hreach.symm.trans hds)
  exact ⟨written, hwrite, hreach', hhere, hkind⟩

lemma replaceFile_of_vacant (hold : t.kindAt (ds ++ [fileName]) ≠ some .folder) (text : String) :
    ∃ t', replaceFile t dir scratch text = (t', .ok ()) ∧ t'.here = t.here ∧
      ∀ ms, t'.kindAt ms = if ms = ds ++ [fileName] then some (.file text.toUTF8)
        else t.kindAt ms := by
  obtain ⟨written, hwrite, hreach', -, hkind⟩ :=
    exists_write_draft hscratch hreach hfolder hfresh text
  have hne : ds ++ [fileName] ≠ ds ++ [fileName ++ "." ++ scratch] := by
    simpa using (draft_ne_fileName scratch).symm
  have hfolder' : written.kindAt ds = some .folder := by rw [hkind, if_neg (by simp), hfolder]
  obtain ⟨moved, hmove⟩ := exists_rename_join (isName_draft hscratch) isName_fileName hreach'
    hfolder' (by rw [hkind, if_pos rfl]) (by rwa [hkind, if_neg hne])
  have hreplace : replaceFile t dir scratch text = (moved, .ok ()) := by
    simp only [replaceFile, hwrite, hmove]
  obtain ⟨ds', hds, -, hhere, -, hkinds⟩ := replaceFile_eq_ok hscratch hreplace
  obtain rfl := Except.ok.inj (hreach.symm.trans hds)
  refine ⟨moved, hreplace, hhere, fun ms => ?_⟩
  rw [hkinds]
  split_ifs with htarget hdraft
  · rfl
  · -- nothing stood where the draft was
    rw [hdraft, hfresh]
  · rfl

/-- A folder is not replaced by the text, and the draft goes away again. -/
lemma replaceFile_of_occupied (hold : t.kindAt (ds ++ [fileName]) = some .folder) (text : String) :
    ∃ t' p problem, replaceFile t dir scratch text = (t', .error (.io p problem)) ∧
      t.Unchanged t' := by
  obtain ⟨written, hwrite, hreach', hhere, hkind⟩ :=
    exists_write_draft hscratch hreach hfolder hfresh text
  have hdraft := isName_draft hscratch
  have hne : ds ++ [fileName] ≠ ds ++ [fileName ++ "." ++ scratch] := by
    simpa using (draft_ne_fileName scratch).symm
  rcases hmove : written.rename (dir.join (fileName ++ "." ++ scratch)) (dir.join fileName) with
    problem | moved
  · have hfile : written.kindAt (ds ++ [fileName ++ "." ++ scratch]) =
        some (.file text.toUTF8) := by rw [hkind, if_pos rfl]
    have hfolder' : written.kindAt ds = some .folder := by rw [hkind, if_neg (by simp), hfolder]
    have hlocate := locate_join_of_reach hreach' hdraft hfolder' (by rw [hfile]; rfl)
    refine ⟨{ written with root := written.root.erase (ds ++ [fileName ++ "." ++ scratch]) },
      dir.join fileName, problem, ?_, hhere, fun ms => ?_⟩
    · simp only [replaceFile, hwrite, hmove, discard_of_file hlocate hfile]
    · rw [kindAt, kindAt_erase_file (by simp) hfile, hkind]
      split_ifs with hms
      · rw [hms, hfresh]
      · rfl
  · obtain ⟨ds', -, hds, -, hold', -⟩ :=
      rename_join_eq_ok hdraft isName_fileName (draft_ne_fileName scratch) hmove
    obtain rfl := Except.ok.inj (hreach'.symm.trans hds)
    rw [hkind, if_neg hne] at hold'
    exact absurd hold hold'

end Draft

/-! ### The folder of the cache -/

lemma reach_home (hdown : root.GoesDown) (hhere : t'.here = t.here)
    (hfolder : t'.kindAt (home t root) = some .folder) :
    t'.reach (folder t root) = .ok (home t root) := by
  have haim : t'.aim (folder t root) = home t root :=
    (aim_congr hhere _).trans (aim_folder t root)
  rw [← haim] at hfolder ⊢
  exact reach_of_folder (goesDown_folder hdown) hfolder

lemma reach_home_of_exists (hdown : root.GoesDown) (h : t.exists? (folder t root)) :
    t.reach (folder t root) = .ok (home t root) := by
  obtain ⟨ns, hlocate⟩ := exists?_iff.1 h
  have hreach := reach_of_locate hlocate
  rw [hreach, eq_aim_of_reach (goesDown_folder hdown) hreach, aim_folder]

lemma exists_of_home (hdown : root.GoesDown) (h : t.kindAt (home t root) = some .folder) :
    t.exists? (folder t root) := by
  refine exists?_iff.2 ⟨_, locate_of_reach ?_ (reach_home hdown rfl h)⟩
  exact Path.text_join_ne _ isName_folderName.1

/-- If nothing is in the way, a folder that is not there can only be missing. -/
lemma kindAt_home_eq_none (hdown : root.GoesDown) (hclear : ¬t.Obstructed (home t root))
    (hnone : ¬t.exists? (folder t root)) : t.kindAt (home t root) = none := by
  rcases hkind : t.kindAt (home t root) with _ | _ | content
  · rfl
  · exact absurd (exists_of_home hdown hkind) hnone
  · exact absurd ⟨_, content, List.prefix_rfl, hkind⟩ hclear

/-- No draft stands in the folder of the cache. -/
lemma kindAt_draft_eq_none (hdown : root.GoesDown) (hscratch : '/' ∉ scratch.toList)
    (hfresh : ¬t.exists? ((folder t root).join (fileName ++ "." ++ scratch)))
    (hfolder : t.kindAt (home t root) = some .folder) :
    t.kindAt (home t root ++ [fileName ++ "." ++ scratch]) = none := by
  by_contra hsome
  have hlocate := locate_join_of_reach (reach_home hdown rfl hfolder) (isName_draft hscratch)
    hfolder (Option.isSome_iff_ne_none.2 hsome)
  exact hfresh (exists?_iff.2 ⟨_, hlocate⟩)

/-- In folders that have been made nothing stands yet. -/
lemma kindAt_made_eq_none {names : List String} (hpaves : t.Paves made names)
    (hnone : t.kindAt names = none) (name : String) : made.kindAt (names ++ [name]) = none := by
  have hlonger : ¬names ++ [name] <+: names := by
    intro h
    have hlength := h.length_le
    rw [List.length_append, List.length_singleton] at hlength
    omega
  rw [hpaves.kinds, if_neg hlonger, kindAt_eq_none_below (List.prefix_append ..) hnone]

/-! ### Saving -/

/-- A text that has been moved into the folder of the cache is saved. -/
lemma saved_of_paves (hdown : root.GoesDown) (hpaves : t.Paves made (home t root))
    (hhere : t'.here = made.here)
    (hkinds : ∀ ms, t'.kindAt ms = if ms = home t root ++ [fileName] then some (.file text.toUTF8)
      else made.kindAt ms) : Saved t t' root text := by
  have hhere' : t'.here = t.here := hhere.trans hpaves.here
  have hfolder : t'.kindAt (home t root) = some .folder := by
    rw [hkinds, if_neg (by simp), hpaves.folder]
  have hfile : (t'.kindAt (home t root ++ [fileName])).isSome := by
    rw [hkinds, if_pos rfl]
    rfl
  refine ⟨hhere', ?_, fun ms => by rw [hkinds, hpaves.kinds]⟩
  exact locate_join_of_reach (reach_home hdown hhere' hfolder) isName_fileName hfolder hfile

variable (hhere : t.kindAt t.here = some .folder) (hdown : root.GoesDown)
  (hscratch : '/' ∉ scratch.toList)
  (hfresh : ¬t.exists? ((folder t root).join (fileName ++ "." ++ scratch)))
include hhere hdown hscratch hfresh

/-- If nothing is in the way, the cache is saved. -/
lemma save_of_not_blocked (hblocked : ¬Blocked t root) {c : Cache} (hsize : ¬c.isOversized) :
    ∃ t', save t root scratch c = (t', .ok ()) ∧ Saved t t' root c.text := by
  obtain ⟨hclear, hvacant⟩ := not_or.1 hblocked
  by_cases hexists : t.exists? (folder t root)
  · have hreach := reach_home_of_exists hdown hexists
    have hfolder : t.kindAt (home t root) = some .folder := by
      obtain ⟨k, hk⟩ := Option.isSome_iff_exists.1 (isSome_of_follow hreach)
      cases k with
      | folder => exact hk
      | file content => exact absurd ⟨_, content, List.prefix_rfl, hk⟩ hclear
    obtain ⟨t', hreplace, hhere', hkinds⟩ := replaceFile_of_vacant hscratch hreach hfolder
      (kindAt_draft_eq_none hdown hscratch hfresh hfolder) hvacant c.text
    refine ⟨t', ?_, saved_of_paves hdown (.refl hfolder) hhere' hkinds⟩
    rw [save, if_pos hexists, store_of_not_oversized hsize, hreplace]
  · rcases makeFolder_cases (goesDown_folder (t := t) hdown) hhere with
      ⟨hfile, -⟩ | ⟨made, hmake, hpaves⟩
    · exact absurd (aim_folder t root ▸ hfile) hclear
    · rw [aim_folder] at hpaves
      have hempty := kindAt_made_eq_none hpaves (kindAt_home_eq_none hdown hclear hexists)
      obtain ⟨t', hreplace, hhere', hkinds⟩ := replaceFile_of_vacant hscratch
        (reach_home hdown hpaves.here hpaves.folder) hpaves.folder (hempty _)
        (by simp [hempty]) c.text
      refine ⟨t', ?_, saved_of_paves hdown hpaves hhere' hkinds⟩
      simp only [save, hexists, hmake, store_of_not_oversized hsize, hreplace]
      rfl

/-- If something is in the way, nothing is changed. -/
lemma save_of_blocked (hblocked : Blocked t root) {c : Cache} (hsize : ¬c.isOversized) :
    ∃ t' p problem, save t root scratch c = (t', .error (.io p problem)) ∧ t.Unchanged t' := by
  by_cases hexists : t.exists? (folder t root)
  · have hreach := reach_home_of_exists hdown hexists
    rw [save, if_pos hexists, store_of_not_oversized hsize]
    by_cases hfolder : t.kindAt (home t root) = some .folder
    · rcases hblocked with hfile | hoccupied
      · exact absurd hfile (not_obstructed_of_folder hfolder)
      · exact replaceFile_of_occupied hscratch hreach hfolder
          (kindAt_draft_eq_none hdown hscratch hfresh hfolder) hoccupied c.text
    · obtain ⟨p, problem, hreplace⟩ := replaceFile_of_not_folder hscratch hreach hfolder
      exact ⟨t, p, problem, hreplace, rfl, fun ms => rfl⟩
  · rcases makeFolder_cases (goesDown_folder (t := t) hdown) hhere with
      ⟨-, problem, hmake⟩ | ⟨made, -, hpaves⟩
    · refine ⟨t, folder t root, problem, ?_, rfl, fun ms => rfl⟩
      simp only [save, hexists, hmake]
      rfl
    · -- where folders can be made, no cache is in the way either
      rw [aim_folder] at hpaves
      rcases hblocked with hfile | hoccupied
      · exact absurd hfile hpaves.clear
      · exact absurd (exists_of_home hdown (folder_above (List.prefix_append ..) hoccupied)) hexists

/-- A cache that is not too large is saved if nothing is in the way, and only then. -/
lemma save_or_blocked {c : Cache} (hsize : ¬c.isOversized) :
    (¬Blocked t root ∧ ∃ t', save t root scratch c = (t', .ok ()) ∧ Saved t t' root c.text) ∨
      Blocked t root ∧ ∃ t' p problem, save t root scratch c = (t', .error (.io p problem)) ∧
        t.Unchanged t' := by
  by_cases hblocked : Blocked t root
  · exact .inr ⟨hblocked, save_of_blocked hhere hdown hscratch hfresh hblocked hsize⟩
  · exact .inl ⟨hblocked, save_of_not_blocked hhere hdown hscratch hfresh hblocked hsize⟩

end Cache

/-! ### Analyses -/

section Refresh

variable {stamp : Stamp} {t t' : FileTree} {root : Path} {rules : List Rule} {old : Option Cache}
  {files : List Path} {b : Batch}

lemma examineFiles_congr (h : ∀ p ∈ files, t'.readText p = t.readText p) :
    examineFiles t' rules old files = examineFiles t rules old files := by
  refine List.map_congr_left fun p hp => ?_
  rw [FileResult.ofFile, FileResult.ofFile, h p hp]

variable (hbatch : Batch.ofResults (examineFiles t rules old files) = .ok b)
include hbatch

/-- The batch only depends on the texts of the files. -/
lemma exists_refresh_of_readText (h : ∀ p ∈ files, t'.readText p = t.readText p) (stamp : Stamp)
    (root : Path) :
    ∃ pass, refresh stamp t' root rules old files = .ok pass ∧ pass.batch = b := by
  rw [← examineFiles_congr h] at hbatch
  exact refresh_of_ofResults hbatch stamp root

end Refresh

namespace Cache

/-- **All or nothing**: if nothing is in the way of the cache of a root, it is saved, and its text
and the folders on the way to it are all that changes. Otherwise saving it fails at a path, and
nothing changes. So does an analysis that renews the cache. This is said of caches that are not
too large; the batch of an analysis is in all cases what the texts of the files give. -/
theorem save_all_or_nothing {t : FileTree} {root : Path} {scratch : String}
    (hhere : t.kindAt t.here = some .folder) (hdown : root.GoesDown)
    (hscratch : '/' ∉ scratch.toList)
    (hfresh : ¬t.exists? ((folder t root).join (fileName ++ "." ++ scratch))) :
    (∀ c : Cache, ¬c.isOversized →
      (¬Blocked t root ∧ ∃ t', save t root scratch c = (t', .ok ()) ∧ Saved t t' root c.text) ∨
        Blocked t root ∧ ∃ t' p problem, save t root scratch c = (t', .error (.io p problem)) ∧
          t.Unchanged t') ∧
    ∀ time rules old files, ∃ pass, refresh ⟨time, scratch⟩ t root rules old files = .ok pass ∧
      (¬(ofResults rules time pass.results).isOversized →
        (¬Blocked t root ∧ pass.unsaved = none ∧
          Saved t pass.tree root (ofResults rules time pass.results).text) ∨
        Blocked t root ∧ (∃ p problem, pass.unsaved = some (.io p problem)) ∧
          t.Unchanged pass.tree) ∧
      ∀ stamp' t' root', (∀ p ∈ files, t'.readText p = t.readText p) →
        ∃ pass', refresh stamp' t' root' rules old files = .ok pass' ∧
          pass'.batch = pass.batch := by
  have hsave (c : Cache) := save_or_blocked hhere hdown hscratch hfresh (c := c)
  refine ⟨hsave, fun time rules old files => ?_⟩
  obtain ⟨b, hbatch⟩ := Batch.exists_ofResults t rules old files
  obtain ⟨pass, hpass, rfl⟩ := refresh_of_ofResults hbatch ⟨time, scratch⟩ root
  obtain ⟨-, -, hsaved, -⟩ := refresh_eq_ok hpass
  refine ⟨pass, hpass, fun hsize => ?_, fun stamp' t' root' hread =>
    exists_refresh_of_readText hbatch hread stamp' root'⟩
  -- the pass tells what came of saving
  rcases hsave _ hsize with ⟨hclear, t', hok, hnew⟩ | ⟨hblocked, t', p, problem, hfailed, hold⟩
  · obtain ⟨rfl, hunsaved⟩ := Prod.mk.inj (hsaved.symm.trans hok)
    refine .inl ⟨hclear, ?_, hnew⟩
    rcases h : pass.unsaved with _ | f
    · rfl
    · rw [h] at hunsaved
      exact nomatch hunsaved
  · obtain ⟨rfl, hunsaved⟩ := Prod.mk.inj (hsaved.symm.trans hfailed)
    refine .inr ⟨hblocked, ⟨p, problem, ?_⟩, hold⟩
    rcases h : pass.unsaved with _ | f
    · rw [h] at hunsaved
      exact nomatch hunsaved
    · rw [h] at hunsaved
      rw [Except.error.inj hunsaved]

/-! ### A root that is missing, and a folder in the way -/

/-- A folder stands beside the dump where its cache should be. -/
def occupied : FileTree :=
  ⟨.folder [("a.json", .file ⟨#[]⟩), (folderName, .folder [(fileName, .emptyFolder)])], []⟩

theorem save_all_or_nothing_odd :
    (home Sample.before ⟨"x/./y"⟩ = ["x", "y", ".deadsel"] ∧
      ∃ t', save Sample.before ⟨"x/./y"⟩ "1.tmp" odd = (t', .ok ()) ∧
        Saved Sample.before t' ⟨"x/./y"⟩ odd.text) ∧
    ∃ t' p problem, save occupied Sample.dump "1.tmp" odd = (t', .error (.io p problem)) ∧
      occupied.Unchanged t' := by
  obtain ⟨hsize, hsaved, hfailed⟩ : ¬odd.isOversized ∧
      (save Sample.before ⟨"x/./y"⟩ "1.tmp" odd).2.toOption = some () ∧
      (save occupied Sample.dump "1.tmp" odd).2.toOption = none := by
    decide +kernel
  have hscratch : '/' ∉ "1.tmp".toList := by decide
  refine ⟨⟨by decide +kernel, ?_⟩, ?_⟩
  · have hdown : Path.GoesDown ⟨"x/./y"⟩ := by decide
    have hfresh : ¬Sample.before.exists? ((folder Sample.before ⟨"x/./y"⟩).join
        (fileName ++ "." ++ "1.tmp")) := by decide +kernel
    rcases (save_all_or_nothing rfl hdown hscratch hfresh).1 odd hsize with
      ⟨-, hnew⟩ | ⟨-, t', p, problem, hfailed, -⟩
    · exact hnew
    · rw [hfailed] at hsaved
      exact nomatch hsaved
  · have hdown : Sample.dump.GoesDown := by decide
    have hfresh : ¬occupied.exists? ((folder occupied Sample.dump).join
        (fileName ++ "." ++ "1.tmp")) := by decide +kernel
    rcases (save_all_or_nothing rfl hdown hscratch hfresh).1 odd hsize with
      ⟨-, t', hsaved, -⟩ | ⟨-, hold⟩
    · rw [hsaved] at hfailed
      exact nomatch hfailed
    · exact hold

end Cache

end MethodAudit
