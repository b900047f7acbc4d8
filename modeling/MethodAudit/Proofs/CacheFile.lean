import MethodAudit.Cache
import MethodAudit.Proofs.Discovery
import MethodAudit.Proofs.Files.Below

/-!
Where the cache of a root is kept, and what loading and saving it do to the tree.

The cache stands below the root, or beside it if it is a file, and no dump of the root stands
there; so removing the cache leaves all dumps as they are. Saving adds no file with another
content than the text of the cache, and if it succeeds the text is where it is looked for.
-/

namespace MethodAudit

open FileTree

namespace Cache

lemma isName_folderName : IsName folderName :=
  ⟨by decide, by decide, by decide, by decide⟩

lemma isName_fileName : IsName fileName :=
  ⟨by decide, by decide, by decide, by decide⟩

lemma reach_folder {t : FileTree} {p : Path} {name : String} (hname : IsName name)
    {ms : List String} (h : t.reach (p.join name) = .ok ms) :
    ∃ ns, t.reach p = .ok ns ∧ ms = ns ++ [name] := by
  obtain ⟨ns, hns, -, hms⟩ :=
    exists_reach_of_locate_join hname (locate_of_reach (Path.text_join_ne p hname.1) h)
  exact ⟨ns, hns, hms⟩

/-- The cache is two names below its base. -/
lemma exists_base_of_locate_path {t : FileTree} {root : Path} {names : List String}
    (h : t.locate (path t root) = .ok names) :
    ∃ ns, t.reach (base t root) = .ok ns ∧ names = ns ++ [folderName, fileName] := by
  obtain ⟨ms, hms, -, rfl⟩ := exists_reach_of_locate_join isName_fileName h
  obtain ⟨ns, hns, rfl⟩ := reach_folder isName_folderName hms
  exact ⟨ns, hns, by simp⟩

variable {t : FileTree}

lemma base_of_folder {root : Path} {ns : List String} (h : t.reach root = .ok ns)
    (hfolder : t.kindAt ns = some .folder) : base t root = root := by
  rw [base, if_neg (not_isFile_of_reach h hfolder)]

/-- The base of a file is the folder it stands in. -/
lemma reach_base_of_file {root : Path} {names : List String} {content : ByteArray}
    (h : t.locate root = .ok names) (hfile : t.kindAt names = some (.file content)) :
    t.reach (base t root) = .ok names.dropLast := by
  obtain ⟨q, hq, hreach, -⟩ := exists_parent_of_file h hfile
  have hisFile : t.isFile root := isFile_iff.2 ⟨content, readBytes_eq_ok.2 ⟨names, h, hfile⟩⟩
  rw [base, if_pos hisFile, hq, Option.getD_some, hreach]

/-- Every dump of a root is a file, and not the cache of the root. -/
lemma exists_locate_dump (hwf : t.WellFormed) {root : Path} {exclude : List String}
    {files : List Path} (hfiles : t.dumps? root exclude = some files) {p : Path} (hp : p ∈ files)
    {cacheNames : List String} (hcache : t.locate (path t root) = .ok cacheNames) :
    ∃ names content, t.locate p = .ok names ∧ t.kindAt names = some (.file content) ∧
      names ≠ cacheNames := by
  obtain ⟨ns, hns, rfl⟩ := exists_base_of_locate_path hcache
  obtain ⟨names, ms, content, hroot, hms, rfl, hkind⟩ := kindAt_of_mem_dumps? hwf hfiles hp
  refine ⟨names ++ ms, content, locate_of_dumpNames hwf hroot hms hkind, hkind, fun heq => ?_⟩
  rcases hms with rfl | hms
  · -- the root is the only dump, and the cache is one level deeper
    rw [List.append_nil] at hkind heq
    have hbase := Except.ok.inj (hns.symm.trans (reach_base_of_file hroot hkind))
    have hlength := congrArg List.length heq
    rw [hbase] at hlength
    simp at hlength
    omega
  · -- dumps are not looked for in the folder of the cache
    have hfolder : t.kindAt names = some .folder :=
      folder_of_isSome_kindAt hms.ne_nil (by rw [hkind]; rfl)
    rw [base_of_folder (reach_of_locate hroot) hfolder, reach_of_locate hroot] at hns
    obtain rfl := Except.ok.inj hns
    obtain rfl := List.append_cancel_left heq
    exact hms.1 (by simp [excludedFolders, folderName])

/-! ### Loading -/

variable {P : ByteArray → Prop}

/-- A cache that is found and read is a file below the base. -/
lemma exists_file_of_readText {root : Path} {text : String}
    (h : t.readText (path t root) = .ok text) :
    ∃ ns, t.locate (path t root) = .ok (ns ++ [folderName, fileName]) ∧
      t.kindAt (ns ++ [folderName, fileName]) = some (.file text.toUTF8) := by
  obtain ⟨names, hlocate, hkind⟩ := readBytes_eq_ok.1 (toUTF8_of_readText h)
  obtain ⟨ns, -, rfl⟩ := exists_base_of_locate_path hlocate
  exact ⟨ns, hlocate, hkind⟩

lemma exists_text_of_look_eq_incompatible {root : Path} {rules : List Rule} {info : CacheInfo}
    (h : look t root rules = .incompatible info) : ∃ text, t.readText (path t root) = .ok text := by
  simp only [look] at h
  split_ifs at h with hexists
  rcases hread : t.readText (path t root) with e | text
  · rw [hread] at h
    exact nomatch h
  · exact ⟨text, rfl⟩

lemma exists_text_of_look_eq_usable {root : Path} {rules : List Rule} {c : Cache}
    (h : look t root rules = .usable c) :
    ∃ text, t.readText (path t root) = .ok text ∧ parse text = .ok c ∧
      c.info.isCompatible rules := by
  simp only [look] at h
  split_ifs at h with hexists
  rcases hread : t.readText (path t root) with e | text
  · rw [hread] at h
    exact nomatch h
  rcases hparse : parse text with e | c'
  · simp only [hread, hparse] at h
    exact nomatch h
  · simp only [hread, hparse] at h
    split at h
    · next hcompatible =>
      obtain rfl := Found.usable.inj h
      exact ⟨text, rfl, hparse, hcompatible⟩
    · exact nomatch h

/-- Removing an incompatible cache leaves the dumps of the root as they are. -/
lemma readText_clear (hwf : t.WellFormed) {root : Path} {rules : List Rule} {exclude : List String}
    {files : List Path} (hfiles : t.dumps? root exclude = some files) {p : Path} (hp : p ∈ files) :
    ((look t root rules).clear t root).readText p = t.readText p := by
  rcases hlook : look t root rules with _ | _ | _ | info | _
  case incompatible =>
    obtain ⟨text, hread⟩ := exists_text_of_look_eq_incompatible hlook
    obtain ⟨ms, hlocate, hgone⟩ := exists_file_of_readText hread
    obtain ⟨ns, content, hdump, hkind, hne⟩ := exists_locate_dump hwf hfiles hp hlocate
    rw [Found.clear, discard_of_file hlocate hgone]
    exact readText_erase (by simp) hgone hdump hkind hne
  all_goals rfl

lemma adds_clear (root : Path) (found : Found) : Adds P t (found.clear t root) := by
  cases found with
  | incompatible info => exact adds_discard t _
  | _ => exact .refl

/-! ### Saving -/

lemma adds_replaceFile {folder : Path} {scratch text : String} (hP : P text.toUTF8) :
    Adds P t (replaceFile t folder scratch text).1 := by
  simp only [replaceFile]
  split
  · exact .refl
  · next written hwrite =>
    have hadds : Adds P t written := adds_write hwrite hP
    split
    · next moved hmove => exact hadds.trans (adds_rename (readBytes_write hwrite) hP hmove)
    · exact hadds.trans (adds_discard written _)

lemma adds_store {folder : Path} {scratch : String} {c : Cache} (hP : P c.text.toUTF8) :
    Adds P t (store t folder scratch c).1 := by
  rw [store]
  split
  · exact adds_discard t _
  · exact adds_replaceFile hP

/-- Saving a cache adds no file with another content than its text. -/
lemma adds_save (hwf : t.WellFormed) {root : Path} {scratch : String} {c : Cache}
    (hP : P c.text.toUTF8) : Adds P t (save t root scratch c).1 := by
  simp only [save]
  split
  · exact adds_store hP
  · have hmake : Adds P t (t.makeFolder (folder t root)).1 := adds_makeFolder hwf _
    split
    · next made hmade =>
      rw [hmade] at hmake
      exact hmake.trans (adds_store hP)
    · next made problem hmade =>
      rw [hmade] at hmake
      exact hmake

variable {t' : FileTree}

/-- The name of a draft. -/
lemma isName_draft {scratch : String} (h : '/' ∉ scratch.toList) :
    IsName (fileName ++ "." ++ scratch) := by
  have hhead : (fileName ++ "." ++ scratch).toList.head? = some 'c' := by
    simp [fileName, String.toList_append]
  refine ⟨?_, ?_, ?_, ?_⟩
  · rintro heq
    rw [heq] at hhead
    exact absurd hhead (by decide)
  · rintro heq
    rw [heq] at hhead
    exact absurd hhead (by decide)
  · rintro heq
    rw [heq] at hhead
    exact absurd hhead (by decide)
  · simpa [fileName, String.toList_append] using h

lemma draft_ne_fileName (scratch : String) : fileName ++ "." ++ scratch ≠ fileName := by
  intro h
  have hlength := congrArg String.length h
  have hdot : ".".length = 1 := rfl
  rw [String.length_append, String.length_append] at hlength
  omega

/-- What stands where once a text has been moved into place. -/
lemma replaceFile_eq_ok {folder : Path} {scratch text : String} (hscratch : '/' ∉ scratch.toList)
    (h : replaceFile t folder scratch text = (t', .ok ())) :
    ∃ ds, t.reach folder = .ok ds ∧ t.kindAt ds = some .folder ∧ t'.here = t.here ∧
      (∀ ms, t.kindAt ms = some .folder → t'.kindAt ms = some .folder) ∧
      ∀ ms, t'.kindAt ms = if ms = ds ++ [fileName] then some (.file text.toUTF8)
        else if ms = ds ++ [fileName ++ "." ++ scratch] then none else t.kindAt ms := by
  have hdraft := isName_draft hscratch
  have hne := draft_ne_fileName scratch
  simp only [replaceFile] at h
  split at h
  · exact nomatch congrArg Prod.snd h
  next written hwrite =>
  split at h
  · next moved hmove =>
    obtain rfl : moved = t' := congrArg Prod.fst h
    obtain ⟨ds, hreach, hfolder, hold, hreach', hhere, hkind⟩ :=
      write_join_eq_ok hdraft.2.2.2 hwrite
    obtain ⟨ds', content, hds, hfile, hold', hhere', hkind'⟩ :=
      rename_join_eq_ok hdraft isName_fileName hne hmove
    obtain rfl : ds = ds' := Except.ok.inj (hreach'.symm.trans hds)
    have hdiffer : ds ++ [fileName] ≠ ds ++ [fileName ++ "." ++ scratch] := by simpa using hne.symm
    rw [hkind, if_pos rfl] at hfile
    obtain rfl := Kind.file.inj (Option.some.inj hfile)
    rw [hkind, if_neg hdiffer] at hold'
    have hkinds (ms : List String) : moved.kindAt ms =
        if ms = ds ++ [fileName] then some (.file text.toUTF8)
        else if ms = ds ++ [fileName ++ "." ++ scratch] then none else t.kindAt ms := by
      rw [hkind', hkind]
      split_ifs <;> rfl
    refine ⟨ds, hreach, hfolder, hhere'.trans hhere, fun ms hms => ?_, hkinds⟩
    -- neither of the two names was one of a folder
    have hne₁ : ms ≠ ds ++ [fileName] := fun heq => hold' (heq ▸ hms)
    have hne₂ : ms ≠ ds ++ [fileName ++ "." ++ scratch] := fun heq => hold (heq ▸ hms)
    rw [hkinds, if_neg hne₁, if_neg hne₂, hms]
  · exact nomatch congrArg Prod.snd h

/-- The text is where it was moved to, and no folder is gone. -/
lemma readText_replaceFile {folder : Path} {scratch text : String} (hscratch : '/' ∉ scratch.toList)
    (h : replaceFile t folder scratch text = (t', .ok ())) :
    t'.readText (folder.join fileName) = .ok text := by
  obtain ⟨ds, hreach, hfolder, hhere, hfolders, hkind⟩ := replaceFile_eq_ok hscratch h
  have hnew : t'.kindAt (ds ++ [fileName]) = some (.file text.toUTF8) := by rw [hkind, if_pos rfl]
  have hreach' : t'.reach folder = .ok ds :=
    reach_of_folders hhere hfolders (by rw [hfolders ds hfolder]; rfl) hreach
  refine readText_of_readBytes (readBytes_eq_ok.2 ⟨ds ++ [fileName], ?_, hnew⟩)
  exact locate_join_of_reach hreach' isName_fileName (hfolders ds hfolder) (by rw [hnew]; rfl)

/-- A file stays where it is while a text is moved into a cache folder beside it. -/
lemma isFile_replaceFile {root q : Path} {scratch text : String} {names : List String}
    {content : ByteArray} (hscratch : '/' ∉ scratch.toList) (hroot : t.locate root = .ok names)
    (hfile : t.kindAt names = some (.file content)) (hq : t.reach q = .ok names.dropLast)
    (h : replaceFile t (q.join folderName) scratch text = (t', .ok ())) : t'.isFile root := by
  obtain ⟨ds, hreach, hfolder, hhere, hfolders, hkind⟩ := replaceFile_eq_ok hscratch h
  obtain ⟨ns, hns, rfl⟩ := reach_folder isName_folderName hreach
  obtain rfl := Except.ok.inj (hq.symm.trans hns)
  have hlength (name : String) : names ≠ (names.dropLast ++ [folderName]) ++ [name] := by
    intro heq
    have := congrArg List.length heq
    simp at this
    omega
  have hfile' : t'.kindAt names = some (.file content) := by
    rw [hkind, if_neg (hlength _), if_neg (hlength _), hfile]
  have hroot' := locate_of_folders hhere hfolders (by rw [hfile']; rfl) hroot
  exact isFile_iff.2 ⟨content, readBytes_eq_ok.2 ⟨names, hroot', hfile'⟩⟩

/-- Making the cache folder beside a file leaves the file where it is. -/
lemma makeFolder_beside {root q : Path} {names : List String} {content : ByteArray}
    (hroot : t.locate root = .ok names) (hfile : t.kindAt names = some (.file content))
    (hq : t.reach q = .ok names.dropLast) (hnone : ¬t.exists? (q.join folderName)) :
    let made := (t.makeFolder (q.join folderName)).1
    made.locate root = .ok names ∧ made.kindAt names = some (.file content) ∧
      made.reach q = .ok names.dropLast := by
  obtain ⟨-, last, ns, -, -, -, -, hns, rfl⟩ := exists_folder_of_file hroot hfile
  rw [List.dropLast_concat] at hq ⊢
  -- nothing stands where the folder is made
  have habsent : t.kindAt (ns ++ [folderName]) = none := by
    by_contra hsome
    refine hnone (exists?_iff.2 ⟨_, locate_join_of_reach hq isName_folderName hns ?_⟩)
    exact Option.isSome_iff_ne_none.2 hsome
  have hold : t.root.kindAt (ns ++ [folderName]) ≠ some .folder := by
    rw [← kindAt, habsent]
    simp
  have hkind := Entry.kindAt_put (show Entry.emptyFolder.IsBare from rfl) hns hold
  have hkeep (ms : List String) (k : Kind) (hms : t.kindAt ms = some k) :
      (t.root.put .emptyFolder (ns ++ [folderName])).kindAt ms = some k := by
    have hne : ms ≠ ns ++ [folderName] := by
      rintro rfl
      cases habsent.symm.trans hms
    rw [hkind, if_neg hne]
    exact hms
  rw [makeFolder_join isName_folderName hq hns habsent]
  refine ⟨?_, hkeep _ _ hfile, ?_⟩
  · exact locate_of_folders (t := t) rfl (fun ms => hkeep ms _)
      (by rw [kindAt, hkeep _ _ hfile]; rfl) hroot
  · exact reach_of_folders (t := t) rfl (fun ms => hkeep ms _)
      (by rw [kindAt, hkeep _ _ hns]; rfl) hq

lemma store_of_not_oversized {c : Cache} (hsize : ¬c.isOversized) (t : FileTree) (folder : Path)
    (scratch : String) : store t folder scratch c = replaceFile t folder scratch c.text := by
  rw [store, if_neg hsize]

/-- A save moves the text of the cache into its folder, which is there or made. -/
lemma save_cases {root : Path} {scratch : String} {c : Cache} (hsize : ¬c.isOversized)
    (h : save t root scratch c = (t', .ok ())) :
    ∃ made, replaceFile made (folder t root) scratch c.text = (t', .ok ()) ∧
      (made = t ∨ ¬t.exists? (folder t root) ∧ made = (t.makeFolder (folder t root)).1) := by
  simp only [save, store_of_not_oversized hsize] at h
  split at h
  · exact ⟨t, h, .inl rfl⟩
  · next hnone =>
    split at h
    · next made hmade => exact ⟨made, h, .inr ⟨hnone, by rw [hmade]⟩⟩
    · exact nomatch congrArg Prod.snd h

/-- Saving a cache leaves a root a file or no file. -/
lemma isFile_save {root : Path} {scratch : String} {c : Cache} (hscratch : '/' ∉ scratch.toList)
    (hsize : ¬c.isOversized) (h : save t root scratch c = (t', .ok ())) :
    t'.isFile root = t.isFile root := by
  obtain ⟨made, hreplace, hmade⟩ := save_cases hsize h
  by_cases hfile : t.isFile root
  · obtain ⟨content, hread⟩ := isFile_iff.1 hfile
    obtain ⟨names, hroot, hkind⟩ := readBytes_eq_ok.1 hread
    have hbase := reach_base_of_file hroot hkind
    rw [hfile]
    rcases hmade with rfl | ⟨hnone, rfl⟩
    · exact isFile_replaceFile hscratch hroot hkind hbase hreplace
    · obtain ⟨hroot', hkind', hbase'⟩ := makeFolder_beside hroot hkind hbase hnone
      exact isFile_replaceFile hscratch hroot' hkind' hbase' hreplace
  · -- the root is a folder after the save
    have hbase : base t root = root := by rw [base, if_neg hfile]
    rw [folder, hbase] at hreplace
    obtain ⟨ds, hreach, hfolder, hhere, hfolders, -⟩ := replaceFile_eq_ok hscratch hreplace
    obtain ⟨ns, hns, rfl⟩ := reach_folder isName_folderName hreach
    have hroot : made.kindAt ns = some .folder :=
      folder_of_isSome_kindAt (List.cons_ne_nil _ []) (by rw [hfolder]; rfl)
    have hreach' := reach_of_folders hhere hfolders (by rw [hfolders ns hroot]; rfl) hns
    rw [Bool.eq_false_iff.2 hfile]
    exact Bool.eq_false_iff.2 (not_isFile_of_reach hreach' (hfolders ns hroot))

/-- A cache that is saved is where it is looked for. -/
lemma readText_save {root : Path} {scratch : String} {c : Cache}
    (hscratch : '/' ∉ scratch.toList) (hsize : ¬c.isOversized)
    (h : save t root scratch c = (t', .ok ())) :
    t'.readText (path t' root) = .ok c.text := by
  have hpath : path t' root = path t root := by
    rw [path, path, folder, folder, base, base, isFile_save hscratch hsize h]
  obtain ⟨made, hreplace, -⟩ := save_cases hsize h
  rw [hpath]
  exact readText_replaceFile hscratch hreplace

end Cache

end MethodAudit
