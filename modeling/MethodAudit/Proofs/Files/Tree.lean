import MethodAudit.Proofs.Files.Entry
import MethodAudit.Proofs.Files.Path

/-!
The operations of a file system on a tree, by what stands where.

Following a path and reading only look at folders on the way and at what stands at the end.
Writing, making folders and removing keep a tree well-formed, and whatever file is found after
them was there before or is the one written.
-/

namespace MethodAudit.FileTree

/-- What stands at a list of names. -/
def kindAt (t : FileTree) (names : List String) : Option Kind := t.root.kindAt names

/-- The root is a folder, and names are proper and different wherever they are given. -/
structure WellFormed (t : FileTree) : Prop where
  sound : t.root.Sound
  root : t.kindAt [] = some .folder
  here : ∀ n ∈ t.here, IsName n

lemma get?_eq_none_iff {t : FileTree} {names : List String} :
    t.root.get? names = none ↔ t.kindAt names = none := by
  simp [kindAt, Entry.kindAt]

lemma isSome_get? (t : FileTree) (names : List String) :
    (t.root.get? names).isSome = (t.kindAt names).isSome := by
  simp [kindAt, Entry.kindAt]

lemma any_isFolder_get? (t : FileTree) (names : List String) :
    (t.root.get? names).any Entry.isFolder ↔ t.kindAt names = some .folder := by
  rw [kindAt, Entry.kindAt]
  rcases t.root.get? names with _ | ⟨content⟩ | ⟨cs⟩ <;> simp [Entry.isFolder]

/-- What stands below some names makes them those of a folder. -/
lemma folder_of_isSome_kindAt {t : FileTree} {names rest : List String} (hrest : rest ≠ [])
    (h : (t.kindAt (names ++ rest)).isSome) : t.kindAt names = some .folder := by
  obtain ⟨n, rest, rfl⟩ := List.exists_cons_of_ne_nil hrest
  rw [kindAt, Entry.kindAt_append] at h
  rw [kindAt, Entry.kindAt]
  rcases hget : t.root.get? names with _ | ⟨content⟩ | ⟨cs⟩
  · simp [hget] at h
  · simp [hget, Entry.kindAt_file_cons] at h
  · rfl

/-- What holds a folder is a folder. -/
lemma kindAt_dropLast {t : FileTree} {names : List String} (h : t.kindAt names = some .folder) :
    t.kindAt names.dropLast = some .folder := by
  induction names using List.reverseRecOn with
  | nil => exact h
  | append_singleton names name _ =>
    rw [List.dropLast_concat]
    exact folder_of_isSome_kindAt (List.cons_ne_nil name []) (by rw [h]; rfl)

/-! ### Following a path -/

variable {t : FileTree}

lemma follow_nil (names : List String) :
    t.follow names [] = if (t.kindAt names).isSome then .ok names else .error .notFound := by
  rw [follow, isSome_get?]

lemma follow_cons_of_folder {names : List String} (h : t.kindAt names = some .folder) (s : String)
    (rest : List String) :
    t.follow names (s :: rest) = if Path.isBlank s then t.follow names rest
      else if s = ".." then t.follow names.dropLast rest else t.follow (names ++ [s]) rest := by
  obtain ⟨cs, hcs⟩ := Entry.exists_eq_folder h
  rw [follow, hcs]
  rfl

lemma exists_follow_cons_eq_error {names : List String} (h : t.kindAt names ≠ some .folder) :
    ∃ e, ∀ s rest, t.follow names (s :: rest) = .error e := by
  rw [kindAt, Entry.kindAt] at h
  rcases hget : t.root.get? names with _ | ⟨content⟩ | ⟨cs⟩
  · exact ⟨.notFound, fun s rest => by rw [follow, hget]⟩
  · exact ⟨.notFolder, fun s rest => by rw [follow, hget]⟩
  · exact absurd (by rw [hget]; rfl) h

/-- A segment can only be followed out of a folder. -/
lemma folder_of_follow_cons {names ns : List String} {s : String} {rest : List String}
    (h : t.follow names (s :: rest) = .ok ns) : t.kindAt names = some .folder := by
  by_contra hfolder
  obtain ⟨e, he⟩ := exists_follow_cons_eq_error hfolder
  exact nomatch (he s rest).symm.trans h

lemma follow_append (names ss ts : List String) :
    t.follow names (ss ++ ts) = t.follow names ss >>= fun ns => t.follow ns ts := by
  induction ss generalizing names with
  | nil =>
    rw [List.nil_append, follow_nil]
    split
    · rfl
    · next hnone =>
      have hget : t.root.get? names = none := by
        rw [get?_eq_none_iff]
        simpa using hnone
      cases ts with
      | nil => rw [follow_nil, if_neg hnone]; rfl
      | cons s ts => rw [follow, hget]; rfl
  | cons s ss ih =>
    rw [List.cons_append]
    by_cases hfolder : t.kindAt names = some .folder
    · rw [follow_cons_of_folder hfolder, follow_cons_of_folder hfolder]
      split_ifs <;> exact ih _
    · obtain ⟨e, he⟩ := exists_follow_cons_eq_error hfolder
      rw [he, he]
      rfl

lemma isSome_of_follow {names ss ns : List String} (h : t.follow names ss = .ok ns) :
    (t.kindAt ns).isSome := by
  induction ss generalizing names with
  | nil =>
    rw [follow_nil] at h
    split at h
    · next hsome => exact Except.ok.inj h ▸ hsome
    · exact nomatch h
  | cons s ss ih =>
    rw [follow_cons_of_folder (folder_of_follow_cons h)] at h
    split_ifs at h <;> exact ih h

lemma folder_of_follow {names ss ns : List String} (h : t.follow names ss = .ok ns)
    (hns : t.kindAt ns = some .folder) : t.kindAt names = some .folder := by
  cases ss with
  | nil =>
    rw [follow_nil] at h
    split at h
    · exact Except.ok.inj h ▸ hns
    · exact nomatch h
  | cons s ss => exact folder_of_follow_cons h

/-- The way to a folder only depends on the segments that lead somewhere. -/
lemma follow_moves {names ss ns : List String} (hns : t.kindAt ns = some .folder) :
    t.follow names (Path.moves ss) = .ok ns ↔ t.follow names ss = .ok ns := by
  induction ss generalizing names with
  | nil => rfl
  | cons s ss ih =>
    by_cases hblank : Path.isBlank s
    · rw [Path.moves_cons_of_blank hblank, ih]
      refine ⟨fun h => ?_, fun h => ?_⟩
      · rwa [follow_cons_of_folder (folder_of_follow h hns), if_pos hblank]
      · rwa [follow_cons_of_folder (folder_of_follow_cons h), if_pos hblank] at h
    · rw [Path.moves_cons_of_not_blank hblank]
      by_cases hfolder : t.kindAt names = some .folder
      · rw [follow_cons_of_folder hfolder, follow_cons_of_folder hfolder]
        split_ifs <;> exact ih
      · exact ⟨fun h => absurd (folder_of_follow_cons h) hfolder,
          fun h => absurd (folder_of_follow_cons h) hfolder⟩

/-- A way stays open as long as its folders stay, if something is at its end. -/
lemma follow_of_folders {t' : FileTree} {names ss ns : List String}
    (hfolders : ∀ ms, t.kindAt ms = some .folder → t'.kindAt ms = some .folder)
    (hsome : (t'.kindAt ns).isSome) (h : t.follow names ss = .ok ns) :
    t'.follow names ss = .ok ns := by
  induction ss generalizing names with
  | nil =>
    rw [follow_nil] at h ⊢
    split at h
    · obtain rfl := Except.ok.inj h
      rw [if_pos hsome]
    · exact nomatch h
  | cons s ss ih =>
    have hfolder := folder_of_follow_cons h
    rw [follow_cons_of_folder hfolder] at h
    rw [follow_cons_of_folder (hfolders _ hfolder)]
    split_ifs at h ⊢ <;> exact ih h

lemma isName_of_segment {s : String} (hblank : ¬Path.isBlank s) (hup : s ≠ "..")
    (hslash : '/' ∉ s.toList) : IsName s := by
  simp only [Path.isBlank, Bool.or_eq_true, decide_eq_true_eq, not_or] at hblank
  exact ⟨hblank.1, hblank.2, hup, hslash⟩

lemma isName_concat {names : List String} {s : String} (hnames : ∀ n ∈ names, IsName n)
    (hs : IsName s) : ∀ n ∈ names ++ [s], IsName n := by
  intro n hn
  rcases List.mem_append.1 hn with hmem | hmem
  · exact hnames n hmem
  · exact List.mem_singleton.1 hmem ▸ hs

lemma isName_of_follow {names ss ns : List String} (hnames : ∀ n ∈ names, IsName n)
    (hss : ∀ s ∈ ss, '/' ∉ s.toList) (h : t.follow names ss = .ok ns) : ∀ n ∈ ns, IsName n := by
  induction ss generalizing names with
  | nil =>
    rw [follow_nil] at h
    split at h
    · exact Except.ok.inj h ▸ hnames
    · exact nomatch h
  | cons s ss ih =>
    have hss' : ∀ s ∈ ss, '/' ∉ s.toList := fun s' hs' => hss s' (List.mem_cons_of_mem _ hs')
    rw [follow_cons_of_folder (folder_of_follow_cons h)] at h
    split_ifs at h with hblank hup
    · exact ih hnames hss' h
    · exact ih (fun n hn => hnames n ((List.dropLast_sublist names).subset hn)) hss' h
    · have hs := isName_of_segment hblank hup (hss s List.mem_cons_self)
      exact ih (isName_concat hnames hs) hss' h

/-! ### Locating -/

/-- Where a path leads, the empty path to the folder that relative paths start from. -/
def reach (t : FileTree) (p : Path) : Except IoProblem (List String) :=
  t.follow (t.origin p) p.segments

lemma reach_of_locate {p : Path} {ns : List String} (h : t.locate p = .ok ns) :
    t.reach p = .ok ns := by
  rw [locate] at h
  split at h
  · exact nomatch h
  · exact h

lemma locate_of_reach {p : Path} {ns : List String} (hp : p.text ≠ "") (h : t.reach p = .ok ns) :
    t.locate p = .ok ns := by
  rw [locate, if_neg hp]
  exact h

lemma text_ne_of_locate {p : Path} {ns : List String} (h : t.locate p = .ok ns) : p.text ≠ "" := by
  intro hempty
  rw [locate, if_pos hempty] at h
  exact nomatch h

/-- A path leads to the same place as long as its folders stay, if something is there. -/
lemma reach_of_folders {t' : FileTree} {p : Path} {ns : List String} (hhere : t'.here = t.here)
    (hfolders : ∀ ms, t.kindAt ms = some .folder → t'.kindAt ms = some .folder)
    (hsome : (t'.kindAt ns).isSome) (h : t.reach p = .ok ns) : t'.reach p = .ok ns := by
  have horigin : t'.origin p = t.origin p := by rw [origin, origin, hhere]
  rw [reach, horigin]
  exact follow_of_folders hfolders hsome h

lemma locate_of_folders {t' : FileTree} {p : Path} {ns : List String} (hhere : t'.here = t.here)
    (hfolders : ∀ ms, t.kindAt ms = some .folder → t'.kindAt ms = some .folder)
    (hsome : (t'.kindAt ns).isSome) (h : t.locate p = .ok ns) : t'.locate p = .ok ns :=
  locate_of_reach (text_ne_of_locate h) (reach_of_folders hhere hfolders hsome (reach_of_locate h))

lemma origin_join (p : Path) {name : String} (h : '/' ∉ name.toList) :
    t.origin (p.join name) = t.origin p := by
  rw [origin, origin, Path.isAbsolute_join p h]

/-- A name below a path is one more step. -/
lemma locate_join (p : Path) {name : String} (hname : IsName name) :
    t.locate (p.join name) = t.reach p >>= fun ns => t.follow ns [name] := by
  obtain ⟨pre, hjoin, hp⟩ := Path.segments_join p hname.2.2.2
  rw [locate, if_neg (Path.text_join_ne p hname.1), origin_join p hname.2.2.2, hjoin, reach]
  rcases hp with hp | hp
  · rw [hp, follow_append]
  · -- the empty segment before the name does not matter
    rw [hp, ← follow_append, List.append_assoc, follow_append, follow_append]
    congr 1
    funext ns
    by_cases hfolder : t.kindAt ns = some .folder
    · rw [List.singleton_append, follow_cons_of_folder hfolder ""]
      rfl
    · obtain ⟨e, he⟩ := exists_follow_cons_eq_error hfolder
      rw [List.singleton_append, he, he]

lemma follow_name {ns ms : List String} {name : String} (hname : IsName name) :
    t.follow ns [name] = .ok ms ↔
      t.kindAt ns = some .folder ∧ (t.kindAt (ns ++ [name])).isSome ∧ ms = ns ++ [name] := by
  have hblank : ¬Path.isBlank name := by simp [Path.isBlank, hname.1, hname.2.1]
  constructor
  · intro h
    have hfolder := folder_of_follow_cons h
    rw [follow_cons_of_folder hfolder, if_neg hblank, if_neg hname.2.2.1, follow_nil] at h
    split at h
    · next hsome => exact ⟨hfolder, hsome, (Except.ok.inj h).symm⟩
    · contradiction
  · rintro ⟨hfolder, hsome, hms⟩
    rw [follow_cons_of_folder hfolder, if_neg hblank, if_neg hname.2.2.1, follow_nil, if_pos hsome,
      hms]

lemma locate_join_of_reach {p : Path} {ns : List String} (h : t.reach p = .ok ns) {name : String}
    (hname : IsName name) (hfolder : t.kindAt ns = some .folder)
    (hsome : (t.kindAt (ns ++ [name])).isSome) : t.locate (p.join name) = .ok (ns ++ [name]) := by
  rw [locate_join p hname, h]
  exact (follow_name hname).2 ⟨hfolder, hsome, rfl⟩

/-- What a name below a path leads to stands in the folder that the path leads to. -/
lemma exists_reach_of_locate_join {p : Path} {name : String} (hname : IsName name)
    {ms : List String} (h : t.locate (p.join name) = .ok ms) :
    ∃ ns, t.reach p = .ok ns ∧ t.kindAt ns = some .folder ∧ ms = ns ++ [name] := by
  rw [locate_join p hname] at h
  rcases hreach : t.reach p with e | ns
  · rw [hreach] at h
    exact nomatch h
  · rw [hreach] at h
    obtain ⟨hfolder, -, hms⟩ := (follow_name hname).1 h
    exact ⟨ns, rfl, hfolder, hms⟩

/-- A file stands in the folder that the segments before its name lead to. -/
lemma exists_folder_of_file {p : Path} {names : List String} {content : ByteArray}
    (h : t.locate p = .ok names) (hfile : t.kindAt names = some (.file content)) :
    ∃ init last folder, p.segments = init ++ [last] ∧ ¬Path.isBlank last ∧ last ≠ ".." ∧
      t.follow (t.origin p) init = .ok folder ∧ t.kindAt folder = some .folder ∧
      names = folder ++ [last] := by
  have hsegments := (List.dropLast_append_getLast p.segments_ne_nil).symm
  have hreach := reach_of_locate h
  rw [reach, hsegments, follow_append] at hreach
  rcases hfollow : t.follow (t.origin p) p.segments.dropLast with e | folder
  · rw [hfollow] at hreach
    exact nomatch hreach
  · rw [hfollow] at hreach
    have hlast : t.follow folder [p.segments.getLast p.segments_ne_nil] = .ok names := hreach
    have hfolder := folder_of_follow_cons hlast
    rw [follow_cons_of_folder hfolder] at hlast
    split_ifs at hlast with hblank hup
    · -- a blank segment leads to the folder itself
      rw [follow_nil, hfolder] at hlast
      rw [← Except.ok.inj hlast, hfolder] at hfile
      exact nomatch hfile
    · rw [follow_nil, kindAt_dropLast hfolder] at hlast
      rw [← Except.ok.inj hlast, kindAt_dropLast hfolder] at hfile
      exact nomatch hfile
    · rw [follow_nil] at hlast
      split at hlast
      · exact ⟨_, _, folder, hsegments, hblank, hup, hfollow, hfolder, (Except.ok.inj hlast).symm⟩
      · exact nomatch hlast

/-- The parent of a file leads to the folder it stands in. -/
lemma exists_parent_of_file {p : Path} {names : List String} {content : ByteArray}
    (h : t.locate p = .ok names) (hfile : t.kindAt names = some (.file content)) :
    ∃ q, p.parent? = some q ∧ t.reach q = .ok names.dropLast ∧
      t.kindAt names.dropLast = some .folder := by
  obtain ⟨init, last, folder, hsegments, hblank, hup, hfollow, hfolder, rfl⟩ :=
    exists_folder_of_file h hfile
  obtain ⟨q, hq, habs, hmoves⟩ := Path.exists_parent? hsegments hblank hup
  have horigin : t.origin q = t.origin p := by rw [origin, origin, habs]
  rw [List.dropLast_concat]
  refine ⟨q, hq, ?_, hfolder⟩
  rw [reach, horigin, ← follow_moves hfolder, hmoves, follow_moves hfolder]
  exact hfollow

lemma get?_eq_some {p : Path} {e : Entry} (h : t.get? p = some e) :
    ∃ names, t.locate p = .ok names ∧ t.root.get? names = some e := by
  rw [get?] at h
  split at h
  · next names hlocate => exact ⟨names, hlocate, h⟩
  · exact nomatch h

/-! ### Reading -/

lemma readBytes_eq_ok {p : Path} {content : ByteArray} :
    t.readBytes p = .ok content ↔
      ∃ ns, t.locate p = .ok ns ∧ t.kindAt ns = some (.file content) := by
  rw [readBytes]
  rcases hlocate : t.locate p with e | ns
  · simp [bind, Except.bind]
  · simp only [bind, Except.bind, Except.ok.injEq, exists_eq_left', kindAt, Entry.kindAt]
    rcases t.root.get? ns with _ | ⟨c⟩ | ⟨cs⟩ <;> simp

lemma toUTF8_of_readText {p : Path} {text : String} (h : t.readText p = .ok text) :
    t.readBytes p = .ok text.toUTF8 := by
  rw [readText] at h
  rcases hbytes : t.readBytes p with e | content
  · rw [hbytes] at h
    exact nomatch h
  · rw [hbytes] at h
    simp only [bind, Except.bind, String.fromUTF8?] at h
    split at h
    · next s hs =>
      split at hs
      · obtain rfl := Option.some.inj hs
        obtain rfl := Except.ok.inj h
        rfl
      · exact nomatch hs
    · exact nomatch h

/-- A text that is written is read as it is. -/
lemma fromUTF8?_toUTF8 (text : String) : String.fromUTF8? text.toUTF8 = some text := by
  have hvalid : text.toUTF8.IsValidUTF8 := text.isValidUTF8
  rw [String.fromUTF8?, dif_pos hvalid]
  rfl

lemma readText_of_readBytes {p : Path} {text : String} (h : t.readBytes p = .ok text.toUTF8) :
    t.readText p = .ok text := by
  rw [readText, h]
  simp only [bind, Except.bind, fromUTF8?_toUTF8]

lemma readText_congr {t' : FileTree} {p : Path} (h : t'.readBytes p = t.readBytes p) :
    t'.readText p = t.readText p := by
  rw [readText, readText, h]

lemma exists_readText_eq_error {p : Path} {ns : List String} (h : t.locate p = .ok ns)
    (hfolder : t.kindAt ns = some .folder) : ∃ e, t.readText p = .error e := by
  obtain ⟨cs, hcs⟩ := Entry.exists_eq_folder hfolder
  refine ⟨.isFolder, ?_⟩
  rw [readText, readBytes, h]
  simp only [bind, Except.bind, hcs]

lemma isFile_iff {p : Path} : t.isFile p ↔ ∃ content, t.readBytes p = .ok content := by
  rw [isFile, get?, readBytes]
  rcases t.locate p with e | ns
  · simp [bind, Except.bind]
  · simp only [bind, Except.bind]
    rcases t.root.get? ns with _ | ⟨content⟩ | ⟨cs⟩ <;> simp [Entry.isFile]

lemma exists?_iff {p : Path} : t.exists? p ↔ ∃ ns, t.locate p = .ok ns := by
  rw [exists?, get?]
  rcases hlocate : t.locate p with e | ns
  · simp
  · simp only [Except.ok.injEq, exists_eq', iff_true, isSome_get?]
    exact isSome_of_follow (reach_of_locate hlocate)

/-- What a folder is reached by is no file. -/
lemma not_isFile_of_reach {p : Path} {ns : List String} (h : t.reach p = .ok ns)
    (hfolder : t.kindAt ns = some .folder) : ¬t.isFile p := by
  rw [isFile_iff]
  rintro ⟨content, hread⟩
  obtain ⟨ms, hms, hfile⟩ := readBytes_eq_ok.1 hread
  rw [← Except.ok.inj (h.symm.trans (reach_of_locate hms)), hfolder] at hfile
  exact nomatch hfile

/-! ### Writing -/

lemma place_eq_ok {p : Path} {folder : List String} {name : String}
    (h : t.place p = .ok (folder, name)) :
    ∃ init, p.segments = init ++ [name] ∧ p.text ≠ "" ∧ t.follow (t.origin p) init = .ok folder ∧
      t.kindAt folder = some .folder ∧ IsName name := by
  have hsegments : p.segments = p.segments.dropLast ++ [p.segments.getLastD ""] := by
    rw [List.getLastD_eq_getLast?, List.getLast?_eq_getLast_of_ne_nil p.segments_ne_nil]
    exact (List.dropLast_append_getLast p.segments_ne_nil).symm
  rw [place] at h
  by_cases hempty : p.text = ""
  · simp only [hempty, if_true] at h
    exact nomatch h
  rcases hfollow : t.follow (t.origin p) p.segments.dropLast with e | ns
  · simp only [hempty, if_false, hfollow] at h
    exact nomatch h
  · simp only [hempty, if_false, hfollow, bind, Except.bind, pure, Except.pure] at h
    split_ifs at h with hfolder hlast
    obtain ⟨rfl, rfl⟩ := Prod.mk.inj (Except.ok.inj h)
    refine ⟨_, hsegments, hempty, hfollow, ?_, ?_⟩
    · rw [← any_isFolder_get?]
      simpa using hfolder
    · have hmem : p.segments.getLastD "" ∈ p.segments := by
        rw [hsegments]
        simp
      simp only [Bool.or_eq_true, decide_eq_true_eq, not_or] at hlast
      exact ⟨hlast.1.1, hlast.1.2, hlast.2, Path.not_slash_of_mem_segments hmem⟩

/-- A write puts a file where the path says, and that is no folder. -/
lemma write_eq_ok {p : Path} {content : ByteArray} {t' : FileTree}
    (h : t.write p content = .ok t') :
    ∃ folder name, t.place p = .ok (folder, name) ∧ t.kindAt (folder ++ [name]) ≠ some .folder ∧
      t' = { t with root := t.root.put (.file content) (folder ++ [name]) } ∧
      ∀ ms, t'.kindAt ms = if ms = folder ++ [name] then some (.file content) else t.kindAt ms := by
  rw [write] at h
  rcases hplace : t.place p with e | ⟨folder, name⟩
  · rw [hplace] at h
    exact nomatch h
  · simp only [hplace, bind, Except.bind, pure, Except.pure] at h
    split at h
    · exact nomatch h
    · next hold =>
      obtain rfl := Except.ok.inj h
      obtain ⟨-, -, -, -, hfolder, -⟩ := place_eq_ok hplace
      rw [any_isFolder_get?] at hold
      exact ⟨folder, name, rfl, hold, rfl, Entry.kindAt_put rfl hfolder hold⟩

lemma folders_of_write {p : Path} {content : ByteArray} {t' : FileTree}
    (h : t.write p content = .ok t') {ms : List String} (hms : t.kindAt ms = some .folder) :
    t'.kindAt ms = some .folder := by
  obtain ⟨folder, name, -, hold, -, hkind⟩ := write_eq_ok h
  have hne : ms ≠ folder ++ [name] := fun heq => hold (heq ▸ hms)
  rw [hkind, if_neg hne, hms]

/-- What is written to a path is read from it. -/
lemma readBytes_write {p : Path} {content : ByteArray} {t' : FileTree}
    (h : t.write p content = .ok t') : t'.readBytes p = .ok content := by
  obtain ⟨folder, name, hplace, -, ht', hkind⟩ := write_eq_ok h
  obtain ⟨init, hsegments, hempty, hfollow, hfolder, hname⟩ := place_eq_ok hplace
  have hnew : t'.kindAt (folder ++ [name]) = some (.file content) := by rw [hkind, if_pos rfl]
  rw [readBytes_eq_ok]
  refine ⟨folder ++ [name], locate_of_reach hempty ?_, hnew⟩
  have horigin : t'.origin p = t.origin p := by rw [ht']; rfl
  have hsome : (t'.kindAt folder).isSome := by rw [folders_of_write h hfolder]; rfl
  rw [reach, horigin, hsegments, follow_append,
    follow_of_folders (fun ms hms => folders_of_write h hms) hsome hfollow]
  exact (follow_name hname).2 ⟨folders_of_write h hfolder, by rw [hnew]; rfl, rfl⟩

/-! ### Changes to a tree -/

/-- `t'` comes from `t` by changes that keep it well-formed and add no files but some with
contents that satisfy `P`. -/
structure Adds (P : ByteArray → Prop) (t t' : FileTree) : Prop where
  wellFormed : t.WellFormed → t'.WellFormed
  files {ms : List String} {c : ByteArray} (h : t'.kindAt ms = some (.file c)) :
    t.kindAt ms = some (.file c) ∨ P c

variable {P : ByteArray → Prop} {t' t'' : FileTree}

lemma Adds.refl : Adds P t t := ⟨id, .inl⟩

lemma Adds.trans (h : Adds P t t') (h' : Adds P t' t'') : Adds P t t'' :=
  ⟨h'.wellFormed ∘ h.wellFormed, fun hc => (h'.files hc).elim h.files .inr⟩

lemma isName_origin (hwf : t.WellFormed) (p : Path) : ∀ n ∈ t.origin p, IsName n := by
  rw [origin]
  split
  · exact nofun
  · exact hwf.here

lemma adds_write {p : Path} {content : ByteArray} (h : t.write p content = .ok t')
    (hP : P content) : Adds P t t' := by
  obtain ⟨folder, name, hplace, -, ht', hkind⟩ := write_eq_ok h
  obtain ⟨init, hsegments, -, hfollow, -, hname⟩ := place_eq_ok hplace
  refine ⟨fun hwf => ⟨?_, ?_, ?_⟩, fun {ms c} hc => ?_⟩
  · have hslash : ∀ s ∈ init, '/' ∉ s.toList := fun s hs =>
      Path.not_slash_of_mem_segments (p := p) (by rw [hsegments]; exact List.mem_append_left _ hs)
    have hfolder := isName_of_follow (isName_origin hwf p) hslash hfollow
    rw [ht']
    exact Entry.sound_put hwf.sound (.file content) (isName_concat hfolder hname)
  · rw [hkind, if_neg (by simp), hwf.root]
  · rw [ht']
    exact hwf.here
  · rw [hkind] at hc
    split at hc
    · exact .inr (Kind.file.inj (Option.some.inj hc) ▸ hP)
    · exact .inl hc

lemma adds_erase {names : List String} (hsome : (t.kindAt names).isSome) :
    Adds P t { t with root := t.root.erase names } := by
  -- the root itself is emptied, and anything else goes with all below it
  cases names with
  | nil =>
    refine ⟨fun hwf => ⟨Entry.sound_emptyFolder, rfl, hwf.here⟩, fun {ms c} hc => ?_⟩
    cases ms <;> exact nomatch hc
  | cons n names =>
    have hkind := Entry.kindAt_erase (List.cons_ne_nil n names) hsome
    refine ⟨fun hwf => ⟨Entry.sound_erase hwf.sound _, ?_, hwf.here⟩, fun {ms c} hc => ?_⟩
    · rw [kindAt, hkind, if_neg (by simp)]
      exact hwf.root
    · rw [kindAt, hkind] at hc
      split at hc
      · exact nomatch hc
      · exact .inl hc

lemma kindAt_erase_file {names : List String} {content : ByteArray} (hne : names ≠ [])
    (hfile : t.kindAt names = some (.file content)) (ms : List String) :
    (t.root.erase names).kindAt ms = if ms = names then none else t.kindAt ms := by
  have hsome : (t.root.kindAt names).isSome := by
    rw [← kindAt, hfile]
    rfl
  rw [Entry.kindAt_erase hne hsome]
  by_cases hms : names <+: ms
  · -- below the file there was nothing
    obtain ⟨rest, rfl⟩ := hms
    cases rest with
    | nil => simp
    | cons n rest =>
      rw [kindAt, Entry.kindAt_append, Entry.get?_of_kindAt_file hfile]
      simp [Entry.kindAt_file_cons]
  · have hother : ms ≠ names := fun heq => hms (heq ▸ List.prefix_rfl)
    rw [if_neg hms, if_neg hother, kindAt]

/-- Reading another file does not notice that a file is gone. -/
lemma readText_erase {names ns : List String} {p : Path} {content content' : ByteArray}
    (hne : names ≠ []) (hgone : t.kindAt names = some (.file content)) (hp : t.locate p = .ok ns)
    (hfile : t.kindAt ns = some (.file content')) (hother : ns ≠ names) :
    FileTree.readText { t with root := t.root.erase names } p = t.readText p := by
  have hkind := kindAt_erase_file hne hgone
  have hfolders : ∀ ms, t.kindAt ms = some .folder →
      (t.root.erase names).kindAt ms = some .folder := by
    intro ms hms
    have hne : ms ≠ names := by
      rintro rfl
      exact nomatch hgone.symm.trans hms
    rw [hkind, if_neg hne, hms]
  have hfile' : (t.root.erase names).kindAt ns = some (.file content') := by
    rw [hkind, if_neg hother, hfile]
  have hread : t.readBytes p = .ok content' := readBytes_eq_ok.2 ⟨ns, hp, hfile⟩
  have hread' : FileTree.readBytes { t with root := t.root.erase names } p = .ok content' := by
    refine readBytes_eq_ok.2 ⟨ns, ?_, hfile'⟩
    exact locate_of_folders (t := t) rfl hfolders (by rw [kindAt, hfile']; rfl) hp
  rw [readText, readText, hread, hread']

lemma remove_eq_ok {p : Path} (h : t.remove p = .ok t') :
    ∃ names, t.locate p = .ok names ∧ t' = { t with root := t.root.erase names } := by
  rw [remove] at h
  rcases hlocate : t.locate p with e | names
  · rw [hlocate] at h
    exact nomatch h
  · rw [hlocate] at h
    exact ⟨names, rfl, (Except.ok.inj h).symm⟩

lemma adds_remove {p : Path} (h : t.remove p = .ok t') : Adds P t t' := by
  obtain ⟨names, hlocate, rfl⟩ := remove_eq_ok h
  exact adds_erase (isSome_of_follow (reach_of_locate hlocate))

lemma discard_of_file {p : Path} {names : List String} {content : ByteArray}
    (h : t.locate p = .ok names) (hfile : t.kindAt names = some (.file content)) :
    t.discard p = { t with root := t.root.erase names } := by
  have hisFile : t.isFile p := isFile_iff.2 ⟨content, readBytes_eq_ok.2 ⟨names, h, hfile⟩⟩
  rw [discard, if_pos hisFile, remove, h]
  rfl

lemma adds_discard (t : FileTree) (p : Path) : Adds P t (t.discard p) := by
  rw [discard]
  split
  · rcases hremove : t.remove p with e | t'
    · exact .refl
    · exact adds_remove hremove
  · exact .refl

lemma adds_putFolder {names : List String} (hne : names ≠ []) (hnames : ∀ n ∈ names, IsName n) :
    Adds P t { t with root := t.root.put .emptyFolder names } := by
  refine ⟨fun hwf => ⟨?_, ?_, hwf.here⟩, fun {ms c} hc => ?_⟩
  · exact Entry.sound_put hwf.sound Entry.sound_emptyFolder hnames
  · obtain ⟨n, names, rfl⟩ := List.exists_cons_of_ne_nil hne
    rfl
  · rcases Entry.kindAt_file_of_put (show Entry.emptyFolder.IsBare from rfl) hc with hold | hnew
    · exact .inl hold
    · exact nomatch hnew

lemma adds_makeFolders {names ss : List String} (hnames : ∀ n ∈ names, IsName n)
    (hss : ∀ s ∈ ss, '/' ∉ s.toList) : Adds P t (t.makeFolders names ss).1 := by
  induction ss generalizing t names with
  | nil => exact .refl
  | cons s ss ih =>
    have hss' : ∀ s ∈ ss, '/' ∉ s.toList := fun s' hs' => hss s' (List.mem_cons_of_mem _ hs')
    rw [makeFolders]
    by_cases hblank : s = "" || s = "."
    · rw [if_pos hblank]
      exact ih hnames hss'
    rw [if_neg hblank]
    by_cases hup : s = ".."
    · rw [if_pos hup]
      exact ih (fun n hn => hnames n ((List.dropLast_sublist names).subset hn)) hss'
    · have hnames' : ∀ n ∈ names ++ [s], IsName n :=
        isName_concat hnames (isName_of_segment hblank hup (hss s List.mem_cons_self))
      rw [if_neg hup]
      dsimp only
      split
      · exact ih hnames' hss'
      · exact .refl
      · exact (adds_putFolder (by simp) hnames').trans (ih hnames' hss')

/-- Folders that are there already are not made again. -/
lemma makeFolders_of_follow {names ss ns : List String} (hns : t.kindAt ns = some .folder)
    (h : t.follow names ss = .ok ns) (rest : List String) :
    t.makeFolders names (ss ++ rest) = t.makeFolders ns rest := by
  induction ss generalizing names with
  | nil =>
    rw [follow_nil] at h
    split at h
    · rw [Except.ok.inj h, List.nil_append]
    · exact nomatch h
  | cons s ss ih =>
    rw [follow_cons_of_folder (folder_of_follow_cons h)] at h
    rw [List.cons_append, makeFolders]
    change (if Path.isBlank s then _ else _) = _
    split_ifs at h with hblank hup
    · rw [if_pos hblank, ih h]
    · rw [if_neg hblank, if_pos hup, ih h]
    · rw [if_neg hblank, if_neg hup]
      obtain ⟨cs, hcs⟩ := Entry.exists_eq_folder (folder_of_follow h hns)
      simp only [hcs]
      exact ih h

/-- Making folders keeps a well-formed tree so and adds no files. -/
lemma adds_makeFolder (hwf : t.WellFormed) (p : Path) : Adds P t (t.makeFolder p).1 :=
  adds_makeFolders (isName_origin hwf p) fun _ hs => Path.not_slash_of_mem_segments hs

lemma rename_eq_ok {source target : Path} (h : t.rename source target = .ok t') :
    ∃ content names written new, t.readBytes source = .ok content ∧ t.locate source = .ok names ∧
      t.write target content = .ok written ∧ written.locate target = .ok new ∧
      t' = if names = new then written else { written with root := written.root.erase names } := by
  rw [rename] at h
  rcases hread : t.readBytes source with e | content
  · rw [hread] at h
    exact nomatch h
  rcases hlocate : t.locate source with e | names
  · rw [hread, hlocate] at h
    exact nomatch h
  rcases hwrite : t.write target content with e | written
  · simp only [hread, hlocate, hwrite, bind, Except.bind] at h
    exact nomatch h
  rcases hnew : written.locate target with e | new
  · simp only [hread, hlocate, hwrite, hnew, bind, Except.bind] at h
    exact nomatch h
  · simp only [hread, hlocate, hwrite, hnew, bind, Except.bind, pure, Except.pure,
      Except.ok.injEq] at h
    exact ⟨content, names, written, new, rfl, rfl, hwrite, hnew, h.symm⟩

/-- A rename adds a file with the content that is read. -/
lemma adds_rename {source target : Path} {content : ByteArray}
    (hsource : t.readBytes source = .ok content) (hP : P content)
    (h : t.rename source target = .ok t') : Adds P t t' := by
  obtain ⟨content', names, written, new, hread, hlocate, hwrite, -, ht'⟩ := rename_eq_ok h
  obtain rfl : content = content' := Except.ok.inj (hsource.symm.trans hread)
  have hadds : Adds P t written := adds_write hwrite hP
  split at ht'
  · exact ht' ▸ hadds
  · have hsome : (written.kindAt names).isSome := by
      obtain ⟨folder, name, -, -, -, hkind⟩ := write_eq_ok hwrite
      rw [hkind]
      split
      · rfl
      · exact isSome_of_follow (reach_of_locate hlocate)
    exact ht' ▸ hadds.trans (adds_erase hsome)

end MethodAudit.FileTree
