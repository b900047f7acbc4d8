import MethodAudit.Discovery
import MethodAudit.Proofs.Files.Tree

/-!
The dumps found below a folder, by their names from there and by what stands at them.
-/

namespace MethodAudit

/-- The names of a dump below a folder with the entries `cs`: a file with a dump's name, in
folders that are not excluded. -/
inductive IsDump (excluded : List String) : List (String × Entry) → List String → Prop
  | here {cs name content} (h : (name, Entry.file content) ∈ cs) (hname : isDumpName name) :
      IsDump excluded cs [name]
  | inside {cs name inner ns} (h : (name, Entry.folder inner) ∈ cs) (hname : name ∉ excluded)
      (hns : IsDump excluded inner ns) : IsDump excluded cs (name :: ns)

lemma not_isDump_nil {excluded ns : List String} : ¬IsDump excluded [] ns := by
  rintro (⟨h, -⟩ | ⟨h, -, -⟩) <;> cases h

lemma isDump_cons_file {excluded : List String} {name : String} {content : ByteArray}
    {cs : List (String × Entry)} {ns : List String} :
    IsDump excluded ((name, .file content) :: cs) ns ↔
      isDumpName name ∧ ns = [name] ∨ IsDump excluded cs ns := by
  constructor
  · rintro (⟨h, hname⟩ | ⟨h, hname, hns⟩)
    · rcases List.mem_cons.1 h with heq | h
      · cases heq
        exact .inl ⟨hname, rfl⟩
      · exact .inr (.here h hname)
    · rcases List.mem_cons.1 h with heq | h
      · cases heq
      · exact .inr (.inside h hname hns)
  · rintro (⟨hname, rfl⟩ | (⟨h, hname⟩ | ⟨h, hname, hns⟩))
    · exact .here List.mem_cons_self hname
    · exact .here (List.mem_cons_of_mem _ h) hname
    · exact .inside (List.mem_cons_of_mem _ h) hname hns

lemma isDump_cons_folder {excluded : List String} {name : String} {inner : List (String × Entry)}
    {cs : List (String × Entry)} {ns : List String} :
    IsDump excluded ((name, .folder inner) :: cs) ns ↔
      (name ∉ excluded ∧ ∃ ms, IsDump excluded inner ms ∧ name :: ms = ns) ∨
        IsDump excluded cs ns := by
  constructor
  · rintro (⟨h, hname⟩ | ⟨h, hname, hns⟩)
    · rcases List.mem_cons.1 h with heq | h
      · cases heq
      · exact .inr (.here h hname)
    · rcases List.mem_cons.1 h with heq | h
      · cases heq
        exact .inl ⟨hname, _, hns, rfl⟩
      · exact .inr (.inside h hname hns)
  · rintro (⟨hname, ms, hms, rfl⟩ | (⟨h, hname⟩ | ⟨h, hname, hns⟩))
    · exact .inside List.mem_cons_self hname hms
    · exact .here (List.mem_cons_of_mem _ h) hname
    · exact .inside (List.mem_cons_of_mem _ h) hname hns

/-- The dumps among the entries of a folder and below them, by their names from there. -/
def dumpNamesIn (excluded : List String) : List (String × Entry) → List (List String)
  | [] => []
  | (name, .file _) :: rest =>
    (if isDumpName name then [[name]] else []) ++ dumpNamesIn excluded rest
  | (name, .folder inner) :: rest =>
    (if excluded.contains name then [] else (dumpNamesIn excluded inner).map (name :: ·)) ++
      dumpNamesIn excluded rest

lemma mem_dumpNamesIn_iff {excluded : List String} {cs : List (String × Entry)}
    {ns : List String} : ns ∈ dumpNamesIn excluded cs ↔ IsDump excluded cs ns := by
  induction cs using dumpNamesIn.induct generalizing ns with
  | case1 => simp [dumpNamesIn, not_isDump_nil]
  | case2 name content rest ih =>
    rw [dumpNamesIn, List.mem_append, ih, isDump_cons_file]
    split_ifs with hname <;> simp [hname]
  | case3 name inner rest ihInner ihRest =>
    rw [dumpNamesIn, List.mem_append, ihRest, isDump_cons_folder]
    split_ifs with hname
    · simp [List.contains_iff_mem.1 hname]
    · rw [List.contains_iff_mem] at hname
      simp [hname, ihInner]

lemma dumpsIn_eq_map (excluded : List String) (folder : Path) (cs : List (String × Entry)) :
    dumpsIn excluded folder cs =
      (dumpNamesIn excluded cs).map fun ns => ns.foldl Path.join folder := by
  induction folder, cs using dumpsIn.induct with
  | case1 folder => simp [dumpsIn, dumpNamesIn]
  | case2 folder name content rest ih =>
    rw [dumpsIn, dumpNamesIn, ih, List.map_append]
    split <;> rfl
  | case3 folder name inner rest ihInner ihRest =>
    rw [dumpsIn, dumpNamesIn, ihInner, ihRest, List.map_append]
    split
    · rfl
    · rw [List.map_map]
      rfl

lemma mem_dumpsIn_iff {excluded : List String} {folder p : Path} {cs : List (String × Entry)} :
    p ∈ dumpsIn excluded folder cs ↔
      ∃ ns, IsDump excluded cs ns ∧ p = ns.foldl Path.join folder := by
  simp [dumpsIn_eq_map, mem_dumpNamesIn_iff, eq_comm]

/-- A dump is found where its names say. -/
lemma FileTree.locate_of_isDump {t : FileTree} (hwf : t.WellFormed) {excluded : List String}
    {cs : List (String × Entry)} {ns : List String} (h : IsDump excluded cs ns) {q : Path}
    {names : List String} (hq : t.reach q = .ok names)
    (hcs : t.root.get? names = some (.folder cs)) :
    ∃ content, t.locate (ns.foldl Path.join q) = .ok (names ++ ns) ∧
      t.kindAt (names ++ ns) = some (.file content) := by
  induction h generalizing q names with
  | @here cs name content h hname =>
    obtain ⟨hnames, hnodup, -⟩ := (hwf.sound.get? hcs).children
    have hkind : t.kindAt (names ++ [name]) = some (.file content) := by
      have hlookup : cs.lookup name = some (.file content) := lookup_of_mem hnodup h
      rw [kindAt, Entry.kindAt_append, hcs]
      simp [Entry.kindAt_cons, Entry.children, hlookup]
    have hfolder : t.kindAt names = some .folder := by simp [kindAt, Entry.kindAt, hcs]
    exact ⟨content, locate_join_of_reach hq (hnames _ h) hfolder (by rw [hkind]; rfl), hkind⟩
  | @inside cs name inner ns h hname hns ih =>
    obtain ⟨hnames, hnodup, -⟩ := (hwf.sound.get? hcs).children
    have hget : t.root.get? (names ++ [name]) = some (.folder inner) := by
      have hlookup : cs.lookup name = some (.folder inner) := lookup_of_mem hnodup h
      rw [Entry.get?_append, hcs]
      simp [Entry.get?_cons, Entry.children, hlookup]
    have hfolder : t.kindAt names = some .folder := by simp [kindAt, Entry.kindAt, hcs]
    have hsome : (t.kindAt (names ++ [name])).isSome := by simp [kindAt, Entry.kindAt, hget]
    have hlocate := locate_join_of_reach hq (hnames _ h) hfolder hsome
    simpa using ih (reach_of_locate hlocate) hget

/-- The names of a dump, whatever stands there: a dump's name, below folders that are not
excluded. -/
def DumpNames (excluded : List String) : List String → Prop
  | [] => False
  | [n] => isDumpName n
  | n :: m :: ms => n ∉ excluded ∧ DumpNames excluded (m :: ms)

lemma DumpNames.ne_nil {excluded ms : List String} (h : DumpNames excluded ms) : ms ≠ [] := by
  rintro rfl
  exact h

lemma IsDump.dumpNames {excluded : List String} {cs : List (String × Entry)} {ms : List String}
    (h : IsDump excluded cs ms) : DumpNames excluded ms := by
  induction h with
  | here h hname => exact hname
  | inside h hname hns ih =>
    cases hns with
    | here => exact ⟨hname, ih⟩
    | inside => exact ⟨hname, ih⟩

/-- A file with the names of a dump is one. -/
lemma isDump_of_kindAt {excluded : List String} {cs : List (String × Entry)} {ms : List String}
    {content : ByteArray} (hnames : DumpNames excluded ms)
    (hkind : (Entry.folder cs).kindAt ms = some (.file content)) : IsDump excluded cs ms := by
  induction ms generalizing cs with
  | nil => exact hnames.elim
  | cons n ms ih =>
    rw [Entry.kindAt_cons] at hkind
    obtain ⟨c, hc, hkind⟩ := Option.bind_eq_some_iff.1 hkind
    have hmem : (n, c) ∈ cs := mem_of_lookup hc
    cases ms with
    | nil =>
      cases c with
      | file content' => exact .here hmem hnames
      | folder inner => exact nomatch hkind
    | cons m ms =>
      cases c with
      | file content' =>
        rw [Entry.kindAt_file_cons] at hkind
        exact nomatch hkind
      | folder inner => exact .inside hmem hnames.1 (ih hnames.2 hkind)

/-- A file with the names of a dump below a root, or a root that is a file, is found there. -/
lemma FileTree.locate_of_dumpNames {t : FileTree} (hwf : t.WellFormed) {root : Path}
    {excluded names ms : List String} {content : ByteArray} (hroot : t.locate root = .ok names)
    (hms : ms = [] ∨ DumpNames excluded ms)
    (hkind : t.kindAt (names ++ ms) = some (.file content)) :
    t.locate (ms.foldl Path.join root) = .ok (names ++ ms) := by
  rcases hms with rfl | hms
  · rw [List.append_nil, List.foldl_nil, hroot]
  · have hfolder : t.kindAt names = some .folder :=
      folder_of_isSome_kindAt hms.ne_nil (by rw [hkind]; rfl)
    obtain ⟨cs, hcs⟩ := Entry.exists_eq_folder hfolder
    rw [kindAt, Entry.kindAt_append, hcs] at hkind
    obtain ⟨-, hlocate, -⟩ :=
      locate_of_isDump hwf (isDump_of_kindAt hms hkind) (reach_of_locate hroot) hcs
    exact hlocate

lemma FileTree.kindAt_of_mem_dumps? {t : FileTree} (hwf : t.WellFormed) {root p : Path}
    {exclude : List String} {files : List Path} (h : t.dumps? root exclude = some files)
    (hp : p ∈ files) :
    ∃ names ms content, t.locate root = .ok names ∧
      (ms = [] ∨ DumpNames (excludedFolders ++ exclude) ms) ∧ p = ms.foldl Path.join root ∧
      t.kindAt (names ++ ms) = some (.file content) := by
  rw [dumps?] at h
  rcases hroot : t.get? root with _ | ⟨content⟩ | ⟨cs⟩
  · rw [hroot] at h
    exact nomatch h
  · rw [hroot] at h
    obtain rfl := Option.some.inj h
    obtain rfl := List.mem_singleton.1 hp
    obtain ⟨names, hlocate, hget⟩ := get?_eq_some hroot
    refine ⟨names, [], content, hlocate, .inl rfl, rfl, ?_⟩
    rw [List.append_nil, kindAt, Entry.kindAt, hget]
    rfl
  · rw [hroot] at h
    obtain rfl := Option.some.inj h
    obtain ⟨names, hlocate, hget⟩ := get?_eq_some hroot
    obtain ⟨ms, hms, rfl⟩ := mem_dumpsIn_iff.1 (List.mem_mergeSort.1 hp)
    obtain ⟨content, -, hkind⟩ := locate_of_isDump hwf hms (reach_of_locate hlocate) hget
    exact ⟨names, ms, content, hlocate, .inr hms.dumpNames, rfl, hkind⟩

/-- The dumps of a root are the files at the names of dumps below it, or the root itself if it
is a file. -/
lemma FileTree.mem_dumps?_iff {t : FileTree} (hwf : t.WellFormed) {root p : Path}
    {exclude : List String} :
    (∃ files, t.dumps? root exclude = some files ∧ p ∈ files) ↔
      ∃ names ms content, t.locate root = .ok names ∧
        (ms = [] ∨ DumpNames (excludedFolders ++ exclude) ms) ∧ p = ms.foldl Path.join root ∧
        t.kindAt (names ++ ms) = some (.file content) := by
  constructor
  · rintro ⟨files, hfiles, hp⟩
    exact kindAt_of_mem_dumps? hwf hfiles hp
  · rintro ⟨names, ms, content, hlocate, hms, rfl, hkind⟩
    have hroot : t.get? root = t.root.get? names := by rw [get?, hlocate]
    rw [dumps?, hroot]
    rcases hms with rfl | hms
    · rw [List.append_nil] at hkind
      rw [Entry.get?_of_kindAt_file hkind]
      exact ⟨_, rfl, List.mem_singleton_self root⟩
    · have hfolder : t.kindAt names = some .folder :=
        folder_of_isSome_kindAt hms.ne_nil (by rw [hkind]; rfl)
      obtain ⟨cs, hcs⟩ := Entry.exists_eq_folder hfolder
      rw [kindAt, Entry.kindAt_append, hcs] at hkind
      rw [hcs]
      have hdump : ms.foldl Path.join root ∈ dumpsIn (excludedFolders ++ exclude) root cs :=
        mem_dumpsIn_iff.2 ⟨ms, isDump_of_kindAt hms hkind, rfl⟩
      exact ⟨_, rfl, List.mem_mergeSort.2 hdump⟩

end MethodAudit
