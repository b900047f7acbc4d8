import Mathlib.Data.List.Nodup
import MethodAudit.Proofs.Discovery

/-!
The dumps below a folder, exactly and in order.

Below a root a path is given by its names from there, and the order of paths by components is that
of these lists of names, by the first name that differs. Each dump is met once, as the names in a
folder are all different, so the sorted list ascends strictly. Such a list is fixed by its members:
the order in which folders list their entries makes no difference.
-/

namespace MethodAudit

/-! ### Names of dumps -/

lemma eq_dot_of_dropWhile {cs rest : List Char} {c : Char}
    (h : cs.dropWhile (· ≠ '.') = c :: rest) : c = '.' := by
  have hhead := List.head?_dropWhile_not (fun c : Char => decide (c ≠ '.')) cs
  rw [h] at hhead
  simpa using hhead

/-- An extension has no dot, and stands behind a dot that is not at the front. -/
lemma extension?_eq_some_iff {name ext : String} :
    extension? name = some ext ↔
      '.' ∉ ext.toList ∧ name ≠ ".." ∧ ∃ stem, stem ≠ "" ∧ name = stem ++ "." ++ ext := by
  constructor
  · intro h
    have hsplit := List.takeWhile_append_dropWhile (p := fun c : Char => decide (c ≠ '.'))
      (l := name.toList.reverse)
    rw [extension?] at h
    split at h
    · next c d rest hdrop =>
      split_ifs at h with hname
      obtain rfl := Option.some.inj h
      obtain rfl := eq_dot_of_dropWhile hdrop
      refine ⟨?_, hname, String.ofList (rest.reverse ++ [d]), ?_, ?_⟩
      · rw [String.toList_ofList, List.mem_reverse]
        intro hmem
        simpa using List.all_eq_true.1 List.all_takeWhile '.' hmem
      · intro hempty
        have hchars := congrArg String.toList hempty
        simp at hchars
      · rw [hdrop] at hsplit
        have htext := congrArg List.reverse hsplit
        rw [← String.toList_inj]
        simpa using htext.symm
    · cases h
  · rintro ⟨hext, hname, stem, hstem, rfl⟩
    have hpos : ∀ c ∈ ext.toList.reverse, decide (c ≠ '.') = true := by
      intro c hc
      rw [decide_eq_true_eq]
      rintro rfl
      exact hext (List.mem_reverse.1 hc)
    have hchars : (stem ++ "." ++ ext).toList.reverse =
        ext.toList.reverse ++ '.' :: stem.toList.reverse := by
      simp
    obtain ⟨d, rest, hrest⟩ : ∃ d rest, stem.toList.reverse = d :: rest :=
      List.exists_cons_of_ne_nil (by simpa using hstem)
    rw [extension?]
    simp only [hchars, List.dropWhile_append_of_pos hpos, List.takeWhile_append_of_pos hpos, hrest]
    simp [hname]

/-- A dump's name has `.json` at its end and something before that. -/
lemma isDumpName_iff {name : String} :
    isDumpName name ↔ ∃ stem, stem ≠ "" ∧ name = stem ++ ".json" := by
  have hjson (stem : String) : stem ++ "." ++ "json" = stem ++ ".json" := String.append_assoc
  rw [isDumpName, decide_eq_true_eq, extension?_eq_some_iff]
  constructor
  · rintro ⟨-, -, stem, hstem, rfl⟩
    exact ⟨stem, hstem, hjson stem⟩
  · rintro ⟨stem, hstem, rfl⟩
    refine ⟨by decide, fun hname => ?_, stem, hstem, (hjson stem).symm⟩
    have hlast := congrArg (fun s : String => s.toList.getLast?) hname
    simp [String.toList_append] at hlast

/-! ### The order of paths below a root -/

namespace Path

/-- Joining a name adds a component. -/
lemma components_join (p : Path) {name : String} (h : IsName name) :
    (p.join name).components = p.components ++ [.normal name] := by
  obtain ⟨hempty, hdot, hup, hslash⟩ := h
  have hblank : ¬isBlank name := by simp [isBlank, hempty, hdot]
  obtain ⟨pre, hjoin, hp⟩ := segments_join p hslash
  have hlast : (p.join name).components =
      (placedIn p.isAbsolute pre).map (·.1) ++ [.normal name] := by
    rw [components, placed, hjoin, isAbsolute_join p hslash]
    rw [← placedIn, placedIn_concat, component?_of_isName hblank hup]
    simp
  have hinit : p.components = (placedIn p.isAbsolute pre).map (·.1) := by
    rcases hp with hp | hp
    · rw [components, placed, hp, ← placedIn]
    · -- the empty segment after a last slash is no root
      have hnone : component? "" pre.length p.isAbsolute = none := by
        cases pre with
        | nil =>
          have hrel : ¬p.isAbsolute := by simp [isAbsolute_iff, hp]
          simp [component?, hrel]
        | cons s pre => simp [component?]
      rw [components, placed, hp, ← placedIn, placedIn_concat, hnone]
      simp
  rw [hlast, hinit]

lemma components_foldl_join (p : Path) {ns : List String} (h : ∀ n ∈ ns, IsName n) :
    (ns.foldl join p).components = p.components ++ ns.map .normal := by
  induction ns generalizing p with
  | nil => simp
  | cons n ns ih =>
    rw [List.foldl_cons, ih _ fun m hm => h m (List.mem_cons_of_mem n hm),
      components_join p (h n List.mem_cons_self), List.map_cons, List.append_assoc,
      List.singleton_append]

lemma componentsLe_append (cs as bs : List Component) :
    componentsLe (cs ++ as) (cs ++ bs) = componentsLe as bs := by
  induction cs with
  | nil => rfl
  | cons c cs ih => simp [componentsLe, ih]

/-- Names are compared one after the other. -/
lemma componentsLe_normal_iff (ns ms : List String) :
    componentsLe (ns.map .normal) (ms.map .normal) = true ↔ ¬ms < ns := by
  induction ns generalizing ms with
  | nil => simp [componentsLe]
  | cons n ns ih =>
    cases ms with
    | nil => simp [componentsLe]
    | cons m ms =>
      rw [List.map_cons, List.map_cons, componentsLe, List.cons_lt_cons_iff]
      by_cases hnm : n = m
      · subst hnm
        simp [ih]
      · have hne : ¬(m = n ∧ ms < ns) := fun h => hnm h.1.symm
        rw [if_neg fun h => hnm (Component.normal.inj h), or_iff_left hne, String.not_lt]
        exact decide_eq_true_iff

lemma foldl_join_le_iff (p : Path) {ns ms : List String} (hns : ∀ n ∈ ns, IsName n)
    (hms : ∀ n ∈ ms, IsName n) :
    le (ns.foldl join p) (ms.foldl join p) = componentsLe (ns.map .normal) (ms.map .normal) := by
  rw [le, components_foldl_join p hns, components_foldl_join p hms, componentsLe_append]

end Path

/-! ### Every dump once -/

lemma IsDump.isName {excluded : List String} {cs : List (String × Entry)} {ns : List String}
    (h : IsDump excluded cs ns) (hcs : (Entry.folder cs).Sound) : ∀ n ∈ ns, IsName n := by
  induction h with
  | here h hname =>
    intro n hn
    rw [List.mem_singleton.1 hn]
    exact hcs.children.1 _ h
  | inside h hname hns ih =>
    intro n hn
    rcases List.mem_cons.1 hn with rfl | hn
    · exact hcs.children.1 _ h
    · exact ih (hcs.children.2.2 _ h) n hn

/-- The first name of a dump is that of an entry. -/
lemma IsDump.head?_mem {excluded : List String} {cs : List (String × Entry)} {ns : List String}
    (h : IsDump excluded cs ns) : ∃ n ∈ cs.map Prod.fst, ns.head? = some n := by
  cases h with
  | here h hname => exact ⟨_, List.mem_map_of_mem h, rfl⟩
  | inside h hname hns => exact ⟨_, List.mem_map_of_mem h, rfl⟩

lemma Entry.Sound.uncons {c : String × Entry} {cs : List (String × Entry)}
    (h : (Entry.folder (c :: cs)).Sound) :
    c.1 ∉ cs.map Prod.fst ∧ c.2.Sound ∧ (Entry.folder cs).Sound := by
  obtain ⟨hnames, hnodup, hsound⟩ := h.children
  rw [Entry.children, List.map_cons, List.nodup_cons] at hnodup
  refine ⟨hnodup.1, hsound c List.mem_cons_self, .folder (fun d hd => ?_) hnodup.2 fun d hd => ?_⟩
  · exact hnames d (List.mem_cons_of_mem c hd)
  · exact hsound d (List.mem_cons_of_mem c hd)

/-- Names that start with that of an entry are none of those found among the others. -/
lemma ne_of_mem_dumpNamesIn {excluded : List String} {name : String} {cs : List (String × Entry)}
    (h : name ∉ cs.map Prod.fst) {ms ns : List String} (hns : ns ∈ dumpNamesIn excluded cs) :
    name :: ms ≠ ns := by
  rintro rfl
  obtain ⟨n, hn, hhead⟩ := (mem_dumpNamesIn_iff.1 hns).head?_mem
  exact h (Option.some.inj hhead ▸ hn)

lemma nodup_dumpNamesIn {excluded : List String} {cs : List (String × Entry)}
    (h : (Entry.folder cs).Sound) : (dumpNamesIn excluded cs).Nodup := by
  induction cs using dumpNamesIn.induct with
  | case1 =>
    rw [dumpNamesIn]
    exact .nil
  | case2 name content rest ih =>
    obtain ⟨hname, -, hrest⟩ := h.uncons
    rw [dumpNamesIn]
    refine List.nodup_append.2 ⟨?_, ih hrest, fun ms hms ns hns => ?_⟩
    · split_ifs <;> simp
    · split_ifs at hms
      · rw [List.mem_singleton.1 hms]
        exact ne_of_mem_dumpNamesIn hname hns
      · cases hms
  | case3 name inner rest ihInner ihRest =>
    obtain ⟨hname, hinner, hrest⟩ := h.uncons
    rw [dumpNamesIn]
    refine List.nodup_append.2 ⟨?_, ihRest hrest, fun ms hms ns hns => ?_⟩
    · split_ifs
      · exact .nil
      · exact (ihInner hinner).map List.cons_injective
    · split_ifs at hms
      · cases hms
      · obtain ⟨ms, -, rfl⟩ := List.mem_map.1 hms
        exact ne_of_mem_dumpNamesIn hname hns

/-! ### Exactly the dumps, in order -/

/-- A file below the folder at `names` that counts as a dump: its name has something before a last
`.json`, and no folder on the way down to it has an excluded name. -/
def FileTree.HasDump (t : FileTree) (names exclude ns : List String) : Prop :=
  ∃ folders stem content, ns = folders ++ [stem ++ ".json"] ∧ stem ≠ "" ∧
    t.kindAt (names ++ ns) = some (.file content) ∧
    ∀ f ∈ folders, f ∉ [".git", ".deadsel", "target", "node_modules", "DerivedData"] ∧ f ∉ exclude

lemma dumpNames_concat {excluded folders : List String} {name : String} :
    DumpNames excluded (folders ++ [name]) ↔ (∀ f ∈ folders, f ∉ excluded) ∧ isDumpName name := by
  induction folders with
  | nil => simp [DumpNames]
  | cons f folders ih =>
    obtain ⟨m, ms, hms⟩ : ∃ m ms, folders ++ [name] = m :: ms :=
      List.exists_cons_of_ne_nil (by simp)
    rw [List.cons_append, hms, DumpNames, ← hms, ih, List.forall_mem_cons, and_assoc]

lemma dumpNames_iff {excluded ns : List String} :
    DumpNames excluded ns ↔ ∃ folders stem, ns = folders ++ [stem ++ ".json"] ∧ stem ≠ "" ∧
      ∀ f ∈ folders, f ∉ excluded := by
  constructor
  · intro h
    obtain ⟨folders, name, rfl⟩ := (List.eq_nil_or_concat' ns).resolve_left h.ne_nil
    obtain ⟨hfolders, hname⟩ := dumpNames_concat.1 h
    obtain ⟨stem, hstem, rfl⟩ := isDumpName_iff.1 hname
    exact ⟨folders, stem, rfl, hstem, hfolders⟩
  · rintro ⟨folders, stem, rfl, hstem, hfolders⟩
    exact dumpNames_concat.2 ⟨hfolders, isDumpName_iff.2 ⟨stem, hstem, rfl⟩⟩

namespace FileTree

variable {t : FileTree} {root : Path} {names exclude : List String} {cs : List (String × Entry)}

lemma hasDump_iff (hwf : t.WellFormed) (hroot : t.locate root = .ok names)
    (hcs : t.root.get? names = some (.folder cs)) {ns : List String} :
    t.HasDump names exclude ns ↔ IsDump (excludedFolders ++ exclude) cs ns := by
  have hexcluded : ∀ f, f ∉ excludedFolders ++ exclude ↔
      f ∉ [".git", ".deadsel", "target", "node_modules", "DerivedData"] ∧ f ∉ exclude := by
    intro f
    rw [List.mem_append, not_or, excludedFolders]
  constructor
  · rintro ⟨folders, stem, content, hns, hstem, hkind, hfolders⟩
    rw [kindAt, Entry.kindAt_append, hcs] at hkind
    refine isDump_of_kindAt (dumpNames_iff.2 ⟨folders, stem, hns, hstem, fun f hf => ?_⟩) hkind
    exact (hexcluded f).2 (hfolders f hf)
  · intro h
    obtain ⟨content, -, hkind⟩ := locate_of_isDump hwf h (reach_of_locate hroot) hcs
    obtain ⟨folders, stem, hns, hstem, hfolders⟩ := dumpNames_iff.1 h.dumpNames
    exact ⟨folders, stem, content, hns, hstem, hkind, fun f hf => (hexcluded f).1 (hfolders f hf)⟩

/-- The names of the dumps below a folder, in order. -/
def sortedNames (excluded : List String) (cs : List (String × Entry)) : List (List String) :=
  (dumpNamesIn excluded cs).mergeSort fun ns ms =>
    Path.componentsLe (ns.map .normal) (ms.map .normal)

lemma pairwise_sortedNames {excluded : List String} (h : (Entry.folder cs).Sound) :
    (sortedNames excluded cs).Pairwise (· < ·) := by
  have hle := Path.componentsLe_normal_iff
  have hsorted : (sortedNames excluded cs).Pairwise fun ns ms => ¬ms < ns := by
    refine (List.pairwise_mergeSort (fun as bs cs => ?_) (fun as bs => ?_) _).imp (hle _ _).1
    · rw [hle, hle, hle, List.not_lt, List.not_lt, List.not_lt]
      exact List.le_trans
    · rw [Bool.or_eq_true, hle, hle, List.not_lt, List.not_lt]
      exact List.le_total as bs
  have hnodup : (sortedNames excluded cs).Nodup :=
    (List.mergeSort_perm _ _).nodup_iff.2 (nodup_dumpNamesIn h)
  refine (hsorted.and hnodup).imp fun {ns ms} hne => ?_
  by_contra hlt
  exact hne.2 (List.le_antisymm (List.not_lt.1 hne.1) (List.not_lt.1 hlt))

lemma sort_dumpsIn {excluded : List String} (h : (Entry.folder cs).Sound) (root : Path) :
    Path.sort (dumpsIn excluded root cs) =
      (sortedNames excluded cs).map fun ns => ns.foldl Path.join root := by
  have hnames : ∀ ns ∈ dumpNamesIn excluded cs, ∀ n ∈ ns, IsName n :=
    fun ns hns => (mem_dumpNamesIn_iff.1 hns).isName h
  rw [Path.sort, dumpsIn_eq_map, sortedNames, List.map_mergeSort]
  intro ns hns ms hms
  exact (Path.foldl_join_le_iff root (hnames ns hns) (hnames ms hms)).symm

lemma exists_found (hwf : t.WellFormed) (hroot : t.locate root = .ok names)
    (hfolder : t.kindAt names = some .folder) (exclude : List String) :
    ∃ found : List (List String),
      t.dumps? root exclude = some (found.map fun ns => ns.foldl Path.join root) ∧
      (∀ ns, ns ∈ found ↔ t.HasDump names exclude ns) ∧ found.Pairwise (· < ·) := by
  obtain ⟨cs, hcs⟩ := Entry.exists_eq_folder hfolder
  have hsound : (Entry.folder cs).Sound := hwf.sound.get? hcs
  have hget : t.get? root = some (.folder cs) := by rw [get?, hroot, ← hcs]
  refine ⟨sortedNames (excludedFolders ++ exclude) cs, ?_, fun ns => ?_,
    pairwise_sortedNames hsound⟩
  · rw [dumps?, hget]
    exact congrArg some (sort_dumpsIn hsound root)
  · rw [sortedNames, List.mem_mergeSort, mem_dumpNamesIn_iff, hasDump_iff hwf hroot hcs]

/-- Lists that ascend strictly and have the same members are equal. -/
lemma eq_of_ascending {as bs : List (List String)} (has : as.Pairwise (· < ·))
    (hbs : bs.Pairwise (· < ·)) (hmem : ∀ ns, ns ∈ as ↔ ns ∈ bs) : as = bs := by
  have hnodup {cs : List (List String)} (hcs : cs.Pairwise (· < ·)) : cs.Nodup := by
    refine hcs.imp ?_
    rintro ns _ hlt rfl
    exact List.lt_irrefl ns hlt
  refine List.Perm.eq_of_pairwise (fun ns ms _ _ hlt hgt => ?_) has hbs ?_
  · exact absurd (List.lt_trans hlt hgt) (List.lt_irrefl ns)
  · exact (List.perm_ext_iff_of_nodup (hnodup has) (hnodup hbs)).2 hmem

/-- **Discovery** finds exactly the dumps below a folder, each once, and lists them in strictly
ascending order, component by component. Only folders below the root are excluded by their names.
The order in which folders list their entries makes no difference. -/
theorem dumps?_eq_hasDump_ascending (hwf : t.WellFormed) (hroot : t.locate root = .ok names)
    (hfolder : t.kindAt names = some .folder) (exclude : List String) :
    ∃ found : List (List String),
      t.dumps? root exclude = some (found.map fun ns => ns.foldl Path.join root) ∧
      (∀ ns, ns ∈ found ↔ t.HasDump names exclude ns) ∧ found.Pairwise (· < ·) ∧
      (∀ ns ∈ found, t.locate (ns.foldl Path.join root) = .ok (names ++ ns) ∧
        (ns.foldl Path.join root).components = root.components ++ ns.map .normal) ∧
      ∀ t' : FileTree, t'.WellFormed → t'.here = t.here → (∀ ms, t'.kindAt ms = t.kindAt ms) →
        t'.dumps? root exclude = t.dumps? root exclude := by
  obtain ⟨found, hfound, hmem, hascending⟩ := exists_found hwf hroot hfolder exclude
  refine ⟨found, hfound, hmem, hascending, fun ns hns => ?_, fun t' hwf' hhere hkind => ?_⟩
  · obtain ⟨cs, hcs⟩ := Entry.exists_eq_folder hfolder
    have hdump := (hasDump_iff hwf hroot hcs).1 ((hmem ns).1 hns)
    obtain ⟨-, hlocate, -⟩ := locate_of_isDump hwf hdump (reach_of_locate hroot) hcs
    exact ⟨hlocate, Path.components_foldl_join root (hdump.isName (hwf.sound.get? hcs))⟩
  · have hfolder' : t'.kindAt names = some .folder := (hkind names).trans hfolder
    have hroot' : t'.locate root = .ok names :=
      locate_of_folders hhere (fun ms hms => (hkind ms).trans hms) (by rw [hfolder']; rfl) hroot
    obtain ⟨found', hfound', hmem', hascending'⟩ := exists_found hwf' hroot' hfolder' exclude
    have hsame : found' = found := by
      refine eq_of_ascending hascending' hascending fun ns => ?_
      rw [hmem', hmem]
      simp only [HasDump, hkind]
    rw [hfound', hfound, hsame]

/-! ### Odd names -/

/-- A file that is named like an excluded folder, names that start with dots, and a folder that is
named like a dump. -/
def oddEntries : List (String × Entry) := [
  ("a-b.json", .file .empty),
  ("a", .folder [("b.json", .file .empty)]),
  ("build", .folder [("b.json", .file .empty)]),
  ("build.json", .file .empty),
  (".json", .file .empty),
  ("..json", .file .empty),
  ("c.json", .folder [])]

/-- A root with an excluded name. -/
def inTarget (cs : List (String × Entry)) : FileTree := ⟨.folder [("target", .folder cs)], []⟩

lemma wellFormed_inTarget (h : (Entry.folder cs).Sound) : (inTarget cs).WellFormed := by
  refine ⟨.folder ?_ (by simp) ?_, rfl, by simp [inTarget]⟩ <;> simp [IsName, h]

lemma sound_oddEntries : (Entry.folder oddEntries).Sound := by
  have hempty : (Entry.folder []).Sound := Entry.sound_emptyFolder
  have hone : (Entry.folder [("b.json", .file .empty)]).Sound := by
    refine .folder ?_ (by simp) ?_ <;> simp [IsName, Entry.Sound.file]
  refine .folder ?_ (by decide) ?_ <;>
    simp [oddEntries, IsName, Entry.Sound.file, hone, hempty]

lemma sound_reverse (h : (Entry.folder cs).Sound) : (Entry.folder cs.reverse).Sound := by
  obtain ⟨hnames, hnodup, hsound⟩ := h.children
  rw [Entry.children] at hnames hnodup hsound
  exact .folder (by simpa using hnames) (by simpa using hnodup) (by simpa using hsound)

lemma lookup_reverse (h : (cs.map Prod.fst).Nodup) (n : String) :
    cs.reverse.lookup n = cs.lookup n := by
  have hreverse : (cs.reverse.map Prod.fst).Nodup := by simpa using h
  refine Option.ext fun e => ⟨fun he => ?_, fun he => ?_⟩
  · exact lookup_of_mem h (List.mem_reverse.1 (mem_of_lookup he))
  · exact lookup_of_mem hreverse (List.mem_reverse.2 (mem_of_lookup he))

lemma kindAt_inTarget_reverse (h : (Entry.folder cs).Sound) (ms : List String) :
    (inTarget cs.reverse).kindAt ms = (inTarget cs).kindAt ms := by
  have hlookup := lookup_reverse h.children.2.1
  rw [Entry.children] at hlookup
  rcases ms with _ | ⟨n, _ | ⟨m, ms⟩⟩
  · rfl
  · simp only [kindAt, inTarget, Entry.kindAt_cons, Entry.children, lookup_cons_ite]
    split <;> rfl
  · simp only [kindAt, inTarget, Entry.kindAt_cons, Entry.children, lookup_cons_ite]
    split
    · simp [hlookup]
    · rfl

theorem dumps?_eq_hasDump_ascending_odd :
    ∃ found : List (List String),
      (inTarget oddEntries).dumps? ⟨"target"⟩ ["build", "build.json"] =
        some (found.map fun ns => ns.foldl Path.join ⟨"target"⟩) ∧
      found.Pairwise (· < ·) ∧ ["a", "b.json"] ∈ found ∧ ["a-b.json"] ∈ found ∧
      ["build.json"] ∈ found ∧ ["..json"] ∈ found ∧ [".json"] ∉ found ∧
      ["build", "b.json"] ∉ found ∧ ["c.json"] ∉ found ∧
      (inTarget oddEntries.reverse).dumps? ⟨"target"⟩ ["build", "build.json"] =
        (inTarget oddEntries).dumps? ⟨"target"⟩ ["build", "build.json"] := by
  have hwf := wellFormed_inTarget sound_oddEntries
  have hroot : (inTarget oddEntries).locate ⟨"target"⟩ = .ok ["target"] := by decide +kernel
  obtain ⟨found, hfound, hmem, hascending, -, hsame⟩ :=
    dumps?_eq_hasDump_ascending hwf hroot rfl ["build", "build.json"]
  refine ⟨found, hfound, hascending, (hmem _).2 ?_, (hmem _).2 ?_, (hmem _).2 ?_, (hmem _).2 ?_,
    fun h => ?_, fun h => ?_, fun h => ?_, hsame _ (wellFormed_inTarget ?_) rfl ?_⟩
  · exact ⟨["a"], "b", .empty, rfl, by decide, rfl, by decide⟩
  · exact ⟨[], "a-b", .empty, rfl, by decide, rfl, by decide⟩
  · exact ⟨[], "build", .empty, rfl, by decide, rfl, by decide⟩
  · exact ⟨[], ".", .empty, rfl, by decide, rfl, by decide⟩
  · obtain ⟨folders, stem, -, hns, hstem, -⟩ := (hmem _).1 h
    have hname : ".json" = stem ++ ".json" := by
      simpa using congrArg List.getLast? hns
    have hlength := congrArg String.length hname
    rw [String.length_append] at hlength
    exact hstem (String.length_eq_zero_iff.1 (by omega))
  · obtain ⟨folders, stem, -, hns, -, -, hfolders⟩ := (hmem _).1 h
    obtain rfl : ["build"] = folders := by
      simpa using congrArg List.dropLast hns
    simpa using (hfolders "build" (by simp)).2
  · obtain ⟨-, -, content, -, -, hkind, -⟩ := (hmem _).1 h
    cases hkind
  · exact sound_reverse sound_oddEntries
  · exact kindAt_inTarget_reverse sound_oddEntries

end FileTree

end MethodAudit
