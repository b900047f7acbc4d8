import MethodAudit.Proofs.Files.Tree

/-!
Changes at a name below a path: the path leads to a folder, and what stands at the name in
this folder changes, and nothing else.
-/

namespace MethodAudit.FileTree

variable {t t' : FileTree}

/-- The way to the folder of a path, by the segments before a name below the path. -/
lemma reach_eq_ok_iff {p : Path} {name : String} (hname : '/' ∉ name.toList)
    {init ns : List String} (hinit : (p.join name).segments = init ++ [name])
    (hns : t.kindAt ns = some .folder) :
    t.reach p = .ok ns ↔ t.follow (t.origin p) init = .ok ns := by
  obtain ⟨pre, hjoin, hp⟩ := Path.segments_join p hname
  obtain rfl := List.append_cancel_right (hinit.symm.trans hjoin)
  rw [reach]
  rcases hp with hp | hp
  · rw [hp]
  · -- an empty segment at the end leads nowhere else
    have hmoves : Path.moves (init ++ [""]) = Path.moves init := by
      simp [Path.moves, Path.isBlank]
    rw [hp, ← follow_moves hns, hmoves, follow_moves hns]

/-- A file of a name below a path belongs into the folder that the path leads to. -/
lemma place_join_eq_ok {p : Path} {name n : String} {folder : List String}
    (hname : '/' ∉ name.toList) (h : t.place (p.join name) = .ok (folder, n)) :
    n = name ∧ t.reach p = .ok folder ∧ t.kindAt folder = some .folder := by
  obtain ⟨init, hsegments, -, hfollow, hfolder, -⟩ := place_eq_ok h
  obtain ⟨pre, hjoin, -⟩ := Path.segments_join p hname
  obtain ⟨-, hlast⟩ := List.append_inj' (hsegments.symm.trans hjoin) rfl
  obtain rfl : n = name := List.head_eq_of_cons_eq hlast
  rw [origin_join p hname] at hfollow
  exact ⟨rfl, (reach_eq_ok_iff hname hsegments hfolder).2 hfollow, hfolder⟩

/-- Making a folder in one that is there. -/
lemma makeFolder_join {p : Path} {name : String} (hname : IsName name) {ns : List String}
    (h : t.reach p = .ok ns) (hfolder : t.kindAt ns = some .folder)
    (hnone : t.kindAt (ns ++ [name]) = none) :
    t.makeFolder (p.join name) =
      ({ t with root := t.root.put .emptyFolder (ns ++ [name]) }, none) := by
  obtain ⟨init, hinit, -⟩ := Path.segments_join p hname.2.2.2
  have hfollow := (reach_eq_ok_iff hname.2.2.2 hinit hfolder).1 h
  have hblank : ¬(name = "" || name = ".") := by simp [hname.1, hname.2.1]
  rw [makeFolder, origin_join p hname.2.2.2, hinit, makeFolders_of_follow hfolder hfollow,
    makeFolders, if_neg hblank, if_neg hname.2.2.1]
  simp only [get?_eq_none_iff.2 hnone]
  rfl

/-- A write to a name below a path changes what stands at this name in the folder of the path. -/
lemma write_join_eq_ok {p : Path} {name : String} {content : ByteArray} (hname : '/' ∉ name.toList)
    (h : t.write (p.join name) content = .ok t') :
    ∃ ds, t.reach p = .ok ds ∧ t.kindAt ds = some .folder ∧ t.kindAt (ds ++ [name]) ≠ some .folder ∧
      t'.reach p = .ok ds ∧ t'.here = t.here ∧
      ∀ ms, t'.kindAt ms = if ms = ds ++ [name] then some (.file content) else t.kindAt ms := by
  obtain ⟨ds, n, hplace, hold, ht', hkind⟩ := write_eq_ok h
  obtain ⟨rfl, hreach, hfolder⟩ := place_join_eq_ok hname hplace
  have hhere : t'.here = t.here := by rw [ht']
  refine ⟨ds, hreach, hfolder, hold, ?_, hhere, hkind⟩
  exact reach_of_folders hhere (fun ms hms => folders_of_write h hms)
    (by rw [folders_of_write h hfolder]; rfl) hreach

/-- A name below a path that leads to a folder is a place for a file. -/
lemma place_join_of_reach {p : Path} {name : String} (hname : IsName name) {ds : List String}
    (h : t.reach p = .ok ds) (hfolder : t.kindAt ds = some .folder) :
    t.place (p.join name) = .ok (ds, name) := by
  obtain ⟨init, hinit, -⟩ := Path.segments_join p hname.2.2.2
  have hfollow : t.follow (t.origin (p.join name)) init = .ok ds := by
    rw [origin_join p hname.2.2.2]
    exact (reach_eq_ok_iff hname.2.2.2 hinit hfolder).1 h
  have hlast : (p.join name).segments.getLastD "" = name := by simp [hinit]
  have hinit' : (p.join name).segments.dropLast = init := by rw [hinit, List.dropLast_concat]
  rw [place, hlast, hinit', hfollow, if_neg (Path.text_join_ne p hname.1)]
  simp [bind, Except.bind, pure, Except.pure, (any_isFolder_get? t ds).2 hfolder, hname.1,
    hname.2.1, hname.2.2.1]

lemma exists_write_join {p : Path} {name : String} (hname : IsName name) {ds : List String}
    (h : t.reach p = .ok ds) (hfolder : t.kindAt ds = some .folder)
    (hold : t.kindAt (ds ++ [name]) ≠ some .folder) (content : ByteArray) :
    ∃ t', t.write (p.join name) content = .ok t' := by
  have hnot : (t.root.get? (ds ++ [name])).any Entry.isFolder = false :=
    Bool.eq_false_iff.2 (mt (any_isFolder_get? t _).1 hold)
  rw [write, place_join_of_reach hname h hfolder]
  exact ⟨_, by simp only [bind, Except.bind, hnot]; rfl⟩

lemma exists_rename_join {p : Path} {a b : String} (ha : IsName a) (hb : IsName b)
    {ds : List String} {content : ByteArray} (h : t.reach p = .ok ds)
    (hfolder : t.kindAt ds = some .folder) (hfile : t.kindAt (ds ++ [a]) = some (.file content))
    (hold : t.kindAt (ds ++ [b]) ≠ some .folder) :
    ∃ t', t.rename (p.join a) (p.join b) = .ok t' := by
  have hlocate : t.locate (p.join a) = .ok (ds ++ [a]) :=
    locate_join_of_reach h ha hfolder (by rw [hfile]; rfl)
  have hread : t.readBytes (p.join a) = .ok content := readBytes_eq_ok.2 ⟨_, hlocate, hfile⟩
  obtain ⟨written, hwrite⟩ := exists_write_join hb h hfolder hold content
  obtain ⟨new, hnew, -⟩ := readBytes_eq_ok.1 (readBytes_write hwrite)
  rw [rename, hread, hlocate]
  exact ⟨_, by simp only [bind, Except.bind, hwrite, hnew]; rfl⟩

/-- A rename within a folder moves the file there and leaves all else. -/
lemma rename_join_eq_ok {p : Path} {a b : String} (ha : IsName a) (hb : IsName b) (hne : a ≠ b)
    (h : t.rename (p.join a) (p.join b) = .ok t') :
    ∃ ds content, t.reach p = .ok ds ∧ t.kindAt (ds ++ [a]) = some (.file content) ∧
      t.kindAt (ds ++ [b]) ≠ some .folder ∧ t'.here = t.here ∧
      ∀ ms, t'.kindAt ms = if ms = ds ++ [b] then some (.file content)
        else if ms = ds ++ [a] then none else t.kindAt ms := by
  obtain ⟨content, names, written, new, hread, hlocate, hwrite, hnew, ht'⟩ := rename_eq_ok h
  obtain ⟨ds, hreach, -, hold, hreach', hhere, hkind⟩ := write_join_eq_ok hb.2.2.2 hwrite
  -- the names of the file before and after
  obtain ⟨ns, hns, -, rfl⟩ := exists_reach_of_locate_join ha hlocate
  obtain rfl : ds = ns := Except.ok.inj (hreach.symm.trans hns)
  obtain ⟨ms, hms, -, rfl⟩ := exists_reach_of_locate_join hb hnew
  obtain rfl : ds = ms := Except.ok.inj (hreach'.symm.trans hms)
  have hdiffer : ds ++ [a] ≠ ds ++ [b] := by simpa using hne
  have hfile : t.kindAt (ds ++ [a]) = some (.file content) := by
    obtain ⟨ns, hns, hfile⟩ := readBytes_eq_ok.1 hread
    rwa [← Except.ok.inj (hlocate.symm.trans hns)] at hfile
  have hfile' : written.kindAt (ds ++ [a]) = some (.file content) := by
    rw [hkind, if_neg hdiffer, hfile]
  rw [if_neg hdiffer] at ht'
  refine ⟨ds, content, hreach, hfile, hold, by rw [ht', hhere], fun ms => ?_⟩
  rw [ht', kindAt, kindAt_erase_file (by simp) hfile', hkind]
  by_cases hmsa : ms = ds ++ [a]
  · rw [if_pos hmsa, if_neg (hmsa ▸ hdiffer), if_pos hmsa]
  · rw [if_neg hmsa, if_neg hmsa]

end MethodAudit.FileTree
