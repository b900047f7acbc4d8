import MethodAudit.Proofs.Files.Below

/-!
Paths without a step up.

Such a path aims at the names of its segments, whatever stands in the tree: if it leads
anywhere, it leads there. Making the folders of the path either finds a file in the way and
changes nothing, or leaves folders all along it and changes nothing else.
-/

namespace MethodAudit

namespace Path

/-- No component is a step up. -/
def GoesDown (p : Path) : Prop := Component.parent ∉ p.components

lemma component?_eq_parent {s : String} {i : Nat} {absolute : Bool} :
    component? s i absolute = some .parent ↔ s = ".." := by
  rw [component?]
  constructor
  · intro h
    split_ifs at h with hempty hfront hdot hfront hup
    · cases h
    · cases h
    · exact hup
    · cases h
  · rintro rfl
    rfl

lemma goesDown_iff {p : Path} : p.GoesDown ↔ ".." ∉ p.segments := by
  rw [GoesDown, components, placed, not_iff_not, List.mem_map]
  constructor
  · rintro ⟨⟨c, i⟩, hmem, rfl⟩
    obtain ⟨⟨s, j⟩, hs, hc⟩ := List.mem_filterMap.1 hmem
    obtain ⟨c, hc, heq⟩ := Option.map_eq_some_iff.1 hc
    obtain rfl := component?_eq_parent.1 (hc.trans (congrArg some (Prod.mk.inj heq).1))
    exact List.fst_mem_of_mem_zipIdx hs
  · intro h
    obtain ⟨i, hi⟩ := List.mem_iff_getElem?.1 h
    refine ⟨(.parent, i), List.mem_filterMap.2 ⟨("..", i), ?_, ?_⟩, rfl⟩
    · exact List.mem_zipIdx_iff_getElem?.2 hi
    · exact Option.map_eq_some_iff.2 ⟨.parent, component?_eq_parent.2 rfl, rfl⟩

instance (p : Path) : Decidable p.GoesDown := decidable_of_iff _ goesDown_iff.symm

lemma GoesDown.join {p : Path} (h : p.GoesDown) {name : String} (hname : IsName name) :
    (p.join name).GoesDown := by
  obtain ⟨pre, hjoin, hp⟩ := segments_join p hname.2.2.2
  have hpre : ".." ∉ pre := by
    intro hmem
    rcases hp with hp | hp
    · exact goesDown_iff.1 h (hp ▸ hmem)
    · exact goesDown_iff.1 h (hp ▸ List.mem_append_left _ hmem)
  rw [goesDown_iff, hjoin, List.mem_append, List.mem_singleton, not_or]
  exact ⟨hpre, hname.2.2.1.symm⟩

lemma GoesDown.parent? {p q : Path} (h : p.GoesDown) (hq : p.parent? = some q) : q.GoesDown := by
  rw [Path.parent?] at hq
  split at hq
  · cases hq
  · cases hq
  · exact Option.some.inj hq ▸ by decide
  · exact Option.some.inj hq ▸ by decide
  · next i _ _ _ _ =>
    obtain rfl := Option.some.inj hq
    have hne : p.segments.take (i + 1) ≠ [] := by simp [segments_ne_nil]
    rw [goesDown_iff, segments_intercalate_left (List.take_append_drop _ _).symm hne]
    exact fun hmem => goesDown_iff.1 h (List.mem_of_mem_take hmem)

lemma moves_join (p : Path) {name : String} (hname : IsName name) :
    moves (p.join name).segments = moves p.segments ++ [name] := by
  obtain ⟨pre, hjoin, hp⟩ := segments_join p hname.2.2.2
  have hblank : moves [""] = [] := rfl
  have hmove : moves [name] = [name] := by simp [moves, isBlank, hname.1, hname.2.1]
  rw [hjoin, moves_append, hmove]
  rcases hp with hp | hp
  · rw [hp]
  · rw [hp, moves_append, hblank, List.append_nil]

end Path

namespace FileTree

variable {t t' : FileTree}

/-! ### What stands along a list of names -/

lemma folder_above {ms names : List String} (hms : ms <+: names)
    (h : t.kindAt names = some .folder) : t.kindAt ms = some .folder := by
  obtain ⟨rest, rfl⟩ := hms
  cases rest with
  | nil => rwa [List.append_nil] at h
  | cons n rest => exact folder_of_isSome_kindAt (List.cons_ne_nil n rest) (by rw [h]; rfl)

/-- Below nothing is nothing. -/
lemma kindAt_eq_none_below {names ms : List String} (hms : names <+: ms)
    (h : t.kindAt names = none) : t.kindAt ms = none := by
  obtain ⟨rest, rfl⟩ := hms
  rw [kindAt, Entry.kindAt_append, get?_eq_none_iff.2 h]
  rfl

/-- A file stands where one of the folders along the names would have to. -/
def Obstructed (t : FileTree) (names : List String) : Prop :=
  ∃ ms content, ms <+: names ∧ t.kindAt ms = some (.file content)

lemma not_obstructed_of_folder {names : List String} (h : t.kindAt names = some .folder) :
    ¬t.Obstructed names := by
  rintro ⟨ms, content, hms, hfile⟩
  exact nomatch (folder_above hms h).symm.trans hfile

/-- `t'` has folders all along the names, where `t` had folders or nothing, and is `t`
elsewhere. -/
structure Paves (t t' : FileTree) (names : List String) : Prop where
  here : t'.here = t.here
  clear : ¬t.Obstructed names
  kinds (ms : List String) : t'.kindAt ms = if ms <+: names then some .folder else t.kindAt ms

lemma Paves.refl {names : List String} (h : t.kindAt names = some .folder) : t.Paves t names where
  here := rfl
  clear := not_obstructed_of_folder h
  kinds ms := by
    split
    · next hms => exact folder_above hms h
    · rfl

lemma Paves.folder {names : List String} (h : t.Paves t' names) :
    t'.kindAt names = some .folder := by
  rw [h.kinds, if_pos List.prefix_rfl]

/-- One folder that was missing along the names has been made. -/
lemma Paves.of_put {made : FileTree} {names ms : List String} (h : made.Paves t' names)
    (hms : ms <+: names) (hhere : made.here = t.here) (hnone : t.kindAt ms = none)
    (hmade : ∀ ns, made.kindAt ns = if ns = ms then some .folder else t.kindAt ns) :
    t.Paves t' names where
  here := h.here.trans hhere
  clear := by
    rintro ⟨ns, content, hns, hfile⟩
    have hne : ns ≠ ms := by
      rintro rfl
      exact nomatch hnone.symm.trans hfile
    exact h.clear ⟨ns, content, hns, by rw [hmade, if_neg hne, hfile]⟩
  kinds ns := by
    rw [h.kinds]
    split
    · rfl
    · next hns =>
      have hne : ns ≠ ms := fun heq => hns (heq ▸ hms)
      rw [hmade, if_neg hne]

/-- Behind a folder that has just been made nothing is in the way. -/
lemma not_obstructed_of_put {made : FileTree} {names ms : List String} (hms : ms <+: names)
    (hnone : t.kindAt ms = none)
    (hmade : ∀ ns, made.kindAt ns = if ns = ms then some .folder else t.kindAt ns) :
    ¬made.Obstructed names := by
  rintro ⟨ns, content, hns, hfile⟩
  have hfolder : made.kindAt ms = some .folder := by rw [hmade, if_pos rfl]
  rcases List.prefix_or_prefix_of_prefix hns hms with hle | hle
  · exact nomatch (folder_above hle hfolder).symm.trans hfile
  · rw [hmade, kindAt_eq_none_below hle hnone] at hfile
    split at hfile <;> exact nomatch hfile

/-! ### Following and making folders -/

/-- Without a step up a path can only lead to the names of its segments. -/
lemma eq_of_follow {names ss ns : List String} (hup : ".." ∉ ss)
    (h : t.follow names ss = .ok ns) : ns = names ++ Path.moves ss := by
  induction ss generalizing names with
  | nil =>
    rw [follow_nil] at h
    split at h
    · exact (Except.ok.inj h).symm.trans (List.append_nil names).symm
    · exact nomatch h
  | cons s ss ih =>
    obtain ⟨hs, hss⟩ := not_or.1 (mt List.mem_cons.2 hup)
    rw [follow_cons_of_folder (folder_of_follow_cons h)] at h
    by_cases hblank : Path.isBlank s
    · rw [if_pos hblank] at h
      rw [Path.moves_cons_of_blank hblank, ih hss h]
    · rw [if_neg hblank, if_neg (Ne.symm hs)] at h
      rw [Path.moves_cons_of_not_blank hblank, ih hss h, List.append_assoc, List.singleton_append]

/-- It does lead there if that is a folder. -/
lemma follow_of_folder {names ss : List String} (hup : ".." ∉ ss)
    (h : t.kindAt (names ++ Path.moves ss) = some .folder) :
    t.follow names ss = .ok (names ++ Path.moves ss) := by
  induction ss generalizing names with
  | nil =>
    have hnil : Path.moves [] = [] := rfl
    rw [hnil, List.append_nil] at h ⊢
    rw [follow_nil, h]
    rfl
  | cons s ss ih =>
    obtain ⟨hs, hss⟩ := not_or.1 (mt List.mem_cons.2 hup)
    rw [follow_cons_of_folder (folder_above (List.prefix_append ..) h)]
    by_cases hblank : Path.isBlank s
    · rw [Path.moves_cons_of_blank hblank] at h ⊢
      rw [if_pos hblank, ih hss h]
    · rw [Path.moves_cons_of_not_blank hblank, List.append_cons] at h
      rw [if_neg hblank, if_neg (Ne.symm hs), ih hss h, Path.moves_cons_of_not_blank hblank,
        List.append_assoc, List.singleton_append]

/-- Making folders without a step up does nothing if a file is in the way, and all otherwise. -/
lemma makeFolders_cases {names ss : List String} (hup : ".." ∉ ss)
    (h : t.kindAt names = some .folder) :
    (t.Obstructed (names ++ Path.moves ss) ∧
        ∃ problem, t.makeFolders names ss = (t, some problem)) ∨
      ∃ t', t.makeFolders names ss = (t', none) ∧ t.Paves t' (names ++ Path.moves ss) := by
  -- a folder that is made is followed by others only, so nothing is left half done
  induction ss generalizing t names with
  | nil => exact .inr ⟨t, rfl, .refl (by rwa [show Path.moves [] = [] from rfl, List.append_nil])⟩
  | cons s ss ih =>
    obtain ⟨hs, hss⟩ := not_or.1 (mt List.mem_cons.2 hup)
    by_cases hblank : s = "" || s = "."
    · rw [makeFolders, if_pos hblank, Path.moves_cons_of_blank hblank]
      exact ih hss h
    rw [makeFolders, if_neg hblank, if_neg (Ne.symm hs), Path.moves_cons_of_not_blank hblank,
      List.append_cons]
    have hnext : names ++ [s] <+: names ++ [s] ++ Path.moves ss := List.prefix_append ..
    rcases hget : t.root.get? (names ++ [s]) with _ | ⟨content⟩ | ⟨cs⟩
    · simp only [hget]
      have hnone : t.kindAt (names ++ [s]) = none := get?_eq_none_iff.1 hget
      have hmade := Entry.kindAt_put (show Entry.emptyFolder.IsBare from rfl) h
        (show t.kindAt (names ++ [s]) ≠ some .folder by simp [hnone])
      rcases ih (t := { t with root := t.root.put .emptyFolder (names ++ [s]) }) hss
          ((hmade _).trans (if_pos rfl)) with ⟨hfile, -⟩ | ⟨t', hmake, hpaves⟩
      · exact absurd hfile (not_obstructed_of_put hnext hnone hmade)
      · exact .inr ⟨t', hmake, hpaves.of_put hnext rfl hnone hmade⟩
    · simp only [hget]
      have hfile : t.kindAt (names ++ [s]) = some (.file content) := by
        rw [kindAt, Entry.kindAt, hget]
        rfl
      exact .inl ⟨⟨_, content, hnext, hfile⟩, _, rfl⟩
    · simp only [hget]
      exact ih hss (by rw [kindAt, Entry.kindAt, hget]; rfl)

/-! ### Where a path aims -/

/-- The names that a path without a step up stands for, whether or not something is there. -/
def aim (t : FileTree) (p : Path) : List String := t.origin p ++ Path.moves p.segments

lemma aim_join (p : Path) {name : String} (hname : IsName name) :
    t.aim (p.join name) = t.aim p ++ [name] := by
  rw [aim, aim, origin_join p hname.2.2.2, Path.moves_join p hname, List.append_assoc]

lemma aim_congr (hhere : t'.here = t.here) (p : Path) : t'.aim p = t.aim p := by
  rw [aim, aim, origin, origin, hhere]

/-- Every path starts from a folder if the relative ones do. -/
lemma folder_origin (hhere : t.kindAt t.here = some .folder) (p : Path) :
    t.kindAt (t.origin p) = some .folder := by
  rw [origin]
  split
  · exact folder_above List.nil_prefix hhere
  · exact hhere

variable {p : Path} (hdown : p.GoesDown)
include hdown

lemma eq_aim_of_reach {ns : List String} (h : t.reach p = .ok ns) : ns = t.aim p :=
  eq_of_follow (Path.goesDown_iff.1 hdown) h

lemma reach_of_folder (h : t.kindAt (t.aim p) = some .folder) : t.reach p = .ok (t.aim p) :=
  follow_of_folder (Path.goesDown_iff.1 hdown) h

lemma makeFolder_cases (hhere : t.kindAt t.here = some .folder) :
    (t.Obstructed (t.aim p) ∧ ∃ problem, t.makeFolder p = (t, some problem)) ∨
      ∃ t', t.makeFolder p = (t', none) ∧ t.Paves t' (t.aim p) :=
  makeFolders_cases (Path.goesDown_iff.1 hdown) (folder_origin hhere p)

end FileTree

end MethodAudit
