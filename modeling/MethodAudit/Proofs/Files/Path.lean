import Mathlib.Data.List.Induction
import MethodAudit.Files.Path

/-!
Paths by their segments: joining a name, and the parent.

A path is the sequence of its segments, apart from empty ones that only repeat a slash.
Joining a name adds a segment, in place of an empty last one; the parent of a path that ends
in a name drops that name and what is blank before it.
-/

namespace MethodAudit.Path

/-! ### Segments -/

lemma not_mem_of_mem_splitOn {a : Char} {cs l : List Char} (h : l ∈ cs.splitOn a) : a ∉ l := by
  induction cs generalizing l with
  | nil =>
    rw [List.splitOn_nil, List.mem_singleton] at h
    simp [h]
  | cons c cs ih =>
    rw [List.splitOn_cons_eq_if_modifyHead] at h
    by_cases hc : c = a
    · rw [if_pos (by simp [hc])] at h
      rcases List.mem_cons.1 h with rfl | hmem
      · exact List.not_mem_nil
      · exact ih hmem
    · rw [if_neg (by simp [hc])] at h
      rcases hsplit : cs.splitOn a with _ | ⟨first, rest⟩
      · exact absurd hsplit (List.splitOn_ne_nil a cs)
      · rw [hsplit] at h ih
        rcases List.mem_cons.1 h with rfl | hmem
        · have := ih List.mem_cons_self
          simp [this, Ne.symm hc]
        · exact ih (List.mem_cons_of_mem _ hmem)

lemma not_slash_of_mem_segments {p : Path} {s : String} (h : s ∈ p.segments) : '/' ∉ s.toList := by
  obtain ⟨cs, hcs, rfl⟩ := List.mem_map.1 h
  rw [String.toList_ofList]
  exact not_mem_of_mem_splitOn hcs

lemma segments_ne_nil (p : Path) : p.segments ≠ [] := by
  simp [segments, List.splitOn_ne_nil]

lemma segments_of_not_slash {s : String} (h : '/' ∉ s.toList) : (Path.mk s).segments = [s] := by
  simp [segments, List.splitOn_eq_singleton h]

lemma segments_slash (a b : String) :
    (Path.mk (a ++ "/" ++ b)).segments = (Path.mk a).segments ++ (Path.mk b).segments := by
  have htext : (a ++ "/" ++ b).toList = a.toList ++ '/' :: b.toList := by
    simp [String.toList_append]
  simp [segments, htext, List.splitOn_append_cons_self]

lemma segments_intercalate {ss : List String} (hss : ss ≠ []) (h : ∀ s ∈ ss, '/' ∉ s.toList) :
    (Path.mk ("/".intercalate ss)).segments = ss := by
  have hmap : ∀ l ∈ ss.map String.toList, '/' ∉ l := by simpa using h
  have hne : ss.map String.toList ≠ [] := by simpa using hss
  have hsplit := List.splitOn_intercalate '/' hmap hne
  have hslash : "/".toList = ['/'] := rfl
  rw [segments, String.toList_intercalate, hslash, hsplit, List.map_map]
  simp [Function.comp_def]

lemma text_eq_intercalate (p : Path) : p.text = "/".intercalate p.segments := by
  have hjoin : ['/'].intercalate (p.text.toList.splitOn '/') = p.text.toList :=
    List.intercalate_splitOn '/'
  have hslash : "/".toList = ['/'] := rfl
  rw [← String.toList_inj, String.toList_intercalate, segments, List.map_map, hslash]
  simp only [Function.comp_def, String.toList_ofList, List.map_id']
  exact hjoin.symm

lemma isAbsolute_iff (p : Path) : p.isAbsolute ↔ ∃ s rest, p.segments = "" :: s :: rest := by
  have hslash : "/".toList = ['/'] := rfl
  rw [isAbsolute, String.startsWith_string_iff, hslash]
  constructor
  · rintro ⟨cs, hcs⟩
    rcases hsplit : cs.splitOn '/' with _ | ⟨first, rest⟩
    · exact absurd hsplit (List.splitOn_ne_nil '/' cs)
    · refine ⟨String.ofList first, rest.map String.ofList, ?_⟩
      rw [segments, ← hcs, List.singleton_append, List.splitOn_cons_eq_if_modifyHead,
        if_pos (beq_self_eq_true '/'), hsplit]
      rfl
  · rintro ⟨s, rest, h⟩
    rw [text_eq_intercalate, h, String.intercalate_cons_cons, String.toList_append,
      String.toList_append, hslash]
    exact ⟨_, rfl⟩

/-! ### Joining -/

lemma join_of_not_slash (p : Path) {name : String} (h : '/' ∉ name.toList) :
    p.join name = if p.text = "" || p.text.endsWith "/" then ⟨p.text ++ name⟩
      else ⟨p.text ++ "/" ++ name⟩ := by
  have hrel : ¬name.startsWith "/" := by
    rw [String.startsWith_string_iff]
    rintro ⟨cs, hcs⟩
    exact h (by rw [← hcs]; exact List.mem_cons_self)
  rw [join, if_neg hrel]

/-- Joining a name adds it after the segments, in place of an empty last one. -/
lemma segments_join (p : Path) {name : String} (h : '/' ∉ name.toList) :
    ∃ pre, (p.join name).segments = pre ++ [name] ∧
      (p.segments = pre ∨ p.segments = pre ++ [""]) := by
  have hname := segments_of_not_slash h
  rw [join_of_not_slash p h]
  by_cases hempty : p.text = ""
  · refine ⟨[], ?_, .inr ?_⟩
    · simpa [hempty] using hname
    · simp [segments, hempty]
  by_cases hend : p.text.endsWith "/"
  · rw [if_pos (by simp [hend])]
    obtain ⟨cs, hcs⟩ : "/".toList <:+ p.text.toList := by
      have : p.text.toSlice.endsWith "/" := hend
      simpa using String.Slice.endsWith_string_iff.1 this
    have htext : p.text = String.ofList cs ++ "/" ++ "" := by
      rw [← String.toList_inj, ← hcs]
      simp
    refine ⟨(Path.mk (String.ofList cs)).segments, ?_, .inr ?_⟩
    · have hjoin : p.text ++ name = String.ofList cs ++ "/" ++ name := by simp [htext]
      rw [hjoin, segments_slash, hname]
    · obtain ⟨text⟩ := p
      simp only at htext
      rw [htext, segments_slash]
      rfl
  · rw [if_neg (by simp [hempty, hend])]
    refine ⟨p.segments, ?_, .inl rfl⟩
    rw [segments_slash, hname]

lemma text_join_ne (p : Path) {name : String} (hne : name ≠ "") : (p.join name).text ≠ "" := by
  rw [join]
  split_ifs <;> simp [hne]

lemma isAbsolute_join (p : Path) {name : String} (h : '/' ∉ name.toList) :
    (p.join name).isAbsolute = p.isAbsolute := by
  have hslash : "/".toList = ['/'] := rfl
  have hname : ¬['/'] <+: name.toList := by
    rintro ⟨cs, hcs⟩
    exact h (by rw [← hcs]; exact List.mem_cons_self)
  rw [Bool.eq_iff_iff, isAbsolute, isAbsolute, String.startsWith_string_iff,
    String.startsWith_string_iff, join_of_not_slash p h, hslash]
  rcases hchars : p.text.toList with _ | ⟨c, cs⟩
  · have hempty : p.text = "" := by rw [← String.toList_inj, hchars]; rfl
    simpa [hempty] using hname
  · split_ifs <;> simp [String.toList_append, hchars]

/-! ### The parent -/

/-- A segment that leads nowhere. -/
def isBlank (s : String) : Bool := s = "" || s = "."

/-- The segments of a path that lead somewhere. -/
def moves (ss : List String) : List String := ss.filter fun s => !isBlank s

lemma moves_append (ss ts : List String) : moves (ss ++ ts) = moves ss ++ moves ts :=
  List.filter_append ..

lemma moves_cons_of_blank {s : String} (h : isBlank s) (ss : List String) :
    moves (s :: ss) = moves ss := by
  simp [moves, h]

lemma moves_cons_of_not_blank {s : String} (h : ¬isBlank s) (ss : List String) :
    moves (s :: ss) = s :: moves ss := by
  simp [moves, h]

lemma moves_eq_nil {ss : List String} (h : ∀ s ∈ ss, isBlank s) : moves ss = [] :=
  List.filter_eq_nil_iff.2 fun s hs => by simp [h s hs]

lemma isBlank_of_component?_eq_none {s : String} {i : Nat} {absolute : Bool}
    (h : component? s i absolute = none) : isBlank s := by
  rw [component?] at h
  split_ifs at h with h₁ h₂ h₃ h₄ <;> simp_all [isBlank]

/-- The root is the empty segment before the first slash. -/
lemma component?_eq_root {s : String} {i : Nat} {absolute : Bool}
    (h : component? s i absolute = some .root) : s = "" ∧ i = 0 ∧ absolute := by
  rw [component?] at h
  split_ifs at h <;> simp_all

lemma component?_of_isName {s : String} (h : ¬isBlank s) (hup : s ≠ "..") (i : Nat)
    (absolute : Bool) : component? s i absolute = some (.normal s) := by
  simp only [isBlank, Bool.or_eq_true, decide_eq_true_eq, not_or] at h
  rw [component?, if_neg h.1, if_neg h.2, if_neg hup]

/-- The components of some segments with their positions. -/
def placedIn (absolute : Bool) (ss : List String) : List (Component × Nat) :=
  ss.zipIdx.filterMap fun (s, i) => (component? s i absolute).map (·, i)

lemma placedIn_concat (absolute : Bool) (ss : List String) (s : String) :
    placedIn absolute (ss ++ [s]) =
      placedIn absolute ss ++ ((component? s ss.length absolute).map (·, ss.length)).toList := by
  rw [placedIn, List.zipIdx_append, List.filterMap_append, ← placedIn]
  rcases hc : component? s ss.length absolute with _ | c <;> simp [hc]

/-- The last component among some segments stands before blank ones only. -/
lemma placedIn_cases (absolute : Bool) (ss : List String) :
    (placedIn absolute ss = [] ∧ ∀ s ∈ ss, isBlank s) ∨
      ∃ before s after c rest, ss = before ++ [s] ++ after ∧ (∀ s ∈ after, isBlank s) ∧
        component? s before.length absolute = some c ∧
        (placedIn absolute ss).reverse = (c, before.length) :: rest := by
  induction ss using List.reverseRecOn with
  | nil => exact .inl ⟨rfl, nofun⟩
  | append_singleton ss s ih =>
    rw [placedIn_concat]
    rcases hc : component? s ss.length absolute with _ | c
    · have hblank := isBlank_of_component?_eq_none hc
      rcases ih with ⟨hnil, hall⟩ | ⟨before, s', after, c, rest, rfl, hafter, hs', hrest⟩
      · refine .inl ⟨by simp [hnil], fun s' hs' => ?_⟩
        rcases List.mem_append.1 hs' with hmem | hmem
        · exact hall s' hmem
        · exact List.mem_singleton.1 hmem ▸ hblank
      · refine .inr ⟨before, s', after ++ [s], c, rest, by simp, fun s'' hs'' => ?_, hs',
          by simpa using hrest⟩
        rcases List.mem_append.1 hs'' with hmem | hmem
        · exact hafter s'' hmem
        · exact List.mem_singleton.1 hmem ▸ hblank
    · exact .inr ⟨ss, s, [], c, (placedIn absolute ss).reverse, by simp, nofun, hc, by simp⟩

/-- An absolute path starts with the empty segment before its first slash. -/
lemma isAbsolute_iff_head? {p : Path} {ss ts : List String} (h : p.segments = ss ++ ts)
    (hss : ss ≠ []) (hts : ts ≠ []) : p.isAbsolute ↔ ss.head? = some "" := by
  obtain ⟨s, ss, rfl⟩ := List.exists_cons_of_ne_nil hss
  obtain ⟨r, rest, hrest⟩ := List.exists_cons_of_ne_nil (List.append_ne_nil_of_right_ne_nil ss hts)
  rw [isAbsolute_iff, h, List.cons_append, hrest]
  simp

/-- Where no component stands before a name, the path is relative. -/
lemma not_isAbsolute_of_placedIn_eq_nil {p : Path} {init : List String} {last : String}
    (hsegments : p.segments = init ++ [last]) (hnil : placedIn p.isAbsolute init = []) :
    ¬p.isAbsolute := by
  intro habs
  cases init with
  | nil => simp [isAbsolute_iff, hsegments] at habs
  | cons s init =>
    have hhead := (isAbsolute_iff_head? hsegments (by simp) (by simp)).1 habs
    obtain rfl : s = "" := by simpa using hhead
    simp [placedIn, component?, habs] at hnil

/-- The text of the first segments of a path has just these segments. -/
lemma segments_intercalate_left {p : Path} {ss ts : List String} (h : p.segments = ss ++ ts)
    (hss : ss ≠ []) : (Path.mk ("/".intercalate ss)).segments = ss := by
  refine segments_intercalate hss fun s hs => not_slash_of_mem_segments (p := p) ?_
  rw [h]
  exact List.mem_append_left _ hs

/-- Cutting a path off after a component other than the root keeps it absolute or relative. -/
lemma isAbsolute_intercalate_left {p : Path} {before after : List String} {s : String}
    {c : Component} (h : p.segments = (before ++ [s]) ++ after) (hafter : after ≠ [])
    (hs : component? s before.length p.isAbsolute = some c) (hroot : c ≠ .root) :
    (Path.mk ("/".intercalate (before ++ [s]))).isAbsolute = p.isAbsolute := by
  have hq := segments_intercalate_left h (by simp)
  have habs := isAbsolute_iff_head? h (by simp) hafter
  rw [Bool.eq_iff_iff, habs]
  cases before with
  | nil =>
    -- a single segment is no root, so neither path is absolute
    have hrel : s ≠ "" := by
      rintro rfl
      have hp : p.isAbsolute := habs.2 rfl
      simp [component?, hp] at hs
      exact hroot hs.symm
    rw [isAbsolute_iff, hq]
    simp [hrel]
  | cons b before =>
    have hsplit : (Path.mk ("/".intercalate (b :: before ++ [s]))).segments =
        (b :: before) ++ [s] := hq
    simpa using isAbsolute_iff_head? hsplit (by simp) (by simp)

/-- The parent of a path that ends in a name leads where the segments before the name do. -/
lemma exists_parent? {p : Path} {init : List String} {last : String}
    (hsegments : p.segments = init ++ [last]) (hlast : ¬isBlank last) (hup : last ≠ "..") :
    ∃ q, p.parent? = some q ∧ q.isAbsolute = p.isAbsolute ∧ moves q.segments = moves init := by
  have hplaced : p.placed.reverse =
      (.normal last, init.length) :: (placedIn p.isAbsolute init).reverse := by
    have : p.placed = placedIn p.isAbsolute (init ++ [last]) := by rw [placed, hsegments]; rfl
    rw [this, placedIn_concat, component?_of_isName hlast hup]
    simp
  rcases placedIn_cases p.isAbsolute init with
    ⟨hnil, hblank⟩ | ⟨before, s, after, c, rest, hinit, hafter, hs, hrest⟩
  · -- nothing but the name: the parent is empty
    refine ⟨⟨""⟩, by rw [parent?, hplaced, hnil]; rfl, ?_, ?_⟩
    · have hempty : ¬(Path.mk "").isAbsolute := by simp [isAbsolute_iff, segments]
      have hrel := not_isAbsolute_of_placedIn_eq_nil hsegments hnil
      rw [Bool.eq_false_iff.2 hempty, Bool.eq_false_iff.2 hrel]
    · rw [moves_eq_nil hblank]
      rfl
  · have hmoves : moves init = moves (before ++ [s]) := by
      rw [hinit, moves_append, moves_eq_nil hafter, List.append_nil]
    rw [hrest] at hplaced
    by_cases hroot : c = .root
    · -- directly below the root
      subst hroot
      obtain ⟨rfl, hzero, habs⟩ := component?_eq_root hs
      obtain rfl := List.length_eq_zero_iff.1 hzero
      refine ⟨⟨"/"⟩, by rw [parent?, hplaced], ?_, ?_⟩
      · rw [habs, isAbsolute_iff]
        exact ⟨"", [], rfl⟩
      · rw [hmoves]
        rfl
    · have hall : p.segments = (before ++ [s]) ++ (after ++ [last]) := by
        rw [hsegments, hinit, List.append_assoc]
      have htake : p.segments.take (before.length + 1) = before ++ [s] := by
        rw [hall]
        exact List.take_left' (by simp)
      refine ⟨⟨"/".intercalate (before ++ [s])⟩, ?_, ?_, ?_⟩
      · rw [parent?, hplaced]
        simp only [htake]
      · exact isAbsolute_intercalate_left hall (by simp) hs hroot
      · rw [segments_intercalate_left hall (by simp), hmoves]

end MethodAudit.Path
