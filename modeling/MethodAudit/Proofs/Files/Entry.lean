import MethodAudit.Files.Tree
import MethodAudit.Proofs.Lists

/-!
Entries by what stands where.

At a list of names there is nothing, a folder, or a file with its content. Putting and erasing
an entry change what stands at its own names and below them, and nothing else; both keep an
entry sound, that is, with proper names that are all different in each folder.
-/

namespace MethodAudit

/-- What an entry is, without what is inside a folder. -/
inductive Kind
  | folder
  | file (content : ByteArray)

/-- A name that a folder can give to an entry. -/
def IsName (s : String) : Prop := s ≠ "" ∧ s ≠ "." ∧ s ≠ ".." ∧ '/' ∉ s.toList

namespace Entry

def kind : Entry → Kind
  | .file content => .file content
  | .folder _ => .folder

@[simp] lemma kind_file (content : ByteArray) : (Entry.file content).kind = .file content := rfl

@[simp] lemma kind_folder (cs : List (String × Entry)) : (Entry.folder cs).kind = .folder := rfl

/-- What stands at a list of names below an entry. -/
def kindAt (e : Entry) (names : List String) : Option Kind := (e.get? names).map kind

@[simp] lemma get?_nil (e : Entry) : e.get? [] = some e := rfl

lemma get?_cons (e : Entry) (name : String) (rest : List String) :
    e.get? (name :: rest) = (e.children.lookup name).bind fun c => c.get? rest := rfl

@[simp] lemma kindAt_nil (e : Entry) : e.kindAt [] = some e.kind := rfl

lemma kindAt_cons (e : Entry) (name : String) (rest : List String) :
    e.kindAt (name :: rest) = (e.children.lookup name).bind fun c => c.kindAt rest := by
  rw [kindAt, get?_cons, Option.map_bind]
  rfl

lemma get?_append (e : Entry) (names rest : List String) :
    e.get? (names ++ rest) = (e.get? names).bind fun c => c.get? rest := by
  induction names generalizing e with
  | nil => rfl
  | cons name names ih =>
    rw [List.cons_append, get?_cons, get?_cons, Option.bind_assoc]
    exact Option.bind_congr fun c _ => ih c

lemma kindAt_append (e : Entry) (names rest : List String) :
    e.kindAt (names ++ rest) = (e.get? names).bind fun c => c.kindAt rest := by
  rw [kindAt, get?_append, Option.map_bind]
  rfl

/-- Nothing stands below a file. -/
lemma kindAt_file_cons (content : ByteArray) (name : String) (rest : List String) :
    (Entry.file content).kindAt (name :: rest) = none := rfl

lemma exists_eq_folder {e : Entry} {names : List String} (h : e.kindAt names = some .folder) :
    ∃ cs, e.get? names = some (.folder cs) := by
  obtain ⟨c, hc, hk⟩ := Option.map_eq_some_iff.1 h
  cases c with
  | file content => exact nomatch hk
  | folder cs => exact ⟨cs, hc⟩

lemma get?_of_kindAt_file {e : Entry} {names : List String} {content : ByteArray}
    (h : e.kindAt names = some (.file content)) : e.get? names = some (.file content) := by
  obtain ⟨c, hc, hk⟩ := Option.map_eq_some_iff.1 h
  cases c with
  | file content' => rw [hc, Kind.file.inj hk]
  | folder cs => exact nomatch hk

/-! ### Children -/

lemma lookup_eraseChild (name : String) (cs : List (String × Entry)) (n : String) :
    (eraseChild name cs).lookup n = if n = name then none else cs.lookup n := by
  induction cs with
  | nil => simp [eraseChild]
  | cons c cs ih =>
    obtain ⟨m, old⟩ := c
    rw [eraseChild] at ih ⊢
    rw [lookup_cons_ite]
    by_cases hm : m = name
    · rw [List.filter_cons_of_neg (by simp [hm]), ih, hm]
      by_cases hn : n = name <;> simp [hn]
    · rw [List.filter_cons_of_pos (by simp [hm]), lookup_cons_ite, ih]
      by_cases hnm : n = m
      · simp [hnm, hm]
      · simp [hnm]

/-! ### Putting and erasing -/

/-- There is nothing inside. -/
def IsBare (e : Entry) : Prop := e.children = []

lemma kindAt_of_isBare {e : Entry} (h : e.IsBare) (name : String) (rest : List String) :
    e.kindAt (name :: rest) = none := by
  rw [kindAt_cons, h]
  rfl

/-- Putting a file or an empty folder into a folder, where no folder was, changes what stands
there and nothing else. -/
lemma kindAt_put {e new : Entry} {folder : List String} {name : String} (hnew : new.IsBare)
    (hfolder : e.kindAt folder = some .folder)
    (hold : e.kindAt (folder ++ [name]) ≠ some .folder) (ms : List String) :
    (e.put new (folder ++ [name])).kindAt ms =
      if ms = folder ++ [name] then some new.kind else e.kindAt ms := by
  induction folder generalizing e ms with
  | nil =>
    obtain ⟨cs, rfl⟩ : ∃ cs, e = .folder cs := by
      obtain ⟨cs, hcs⟩ := exists_eq_folder hfolder
      exact ⟨cs, Option.some.inj hcs⟩
    cases ms with
    | nil => simp [put]
    | cons m ms =>
      rw [List.nil_append, put, put, kindAt_cons, children, lookup_assign, kindAt_cons]
      by_cases hm : m = name
      · subst hm
        cases ms with
        | nil => simp
        | cons m' ms =>
          -- below the new entry there is nothing, and neither was below the old one
          have hbelow : ((Entry.folder cs).children.lookup m).bind
              (fun c => c.kindAt (m' :: ms)) = none := by
            rw [List.nil_append, kindAt_cons] at hold
            rcases hl : (Entry.folder cs).children.lookup m with _ | c
            · rfl
            · cases c with
              | file content => rfl
              | folder ds => exact absurd (by rw [hl]; rfl) hold
          simpa [kindAt_of_isBare hnew] using hbelow.symm
      · simp [hm]
  | cons f folder ih =>
    rw [kindAt_cons] at hfolder
    obtain ⟨c, hc, hcf⟩ := Option.bind_eq_some_iff.1 hfolder
    rw [List.cons_append, kindAt_cons, hc] at hold
    have ih' := ih hcf hold
    cases ms with
    | nil =>
      cases e with
      | file content => cases hc
      | folder cs => simp [put]
    | cons m ms =>
      rw [List.cons_append, put, kindAt_cons, children, lookup_assign, kindAt_cons]
      by_cases hm : m = f
      · subst hm
        simp [hc, ih']
      · simp [hm]

lemma erase_cons_cons {e c : Entry} {name : String} (hc : e.children.lookup name = some c)
    (r : String) (rest : List String) :
    e.erase (name :: r :: rest) = .folder (assign name (c.erase (r :: rest)) e.children) := by
  rw [erase, hc]
  exact nofun

/-- Erasing an entry removes it and all below it, and nothing else. -/
lemma kindAt_erase {e : Entry} {names : List String} (hne : names ≠ [])
    (hsome : (e.kindAt names).isSome) (ms : List String) :
    (e.erase names).kindAt ms = if names <+: ms then none else e.kindAt ms := by
  induction names generalizing e ms with
  | nil => exact absurd rfl hne
  | cons name rest ih =>
    rw [kindAt_cons] at hsome
    obtain ⟨k, hk⟩ := Option.isSome_iff_exists.1 hsome
    obtain ⟨c, hc, hck⟩ := Option.bind_eq_some_iff.1 hk
    cases e with
    | file content => exact nomatch hc
    | folder cs =>
      cases rest with
      | nil =>
        rw [erase, children]
        cases ms with
        | nil => simp
        | cons m ms =>
          rw [kindAt_cons, children, lookup_eraseChild, kindAt_cons, children]
          by_cases hm : m = name
          · simp [hm]
          · simp [hm, Ne.symm hm]
      | cons r rest =>
        have ih' := ih (List.cons_ne_nil r rest) (Option.isSome_iff_exists.2 ⟨k, hck⟩)
        rw [erase_cons_cons hc]
        cases ms with
        | nil => simp
        | cons m ms =>
          simp only [kindAt_cons, children, lookup_assign]
          by_cases hm : m = name
          · subst hm
            rw [children] at hc
            simp [hc, ih']
          · simp [hm, Ne.symm hm]

/-- Whatever is put or erased, files that are found then and are not new were there before. -/
lemma kindAt_file_of_put {e new : Entry} {names ms : List String} {content : ByteArray}
    (hnew : new.IsBare) (h : (e.put new names).kindAt ms = some (.file content)) :
    e.kindAt ms = some (.file content) ∨ new = .file content := by
  induction names generalizing e ms with
  | nil =>
    cases ms with
    | nil =>
      cases new with
      | file c => exact .inr (congrArg _ (Kind.file.inj (Option.some.inj h)))
      | folder cs => cases h
    | cons m ms =>
      rw [put, kindAt_of_isBare hnew] at h
      contradiction
  | cons name names ih =>
    cases ms with
    | nil => cases h
    | cons m ms =>
      rw [put, kindAt_cons, children, lookup_assign] at h
      rw [kindAt_cons]
      by_cases hm : m = name
      · subst hm
        rw [if_pos rfl] at h
        rcases hl : e.children.lookup m with _ | c
        · -- the folder is made on the way
          rw [hl] at h
          rcases ih h with hfile | hfile
          · cases ms <;> cases hfile
          · exact .inr hfile
        · rw [hl] at h
          exact ih h
      · rw [if_neg hm] at h
        exact .inl h

/-! ### Soundness -/

/-- Every folder gives proper names, and each at most once. -/
inductive Sound : Entry → Prop
  | file (content : ByteArray) : Sound (.file content)
  | folder {cs : List (String × Entry)} (hnames : ∀ c ∈ cs, IsName c.1)
      (hnodup : (cs.map Prod.fst).Nodup) (hsound : ∀ c ∈ cs, Sound c.2) : Sound (.folder cs)

lemma Sound.children {e : Entry} (h : e.Sound) :
    (∀ c ∈ e.children, IsName c.1) ∧ (e.children.map Prod.fst).Nodup ∧
      ∀ c ∈ e.children, c.2.Sound := by
  cases h with
  | file content => simp [Entry.children]
  | folder hnames hnodup hsound => exact ⟨hnames, hnodup, hsound⟩

lemma Sound.get? {e c : Entry} {names : List String} (h : e.Sound) (hc : e.get? names = some c) :
    c.Sound := by
  induction names generalizing e with
  | nil => exact Option.some.inj hc ▸ h
  | cons name names ih =>
    rw [get?_cons] at hc
    obtain ⟨d, hd, hdc⟩ := Option.bind_eq_some_iff.1 hc
    exact ih (h.children.2.2 _ (mem_of_lookup hd)) hdc

lemma sound_assign {name : String} {e : Entry} {cs : List (String × Entry)} (hname : IsName name)
    (he : e.Sound) (hcs : (Entry.folder cs).Sound) : (Entry.folder (assign name e cs)).Sound := by
  obtain ⟨hnames, hnodup, hsound⟩ := hcs.children
  refine .folder (fun c hc => ?_) (nodup_keys_assign hnodup name e) fun c hc => ?_
  · rcases mem_assign hc with rfl | hmem
    · exact hname
    · exact hnames c hmem
  · rcases mem_assign hc with rfl | hmem
    · exact he
    · exact hsound c hmem

lemma sound_folder_children {e : Entry} (h : e.Sound) : (Entry.folder e.children).Sound :=
  .folder h.children.1 h.children.2.1 h.children.2.2

lemma sound_emptyFolder : emptyFolder.Sound := .folder nofun .nil nofun

lemma sound_put {e new : Entry} {names : List String} (he : e.Sound) (hnew : new.Sound)
    (hnames : ∀ n ∈ names, IsName n) : (e.put new names).Sound := by
  induction names generalizing e with
  | nil => exact hnew
  | cons name names ih =>
    have hchild : ((e.children.lookup name).getD emptyFolder).Sound := by
      rcases hl : e.children.lookup name with _ | c
      · exact sound_emptyFolder
      · exact he.children.2.2 _ (mem_of_lookup hl)
    exact sound_assign (hnames name (by simp)) (ih hchild fun n hn => hnames n (by simp [hn]))
      (sound_folder_children he)

lemma sound_erase {e : Entry} (he : e.Sound) (names : List String) : (e.erase names).Sound := by
  induction names generalizing e with
  | nil => exact sound_emptyFolder
  | cons name rest ih =>
    obtain ⟨hnames, hnodup, hsound⟩ := he.children
    cases rest with
    | nil =>
      have hsub : (eraseChild name e.children).Sublist e.children := List.filter_sublist
      exact .folder (fun c hc => hnames c (hsub.subset hc)) (hnodup.sublist (hsub.map _))
        fun c hc => hsound c (hsub.subset hc)
    | cons r rest =>
      rcases hl : e.children.lookup name with _ | c
      · have herase : e.erase (name :: r :: rest) = e := by
          rw [erase, hl]
          exact nofun
        rwa [herase]
      · rw [erase_cons_cons hl]
        have hmem := mem_of_lookup hl
        exact sound_assign (hnames _ hmem) (ih (hsound _ hmem)) (sound_folder_children he)

end Entry

end MethodAudit
