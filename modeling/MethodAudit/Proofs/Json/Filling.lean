import Mathlib.Data.List.Pairwise
import Mathlib.Data.List.Perm.Basic
import MethodAudit.Proofs.Json.Meaning

/-!
Records filled from the members of an object.

The members are taken one after the other. One that is not known is dropped, one that was there
before spoils the record, and any other changes it; at the end nothing required may be missing.
Changes to different parts of a record commute, and then the order of the members makes no
difference.
-/

namespace MethodAudit.Json

/-- A member that a record takes: its name, whether it must be given, and what its value does to
the record. -/
structure Slot (β ρ : Type) where
  name : String
  required : Bool
  read : β → Option (ρ → ρ)

variable {β ρ : Type}

def fill (slots : List (Slot β ρ)) (seen : List String) (r : ρ) :
    List (Option String × β) → Option ρ
  | [] =>
    match slots.find? fun f => f.required && !seen.contains f.name with
    | some _ => none
    | none => some r
  | (none, _) :: _ => none
  | (some name, v) :: ms =>
    match slots.find? (·.name = name) with
    | none => fill slots seen r ms
    | some f =>
      if seen.contains name then none
      else (f.read v).bind fun set => fill slots (name :: seen) (set r) ms

/-- A record given as a list: the values of its slots in their order, those at the end that are
not required left out. -/
def row : List (Slot β ρ) → ρ → List β → Option ρ
  | [], r, [] => some r
  | [], _, _ :: _ => none
  | f :: fs, r, v :: vs => (f.read v).bind fun set => row fs (set r) vs
  | f :: fs, r, [] => if f.required then none else row fs r []

section Fill

variable {slots : List (Slot β ρ)} {seen : List String} {r : ρ} {name : String} {f : Slot β ρ}
  {ms : List (Option String × β)}

lemma fill_foreign (hf : slots.find? (·.name = name) = none) (v : β) :
    fill slots seen r ((some name, v) :: ms) = fill slots seen r ms := by
  simp only [fill, hf]

lemma fill_known (hf : slots.find? (·.name = name) = some f) (v : β) :
    fill slots seen r ((some name, v) :: ms) =
      if seen.contains name then none
      else (f.read v).bind fun set => fill slots (name :: seen) (set r) ms := by
  simp only [fill, hf]

lemma find?_eq_none_of_not_mem (h : name ∉ slots.map Slot.name) :
    slots.find? (·.name = name) = none := by
  rw [List.find?_eq_none]
  intro f hf hname
  exact h (List.mem_map.2 ⟨f, hf, by simpa using hname⟩)

lemma exists_find?_of_mem (h : name ∈ slots.map Slot.name) :
    ∃ f, slots.find? (·.name = name) = some f := by
  obtain ⟨f, hf, rfl⟩ := List.mem_map.1 h
  rw [← Option.isSome_iff_exists, List.find?_isSome]
  exact ⟨f, hf, by simp⟩

/-- Of the names seen before, only the set counts. -/
lemma fill_congr_seen {seen' : List String} (h : ∀ x, seen.contains x = seen'.contains x)
    (r : ρ) (ms : List (Option String × β)) : fill slots seen r ms = fill slots seen' r ms := by
  induction ms generalizing seen seen' r with
  | nil => simp only [fill, h]
  | cons m ms ih =>
    obtain ⟨_ | name, v⟩ := m
    · rfl
    · rcases hf : slots.find? (·.name = name) with _ | f
      · rw [fill_foreign hf, fill_foreign hf, ih h]
      · have hcons (x : String) : (name :: seen).contains x = (name :: seen').contains x := by
          rw [List.contains_cons, List.contains_cons, h]
        rw [fill_known hf, fill_known hf, h]
        simp only [ih hcons]

/-! ### The order of members -/

/-- Two members change a record the same way in either order. -/
def Slot.Commutes (f g : Slot β ρ) : Prop :=
  ∀ v w a b, f.read v = some a → g.read w = some b → ∀ r, a (b r) = b (a r)

instance : Std.Symm (Slot.Commutes : Slot β ρ → Slot β ρ → Prop) where
  symm _ _ h v w a b ha hb r := (h w v b a hb ha r).symm

/-- A slot sets one part of the record. -/
def Slot.Writes (f : Slot β ρ) (set : α → ρ → ρ) : Prop :=
  ∀ v a, f.read v = some a → ∃ x, a = set x

lemma Slot.Writes.commutes {α α' : Type} {f g : Slot β ρ} {set : α → ρ → ρ} {set' : α' → ρ → ρ}
    (hf : f.Writes set) (hg : g.Writes set')
    (h : ∀ x y r, set x (set' y r) = set' y (set x r)) : f.Commutes g := by
  intro v w a b ha hb r
  obtain ⟨x, rfl⟩ := hf v a ha
  obtain ⟨y, rfl⟩ := hg w b hb
  exact h x y r

/-- Every slot of a list commutes with those after it, all in one conjunction. -/
def Slot.AllCommute : List (Slot β ρ) → Prop
  | [] => True
  | f :: fs => fs.foldr (fun g rest => f.Commutes g ∧ rest) (AllCommute fs)

lemma Slot.AllCommute.pairwise {fs : List (Slot β ρ)} (h : AllCommute fs) :
    fs.Pairwise Slot.Commutes := by
  induction fs with
  | nil => exact .nil
  | cons f fs ih =>
    have hfold (gs : List (Slot β ρ)) {rest : Prop}
        (hgs : gs.foldr (fun g rest => f.Commutes g ∧ rest) rest) :
        (∀ g ∈ gs, f.Commutes g) ∧ rest := by
      induction gs with
      | nil => exact ⟨nofun, hgs⟩
      | cons g gs ih =>
        obtain ⟨hg, hgs⟩ := hgs
        exact ⟨List.forall_mem_cons.2 ⟨hg, (ih hgs).1⟩, (ih hgs).2⟩
    obtain ⟨hf, hfs⟩ := hfold fs h
    exact .cons hf (ih hfs)

lemma commutes_of_find? (hc : slots.Pairwise Slot.Commutes) {x y : String} {f g : Slot β ρ}
    (hf : slots.find? (·.name = x) = some f) (hg : slots.find? (·.name = y) = some g)
    (hxy : x ≠ y) : f.Commutes g := by
  have hx : f.name = x := by simpa using List.find?_some hf
  have hy : g.name = y := by simpa using List.find?_some hg
  have hne : f ≠ g := by
    rintro rfl
    exact hxy (hx.symm.trans hy)
  exact hc.forall (List.mem_of_find?_eq_some hf) (List.mem_of_find?_eq_some hg) hne

/-- A member without a proper key spoils the record wherever it stands. -/
lemma fill_cons_none (m : Option String × β) (v : β) :
    fill slots seen r (m :: (none, v) :: ms) = none := by
  obtain ⟨_ | name, w⟩ := m
  · rfl
  · rcases hf : slots.find? (·.name = name) with _ | f
    · rw [fill_foreign hf]
      rfl
    · rw [fill_known hf]
      split
      · rfl
      · simp [fill]

lemma fill_swap (hc : slots.Pairwise Slot.Commutes) (m m' : Option String × β) :
    fill slots seen r (m :: m' :: ms) = fill slots seen r (m' :: m :: ms) := by
  obtain ⟨_ | x, v⟩ := m
  · rw [fill_cons_none]
    rfl
  obtain ⟨_ | y, w⟩ := m'
  · rw [fill_cons_none]
    rfl
  rcases hf : slots.find? (·.name = x) with _ | f
  · rcases hg : slots.find? (·.name = y) with _ | g
    · simp only [fill_foreign hf, fill_foreign hg]
    · simp only [fill_foreign hf, fill_known hg]
  rcases hg : slots.find? (·.name = y) with _ | g
  · simp only [fill_foreign hg, fill_known hf]
  simp only [fill_known hf, fill_known hg, List.contains_cons]
  by_cases hxy : x = y
  · -- the same key twice
    subst hxy
    simp
  have hne : (y == x) = false := by simpa using Ne.symm hxy
  have hne' : (x == y) = false := by simpa using hxy
  simp only [hne, hne', Bool.false_or]
  rcases hx : seen.contains x with _ | _ <;> rcases hy : seen.contains y with _ | _ <;>
    rcases ha : f.read v with _ | a <;> rcases hb : g.read w with _ | b <;> simp
  -- both are read: the record and the set of names come out the same
  rw [commutes_of_find? hc hf hg hxy v w a b ha hb r]
  apply fill_congr_seen
  intro z
  simp only [List.contains_cons]
  cases z == x <;> cases z == y <;> rfl

lemma fill_perm (hc : slots.Pairwise Slot.Commutes) {ms' : List (Option String × β)}
    (h : ms.Perm ms') : fill slots seen r ms = fill slots seen r ms' := by
  induction h generalizing seen r with
  | nil => rfl
  | cons m _ ih =>
    obtain ⟨_ | name, v⟩ := m
    · rfl
    · simp only [fill, ih]
  | swap m m' ms => exact fill_swap hc m' m
  | trans _ _ ih₁ ih₂ => exact ih₁.trans ih₂

/-! ### Members replaced or repeated -/

/-- Another value that is read the same. -/
lemma fill_replace {v v' : β} {ns : List (Option String × β)}
    (h : ∀ f, slots.find? (·.name = name) = some f → f.read v = f.read v') :
    fill slots seen r (ms ++ (some name, v) :: ns) =
      fill slots seen r (ms ++ (some name, v') :: ns) := by
  induction ms generalizing seen r with
  | nil =>
    rw [List.nil_append, List.nil_append]
    rcases hf : slots.find? (·.name = name) with _ | f
    · rw [fill_foreign hf, fill_foreign hf]
    · rw [fill_known hf, fill_known hf, h f hf]
  | cons m ms ih =>
    obtain ⟨_ | x, w⟩ := m
    · rfl
    · simp only [List.cons_append, fill, ih]

lemma fill_unread {v : β} (hm : (some name, v) ∈ ms)
    (hf : slots.find? (·.name = name) = some f) (hv : f.read v = none) :
    fill slots seen r ms = none := by
  induction ms generalizing seen r with
  | nil => cases hm
  | cons m ms ih =>
    rcases List.mem_cons.1 hm with rfl | hrest
    · rw [fill_known hf, hv]
      split <;> rfl
    · obtain ⟨_ | x, w⟩ := m
      · rfl
      rcases hg : slots.find? (·.name = x) with _ | g
      · rw [fill_foreign hg, ih hrest]
      · rw [fill_known hg]
        simp [ih hrest]

/-- A known key stands once at most, and not at all after it was seen. -/
lemma count_le_of_fill {r' : ρ} (h : fill slots seen r ms = some r')
    (hf : slots.find? (·.name = name) = some f) :
    (ms.map Prod.fst).count (some name) + (if seen.contains name then 1 else 0) ≤ 1 := by
  induction ms generalizing seen r with
  | nil =>
    rw [List.map_nil, List.count_nil]
    split <;> omega
  | cons m ms ih =>
    obtain ⟨_ | x, v⟩ := m
    · cases h
    rcases hg : slots.find? (·.name = x) with _ | g
    · have hne : x ≠ name := by
        rintro rfl
        exact nomatch hf.symm.trans hg
      rw [fill_foreign hg] at h
      simpa [List.count_cons, hne] using ih h
    · rw [fill_known hg] at h
      split at h
      · cases h
      · next hx =>
        obtain ⟨set, -, h⟩ := Option.bind_eq_some_iff.1 h
        have hcount := ih h
        by_cases hxy : x = name
        · subst hxy
          simp_all
        · simpa [List.count_cons, hxy, List.contains_cons, Ne.symm hxy] using hcount

lemma fill_repeated (hf : slots.find? (·.name = name) = some f)
    (h : 2 ≤ (ms.map Prod.fst).count (some name)) : fill slots seen r ms = none := by
  rcases hfill : fill slots seen r ms with _ | r'
  · rfl
  · have := count_le_of_fill hfill hf
    omega

/-! ### Records of one slot -/

lemma filter_of_fill_seen {r' : ρ} (h : fill [f] [f.name] r ms = some r') :
    ms.filter (·.1 = some f.name) = [] ∧ r' = r := by
  induction ms with
  | nil =>
    simp only [fill] at h
    split at h
    · cases h
    · exact ⟨rfl, (Option.some.inj h).symm⟩
  | cons m ms ih =>
    obtain ⟨_ | x, v⟩ := m
    · cases h
    by_cases hx : f.name = x
    · rw [fill_known (f := f) (by simp [hx])] at h
      simp [hx] at h
    · rw [fill_foreign (by simp [hx])] at h
      rw [List.filter_cons_of_neg (by simpa using Ne.symm hx)]
      exact ih h

/-- A required member stands there exactly once. -/
lemma filter_of_fill {r' : ρ} (hf : f.required) (h : fill [f] [] r ms = some r') :
    ∃ v set, ms.filter (·.1 = some f.name) = [(some f.name, v)] ∧ f.read v = some set ∧
      r' = set r := by
  induction ms with
  | nil => simp [fill, hf] at h
  | cons m ms ih =>
    obtain ⟨_ | x, v⟩ := m
    · cases h
    by_cases hx : f.name = x
    · subst hx
      rw [fill_known (f := f) (by simp)] at h
      obtain ⟨set, hset, h⟩ := Option.bind_eq_some_iff.1 h
      obtain ⟨hrest, rfl⟩ := filter_of_fill_seen h
      exact ⟨v, set, by rw [List.filter_cons_of_pos (by simp), hrest], hset, rfl⟩
    · rw [fill_foreign (by simp [hx])] at h
      rw [List.filter_cons_of_neg (by simpa using Ne.symm hx)]
      exact ih h

/-! ### Records given as lists -/

lemma row_replace {vs ws : List β} {v v' : β}
    (h : ∀ f, slots[vs.length]? = some f → f.read v = f.read v') :
    row slots r (vs ++ v :: ws) = row slots r (vs ++ v' :: ws) := by
  induction vs generalizing slots r with
  | nil =>
    rcases slots with _ | ⟨f, fs⟩
    · rfl
    · simp only [List.nil_append, row, h f rfl]
  | cons w vs ih =>
    rcases slots with _ | ⟨f, fs⟩
    · rfl
    · simp only [List.cons_append, row]
      congr 1
      funext set
      exact ih fun g hg => h g (by simpa using hg)

lemma row_unread {vs ws : List β} {v : β} (hf : slots[vs.length]? = some f)
    (hv : f.read v = none) : row slots r (vs ++ v :: ws) = none := by
  induction vs generalizing slots r with
  | nil =>
    rcases slots with _ | ⟨g, fs⟩
    · cases hf
    · obtain rfl : g = f := by simpa using hf
      simp [row, hv]
  | cons w vs ih =>
    rcases slots with _ | ⟨g, fs⟩
    · cases hf
    · simp only [List.cons_append, row]
      have hrest (r : ρ) : row fs r (vs ++ v :: ws) = none := ih (by simpa using hf)
      simp [hrest]

end Fill

/-! ### Records read from a tree -/

namespace Decoder

def Field.slot (room : Room) (f : Field ρ) : Slot Raw ρ := ⟨f.name, f.required, f.read.on room⟩

lemma Field.writes_slot (room : Room) (name : String) (required : Bool) (d : Decoder α)
    (set : α → ρ → ρ) :
    (Field.slot room ⟨name, required, fun room n => set <$> d room n⟩).Writes set := by
  intro v a ha
  have ha : (set <$> d room v.node).toOption = some a := ha
  rw [toOption_map, Option.map_eq_some_iff] at ha
  obtain ⟨x, -, rfl⟩ := ha
  exact ⟨x, rfl⟩

/-- Two fields of a record that set different parts of it. -/
lemma Field.commutes {α α' : Type} {room : Room} {name name' : String} {required required' : Bool}
    {d : Decoder α} {d' : Decoder α'} {set : α → ρ → ρ} {set' : α' → ρ → ρ}
    (h : ∀ x y r, set x (set' y r) = set' y (set x r)) :
    (Field.slot room ⟨name, required, fun room n => set <$> d room n⟩).Commutes
      (Field.slot room ⟨name', required', fun room n => set' <$> d' room n⟩) :=
  (writes_slot room name required d set).commutes (writes_slot room name' required' d' set') h

namespace Schema

variable {s : Schema ρ} {room inner : Room}

def slots (s : Schema ρ) (room : Room) : List (Slot Raw ρ) := s.fields.map (Field.slot room)

lemma find?_slots (s : Schema ρ) (room : Room) (name : String) :
    (s.slots room).find? (·.name = name) =
      (s.fields.find? (·.name = name)).map (Field.slot room) :=
  List.find?_map

lemma find?_missing (s : Schema ρ) (room : Room) (seen : List String) :
    (s.slots room).find? (fun f => f.required && !seen.contains f.name) =
      (s.missing? seen).map (Field.slot room) :=
  List.find?_map

/-- What a schema makes of a value. -/
def record? (s : Schema ρ) (room : Room) : Raw → Option ρ
  | .object ms => fill (s.slots room) [] s.blank ms
  | .list vs => row (s.slots room) s.blank vs
  | _ => none

lemma toOption_members {ms : List (Option String × Raw)}
    (hs : ∀ name v f, (some name, v) ∈ ms → s.fields.find? (·.name = name) = some f →
      Reads f.read room v (f.read.on room v))
    {seen : List String} {r : ρ} {members : Members} (hms : members.Show ms) :
    (s.members room seen r members).toOption = fill (s.slots room) seen r ms := by
  induction ms generalizing seen r members with
  | nil =>
    cases hms with
    | stop span =>
      simp only [members, fill, find?_missing]
      cases s.missing? seen <;> rfl
  | cons m ms ih =>
    have ih' := @ih fun name v f hm => hs name v f (List.mem_cons_of_mem _ hm)
    cases hms with
    | @cons n v rest _ k hn hrest =>
      rcases htext : k.text with fault | name
      · simp [members, htext, fill]
      have hfind := s.find?_slots room name
      rcases hf : s.fields.find? (·.name = name) with _ | f
      · rw [hf] at hfind
        simp only [toOption_ok, fill_foreign hfind, members, htext, toOption_bind, Option.bind_some,
          hf, hn.skip_eq v, ih' hrest]
      · rw [hf] at hfind
        have hread := hs name v f (by simp [htext]) hf n hn
        simp only [toOption_ok, fill_known hfind, members, htext, toOption_bind, Option.bind_some,
          hf]
        split
        · rfl
        · simp only [toOption_bind, hread, ih' hrest]
          rfl

lemma toOption_elements {fields : List (Field ρ)}
    (hs : ∀ f ∈ fields, Means f.read room (f.read.on room)) {index : Nat} {r : ρ} {vs : List Raw}
    {is : Items} (his : is.Show vs) :
    (s.elements room index r fields is).toOption = row (fields.map (Field.slot room)) r vs := by
  induction fields generalizing index r vs is with
  | nil => cases his <;> rfl
  | cons f fields ih =>
    have hf := hs f List.mem_cons_self
    have ih' := @ih fun g hg => hs g (List.mem_cons_of_mem _ hg)
    cases his with
    | stop span =>
      simp only [elements, List.map_cons, row]
      rw [show (f.slot room).required = f.required from rfl]
      split
      · rfl
      · exact ih' (.stop span)
    | cons hn hrest =>
      simp only [elements, List.map_cons, row, toOption_bind, hf _ _ hn, ih' hrest]
      rfl

/-- An object of which the fields given are read one by one. -/
lemma reads_object (hroom : Enters room inner) {ms : List (Option String × Raw)}
    (hs : ∀ name v f, (some name, v) ∈ ms → s.fields.find? (·.name = name) = some f →
      Reads f.read inner v (f.read.on inner v)) :
    Reads s.decode room (.object ms) (s.record? inner (.object ms)) := by
  intro n hn
  cases hn with
  | object span hms =>
    rw [decode, hroom span]
    exact toOption_members hs hms

lemma means_decode (hroom : Enters room inner)
    (hs : ∀ f ∈ s.fields, Means f.read inner (f.read.on inner)) :
    Means s.decode room (s.record? inner) := by
  intro v n hn
  cases hn with
  | object span hms =>
    exact reads_object hroom (fun _ v f _ hf => hs f (List.mem_of_find?_eq_some hf) v) _
      (.object span hms)
  | list span his =>
    rw [decode, hroom span]
    exact toOption_elements hs his
  | _ => rfl

end Schema

end Decoder

end MethodAudit.Json
