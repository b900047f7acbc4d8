import Mathlib.Data.List.Forall2
import Mathlib.Logic.Relation
import MethodAudit.Proofs.Json.Filling
import MethodAudit.Proofs.Lists

/-!
What stands where in a dump, and what may change there.

A shape says which objects of a value are read as declarations or statements, and for which
fields. In such an object members may change places, and members that are no fields may be
added. A reader fits a shape if no such change makes a difference to it, and if it rejects every
value in which a field is given twice.
-/

namespace MethodAudit

open Json Json.Decoder

/-- What a value is read as. A plain value is taken as it stands. -/
inductive Shape
  | plain
  | list (s : Shape)
  | record (fields : List (String × Shape))
  | stmt

namespace Shape

/-! ### The shape of a dump -/

/-- The kinds of statements and the fields of each. -/
def kinds : List (String × List String) := [
  ("message_send", ["receiver", "selector", "receiver_type"]),
  ("property_access", ["getter", "setter", "super_receiver", "receiver_type"]),
  ("selector_literal", ["selector"]),
  ("other", ["label"])]

/-- The fields of the kind that a value tells, by its name or its position. -/
def kindFields? : Raw → Option (List String)
  | .string s => s.bind fun name => kinds.lookup name
  | .number n =>
    match n.value with
    | some (.integer (.ofNat i)) => kinds[i]?.map Prod.snd
    | _ => none
  | _ => none

/-- The fields that a statement has for its kind, if the members tell one. -/
def variantFields (ms : List (Option String × Raw)) : List String :=
  match ms.filter (·.1 = some "kind") with
  | [(_, v)] => (kindFields? v).getD []
  | _ => []

/-- The fields that the object with these members is read for. -/
def fields? : Shape → List (Option String × Raw) → Option (List (String × Shape))
  | .record fields, _ => some fields
  | .stmt, ms =>
    some ([("kind", .plain), ("children", .list .stmt)] ++ (variantFields ms).map (·, .plain))
  | _, _ => none

def method : Shape := .record [("selector", .plain), ("class_method", .plain)]

def property : Shape := .record [
  ("name", .plain), ("readonly", .plain), ("setter_policy", .plain), ("getter", .plain),
  ("setter", .plain), ("object_type", .plain), ("line", .plain)]

def body : List (String × Shape) :=
  [("protocols", .plain), ("methods", .list method), ("properties", .list property)]

def interface : Shape :=
  .record ([("name", .plain), ("superclass", .plain)] ++ body ++ [("forward", .plain)])

def protocol : Shape := .record ([("name", .plain)] ++ body ++ [("forward", .plain)])

def category : Shape := .record ([("name", .plain), ("class_name", .plain)] ++ body)

def methodDef : Shape :=
  .record [("selector", .plain), ("class_method", .plain), ("body", .stmt), ("line", .plain)]

def implementation : Shape :=
  .record [("class_name", .plain), ("category", .plain), ("methods", .list methodDef)]

def dump : Shape := .record [
  ("file", .plain), ("interfaces", .list interface), ("protocols", .list protocol),
  ("categories", .list category), ("implementations", .list implementation)]

/-! ### Changes -/

/-- One change at one place: the members of an object are permuted, or one is added that is not
a field there, with a value whose numbers are in range and whose strings are in order. The
place may be in a field of an object or of a record given as a list, or in an item of a list. -/
inductive Changes : Shape → Raw → Raw → Prop
  | permute {s fields ms ms'} (hs : fields? s ms = some fields) (h : ms.Perm ms') :
      Changes s (.object ms) (.object ms')
  | insert {s fields ms name v} (hs : fields? s ms = some fields)
      (hname : name ∉ fields.map Prod.fst) (hv : v.json?.isSome) :
      Changes s (.object ms) (.object ((some name, v) :: ms))
  | member {s fields ms ns name t v v'}
      (hs : fields? s (ms ++ (some name, v) :: ns) = some fields)
      (ht : fields.lookup name = some t) (h : Changes t v v') :
      Changes s (.object (ms ++ (some name, v) :: ns)) (.object (ms ++ (some name, v') :: ns))
  | item {s vs ws v v'} (h : Changes s v v') :
      Changes (.list s) (.list (vs ++ v :: ws)) (.list (vs ++ v' :: ws))
  | column {fields vs ws name t v v'} (ht : fields[vs.length]? = some (name, t))
      (h : Changes t v v') :
      Changes (.record fields) (.list (vs ++ v :: ws)) (.list (vs ++ v' :: ws))

/-- Somewhere in the value an object gives one of its fields twice. -/
inductive Repeats : Shape → Raw → Prop
  | key {s fields ms name} (hs : fields? s ms = some fields) (hname : name ∈ fields.map Prod.fst)
      (h : 2 ≤ (ms.map Prod.fst).count (some name)) : Repeats s (.object ms)
  | member {s fields ms name t v} (hs : fields? s ms = some fields)
      (ht : fields.lookup name = some t) (hm : (some name, v) ∈ ms) (h : Repeats t v) :
      Repeats s (.object ms)
  | item {s vs v} (hv : v ∈ vs) (h : Repeats s v) : Repeats (.list s) (.list vs)
  | column {fields vs ws name t v} (ht : fields[vs.length]? = some (name, t))
      (h : Repeats t v) : Repeats (.record fields) (.list (vs ++ v :: ws))

/-- In a plain value nothing may change. -/
lemma not_changes_plain {v v' : Raw} : ¬Shape.plain.Changes v v' := by
  intro h
  cases h with
  | permute hs => cases hs
  | insert hs => cases hs
  | member hs => cases hs

lemma not_repeats_plain {v : Raw} : ¬Shape.plain.Repeats v := by
  intro h
  cases h with
  | key hs => cases hs
  | member hs => cases hs

end Shape

/-! ### Readers that fit a shape -/

/-- What is made of a value does not depend on what may change, and is nothing if a field is
given twice. -/
structure Keeps (f : Raw → Option α) (s : Shape) : Prop where
  changes : ∀ {v v'}, s.Changes v v' → f v = f v'
  repeats : ∀ {v}, s.Repeats v → f v = none

lemma Keeps.eqvGen {f : Raw → Option α} {s : Shape} (h : Keeps f s) {v v' : Raw}
    (hv : Relation.EqvGen s.Changes v v') : f v = f v' :=
  congrArg (Quot.lift f fun _ _ => h.changes) (Quot.eqvGen_sound hv)

structure Fits (d : Decoder α) (s : Shape) : Prop where
  means : Means d none (d.on none)
  keeps : Keeps (d.on none) s

lemma Fits.of_means {d : Decoder α} {f : Raw → Option α} {s : Shape} (h : Means d none f)
    (hk : Keeps f s) : Fits d s :=
  ⟨h.on, h.on_eq ▸ hk⟩

lemma Json.Means.fits {d : Decoder α} {f : Raw → Option α} (h : Means d none f) : Fits d .plain :=
  .of_means h ⟨fun hv => absurd hv Shape.not_changes_plain, fun hv =>
    absurd hv Shape.not_repeats_plain⟩

lemma mapM_replace {f : Raw → Option α} {v v' : Raw} (h : f v = f v') (vs ws : List Raw) :
    (vs ++ v :: ws).mapM f = (vs ++ v' :: ws).mapM f := by
  rw [List.mapM_append, List.mapM_append, List.mapM_cons, List.mapM_cons, h]

lemma mapM_unread {f : Raw → Option α} {v : Raw} {vs : List Raw} (hv : v ∈ vs) (h : f v = none) :
    vs.mapM f = none := by
  obtain ⟨ws, ws', rfl⟩ := List.append_of_mem hv
  rw [List.mapM_append, List.mapM_cons, h]
  cases ws.mapM f <;> rfl

lemma Keeps.items? {f : Raw → Option α} {s : Shape} (h : Keeps f s) :
    Keeps (Raw.items? f) (.list s) where
  changes hv := by
    cases hv with
    | permute hs => cases hs
    | insert hs => cases hs
    | member hs => cases hs
    | item hv => exact mapM_replace (h.changes hv) _ _
  repeats hv := by
    cases hv with
    | key hs => cases hs
    | member hs => cases hs
    | item hm hv => exact mapM_unread hm (h.repeats hv)

lemma Fits.list {d : Decoder α} {s : Shape} (h : Fits d s) : Fits (list d) (.list s) :=
  .of_means (means_list enters_none h.means) h.keeps.items?

lemma Fits.optional {d : Decoder α} {s : Shape} (h : Fits d s) : Fits (optional d) s := by
  refine .of_means (fun v => reads_optional (h.means v)) ⟨fun hv => ?_, fun hv => ?_⟩
  · have heq := congrArg (Option.map some) (h.keeps.changes hv)
    cases hv <;> exact heq
  · have heq := congrArg (Option.map some) (h.keeps.repeats hv)
    cases hv <;> exact heq

lemma Fits.map {d : Decoder α} {s : Shape} (h : Fits d s) (g : α → β) :
    Fits (fun room n => g <$> d room n) s := by
  refine .of_means (fun v => (h.means v).map g) ⟨fun hv => ?_, fun hv => ?_⟩
  · rw [h.keeps.changes hv]
  · rw [h.keeps.repeats hv]
    rfl

/-! ### Records -/

/-- A field of a record and its shape. -/
def FieldFits (f : Decoder.Field ρ) (p : String × Shape) : Prop := f.name = p.1 ∧ Fits f.read p.2

lemma Fits.field {d : Decoder α} {s : Shape} (h : Fits d s) (name : String) (set : α → ρ → ρ) :
    FieldFits (.of name d set) (name, s) :=
  ⟨rfl, h.map set⟩

lemma Fits.optField {d : Decoder α} {s : Shape} (h : Fits d s) (name : String)
    (set : α → ρ → ρ) : FieldFits (.opt name d set) (name, s) :=
  ⟨rfl, h.map set⟩

section Record

variable {fs : List (Decoder.Field ρ)} {fields : List (String × Shape)}

lemma means_of_fits (h : List.Forall₂ FieldFits fs fields) :
    ∀ f ∈ fs, Means f.read none (f.read.on none) := by
  induction h with
  | nil => simp
  | cons hf _ ih => exact List.forall_mem_cons.2 ⟨hf.2.means, ih⟩

lemma map_name_eq (h : List.Forall₂ FieldFits fs fields) :
    (fs.map (Field.slot none)).map Slot.name = fields.map Prod.fst := by
  induction h with
  | nil => rfl
  | cons hf _ ih => rw [List.map_cons, List.map_cons, List.map_cons, ih, ← hf.1]; rfl

lemma exists_find?_of_lookup (h : List.Forall₂ FieldFits fs fields) {name : String} {t : Shape}
    (ht : fields.lookup name = some t) :
    ∃ f, (fs.map (Field.slot none)).find? (·.name = name) = some f ∧ Keeps f.read t := by
  induction h with
  | nil => cases ht
  | @cons f p fs fields hf _ ih =>
    obtain ⟨x, s⟩ := p
    by_cases hx : name = x
    · subst hx
      obtain rfl : s = t := by simpa using ht
      exact ⟨f.slot none, by simp [Field.slot, hf.1], hf.2.keeps⟩
    · have hlookup : fields.lookup name = some t := by simpa [lookup_cons_ite, hx] using ht
      have hne : ¬(f.slot none).name = name := fun heq => hx (heq.symm.trans hf.1)
      obtain ⟨g, hg, hkeeps⟩ := ih hlookup
      exact ⟨g, by simpa [hne] using hg, hkeeps⟩

lemma exists_getElem?_slot (h : List.Forall₂ FieldFits fs fields) {i : Nat} {name : String}
    {t : Shape} (ht : fields[i]? = some (name, t)) :
    ∃ f, (fs.map (Field.slot none))[i]? = some f ∧ Keeps f.read t := by
  induction h generalizing i with
  | nil => cases ht
  | @cons f p fs fields hf _ ih =>
    cases i with
    | zero =>
      obtain rfl : p = (name, t) := by simpa using ht
      exact ⟨f.slot none, rfl, hf.2.keeps⟩
    | succ i => simpa using ih (by simpa using ht)

end Record

/-- The order of its members does not matter to a record whose fields fit their shapes and set
different parts of it. -/
lemma Schema.fits {s : Schema ρ} {fields : List (String × Shape)}
    (h : List.Forall₂ FieldFits s.fields fields) (hc : Slot.AllCommute (s.slots none)) :
    Fits s.decode (.record fields) := by
  have hnames : (s.slots none).map Slot.name = fields.map Prod.fst := map_name_eq h
  refine .of_means (Schema.means_decode enters_none (means_of_fits h)) ⟨fun hv => ?_, fun hv => ?_⟩
  · cases hv with
    | permute hs hperm => exact fill_perm hc.pairwise hperm
    | insert hs hname hv =>
      cases hs
      exact (fill_foreign (find?_eq_none_of_not_mem (hnames ▸ hname)) _).symm
    | member hs ht hv =>
      cases hs
      obtain ⟨f, hf, hkeeps⟩ := exists_find?_of_lookup h ht
      refine fill_replace fun g hg => ?_
      obtain rfl := Option.some.inj (hf.symm.trans hg)
      exact hkeeps.changes hv
    | column ht hv =>
      obtain ⟨f, hf, hkeeps⟩ := exists_getElem?_slot h ht
      refine row_replace fun g hg => ?_
      obtain rfl := Option.some.inj (hf.symm.trans hg)
      exact hkeeps.changes hv
  · cases hv with
    | key hs hname hcount =>
      cases hs
      obtain ⟨f, hf⟩ := exists_find?_of_mem (hnames ▸ hname)
      exact fill_repeated hf hcount
    | member hs ht hm hv =>
      cases hs
      obtain ⟨f, hf, hkeeps⟩ := exists_find?_of_lookup h ht
      exact fill_unread hm hf (hkeeps.repeats hv)
    | column ht hv =>
      obtain ⟨f, hf, hkeeps⟩ := exists_getElem?_slot h ht
      exact row_unread hf (hkeeps.repeats hv)

end MethodAudit
