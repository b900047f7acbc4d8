import MethodAudit.Proofs.DumpShape
import MethodAudit.Proofs.StmtMeaning

/-!
The order of members, and members that are no fields, do not matter when a statement is read.

Reading the members that a statement sets aside comes to the same as filling two more records from
all its members: the kind, and the fields of that kind.
-/

namespace MethodAudit.Reader

open Json Json.Decoder

/-! ### Members set aside -/

/-- A member that is taken as a child list or set aside. -/
def keepable (m : Option String × Raw) : Bool :=
  m.1.isSome && (m.1 = some "children" || m.2.json?.isSome)

lemma isSome_setAside? (ms : List (Option String × Raw)) :
    (setAside? ms).isSome = ms.all keepable := by
  induction ms with
  | nil => rfl
  | cons m ms ih =>
    obtain ⟨_ | name, v⟩ := m
    · rfl
    · rw [List.all_cons, ← ih]
      by_cases hname : name = "children"
      · simp [setAside?, keepable, hname]
      · rcases hv : v.json? with _ | j <;> simp [setAside?, keepable, hname, hv]

def KeptField.slot (f : KeptField ρ) : Slot Raw ρ :=
  ⟨f.name, f.required, fun v => v.json?.bind fun j => (f.read j).toOption⟩

lemma KeptField.writes_slot (name : String) (required : Bool) (d : Json → Except Problem α)
    (set : α → ρ → ρ) : (KeptField.slot ⟨name, required, fun v => set <$> d v⟩).Writes set := by
  intro v a ha
  obtain ⟨j, -, ha⟩ := Option.bind_eq_some_iff.1 ha
  rw [toOption_map, Option.map_eq_some_iff] at ha
  obtain ⟨x, -, rfl⟩ := ha
  exact ⟨x, rfl⟩

/-- A kept record is filled from the members, the kind and the children among them. -/
lemma toOption_keptRecord {fields : List (KeptField ρ)}
    (hchildren : "children" ∉ (fields.map KeptField.slot).map Slot.name)
    (hkind : "kind" ∉ (fields.map KeptField.slot).map Slot.name)
    {ms : List (Option String × Raw)} {kept : List (String × Json)}
    (h : setAside? ms = some kept) (seen : List String) (r : ρ) :
    (keptRecord fields seen r (kept.filter (·.1 ≠ "kind"))).toOption =
      fill (fields.map KeptField.slot) seen r ms := by
  have hfind (name : String) : (fields.map KeptField.slot).find? (·.name = name) =
      (fields.find? (·.name = name)).map KeptField.slot := List.find?_map
  induction ms generalizing kept seen r with
  | nil =>
    obtain rfl := Option.some.inj h
    have hmissing : (fields.map KeptField.slot).find?
        (fun f => f.required && !seen.contains f.name) =
        (fields.find? fun f => f.required && !seen.contains f.name).map KeptField.slot :=
      List.find?_map
    simp only [List.filter_nil, keptRecord, fill, hmissing]
    cases fields.find? fun f => f.required && !seen.contains f.name <;> rfl
  | cons m ms ih =>
    obtain ⟨_ | name, v⟩ := m
    · cases h
    by_cases hc : name = "children"
    · subst hc
      rw [fill_foreign (find?_eq_none_of_not_mem hchildren)]
      exact ih (by simpa [setAside?] using h) seen r
    simp only [setAside?, Option.bind_some, if_neg hc] at h
    obtain ⟨j, hj, h⟩ := Option.bind_eq_some_iff.1 h
    obtain ⟨kept, hkept, rfl⟩ := Option.map_eq_some_iff.1 h
    by_cases hk : name = "kind"
    · subst hk
      rw [fill_foreign (find?_eq_none_of_not_mem hkind), List.filter_cons_of_neg (by simp)]
      exact ih hkept seen r
    rw [List.filter_cons_of_pos (by simp [hk])]
    rcases hf : fields.find? (·.name = name) with _ | f
    · rw [fill_foreign (by rw [hfind, hf]; rfl), ← ih hkept]
      simp only [keptRecord, hf]
    · rw [fill_known (by rw [hfind, hf]; rfl)]
      simp only [keptRecord, hf]
      split
      · rfl
      · simp only [toOption_bind, ih hkept, KeptField.slot, hj, Option.bind_some]

/-! ### Kinds and actions -/

def kindSlot : Slot Raw (Option ActionKind) :=
  ⟨"kind", true, fun v => v.json?.bind fun j => (actionKind j).toOption.map fun kind _ => some kind⟩

lemma toOption_splitKind {kind : Option ActionKind} {ms : List (Option String × Raw)}
    {kept : List (String × Json)} (h : setAside? ms = some kept) :
    (splitKind kind kept).toOption =
      (fill [kindSlot] (if kind.isSome then ["kind"] else []) kind ms).bind fun kind =>
        kind.map fun kind => (kind, kept.filter (·.1 ≠ "kind")) := by
  induction ms generalizing kept kind with
  | nil =>
    obtain rfl := Option.some.inj h
    cases kind <;> rfl
  | cons m ms ih =>
    obtain ⟨_ | name, v⟩ := m
    · cases h
    by_cases hchildren : name = "children"
    · rw [fill_foreign (by simp [kindSlot, hchildren])]
      exact ih (by simpa [setAside?, hchildren] using h)
    simp only [setAside?, Option.bind_some, if_neg hchildren] at h
    obtain ⟨j, hj, h⟩ := Option.bind_eq_some_iff.1 h
    obtain ⟨kept, hkept, rfl⟩ := Option.map_eq_some_iff.1 h
    by_cases hkind : name = "kind"
    · subst hkind
      rw [fill_known (f := kindSlot) rfl, splitKind, if_pos rfl,
        List.filter_cons_of_neg (by simp)]
      cases kind with
      | some kind => rfl
      | none =>
        simp only [Option.isSome_none, Bool.false_eq_true, if_false, toOption_bind, kindSlot, hj,
          Option.bind_some]
        cases (actionKind j).toOption with
        | none => rfl
        | some kind => exact ih hkept
    · rw [fill_foreign (by simp [kindSlot, Ne.symm hkind]), splitKind, if_neg hkind,
        List.filter_cons_of_pos (by simp [hkind])]
      simp only [toOption_bind, ih hkept]
      rcases fill [kindSlot] (if kind.isSome then ["kind"] else []) kind ms with _ | _ | kind
      all_goals rfl

/-- How the statements of a kind are read: a record of their fields, and the action it makes. -/
structure Form where
  ρ : Type
  fields : List (KeptField ρ)
  blank : ρ
  action : ρ → Action

def form : ActionKind → Form
  | .send =>
    ⟨SendParts, sendFields, ⟨.object, "", none⟩, fun p => .send p.receiver p.selector p.type⟩
  | .access =>
    ⟨AccessParts, accessFields, ⟨none, none, false, none⟩, fun p =>
      .access p.getter p.setter p.viaSuper p.type⟩
  | .selectorLiteral =>
    ⟨String, [.of "selector" keptString fun v _ => v], "", .selectorLiteral⟩
  | .other =>
    ⟨Option String, [.opt "label" (keptOptional keptString) fun v _ => v], none, .other⟩

def Form.slots (f : Form) : List (Slot Raw f.ρ) := f.fields.map KeptField.slot

/-- What a statement of this form does. -/
def Form.action? (f : Form) (ms : List (Option String × Raw)) : Option Action :=
  (fill f.slots [] f.blank ms).map f.action

lemma actionOf_eq (kept : List (String × Json)) :
    actionOf kept = splitKind none kept >>= fun p =>
      (form p.1).action <$> keptRecord (form p.1).fields [] (form p.1).blank p.2 := by
  rw [actionOf]
  congr 1
  funext p
  obtain ⟨kind, others⟩ := p
  cases kind <;> rfl

lemma not_mem_names_form (kind : ActionKind) :
    "children" ∉ (form kind).slots.map Slot.name ∧ "kind" ∉ (form kind).slots.map Slot.name := by
  cases kind <;> decide

lemma toOption_actionOf {ms : List (Option String × Raw)} {kept : List (String × Json)}
    (h : setAside? ms = some kept) :
    (actionOf kept).toOption =
      (fill [kindSlot] [] none ms).bind fun kind => kind.bind fun kind =>
        (form kind).action? ms := by
  rw [actionOf_eq, toOption_bind, toOption_splitKind h]
  simp only [Option.isSome_none, Bool.false_eq_true, if_false]
  rcases fill [kindSlot] [] none ms with _ | _ | kind
  · rfl
  · rfl
  · simp only [Option.bind_some, Option.map_some, toOption_map,
      toOption_keptRecord (not_mem_names_form kind).1 (not_mem_names_form kind).2 h]
    rfl

lemma kinds_eq :
    Shape.kinds = actionKinds.map fun p => (p.1, (form p.2).slots.map Slot.name) :=
  rfl

lemma lookup_kinds {name : String} {kind : ActionKind} (h : actionKinds.lookup name = some kind) :
    Shape.kinds.lookup name = some ((form kind).slots.map Slot.name) := by
  rw [kinds_eq, lookup_map_snd fun kind => (form kind).slots.map Slot.name, h]
  rfl

lemma kindFields?_eq {v : Raw} {j : Json} (hj : v.json? = some j) {kind : ActionKind}
    (hkind : (actionKind j).toOption = some kind) :
    Shape.kindFields? v = some ((form kind).slots.map Slot.name) := by
  cases v with
  | string s =>
    obtain ⟨name, rfl, rfl⟩ := Option.map_eq_some_iff.1 hj
    rw [actionKind, toOption_pick] at hkind
    exact lookup_kinds hkind
  | number n =>
    simp only [Raw.json?] at hj
    split at hj
    · cases hj
      simp only [actionKind] at hkind
      split at hkind
      · next hvalue =>
        split at hkind
        · next hi =>
          cases hkind
          simp only [Shape.kindFields?, hvalue]
          rw [kinds_eq, List.getElem?_map, hi]
          rfl
        · cases hkind
      · cases hkind
    · cases hj
  | null => cases hj; cases hkind
  | bool b => cases hj; cases hkind
  | list vs =>
    obtain ⟨js, -, rfl⟩ := Option.map_eq_some_iff.1 hj
    cases hkind
  | object ms =>
    obtain ⟨js, -, rfl⟩ := Option.map_eq_some_iff.1 hj
    cases hkind

/-- The kind that a statement tells decides which fields it has. -/
lemma variantFields_eq {ms : List (Option String × Raw)} {kind : ActionKind}
    (h : fill [kindSlot] [] none ms = some (some kind)) :
    Shape.variantFields ms = (form kind).slots.map Slot.name := by
  obtain ⟨v, set, hfilter, hread, hset⟩ := filter_of_fill rfl h
  obtain ⟨j, hj, hread⟩ := Option.bind_eq_some_iff.1 hread
  obtain ⟨kind', hkind', rfl⟩ := Option.map_eq_some_iff.1 hread
  obtain rfl := Option.some.inj hset
  have hfilter : ms.filter (·.1 = some "kind") = [(some "kind", v)] := hfilter
  rw [Shape.variantFields, hfilter]
  dsimp only
  rw [kindFields?_eq hj hkind']
  rfl

lemma KeptField.commutes {α α' : Type} {name name' : String} {required required' : Bool}
    {d : Json → Except Problem α} {d' : Json → Except Problem α'} {set : α → ρ → ρ}
    {set' : α' → ρ → ρ} (h : ∀ x y r, set x (set' y r) = set' y (set x r)) :
    (KeptField.slot ⟨name, required, fun v => set <$> d v⟩).Commutes
      (KeptField.slot ⟨name', required', fun v => set' <$> d' v⟩) :=
  (writes_slot name required d set).commutes (writes_slot name' required' d' set') h

lemma commutes_form (kind : ActionKind) : (form kind).slots.Pairwise Slot.Commutes := by
  apply Slot.AllCommute.pairwise
  cases kind <;> and_intros <;> first | exact KeptField.commutes fun _ _ _ => rfl | trivial

/-! ### Statements -/

/-- A statement with these members, as three records filled from them. -/
def stmt? (ms : List (Option String × Raw)) : Option Stmt :=
  if ms.all keepable then
    (fill [childrenSlot] [] none ms).bind fun cs =>
      (fill [kindSlot] [] none ms).bind fun kind => kind.bind fun kind =>
        ((form kind).action? ms).map fun action => .node action (cs.getD [])
  else none

lemma on_stmt_object_eq (ms : List (Option String × Raw)) :
    Decoder.on stmt none (.object ms) = stmt? ms := by
  rw [on_stmt_object, ofMembers?, stmt?, ← isSome_setAside?]
  rcases hkept : setAside? ms with _ | kept
  · simp
  · simp only [Option.isSome_some, if_true, Option.bind_some, toOption_actionOf hkept,
      Option.map_bind, Function.comp_def]

/-! ### Statements and the order of members -/

/-- Of the kinds, only the one that the members tell matters. -/
lemma stmt?_congr {ms ms' : List (Option String × Raw)}
    (hkeep : ms.all keepable = ms'.all keepable)
    (hchildren : fill [childrenSlot] [] none ms = fill [childrenSlot] [] none ms')
    (hkind : fill [kindSlot] [] none ms = fill [kindSlot] [] none ms')
    (haction : ∀ kind, fill [kindSlot] [] none ms = some (some kind) →
      fill (form kind).slots [] (form kind).blank ms =
        fill (form kind).slots [] (form kind).blank ms') :
    stmt? ms = stmt? ms' := by
  simp only [stmt?, ← hkeep, ← hchildren, ← hkind]
  rcases hk : fill [kindSlot] [] none ms with _ | _ | kind
  · rfl
  · rfl
  · simp only [Form.action?, Option.bind_some, haction kind hk]

lemma stmt?_perm {ms ms' : List (Option String × Raw)} (h : ms.Perm ms') :
    stmt? ms = stmt? ms' :=
  stmt?_congr h.all_eq (fill_perm (List.pairwise_singleton _ _) h)
    (fill_perm (List.pairwise_singleton _ _) h) fun kind _ => fill_perm (commutes_form kind) h

lemma stmt?_insert {ms : List (Option String × Raw)} {name : String} {v : Raw}
    (hchildren : name ≠ "children") (hkind : name ≠ "kind")
    (hname : name ∉ Shape.variantFields ms) (hv : v.json?.isSome) :
    stmt? ms = stmt? ((some name, v) :: ms) := by
  refine stmt?_congr ?_ ?_ ?_ fun kind hk => ?_
  · simp [keepable, hv]
  · exact (fill_foreign (by simp [childrenSlot, Ne.symm hchildren]) v).symm
  · exact (fill_foreign (by simp [kindSlot, Ne.symm hkind]) v).symm
  · rw [variantFields_eq hk] at hname
    exact (fill_foreign (find?_eq_none_of_not_mem hname) v).symm

/-- Children that are read the same. -/
lemma stmt?_replace {ms ns : List (Option String × Raw)} {v v' : Raw}
    (h : Raw.items? (Decoder.on stmt none) v = Raw.items? (Decoder.on stmt none) v') :
    stmt? (ms ++ (some "children", v) :: ns) = stmt? (ms ++ (some "children", v') :: ns) := by
  refine stmt?_congr (by simp [keepable]) (fill_replace fun f hf => ?_) (fill_replace ?_)
    fun kind _ => fill_replace ?_
  · obtain rfl : childrenSlot = f := by simpa [childrenSlot] using hf
    simp only [childrenSlot, h]
  · intro f hf
    cases hf
  · intro f hf
    rw [find?_eq_none_of_not_mem (not_mem_names_form kind).1] at hf
    cases hf

lemma stmt?_eq_none {ms : List (Option String × Raw)}
    (h : fill [childrenSlot] [] none ms = none ∨ fill [kindSlot] [] none ms = none ∨
      ∀ kind, fill [kindSlot] [] none ms = some (some kind) →
        fill (form kind).slots [] (form kind).blank ms = none) : stmt? ms = none := by
  rw [stmt?]
  split
  · rcases h with h | h | h
    · rw [h]
      rfl
    · simp [h]
    · rcases hk : fill [kindSlot] [] none ms with _ | _ | kind
      · simp
      · simp
      · simp [Form.action?, h kind hk]
  · rfl

/-- Of the fields of a statement, only its children can change. -/
lemma eq_children_of_lookup {ms : List (Option String × Raw)} {fields : List (String × Shape)}
    (hs : Shape.fields? .stmt ms = some fields) {name : String} {t : Shape}
    (ht : fields.lookup name = some t) : t = .plain ∨ name = "children" ∧ t = .list .stmt := by
  cases hs
  rw [List.cons_append, List.cons_append, List.nil_append, lookup_cons_ite, lookup_cons_ite] at ht
  split at ht
  · exact .inl (Option.some.inj ht).symm
  · split at ht
    · next hname => exact .inr ⟨hname, (Option.some.inj ht).symm⟩
    · obtain ⟨_, _, heq⟩ := List.mem_map.1 (mem_of_lookup ht)
      exact .inl (congrArg Prod.snd heq).symm

/-- A change in a statement or in a list of statements. -/
lemma on_stmt_of_changes {s : Shape} {v v' : Raw} (h : s.Changes v v') :
    (s = .stmt → Decoder.on stmt none v = Decoder.on stmt none v') ∧
      (s = .list .stmt →
        Raw.items? (Decoder.on stmt none) v = Raw.items? (Decoder.on stmt none) v') := by
  induction h with
  | permute hs h =>
    refine ⟨?_, ?_⟩
    · rintro rfl
      rw [on_stmt_object_eq, on_stmt_object_eq, stmt?_perm h]
    · rintro rfl
      cases hs
  | insert hs hname hv =>
    refine ⟨?_, ?_⟩
    · rintro rfl
      cases hs
      simp only [List.cons_append, List.nil_append, List.map_cons, List.map_map, List.mem_cons,
        not_or, Function.comp_def, List.map_id'] at hname
      obtain ⟨hkind, hchildren, hname⟩ := hname
      rw [on_stmt_object_eq, on_stmt_object_eq, stmt?_insert hchildren hkind hname hv]
    · rintro rfl
      cases hs
  | member hs ht h ih =>
    refine ⟨?_, ?_⟩
    · rintro rfl
      rcases eq_children_of_lookup hs ht with rfl | ⟨rfl, rfl⟩
      · exact absurd h Shape.not_changes_plain
      · rw [on_stmt_object_eq, on_stmt_object_eq, stmt?_replace (ih.2 rfl)]
    · rintro rfl
      cases hs
  | item h ih =>
    refine ⟨by rintro ⟨⟩, ?_⟩
    rintro ⟨⟩
    exact mapM_replace (ih.1 rfl) _ _
  | column ht h ih => constructor <;> rintro ⟨⟩

lemma on_stmt_of_repeats {s : Shape} {v : Raw} (h : s.Repeats v) :
    (s = .stmt → Decoder.on stmt none v = none) ∧
      (s = .list .stmt → Raw.items? (Decoder.on stmt none) v = none) := by
  induction h with
  | @key s fields ms name hs hname hcount =>
    refine ⟨?_, ?_⟩
    · rintro rfl
      cases hs
      simp only [List.cons_append, List.nil_append, List.map_cons, List.map_map, List.mem_cons,
        Function.comp_def, List.map_id'] at hname
      rw [on_stmt_object_eq]
      apply stmt?_eq_none
      rcases hname with rfl | rfl | hname
      · exact .inr (.inl (fill_repeated (f := kindSlot) rfl hcount))
      · exact .inl (fill_repeated (f := childrenSlot) rfl hcount)
      · refine .inr (.inr fun kind hk => ?_)
        rw [variantFields_eq hk] at hname
        obtain ⟨f, hf⟩ := exists_find?_of_mem hname
        exact fill_repeated hf hcount
    · rintro rfl
      cases hs
  | @member s fields ms name t v hs ht hm h ih =>
    refine ⟨?_, ?_⟩
    · rintro rfl
      rcases eq_children_of_lookup hs ht with rfl | ⟨rfl, rfl⟩
      · exact absurd h Shape.not_repeats_plain
      · rw [on_stmt_object_eq]
        have hread : childrenSlot.read v = none := by simp [childrenSlot, ih.2 rfl]
        exact stmt?_eq_none (.inl (fill_unread hm rfl hread))
    · rintro rfl
      cases hs
  | item hv h ih =>
    refine ⟨by rintro ⟨⟩, ?_⟩
    rintro ⟨⟩
    exact mapM_unread hv (ih.1 rfl)
  | column ht h ih => constructor <;> rintro ⟨⟩

lemma fits_stmt : Fits stmt .stmt where
  means := means_stmt
  keeps := ⟨fun h => (on_stmt_of_changes h).1 rfl, fun h => (on_stmt_of_repeats h).1 rfl⟩

end MethodAudit.Reader
