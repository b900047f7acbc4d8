import MethodAudit.Proofs.Json.Filling

/-!
What decoders make of the values that are written for them.

A value may fail to fit: a number of any size can be written, and one that is too large is
refused. So each decoder comes with the condition under which it gives a result.
-/

namespace MethodAudit.Json

/-- The result is `a` if `p` holds, and there is none if not. -/
def Settles (o : Option α) (p : Prop) (a : α) : Prop := (p → o = some a) ∧ (¬p → o = none)

namespace Settles

variable {o : Option α} {p q : Prop} {a : α}

lemma of_eq (h : o = some a) : Settles o True a := ⟨fun _ => h, fun hp => absurd trivial hp⟩

lemma congr (hpq : p ↔ q) (h : Settles o p a) : Settles o q a :=
  ⟨fun hq => h.1 (hpq.2 hq), fun hq => h.2 (mt hpq.1 hq)⟩

lemma bind (h : Settles o p a) {k : α → Option β} {b : β} (hk : Settles (k a) q b) :
    Settles (o.bind k) (p ∧ q) b := by
  refine ⟨fun ⟨hp, hq⟩ => ?_, fun hpq => ?_⟩
  · rw [h.1 hp]
    exact hk.1 hq
  · by_cases hp : p
    · rw [h.1 hp]
      exact hk.2 fun hq => hpq ⟨hp, hq⟩
    · rw [h.2 hp]
      rfl

lemma map (h : Settles o p a) (f : α → β) : Settles (o.map f) p (f a) :=
  ⟨fun hp => by rw [h.1 hp]; rfl, fun hp => by rw [h.2 hp]; rfl⟩

lemma mapM {f : β → Option α} {g : α → β} {p : α → Prop} {xs : List α}
    (h : ∀ x ∈ xs, Settles (f (g x)) (p x) x) : Settles ((xs.map g).mapM f) (∀ x ∈ xs, p x) xs := by
  induction xs with
  | nil => exact (of_eq rfl).congr (by simp)
  | cons x xs ih =>
    have hxs := ih fun y hy => h y (List.mem_cons_of_mem _ hy)
    have hcons := (h x List.mem_cons_self).bind
      (k := fun y => ((xs.map g).mapM f).map (y :: ·)) (hxs.map (x :: ·))
    rw [List.map_cons, List.mapM_cons]
    simpa [Option.map_eq_bind, Function.comp_def] using hcons

/-- Whatever is returned is the value. -/
lemma eq_of_eq_some (h : Settles o p a) {b : α} (hb : o = some b) : p ∧ b = a := by
  by_cases hp : p
  · exact ⟨hp, Option.some.inj (hb.symm.trans (h.1 hp))⟩
  · exact nomatch hb.symm.trans (h.2 hp)

end Settles

/-! ### Numbers -/

/-- The number that digits stand for, behind those of `sig`. -/
def digitsValue (sig : Nat) (ds : List Nat) : Nat := ds.foldl (fun n d => n * 10 + d) sig

lemma le_digitsValue (sig : Nat) (ds : List Nat) : sig ≤ digitsValue sig ds := by
  induction ds generalizing sig with
  | nil => exact Nat.le_refl sig
  | cons d ds ih => exact Nat.le_trans (by omega) (ih (sig * 10 + d))

lemma takeDigits_of_le {sig : Nat} {ds : List Nat} (h : digitsValue sig ds ≤ maxSignificand) :
    takeDigits sig ds = (digitsValue sig ds, []) := by
  induction ds generalizing sig with
  | nil => rfl
  | cons d ds ih =>
    have hd : sig * 10 + d ≤ maxSignificand := Nat.le_trans (le_digitsValue _ ds) h
    rw [takeDigits, if_pos hd, ih h]
    rfl

lemma takeDigits_of_lt {sig : Nat} {ds : List Nat} (h : maxSignificand < digitsValue sig ds)
    (hsig : sig ≤ maxSignificand) : (takeDigits sig ds).2 ≠ [] := by
  induction ds generalizing sig with
  | nil => exact absurd h (Nat.not_lt.2 hsig)
  | cons d ds ih =>
    rw [takeDigits]
    split
    · next hd => exact ih h hd
    · exact List.cons_ne_nil d ds

/-- Digits alone are read as an integer as long as it is small enough. -/
lemma value_of_le {ds : List Nat} (h : digitsValue 0 ds ≤ maxSignificand) :
    Numeral.value ⟨false, ds, none, none⟩ = some (.integer (digitsValue 0 ds)) := by
  simp [Numeral.value, takeDigits_of_le h]

lemma value_of_lt {ds : List Nat} (h : maxSignificand < digitsValue 0 ds) (i : Int) :
    Numeral.value ⟨false, ds, none, none⟩ ≠ some (.integer i) := by
  have hrest := takeDigits_of_lt h (Nat.zero_le _)
  rcases htake : takeDigits 0 ds with ⟨sig, _ | ⟨d, rest⟩⟩
  · exact absurd (by rw [htake]) hrest
  · simp [Numeral.value, htake, Option.bind_eq_some_iff]

lemma digitsValue_ofNat (n : Nat) : digitsValue 0 (Numeral.ofNat n).whole = n := by
  have h := Nat.ofDigitChars_ten_toDigits (n := n)
  simpa [digitsValue, Numeral.ofNat, List.foldl_map, Nat.ofDigitChars, Nat.mul_comm] using h

/-! ### Decoders of single values -/

/-- What a decoder makes of a value: `a` if `p` holds, and nothing if not. -/
def Decodes (d : Decoder α) (room : Room) (v : Json) (p : Prop) (a : α) : Prop :=
  ∃ o, Reads d room v.raw o ∧ Settles o p a

section

variable {d : Decoder α} {room : Room} {v : Json} {p q : Prop} {a : α}

lemma Decodes.reads (h : Decodes d room v p a) : Reads d room v.raw (d.on room v.raw) := by
  obtain ⟨o, hreads, -⟩ := h
  exact hreads.on

lemma Decodes.settles (h : Decodes d room v p a) : Settles (d.on room v.raw) p a := by
  obtain ⟨o, hreads, hsettles⟩ := h
  rwa [hreads.on_eq]

lemma Decodes.congr (hpq : p ↔ q) (h : Decodes d room v p a) : Decodes d room v q a :=
  ⟨_, h.reads, h.settles.congr hpq⟩

/-- A decoder with its result changed. -/
lemma Decodes.map (h : Decodes d room v p a) (f : α → β) :
    Decodes (fun room n => f <$> d room n) room v p (f a) :=
  ⟨_, h.reads.map f, h.settles.map f⟩

/-- **Round trip**: what a decoder makes of a value, it makes of a text that spells it. -/
theorem Decodes.decode (h : Decodes d room v p a) {text : String}
    (ht : Spells text.toList v.raw.signs) : Settles (decode d room text).toOption p a := by
  rw [h.reads.decode ht]
  exact h.settles

end

namespace Decoder

lemma decodes_string (room : Room) (s : String) : Decodes string room (.string s) True s :=
  ⟨_, means_string room _, .of_eq rfl⟩

lemma decodes_bool (room : Room) (b : Bool) : Decodes bool room (.bool b) True b :=
  ⟨_, means_bool room _, .of_eq rfl⟩

lemma decodes_natural {bound : Nat} (hbound : bound ≤ 0x10000000000000000) (wanted : String)
    (room : Room) (k : Nat) : Decodes (natural bound wanted) room (.nat k) (k < bound) k := by
  refine ⟨_, means_natural bound wanted room _, ?_⟩
  have hk := digitsValue_ofNat k
  have hmax : maxSignificand = 0x10000000000000000 - 1 := rfl
  rcases Nat.lt_or_ge maxSignificand k with hlt | hle
  · -- too large for an integer, and for the bound
    have hne := value_of_lt (hk.symm ▸ hlt)
    refine ⟨fun h => absurd h (by omega), fun _ => ?_⟩
    rcases hv : Numeral.value (.ofNat k) with _ | ⟨i⟩ | ⟨neg, x⟩
    · simp only [Json.nat, raw, Raw.natural?, hv]
    · exact absurd hv (hne i)
    · simp only [Json.nat, raw, Raw.natural?, hv]
  · have hv : Numeral.value (.ofNat k) = some (.integer k) := by
      have h := value_of_le (hk.symm ▸ hle)
      rwa [hk] at h
    constructor <;> intro h <;> simp [Json.nat, raw, Raw.natural?, hv, h]

lemma decodes_word {bound : Nat} (hbound : bound ≤ 0x10000000000000000) (wanted : String)
    (room : Room) (f : Nat → α) {k : Nat} (hk : k < bound) :
    Decodes (fun room n => f <$> natural bound wanted room n) room (.nat k) True (f k) :=
  ((decodes_natural hbound wanted room k).map f).congr (by simp [hk])

lemma decodes_u8 (room : Room) (x : UInt8) : Decodes u8 room (.nat x.toNat) True x := by
  have h : Decodes u8 room (.nat x.toNat) True x.toNat.toUInt8 :=
    decodes_word (by omega) "u8" room Nat.toUInt8 x.toNat_lt
  simpa using h

lemma decodes_u32 (room : Room) (x : UInt32) : Decodes u32 room (.nat x.toNat) True x := by
  have h : Decodes u32 room (.nat x.toNat) True x.toNat.toUInt32 :=
    decodes_word (by omega) "u32" room Nat.toUInt32 x.toNat_lt
  simpa using h

lemma decodes_u64 (room : Room) (x : UInt64) : Decodes u64 room (.nat x.toNat) True x := by
  have h : Decodes u64 room (.nat x.toNat) True x.toNat.toUInt64 :=
    decodes_word (by omega) "u64" room Nat.toUInt64 x.toNat_lt
  simpa using h

lemma decodes_size (room : Room) (k : Nat) :
    Decodes size room (.nat k) (k < 0x10000000000000000) k :=
  decodes_natural (Nat.le_refl _) "usize" room k

lemma decodes_none (d : Decoder α) (room : Room) : Decodes (optional d) room .null True none :=
  ⟨_, fun n hn => by cases hn; rfl, .of_eq rfl⟩

lemma decodes_some {d : Decoder α} {room : Room} {v : Json} {p : Prop} {a : α} (hv : v ≠ .null)
    (h : Decodes d room v p a) : Decodes (optional d) room v p (some a) := by
  have hsome : Raw.optional? (d.on room) v.raw = (d.on room v.raw).map some := by
    cases v <;> first | rfl | contradiction
  exact ⟨_, reads_optional h.reads, hsome ▸ h.settles.map some⟩

lemma decodes_optional {d : Decoder α} {room : Room} {enc : α → Json} (henc : ∀ a, enc a ≠ .null)
    (h : ∀ a, Decodes d room (enc a) True a) (o : Option α) :
    Decodes (optional d) room (Json.optional enc o) True o := by
  cases o with
  | none => exact decodes_none d room
  | some a => exact decodes_some (henc a) (h a)

lemma decodes_variant {room inner : Room} (hroom : Enters room inner)
    {variants : List (String × α)} {name : String} {a : α} (h : variants.lookup name = some a) :
    Decodes (variant variants) room (.string name) True a :=
  ⟨_, means_variant hroom variants _, .of_eq h⟩

/-! ### Decoders of lists and objects -/

section

variable {d : Decoder α} {room inner : Room} {enc : α → Json} {p : α → Prop}

lemma decodes_list (hroom : Enters room inner) {xs : List α}
    (h : ∀ x ∈ xs, Decodes d inner (enc x) (p x) x) :
    Decodes (list d) room (.list (xs.map enc)) (∀ x ∈ xs, p x) xs := by
  have hraw : (Json.list (xs.map enc)).raw = .list (xs.map fun x => (enc x).raw) := by
    rw [raw, rawItems_eq_map, List.map_map]
    rfl
  refine ⟨Raw.items? (d.on inner) (Json.list (xs.map enc)).raw, reads_list hroom ?_, ?_⟩
  · rintro vs hvs v hv
    cases hraw.symm.trans hvs
    obtain ⟨x, hx, rfl⟩ := List.mem_map.1 hv
    exact (h x hx).reads
  · rw [hraw]
    exact .mapM fun x hx => (h x hx).settles

/-- A list of values that can all be read, at any depth. -/
lemma decodes_all (h : ∀ a, Decodes d none (enc a) True a) (xs : List α) :
    Decodes (list d) none (.list (xs.map enc)) True xs :=
  (decodes_list enters_none fun x _ => h x).congr (by simp)

lemma decodes_object (hroom : Enters room inner) {xs : List (String × α)}
    (h : ∀ x ∈ xs, Decodes d inner (enc x.2) (p x.2) x.2) :
    Decodes (map d) room (.object (xs.map fun x => (x.1, enc x.2))) (∀ x ∈ xs, p x.2) xs := by
  have hraw : (Json.object (xs.map fun x => (x.1, enc x.2))).raw =
      .object (xs.map fun x => (some x.1, (enc x.2).raw)) := by
    rw [raw, rawMembers_eq_map, List.map_map]
    rfl
  refine ⟨Raw.entries? (d.on inner) (Json.object _).raw, reads_map hroom ?_, ?_⟩
  · rintro ms hms m hm
    cases hraw.symm.trans hms
    obtain ⟨x, hx, rfl⟩ := List.mem_map.1 hm
    exact (h x hx).reads
  · rw [hraw]
    exact .mapM fun x hx => (h x hx).settles.map (x.1, ·)

end

/-! ### Records -/

/-- What reading the members of an object one by one does to a record: `r` becomes `r'` if `p`
holds, and reading fails if not. -/
inductive Schema.Fills (s : Schema ρ) (room : Room) :
    List String → ρ → List (String × Json) → Prop → ρ → Prop
  | done {seen r} (h : s.missing? seen = none) : Fills s room seen r [] True r
  | field {seen r name v ms f set p q r'} (hf : s.fields.find? (·.name = name) = some f)
      (hs : seen.contains name = false) (hv : Decodes f.read room v p set)
      (h : Fills s room (name :: seen) (set r) ms q r') :
      Fills s room seen r ((name, v) :: ms) (p ∧ q) r'

namespace Schema

variable {s : Schema ρ} {room inner : Room} {seen : List String} {r r' : ρ}
  {ms : List (String × Json)} {p q : Prop}

lemma Fills.settles (h : s.Fills room seen r ms p r') :
    Settles (fill (s.slots room) seen r (rawMembers ms)) p r' := by
  induction h with
  | @done seen r h =>
    refine .of_eq ?_
    simp only [rawMembers, fill, find?_missing, h, Option.map_none]
  | @field seen r name v ms f set p q r' hf hs hv _ ih =>
    have hslot : (s.slots room).find? (·.name = name) = some (f.slot room) := by
      rw [find?_slots, hf]
      rfl
    rw [rawMembers, fill_known hslot, hs]
    exact hv.settles.bind ih

lemma Fills.reads (h : s.Fills room seen r ms p r') (name : String) (v : Raw) (f : Field ρ)
    (hm : (some name, v) ∈ rawMembers ms) (hf : s.fields.find? (·.name = name) = some f) :
    Reads f.read room v (f.read.on room v) := by
  induction h with
  | done => cases hm
  | field hg _ hv _ ih =>
    rcases List.mem_cons.1 hm with heq | hrest
    · cases heq
      obtain rfl := Option.some.inj (hg.symm.trans hf)
      exact hv.reads
    · exact ih hrest

lemma decodes (hroom : Enters room inner) (h : s.Fills inner [] s.blank ms p r) (hpq : p ↔ q) :
    Decodes s.decode room (.object ms) q r :=
  ⟨_, reads_object hroom h.reads, h.settles.congr hpq⟩

end Schema

end Decoder

end MethodAudit.Json
