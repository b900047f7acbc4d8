import MethodAudit.Json.Decoder
import MethodAudit.Proofs.Json.Tree

/-!
What decoders make of a value.

A decoder reads a tree, and the errors it reports name places. What it returns, if it returns
anything, depends on the value alone that the tree shows: that is its meaning. Meanings are put
together as decoders are. Nesting is not limited here.
-/

/-! ### Results without their errors -/

lemma MethodAudit.eq_ok_of_toOption {ε α : Type} {x : Except ε α} {a : α}
    (h : x.toOption = some a) : x = .ok a := by
  cases x with
  | error e => exact nomatch h
  | ok b => rw [Option.some.inj h]

namespace MethodAudit.Json

section

variable {ε α β : Type}

@[simp] lemma toOption_ok (a : α) : (Except.ok a : Except ε α).toOption = some a := rfl

@[simp] lemma toOption_error (e : ε) : (Except.error e : Except ε α).toOption = none := rfl

@[simp] lemma toOption_bind (x : Except ε α) (f : α → Except ε β) :
    (x >>= f).toOption = x.toOption.bind fun a => (f a).toOption := by
  cases x <;> rfl

@[simp] lemma toOption_map (f : α → β) (x : Except ε α) :
    (f <$> x).toOption = x.toOption.map f := by
  cases x <;> rfl

@[simp] lemma toOption_located (pos : Position) (x : Except Problem α) :
    (Decoder.located pos x).toOption = x.toOption := by
  cases x <;> rfl

@[simp] lemma toOption_pick (variants : List (String × α)) (name : String) :
    (Decoder.pick variants name).toOption = variants.lookup name := by
  unfold Decoder.pick
  split
  · next h => rw [h]; rfl
  · next h => rw [h]; rfl

end

/-! ### A tree for every value -/

/-- A literal of this text, or one that stands for none. -/
def Literal.of : Option String → Literal
  | some s => .ok s
  | none => .error ⟨.loneSurrogate, default⟩

@[simp] lemma Literal.toOption_of (s : Option String) : (Literal.of s).toOption = s := by
  cases s <;> rfl

mutual

/-- A tree that shows the value. -/
def Raw.node : Raw → Node
  | .null => .leaf ⟨.null, default⟩
  | .bool b => .leaf ⟨.bool b, default⟩
  | .number n => .leaf ⟨.number n, default⟩
  | .string s => .leaf ⟨.string (.of s), default⟩
  | .list vs => .list default (Raw.itemNodes vs)
  | .object ms => .object default (Raw.memberNodes ms)

def Raw.itemNodes : List Raw → Items
  | [] => .stop (.closed default)
  | v :: vs => .cons v.node (Raw.itemNodes vs)

def Raw.memberNodes : List (Option String × Raw) → Members
  | [] => .stop (.closed default)
  | (k, v) :: ms => .cons ⟨.of k, default, default, default⟩ v.node (Raw.memberNodes ms)

end

mutual

theorem Raw.shows_node : (v : Raw) → v.node.Shows v
  | .null => .null default
  | .bool b => .bool b default
  | .number n => .number n default
  | .string s => by
    have h := Node.Shows.string (.of s) default
    rwa [Literal.toOption_of] at h
  | .list vs => .list default (Raw.show_itemNodes vs)
  | .object ms => .object default (Raw.show_memberNodes ms)

theorem Raw.show_itemNodes : (vs : List Raw) → (Raw.itemNodes vs).Show vs
  | [] => .stop default
  | v :: vs => .cons v.shows_node (Raw.show_itemNodes vs)

theorem Raw.show_memberNodes : (ms : List (Option String × Raw)) → (Raw.memberNodes ms).Show ms
  | [] => .stop default
  | (k, v) :: ms => by
    have h := Members.Show.cons ⟨.of k, default, default, default⟩ v.shows_node
      (Raw.show_memberNodes ms)
    rwa [Literal.toOption_of] at h

end

/-! ### Meanings -/

/-- Whatever tree shows the value, a decoder makes `o` of it. -/
def Reads (d : Decoder α) (room : Room) (v : Raw) (o : Option α) : Prop :=
  ∀ n : Node, n.Shows v → (d room n).toOption = o

/-- A decoder makes of every value what `f` does. -/
def Means (d : Decoder α) (room : Room) (f : Raw → Option α) : Prop := ∀ v, Reads d room v (f v)

/-- What a decoder makes of a value. -/
def Decoder.on (d : Decoder α) (room : Room) (v : Raw) : Option α := (d room v.node).toOption

section

variable {d : Decoder α} {room : Room} {v : Raw} {o : Option α} {f : Raw → Option α}

lemma Reads.on_eq (h : Reads d room v o) : d.on room v = o := h _ v.shows_node

lemma Reads.on (h : Reads d room v o) : Reads d room v (d.on room v) := h.on_eq ▸ h

lemma Means.on_eq (h : Means d room f) : d.on room = f := funext fun v => (h v).on_eq

lemma Means.on (h : Means d room f) : Means d room (d.on room) := fun v => (h v).on

/-- What a decoder makes of a value, it makes of a text that spells it. -/
lemma Reads.decode (h : Reads d room v o) {text : String} (ht : Spells text.toList v.signs) :
    (decode d room text).toOption = o := by
  obtain ⟨n, hn, hread⟩ := exists_shows_of_spells ht
  rw [← h n hn, Json.decode, hread]
  cases d room n <;> rfl

lemma Reads.map (h : Reads d room v o) (g : α → β) :
    Reads (fun room n => g <$> d room n) room v (o.map g) := by
  intro n hn
  rw [toOption_map, h n hn]

/-- There is room to enter a bracket. -/
def Enters (room inner : Room) : Prop := ∀ span, room.enter span = .ok inner

lemma enters_succ (k : Nat) : Enters (some (k + 2)) (some (k + 1)) := fun _ => rfl

lemma enters_none : Enters none none := fun _ => rfl

end

/-! ### Values taken in or passed over -/

mutual

/-- The value, if its numbers are in range and its strings in order. -/
def Raw.json? : Raw → Option Json
  | .null => some .null
  | .bool b => some (.bool b)
  | .number n => if n.value.isSome then some (.number n) else none
  | .string s => s.map .string
  | .list vs => (Raw.jsonItems? vs).map .list
  | .object ms => (Raw.jsonMembers? ms).map .object

def Raw.jsonItems? : List Raw → Option (List Json)
  | [] => some []
  | v :: vs => v.json?.bind fun j => (Raw.jsonItems? vs).map (j :: ·)

def Raw.jsonMembers? : List (Option String × Raw) → Option (List (String × Json))
  | [] => some []
  | (k, v) :: ms =>
    k.bind fun name => v.json?.bind fun j => (Raw.jsonMembers? ms).map ((name, j) :: ·)

end

mutual

theorem means_value : (v : Raw) → ∀ {n : Node}, n.Shows v → (n.value none).toOption = v.json?
  | .null, n, h => by
    cases h
    rfl
  | .bool b, n, h => by
    cases h
    rfl
  | .number m, n, h => by
    cases h
    simp only [Node.value, Raw.json?]
    split <;> rfl
  | .string s, n, h => by
    cases h
    simp only [Node.value, toOption_map, Raw.json?]
  | .list vs, n, h => by
    cases h with
    | list span hitems =>
      have hvs := means_values vs hitems
      simp only [Node.value, Room.enter, toOption_bind, toOption_ok, Option.bind_some, hvs,
        Raw.json?]
      cases Raw.jsonItems? vs <;> rfl
  | .object ms, n, h => by
    cases h with
    | object span hmembers =>
      have hms := means_members ms hmembers
      simp only [Node.value, Room.enter, toOption_bind, toOption_ok, Option.bind_some, hms,
        Raw.json?]
      cases Raw.jsonMembers? ms <;> rfl

theorem means_values : (vs : List Raw) → ∀ {items : Items}, items.Show vs →
    (items.values none).toOption = Raw.jsonItems? vs
  | [], _, h => by
    cases h
    rfl
  | v :: vs, _, h => by
    cases h with
    | cons hn hrest =>
      have hv := means_value v hn
      have hvs := means_values vs hrest
      simp only [Items.values, toOption_bind, hv, hvs, Raw.jsonItems?]
      cases v.json? <;> cases Raw.jsonItems? vs <;> rfl

theorem means_members : (ms : List (Option String × Raw)) → ∀ {members : Members},
    members.Show ms → (members.values none).toOption = Raw.jsonMembers? ms
  | [], _, h => by
    cases h
    rfl
  | (k, v) :: ms, _, h => by
    cases h with
    | cons k hn hrest =>
      have hv := means_value v hn
      have hms := means_members ms hrest
      simp only [Members.values, toOption_bind, hv, hms, Raw.jsonMembers?]
      cases k.text <;> cases v.json? <;> cases Raw.jsonMembers? ms <;> rfl

end

mutual

/-- A value without faults of form can be passed over. -/
theorem Node.Shows.skip_eq : (v : Raw) → ∀ {n : Node}, n.Shows v → n.skip = .ok ()
  | .null, n, h => by
    cases h
    rfl
  | .bool b, n, h => by
    cases h
    rfl
  | .number m, n, h => by
    cases h
    rfl
  | .string s, n, h => by
    cases h
    rfl
  | .list vs, n, h => by
    cases h with
    | list span hitems => exact Items.Show.skip_eq vs hitems
  | .object ms, n, h => by
    cases h with
    | object span hmembers => exact Members.Show.skip_eq ms hmembers

theorem Items.Show.skip_eq : (vs : List Raw) → ∀ {items : Items}, items.Show vs →
    items.skip = .ok ()
  | [], _, h => by
    cases h
    rfl
  | v :: vs, _, h => by
    cases h with
    | cons hn hrest =>
      rw [Items.skip, hn.skip_eq v]
      exact Items.Show.skip_eq vs hrest

theorem Members.Show.skip_eq : (ms : List (Option String × Raw)) → ∀ {members : Members},
    members.Show ms → members.skip = .ok ()
  | [], _, h => by
    cases h
    rfl
  | (k, v) :: ms, _, h => by
    cases h with
    | cons k hn hrest =>
      rw [Members.skip, hn.skip_eq v]
      exact Members.Show.skip_eq ms hrest

end

/-! ### Single values -/

namespace Raw

def text? : Raw → Option String
  | .string s => s
  | _ => none

def bool? : Raw → Option Bool
  | .bool b => some b
  | _ => none

/-- A natural number below `bound`. -/
def natural? (bound : Nat) : Raw → Option Nat
  | .number n =>
    match n.value with
    | some (.integer i) => if 0 ≤ i && i < bound then some i.toNat else none
    | _ => none
  | _ => none

/-- `null` for nothing, or what `f` makes of the value. -/
def optional? (f : Raw → Option α) : Raw → Option (Option α)
  | .null => some none
  | v => (f v).map some

/-- A name, or an object whose only key is a name and whose value is `null`. -/
def variant? (variants : List (String × α)) : Raw → Option α
  | .string s => s.bind fun name => variants.lookup name
  | .object [(k, .null)] => k.bind fun name => variants.lookup name
  | _ => none

def items? (f : Raw → Option α) : Raw → Option (List α)
  | .list vs => vs.mapM f
  | _ => none

def entries? (f : Raw → Option α) : Raw → Option (List (String × α))
  | .object ms => ms.mapM fun m => m.1.bind fun name => (f m.2).map (name, ·)
  | _ => none

end Raw

namespace Decoder

variable {room inner : Room} {d : Decoder α} {f : Raw → Option α}

lemma means_string (room : Room) : Means string room Raw.text? := by
  intro v n hn
  cases hn <;> rfl

lemma means_bool (room : Room) : Means bool room Raw.bool? := by
  intro v n hn
  cases hn <;> rfl

lemma means_natural (bound : Nat) (wanted : String) (room : Room) :
    Means (natural bound wanted) room (Raw.natural? bound) := by
  intro v n hn
  cases hn with
  | number m span =>
    simp only [natural, Raw.natural?]
    rcases m.value with _ | ⟨i⟩ | ⟨negative, x⟩
    · rfl
    · dsimp only
      split <;> rfl
    · rfl
  | _ => rfl

lemma reads_optional {v : Raw} (h : Reads d room v (f v)) :
    Reads (optional d) room v (Raw.optional? f v) := by
  intro n hn
  have hsome : (some <$> d room n).toOption = (f v).map some := by rw [toOption_map, h n hn]
  cases hn with
  | null span => rfl
  | _ => exact hsome

/-- Only an object of one member names a variant. -/
lemma means_variant (hroom : Enters room inner) (variants : List (String × α)) :
    Means (variant variants) room (Raw.variant? variants) := by
  intro v n hn
  cases hn with
  | string s span =>
    simp only [variant, toOption_bind, toOption_located, toOption_pick, Raw.variant?]
  | object span hms =>
    simp only [variant, hroom span, toOption_bind, toOption_ok, Option.bind_some]
    cases hms with
    | stop span => rfl
    | cons k hn hrest =>
      simp only [toOption_bind]
      cases hrest with
      | stop span =>
        cases hn with
        | null span =>
          simp only [unit, soleMember, toOption_located, toOption_pick, toOption_ok,
            Option.bind_some, Raw.variant?]
          cases k.text <;> simp [pure, Except.pure]
        | _ => simp [unit, Raw.variant?]
      | cons k' hn' hrest' => simp [soleMember, Raw.variant?]
  | _ => rfl

/-! ### Lists and maps -/

lemma toOption_items {vs : List Raw} (h : ∀ v ∈ vs, Reads d room v (f v)) {is : Items}
    (his : is.Show vs) : (items d room is).toOption = vs.mapM f := by
  induction vs generalizing is with
  | nil =>
    cases his
    rfl
  | cons v vs ih =>
    cases his with
    | cons hn hrest =>
      have hvs := ih (fun v hv => h v (List.mem_cons_of_mem _ hv)) hrest
      rw [items, toOption_bind, h v List.mem_cons_self _ hn, List.mapM_cons]
      simp only [toOption_bind, hvs]
      rfl

/-- What becomes of a list depends on the values in it only. -/
lemma reads_list (hroom : Enters room inner) {v : Raw}
    (h : ∀ vs, v = .list vs → ∀ w ∈ vs, Reads d inner w (f w)) :
    Reads (list d) room v (Raw.items? f v) := by
  intro n hn
  cases hn with
  | list span his =>
    rw [list, hroom span]
    exact toOption_items (h _ rfl) his
  | _ => rfl

lemma means_list (hroom : Enters room inner) (h : Means d inner f) :
    Means (list d) room (Raw.items? f) :=
  fun _ => reads_list hroom fun _ _ v _ => h v

lemma toOption_entries {ms : List (Option String × Raw)} (h : ∀ m ∈ ms, Reads d room m.2 (f m.2))
    {members : Members} (hms : members.Show ms) :
    (entries d room members).toOption =
      ms.mapM fun m => m.1.bind fun name => (f m.2).map (name, ·) := by
  induction ms generalizing members with
  | nil =>
    cases hms
    rfl
  | cons m ms ih =>
    cases hms with
    | cons k hn hrest =>
      have hv := h _ List.mem_cons_self _ hn
      have hms := ih (fun m hm => h m (List.mem_cons_of_mem _ hm)) hrest
      simp only [entries, toOption_bind, hv, hms, List.mapM_cons]
      cases k.text <;> rcases f _ with _ | a <;> rfl

lemma reads_map (hroom : Enters room inner) {v : Raw}
    (h : ∀ ms, v = .object ms → ∀ m ∈ ms, Reads d inner m.2 (f m.2)) :
    Reads (map d) room v (Raw.entries? f v) := by
  intro n hn
  cases hn with
  | object span hms =>
    rw [map, hroom span]
    exact toOption_entries (h _ rfl) hms
  | _ => rfl

end Decoder

end MethodAudit.Json
