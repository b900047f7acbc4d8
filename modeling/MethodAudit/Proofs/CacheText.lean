import Mathlib.Data.List.Induction
import MethodAudit.Cache
import MethodAudit.Proofs.Lists
import MethodAudit.Proofs.DumpText

/-!
The text of a cache, read back.

Everything a cache holds survives the trip, except that of several units under one key the
last one counts. Only a report with counts beyond 64 bits cannot be read, and then the whole
cache is refused.
-/

namespace MethodAudit

open Json Json.Decoder

/-! ### Numbers in the values written -/

lemma Location.natural_toJson (l : Location) : l.toJson.Natural :=
  ⟨trivial, trivial, trivial, trivial, natural_line l.line, trivial⟩

lemma Violation.natural_toJson (v : Violation) : v.toJson.Natural := by
  simp only [Violation.toJson, Natural, naturalMembers_iff, List.mem_append, List.mem_map]
  rintro m (hm | ⟨x, -, rfl⟩)
  · simp only [List.mem_cons, List.not_mem_nil, or_false] at hm
    rcases hm with rfl | rfl | rfl | rfl | rfl
    · trivial
    · exact natural_nat _
    · trivial
    · exact v.location.natural_toJson
    · trivial
  · trivial

lemma Report.natural_toJson (r : Report) : r.toJson.Natural :=
  ⟨trivial, trivial, natural_nat _, natural_nat _, natural_list Violation.natural_toJson _, trivial⟩

lemma Cache.natural_toJson (c : Cache) : c.toJson.Natural := by
  have hinfo : c.info.toJson.Natural :=
    ⟨natural_nat _, trivial, natural_list natural_string _, natural_nat _, trivial⟩
  have hunits : NaturalMembers (c.units.map fun u => (u.1, u.2.toJson)) := by
    rw [naturalMembers_iff]
    rintro m hm
    obtain ⟨⟨key, u⟩, -, rfl⟩ := List.mem_map.1 hm
    exact ⟨trivial, u.report.natural_toJson, trivial⟩
  exact ⟨hinfo, hunits, trivial⟩

/-! ### Records -/

namespace Reader

lemma decodes_location {room inner : Room} (hroom : Enters room inner) (l : Location) :
    Decodes locationSchema.decode room l.toJson True l := by
  apply Schema.decodes hroom
  · exact .field rfl rfl ((decodes_string inner l.file).map _) <|
      .field rfl rfl ((decodes_string inner l.container).map _) <|
      .field rfl rfl ((decodes_string inner l.method.selector).map _) <|
      .field rfl rfl ((decodes_bool inner l.method.classMethod).map _) <|
      .field rfl rfl ((decodes_line inner l.line).map _) <| .done rfl
  · simp

lemma lookup_verdictNames (v : Verdict) : verdictNames.lookup v.name = some v := by
  cases v <;> rfl

lemma decodes_violation {room inner deeper : Room} (hroom : Enters room inner)
    (hinner : Enters inner deeper) (v : Violation) :
    Decodes violationSchema.decode room v.toJson True v := by
  obtain ⟨rule, priority, category, location, message, verdict⟩ := v
  -- the verdict is the last member if there is one, and no member if there is none
  cases verdict with
  | none =>
    apply Schema.decodes hroom
    · exact .field rfl rfl ((decodes_string inner rule).map _) <|
        .field rfl rfl ((decodes_u8 inner priority).map _) <|
        .field rfl rfl ((decodes_string inner category).map _) <|
        .field rfl rfl ((decodes_location hinner location).map _) <|
        .field rfl rfl ((decodes_string inner message).map _) <| .done rfl
    · simp
  | some verdict =>
    have hverdict : Decodes (optional (variant verdictNames)) inner (.string verdict.name) True
        (some verdict) := decodes_some nofun (decodes_variant hinner (lookup_verdictNames verdict))
    apply Schema.decodes hroom
    · exact .field rfl rfl ((decodes_string inner rule).map _) <|
        .field rfl rfl ((decodes_u8 inner priority).map _) <|
        .field rfl rfl ((decodes_string inner category).map _) <|
        .field rfl rfl ((decodes_location hinner location).map _) <|
        .field rfl rfl ((decodes_string inner message).map _) <|
        .field rfl rfl (hverdict.map _) <| .done rfl
    · simp

end Reader

/-- The counts of a report are of 64 bits. -/
def Report.Fits (r : Report) : Prop :=
  r.implementations < 0x10000000000000000 ∧ r.methods < 0x10000000000000000

def Cache.Fits (c : Cache) : Prop := ∀ u ∈ c.units, u.2.report.Fits

namespace Reader

lemma decodes_report {k : Nat} (r : Report) :
    Decodes reportSchema.decode (some (k + 5)) r.toJson r.Fits r := by
  have hviolations : Decodes (list violationSchema.decode) (some (k + 4))
      (.list (r.violations.map Violation.toJson)) (∀ v ∈ r.violations, True) r.violations :=
    decodes_list (enters_succ (k + 2)) fun v _ =>
      decodes_violation (enters_succ (k + 1)) (enters_succ k) v
  apply Schema.decodes (enters_succ (k + 3))
  · exact .field rfl rfl ((decodes_string _ r.dump).map _) <|
      .field rfl rfl ((decodes_string _ r.file).map _) <|
      .field rfl rfl ((decodes_size _ r.implementations).map _) <|
      .field rfl rfl ((decodes_size _ r.methods).map _) <|
      .field rfl rfl (hviolations.map _) <| .done rfl
  · simp [Report.Fits]

lemma decodes_cachedUnit {k : Nat} (u : CachedUnit) :
    Decodes cachedUnitSchema.decode (some (k + 6)) u.toJson u.report.Fits u := by
  apply Schema.decodes (enters_succ (k + 4))
  · exact .field rfl rfl ((decodes_string _ u.digest).map _) <|
      .field rfl rfl ((decodes_report u.report).map _) <| .done rfl
  · simp

lemma decodes_cacheInfo {k : Nat} (i : CacheInfo) :
    Decodes cacheInfoSchema.decode (some (k + 3)) i.toJson True i := by
  have hrules : Decodes (list Decoder.string) (some (k + 2)) (.texts i.rules)
      (∀ s ∈ i.rules, True) i.rules :=
    decodes_list (enters_succ k) fun s _ => decodes_string _ s
  apply Schema.decodes (enters_succ (k + 1))
  · exact .field rfl rfl ((decodes_u32 _ i.version).map _) <|
      .field rfl rfl ((decodes_string _ i.tool).map _) <|
      .field rfl rfl (hrules.map _) <|
      .field rfl rfl ((decodes_u64 _ i.createdAt).map _) <| .done rfl
  · simp

lemma decodes_cache {k : Nat} (c : Cache) :
    Decodes cacheSchema.decode (some (k + 8)) c.toJson c.Fits
      { c with units := Cache.ofEntries c.units } := by
  have hunits : Decodes (map cachedUnitSchema.decode) (some (k + 7))
      (.object (c.units.map fun u => (u.1, u.2.toJson))) c.Fits c.units :=
    decodes_object (p := fun u => u.report.Fits) (enters_succ (k + 5)) fun u _ =>
      decodes_cachedUnit u.2
  apply Schema.decodes (enters_succ (k + 6))
  · exact .field rfl rfl ((decodes_cacheInfo (k := k + 4) c.info).map _) <|
      .field rfl rfl (hunits.map _) <| .done rfl
  · simp

end Reader

/-- **Round trip**: reading the text of a cache gives the cache back if its counts fit. -/
theorem Cache.settles_parse_text (c : Cache) :
    Settles (Cache.parse c.text).toOption c.Fits { c with units := ofEntries c.units } :=
  (Reader.decodes_cache (k := 120) c).decode (spells_pretty c.natural_toJson)

/-! ### Units by key -/

namespace Cache

lemma ofEntries_concat (entries : List (String × CachedUnit)) (x : String × CachedUnit) :
    ofEntries (entries ++ [x]) = assign x.1 x.2 (ofEntries entries) := by
  rw [ofEntries, List.foldl_concat, ← ofEntries]

lemma mem_of_mem_ofEntries {entries : List (String × CachedUnit)} {x : String × CachedUnit}
    (h : x ∈ ofEntries entries) : x ∈ entries := by
  induction entries using List.reverseRecOn with
  | nil => exact h
  | append_singleton entries y ih =>
    rw [ofEntries_concat] at h
    rcases mem_assign h with rfl | hmem
    · simp
    · exact List.mem_append_left _ (ih hmem)

lemma nodup_ofEntries (entries : List (String × CachedUnit)) :
    ((ofEntries entries).map Prod.fst).Nodup := by
  induction entries using List.reverseRecOn with
  | nil => exact .nil
  | append_singleton entries x ih =>
    rw [ofEntries_concat]
    exact nodup_keys_assign ih x.1 x.2

lemma ofEntries_of_nodup {entries : List (String × CachedUnit)}
    (h : (entries.map Prod.fst).Nodup) : ofEntries entries = entries := by
  induction entries using List.reverseRecOn with
  | nil => rfl
  | append_singleton entries x ih =>
    rw [List.map_append, List.map_singleton, List.nodup_append] at h
    obtain ⟨hnodup, -, hdisjoint⟩ := h
    have hnew : x.1 ∉ entries.map Prod.fst := fun hmem =>
      hdisjoint x.1 hmem x.1 (List.mem_singleton_self _) rfl
    rw [ofEntries_concat, ih hnodup, assign_of_not_mem hnew]

/-- Of several units under one key the last one counts. -/
lemma lookup_ofEntries (entries : List (String × CachedUnit)) (key : String) :
    (ofEntries entries).lookup key = entries.reverse.lookup key := by
  induction entries using List.reverseRecOn with
  | nil => rfl
  | append_singleton entries x ih =>
    obtain ⟨k, u⟩ := x
    rw [ofEntries_concat, lookup_assign, ih, List.reverse_concat, lookup_cons_ite]

end Cache

end MethodAudit
