import MethodAudit.Dump.Writer
import MethodAudit.Proofs.Json.Decode
import MethodAudit.Proofs.StmtMeaning

/-!
The text of a dump, read back.

Records are read member by member as they are written. A statement is not: its members are set
aside until its object ends. That is safe since what is set aside is plain, without nested values.
-/

namespace MethodAudit

open Json Json.Decoder

/-! ### Numbers in the values written -/

lemma Json.natural_line (l : Option UInt32) : (Json.line l).Natural :=
  natural_optional (fun n : UInt32 => natural_nat n.toNat) l

lemma Method.natural_toJson (m : Method) : m.toJson.Natural := ⟨trivial, trivial, trivial⟩

lemma Property.natural_toJson (p : Property) : p.toJson.Natural :=
  ⟨trivial, trivial, trivial, natural_optional natural_string _, natural_optional natural_string _,
    trivial, natural_line _, trivial⟩

lemma Body.naturalMembers (b : Body) : NaturalMembers b.members :=
  ⟨natural_list natural_string _, natural_list Method.natural_toJson _,
    natural_list Property.natural_toJson _, trivial⟩

lemma Interface.natural_toJson (i : Interface) : i.toJson.Natural := by
  have hhead : NaturalMembers [("name", .string i.name),
      ("superclass", .optional .string i.superclass)] :=
    ⟨trivial, natural_optional natural_string _, trivial⟩
  exact naturalMembers_append (naturalMembers_append hhead i.body.naturalMembers)
    ⟨trivial, trivial⟩

lemma Protocol.natural_toJson (p : Protocol) : p.toJson.Natural := by
  have hhead : NaturalMembers [("name", .string p.name)] := ⟨trivial, trivial⟩
  exact naturalMembers_append (naturalMembers_append hhead p.body.naturalMembers)
    ⟨trivial, trivial⟩

lemma Category.natural_toJson (c : Category) : c.toJson.Natural := by
  have hhead : NaturalMembers [("name", .string c.name), ("class_name", .string c.className)] :=
    ⟨trivial, trivial, trivial⟩
  exact naturalMembers_append hhead c.body.naturalMembers

/-! ### Plain values -/

/-- A value without numbers and brackets. -/
inductive Json.Plain : Json → Prop
  | null : Plain .null
  | bool (b : Bool) : Plain (.bool b)
  | string (s : String) : Plain (.string s)

lemma Json.Plain.natural {v : Json} (h : v.Plain) : v.Natural := by
  cases h <;> trivial

lemma Json.plain_optional (o : Option String) : (Json.optional .string o).Plain := by
  cases o with
  | none => exact .null
  | some s => exact .string s

/-- A plain value is taken in as it is. -/
lemma Json.Plain.json?_raw {v : Json} (h : v.Plain) : v.raw.json? = some v := by
  cases h <;> rfl

/-- What a statement does is told by plain values, none of them under `children`. -/
lemma Action.plain_members (a : Action) : ∀ m ∈ a.members, m.1 ≠ "children" ∧ m.2.Plain := by
  cases a <;> simp [Action.members, plain_optional, Plain.string, Plain.bool]

/-! ### Statements -/

mutual

theorem Stmt.natural_toJson : (s : Stmt) → s.toJson.Natural
  | .node a cs => by
    have ha : NaturalMembers a.members :=
      naturalMembers_iff.2 fun m hm => (a.plain_members m hm).2.natural
    exact naturalMembers_append ha ⟨Stmt.naturalItems_listToJson cs, trivial⟩

theorem Stmt.naturalItems_listToJson : (ss : List Stmt) → NaturalItems (Stmt.listToJson ss)
  | [] => trivial
  | s :: ss => ⟨s.natural_toJson, Stmt.naturalItems_listToJson ss⟩

end

lemma MethodDef.natural_toJson (d : MethodDef) : d.toJson.Natural :=
  ⟨trivial, trivial, natural_optional Stmt.natural_toJson _, natural_line _, trivial⟩

lemma Implementation.natural_toJson (i : Implementation) : i.toJson.Natural :=
  ⟨natural_optional natural_string _, natural_optional natural_string _,
    natural_list MethodDef.natural_toJson _, trivial⟩

lemma Dump.natural_toJson (d : Dump) : d.toJson.Natural :=
  ⟨trivial, natural_list Interface.natural_toJson _, natural_list Protocol.natural_toJson _,
    natural_list Category.natural_toJson _, natural_list Implementation.natural_toJson _, trivial⟩

namespace Reader

lemma actionOf_members (a : Action) : actionOf a.members = .ok a := by
  cases a with
  | send receiver selector type => cases receiver <;> cases type <;> rfl
  | access getter setter viaSuper type => cases getter <;> cases setter <;> cases type <;> rfl
  | selectorLiteral selector => rfl
  | other label => cases label <;> rfl

/-- Of plain members and the children, the plain ones are set aside. -/
lemma setAside?_plain {ms : List (String × Json)}
    (hms : ∀ m ∈ ms, m.1 ≠ "children" ∧ m.2.Plain) (v : Json) :
    setAside? (rawMembers (ms ++ [("children", v)])) = some ms := by
  induction ms with
  | nil => rfl
  | cons m ms ih =>
    obtain ⟨hname, hv⟩ := hms m List.mem_cons_self
    have hrest := ih fun m hm => hms m (List.mem_cons_of_mem _ hm)
    simp [rawMembers, setAside?, hname, hv.json?_raw, hrest]

lemma fill_children {ms : List (String × Json)} (hms : ∀ m ∈ ms, m.1 ≠ "children") {v : Json}
    {cs : List Stmt} (hv : Raw.items? (Decoder.on stmt none) v.raw = some cs) :
    fill [childrenSlot] [] none (rawMembers (ms ++ [("children", v)])) = some (some cs) := by
  induction ms with
  | nil =>
    rw [List.nil_append, rawMembers, fill_known (f := childrenSlot) rfl]
    simp [childrenSlot, hv, rawMembers, fill]
  | cons m ms ih =>
    have hname := hms m List.mem_cons_self
    rw [List.cons_append, rawMembers, fill_foreign (by simp [childrenSlot, Ne.symm hname])]
    exact ih fun m hm => hms m (List.mem_cons_of_mem _ hm)

mutual

/-- Statements of any depth are read back. -/
theorem on_stmt_toJson : (s : Stmt) → Decoder.on stmt none s.toJson.raw = some s
  | .node a cs => by
    have hchildren := fill_children (fun m hm => (a.plain_members m hm).1)
      (mapM_listToJson cs)
    rw [Stmt.toJson, raw, on_stmt_object, ofMembers?, hchildren, setAside?_plain a.plain_members]
    simp [actionOf_members]

theorem mapM_listToJson : (ss : List Stmt) →
    Raw.items? (Decoder.on stmt none) (Json.list (Stmt.listToJson ss)).raw = some ss
  | [] => rfl
  | s :: ss => by
    have hs := on_stmt_toJson s
    have hss := mapM_listToJson ss
    simp only [raw, Raw.items?] at hss
    simp [Stmt.listToJson, raw, rawItems, Raw.items?, hs, hss]

end

lemma decodes_stmt (s : Stmt) : Decodes stmt none s.toJson True s :=
  ⟨_, means_stmt _, .of_eq (on_stmt_toJson s)⟩

/-! ### Records -/

lemma decodes_line (room : Room) (l : Option UInt32) :
    Decodes (optional u32) room (Json.line l) True l := by
  have hnat (n : UInt32) : Json.nat n.toNat ≠ .null := nofun
  exact decodes_optional hnat (decodes_u32 room) l

lemma decodes_text? (room : Room) (o : Option String) :
    Decodes (optional string) room (.optional .string o) True o := by
  have hstring (s : String) : Json.string s ≠ .null := nofun
  exact decodes_optional hstring (decodes_string room) o

lemma decodes_method (m : Method) : Decodes methodSchema.decode none m.toJson True m := by
  apply Schema.decodes enters_none
  · exact .field rfl rfl ((decodes_string _ m.selector).map _) <|
      .field rfl rfl ((decodes_bool _ m.classMethod).map _) <| .done rfl
  · simp

lemma lookup_setterPolicies (p : SetterPolicy) : setterPolicies.lookup p.name = some p := by
  cases p <;> rfl

lemma decodes_property (p : Property) : Decodes propertySchema.decode none p.toJson True p := by
  have hpolicy := decodes_variant enters_none (lookup_setterPolicies p.policy)
  apply Schema.decodes enters_none
  · exact .field rfl rfl ((decodes_string _ p.name).map _) <|
      .field rfl rfl ((decodes_bool _ p.readonly).map _) <|
      .field rfl rfl (hpolicy.map _) <|
      .field rfl rfl ((decodes_text? _ p.customGetter).map _) <|
      .field rfl rfl ((decodes_text? _ p.customSetter).map _) <|
      .field rfl rfl ((decodes_bool _ p.objectType).map _) <|
      .field rfl rfl ((decodes_line _ p.line).map _) <| .done rfl
  · simp

lemma decodes_interface (i : Interface) : Decodes interfaceSchema.decode none i.toJson True i := by
  apply Schema.decodes enters_none
  · exact .field rfl rfl ((decodes_string _ i.name).map _) <|
      .field rfl rfl ((decodes_text? _ i.superclass).map _) <|
      .field rfl rfl ((decodes_all (decodes_string none) i.body.protocols).map _) <|
      .field rfl rfl ((decodes_all decodes_method i.body.methods).map _) <|
      .field rfl rfl ((decodes_all decodes_property i.body.properties).map _) <|
      .field rfl rfl ((decodes_bool _ i.forward).map _) <| .done rfl
  · simp

lemma decodes_protocol (p : Protocol) : Decodes protocolSchema.decode none p.toJson True p := by
  apply Schema.decodes enters_none
  · exact .field rfl rfl ((decodes_string _ p.name).map _) <|
      .field rfl rfl ((decodes_all (decodes_string none) p.body.protocols).map _) <|
      .field rfl rfl ((decodes_all decodes_method p.body.methods).map _) <|
      .field rfl rfl ((decodes_all decodes_property p.body.properties).map _) <|
      .field rfl rfl ((decodes_bool _ p.forward).map _) <| .done rfl
  · simp

lemma decodes_category (c : Category) : Decodes categorySchema.decode none c.toJson True c := by
  apply Schema.decodes enters_none
  · exact .field rfl rfl ((decodes_string _ c.name).map _) <|
      .field rfl rfl ((decodes_string _ c.className).map _) <|
      .field rfl rfl ((decodes_all (decodes_string none) c.body.protocols).map _) <|
      .field rfl rfl ((decodes_all decodes_method c.body.methods).map _) <|
      .field rfl rfl ((decodes_all decodes_property c.body.properties).map _) <| .done rfl
  · simp

lemma decodes_methodDef (d : MethodDef) : Decodes methodDefSchema.decode none d.toJson True d := by
  have hstmt (s : Stmt) : s.toJson ≠ .null := by
    cases s
    exact nofun
  apply Schema.decodes enters_none
  · exact .field rfl rfl ((decodes_string _ d.method.selector).map _) <|
      .field rfl rfl ((decodes_bool _ d.method.classMethod).map _) <|
      .field rfl rfl ((decodes_optional hstmt decodes_stmt d.body).map _) <|
      .field rfl rfl ((decodes_line _ d.line).map _) <| .done rfl
  · simp

lemma decodes_implementation (i : Implementation) :
    Decodes implementationSchema.decode none i.toJson True i := by
  apply Schema.decodes enters_none
  · exact .field rfl rfl ((decodes_text? _ i.className).map _) <|
      .field rfl rfl ((decodes_text? _ i.category).map _) <|
      .field rfl rfl ((decodes_all decodes_methodDef i.methods).map _) <| .done rfl
  · simp

lemma decodes_dump (d : Dump) : Decodes dumpSchema.decode none d.toJson True d := by
  apply Schema.decodes enters_none
  · exact .field rfl rfl ((decodes_string _ d.file).map _) <|
      .field rfl rfl ((decodes_all decodes_interface d.interfaces).map _) <|
      .field rfl rfl ((decodes_all decodes_protocol d.protocols).map _) <|
      .field rfl rfl ((decodes_all decodes_category d.categories).map _) <|
      .field rfl rfl ((decodes_all decodes_implementation d.implementations).map _) <|
      .done rfl
  · simp

end Reader

/-- A text that spells the value of a dump, blanks wherever they may stand, is read as the
dump. -/
lemma Dump.parse_of_spells {d : Dump} {text : String} (h : Spells text.toList d.toJson.raw.signs) :
    Dump.parse text = .ok d :=
  eq_ok_of_toOption (((Reader.decodes_dump d).decode h).1 trivial)

/-- **Round trip**: every dump is read back from its text, on one line or indented. -/
theorem Dump.parse_write (d : Dump) :
    Dump.parse d.write = .ok d ∧ Dump.parse d.toJson.pretty = .ok d :=
  ⟨parse_of_spells (spells_compact d.natural_toJson),
    parse_of_spells (spells_pretty d.natural_toJson)⟩

end MethodAudit
