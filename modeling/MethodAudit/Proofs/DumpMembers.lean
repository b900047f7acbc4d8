import MethodAudit.Proofs.Accounting
import MethodAudit.Proofs.StmtMembers

/-!
The order of members, and members that are no fields, do not matter when a dump is read.

Every declaration is a record that is filled member by member, and each of its fields sets a part
of its own. So texts whose values differ in such members only are those of the same unit.
-/

namespace MethodAudit.Reader

open Json Json.Decoder

/-! ### Declarations -/

lemma fits_string : Fits string .plain := (means_string none).fits

lemma fits_bool : Fits bool .plain := (means_bool none).fits

lemma fits_text? : Fits (optional string) .plain := fits_string.optional

lemma fits_line : Fits (optional u32) .plain :=
  ((means_natural 0x100000000 "u32" none).fits.map Nat.toUInt32).optional

lemma fits_method : Fits methodSchema.decode .method := by
  refine Schema.fits (.cons (fits_string.field _ _) <| .cons (fits_bool.optField _ _) .nil) ?_
  and_intros <;> first | exact Field.commutes fun _ _ _ => rfl | trivial

lemma fits_property : Fits propertySchema.decode .property := by
  have hpolicy : Fits (variant setterPolicies) .plain :=
    (means_variant enters_none setterPolicies).fits
  refine Schema.fits (.cons (fits_string.field _ _) <| .cons (fits_bool.optField _ _) <|
    .cons (hpolicy.optField _ _) <| .cons (fits_text?.optField _ _) <|
    .cons (fits_text?.optField _ _) <| .cons (fits_bool.optField _ _) <|
    .cons (fits_line.optField _ _) .nil) ?_
  and_intros <;> first | exact Field.commutes fun _ _ _ => rfl | trivial

/-- The names of protocols. -/
lemma fits_names : Fits (Decoder.list string) .plain :=
  (means_list enters_none (means_string none)).fits

lemma fits_interface : Fits interfaceSchema.decode .interface := by
  refine Schema.fits (.cons (fits_string.field _ _) <| .cons (fits_text?.optField _ _) <|
    .cons (fits_names.optField _ _) <| .cons (fits_method.list.optField _ _) <|
    .cons (fits_property.list.optField _ _) <| .cons (fits_bool.optField _ _) .nil) ?_
  and_intros <;> first | exact Field.commutes fun _ _ _ => rfl | trivial

lemma fits_protocol : Fits protocolSchema.decode .protocol := by
  refine Schema.fits (.cons (fits_string.field _ _) <| .cons (fits_names.optField _ _) <|
    .cons (fits_method.list.optField _ _) <| .cons (fits_property.list.optField _ _) <|
    .cons (fits_bool.optField _ _) .nil) ?_
  and_intros <;> first | exact Field.commutes fun _ _ _ => rfl | trivial

lemma fits_category : Fits categorySchema.decode .category := by
  refine Schema.fits (.cons (fits_string.optField _ _) <| .cons (fits_string.field _ _) <|
    .cons (fits_names.optField _ _) <| .cons (fits_method.list.optField _ _) <|
    .cons (fits_property.list.optField _ _) .nil) ?_
  and_intros <;> first | exact Field.commutes fun _ _ _ => rfl | trivial

lemma fits_methodDef : Fits methodDefSchema.decode .methodDef := by
  refine Schema.fits (.cons (fits_string.field _ _) <| .cons (fits_bool.optField _ _) <|
    .cons (fits_stmt.optional.optField _ _) <| .cons (fits_line.optField _ _) .nil) ?_
  and_intros <;> first | exact Field.commutes fun _ _ _ => rfl | trivial

lemma fits_implementation : Fits implementationSchema.decode .implementation := by
  refine Schema.fits (.cons (fits_text?.optField _ _) <| .cons (fits_text?.optField _ _) <|
    .cons (fits_methodDef.list.optField _ _) .nil) ?_
  and_intros <;> first | exact Field.commutes fun _ _ _ => rfl | trivial

lemma fits_dump : Fits dumpSchema.decode .dump := by
  refine Schema.fits (.cons (fits_string.optField _ _) <|
    .cons (fits_interface.list.optField _ _) <| .cons (fits_protocol.list.optField _ _) <|
    .cons (fits_category.list.optField _ _) <|
    .cons (fits_implementation.list.optField _ _) .nil) ?_
  and_intros <;> first | exact Field.commutes fun _ _ _ => rfl | trivial

end MethodAudit.Reader

namespace MethodAudit.SourceUnit

open Json

/-! ### Texts of the same unit -/

/-- What a text is parsed as depends on the value that it spells. -/
lemma toOption_parse {text : String} {v : Raw} (h : Spells text.toList v.signs) :
    (Dump.parse text).toOption = Decoder.on Reader.dumpSchema.decode none v :=
  (Reader.fits_dump.means _).decode h

lemma toOption_load (p : Path) (text : String) :
    (load p text).toOption = (Dump.parse text).toOption.bind fun d => d.resolve.toOption := by
  rcases hparse : Dump.parse text with fault | d
  · rw [load, hparse]
    rfl
  · rw [load_of_parse hparse, toOption_ok, Option.bind_some]
    cases d.resolve <;> rfl

lemma load_eq_ok_iff {text : String} {v : Raw} (h : Spells text.toList v.signs) {p : Path}
    {u : SourceUnit} : load p text = .ok u ↔
      ((Decoder.on Reader.dumpSchema.decode none v).bind fun d => d.resolve.toOption) = some u := by
  rw [← toOption_parse h, ← toOption_load]
  exact ⟨fun hload => hload ▸ rfl, eq_ok_of_toOption⟩

/-- **Members**: texts whose values differ in the order of members, and in members that are no
fields, are read as the same unit or are both rejected. The changes may be at any number of
places, statements and declarations alike. A text that gives a field twice is rejected, in
whatever order the members stand. -/
theorem load_iff_of_changes {text : String} {v : Raw} (h : Spells text.toList v.signs) (p : Path) :
    (∀ text' v', Spells text'.toList v'.signs → Relation.EqvGen Shape.dump.Changes v v' →
      ∀ u, load p text = .ok u ↔ load p text' = .ok u) ∧
    (Shape.dump.Repeats v → ∃ fault, load p text = .error (.parse p fault)) := by
  refine ⟨fun text' v' h' hchanges u => ?_, fun hrepeats => ?_⟩
  · rw [load_eq_ok_iff h, load_eq_ok_iff h', Reader.fits_dump.keeps.eqvGen hchanges]
  · have hnone := (toOption_parse h).trans (Reader.fits_dump.keeps.repeats hrepeats)
    rcases hparse : Dump.parse text with fault | d
    · exact ⟨fault, by rw [load, hparse]; rfl⟩
    · rw [hparse] at hnone
      cases hnone

/-- A dump of one method, whose body has the given members. -/
def methodJson (body : List (String × Json)) : Json :=
  .object [("file", .string "Note.m"), ("implementations", .list [.object [
    ("class_name", .string "Note"), ("methods", .list [.object [
      ("selector", .string "open"), ("body", .object body)]])]])]

/-- A message, its kind first and its children last. -/
def messageMembers : List (String × Json) := [
  ("kind", .string "message_send"), ("receiver", .string "instance"), ("selector", .string "run"),
  ("children", .list [.object [("kind", .string "other")]])]

/-- A member that is not a field of a message. -/
def note : String × Json := ("note", .list [.nat 1])

lemma changes_methodJson {ms ms' : List (String × Json)}
    (h : Shape.stmt.Changes (.object (rawMembers ms)) (.object (rawMembers ms'))) :
    Shape.dump.Changes (methodJson ms).raw (methodJson ms').raw := by
  refine @Shape.Changes.member _ _ [_] [] "implementations" _ _ _ rfl rfl ?_
  refine @Shape.Changes.item _ [] [] _ _ ?_
  refine @Shape.Changes.member _ _ [_] [] "methods" _ _ _ rfl rfl ?_
  refine @Shape.Changes.item _ [] [] _ _ ?_
  exact @Shape.Changes.member _ _ [_] [] "body" _ _ _ rfl rfl h

lemma repeats_methodJson {ms : List (String × Json)}
    (h : Shape.stmt.Repeats (.object (rawMembers ms))) :
    Shape.dump.Repeats (methodJson ms).raw := by
  refine .member rfl rfl (.tail _ (.head _)) (.item (.head _) ?_)
  refine .member rfl rfl (.tail _ (.head _)) (.item (.head _) ?_)
  exact .member rfl rfl (.tail _ (.head _)) h

lemma natural_methodJson {ms : List (String × Json)} (h : NaturalMembers ms) :
    (methodJson ms).Natural :=
  ⟨trivial, ⟨⟨trivial, ⟨⟨trivial, h, trivial⟩, trivial⟩, trivial⟩, trivial⟩, trivial⟩

/-- A text on one line, and an indented one with a member more and all members the other way
round; then a text with two selectors. -/
theorem load_iff_of_changes_note :
    (∃ u, load ⟨"Note.json"⟩ (methodJson messageMembers).compact = .ok u ∧
      load ⟨"Note.json"⟩ (methodJson (note :: messageMembers).reverse).pretty = .ok u) ∧
    ∃ fault, load ⟨"Note.json"⟩
        (methodJson (("selector", .string "stop") :: messageMembers)).compact =
      .error (.parse ⟨"Note.json"⟩ fault) := by
  have hmembers : NaturalMembers messageMembers :=
    ⟨trivial, trivial, trivial, ⟨⟨trivial, trivial⟩, trivial⟩, trivial⟩
  have hnoted : NaturalMembers (note :: messageMembers).reverse := by
    have hnote : NaturalMembers (note :: messageMembers) := ⟨⟨natural_nat 1, trivial⟩, hmembers⟩
    rw [naturalMembers_iff] at hnote ⊢
    exact fun m hm => hnote m (List.mem_reverse.1 hm)
  have hinsert : Shape.stmt.Changes (.object (rawMembers messageMembers))
      (.object (rawMembers (note :: messageMembers))) :=
    .insert rfl (by decide) rfl
  have hreverse : Shape.stmt.Changes (.object (rawMembers (note :: messageMembers)))
      (.object (rawMembers (note :: messageMembers).reverse)) :=
    .permute rfl (List.reverse_perm _).symm
  have hchanges := (Relation.EqvGen.rel _ _ (changes_methodJson hinsert)).trans _ _ _
    (.rel _ _ (changes_methodJson hreverse))
  have hspells := spells_compact (natural_methodJson hmembers)
  have hsame := (load_iff_of_changes hspells ⟨"Note.json"⟩).1 _ _
    (spells_pretty (natural_methodJson hnoted)) hchanges
  obtain ⟨u, hu⟩ : ∃ u, ((Decoder.on Reader.dumpSchema.decode none
      (methodJson messageMembers).raw).bind fun d => d.resolve.toOption) = some u :=
    Option.isSome_iff_exists.1 (by decide +kernel)
  have hok : load ⟨"Note.json"⟩ _ = .ok u := (load_eq_ok_iff hspells).2 hu
  have htwice : NaturalMembers (("selector", .string "stop") :: messageMembers) :=
    ⟨trivial, hmembers⟩
  have hrepeats : Shape.stmt.Repeats
      (.object (rawMembers (("selector", .string "stop") :: messageMembers))) :=
    .key rfl (show "selector" ∈ _ by decide) (by decide)
  refine ⟨⟨u, hok, (hsame u).1 hok⟩, ?_⟩
  exact (load_iff_of_changes (spells_compact (natural_methodJson htwice)) _).2
    (repeats_methodJson hrepeats)

end MethodAudit.SourceUnit
