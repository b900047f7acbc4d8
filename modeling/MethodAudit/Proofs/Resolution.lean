import Mathlib.Data.List.Induction
import MethodAudit.Proofs.Accounting
import MethodAudit.Proofs.DumpText
import MethodAudit.Proofs.Folding

/-!
What resolving a dump means.

Resolving fails exactly if a class or a protocol is defined twice, and the failure is the
definition that is the first to be a second one, classes before protocols. Otherwise each look-up
of the unit is a search in the dump, and the unit lists the classes that are declared, then those
that are only mentioned, each where its name comes first. Nothing here depends on how forward
declarations and definitions are mixed in the dump.
-/

namespace MethodAudit

namespace NameTable

variable {α : Type} [Declaration α]

open Declaration (name forward)

/-! ### The first clash -/

/-- Some declaration of the list defines `n` again, and no name is defined twice before it. -/
def FirstClash (ds : List α) (n : String) : Prop :=
  ∃ before x after, ds = before ++ x :: after ∧ DefinedOnce before ∧
    definitionsOf before n ≠ [] ∧ name x = n ∧ forward x = false

/-- Declaring fails only with the name that is declared. -/
lemma eq_name_of_declare {t : NameTable α} {d : α} {n : String} (h : t.declare d = .error n) :
    n = name d := by
  unfold declare at h
  split at h
  · cases h
  · split at h
    · cases h
    · split_ifs at h
      cases h
      rfl

namespace Folds

variable {t : NameTable α} {ds es : List α} {n : String}

/-- One step: the declaration fails exactly if it is a second definition. -/
lemma declare_eq_error_iff (h : t.Folds ds) {d : α} :
    t.declare d = .error n ↔ name d = n ∧ forward d = false ∧ definitionsOf ds n ≠ [] := by
  have hiff := exists_declare_iff h.indexed d
  rw [h.definition, List.head?_eq_none_iff] at hiff
  constructor
  · intro herror
    obtain rfl := eq_name_of_declare herror
    have hfails : ¬∃ t', t.declare d = .ok t' := by simp [herror]
    rw [hiff, not_or, Bool.not_eq_true] at hfails
    exact ⟨rfl, hfails.1, hfails.2⟩
  · rintro ⟨rfl, hforward, hne⟩
    cases hd : t.declare d with
    | error m => rw [eq_name_of_declare hd]
    | ok t' =>
      rcases hiff.1 ⟨t', hd⟩ with hf | hnone
      · rw [hforward] at hf
        cases hf
      · exact absurd hnone hne

/-- The whole list: it fails at the first declaration that does. -/
lemma firstClash (h : t.Folds ds) (herror : t.declareAll es = .error n) :
    FirstClash (ds ++ es) n := by
  induction es generalizing t ds with
  | nil => cases herror
  | cons e es ih =>
    rw [NameTable.declareAll, List.foldlM_cons] at herror
    cases he : t.declare e with
    | error m =>
      rw [he] at herror
      cases herror
      obtain ⟨hname, hforward, hne⟩ := h.declare_eq_error_iff.1 he
      exact ⟨ds, e, es, rfl, h.once, hne, hname, hforward⟩
    | ok u =>
      rw [he] at herror
      simpa using ih (h.declare he) herror

end Folds

/-- **Folding** a list of declarations fails with the name whose second definition comes first. -/
theorem declareAll_eq_error_iff (ds : List α) (n : String) :
    empty.declareAll ds = .error n ↔ FirstClash ds n := by
  constructor
  · intro h
    exact folds_empty.firstClash h
  · rintro ⟨before, x, after, rfl, honce, hne, hname, hforward⟩
    obtain ⟨t, ht⟩ := (exists_declareAll_iff before).2 honce
    have hx := (folds_declareAll ht).declare_eq_error_iff.2 ⟨hname, hforward, hne⟩
    rw [declareAll] at ht
    rw [declareAll, List.foldlM_append, ht]
    change (x :: after).foldlM declare t = _
    rw [List.foldlM_cons, hx]
    rfl

/-! ### The order of what is mentioned -/

/-- The names that the table does not have, each where it comes first. -/
def newNames (declared names : List String) : List String :=
  (names.filter (· ∉ declared)).eraseDups

lemma newNames_snoc (declared names : List String) (n : String) :
    newNames declared (names ++ [n]) =
      if n ∈ declared ∨ n ∈ names then newNames declared names
      else newNames declared names ++ [n] := by
  rw [newNames, List.filter_append]
  by_cases hd : n ∈ declared
  · simp [hd, newNames]
  · have hfilter : [n].filter (· ∉ declared) = [n] := by simp [hd]
    rw [hfilter, eraseDups_concat]
    simp [hd, newNames]

/-- Mentioning names appends bare declarations of the new ones. -/
lemma decls_mentions {t : NameTable Interface} (ht : t.Indexed) (names : List String) :
    (names.foldl mention t).decls.toList =
      t.decls.toList ++ (newNames (t.decls.toList.map name) names).map Interface.named := by
  induction names using List.reverseRecOn with
  | nil => simp [newNames]
  | append_singleton names n ih =>
    have hcontains : (names.foldl mention t).index.contains n = true ↔
        n ∈ t.decls.toList.map name ∨ n ∈ names := by
      rw [contains_iff (indexed_mentions ht names), find?_mentions ht, mem_names_iff ht]
      cases t.find? n with
      | some d => simp
      | none => simp
    rw [List.foldl_append, List.foldl_cons, List.foldl_nil, mention, newNames_snoc]
    by_cases hold : n ∈ t.decls.toList.map name ∨ n ∈ names
    · rw [if_pos (hcontains.2 hold), if_pos hold, ih]
    · rw [if_neg (mt hcontains.1 hold), if_neg hold, push, Array.toList_push, ih]
      simp

end NameTable

open NameTable

/-! ### The meaning of a dump -/

/-- The class that is implemented and the receiver types in the bodies, where each body is gone
through from the last child to the first. -/
def Implementation.references (i : Implementation) : List String :=
  i.className.toList ++
    i.methods.flatMap fun e =>
      (e.body.toList.flatMap Stmt.fromLast).filterMap (·.action.receiverType?)

lemma Implementation.classNames_eq (i : Implementation) : i.classNames = i.references := by
  simp only [classNames, references, Stmt.receiverTypes, Stmt.walkBack_eq]

namespace Dump

/-- The declaration that counts of each class, in the order in which the names come first. -/
def folded (d : Dump) : List Interface :=
  (firstNames d.interfaces).filterMap (declaration? d.interfaces)

/-- The classes that the dump refers to: the superclasses of those it declares, then what each
implementation names. -/
def references (d : Dump) : List String :=
  d.folded.filterMap Interface.superclass ++ d.implementations.flatMap Implementation.references

/-- The classes that are referred to and not declared. -/
def undeclared (d : Dump) : List String := newNames (firstNames d.interfaces) d.references

/-- The unit has what the dump says: of every name the one definition, or else what is known of
it, and the classes in the order of the dump. -/
structure Describes (d : Dump) (u : SourceUnit) : Prop where
  interface (n : String) :
    u.interface? n =
      ((definitionsOf d.interfaces n).head? <|> (forwardsOf d.interfaces n).head? <|>
        if n ∈ d.references then some (.named n) else none)
  definition (n : String) (x : Interface) :
    u.definition? n = some x ↔ definitionsOf d.interfaces n = [x]
  protocol (n : String) (p : Protocol) :
    u.protocol? n = some p ↔ definitionsOf d.protocols n = [p]
  names : u.interfaces.decls.toList.map Interface.name = firstNames d.interfaces ++ d.undeclared
  interfaces : u.interfaces.decls.toList = d.folded ++ d.undeclared.map .named

lemma decls_eq_folded {d : Dump} {t : NameTable Interface}
    (ht : NameTable.empty.declareAll d.interfaces = .ok t) : t.decls.toList = d.folded := by
  rw [decls_declareAll ht, folded]
  congr 1
  funext n
  exact (folds_declareAll ht).find n

lemma referencedClasses_eq {d : Dump} {t : NameTable Interface}
    (ht : NameTable.empty.declareAll d.interfaces = .ok t) :
    referencedClasses t.decls.toList d.implementations = d.references := by
  rw [referencedClasses, references, decls_eq_folded ht, funext Implementation.classNames_eq]

lemma names_folded {d : Dump} (h : DefinedOnce d.interfaces) :
    d.folded.map Interface.name = firstNames d.interfaces := by
  obtain ⟨t, ht⟩ := (exists_declareAll_iff d.interfaces).2 h
  rw [← decls_eq_folded ht]
  exact names_eq_firstNames ht

section

variable {d : Dump} {u : SourceUnit} (h : d.resolve = .ok u)
include h

lemma interface?_eq_of_resolve (n : String) :
    u.interface? n =
      (declaration? d.interfaces n <|> if n ∈ d.references then some (.named n) else none) := by
  obtain ⟨t, p, ht, -, rfl⟩ := resolve_eq_ok h
  have hfold := folds_declareAll ht
  rw [SourceUnit.interface?, find?_mentions hfold.indexed, hfold.find, referencedClasses_eq ht]

lemma interfaces_eq_of_resolve :
    u.interfaces.decls.toList = d.folded ++ d.undeclared.map .named := by
  obtain ⟨t, p, ht, -, rfl⟩ := resolve_eq_ok h
  have hmentions := decls_mentions (folds_declareAll ht).indexed d.references
  rw [names_eq_firstNames ht, decls_eq_folded ht] at hmentions
  rw [referencedClasses_eq ht]
  exact hmentions

lemma describes_of_resolve : d.Describes u := by
  obtain ⟨hi, hp⟩ := (exists_resolve_iff d).1 ⟨u, h⟩
  refine ⟨fun n => ?_, fun n x => ?_, fun n p => ?_, ?_, interfaces_eq_of_resolve h⟩
  · rw [interface?_eq_of_resolve h, declaration?]
    cases (definitionsOf d.interfaces n).head? with
    | some x => rfl
    | none => rfl
  · rw [definition?_of_resolve h, hi.head?_eq_some_iff_eq_singleton]
  · rw [protocol?_of_resolve h, hp.head?_eq_some_iff_eq_singleton]
  · rw [interfaces_eq_of_resolve h, List.map_append, names_folded hi, List.map_map]
    simp [Function.comp_def, Interface.named]

end

/-! ### Failures -/

/-- The classes are folded before the protocols. -/
lemma resolve_eq_error_iff {d : Dump} {e : Duplicate} :
    d.resolve = .error e ↔
      (∃ n, e = .interface n ∧ FirstClash d.interfaces n) ∨
        ∃ n, e = .protocol n ∧ DefinedOnce d.interfaces ∧ FirstClash d.protocols n := by
  simp only [← declareAll_eq_error_iff, ← exists_declareAll_iff]
  rw [resolve]
  cases ht : NameTable.empty.declareAll d.interfaces with
  | error m => simp [Except.mapError, bind, Except.bind, eq_comm]
  | ok t =>
    cases hp : NameTable.empty.declareAll d.protocols with
    | error m => simp [Except.mapError, bind, Except.bind, eq_comm]
    | ok p => simp [Except.mapError, bind, Except.bind, pure, Except.pure]

lemma exists_resolve_eq_error_iff (d : Dump) :
    (∃ e, d.resolve = .error e) ↔ ¬DefinedOnce d.interfaces ∨ ¬DefinedOnce d.protocols := by
  rw [← not_and_or, ← exists_resolve_iff]
  cases d.resolve with
  | error e => simp
  | ok u => simp

/-- **The meaning of resolving.** It fails exactly if a name is defined twice, with the class
whose second definition comes first, or else the protocol, and so does reading a text of the dump;
and the unit that it gives has what the dump says. -/
theorem resolve_describes (d : Dump) :
    ((∃ e, d.resolve = .error e) ↔ ¬DefinedOnce d.interfaces ∨ ¬DefinedOnce d.protocols) ∧
      (∀ n, d.resolve = .error (.interface n) ↔ FirstClash d.interfaces n) ∧
      (∀ n, d.resolve = .error (.protocol n) ↔
        DefinedOnce d.interfaces ∧ FirstClash d.protocols n) ∧
      (∀ e, d.resolve = .error e → ∀ path text, parse text = .ok d →
        SourceUnit.load path text = .error (.model path e.message)) ∧
      ∀ u, d.resolve = .ok u → d.Describes u := by
  refine ⟨exists_resolve_eq_error_iff d, fun n => ?_, fun n => ?_, fun e he path text htext => ?_,
    fun u h => describes_of_resolve h⟩
  · simp [resolve_eq_error_iff]
  · simp [resolve_eq_error_iff]
  · rw [SourceUnit.load_of_parse htext, he]
    rfl

end Dump

/-! ### Declarations of all kinds -/

/-- The receivers stand at two depths, the deeper ones in the last child. -/
def picking : MethodDef where
  method := ⟨"pick", false⟩
  body := some (.node (.other none) [
    .node (.send .object "press" (some "Juice")) [],
    .node (.other none) [
      .node (.send .object "remove" (some "Peel")) [],
      .node (.access (some "seeds") none false (some "Core")) []]])
  line := none

def plum : Interface := ⟨"Plum", some "Drupe", .empty, false⟩

def apple : Interface := ⟨"Apple", some "Fruit", .empty, false⟩

def pear : Interface := ⟨"Pear", some "Fruit", .empty, true⟩

/-- A plum is declared ahead twice, with other superclasses than it has, and a pear only ahead. -/
def orchard : Dump where
  file := "Orchard.m"
  interfaces := [
    ⟨"Plum", some "Plant", .empty, true⟩,
    apple,
    ⟨"Plum", some "Shrub", .empty, true⟩,
    pear,
    ⟨"Pear", some "Quince", .empty, true⟩,
    plum]
  protocols := [⟨"Ripening", .empty, true⟩]
  categories := []
  implementations := [⟨some "Apple", none, [picking]⟩]

/-- The plum is the first that is named, but the apple is the first that is defined again. -/
def windfall : Dump := { orchard with interfaces := orchard.interfaces ++ [apple, plum] }

theorem Dump.resolve_describes_orchard :
    (∃ u, orchard.resolve = .ok u ∧ u.interface? "Plum" = some plum ∧
      u.interface? "Pear" = some pear ∧ u.interface? "Core" = some (.named "Core") ∧
      u.interface? "Plant" = none ∧ u.protocol? "Ripening" = none ∧
      u.interfaces.decls.toList.map Interface.name =
        ["Plum", "Apple", "Pear", "Drupe", "Fruit", "Core", "Peel", "Juice"]) ∧
      SourceUnit.load ⟨"Orchard.json"⟩ windfall.write =
        .error (.model ⟨"Orchard.json"⟩ "duplicate definition of interface Apple") := by
  obtain ⟨-, -, -, -, hdescribes⟩ := resolve_describes orchard
  obtain ⟨-, hclash, -, hfails, -⟩ := resolve_describes windfall
  obtain ⟨u, hu⟩ := (isOk_resolve_iff orchard).1 (by decide)
  have hd := hdescribes u hu
  have hparse : parse windfall.write = .ok windfall :=
    parse_of_spells (Json.spells_compact windfall.natural_toJson)
  refine ⟨⟨u, hu, ?_, ?_, ?_, ?_, ?_, ?_⟩, hfails _ ((hclash "Apple").2 ?_) _ _ hparse⟩
  · rw [hd.interface]
    decide
  · rw [hd.interface]
    decide
  · rw [hd.interface]
    decide
  · rw [hd.interface]
    decide
  · refine Option.eq_none_iff_forall_ne_some.2 fun p hp => ?_
    have hdefinitions := (hd.protocol "Ripening" p).1 hp
    cases hdefinitions
  · rw [hd.names]
    decide
  · refine ⟨orchard.interfaces, apple, [plum], rfl, ?_, by decide, rfl, rfl⟩
    exact ((exists_resolve_iff orchard).1 ⟨u, hu⟩).1

end MethodAudit
