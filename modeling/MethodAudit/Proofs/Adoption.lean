import Mathlib.Logic.Relation
import MethodAudit.Proofs.Folding
import MethodAudit.Proofs.Surface

/-!
Protocols as a graph.

A protocol adopts others by name, and a name counts if the unit defines it. The search for a
declaration goes through this graph with the names it has visited, and stops at the first hit;
whatever the shape of the graph, its answer is whether a path leads from the protocol to one that
declares the method itself.
-/

namespace MethodAudit.SourceUnit

open Relation (ReflTransGen)

/-- The unit defines `q`, and `p` names it among the protocols that it adopts. -/
def Adopts (u : SourceUnit) (p q : Protocol) : Prop :=
  q ∈ u.protocols.decls.toList ∧ q.forward = false ∧ q.name ∈ p.body.protocols

variable {u : SourceUnit} {m : Method}

lemma Resolved.adopts_iff (hu : u.Resolved) {p q : Protocol} :
    u.Adopts p q ↔ ∃ n ∈ p.body.protocols, u.protocol? n = some q := by
  constructor
  · rintro ⟨hq, hforward, hname⟩
    exact ⟨q.name, hname, hu.protocol?_eq_some_iff.2 ⟨hq, rfl, hforward⟩⟩
  · rintro ⟨n, hn, hq⟩
    obtain ⟨hmem, rfl, hforward⟩ := hu.protocol?_eq_some_iff.1 hq
    exact ⟨hmem, hforward, hn⟩

/-- What a name offers is declared at the end of a path from its definition. -/
lemma Resolved.offers_iff_path (hu : u.Resolved) {n : String} :
    u.Offers m n ↔ ∃ p, u.protocol? n = some p ∧
      ∃ q, ReflTransGen u.Adopts p q ∧ q.body.declares m = true := by
  constructor
  · intro h
    induction h with
    | @own n p hp hm => exact ⟨p, hp, p, .refl, hm⟩
    | @adopted n k p hp hk _ ih =>
      obtain ⟨r, hr, q, hpath, hq⟩ := ih
      exact ⟨p, hp, q, .head (hu.adopts_iff.2 ⟨k, hk, hr⟩) hpath, hq⟩
  · rintro ⟨p, hp, q, hpath, hq⟩
    induction hpath using ReflTransGen.head_induction_on generalizing n with
    | refl => exact .own hp hq
    | head hstep _ ih =>
      obtain ⟨k, hk, hr⟩ := hu.adopts_iff.1 hstep
      exact .adopted hp hk (ih hr)

/-- A path from a protocol ends there, or its first step leads to a name that offers the method. -/
lemma Resolved.path_iff (hu : u.Resolved) {p : Protocol} :
    (∃ q, ReflTransGen u.Adopts p q ∧ q.body.declares m = true) ↔
      p.body.declares m = true ∨ ∃ n ∈ p.body.protocols, u.Offers m n := by
  constructor
  · rintro ⟨q, hpath, hq⟩
    rcases hpath.cases_head with rfl | ⟨r, hstep, hrest⟩
    · exact .inl hq
    · obtain ⟨n, hn, hr⟩ := hu.adopts_iff.1 hstep
      exact .inr ⟨n, hn, hu.offers_iff_path.2 ⟨r, hr, q, hrest, hq⟩⟩
  · rintro (hm | ⟨n, hn, ho⟩)
    · exact ⟨p, .refl, hm⟩
    · obtain ⟨r, hr, q, hpath, hq⟩ := hu.offers_iff_path.1 ho
      exact ⟨q, .head (hu.adopts_iff.2 ⟨n, hn, hr⟩) hpath, hq⟩

/-! ### The search from a protocol -/

/-- At the start the protocol is visited, and what it adopts is pending. -/
lemma Resolved.spent_start (hu : u.Resolved) {p : Protocol} (hp : p ∈ u.protocols.decls.toList)
    (hm : p.body.declares m = false) : u.Spent m [p.name] p.body.protocols := by
  intro n hn q hq
  obtain ⟨hmem, hname, -⟩ := hu.protocol?_eq_some_iff.1 hq
  obtain rfl : q = p :=
    NameTable.eq_of_name_eq hu.protocols hmem hp (hname.trans (List.mem_singleton.1 hn))
  exact ⟨hm, fun k hk _ _ => .inr hk⟩

lemma Resolved.protocolDeclares_iff (hu : u.Resolved) {p : Protocol}
    (hp : p ∈ u.protocols.decls.toList) :
    u.protocolDeclares p m = true ↔
      p.body.declares m = true ∨ ∃ n ∈ p.body.protocols, u.Offers m n := by
  rw [protocolDeclares]
  cases hm : p.body.declares m with
  | true => simp [Search.isFound]
  | false =>
    cases hsearch : u.searchProtocols m [p.name] p.body.protocols with
    | found => simpa [Search.isFound] using offers_of_found hsearch
    | visited left =>
      -- all that was defined has been visited, and nothing visited offers the method
      obtain ⟨hspent, -, hall⟩ := spent_of_visited hu (hu.spent_start hp hm) hsearch
      have hnone : ¬∃ n ∈ p.body.protocols, u.Offers m n := by
        rintro ⟨n, hn, ho⟩
        obtain ⟨q, hq, -⟩ := hu.offers_iff_path.1 ho
        exact not_offers_of_spent hspent (hall n hn q hq) ho
      simpa [Search.isFound] using hnone

/-- **The search for a declaration is reachability**: a protocol of the unit declares a method
exactly if adopted definitions lead from it to one whose own body does. Circles, diamonds and
protocols that adopt themselves make no difference, and names without a definition lead nowhere. -/
theorem protocolDeclares_iff_path {d : Dump} {u : SourceUnit} (h : d.resolve = .ok u)
    {p : Protocol} (hp : p ∈ u.protocols.decls.toList) (m : Method) :
    u.protocolDeclares p m = true ↔
      ∃ q, ReflTransGen u.Adopts p q ∧ q.body.declares m = true := by
  have hu := Dump.resolved h
  rw [hu.protocolDeclares_iff hp, hu.path_iff]

/-! ### A graph of every shape -/

def paint : Method := ⟨"paint", false⟩

def erase : Method := ⟨"erase", false⟩

def drawn : Protocol := ⟨"Drawn", ⟨["Drawn", "Filled", "Stroked"], [], []⟩, false⟩

def filled : Protocol := ⟨"Filled", ⟨["Erased", "Lost", "Painted"], [], []⟩, false⟩

def painted : Protocol := ⟨"Painted", ⟨["Drawn"], [paint], []⟩, false⟩

/-- The first protocol adopts itself, leads to the last on two ways and is adopted by it. Of two
more names one is only declared ahead and the other not at all. -/
def studio : Dump where
  file := "Studio.m"
  interfaces := []
  protocols := [
    drawn,
    filled,
    ⟨"Stroked", ⟨["Painted"], [], []⟩, false⟩,
    ⟨"Erased", ⟨[], [erase], []⟩, true⟩,
    painted]
  categories := []
  implementations := []

lemma mem_studio_of_mem {u : SourceUnit} (h : studio.resolve = .ok u) {q : Protocol}
    (hq : q ∈ u.protocols.decls.toList) (hforward : q.forward = false) : q ∈ studio.protocols := by
  have hdef := (Dump.resolved h).protocol?_eq_some_iff.2 ⟨hq, rfl, hforward⟩
  rw [Dump.protocol?_of_resolve h] at hdef
  exact (NameTable.mem_definitionsOf.1 (List.mem_of_mem_head? hdef)).1

theorem protocolDeclares_iff_path_studio :
    ∃ u, studio.resolve = .ok u ∧ drawn ∈ u.protocols.decls.toList ∧
      u.protocolDeclares drawn paint = true ∧ ¬u.protocolDeclares drawn erase = true := by
  obtain ⟨u, hu⟩ := (Dump.isOk_resolve_iff studio).1 (by decide)
  have hr := Dump.resolved hu
  have hdef : u.protocol? "Drawn" = some drawn := (Dump.protocol?_of_resolve hu "Drawn").trans rfl
  obtain ⟨hdrawn, -, -⟩ := hr.protocol?_eq_some_iff.1 hdef
  have hfilled : u.Adopts drawn filled := hr.adopts_iff.2
    ⟨"Filled", by decide, (Dump.protocol?_of_resolve hu "Filled").trans rfl⟩
  have hpainted : u.Adopts filled painted := hr.adopts_iff.2
    ⟨"Painted", by decide, (Dump.protocol?_of_resolve hu "Painted").trans rfl⟩
  refine ⟨u, hu, hdrawn, ?_, ?_⟩
  · rw [protocolDeclares_iff_path hu hdrawn]
    exact ⟨painted, .tail (.single hfilled) hpainted, by decide⟩
  · rw [protocolDeclares_iff_path hu hdrawn]
    rintro ⟨q, hpath, hq⟩
    have hnone : ∀ p ∈ studio.protocols, p.forward = false → p.body.declares erase = false := by
      decide
    have hdeclares : q.body.declares erase = false := by
      cases hpath with
      | refl => decide
      | tail _ hstep => exact hnone q (mem_studio_of_mem hu hstep.1 hstep.2.1) hstep.2.1
    rw [hdeclares] at hq
    cases hq

end MethodAudit.SourceUnit
