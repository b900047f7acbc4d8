import MethodAudit.Dump.Reader
import MethodAudit.Proofs.Json.Filling

/-!
What a statement is read as.

The children of a statement are read where they stand. Its other members are set aside until its
object ends, and what it does is looked for among them. Both depend on its value alone, at any
depth.
-/

namespace MethodAudit.Reader

open Json Json.Decoder

theorem stmtItems_eq (room : Room) : (is : Items) → stmtItems room is = items stmt room is
  | .stop (.closed _) => rfl
  | .stop (.broken _) => rfl
  | .cons n rest => by rw [stmtItems, items, stmtItems_eq room rest]

lemma stmtList_eq : stmtList = Decoder.list stmt := by
  funext room n
  cases n with
  | list line is => simp only [stmtList, Decoder.list, stmtItems_eq]
  | _ => simp only [stmtList, Decoder.list]

/-- The members of a statement other than its children, if their keys and values are in order. -/
def setAside? : List (Option String × Raw) → Option (List (String × Json))
  | [] => some []
  | (k, v) :: ms => k.bind fun name =>
    if name = "children" then setAside? ms
    else v.json?.bind fun j => (setAside? ms).map ((name, j) :: ·)

def childrenSlot : Slot Raw (Option (List Stmt)) :=
  ⟨"children", false, fun v => (Raw.items? (Decoder.on stmt none) v).map fun cs _ => some cs⟩

/-- A statement with these members. -/
def ofMembers? (ms : List (Option String × Raw)) : Option Stmt :=
  (fill [childrenSlot] [] none ms).bind fun cs => (setAside? ms).bind fun others =>
    (actionOf others).toOption.map fun action => .node action (cs.getD [])

lemma toOption_stmtMembers {ms : List (Option String × Raw)}
    (hc : ∀ m ∈ ms, Reads (Decoder.list stmt) none m.2 (Raw.items? (Decoder.on stmt none) m.2))
    {members : Members} (hms : members.Show ms) (kept : List (String × Json))
    (children : Option (List Stmt)) :
    (stmtMembers none kept children members).toOption =
      (fill [childrenSlot] (if children.isSome then ["children"] else []) children ms).bind
        fun cs => (setAside? ms).bind fun others =>
          (actionOf (kept.reverse ++ others)).toOption.map fun action =>
            .node action (cs.getD []) := by
  induction ms generalizing members kept children with
  | nil =>
    cases hms with
    | stop span =>
      simp only [stmtMembers, toOption_bind, toOption_located, fill, childrenSlot, setAside?,
        Option.bind_some, List.append_nil]
      cases (actionOf kept.reverse).toOption <;> cases children <;> rfl
  | cons m ms ih =>
    have ih' := @ih fun m hm => hc m (List.mem_cons_of_mem _ hm)
    cases hms with
    | @cons n v rest _ k hn hrest =>
      have hv := hc _ List.mem_cons_self n hn
      rcases htext : k.text with fault | name
      · simp [stmtMembers, htext, fill]
      simp only [stmtMembers, htext, toOption_bind, toOption_ok, Option.bind_some, setAside?]
      by_cases hname : name = "children"
      · subst hname
        rw [fill_known (f := childrenSlot) rfl, if_pos rfl, if_pos rfl]
        cases children with
        | some cs => rfl
        | none =>
          simp only [Option.isSome_none, Bool.false_eq_true, if_false, toOption_bind, stmtList_eq,
            hv, childrenSlot]
          cases Raw.items? (Decoder.on stmt none) v with
          | none => rfl
          | some cs => exact ih' hrest kept (some cs)
      · rw [fill_foreign (by simp [childrenSlot, Ne.symm hname]), if_neg hname, if_neg hname,
          toOption_bind, means_value v hn]
        cases v.json? with
        | none => simp
        | some j =>
          simp only [ih' hrest, Option.bind_some, Option.bind_map, Function.comp_def,
            List.reverse_cons, List.append_assoc, List.singleton_append]

lemma reads_stmt_object {ms : List (Option String × Raw)}
    (hc : ∀ m ∈ ms, Reads (Decoder.list stmt) none m.2 (Raw.items? (Decoder.on stmt none) m.2)) :
    Reads stmt none (.object ms) (ofMembers? ms) := by
  intro n hn
  cases hn with
  | object span hms =>
    simp only [stmt, Room.enter, toOption_bind, toOption_ok, Option.bind_some]
    exact toOption_stmtMembers hc hms [] none

/-- What a statement is read as depends on its value alone. -/
theorem means_stmt : (v : Raw) → Reads stmt none v (Decoder.on stmt none v)
  | .object ms => by
    refine (reads_stmt_object ?_).on
    rintro ⟨k, w⟩ hm
    refine reads_list enters_none ?_
    rintro vs rfl x hx
    exact means_stmt x
  | .null | .bool _ | .number _ | .string _ | .list _ => by
    intro n hn
    cases hn
    rfl
termination_by v => sizeOf v
decreasing_by
  have hitem := List.sizeOf_lt_of_mem hx
  have hmember := List.sizeOf_lt_of_mem hm
  simp only [Prod.mk.sizeOf_spec, Raw.list.sizeOf_spec, Raw.object.sizeOf_spec] at *
  omega

lemma on_stmt_object (ms : List (Option String × Raw)) :
    Decoder.on stmt none (.object ms) = ofMembers? ms :=
  (reads_stmt_object fun m _ => means_list enters_none means_stmt m.2).on_eq

end MethodAudit.Reader
