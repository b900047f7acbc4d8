import Mathlib.Data.List.Forall2
import MethodAudit.Json.Node
import MethodAudit.Proofs.Json.Tokens

/-!
The tree of a text that spells a value shows that value.

The tree says more than the value, as it knows the places; `Node.Shows` leaves them out.
-/

namespace MethodAudit.Json

mutual

/-- A tree without faults of form that stands for a value, at whatever places. -/
inductive Node.Shows : Node → Raw → Prop
  | null (span : Span) : Node.Shows (.leaf ⟨.null, span⟩) .null
  | bool (b : Bool) (span : Span) : Node.Shows (.leaf ⟨.bool b, span⟩) (.bool b)
  | number (n : Numeral) (span : Span) : Node.Shows (.leaf ⟨.number n, span⟩) (.number n)
  | string (s : Literal) (span : Span) :
      Node.Shows (.leaf ⟨.string s, span⟩) (.string s.toOption)
  | list {items vs} (span : Span) (h : Items.Show items vs) :
      Node.Shows (.list span items) (.list vs)
  | object {members ms} (span : Span) (h : Members.Show members ms) :
      Node.Shows (.object span members) (.object ms)

inductive Items.Show : Items → List Raw → Prop
  | stop (span : Span) : Items.Show (.stop (.closed span)) []
  | cons {n v items vs} (hn : Node.Shows n v) (h : Items.Show items vs) :
      Items.Show (.cons n items) (v :: vs)

inductive Members.Show : Members → List (Option String × Raw) → Prop
  | stop (span : Span) : Members.Show (.stop (.closed span)) []
  | cons {n v members ms} (k : Key) (hn : Node.Shows n v) (h : Members.Show members ms) :
      Members.Show (.cons k n members) ((k.text.toOption, v) :: ms)

end

/-- A key and its value in a tree. -/
def MemberShows (m : Key × Node) (p : Option String × Raw) : Prop :=
  m.1.text.toOption = p.1 ∧ m.2.Shows p.2

lemma Items.show_build {ns : List Node} {vs : List Raw} (h : List.Forall₂ Node.Shows ns vs)
    (span : Span) : Items.Show (.build (.closed span) ns.reverse) vs := by
  rw [Items.build, List.foldl_reverse]
  induction h with
  | nil => exact .stop span
  | cons hn _ ih => exact .cons hn ih

lemma Members.show_build {ns : List (Key × Node)} {ms : List (Option String × Raw)}
    (h : List.Forall₂ MemberShows ns ms) (span : Span) :
    Members.Show (.build (.closed span) ns.reverse) ms := by
  rw [Members.build, List.foldl_reverse]
  induction h with
  | nil => exact .stop span
  | @cons m p _ _ hn _ ih =>
    obtain ⟨name, v⟩ := p
    obtain ⟨rfl, hv⟩ := hn
    exact .cons m.1 hv ih

/-! ### Tokens of signs -/

/-- A sign other than a string is that of one lexeme only. -/
lemma Token.eq_of_sign? {t : Token} {l : Lexeme} (hl : ∀ s, l ≠ .string s)
    (hsign : l.sign?.isSome) (h : t.sign? = l.sign?) : ∃ span, t = ⟨l, span⟩ := by
  obtain ⟨l', span⟩ := t
  refine ⟨span, ?_⟩
  cases l <;> cases l' <;> simp_all [Token.sign?, Lexeme.sign?]

lemma Token.eq_string_of_sign? {t : Token} {s : Option String} (h : t.sign? = some (.string s)) :
    ∃ lit span, t = ⟨.string lit, span⟩ ∧ lit.toOption = s := by
  obtain ⟨l, span⟩ := t
  cases l <;> simp_all [Token.sign?, Lexeme.sign?]

namespace Expect

@[simp] lemma run_cons (e : Expect) (t : Token) (ts : List Token) :
    e.run (t :: ts) = (e.step t).run ts := rfl

lemma run_append (e : Expect) (ts ts' : List Token) : e.run (ts ++ ts') = (e.run ts).run ts' :=
  List.foldl_append

/-- The tokens `ts` are those of the signs `gs`. -/
def Tell (ts : List Token) (gs : List Sign) : Prop := ts.map Token.sign? = gs.map some

lemma Tell.append {ts : List Token} {gs gs' : List Sign} (h : Tell ts (gs ++ gs')) :
    ∃ ts₁ ts₂, ts = ts₁ ++ ts₂ ∧ Tell ts₁ gs ∧ Tell ts₂ gs' := by
  rw [Tell, List.map_append] at h
  exact List.map_eq_append_iff.1 h

/-- The token of a sign that is no string. -/
lemma Tell.mark {l : Lexeme} {g : Sign} {ts : List Token} {gs : List Sign}
    (h : Tell ts (g :: gs)) (hg : l.sign? = some g) (hl : ∀ s, l ≠ .string s) :
    ∃ span ts', ts = ⟨l, span⟩ :: ts' ∧ Tell ts' gs := by
  obtain ⟨t, ts', rfl, ht, hts'⟩ := List.map_eq_cons_iff.1 h
  obtain ⟨span, rfl⟩ := Token.eq_of_sign? hl (by simp [hg]) (ht.trans hg.symm)
  exact ⟨span, ts', rfl, hts'⟩

lemma Tell.string {s : Option String} {ts : List Token} {gs : List Sign}
    (h : Tell ts (.string s :: gs)) :
    ∃ lit span ts', ts = ⟨.string lit, span⟩ :: ts' ∧ lit.toOption = s ∧ Tell ts' gs := by
  obtain ⟨t, ts', rfl, ht, hts'⟩ := List.map_eq_cons_iff.1 h
  obtain ⟨lit, span, rfl, hlit⟩ := Token.eq_string_of_sign? ht
  exact ⟨lit, span, ts', rfl, hlit, hts'⟩

lemma Tell.eq_nil {ts : List Token} (h : Tell ts []) : ts = [] := List.map_eq_nil_iff.1 h

/-! ### Building the tree -/

/-- The next token starts a value that belongs into the frames `fs`. -/
def Opens (e : Expect) (fs : List Frame) : Prop :=
  ∀ t : Token, t.lexeme ≠ .closeList → t.lexeme ≠ .ending → e.step t = begin t fs

lemma opens_value (fs : List Frame) : Opens (.value fs) fs := fun _ _ _ => rfl

lemma opens_firstItem (span : Span) (fs : List Frame) :
    Opens (.firstItem span fs) (.list span [] :: fs) := by
  rintro ⟨l, _⟩ hclose hend
  cases l <;> first | rfl | contradiction

lemma opens_item (span : Span) (items : List Node) (comma : Span) (fs : List Frame) :
    Opens (.item span items comma fs) (.list span items :: fs) := by
  rintro ⟨l, _⟩ hclose hend
  cases l <;> first | rfl | contradiction

/-- The tokens `ts` make a tree that shows `v`. -/
def Finds (e : Expect) (ts : List Token) (v : Raw) (fs : List Frame) : Prop :=
  ∃ n, n.Shows v ∧ e.run ts = plug n fs

/-- A value of one token. -/
lemma finds_leaf {e : Expect} {fs : List Frame} (he : Opens e fs) {t : Token} {v : Raw}
    (hv : (Node.leaf t).Shows v) : Finds e [t] v fs := by
  refine ⟨.leaf t, hv, ?_⟩
  rw [run_cons, he t (by cases hv <;> simp) (by cases hv <;> simp)]
  cases hv <;> rfl

lemma finds_mark {e : Expect} {fs : List Frame} (he : Opens e fs) {ts : List Token} {l : Lexeme}
    {g : Sign} (hts : Tell ts [g]) (hg : l.sign? = some g) (hl : ∀ s, l ≠ .string s) {v : Raw}
    (hv : ∀ span, (Node.leaf ⟨l, span⟩).Shows v) : Finds e ts v fs := by
  obtain ⟨span, ts', rfl, hts'⟩ := hts.mark hg hl
  obtain rfl := hts'.eq_nil
  exact finds_leaf he (hv span)

mutual

/-- Reading the tokens of a value, wherever it belongs. -/
theorem finds_value : (v : Raw) → ∀ {e : Expect} {fs : List Frame} {ts : List Token},
    Opens e fs → Tell ts v.signs → Finds e ts v fs
  | .null, _, _, _, he, hts => finds_mark (l := .null) he hts rfl nofun .null
  | .bool b, _, _, _, he, hts => finds_mark (l := .bool b) he hts rfl nofun (.bool b)
  | .number n, _, _, _, he, hts => finds_mark (l := .number n) he hts rfl nofun (.number n)
  | .string s, e, fs, ts, he, hts => by
    obtain ⟨lit, span, ts', rfl, rfl, hts'⟩ := hts.string
    obtain rfl := hts'.eq_nil
    exact finds_leaf he (.string lit span)
  | .list [], e, fs, ts, he, hts => by
    obtain ⟨span, ts₁, rfl, hts₁⟩ := hts.mark (l := .openList) rfl nofun
    obtain ⟨closed, ts₂, rfl, hts₂⟩ := hts₁.mark (l := .closeList) rfl nofun
    obtain rfl := hts₂.eq_nil
    refine ⟨.list span (.stop (.closed closed)), .list span (.stop closed), ?_⟩
    rw [run_cons, he ⟨.openList, span⟩ nofun nofun]
    rfl
  | .list (v :: vs), e, fs, ts, he, hts => by
    rw [Raw.signs, List.append_assoc] at hts
    obtain ⟨span, ts₁, rfl, hts₁⟩ := hts.mark (l := .openList) rfl nofun
    obtain ⟨ts₂, ts₃, rfl, hts₂, hts₃⟩ := hts₁.append
    obtain ⟨n, hn, hrun⟩ := finds_value v (opens_firstItem span fs) hts₂
    obtain ⟨ns, closed, hns, hrun'⟩ := finds_items vs span [n] fs hts₃
    refine ⟨_, .list span (Items.show_build (.cons hn hns) closed), ?_⟩
    rw [run_cons, he ⟨.openList, span⟩ nofun nofun, run_append, List.reverse_cons]
    exact (congrArg (run · ts₃) hrun).trans hrun'
  | .object [], e, fs, ts, he, hts => by
    obtain ⟨span, ts₁, rfl, hts₁⟩ := hts.mark (l := .openObject) rfl nofun
    obtain ⟨closed, ts₂, rfl, hts₂⟩ := hts₁.mark (l := .closeObject) rfl nofun
    obtain rfl := hts₂.eq_nil
    refine ⟨.object span (.stop (.closed closed)), .object span (.stop closed), ?_⟩
    rw [run_cons, he ⟨.openObject, span⟩ nofun nofun]
    rfl
  | .object ((name, v) :: ms), e, fs, ts, he, hts => by
    rw [Raw.signs, List.append_assoc] at hts
    obtain ⟨span, ts₁, rfl, hts₁⟩ := hts.mark (l := .openObject) rfl nofun
    obtain ⟨lit, keySpan, ts₂, rfl, hlit, hts₂⟩ := hts₁.string
    obtain ⟨colon, ts₃, rfl, hts₃⟩ := hts₂.mark (l := .colon) rfl nofun
    obtain ⟨ts₄, ts₅, rfl, hts₄, hts₅⟩ := hts₃.append
    let key : Key := ⟨lit, keySpan, span, colon.start⟩
    obtain ⟨n, hn, hrun⟩ := finds_value v (opens_value (.object span [] key :: fs)) hts₄
    obtain ⟨ns, closed, hns, hrun'⟩ := finds_members ms span [(key, n)] fs hts₅
    have hkey : MemberShows (key, n) (name, v) := ⟨hlit, hn⟩
    refine ⟨_, .object span (Members.show_build (.cons hkey hns) closed), ?_⟩
    rw [run_cons, he ⟨.openObject, span⟩ nofun nofun, run_cons, run_cons, run_append,
      List.reverse_cons]
    exact (congrArg (run · ts₅) hrun).trans hrun'

theorem finds_items : (vs : List Raw) → ∀ (span : Span) (items : List Node) (fs : List Frame)
    {ts : List Token}, Tell ts (Raw.itemSigns vs ++ [.closeList]) →
    ∃ ns closed, List.Forall₂ Node.Shows ns vs ∧
      (nextItem span items fs).run ts =
        plug (.list span (.build (.closed closed) (ns.reverse ++ items))) fs
  | [], span, items, fs, ts, hts => by
    obtain ⟨closed, ts', rfl, hts'⟩ := hts.mark (l := .closeList) rfl nofun
    obtain rfl := hts'.eq_nil
    exact ⟨[], closed, .nil, rfl⟩
  | v :: vs, span, items, fs, ts, hts => by
    rw [Raw.itemSigns, List.append_assoc] at hts
    obtain ⟨comma, ts₁, rfl, hts₁⟩ := hts.mark (l := .comma) rfl nofun
    obtain ⟨ts₂, ts₃, rfl, hts₂, hts₃⟩ := hts₁.append
    obtain ⟨n, hn, hrun⟩ := finds_value v (opens_item span items comma fs) hts₂
    obtain ⟨ns, closed, hns, hrun'⟩ := finds_items vs span (n :: items) fs hts₃
    refine ⟨n :: ns, closed, .cons hn hns, ?_⟩
    rw [run_cons, run_append, List.reverse_cons, List.append_assoc, List.singleton_append]
    exact (congrArg (run · ts₃) hrun).trans hrun'

theorem finds_members : (ms : List (Option String × Raw)) → ∀ (span : Span)
    (members : List (Key × Node)) (fs : List Frame) {ts : List Token},
    Tell ts (Raw.memberSigns ms ++ [.closeObject]) →
    ∃ ns closed, List.Forall₂ MemberShows ns ms ∧
      (nextKey span members fs).run ts =
        plug (.object span (.build (.closed closed) (ns.reverse ++ members))) fs
  | [], span, members, fs, ts, hts => by
    obtain ⟨closed, ts', rfl, hts'⟩ := hts.mark (l := .closeObject) rfl nofun
    obtain rfl := hts'.eq_nil
    exact ⟨[], closed, .nil, rfl⟩
  | (name, v) :: ms, span, members, fs, ts, hts => by
    rw [Raw.memberSigns, List.append_assoc] at hts
    obtain ⟨comma, ts₁, rfl, hts₁⟩ := hts.mark (l := .comma) rfl nofun
    obtain ⟨lit, keySpan, ts₂, rfl, hlit, hts₂⟩ := hts₁.string
    obtain ⟨colon, ts₃, rfl, hts₃⟩ := hts₂.mark (l := .colon) rfl nofun
    obtain ⟨ts₄, ts₅, rfl, hts₄, hts₅⟩ := hts₃.append
    let key : Key := ⟨lit, keySpan, comma, colon.start⟩
    obtain ⟨n, hn, hrun⟩ := finds_value v (opens_value (.object span members key :: fs)) hts₄
    obtain ⟨ns, closed, hns, hrun'⟩ := finds_members ms span ((key, n) :: members) fs hts₅
    refine ⟨(key, n) :: ns, closed, .cons ⟨hlit, hn⟩ hns, ?_⟩
    rw [run_cons, run_cons, run_cons, run_append, List.reverse_cons, List.append_assoc,
      List.singleton_append]
    exact (congrArg (run · ts₅) hrun).trans hrun'

end

end Expect

/-- **Reading**: the tree of a text that spells a value shows the value, and nothing follows. -/
theorem exists_shows_of_spells {text : String} {v : Raw} (h : Spells text.toList v.signs) :
    ∃ n, n.Shows v ∧ Document.read text = ⟨n, none⟩ := by
  obtain ⟨ts, span, hts, hscan⟩ := exists_scan_of_spells h
  obtain ⟨n, hn, hrun⟩ := Expect.finds_value v (Expect.opens_value []) hts
  refine ⟨n, hn, ?_⟩
  rw [Document.read, Document.ofTokens, hscan, Expect.run_append, hrun]
  rfl

end MethodAudit.Json
