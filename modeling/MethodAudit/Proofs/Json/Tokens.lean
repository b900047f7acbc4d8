import MethodAudit.Json.Token
import MethodAudit.Proofs.Json.Grammar

/-!
The scan of a text that spells signs: it finds one token for each of them, and then the end.

Places are left out. They tell two faulty strings apart, so tokens are compared by their signs.
-/

namespace MethodAudit.Json

/-- The sign that a lexeme stands for. -/
def Lexeme.sign? : Lexeme → Option Sign
  | .openList => some .openList
  | .closeList => some .closeList
  | .openObject => some .openObject
  | .closeObject => some .closeObject
  | .comma => some .comma
  | .colon => some .colon
  | .null => some .null
  | .bool b => some (.bool b)
  | .number n => some (.number n)
  | .string s => some (.string s.toOption)
  | .cut _ | .stray | .ending => none

def Token.sign? (t : Token) : Option Sign := t.lexeme.sign?

namespace Scan

@[simp] lemma start_take (s : Scan) (c : Char) : (s.take c).start = s.start := rfl

@[simp] lemma tokens_take (s : Scan) (c : Char) : (s.take c).tokens = s.tokens := rfl

@[simp] lemma run_nil (s : Scan) : s.run [] = s := rfl

@[simp] lemma run_cons (s : Scan) (c : Char) (cs : List Char) :
    s.run (c :: cs) = (s.step c).run cs := rfl

lemma run_append (s : Scan) (cs cs' : List Char) : s.run (cs ++ cs') = (s.run cs).run cs' :=
  List.foldl_append

/-- Scanning `w` before `cs` comes to the same as having read a token of the sign `g`. -/
def Takes (s : Scan) (w : List Char) (g : Sign) (cs : List Char) : Prop :=
  ∃ (s' : Scan) (t : Token), s'.mode = .ready ∧ t.sign? = some g ∧ s'.tokens = t :: s.tokens ∧
    (s.run (w ++ cs)).finish = (s'.run cs).finish

end Scan

/-! ### Strings -/

namespace Spelling

/-- A surrogate that waits is a leading one. -/
def Sound (w : Spelling) : Prop := ∀ u ∈ w.lead, isLead u

/-- The text of a literal that goes on with these pieces. -/
def reads (w : Spelling) (ps : List Piece) : Option String :=
  if w.wrong.isSome then none
  else (Piece.text? (w.lead.toList.map .unit ++ ps)).map fun cs =>
    String.ofList (w.chars.reverse ++ cs)

lemma reads_of_wrong {w : Spelling} (h : w.wrong.isSome) (ps : List Piece) : w.reads ps = none :=
  if_pos h

lemma reads_of_lead {w : Spelling} {u : Nat} (h : w.lead = some u) (ps : List Piece)
    (hnone : Piece.text? (.unit u :: ps) = none) : w.reads ps = none := by
  simp [reads, h, hnone]

lemma isSome_wrong_blame (w : Spelling) (p : Problem) (pos : Position) :
    (w.blame p pos).wrong.isSome := by
  simp only [blame]
  cases w.wrong <;> rfl

lemma lead_unpaired (w : Spelling) (pos : Position) : (w.unpaired pos).lead = none := by
  unfold unpaired
  split
  · rfl
  · assumption

/-- A leading surrogate needs its partner at once. -/
lemma text?_lead {u : Nat} (hu : isLead u) (ps : List Piece)
    (hps : ∀ t ps', ps = .unit t :: ps' → isTrail t = false) :
    Piece.text? (.unit u :: ps) = none := by
  rw [Piece.text?.eq_def]
  simp only [hu, if_true]
  split
  · rfl
  · split
    · next t ps' => simp [hps t ps' rfl]
    · rfl

lemma reads_push {w : Spelling} (hw : w.Sound) (c : Char) (pos : Position) (ps : List Piece) :
    ((w.unpaired pos).push c).reads ps = w.reads (.char c :: ps) := by
  rcases hlead : w.lead with _ | u
  · simp [unpaired, hlead, reads, push, Piece.text?, Option.map_map, Function.comp_def]
  · rw [reads_of_lead hlead _ (text?_lead (hw u hlead) _ (by simp))]
    refine reads_of_wrong ?_ ps
    simpa [unpaired, hlead, push] using isSome_wrong_blame w _ pos

lemma literal_unpaired {w : Spelling} (hw : w.Sound) (pos : Position) :
    (w.unpaired pos).literal.toOption = w.reads [] := by
  rcases hlead : w.lead with _ | u
  · rcases hwrong : w.wrong with _ | f <;>
      simp [unpaired, hlead, literal, reads, hwrong, Piece.text?, Except.toOption]
  · rw [reads_of_lead hlead _ (text?_lead (hw u hlead) _ (by simp))]
    have hwrong := isSome_wrong_blame w .brokenSurrogate pos
    obtain ⟨f, hf⟩ := Option.isSome_iff_exists.1 hwrong
    simp [unpaired, hlead, literal, hf, Except.toOption]

/-- What a unit does: it completes a pair, goes wrong, waits, or is a character. -/
lemma unit_eq (w : Spelling) (u : Nat) (pos : Position) : w.unit u pos =
    match w.lead with
    | some lead =>
      if isTrail u then { w.push (paired lead u) with lead := none }
      else w.blame .loneSurrogate pos
    | none =>
      if isTrail u then w.blame .loneSurrogate pos
      else if isLead u then { w with lead := some u }
      else w.push (Char.ofNat u) :=
  rfl

lemma sound_unit (w : Spelling) (u : Nat) (pos : Position) : (w.unit u pos).Sound := by
  rw [unit_eq]
  split
  · split <;> simp [Sound, blame]
  · next hlead =>
    split
    · simp [Sound, blame]
    · split
      · next hu => simpa [Sound] using hu
      · simp [Sound, push, hlead]

lemma not_isTrail_of_isLead {u : Nat} (h : isLead u) : isTrail u = false := by
  simp only [isLead, isTrail, Bool.and_eq_true, decide_eq_true_eq, Bool.and_eq_false_iff,
    decide_eq_false_iff_not] at h ⊢
  omega

lemma reads_unit {w : Spelling} (hw : w.Sound) (u : Nat) (pos : Position) (ps : List Piece) :
    (w.unit u pos).reads ps = w.reads (.unit u :: ps) := by
  have hblame := reads_of_wrong (isSome_wrong_blame w .loneSurrogate pos) ps
  rw [unit_eq]
  split
  · next lead hlead =>
    have hl := hw lead hlead
    split
    · next htrail =>
      simp [reads, push, hlead, Piece.text?, not_isTrail_of_isLead hl, hl, htrail,
        Option.map_map, Function.comp_def]
    · next htrail => rw [hblame, reads_of_lead hlead _ (text?_lead hl _ (by simpa using htrail))]
  · next hlead =>
    split
    · next htrail =>
      have hnone : Piece.text? (.unit u :: ps) = none := by
        rw [Piece.text?.eq_def]
        simp [htrail]
      rw [hblame, reads, hlead]
      simp [hnone]
    · next htrail =>
      split
      · simp [reads, hlead]
      · next hu =>
        simp [reads, push, hlead, Piece.text?_unit (by simpa using htrail) (by simpa using hu),
          Option.map_map, Function.comp_def]

end Spelling

lemma utf8Size_of_hexDigit? {c : Char} {d : Nat} (h : Text.hexDigit? c = some d) :
    c.utf8Size = 1 := by
  have hle : c ≤ 'f' := by
    simp only [Text.hexDigit?, Bool.and_eq_true, decide_eq_true_eq] at h
    split at h
    · next hc => exact Char.le_trans hc.2 (by decide)
    · split at h
      · next hc => exact hc.2
      · split at h
        · next hc => exact Char.le_trans hc.2 (by decide)
        · cases h
  have hval : c.val ≤ 'f'.val := hle
  have : c.val ≤ 0x7f := UInt32.le_trans hval (by decide)
  simp [Char.utf8Size, this]

namespace Scan

/-- The four digits of a unit. -/
lemma run_unit {s : Scan} {w : Spelling} (hs : s.mode = .text w) {cs : List Char} {u : Nat}
    (h : hexUnit? cs = some u) :
    ∃ pos, (s.run ('\\' :: 'u' :: cs)).mode = .text (w.unit u pos) ∧
      (s.run ('\\' :: 'u' :: cs)).tokens = s.tokens := by
  have hx := h
  unfold hexUnit? at h
  split at h
  · next hmap =>
    simp only [List.map_eq_cons_iff, List.map_eq_nil_iff] at hmap
    obtain ⟨a, _, rfl, ha, b, _, rfl, hb, c, _, rfl, hc, d, _, rfl, hd, rfl⟩ := hmap
    have ha' := utf8Size_of_hexDigit? ha
    have hb' := utf8Size_of_hexDigit? hb
    have hc' := utf8Size_of_hexDigit? hc
    have hd' := utf8Size_of_hexDigit? hd
    have hthree : (s.run ['\\', 'u', a, b, c]).mode = .hex w [a, b, c] ∧
        (s.run ['\\', 'u', a, b, c]).tokens = s.tokens := by
      simp [step, hs, text, escape, hex, ha', hb', hc']
    refine ⟨((s.run ['\\', 'u', a, b, c]).take d).here.back 0, ?_⟩
    rw [show ['\\', 'u', a, b, c, d] = ['\\', 'u', a, b, c] ++ [d] from rfl, run_append, run_cons,
      run_nil, step, hthree.1, ← hthree.2]
    simp [hex, ha', hb', hc', hd', hx]
  · cases h

/-- One piece of a string read. -/
lemma run_piece {s : Scan} {w : Spelling} (hw : w.Sound) (hs : s.mode = .text w) {p : Piece}
    {cs : List Char} (hp : p.Written cs) :
    ∃ w', w'.Sound ∧ (∀ ps, w'.reads ps = w.reads (p :: ps)) ∧
      (s.run cs).mode = .text w' ∧ (s.run cs).tokens = s.tokens := by
  have hpush (c : Char) (pos : Position) : ((w.unpaired pos).push c).Sound := by
    have h : ((w.unpaired pos).push c).lead = none := w.lead_unpaired pos
    simp [Spelling.Sound, h]
  cases hp with
  | @plain c hquote hslash hc =>
    refine ⟨_, hpush _ (s.here.afterByte c), Spelling.reads_push hw _ _, ?_⟩
    simp [step, hs, text, hquote, hslash, Nat.not_lt.2 hc]
  | @letter e c he =>
    have hu : e ≠ 'u' := by
      rintro rfl
      cases he
    refine ⟨_, hpush c ((s.take '\\').here.afterByte e), Spelling.reads_push hw _ _, ?_⟩
    simp [step, hs, text, escape, hu, he]
  | unit hx =>
    obtain ⟨pos, hrun⟩ := run_unit hs hx
    exact ⟨_, w.sound_unit _ pos, Spelling.reads_unit hw _ _, hrun⟩

lemma run_pieces {s : Scan} {w : Spelling} (hw : w.Sound) (hs : s.mode = .text w)
    {ps : List Piece} {cs : List Char} (h : PiecesWritten ps cs) :
    ∃ w', w'.Sound ∧ w'.reads [] = w.reads ps ∧
      (s.run cs).mode = .text w' ∧ (s.run cs).tokens = s.tokens := by
  induction h generalizing s w with
  | nil => exact ⟨w, hw, rfl, hs, rfl⟩
  | cons hp _ ih =>
    obtain ⟨w₁, hw₁, hreads₁, hmode₁, htokens₁⟩ := run_piece hw hs hp
    obtain ⟨w₂, hw₂, hreads₂, hmode₂, htokens₂⟩ := ih hw₁ hmode₁
    rw [run_append]
    exact ⟨w₂, hw₂, hreads₂.trans (hreads₁ _), hmode₂, htokens₂.trans htokens₁⟩

lemma takes_string {s : Scan} (hs : s.mode = .ready) {ps : List Piece} {w : List Char}
    (h : PiecesWritten ps w) (cs : List Char) :
    s.Takes ('"' :: w ++ ['"']) (.string ((Piece.text? ps).map String.ofList)) cs := by
  let s₁ : Scan := { s.take '"' with start := s.here, mode := .text .empty }
  have hb : s.step '"' = s₁ := by simp [step, hs, begin, start?, s₁]
  obtain ⟨x, hx, hreads, hmode, htokens⟩ :=
    run_pieces (s := s₁) (w := .empty) (by simp [Spelling.Sound, Spelling.empty]) rfl h
  let x' := x.unpaired ((s₁.run w).here.afterByte '"')
  refine ⟨((s₁.run w).take '"').emit (.string x'.literal), _, rfl, ?_, congrArg _ htokens, ?_⟩
  · have hempty : Spelling.empty.reads ps = (Piece.text? ps).map String.ofList := by
      simp [Spelling.reads, Spelling.empty]
    rw [Token.sign?, Lexeme.sign?, Spelling.literal_unpaired hx, hreads, hempty]
  · have hq : (s₁.run w).step '"' = ((s₁.run w).take '"').emit (.string x'.literal) := by
      simp [step, hmode, text, x']
    simp only [List.cons_append, List.append_assoc, run_cons, run_append, hb, List.nil_append, hq]

/-! ### Numbers -/

lemma isDigit_of_digit? {c : Char} {d : Nat} (h : digit? c = some d) :
    c.isDigit ∧ digitValue c = d := by
  simp only [digit?] at h
  split at h
  · next hc =>
    simp only [Bool.and_eq_true, decide_eq_true_eq] at hc
    have hdigit : c.isDigit := by
      simp only [Char.isDigit, Bool.and_eq_true, decide_eq_true_eq]
      exact hc
    exact ⟨hdigit, Option.some.inj h⟩
  · cases h

lemma eq_zero_of_digit? {c : Char} (h : digit? c = some 0) : c = '0' := by
  obtain ⟨hc, hzero⟩ := isDigit_of_digit? h
  rw [← digitChar_digitValue hc, hzero]
  rfl

lemma step_digit {s : Scan} (hs : s.mode = .ready) {c : Char} {d : Nat} (hd : digit? c = some d)
    (h0 : d ≠ 0) :
    s.step c =
      { s.take c with start := s.here, mode := .number .whole ⟨false, [d], none, none⟩ } := by
  have hlist : ∀ k < 10, k.digitChar ∈ ['0', '1', '2', '3', '4', '5', '6', '7', '8', '9'] := by
    decide
  obtain ⟨hc, rfl⟩ := isDigit_of_digit? hd
  have hmem := hlist _ (digitValue_lt hc)
  have hne : c ≠ '0' := by
    rintro rfl
    exact h0 rfl
  rw [digitChar_digitValue hc] at hmem
  simp only [List.mem_cons, List.not_mem_nil, or_false, hne, false_or] at hmem
  rcases hmem with rfl | rfl | rfl | rfl | rfl | rfl | rfl | rfl | rfl <;>
    simp [step, hs, begin, start?, digit?, digitValue]

/-- From the scan `s`, the characters `w` lead to the number `n` at the stage `st`. -/
def Counts (s : Scan) (w : List Char) (st : Stage) (n : Numeral) : Prop :=
  (s.run w).mode = .number st n ∧ (s.run w).tokens = s.tokens

lemma Counts.append {s : Scan} {w w' : List Char} {st st' : Stage} {n n' : Numeral}
    (h : s.Counts w st n) (h' : (s.run w).Counts w' st' n') : s.Counts (w ++ w') st' n' := by
  rw [Counts, run_append]
  exact ⟨h'.1, h'.2.trans h.2⟩

lemma counts_more {s : Scan} {st st' : Stage} {n n' : Numeral} {c : Char}
    (hs : s.mode = .number st n) (h : st.turn n c = .more st' n') : s.Counts [c] st' n' := by
  simp [Counts, step, hs, number, h]

/-- Digits that follow each other at one stage. -/
lemma counts_digits (st : Stage) (add : Numeral → Nat → Numeral)
    (hturn : ∀ n c d, digit? c = some d → st.turn n c = .more st (add n d)) {ds : List Nat}
    {cs : List Char} (h : cs.map digit? = ds.map some) {s : Scan} {n : Numeral}
    (hs : s.mode = .number st n) : s.Counts cs st (ds.foldl add n) := by
  induction ds generalizing cs s n with
  | nil =>
    obtain rfl := List.map_eq_nil_iff.1 h
    exact ⟨hs, rfl⟩
  | cons d ds ih =>
    obtain ⟨c, cs, rfl, hc, hcs⟩ := List.map_eq_cons_iff.1 h
    have hfirst := counts_more hs (hturn n c d hc)
    exact hfirst.append (ih hcs hfirst.1)

/-- Digits the first of which leads to another stage. -/
lemma counts_digits_after (st st' : Stage) (add : Numeral → Nat → Numeral)
    (hfirst : ∀ n c d, digit? c = some d → st.turn n c = .more st' (add n d))
    (hturn : ∀ n c d, digit? c = some d → st'.turn n c = .more st' (add n d)) {ds : List Nat}
    {cs : List Char} (h : Digits ds cs) {s : Scan} {n : Numeral} (hs : s.mode = .number st n) :
    s.Counts cs st' (ds.foldl add n) := by
  obtain ⟨hmap, hne⟩ := h
  obtain ⟨d, ds, rfl⟩ := List.exists_cons_of_ne_nil hne
  obtain ⟨c, cs, rfl, hc, hcs⟩ := List.map_eq_cons_iff.1 hmap
  have hcount := counts_more hs (hfirst n c d hc)
  exact hcount.append (counts_digits st' add hturn hcs hcount.1)

lemma foldl_addWhole (n : Numeral) (ds : List Nat) :
    ds.foldl addWhole n = { n with whole := n.whole ++ ds } := by
  induction ds generalizing n with
  | nil => simp
  | cons d ds ih => simp [ih, addWhole]

lemma foldl_addPlace (n : Numeral) {ds : List Nat} (hds : ds ≠ []) :
    ds.foldl addPlace n = { n with fraction := some (n.fraction.getD [] ++ ds) } := by
  induction ds generalizing n with
  | nil => contradiction
  | cons d ds ih =>
    rcases ds with _ | ⟨d', ds⟩
    · rfl
    · rw [List.foldl_cons, ih _ (by simp)]
      simp [addPlace]

lemma foldl_addPower {n : Numeral} {negative : Bool} {e : List Nat}
    (hn : n.exponent = some (negative, e)) (ds : List Nat) :
    ds.foldl addPower n = { n with exponent := some (negative, e ++ ds) } := by
  induction ds generalizing n e with
  | nil => simp [← hn]
  | cons d ds ih =>
    rw [List.foldl_cons, ih (e := e ++ [d]) (by simp [addPower, hn])]
    simp [addPower]

/-- The sign and the digits before the point. -/
lemma counts_whole {s : Scan} (hs : s.mode = .ready) (negative : Bool) {ds : List Nat}
    {cs : List Char} (hd : Digits ds cs) (hzero : ds.head? = some 0 → ds = [0]) :
    ∃ st, (st = .zero ∨ st = .whole) ∧
      s.Counts (signChars negative ++ cs) st ⟨negative, ds, none, none⟩ := by
  obtain ⟨hmap, hne⟩ := hd
  obtain ⟨d, ds, rfl⟩ := List.exists_cons_of_ne_nil hne
  obtain ⟨c, cs, rfl, hc, hcs⟩ := List.map_eq_cons_iff.1 hmap
  -- the first digit decides the stage: nothing follows a zero
  have hfirst : ∃ st, (st = .zero ∧ ds = [] ∨ st = .whole) ∧
      s.Counts (signChars negative ++ [c]) st ⟨negative, [d], none, none⟩ := by
    by_cases h0 : d = 0
    · subst h0
      obtain rfl := eq_zero_of_digit? hc
      refine ⟨.zero, .inl ⟨rfl, by simpa using hzero rfl⟩, ?_⟩
      cases negative <;> simp [Counts, signChars, step, hs, begin, start?, number, Stage.turn, hc,
        addWhole]
    · refine ⟨.whole, .inr rfl, ?_⟩
      cases negative with
      | false => simp [Counts, signChars, step_digit hs hc h0]
      | true =>
        have hturn (n : Numeral) : Stage.turn .sign n c = .more .whole (addWhole n d) := by
          obtain _ | d := d
          · contradiction
          · simp [Stage.turn, hc]
        simp [Counts, signChars, step, hs, begin, start?, number, hturn, addWhole]
  obtain ⟨st, hst, hcount⟩ := hfirst
  rw [show signChars negative ++ c :: cs = (signChars negative ++ [c]) ++ cs by simp]
  obtain ⟨rfl, rfl⟩ | rfl := hst
  · obtain rfl := List.map_eq_nil_iff.1 hcs
    exact ⟨.zero, .inl rfl, by simpa using hcount⟩
  · have hmore := counts_digits .whole addWhole
      (fun n c d hcd => by simp [Stage.turn, hcd]) hcs hcount.1
    rw [foldl_addWhole] at hmore
    exact ⟨.whole, .inr rfl, hcount.append hmore⟩

lemma counts_fraction {s : Scan} {st : Stage} {n : Numeral} (hs : s.mode = .number st n)
    (hst : st = .zero ∨ st = .whole) (hn : n.fraction = none) {fraction : Option (List Nat)}
    {cs : List Char} (h : FractionSpelled fraction cs) :
    ∃ st', (st' = .zero ∨ st' = .whole ∨ st' = .fraction) ∧
      s.Counts cs st' { n with fraction := fraction } := by
  cases h with
  | none =>
    refine ⟨st, by grind, ?_⟩
    rw [← hn]
    exact ⟨hs, rfl⟩
  | @some ds cs hd =>
    have hturn : st.turn n '.' = .more .point n := by
      rcases hst with rfl | rfl <;> simp [Stage.turn, afterWhole, digit?]
    have hpoint := counts_more hs hturn
    have hplaces := counts_digits_after .point .fraction addPlace
      (fun n c d hcd => by simp [Stage.turn, hcd]) (fun n c d hcd => by simp [Stage.turn, hcd])
      hd hpoint.1
    rw [foldl_addPlace _ hd.2, hn] at hplaces
    exact ⟨.fraction, by simp, hpoint.append hplaces⟩

lemma counts_exponent {s : Scan} {st : Stage} {n : Numeral} (hs : s.mode = .number st n)
    (hst : st = .zero ∨ st = .whole ∨ st = .fraction) (hn : n.exponent = none)
    {exponent : Option (Bool × List Nat)} {cs : List Char} (h : ExponentSpelled exponent cs) :
    ∃ st', st'.isFinal ∧ s.Counts cs st' { n with exponent := exponent } := by
  have hmark {e : Char} (he : e = 'e' ∨ e = 'E') :
      st.turn n e = .more .mark (signPower n false) := by
    rcases he with rfl | rfl <;> rcases hst with rfl | rfl | rfl <;>
      simp [Stage.turn, afterWhole, digit?]
  cases h with
  | none =>
    refine ⟨st, by rcases hst with rfl | rfl | rfl <;> rfl, ?_⟩
    rw [← hn]
    exact ⟨hs, rfl⟩
  | @some negative mark ds cs hm hd =>
    -- the mark, with or without a sign, and the digits behind it
    have hsigned : ∃ st', (st' = .mark ∨ st' = .markSign) ∧
        s.Counts mark st' (signPower n negative) := by
      cases hm with
      | plain he => exact ⟨.mark, .inl rfl, counts_more hs (hmark he)⟩
      | plus he =>
        have h := counts_more hs (hmark he)
        exact ⟨.markSign, .inr rfl, h.append (counts_more h.1 (by simp [Stage.turn, digit?]))⟩
      | minus he =>
        have h := counts_more hs (hmark he)
        refine ⟨.markSign, .inr rfl, h.append (counts_more h.1 ?_)⟩
        simp [Stage.turn, digit?, signPower]
    obtain ⟨st', hst', hcount⟩ := hsigned
    have hpowers := counts_digits_after st' .exponent addPower
      (fun n c d hcd => by rcases hst' with rfl | rfl <;> simp [Stage.turn, hcd])
      (fun n c d hcd => by simp [Stage.turn, hcd]) hd hcount.1
    rw [foldl_addPower (n := signPower n negative) rfl] at hpowers
    exact ⟨.exponent, rfl, hcount.append hpowers⟩

/-- A number ends where the text does and before what cannot continue it. -/
lemma finish_number {s : Scan} {st : Stage} {n : Numeral} (hs : s.mode = .number st n)
    (hst : st.isFinal) {cs : List Char} (hd : Delimited cs) :
    (s.run cs).finish = ((s.emit (.number n)).run cs).finish := by
  cases cs with
  | nil => simp [finish, hs, hst, emit]
  | cons c cs =>
    obtain ⟨hdig, hpoint, he, hE⟩ := hd c rfl
    have hturn : st.turn n c = .over := by
      cases st <;> first | contradiction | simp [Stage.turn, hdig, afterWhole]
    simp [step, hs, number, hturn, emit]

lemma takes_number {s : Scan} (hs : s.mode = .ready) {n : Numeral}
    {whole fraction exponent : List Char} (hn : n.Spelled whole fraction exponent)
    {cs : List Char} (hd : Delimited cs) :
    s.Takes (signChars n.negative ++ whole ++ fraction ++ exponent) (.number n) cs := by
  obtain ⟨st₁, hst₁, h₁⟩ := counts_whole hs n.negative hn.whole hn.zero
  obtain ⟨st₂, hst₂, h₂⟩ := counts_fraction h₁.1 hst₁ rfl hn.fraction
  obtain ⟨st₃, hst₃, h₃⟩ := counts_exponent (h₁.append h₂).1 hst₂ rfl hn.exponent
  obtain ⟨hmode, htokens⟩ := (h₁.append h₂).append h₃
  refine ⟨emit _ (.number n), _, rfl, rfl, congrArg _ htokens, ?_⟩
  rw [run_append, finish_number hmode hst₃ hd]

/-! ### Whole texts -/

/-- A bracket, a separator or a word. -/
lemma takes_mark {s : Scan} {w : List Char} {l : Lexeme} {g : Sign} (hl : l.sign? = some g)
    (h : (s.run w).mode = .ready ∧
      (s.run w).tokens = ⟨l, ⟨s.here, (s.run w).here⟩⟩ :: s.tokens) (cs : List Char) :
    s.Takes w g cs :=
  ⟨s.run w, ⟨l, _⟩, h.1, hl, h.2, by rw [run_append]⟩

lemma takes_written {s : Scan} (hs : s.mode = .ready) {g : Sign} {w cs : List Char}
    (hw : g.Written w) (hd : ∀ n, g = .number n → Delimited cs) : s.Takes w g cs := by
  cases hw with
  | openList => exact takes_mark (l := .openList) rfl (by simp [step, hs, begin, emit]) cs
  | closeList => exact takes_mark (l := .closeList) rfl (by simp [step, hs, begin, emit]) cs
  | openObject => exact takes_mark (l := .openObject) rfl (by simp [step, hs, begin, emit]) cs
  | closeObject => exact takes_mark (l := .closeObject) rfl (by simp [step, hs, begin, emit]) cs
  | comma => exact takes_mark (l := .comma) rfl (by simp [step, hs, begin, emit]) cs
  | colon => exact takes_mark (l := .colon) rfl (by simp [step, hs, begin, emit]) cs
  | null =>
    exact takes_mark (l := .null) rfl (by simp [step, hs, begin, start?, emit, word]) cs
  | true =>
    exact takes_mark (l := .bool true) rfl (by simp [step, hs, begin, start?, emit, word]) cs
  | false =>
    exact takes_mark (l := .bool false) rfl (by simp [step, hs, begin, start?, emit, word]) cs
  | number h => exact takes_number hs h (hd _ rfl)
  | string h => exact takes_string hs h cs

lemma step_blank {s : Scan} (hs : s.mode = .ready) {c : Char} (hc : isBlank c) :
    (s.step c).mode = .ready ∧ (s.step c).tokens = s.tokens := by
  simp only [isBlank, Bool.or_eq_true, decide_eq_true_eq] at hc
  rcases hc with ((rfl | rfl) | rfl) | rfl <;> simp [step, hs, begin]

/-- A scan that stands between two tokens finds the signs that the rest spells. -/
lemma exists_finish {cs : List Char} {gs : List Sign} (h : Spells cs gs) {s : Scan}
    (hs : s.mode = .ready) :
    ∃ ts span, ts.map Token.sign? = gs.map some ∧
      (s.run cs).finish = s.tokens.reverse ++ ts ++ [⟨.ending, span⟩] := by
  induction h generalizing s with
  | done => exact ⟨[], ⟨s.here, s.here⟩, rfl, by simp [finish, hs]⟩
  | blank hc _ ih =>
    obtain ⟨hmode, htokens⟩ := step_blank hs hc
    obtain ⟨ts, span, hts, hfinish⟩ := ih hmode
    exact ⟨ts, span, hts, by rw [run_cons, hfinish, htokens]⟩
  | sign hw hd _ ih =>
    obtain ⟨s', t, hmode, ht, htokens, hrun⟩ := takes_written hs hw hd
    obtain ⟨ts, span, hts, hfinish⟩ := ih hmode
    refine ⟨t :: ts, span, by simp [ht, hts], ?_⟩
    rw [hrun, hfinish, htokens]
    simp

end Scan

/-- **Scanning**: the scan of a text finds the signs it spells, and then the end. -/
theorem exists_scan_of_spells {cs : List Char} {gs : List Sign} (h : Spells cs gs) :
    ∃ ts span, ts.map Token.sign? = gs.map some ∧ Token.scan cs = ts ++ [⟨.ending, span⟩] :=
  Scan.exists_finish h rfl

end MethodAudit.Json
