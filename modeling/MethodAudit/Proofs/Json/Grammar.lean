import Mathlib.Data.List.Basic
import MethodAudit.Json.Spelling
import MethodAudit.Json.Value

/-!
The texts that spell a JSON value.

A value is taken here as its text gives it: numbers as they are written, in range or not, and
strings that may hold a surrogate escape without its partner. A text spells a value if it
consists of the written forms of its signs, with blanks between them as one likes; only a number
has to end before a character that would continue it. The texts that values are written as, on
one line or indented, spell them.
-/

namespace MethodAudit.Json

/-- A value as its text gives it. A string is `none` if one of its surrogate escapes stands for
no character. -/
inductive Raw
  | null
  | bool (b : Bool)
  | number (n : Numeral)
  | string (s : Option String)
  | list (items : List Raw)
  | object (members : List (Option String × Raw))

mutual

/-- A value whose strings are all in order. -/
def raw : Json → Raw
  | .null => .null
  | .bool b => .bool b
  | .number n => .number n
  | .string s => .string (some s)
  | .list vs => .list (rawItems vs)
  | .object ms => .object (rawMembers ms)

def rawItems : List Json → List Raw
  | [] => []
  | v :: vs => raw v :: rawItems vs

def rawMembers : List (String × Json) → List (Option String × Raw)
  | [] => []
  | (k, v) :: ms => (some k, raw v) :: rawMembers ms

end

lemma rawItems_eq_map (vs : List Json) : rawItems vs = vs.map raw := by
  induction vs with
  | nil => rfl
  | cons v vs ih => rw [rawItems, ih, List.map_cons]

lemma rawMembers_eq_map (ms : List (String × Json)) :
    rawMembers ms = ms.map fun m => (some m.1, m.2.raw) := by
  induction ms with
  | nil => rfl
  | cons m ms ih => rw [rawMembers, ih, List.map_cons]

/-! ### Signs -/

/-- The signs that a text consists of. -/
inductive Sign
  | openList
  | closeList
  | openObject
  | closeObject
  | comma
  | colon
  | null
  | bool (b : Bool)
  | number (n : Numeral)
  | string (s : Option String)

mutual

/-- The signs of a value. -/
def Raw.signs : Raw → List Sign
  | .null => [.null]
  | .bool b => [.bool b]
  | .number n => [.number n]
  | .string s => [.string s]
  | .list [] => [.openList, .closeList]
  | .list (v :: vs) => .openList :: v.signs ++ Raw.itemSigns vs ++ [.closeList]
  | .object [] => [.openObject, .closeObject]
  | .object ((k, v) :: ms) =>
    .openObject :: .string k :: .colon :: v.signs ++ Raw.memberSigns ms ++ [.closeObject]

def Raw.itemSigns : List Raw → List Sign
  | [] => []
  | v :: vs => .comma :: v.signs ++ Raw.itemSigns vs

def Raw.memberSigns : List (Option String × Raw) → List Sign
  | [] => []
  | (k, v) :: ms => .comma :: .string k :: .colon :: v.signs ++ Raw.memberSigns ms

end

/-! ### Written numbers -/

/-- Digits, at least one, and their characters. -/
def Digits (ds : List Nat) (cs : List Char) : Prop := cs.map digit? = ds.map some ∧ ds ≠ []

inductive FractionSpelled : Option (List Nat) → List Char → Prop
  | none : FractionSpelled none []
  | some {ds cs} (h : Digits ds cs) : FractionSpelled (some ds) ('.' :: cs)

/-- The mark of an exponent and its sign, `true` if it is negative. -/
inductive MarkSpelled : Bool → List Char → Prop
  | plain {e} (he : e = 'e' ∨ e = 'E') : MarkSpelled false [e]
  | plus {e} (he : e = 'e' ∨ e = 'E') : MarkSpelled false [e, '+']
  | minus {e} (he : e = 'e' ∨ e = 'E') : MarkSpelled true [e, '-']

inductive ExponentSpelled : Option (Bool × List Nat) → List Char → Prop
  | none : ExponentSpelled none []
  | some {negative mark ds cs} (hm : MarkSpelled negative mark) (h : Digits ds cs) :
      ExponentSpelled (some (negative, ds)) (mark ++ cs)

/-- A number and its characters. No zero stands before other digits of the whole part. -/
structure Numeral.Spelled (n : Numeral) (whole fraction exponent : List Char) : Prop where
  whole : Digits n.whole whole
  zero : n.whole.head? = some 0 → n.whole = [0]
  fraction : FractionSpelled n.fraction fraction
  exponent : ExponentSpelled n.exponent exponent

def signChars (negative : Bool) : List Char := if negative then ['-'] else []

/-! ### Written strings -/

/-- A piece of a string: a character, or a UTF-16 unit given by its number. -/
inductive Piece
  | char (c : Char)
  | unit (u : Nat)

inductive Piece.Written : Piece → List Char → Prop
  | plain {c : Char} (hquote : c ≠ '"') (hslash : c ≠ '\\') (hc : 0x20 ≤ c.toNat) :
      Written (.char c) [c]
  | letter {e c : Char} (h : unescape? e = some c) : Written (.char c) ['\\', e]
  | unit {cs : List Char} {u : Nat} (h : hexUnit? cs = some u) :
      Written (.unit u) ('\\' :: 'u' :: cs)

inductive PiecesWritten : List Piece → List Char → Prop
  | nil : PiecesWritten [] []
  | cons {p w ps cs} (hp : p.Written w) (h : PiecesWritten ps cs) :
      PiecesWritten (p :: ps) (w ++ cs)

def isLead (u : Nat) : Bool := 0xD800 ≤ u && u ≤ 0xDBFF

def isTrail (u : Nat) : Bool := 0xDC00 ≤ u && u ≤ 0xDFFF

/-- The character that two surrogates stand for. -/
def paired (lead trail : Nat) : Char :=
  Char.ofNat ((lead - 0xD800) * 0x400 + (trail - 0xDC00) + 0x10000)

/-- The characters that pieces stand for, if every surrogate among them has its partner. -/
def Piece.text? : List Piece → Option (List Char)
  | [] => some []
  | .char c :: ps => (text? ps).map (c :: ·)
  | .unit u :: ps =>
    if isTrail u then none
    else if isLead u then
      match ps with
      | .unit t :: ps => if isTrail t then (text? ps).map (paired u t :: ·) else none
      | _ => none
    else (text? ps).map (Char.ofNat u :: ·)

lemma Piece.text?_unit {u : Nat} (htrail : isTrail u = false) (hlead : isLead u = false)
    (ps : List Piece) : text? (.unit u :: ps) = (text? ps).map (Char.ofNat u :: ·) := by
  rw [text?.eq_def]
  simp [htrail, hlead]

/-! ### Written signs -/

/-- The characters that stand for a sign. -/
inductive Sign.Written : Sign → List Char → Prop
  | openList : Written .openList ['[']
  | closeList : Written .closeList [']']
  | openObject : Written .openObject ['\x7b']
  | closeObject : Written .closeObject ['\x7d']
  | comma : Written .comma [',']
  | colon : Written .colon [':']
  | null : Written .null ['n', 'u', 'l', 'l']
  | true : Written (.bool true) ['t', 'r', 'u', 'e']
  | false : Written (.bool false) ['f', 'a', 'l', 's', 'e']
  | number {n whole fraction exponent} (h : n.Spelled whole fraction exponent) :
      Written (.number n) (signChars n.negative ++ whole ++ fraction ++ exponent)
  | string {ps cs} (h : PiecesWritten ps cs) :
      Written (.string ((Piece.text? ps).map String.ofList)) ('"' :: cs ++ ['"'])

/-- No number goes on with these characters. -/
def Delimited (cs : List Char) : Prop :=
  ∀ c ∈ cs.head?, digit? c = none ∧ c ≠ '.' ∧ c ≠ 'e' ∧ c ≠ 'E'

def isBlank (c : Char) : Bool := c = ' ' || c = '\n' || c = '\t' || c = '\r'

/-- A text made of the written forms of signs, with blanks between them. -/
inductive Spells : List Char → List Sign → Prop
  | done : Spells [] []
  | blank {c cs gs} (hc : isBlank c) (h : Spells cs gs) : Spells (c :: cs) gs
  | sign {g w cs gs} (hw : g.Written w) (hd : ∀ n, g = .number n → Delimited cs)
      (h : Spells cs gs) : Spells (w ++ cs) (g :: gs)

/-! ### Natural numbers -/

/-- A digit by its value. -/
def digitValue (c : Char) : Nat := c.toNat - '0'.toNat

lemma bounds_of_isDigit {c : Char} (hc : c.isDigit) : '0' ≤ c ∧ c ≤ '9' := by
  simp only [Char.isDigit, Bool.and_eq_true, decide_eq_true_eq] at hc
  exact hc

lemma digit?_of_isDigit {c : Char} (hc : c.isDigit) : digit? c = some (digitValue c) := by
  obtain ⟨h0, h9⟩ := bounds_of_isDigit hc
  simp [digit?, digitValue, h0, h9]

lemma digitValue_lt {c : Char} (hc : c.isDigit) : digitValue c < 10 := by
  have h9 : c.toNat ≤ '9'.toNat := UInt32.le_iff_toNat_le.1 (bounds_of_isDigit hc).2
  have : '9'.toNat = '0'.toNat + 9 := rfl
  rw [digitValue]
  omega

lemma digitChar_digitValue {c : Char} (hc : c.isDigit) : (digitValue c).digitChar = c := by
  have hchar : ∀ k < 10, Nat.digitChar k = Char.ofNat (k + '0'.toNat) := by decide
  have h0 : '0'.toNat ≤ c.toNat := UInt32.le_iff_toNat_le.1 (bounds_of_isDigit hc).1
  rw [hchar _ (digitValue_lt hc), digitValue, Nat.sub_add_cancel h0, Char.ofNat_toNat]

lemma isDigit_of_mem_toDigits {n : Nat} {c : Char} (hc : c ∈ Nat.toDigits 10 n) : c.isDigit :=
  Nat.isDigit_of_mem_toDigits (by omega) (by omega) hc

lemma chars_ofNat (n : Nat) : (Numeral.ofNat n).chars = Nat.toDigits 10 n := by
  have h : digitChars (Numeral.ofNat n).whole = Nat.toDigits 10 n := by
    rw [digitChars, Numeral.ofNat, List.map_map]
    calc _ = (Nat.toDigits 10 n).map id :=
          List.map_congr_left fun c hc => digitChar_digitValue (isDigit_of_mem_toDigits hc)
      _ = _ := List.map_id _
  simpa [Numeral.chars, Numeral.ofNat] using h

/-- A natural number above zero starts with another digit than zero. -/
lemma head?_toDigits_ne_zero {n : Nat} (hn : 0 < n) : (Nat.toDigits 10 n).head? ≠ some '0' := by
  induction n using Nat.strongRecOn with
  | _ n ih =>
    rcases Nat.lt_or_ge n 10 with hlt | hge
    · have hdigit : ∀ k < 10, 0 < k → k.digitChar ≠ '0' := by decide
      simpa [Nat.toDigits_of_lt_base hlt] using hdigit n hlt hn
    · rw [Nat.toDigits_of_base_le (by omega) hge, List.head?_append_of_ne_nil _ Nat.toDigits_ne_nil]
      exact ih _ (by omega) (by omega)

lemma spelled_ofNat (n : Nat) : (Numeral.ofNat n).Spelled (Nat.toDigits 10 n) [] [] where
  whole := by
    refine ⟨?_, by simp [Numeral.ofNat]⟩
    rw [Numeral.ofNat, List.map_map]
    exact List.map_congr_left fun c hc => digit?_of_isDigit (isDigit_of_mem_toDigits hc)
  zero h := by
    rcases Nat.eq_zero_or_pos n with rfl | hn
    · rfl
    · rw [Numeral.ofNat, List.head?_map, Option.map_eq_some_iff] at h
      obtain ⟨c, hc, hzero⟩ := h
      have hdigit := isDigit_of_mem_toDigits (List.mem_of_head? hc)
      have hchar : c = '0' := by rw [← digitChar_digitValue hdigit, digitValue, hzero]; rfl
      exact absurd (hchar ▸ hc) (head?_toDigits_ne_zero hn)
  fraction := .none
  exponent := .none

lemma Sign.Written.ofNat (n : Nat) :
    (Sign.number (.ofNat n)).Written (Numeral.ofNat n).chars := by
  have h := Sign.Written.number (spelled_ofNat n)
  rw [List.append_nil, List.append_nil] at h
  exact chars_ofNat n ▸ h

/-! ### Escaped strings -/

lemma hexUnit?_control : ∀ n < 32,
    hexUnit? ['0', '0', hexDigit (n / 16), hexDigit (n % 16)] = some n := by
  decide

/-- Whatever its escape, a character is written as itself. -/
lemma exists_written_escapeChar (c : Char) : ∃ p : Piece, p.Written (escapeChar c) ∧
    ∀ ps, Piece.text? (p :: ps) = (Piece.text? ps).map (c :: ·) := by
  unfold escapeChar
  split
  -- the seven characters with an escape of one letter
  iterate 7 exact ⟨.char _, .letter rfl, fun _ => rfl⟩
  -- a control character, or a character that stands for itself
  next hquote hslash _ _ _ _ _ =>
    split
    · next hc =>
      refine ⟨.unit c.toNat, .unit (hexUnit?_control _ hc), fun ps => ?_⟩
      have htrail : isTrail c.toNat = false := by simp [isTrail]; omega
      have hlead : isLead c.toNat = false := by simp [isLead]; omega
      rw [Piece.text?_unit htrail hlead, Char.ofNat_toNat]
    · next hc => exact ⟨.char c, .plain hquote hslash (by omega), fun _ => rfl⟩

lemma exists_written_escaped (cs : List Char) :
    ∃ ps, PiecesWritten ps (cs.flatMap escapeChar) ∧ Piece.text? ps = some cs := by
  induction cs with
  | nil => exact ⟨[], .nil, rfl⟩
  | cons c cs ih =>
    obtain ⟨p, hp, htext⟩ := exists_written_escapeChar c
    obtain ⟨ps, hps, hcs⟩ := ih
    exact ⟨p :: ps, .cons hp hps, by rw [htext, hcs]; rfl⟩

lemma Sign.Written.text (s : String) : (Sign.string (some s)).Written (stringChars s) := by
  obtain ⟨ps, hps, htext⟩ := exists_written_escaped s.toList
  have h := Sign.Written.string hps
  rwa [htext, Option.map_some, String.ofList_toList] at h

/-! ### The layout of a value -/

mutual

/-- Every number in a value is a natural one. -/
def Natural : Json → Prop
  | .number n => ∃ k, n = .ofNat k
  | .list vs => NaturalItems vs
  | .object ms => NaturalMembers ms
  | _ => True

def NaturalItems : List Json → Prop
  | [] => True
  | v :: vs => Natural v ∧ NaturalItems vs

def NaturalMembers : List (String × Json) → Prop
  | [] => True
  | (_, v) :: ms => Natural v ∧ NaturalMembers ms

end

lemma naturalItems_iff {vs : List Json} : NaturalItems vs ↔ ∀ v ∈ vs, v.Natural := by
  induction vs with
  | nil => simp [NaturalItems]
  | cons v vs ih => simp [NaturalItems, ih]

lemma naturalMembers_iff {ms : List (String × Json)} :
    NaturalMembers ms ↔ ∀ m ∈ ms, m.2.Natural := by
  induction ms with
  | nil => simp [NaturalMembers]
  | cons m ms ih => simp [NaturalMembers, ih]

lemma natural_nat (n : Nat) : (Json.nat n).Natural := ⟨n, rfl⟩

lemma naturalMembers_append {ms ms' : List (String × Json)} (h : NaturalMembers ms)
    (h' : NaturalMembers ms') : NaturalMembers (ms ++ ms') := by
  rw [naturalMembers_iff] at *
  simp only [List.mem_append]
  rintro m (hm | hm)
  · exact h m hm
  · exact h' m hm

lemma natural_string (s : String) : (Json.string s).Natural := trivial

lemma natural_optional {enc : α → Json} (h : ∀ a, (enc a).Natural) (o : Option α) :
    (Json.optional enc o).Natural := by
  cases o with
  | none => trivial
  | some a => exact h a

lemma natural_list {enc : α → Json} (h : ∀ a, (enc a).Natural) (xs : List α) :
    (Json.list (xs.map enc)).Natural := by
  simpa [Natural, naturalItems_iff] using fun a _ => h a

lemma Spells.mark {g : Sign} {w cs : List Char} {gs : List Sign} (hw : g.Written w)
    (hg : ∀ n, g ≠ .number n) (h : Spells cs gs) : Spells (w ++ cs) (g :: gs) :=
  .sign hw (fun n hn => absurd hn (hg n)) h

lemma Spells.text (s : String) {cs : List Char} {gs : List Sign} (h : Spells cs gs) :
    Spells (stringChars s ++ cs) (.string (some s) :: gs) :=
  .mark (.text s) nofun h

lemma Spells.breakLine (level : Nat) {cs : List Char} {gs : List Sign} (h : Spells cs gs) :
    Spells (breakLine level ++ cs) gs := by
  refine .blank rfl ?_
  induction 2 * level with
  | zero => exact h
  | succ k ih => exact .blank rfl ih

lemma delimited_breakLine (level : Nat) (cs : List Char) : Delimited (breakLine level ++ cs) := by
  simp [Delimited, Json.breakLine, digit?]

lemma delimited_indentedItems (level : Nat) (vs : List Json) {cs : List Char} (h : Delimited cs) :
    Delimited (indentedItems level vs ++ cs) := by
  cases vs with
  | nil => exact h
  | cons v vs => simp [Delimited, indentedItems, digit?]

lemma delimited_indentedMembers (level : Nat) (ms : List (String × Json)) {cs : List Char}
    (h : Delimited cs) : Delimited (indentedMembers level ms ++ cs) := by
  cases ms with
  | nil => exact h
  | cons m ms => simp [Delimited, indentedMembers, digit?]

mutual

/-- The indented text of a value spells it, before whatever may follow a value. -/
theorem spells_indented (level : Nat) : (v : Json) → v.Natural → ∀ {cs : List Char}
    {gs : List Sign}, Delimited cs → Spells cs gs →
      Spells (v.indented level ++ cs) (v.raw.signs ++ gs)
  | .null, _, _, _, _, h => .mark .null nofun h
  | .bool true, _, _, _, _, h => .mark .true nofun h
  | .bool false, _, _, _, _, h => .mark .false nofun h
  | .number _, ⟨k, hk⟩, _, _, hd, h => hk ▸ .sign (.ofNat k) (fun _ _ => hd) h
  | .string s, _, _, _, _, h => .text s h
  | .list [], _, _, _, _, h => .mark (w := ['[']) .openList nofun (.mark .closeList nofun h)
  | .list (v :: vs), ⟨hv, hvs⟩, cs, gs, _, h => by
    have hend : Spells (breakLine level ++ ']' :: cs) (.closeList :: gs) :=
      .breakLine level (.mark .closeList nofun h)
    have hdel := delimited_breakLine level (']' :: cs)
    have hitems := spells_indentedItems level vs hvs hdel hend
    have hvalue := spells_indented (level + 1) v hv (delimited_indentedItems level vs hdel) hitems
    simpa [indented, raw, rawItems, Raw.signs] using
      Spells.mark .openList nofun (.breakLine (level + 1) hvalue)
  | .object [], _, _, _, _, h =>
    .mark (w := ['\x7b']) .openObject nofun (.mark .closeObject nofun h)
  | .object ((k, v) :: ms), ⟨hv, hms⟩, cs, gs, _, h => by
    have hend : Spells (breakLine level ++ '\x7d' :: cs) (.closeObject :: gs) :=
      .breakLine level (.mark .closeObject nofun h)
    have hdel := delimited_breakLine level ('\x7d' :: cs)
    have hmembers := spells_indentedMembers level ms hms hdel hend
    have hvalue :=
      spells_indented (level + 1) v hv (delimited_indentedMembers level ms hdel) hmembers
    have hmember := Spells.text k (.mark .colon nofun (.blank (c := ' ') rfl hvalue))
    simpa [indented, raw, rawMembers, Raw.signs] using
      Spells.mark .openObject nofun (.breakLine (level + 1) hmember)

theorem spells_indentedItems (level : Nat) : (vs : List Json) → NaturalItems vs →
    ∀ {cs : List Char} {gs : List Sign}, Delimited cs → Spells cs gs →
      Spells (indentedItems level vs ++ cs) (Raw.itemSigns (rawItems vs) ++ gs)
  | [], _, _, _, _, h => h
  | v :: vs, ⟨hv, hvs⟩, cs, gs, hd, h => by
    have hitems := spells_indentedItems level vs hvs hd h
    have hvalue := spells_indented (level + 1) v hv (delimited_indentedItems level vs hd) hitems
    simpa [indentedItems, rawItems, Raw.itemSigns] using
      Spells.mark .comma nofun (.breakLine (level + 1) hvalue)

theorem spells_indentedMembers (level : Nat) : (ms : List (String × Json)) → NaturalMembers ms →
    ∀ {cs : List Char} {gs : List Sign}, Delimited cs → Spells cs gs →
      Spells (indentedMembers level ms ++ cs) (Raw.memberSigns (rawMembers ms) ++ gs)
  | [], _, _, _, _, h => h
  | (k, v) :: ms, ⟨hv, hms⟩, cs, gs, hd, h => by
    have hmembers := spells_indentedMembers level ms hms hd h
    have hvalue :=
      spells_indented (level + 1) v hv (delimited_indentedMembers level ms hd) hmembers
    have hmember := Spells.text k (.mark .colon nofun (.blank (c := ' ') rfl hvalue))
    simpa [indentedMembers, rawMembers, Raw.memberSigns] using
      Spells.mark .comma nofun (.breakLine (level + 1) hmember)

end

lemma spells_pretty {v : Json} (hv : v.Natural) : Spells v.pretty.toList v.raw.signs := by
  have h := spells_indented 0 v hv (show Delimited [] by simp [Delimited]) .done
  simpa [pretty] using h

/-! ### On one line -/

lemma delimited_itemChars (vs : List Json) {cs : List Char} (h : Delimited cs) :
    Delimited (itemChars vs ++ cs) := by
  cases vs with
  | nil => exact h
  | cons v vs => simp [Delimited, itemChars, digit?]

lemma delimited_memberChars (ms : List (String × Json)) {cs : List Char} (h : Delimited cs) :
    Delimited (memberChars ms ++ cs) := by
  cases ms with
  | nil => exact h
  | cons m ms => simp [Delimited, memberChars, digit?]

lemma delimited_closeList (cs : List Char) : Delimited (']' :: cs) := by
  simp [Delimited, digit?]

lemma delimited_closeObject (cs : List Char) : Delimited ('\x7d' :: cs) := by
  simp [Delimited, digit?]

mutual

/-- The text of a value on one line spells it as well. -/
theorem spells_chars : (v : Json) → v.Natural → ∀ {cs : List Char} {gs : List Sign},
    Delimited cs → Spells cs gs → Spells (v.chars ++ cs) (v.raw.signs ++ gs)
  | .null, _, _, _, _, h => .mark .null nofun h
  | .bool true, _, _, _, _, h => .mark .true nofun h
  | .bool false, _, _, _, _, h => .mark .false nofun h
  | .number _, ⟨k, hk⟩, _, _, hd, h => hk ▸ .sign (.ofNat k) (fun _ _ => hd) h
  | .string s, _, _, _, _, h => .text s h
  | .list [], _, _, _, _, h => .mark (w := ['[']) .openList nofun (.mark .closeList nofun h)
  | .list (v :: vs), ⟨hv, hvs⟩, cs, gs, _, h => by
    have hdel := delimited_closeList cs
    have hitems := spells_itemChars vs hvs hdel (.mark .closeList nofun h)
    have hvalue := spells_chars v hv (delimited_itemChars vs hdel) hitems
    simpa [chars, raw, rawItems, Raw.signs] using Spells.mark .openList nofun hvalue
  | .object [], _, _, _, _, h =>
    .mark (w := ['\x7b']) .openObject nofun (.mark .closeObject nofun h)
  | .object ((k, v) :: ms), ⟨hv, hms⟩, cs, gs, _, h => by
    have hdel := delimited_closeObject cs
    have hmembers := spells_memberChars ms hms hdel (.mark .closeObject nofun h)
    have hvalue := spells_chars v hv (delimited_memberChars ms hdel) hmembers
    simpa [chars, raw, rawMembers, Raw.signs] using
      Spells.mark .openObject nofun (.text k (.mark .colon nofun hvalue))

theorem spells_itemChars : (vs : List Json) → NaturalItems vs → ∀ {cs : List Char}
    {gs : List Sign}, Delimited cs → Spells cs gs →
      Spells (itemChars vs ++ cs) (Raw.itemSigns (rawItems vs) ++ gs)
  | [], _, _, _, _, h => h
  | v :: vs, ⟨hv, hvs⟩, cs, gs, hd, h => by
    have hitems := spells_itemChars vs hvs hd h
    have hvalue := spells_chars v hv (delimited_itemChars vs hd) hitems
    simpa [itemChars, rawItems, Raw.itemSigns] using Spells.mark .comma nofun hvalue

theorem spells_memberChars : (ms : List (String × Json)) → NaturalMembers ms →
    ∀ {cs : List Char} {gs : List Sign}, Delimited cs → Spells cs gs →
      Spells (memberChars ms ++ cs) (Raw.memberSigns (rawMembers ms) ++ gs)
  | [], _, _, _, _, h => h
  | (k, v) :: ms, ⟨hv, hms⟩, cs, gs, hd, h => by
    have hmembers := spells_memberChars ms hms hd h
    have hvalue := spells_chars v hv (delimited_memberChars ms hd) hmembers
    simpa [memberChars, rawMembers, Raw.memberSigns] using
      Spells.mark .comma nofun (.text k (.mark .colon nofun hvalue))

end

lemma spells_compact {v : Json} (hv : v.Natural) : Spells v.compact.toList v.raw.signs := by
  have h := spells_chars v hv (show Delimited [] by simp [Delimited]) .done
  simpa [compact] using h

end MethodAudit.Json
