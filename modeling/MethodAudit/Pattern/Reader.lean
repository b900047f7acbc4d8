import MethodAudit.Pattern.Bracket
import MethodAudit.Text.Trait

/-!
Reading patterns. The reader goes through the text once, with a stack of the groups that are
open.
-/

namespace MethodAudit.Pattern

/-- Forms one after the other, newest first, and where they start. -/
structure Row where
  first : Place
  forms : List Form

namespace Row

def start (c : Cursor) : Row := ⟨c.place, []⟩

def add (r : Row) (f : Form) : Row := { r with forms := f :: r.forms }

/-- The row as one form that ends here. -/
def form (r : Row) (c : Cursor) : Form :=
  match r.forms with
  | [] => .empty (c.since r.first)
  | [f] => f
  | fs => .seq (c.since r.first) fs.reverse

end Row

/-- The alternatives before the current one, newest first, and where they start. -/
abbrev Alternatives := Option (Place × List Form)

/-- A group being read: its opening, whether blanks count around it, the alternatives before the
current one, and that one. -/
structure Group where
  opening : Span
  kind : GroupKind
  outerVerbose : Bool
  alternatives : Alternatives
  row : Row

/-- What a row is with the alternatives before it. -/
def Row.whole (r : Row) (before : Alternatives) (c : Cursor) : Form :=
  match before with
  | none => r.form c
  | some (first, fs) => .alt (c.since first) (r.form c :: fs).reverse

/-- The number of groups so far that capture, their names, the groups that are open, and the
alternatives and the row of the innermost of them. -/
structure Reading where
  verbose : Bool
  captures : Nat
  names : List (List Char × Span)
  groups : List Group
  alternatives : Alternatives
  row : Row

namespace Reading

def start (c : Cursor) : Reading := ⟨false, 0, [], [], none, .start c⟩

def add (r : Reading) (f : Form) : Reading := { r with row := r.row.add f }

/-- Goes on with the next alternative. -/
def divide (r : Reading) (c : Cursor) : Reading :=
  let (first, fs) := r.alternatives.getD (r.row.first, [])
  { r with alternatives := some (first, r.row.form c :: fs), row := .start c.next }

/-- Opens a group whose content starts here. -/
def push (r : Reading) (opening : Span) (kind : GroupKind) (verbose : Bool) (c : Cursor) :
    Reading :=
  { r with
    verbose
    groups := ⟨opening, kind, r.verbose, r.alternatives, r.row⟩ :: r.groups
    alternatives := none
    row := .start c }

/-- Opens a group that captures. -/
def pushCapture (r : Reading) (opening : Span) (c : Cursor) : Reading :=
  { r with captures := r.captures + 1 }.push opening (.capture (r.captures + 1)) r.verbose c

/-- Closes the innermost group. -/
def pop (r : Reading) (c : Cursor) : Except Fault Reading :=
  match r.groups with
  | [] => .error ⟨.groupUnopened, c.char, none⟩
  | g :: groups =>
    let f := r.row.whole r.alternatives c
    .ok { r with
      verbose := g.outerVerbose
      groups
      alternatives := g.alternatives
      row := g.row.add (.group ⟨g.opening.first, c.next.place⟩ g.kind f) }

/-- The whole pattern. -/
def finish (r : Reading) (c : Cursor) : Except Fault Form :=
  match r.groups with
  | [] => .ok (r.row.whole r.alternatives c)
  | g :: _ => .error ⟨.groupUnclosed, g.opening, none⟩

end Reading

/-! ### Names of groups -/

/-- Letters of an edition later than that of the tables. -/
def laterLetters : String :=
  "88f c5c cdc a7ce-a7cf a7d2 a7d4 a7f1 10940-10959 10ec5-10ec7 10efa-10efb 11b60-11b67
   11db0-11ddb 16ea0-16eb8 16ebb-16ed3 16ff2-16ff6 187f8-187ff 18d09-18d1e 18d80-18df2
   1e6c0-1e6de 1e6e0-1e6f5 1e6fe-1e6ff 2b73a-2b73f 2cea2-2cead 323b0-33479"

/-- Numbers of an edition later than that of the tables. -/
def laterNumbers : String := "11de0-11de9 16ff4-16ff6"

/-- The letters of names. -/
def nameLetters : CharSet := Text.Recipe.alphabetic.set.union (Text.charsOf laterLetters)

/-- The numbers of names. -/
def nameNumbers : CharSet :=
  (Text.inCategories ["nd", "nl", "no"]).union (Text.charsOf laterNumbers)

/-- What a name may start with. -/
def startsName (c : Char) : Bool := c = '_' || nameLetters.mem c

/-- What may stand in a name after its first character. -/
def continuesName (c : Char) : Bool :=
  startsName c || c = '.' || c = '[' || c = ']' || nameNumbers.mem c

/-- The letters of a name, from the first on. -/
def readNameChars (c : Cursor) : List Char × Cursor :=
  match c.rest with
  | x :: _ =>
    if startsName x then
      let (xs, c) := c.next.takeWhile false continuesName
      (x :: xs, c)
    else ([], c)
  | [] => ([], c)

/-- A name up to the angle that ends it. -/
def readGroupName (r : Reading) (opening : Span) (c : Cursor) :
    Except Fault (Reading × Cursor) :=
  let (name, stop) := readNameChars c
  let span := stop.since c.place
  match stop.rest with
  | [] => .error ⟨.nameCutOff, stop.here, none⟩
  | '>' :: _ =>
    if name.isEmpty then .error ⟨.nameEmpty, c.here, none⟩
    else match r.names.lookup name with
      | some earlier => .error ⟨.nameTwice, span, some earlier⟩
      | none =>
        let r := { r with names := (name, span) :: r.names }
        return (r.pushCapture opening stop.next, stop.next)
  | _ => .error ⟨.nameCharacter, stop.char, none⟩

/-! ### Flags -/

def flagLetters : List Char := ['i', 'm', 's', 'U', 'u', 'R', 'x']

/-- Flags so far, newest first, with the span of each; a hyphen is one of them. -/
abbrev FlagMarks := List (Char × Span)

/-- Adds a flag, which must not be there already. -/
def addFlag (marks : FlagMarks) (x : Char) (span : Span) : Except Fault FlagMarks :=
  if !flagLetters.contains x && x ≠ '-' then .error ⟨.flagUnknown, span, none⟩
  else match marks.lookup x with
    | none => .ok ((x, span) :: marks)
    | some earlier =>
      .error ⟨if x = '-' then .flagNegatedTwice else .flagTwice, span, some earlier⟩

/-- Reads flags up to a colon or a closing parenthesis; the number bounds how many. -/
def readFlagMarks : Nat → FlagMarks → Cursor → Except Fault (FlagMarks × Cursor)
  | 0, _, c => .error ⟨.flagCutOff, c.here, none⟩
  | n + 1, marks, c =>
    match c.rest with
    | [] => .error ⟨.flagCutOff, c.here, none⟩
    | x :: _ =>
      if x = ':' || x = ')' then
        match marks with
        | ('-', span) :: _ => .error ⟨.flagDangling, span, none⟩
        | _ => return (marks, c)
      else do readFlagMarks n (← addFlag marks x c.char) c.next

/-- What flags change: after the hyphen they are switched off. -/
def flagChange (marks : FlagMarks) : FlagChange :=
  let letters := marks.reverse.map Prod.fst
  (letters.takeWhile (· ≠ '-')).map (·, true) ++
    ((letters.dropWhile (· ≠ '-')).drop 1).map (·, false)

/-- Reads what follows a parenthesis and a question mark: flags for a group or for what
follows. -/
def readFlagged (r : Reading) (opening mark : Span) (c : Cursor) :
    Except Fault (Reading × Cursor) := do
  if c.rest.isEmpty then .error ⟨.groupUnclosed, opening, none⟩
  let (marks, c) ← readFlagMarks (c.rest.length + 1) [] c
  let change := flagChange marks
  let verbose := (change.lookup 'x').getD r.verbose
  if c.rest.head? = some ':' then
    return (r.push opening (.plain change) verbose c.next, c.next)
  else if marks.isEmpty then .error ⟨.nothingToRepeat, mark, none⟩
  else
    let span := c.next.since opening.first
    return ({ r with verbose }.add (.flags span change), c.next)

/-! ### Groups -/

def lookArounds : List (List Char) := [['?', '='], ['?', '!'], ['?', '<', '='], ['?', '<', '!']]

/-- Reads the opening of a group. -/
def readGroup (r : Reading) (c : Cursor) : Except Fault (Reading × Cursor) :=
  let opening := c.char
  let c := c.advance r.verbose
  match lookArounds.findSome? (Cursor.after? · c) with
  | some stop => .error ⟨.lookAround, stop.since opening.first, none⟩
  | none =>
    match (c.after? ['?', 'P', '<']).or (c.after? ['?', '<']), c.after? ['?'] with
    | some name, _ => readGroupName r opening name
    | none, some flags => readFlagged r opening c.here flags
    | none, none => return (r.pushCapture opening c, c)

/-! ### Repetitions -/

/-- Takes the last item off, which is to be repeated. -/
def popRepeated (r : Reading) (c : Cursor) : Except Fault (Form × Reading) :=
  match r.row.forms with
  | [] | .empty _ :: _ | .flags _ _ :: _ => .error ⟨.nothingToRepeat, c.here, none⟩
  | f :: forms => .ok (f, { r with row := { r.row with forms } })

/-- Repeats an item; the repetition ends here. -/
def Reading.addRepeated (r : Reading) (f : Form) (least : Nat) (most : Option Nat)
    (greedy : Bool) (c : Cursor) : Reading :=
  r.add (.repeated (c.since f.span.first) f least most greedy)

/-- A question mark after a repetition asks for as little as possible. -/
def readGreedy (c : Cursor) : Bool × Cursor :=
  if c.rest.head? = some '?' then (false, c.next) else (true, c)

/-- Reads a repetition written by one character. -/
def readRepetition (r : Reading) (least : Nat) (most : Option Nat) (c : Cursor) :
    Except Fault (Reading × Cursor) := do
  let (f, r) ← popRepeated r c
  let (greedy, c) := readGreedy c.next
  return (r.addRepeated f least most greedy c, c)

/-- Goes past blanks, and past what does not count after each. -/
def skipSpaces (verbose : Bool) (c : Cursor) : Cursor := (c.takeWhile verbose Text.isSpace).2

/-- A number with blanks around it, as far as it is one, and where it stops. -/
def readCount (verbose : Bool) (c : Cursor) : Except Fault Nat × Cursor :=
  let c := skipSpaces false c
  let (digits, stop) := c.takeWhile verbose Char.isDigit
  let n := digits.foldl (fun n d => 10 * n + (d.toNat - '0'.toNat)) 0
  let result :=
    if digits.isEmpty then .error ⟨.countMissing, stop.since c.place, none⟩
    else if 0x100000000 ≤ n then .error ⟨.countTooLarge, stop.since c.place, none⟩
    else .ok n
  (result, skipSpaces verbose stop)

/-- The bounds of a repetition, up to the brace that closes them. `first` is where they
start. -/
def readBounds (verbose : Bool) (first : Place) (c : Cursor) :
    Except Fault ((Nat × Option Nat) × Cursor) :=
  let unclosed (c : Cursor) : Fault := ⟨.countUnclosed, c.since first, none⟩
  let (least, c) := readCount verbose c
  match c.rest with
  | [] => .error (unclosed c)
  | ',' :: _ =>
    let c := c.advance verbose
    match c.rest with
    | [] => .error (unclosed c)
    | '\x7d' :: _ => do return ((← least, none), c)
    | _ => do
      let least ← least
      let (most, c) := readCount verbose c
      return ((least, some (← most)), c)
  | _ => do
    let least ← least
    return ((least, some least), c)

/-- Reads a repetition with bounds between braces. -/
def readCounted (r : Reading) (c : Cursor) : Except Fault (Reading × Cursor) := do
  let first := c.place
  let (f, r) ← popRepeated r c
  let c := c.advance r.verbose
  if c.rest.isEmpty then .error ⟨.countUnclosed, c.since first, none⟩
  let ((least, most), c) ← readBounds r.verbose first c
  if c.rest.head? ≠ some '\x7d' then .error ⟨.countUnclosed, c.since first, none⟩
  let (greedy, c) := readGreedy (c.advance r.verbose)
  if most.any (· < least) then .error ⟨.countOrder, c.since first, none⟩
  return (r.addRepeated f least most greedy c, c)

/-! ### Patterns -/

/-- Reads one item, group mark or operator. -/
def readItem (r : Reading) (c : Cursor) : Except Fault (Reading × Cursor) :=
  match c.rest with
  | [] => return (r, c)
  | x :: _ =>
    let atom (a : Atom) : Except Fault (Reading × Cursor) := return (r.add (.atom a), c.next)
    match x with
    | '(' => readGroup r c
    | ')' => do return (← r.pop c, c.next)
    | '|' => return (r.divide c, c.next)
    | '[' => do
      let (s, c) ← readSet r.verbose c
      return (r.add (.set s), c)
    | '?' => readRepetition r 0 (some 1) c
    | '*' => readRepetition r 0 none c
    | '+' => readRepetition r 1 none c
    | '\x7b' => readCounted r c
    | '\\' => do
      let (a, c) ← readEscape r.verbose c
      return (r.add (.atom a), c)
    | '.' => atom (.dot c.char)
    | '^' => atom (.anchor c.char .lineStart)
    | '$' => atom (.anchor c.char .lineEnd)
    | x => atom (.literal (plainLiteral c x))

/-- Reads to the end of the text; every round takes at least one character. -/
def readAll : Nat → Reading → Cursor → Except Fault Form
  | 0, r, c => r.finish c
  | n + 1, r, c =>
    let c := c.skip r.verbose
    if c.rest.isEmpty then r.finish c
    else do
      let (r, c) ← readItem r c
      readAll n r c

/-- The form of a pattern; it must not be too deep. -/
def Form.parse (text : String) : Except Fault Form := do
  let c := Cursor.start text
  let f ← readAll (c.rest.length + 1) (.start c) c
  match f.beyond? maxDepth with
  | some span => .error ⟨.tooDeep, span, none⟩
  | none => return f

end MethodAudit.Pattern
