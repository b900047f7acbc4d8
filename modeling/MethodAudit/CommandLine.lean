import MethodAudit.Event
import MethodAudit.Settings

/-!
The command line: its arguments, and what a run with them prints and leaves behind.
-/

namespace MethodAudit

structure Options where
  path : String
  json : Bool
  ignore : List String
  rules : List String
  noCache : Bool
  listRules : Bool
  jobs : Option Nat
  deriving DecidableEq, Repr

/-- What the arguments ask for; `misused` if they make no sense. -/
inductive Invocation
  | run (options : Options)
  | version
  | help
  | misused
  deriving DecidableEq, Repr

/-- The arguments so far. -/
structure Arguments where
  path : Option String := none
  json : Bool := false
  ignore : List String := []
  rules : List String := []
  noCache : Bool := false
  listRules : Bool := false
  jobs : Option Nat := none

namespace Arguments

def options (a : Arguments) : Options :=
  ⟨a.path.getD ".", a.json, a.ignore, a.rules, a.noCache, a.listRules, a.jobs⟩

/-- A number of at most 64 bits; a plus may stand in front. -/
def readCount (s : String) : Option Nat :=
  let cs := match s.toList with
    | '+' :: rest => rest
    | cs => cs
  let n := cs.foldl (fun n c => 10 * n + (c.toNat - '0'.toNat)) 0
  if cs.isEmpty || !cs.all Char.isDigit || 0x10000000000000000 ≤ n then none else some n

/-- Only one path can be given. -/
def addPath (a : Arguments) (s : String) : Option Arguments :=
  if a.path.isSome then none else some { a with path := some s }

/-- Switches something on that is off. -/
def addSwitch (a : Arguments) : String → Option Arguments
  | "json" => if a.json then none else some { a with json := true }
  | "no-cache" => if a.noCache then none else some { a with noCache := true }
  | "list-rules" => if a.listRules then none else some { a with listRules := true }
  | _ => none

def takesValue (name : String) : Bool := ["ignore", "rule", "jobs"].contains name

def addValue (a : Arguments) (name value : String) : Option Arguments :=
  match name with
  | "ignore" => some { a with ignore := a.ignore ++ [value] }
  | "rule" => some { a with rules := a.rules ++ [value] }
  | "jobs" =>
    match a.jobs, readCount value with
    | none, some n => some { a with jobs := some n }
    | _, _ => none
  | _ => none

/-- The name of an option and the value written after an equals sign. -/
def splitLong (s : String) : String × Option String :=
  let cs := s.toList.drop 2
  let name := String.ofList (cs.takeWhile (· ≠ '='))
  match cs.dropWhile (· ≠ '=') with
  | [] => (name, none)
  | _ :: value => (name, some (String.ofList value))

/-- An argument that starts with a hyphen is no value, a hyphen alone is one. -/
def isOption (s : String) : Bool := s.startsWith "-" && s ≠ "-"

/-- Reads arguments in order; the first that decides what is asked for wins. After two hyphens
alone, all are paths. -/
def read (a : Arguments) (plain : Bool) : List String → Invocation
  | [] => .run a.options
  | s :: rest =>
    if plain || !isOption s then
      match a.addPath s with
      | some a => a.read plain rest
      | none => .misused
    else if s = "--" then a.read true rest
    else if s.startsWith "--" then
      match splitLong s with
      | ("help", none) => .help
      | ("version", none) => .version
      | (name, some value) =>
        match a.addValue name value with
        | some a => a.read plain rest
        | none => .misused
      | (name, none) =>
        if takesValue name then
          match rest with
          | [] => .misused
          | value :: rest =>
            if isOption value then .misused
            else match a.addValue name value with
              | some a => a.read plain rest
              | none => .misused
        else match a.addSwitch name with
          | some a => a.read plain rest
          | none => .misused
    else match s.toList.drop 1 with
      | 'h' :: _ => .help
      | 'V' :: _ => .version
      | _ => .misused

end Arguments

def Invocation.parse (args : List String) : Invocation := Arguments.read {} false args

/-- What the program prints and leaves: its exit code, the text of its report, the error it
ends with, its log, and the tree. -/
structure Finish where
  exit : UInt32
  output : String
  error : Option String
  events : List Event
  tree : FileTree

namespace Finish

def quiet (t : FileTree) (exit : UInt32) (output : String) : Finish := ⟨exit, output, none, [], t⟩

/-- Ends with an error. -/
def failed (t : FileTree) (message : String) (events : List Event) : Finish :=
  ⟨2, "", some message, events ++ [⟨.error, [("detail", .string message)]⟩], t⟩

end Finish

namespace Options

/-- What is asked for, with the settings of the file: patterns add up, and rules given here
replace those there. -/
def request (o : Options) (s : Option Settings) : Request where
  root := ⟨o.path⟩
  useCache := !o.noCache && (s.bind (·.cache)).getD true
  rules := if o.rules.isEmpty then (s.bind (·.rules)).getD [] else o.rules
  exclude := []
  ignore := (s.bind (·.ignore)).getD [] ++ o.ignore

def wantsJson (o : Options) (s : Option Settings) : Bool := o.json || s.any (·.wantsJson)

/-- The line about a rule. -/
def ruleLine (r : Rule) : String :=
  r.name ++ String.ofList (List.replicate (20 - r.name.length) ' ') ++ " P" ++
    toString r.priority.toNat ++ "  " ++ r.category ++ "\n"

/-- The message of a refusal, with what is wrong with a pattern. -/
def refusalText (path : String) (r : Refusal) : String :=
  let detail := match r with
    | .pattern text why => ": " ++ why.message text
    | _ => ""
  "Analysis of " ++ path ++ " failed: " ++ r.message ++ detail

def skippedEvent (d : Skipped) : Event :=
  ⟨.warn, [("event", .string "SKIPPED"), ("detail", .string (d.path ++ ": " ++ d.reason))]⟩

def execute (stamp : Stamp) (t : FileTree) (o : Options) : Finish :=
  if o.jobs = some 0 then .failed t "--jobs must be at least 1" []
  else match Settings.load t ⟨o.path⟩ with
    | .error f => .failed t f.report []
    | .ok settings =>
      let request := o.request settings
      let run := request.run stamp t
      let events := Event.ofRun (Cache.path t request.root) run
      match run.summary with
      | .error refusal => .failed run.tree (refusalText o.path refusal) events
      | .ok s =>
        { exit := if s.hasViolations then 1 else 0
          output := if o.wantsJson settings then s.json else s.plain
          error := none
          events := events ++ s.skipped.map skippedEvent
          tree := run.tree }

end Options

def versionLine : String := "deadsel-cli 0.1.0\n"

/-- The program: its arguments and the files it finds decide everything. -/
def Invocation.execute (stamp : Stamp) (t : FileTree) : Invocation → Finish
  | .version => .quiet t 0 versionLine
  | .help => .quiet t 0 ""
  | .misused => .quiet t 2 ""
  | .run o =>
    if o.listRules then .quiet t 0 (String.join (Rule.all.map Options.ruleLine))
    else o.execute stamp t

end MethodAudit
