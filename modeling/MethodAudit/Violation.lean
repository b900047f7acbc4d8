import MethodAudit.Dump.Writer
import MethodAudit.Json.Decoder
import MethodAudit.Verdict

/-!
Violations: where a rule found something, and what it says about it.
-/

namespace MethodAudit

/-- The place of a method or property: its file, the title of what holds it, its name. -/
structure Location where
  file : String
  container : String
  method : Method
  line : Option UInt32
  deriving DecidableEq, Repr

namespace Location

def symbol (l : Location) : String := l.method.symbol l.container

/-- The place on one line, as patterns are matched against it. -/
def text (l : Location) : String :=
  match l.line with
  | some line => l.file ++ ":" ++ toString line.toNat ++ " " ++ l.symbol
  | none => l.file ++ " " ++ l.symbol

def ofMethod (file : String) (i : Implementation) (d : MethodDef) : Location :=
  ⟨file, i.title, d.method, d.line⟩

def ofProperty (file container : String) (p : Property) : Location :=
  ⟨file, container, ⟨p.name, false⟩, p.line⟩

def toJson (l : Location) : Json :=
  .object [
    ("file", .string l.file),
    ("container", .string l.container),
    ("selector", .string l.method.selector),
    ("class_method", .bool l.method.classMethod),
    ("line", .line l.line)]

end Location

/-- The verdict is there if the violation is about a method. -/
structure Violation where
  rule : String
  priority : UInt8
  category : String
  location : Location
  message : String
  verdict : Option Verdict
  deriving DecidableEq, Repr

namespace Violation

def toJson (v : Violation) : Json :=
  .object ([
    ("rule", .string v.rule),
    ("priority", .nat v.priority.toNat),
    ("category", .string v.category),
    ("location", v.location.toJson),
    ("message", .string v.message)] ++
    v.verdict.toList.map fun verdict => ("verdict", .string verdict.name))

end Violation

namespace Reader

open Json.Decoder

def verdictNames : List (String × Verdict) :=
  [("used_public", .usedPublic), ("used_internal", .usedInternal),
    ("possibly_used", .possiblyUsed), ("unused", .unused)]

def locationSchema : Schema Location where
  name := "Location"
  blank := ⟨"", "", ⟨"", false⟩, none⟩
  fields := [
    .of "file" string fun v r => { r with file := v },
    .of "container" string fun v r => { r with container := v },
    .of "selector" string fun v r => { r with method := { r.method with selector := v } },
    .opt "class_method" bool fun v r => { r with method := { r.method with classMethod := v } },
    .opt "line" (optional u32) fun v r => { r with line := v }]

def violationSchema : Schema Violation where
  name := "Violation"
  blank := ⟨"", 0, "", locationSchema.blank, "", none⟩
  fields := [
    .of "rule" string fun v r => { r with rule := v },
    .of "priority" u8 fun v r => { r with priority := v },
    .of "category" string fun v r => { r with category := v },
    .of "location" locationSchema.decode fun v r => { r with location := v },
    .of "message" string fun v r => { r with message := v },
    .opt "verdict" (optional (variant verdictNames)) fun v r => { r with verdict := v }]

end Reader

def Violation.parse (text : String) : Except Json.Fault Violation :=
  Json.decode Reader.violationSchema.decode .limited text

/-- Reads the name of a verdict. -/
def Verdict.parse (text : String) : Except Json.Fault Verdict :=
  Json.decode (Json.Decoder.variant Reader.verdictNames) .limited text

end MethodAudit
