import MethodAudit.Digest
import MethodAudit.Report

/-!
The cache of reports: for each dump the digest of its text and the report on it, kept in a
file below the root.
-/

namespace MethodAudit

/-- What a cache was made with. -/
structure CacheInfo where
  version : UInt32
  tool : String
  rules : List String
  createdAt : UInt64
  deriving DecidableEq, Repr

structure CachedUnit where
  digest : String
  report : Report
  deriving DecidableEq, Repr

structure Cache where
  info : CacheInfo
  units : List (String × CachedUnit)
  deriving DecidableEq, Repr

namespace CacheInfo

def currentVersion : UInt32 := 1

def currentTool : String := "0.1.0"

/-- The part of a version before its first dot. -/
def major (version : String) : String := String.ofList (version.toList.takeWhile (· ≠ '.'))

def current (rules : List Rule) (now : UInt64) : CacheInfo :=
  ⟨currentVersion, currentTool, rules.map Rule.name, now⟩

/-- The reports of the cache hold for these rules. -/
def isCompatible (i : CacheInfo) (rules : List Rule) : Bool :=
  i.version = currentVersion && major i.tool = major currentTool && i.rules = rules.map Rule.name

def toJson (i : CacheInfo) : Json :=
  .object [
    ("cache_version", .nat i.version.toNat),
    ("deadsel_version", .string i.tool),
    ("rules", .texts i.rules),
    ("created_at", .nat i.createdAt.toNat)]

end CacheInfo

def CachedUnit.toJson (u : CachedUnit) : Json :=
  .object [("hash", .string u.digest), ("report", u.report.toJson)]

namespace Cache

def toJson (c : Cache) : Json :=
  .object [
    ("metadata", c.info.toJson),
    ("units", .object (c.units.map fun (key, u) => (key, u.toJson)))]

/-- The units by key; a later one replaces an older one. -/
def ofEntries (entries : List (String × CachedUnit)) : List (String × CachedUnit) :=
  entries.foldl (fun units (key, u) => assign key u units) []

def find? (c : Cache) (key : String) : Option CachedUnit := c.units.lookup key

end Cache

namespace Reader

open Json.Decoder

def cacheInfoSchema : Schema CacheInfo where
  name := "CacheMetadata"
  blank := ⟨0, "", [], 0⟩
  fields := [
    .of "cache_version" u32 fun v r => { r with version := v },
    .of "deadsel_version" string fun v r => { r with tool := v },
    .opt "rules" (list string) fun v r => { r with rules := v },
    .opt "created_at" u64 fun v r => { r with createdAt := v }]

def cachedUnitSchema : Schema CachedUnit where
  name := "CachedUnit"
  blank := ⟨"", reportSchema.blank⟩
  fields := [
    .of "hash" string fun v r => { r with digest := v },
    .of "report" reportSchema.decode fun v r => { r with report := v }]

def cacheSchema : Schema Cache where
  name := "DeadselCache"
  blank := ⟨cacheInfoSchema.blank, []⟩
  fields := [
    .opt "metadata" cacheInfoSchema.decode fun v r => { r with info := v },
    .of "units" (map cachedUnitSchema.decode) fun v r => { r with units := Cache.ofEntries v }]

end Reader

def CacheInfo.parse (text : String) : Except Json.Fault CacheInfo :=
  Json.decode Reader.cacheInfoSchema.decode .limited text

def Cache.parse (text : String) : Except Json.Fault Cache :=
  Json.decode Reader.cacheSchema.decode .limited text

namespace Cache

def folderName : String := ".deadsel"

def fileName : String := "cache.json"

/-- The folder that holds the cache of a root: the root, or its parent if it is a file. -/
def base (t : FileTree) (root : Path) : Path :=
  if t.isFile root then root.parent?.getD ⟨"."⟩ else root

def folder (t : FileTree) (root : Path) : Path := (base t root).join folderName

def path (t : FileTree) (root : Path) : Path := (folder t root).join fileName

/-- What is found where the cache should be. -/
inductive Found
  | absent
  | unreadable
  | corrupt (fault : Json.Fault)
  | incompatible (info : CacheInfo)
  | usable (cache : Cache)

def Found.cache? : Found → Option Cache
  | .usable c => some c
  | _ => none

/-- Looks for the cache of a root. -/
def look (t : FileTree) (root : Path) (rules : List Rule) : Found :=
  let p := path t root
  if !t.exists? p then .absent
  else match t.readText p with
    | .error _ => .unreadable
    | .ok text =>
      match Cache.parse text with
      | .error f => .corrupt f
      | .ok c => if c.info.isCompatible rules then .usable c else .incompatible c.info

/-- An incompatible cache is removed. -/
def Found.clear (t : FileTree) (root : Path) : Found → FileTree
  | .incompatible _ => t.discard (path t root)
  | _ => t

/-- Loads the cache of a root; the tree is what is left. -/
def load (t : FileTree) (root : Path) (rules : List Rule) : Option Cache × FileTree :=
  let found := look t root rules
  (found.cache?, found.clear t root)

def text (c : Cache) : String := c.toJson.pretty

/-- The most bytes that the file of a cache may have. -/
def maxSize : Nat := 50000000

def isOversized (c : Cache) : Bool := maxSize < c.toJson.prettySize

/-- Writes a text under another name first and then moves it into place. If that fails the
other name is removed again. -/
def replaceFile (t : FileTree) (folder : Path) (scratch text : String) :
    FileTree × Except Failure Unit :=
  let draft := folder.join (fileName ++ "." ++ scratch)
  let target := folder.join fileName
  match t.write draft text.toUTF8 with
  | .error problem => (t, .error (.io draft problem))
  | .ok written =>
    match written.rename draft target with
    | .ok moved => (moved, .ok ())
    | .error problem => (written.discard draft, .error (.io target problem))

/-- Brings the file of a cache in its folder up to date. A cache that is too large is not kept,
and an older one goes with it. -/
def store (t : FileTree) (folder : Path) (scratch : String) (c : Cache) :
    FileTree × Except Failure Unit :=
  if c.isOversized then (t.discard (folder.join fileName), .ok ())
  else replaceFile t folder scratch c.text

/-- Saves the cache of a root, making its folder first. -/
def save (t : FileTree) (root : Path) (scratch : String) (c : Cache) :
    FileTree × Except Failure Unit :=
  let dir := folder t root
  if t.exists? dir then store t dir scratch c
  else match t.makeFolder dir with
    | (made, none) => store made dir scratch c
    | (made, some problem) => (made, .error (.io dir problem))

end Cache

end MethodAudit
