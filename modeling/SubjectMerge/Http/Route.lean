import SubjectMerge.Text.Percent
import SubjectMerge.Text.Slashes

/-! Routes: what a method and a path ask for. A path is cut at its slashes first and unescaped after,
so that an id may hold a slash. Unescaping goes in two passes. The first leaves a percent sign, a slash
and a plus sign escaped, and its result is compared with the fixed parts of the routes; the second
turns a part into an id. -/

namespace SubjectMerge.Http

inductive Route where
  | start
  | jobStatus (job : String)
  | summary (campaign : String)
  | finish (campaign : String)
  | eligible (campaign recipient : String)
  | finalize (campaign : String)
  | preview (campaign : String)
  deriving DecidableEq, Repr

def isSchemeChar (c : Char) : Bool := c.isAlphanum || ['+', '-', '.', '~'].contains c

/-- What may come after a host. -/
def endsHost (c : Char) : Bool := c == '/' || c == '?' || c == '#'

/-- The path of a target, without a query or a fragment. A target may name a scheme and a host first. -/
def pathOf (target : String) : List Char :=
  let cs := target.toList
  let path := match cs.dropWhile isSchemeChar with
    | ':' :: '/' :: '/' :: rest => rest.dropWhile fun c => !endsHost c
    | _ => cs
  path.takeWhile fun c => c != '?' && c != '#'

/-- The bytes that the first pass leaves escaped: percent sign, slash and plus sign. -/
def keptEscapes : List UInt8 := [0x25, 0x2f, 0x2b]

/-- The parts of a path after the first pass. -/
def segments (path : List Char) : List String :=
  (Text.slashParts path).map fun part => Text.unescape keptEscapes (String.ofList part)

/-- The id that a part of a path stands for. -/
def idOf (segment : String) : String := Text.unescape [] segment

/-- The route of a method and the parts after the common front of all paths. -/
def Route.ofParts? (method : String) (parts : List String) : Option Route :=
  match method, parts with
  | "POST", ["start"] => some .start
  | "GET", ["preview", "status", job] => some (.jobStatus (idOf job))
  | "GET", [campaign] => some (.summary (idOf campaign))
  | "DELETE", [campaign] => some (.finish (idOf campaign))
  | "POST", [campaign, "recipients", recipient, "eligible"] =>
    some (.eligible (idOf campaign) (idOf recipient))
  | "POST", [campaign, "finalize"] => some (.finalize (idOf campaign))
  | "POST", [campaign, "preview"] => some (.preview (idOf campaign))
  | _, _ => none

/-- No part of a path may be empty, but for the one before the leading slash. -/
def Route.find? (method target : String) : Option Route :=
  match segments (pathOf target) with
  | "" :: "api" :: "campaigns" :: parts =>
    if parts.contains "" then none else Route.ofParts? method parts
  | _ => none

end SubjectMerge.Http
