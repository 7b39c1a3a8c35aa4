import StagedBuilder.Record.Template

/-!
# Addresses

A location such as `https://example.com:8080/path (description)`, of which everything behind the
host may be missing.
-/

namespace StagedBuilder

structure Address where
  protocol : String
  url : String
  port : Option UInt16
  path : Option String
  description : Option String
deriving DecidableEq, Repr

namespace Address

/-- Port, path and description may be left out. -/
def template : Template where
  item := .struct "Address" [
    .of [.bare "into"] "protocol" (.named "String"),
    .of [.bare "into"] "url" (.named "String"),
    .of [] "port" (.applied "Option" (.named "u16")),
    .of [.bare "into"] "path" (.applied "Option" (.named "String")),
    .of [.bare "into"] "description" (.applied "Option" (.named "String"))]
  ofType := fun _ => .absent

/-- The port in a value. -/
def port? : Value → Option (Option UInt16)
  | .absent => some none
  | .present (.number n) => some (some (.ofNat n.toNat))
  | _ => none

def ofValues? : List (Ident × Value) → Option Address
  | [(_, .text protocol), (_, .text url), (_, port), (_, path), (_, description)] => do
    return ⟨protocol, url, ← port? port, ← path.optText?, ← description.optText?⟩
  | _ => none

def build? (route : Route) (calls : List (String × Value)) : Option Address :=
  (template.build? route calls).bind ofValues?

/-- The address as its users are shown it. -/
def display (a : Address) : String :=
  a.protocol ++ a.url ++ (a.port.elim "" fun p => ":" ++ Nat.repr p.toNat) ++ a.path.getD "" ++
    (a.description.elim "" fun d => " (" ++ d ++ ")")

def fields (a : Address) : List (String × Value) :=
  [("protocol", .text a.protocol), ("url", .text a.url),
    ("port", a.port.elim .absent fun p => .present (.number p.toNat)),
    ("path", .ofOptText a.path), ("description", .ofOptText a.description)]

def shown (a : Address) : String := shownRecord "Address" a.fields

/-- An address to try the builder on. -/
def sampleLines : List String :=
  (build? .inherent [("protocol", .text "https://"), ("url", .text "google.com"),
    ("description", .text "Google, what else?")]).toList.map fun a => "google: " ++ a.display

end Address

end StagedBuilder
