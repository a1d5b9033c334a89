import ListingCrawl.Marketplace

/-! The skills that an agent can be told to use. Each marketplace has one whose pipeline writes the
finished record, and one that takes a snapshot of the page. -/

namespace ListingCrawl

/-- Where the result of a skill's run is found. -/
inductive Reconcile where
  | finalRecord | snapshotPointer
  deriving DecidableEq, Repr

def Reconcile.name : Reconcile → String
  | finalRecord => "final_record"
  | snapshotPointer => "snapshot_pointer"

structure Skill where
  marketplace : Marketplace
  reconcile : Reconcile
  deriving DecidableEq, Repr

namespace Skill

def name (s : Skill) : String :=
  s.marketplace.name ++ match s.reconcile with
    | .finalRecord => "-orchestrator-pipeline"
    | .snapshotPointer => "-page-snapshot"

/-- The skills of a marketplace; the first is used when none is named. -/
def ofMarketplace (m : Marketplace) : List Skill :=
  [⟨m, .finalRecord⟩, ⟨m, .snapshotPointer⟩]

/-- A name that is no skill of the marketplace. -/
structure Unknown where
  marketplace : Marketplace
  found : String
  deriving DecidableEq, Repr

def Unknown.message (u : Unknown) : String :=
  "unsupported " ++ u.marketplace.name ++ " skill " ++ Text.quoted u.found ++ " (supported: " ++
    ", ".intercalate ((ofMarketplace u.marketplace).map name) ++ ")"

/-- The skill of a marketplace that has this name; its pipeline, if there is no name. -/
def resolve (m : Marketplace) (name? : Option String) : Except Unknown Skill :=
  match name?.bind Text.trimmed? with
  | none => .ok ⟨m, .finalRecord⟩
  | some name =>
    match (ofMarketplace m).find? (·.name == name) with
    | some skill => .ok skill
    | none => .error ⟨m, name⟩

end Skill

end ListingCrawl
