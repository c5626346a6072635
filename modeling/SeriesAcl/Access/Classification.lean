import SeriesAcl.Access.Policy
import SeriesAcl.Access.Template

/-!
# Classification

Which built-in template a list of rows follows. The templates are tried in order, since several of
them share roles and actions; the first one that fits is the answer. See `SPEC_FULL.md`,
section 4.1.
-/

namespace SeriesAcl

/-- A template with its flags, or no template (`SPEC_FULL.md` 4.1, `Classification`). -/
inductive Classification where
  | template (id : Nat) (flags : Flags)
  | custom
  deriving DecidableEq, Repr

namespace Classification

/-- The template of a classification. -/
def template? : Classification → Option Template
  | .template id _ => Template.byId? id
  | .custom => none

/-- Whether the rows follow no template. -/
def isCustom : Classification → Bool
  | .template _ _ => false
  | .custom => true

/-- The flags of a classification. -/
def flags : Classification → Flags
  | .template _ flags => flags
  | .custom => Flags.none

/-- When a template fits: its role has a row, and the first such row passes a test. -/
structure Rule where
  id : Nat
  role : Option String
  holds : Policy → Bool

/-- The rules in the order in which they are tried, for callers of an organization
(`SPEC_FULL.md` 4.1). Without one the organization template never fits. -/
def rules (org : Option String) : List Rule :=
  [⟨1, some Role.anonymous, fun p ↦ p.hasAction Action.castDiscover⟩,
    ⟨2, some Role.federationMember, fun p ↦ p.hasAction Action.castView⟩,
    ⟨3, org.map Role.orgMember, fun p ↦ p.hasAction Action.castView⟩,
    ⟨4, some Role.privateMember, fun p ↦ p.hasAction Action.castView⟩,
    ⟨5, some Role.externalApplication, fun p ↦ p.read && p.write⟩,
    ⟨6, some Role.anonymous, fun p ↦ !p.hasAction Action.castDiscover⟩]

/-- The row that a rule finds, if it passes the test. -/
def Rule.match? (rule : Rule) (rows : List Policy) : Option Policy := do
  let role ← rule.role
  let row ← Policy.find? rows role
  if rule.holds row then some row else none

/-- The flags that a row shows (`SPEC_FULL.md` 4.1). -/
def flagsOf (row : Policy) : Flags :=
  ⟨row.hasAction Action.castDownload, row.hasAction Action.castAnnotate⟩

/-- The template that a list of rows follows (`SPEC_FULL.md` 4.1, `classify`). -/
def classify (rows : List Policy) (org : Option String) : Classification :=
  match (rules org).findSome? fun rule ↦ (rule.match? rows).map fun row ↦ (rule.id, row) with
  | some (id, row) => .template id (flagsOf row)
  | none => .custom

/-- The record of a classification. -/
def toJson : Classification → Json
  | .template id flags =>
    .object [("kind", .string "template"), ("template_id", .ofNat id),
      ("allow_download", .bool flags.download), ("allow_annotate", .bool flags.annotate)]
  | .custom => .object [("kind", .string "custom")]

end Classification

end SeriesAcl
