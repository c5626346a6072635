import SeriesAcl.Access.Document
import SeriesAcl.Catalog.Metadata
import SeriesAcl.Directory.Resource
import SeriesAcl.Feed
import SeriesAcl.Roles.Query

/-!
# The administration node

The calls that a node answers. A node is a type of states with these calls on it, so that an editor
runs in the same way on a node held in memory and on one that is reached over HTTP. A call leaves
the state that it came to, also when it fails. See `SPEC_FULL.md`, section 6.
-/

namespace SeriesAcl

/-- A call on a node: its answer, and the node after it. -/
def Call (σ α : Type) : Type := σ → Except Error α × σ

namespace Call

variable {σ α β : Type}

/-- An answer that asks nothing of the node. -/
protected def pure (a : α) : Call σ α := fun s ↦ (.ok a, s)

/-- A call, and if it succeeds another one that depends on its answer. -/
protected def bind (c : Call σ α) (f : α → Call σ β) : Call σ β := fun s ↦
  match c s with
  | (.ok a, s) => f a s
  | (.error e, s) => (.error e, s)

/-- Calls one after another; a call that fails ends the sequence and leaves the state it came to. -/
instance : Monad (Call σ) where
  pure := Call.pure
  bind := Call.bind

/-- An answer that is decided without the node. -/
def ofExcept (r : Except Error α) : Call σ α := fun s ↦ (r, s)

/-- A call whose failure is an answer like any other. -/
def attempt (c : Call σ α) : Call σ (Except Error α) := fun s ↦
  let (r, s) := c s
  (.ok r, s)

end Call

/-- The themes of a series: the keys are their ids. -/
abbrev SeriesTheme := Dict Json

/-- A node: the calls on its states (`SPEC_FULL.md` 6, `AdminApi`). -/
class AdminNode (σ : Type) where
  /-- The signed-in user. -/
  currentUser : Call σ User
  /-- The access block of a series. -/
  seriesAccess : String → Call σ AccessEnvelope
  /-- Replace the access list of a series. -/
  saveSeriesAccess : String → AccessUpdate → Call σ Unit
  /-- A list managed by the organization. -/
  managedAcl : Int → Call σ ManagedAcl
  /-- A page of roles. -/
  listRoles : RoleQuery → Call σ (List RoleEntry)
  /-- A named resource list. -/
  resourceList : String → Call σ ResourceList
  /-- The user directory. -/
  directoryUsers : Call σ (List UserTag)
  /-- The metadata of a series. -/
  seriesMetadata : String → Call σ Metadata
  /-- Save a metadata catalog of a series. -/
  saveSeriesMetadata : String → Catalog → Call σ Unit
  /-- The themes of a series. -/
  seriesTheme : String → Call σ SeriesTheme
  /-- Give a series a theme. -/
  saveSeriesTheme : String → String → Call σ Unit
  /-- Take the theme of a series away. -/
  deleteSeriesTheme : String → Call σ Unit
  /-- The feeds of the node. -/
  feeds : Call σ (List Feed)

end SeriesAcl
