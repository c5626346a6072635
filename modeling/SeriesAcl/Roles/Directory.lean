import SeriesAcl.Roles.Query

/-!
# The role directory

The roles known so far, fetched from the node a page at a time. At most one fetch is outstanding:
starting another one meanwhile asks for nothing. A fetch ends when its page arrives, or when it is
given up because it failed or nobody waits for it any more. See `SPEC_FULL.md`, sections 5 and 9.1.
-/

namespace SeriesAcl

/-- Where the next page starts. -/
inductive Paging where
  /-- Behind the roles known so far. -/
  | advance
  /-- Always at the first role. -/
  | firstPage
  deriving DecidableEq, Repr

/-- Known roles with their labels (`SPEC_FULL.md` 5, `RoleDirectory`). -/
structure RoleDirectory where
  pageSize : Nat
  paging : Paging
  roles : Dict String
  nextOffset : Nat
  isLoading : Bool

namespace RoleDirectory

/-- How many roles a page has when nothing else is said (`SPEC_FULL.md` 6). -/
def defaultPage : Nat := 100

/-- A directory without roles; a page has at least one role. -/
def make (pageSize : Nat) (paging : Paging) : RoleDirectory :=
  ⟨max 1 pageSize, paging, Dict.empty, 0, false⟩

/-- The number of known roles. -/
def size (d : RoleDirectory) : Nat :=
  d.roles.size

/-- Whether no role is known. -/
def isEmpty (d : RoleDirectory) : Bool :=
  d.roles.isEmpty

/-- Whether a role is known. -/
def contains (d : RoleDirectory) (role : String) : Bool :=
  d.roles.contains role

/-- The query for the next page. -/
def query (d : RoleDirectory) (search : Option String) : RoleQuery :=
  let offset := match d.paging with
    | .advance => d.nextOffset
    | .firstPage => 0
  RoleQuery.make d.pageSize offset search

/-- Start a fetch: the query to send, or none while another fetch is outstanding
(`SPEC_FULL.md` 5). -/
def start (d : RoleDirectory) (search : Option String) : Option RoleQuery × RoleDirectory :=
  if d.isLoading then (none, d) else (some (d.query search), { d with isLoading := true })

/-- The known roles with those of a page. -/
def absorb (roles : Dict String) (page : List RoleEntry) : Dict String :=
  page.foldl (fun roles r ↦ roles.insert r.name r.label) roles

/-- End a fetch with its page (`SPEC_FULL.md` 9.1, `more_roles`). -/
def arrive (d : RoleDirectory) (page : List RoleEntry) : RoleDirectory :=
  let roles := absorb d.roles page
  { d with roles := roles, nextOffset := roles.size, isLoading := false }

/-- End a fetch without a page. -/
def giveUp (d : RoleDirectory) : RoleDirectory :=
  { d with isLoading := false }

/-- Make a role known under its own name unless it is known already. -/
def ensure (d : RoleDirectory) (role : String) : RoleDirectory :=
  if d.contains role then d
  else
    let roles := d.roles.insert role role
    { d with roles := roles, nextOffset := roles.size }

/-- Make several roles known. -/
def ensureAll (d : RoleDirectory) (roles : List String) : RoleDirectory :=
  roles.foldl ensure d

/-- Forget all roles. -/
def clear (d : RoleDirectory) : RoleDirectory :=
  { d with roles := Dict.empty, nextOffset := 0 }

end RoleDirectory

end SeriesAcl
