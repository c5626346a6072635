import SeriesAcl.Admin.Interface
import SeriesAcl.Text.Lowercase

/-!
# A node in memory

A node whose contents are held in memory. Saves are recorded in order and applied, so that later
reads see them. Operations can be made to fail; a failing operation neither records nor changes
anything. See `SPEC_FULL.md`, section 6.
-/

namespace SeriesAcl

/-- The operations of a node, which can be made to fail one by one. -/
inductive Operation where
  | currentUser
  | seriesAccess
  | saveSeriesAccess
  | managedAcl
  | listRoles
  | resourceList
  | directoryUsers
  | seriesMetadata
  | saveSeriesMetadata
  | seriesTheme
  | saveSeriesTheme
  | deleteSeriesTheme
  | feeds
  deriving DecidableEq, Repr

namespace Operation

/-- Every operation. -/
def all : List Operation :=
  [.currentUser, .seriesAccess, .saveSeriesAccess, .managedAcl, .listRoles, .resourceList,
    .directoryUsers, .seriesMetadata, .saveSeriesMetadata, .seriesTheme, .saveSeriesTheme,
    .deleteSeriesTheme, .feeds]

/-- The name of an operation in messages. -/
def name : Operation → String
  | .currentUser => "current_user"
  | .seriesAccess => "series_access"
  | .saveSeriesAccess => "save_series_access"
  | .managedAcl => "managed_acl"
  | .listRoles => "list_roles"
  | .resourceList => "resource_list"
  | .directoryUsers => "switch_users"
  | .seriesMetadata => "series_metadata"
  | .saveSeriesMetadata => "save_series_metadata"
  | .seriesTheme => "series_theme"
  | .saveSeriesTheme => "save_series_theme"
  | .deleteSeriesTheme => "delete_series_theme"
  | .feeds => "feeds"

/-- The operation with a name. -/
def ofName? (name : String) : Option Operation :=
  all.find? fun op ↦ op.name == name

end Operation

/-- The contents of a node in memory, and the record of what was saved and asked
(`SPEC_FULL.md` 6). -/
structure Store where
  user : User
  access : Dict SeriesAccess
  managed : List ManagedAcl
  roles : List RoleEntry
  resources : Dict ResourceList
  users : List UserTag
  metadata : Dict Metadata
  themes : Dict SeriesTheme
  feeds : List Feed
  failing : List Operation
  savedAccess : List (String × AccessUpdate)
  savedMetadata : List (String × Catalog)
  themeChanges : List (String × Option String)
  roleQueries : List RoleQuery

namespace Store

/-- A node without contents. -/
def empty : Store where
  user := User.empty
  access := Dict.empty
  managed := []
  roles := []
  resources := Dict.empty
  users := []
  metadata := Dict.empty
  themes := Dict.empty
  feeds := []
  failing := []
  savedAccess := []
  savedMetadata := []
  themeChanges := []
  roleQueries := []

/-- A call that fails when its operation is made to fail. -/
def guarded {α : Type} (op : Operation) (call : Call Store α) : Call Store α := fun s ↦
  if op ∈ s.failing then (.error (Error.operationFailed op.name), s) else call s

/-- The access list of a series put in its place, with its lock and without privileges. -/
def putList (s : Store) (series : String) (entries : List Entry) (locked : Bool) : Store :=
  { s with
    access := s.access.insert series ⟨(AclDocument.mk entries).toJson, locked, Dict.empty⟩ }

/-- The managed list with an id put in its place. -/
def putManaged (s : Store) (m : ManagedAcl) : Store :=
  { s with managed := s.managed.filter (fun other ↦ other.id ≠ m.id) ++ [m] }

/-- The name that a filter asks for, in lower case: that of its first part for names. -/
def wantedName (filter : String) : Option String :=
  ((Text.splitAtChar ',' filter.toList).findSome? fun part ↦
    Text.after? RoleQuery.nameMark.toList part).map fun name ↦ Text.lower (String.ofList name)

/-- The page of a list of roles that a query asks for. -/
def page (roles : List RoleEntry) (q : RoleQuery) : List RoleEntry :=
  let fitting := match wantedName q.filter with
    | none => roles
    | some name => roles.filter fun r ↦ Text.contains name (Text.lower r.name)
  (fitting.drop q.offset).take q.limit

/-- The access block of a series. -/
def seriesAccess (series : String) : Call Store AccessEnvelope :=
  guarded .seriesAccess fun s ↦
    match s.access.get? series with
    | some a => (.ok ⟨some a⟩, s)
    | none => (.error (Error.seriesNotFound series), s)

/-- Record and apply a new access list. -/
def saveSeriesAccess (series : String) (update : AccessUpdate) : Call Store Unit :=
  guarded .saveSeriesAccess fun s ↦
    let block := (s.access.get? series).getD SeriesAccess.empty
    let acl := (AclDocument.mk update.entries).toJson
    (.ok (), { s with
      savedAccess := s.savedAccess ++ [(series, update)]
      access := s.access.insert series { block with acl := acl } })

/-- The managed list with an id. -/
def managedAcl (id : Int) : Call Store ManagedAcl :=
  guarded .managedAcl fun s ↦
    match s.managed.find? fun m ↦ m.id == id with
    | some m => (.ok m, s)
    | none => (.error (Error.managedAclNotFound id), s)

/-- Record a query and answer its page. -/
def listRoles (q : RoleQuery) : Call Store (List RoleEntry) :=
  guarded .listRoles fun s ↦ (.ok (page s.roles q), { s with roleQueries := s.roleQueries ++ [q] })

/-- The metadata of a series. -/
def seriesMetadata (series : String) : Call Store Metadata :=
  guarded .seriesMetadata fun s ↦
    match s.metadata.get? series with
    | some m => (.ok m, s)
    | none => (.error (Error.seriesNotFound series), s)

/-- Record a catalog. -/
def saveSeriesMetadata (series : String) (catalog : Catalog) : Call Store Unit :=
  guarded .saveSeriesMetadata fun s ↦
    (.ok (), { s with savedMetadata := s.savedMetadata ++ [(series, catalog)] })

/-- Record and apply a theme. -/
def saveSeriesTheme (series theme : String) : Call Store Unit :=
  guarded .saveSeriesTheme fun s ↦
    (.ok (), { s with
      themeChanges := s.themeChanges ++ [(series, some theme)]
      themes := s.themes.insert series (Dict.empty.insert theme (.string "")) })

/-- Record and apply that a series has no theme. -/
def deleteSeriesTheme (series : String) : Call Store Unit :=
  guarded .deleteSeriesTheme fun s ↦
    (.ok (), { s with
      themeChanges := s.themeChanges ++ [(series, none)]
      themes := s.themes.erase series })

/-- A store answers the calls of a node. -/
instance : AdminNode Store where
  currentUser := guarded .currentUser fun s ↦ (.ok s.user, s)
  seriesAccess := seriesAccess
  saveSeriesAccess := saveSeriesAccess
  managedAcl := managedAcl
  listRoles := listRoles
  resourceList name :=
    guarded .resourceList fun s ↦ (.ok ((s.resources.get? name).getD Dict.empty), s)
  directoryUsers := guarded .directoryUsers fun s ↦ (.ok s.users, s)
  seriesMetadata := seriesMetadata
  saveSeriesMetadata := saveSeriesMetadata
  seriesTheme series :=
    guarded .seriesTheme fun s ↦ (.ok ((s.themes.get? series).getD Dict.empty), s)
  saveSeriesTheme := saveSeriesTheme
  deleteSeriesTheme := deleteSeriesTheme
  feeds := guarded .feeds fun s ↦ (.ok s.feeds, s)

end Store

end SeriesAcl
