/-!
# Template roles

The roles that the built-in templates grant to. They belong to the templates: a switch to another
template takes them out of the list, every other role stays. See `SPEC_FULL.md`, section 4.2.
-/

namespace SeriesAcl.Role

/-- Everybody. -/
def anonymous : String := "ROLE_ANONYMOUS"

/-- The members of all organizations of the federation. -/
def federationMember : String := "ROLE_AAI_FEDERATION_MEMBER"

/-- The people with a private account. -/
def privateMember : String := "ROLE_AAI_PRIVATE_MEMBER"

/-- Learning management systems and the like. -/
def externalApplication : String := "ROLE_EXTERNAL_APPLICATION"

/-- The members of one organization. -/
def orgMember (org : String) : String :=
  "ROLE_AAI_ORG_" ++ org ++ "_MEMBER"

/-- Whether a role belongs to the templates, for callers of an organization (`SPEC_FULL.md` 4.2). -/
def isTemplateRole (role : String) (org : Option String) : Bool :=
  role == anonymous || role == federationMember || role == privateMember ||
    role == externalApplication ||
    match org with
    | some o => role == orgMember o
    | none => false

end SeriesAcl.Role
