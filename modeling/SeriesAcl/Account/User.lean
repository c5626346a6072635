import SeriesAcl.Account.Organization

/-!
# Users

The signed-in user with the roles they hold and their organization. See `SPEC_FULL.md`, section 2.
-/

namespace SeriesAcl

open Json (Decoder Fields)

/-- The personal details of a user. -/
structure Person where
  username : String
  name : Option String
  email : Option String
  deriving DecidableEq, Repr

namespace Person

/-- Nobody in particular. -/
def empty : Person := ⟨"", none, none⟩

/-- The record of a person. -/
def toJson (p : Person) : Json :=
  .object [("username", .string p.username), ("name", .ofOption p.name),
    ("email", .ofOption p.email)]

/-- The person of a record. -/
def decode : Decoder Person :=
  Decoder.record ["username", "name", "email"]
    (Person.mk <$> Fields.withDefault "username" Decoder.string ""
      <*> Fields.optional "name" Decoder.string
      <*> Fields.optional "email" Decoder.string)

end Person

/-- The signed-in user (`SPEC_FULL.md` 2, `CurrentUser`). -/
structure User where
  person : Person
  org : Organization
  roles : List String
  role : Option String

namespace User

/-- A user without anything. -/
def empty : User := ⟨Person.empty, Organization.empty, [], none⟩

/-- The role that stands for the user alone; an empty name counts as none. -/
def ownRole (u : User) : Option String :=
  u.role.filter fun r ↦ r ≠ ""

/-- The home organization that template roles are resolved against; an empty one counts as none
(`SPEC_FULL.md` 3.3). -/
def homeOrg (u : User) : Option String :=
  (u.org.property "aai.org").filter fun o ↦ o ≠ ""

/-- The record of a user. -/
def toJson (u : User) : Json :=
  .object [("user", u.person.toJson), ("org", u.org.toJson), ("roles", .ofStrings u.roles),
    ("userRole", .ofOption u.role)]

/-- The user of a record. -/
def decode : Decoder User :=
  Decoder.record ["user", "org", "roles", "userRole"]
    (User.mk <$> Fields.withDefault "user" Person.decode Person.empty
      <*> Fields.withDefault "org" Organization.decode Organization.empty
      <*> Fields.withDefault "roles" (Decoder.list Decoder.string) []
      <*> Fields.optional "userRole" Decoder.string)

end User

/-- A person of the user directory, shown as a tag (`SPEC_FULL.md` 9.1). The value is the role of
that person: the tag is selected when a row names it. -/
structure UserTag where
  key : String
  name : String
  value : String
  deriving DecidableEq, Repr

namespace UserTag

/-- The record of a tag. -/
def toJson (t : UserTag) : Json :=
  .object [("key", .string t.key), ("name", .string t.name), ("value", .string t.value)]

/-- The tag of a record. -/
def decode : Decoder UserTag :=
  Decoder.record ["key", "name", "value"]
    (UserTag.mk <$> Fields.required "key" Decoder.string
      <*> Fields.required "name" Decoder.string
      <*> Fields.required "value" Decoder.string)

end UserTag

end SeriesAcl
