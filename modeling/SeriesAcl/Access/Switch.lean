import SeriesAcl.Access.Policy
import SeriesAcl.Access.Template

/-!
# Switching templates

The access list of a series that is switched to a template: what the roles outside the templates
hold stays, the template's own entries follow. See `SPEC_FULL.md`, section 4.2.
-/

namespace SeriesAcl.Policy

/-- The entries of a row with the read and write marks written out, denials included. -/
def explicitEntries (role : String) (p : Policy) : List Entry :=
  ⟨role, Action.read, p.read⟩ :: ⟨role, Action.write, p.write⟩ ::
    p.actions.map (Entry.allowed role)

/-- The entries of a row that a switch keeps: those of a role outside the templates
(`SPEC_FULL.md` 4.2). -/
def keptEntries (org : Option String) (p : Policy) : List Entry :=
  match p.role with
  | none => []
  | some role => if Role.isTemplateRole role org then [] else p.explicitEntries role

/-- The entries of a list of rows switched to a template (`SPEC_FULL.md` 4.2,
`compose_switch_acl`). -/
def switchEntries (rows : List Policy) (template : Template) (org : Option String)
    (flags : Flags) : List Entry :=
  rows.flatMap (keptEntries org) ++ template.expand org flags

end SeriesAcl.Policy
