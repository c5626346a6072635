import SeriesAcl.Admin.Interface
import SeriesAcl.Roles.Directory

/-!
# Fetching roles

A whole fetch of the role directory on a node: started, sent, and ended by its page or its failure.
See `SPEC_FULL.md`, section 5.
-/

namespace SeriesAcl.RoleDirectory

variable {σ : Type} [AdminNode σ]

/-- Fetch the next page: how many roles came, or none while another fetch is outstanding
(`SPEC_FULL.md` 5, `more_roles`). -/
def more (d : RoleDirectory) (search : Option String) (node : σ) :
    Except Error (Option Nat) × RoleDirectory × σ :=
  match d.start search with
  | (none, d) => (.ok none, d, node)
  | (some query, d) =>
    match AdminNode.listRoles query node with
    | (.ok page, node) => (.ok (some page.length), d.arrive page, node)
    | (.error e, node) => (.error e, d.giveUp, node)

end SeriesAcl.RoleDirectory
