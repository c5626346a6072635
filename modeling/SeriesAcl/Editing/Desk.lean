import SeriesAcl.Admin.Interface
import SeriesAcl.Notice.Slot

/-!
# The editing desk

What all editors work on: the node that they read and save to, and the sink for the notes that they
show. An operation of an editor gives its answer and leaves the editor and the desk as it left them,
also when it fails.
-/

namespace SeriesAcl

/-- The node and the notes that editors share. -/
structure Desk (σ ν : Type) where
  node : σ
  notes : ν

/-- What an operation leaves: its answer, the editor and the desk. -/
structure Turn (ε σ ν α : Type) where
  answer : Except Error α
  editor : ε
  desk : Desk σ ν

namespace Turn

variable {ε σ ν α β : Type}

/-- The turn with another form of its answer. -/
def map (f : α → β) (t : Turn ε σ ν α) : Turn ε σ ν β :=
  ⟨t.answer.map f, t.editor, t.desk⟩

end Turn

namespace Desk

variable {σ ν α : Type}

/-- A call on the node of a desk. -/
def call (desk : Desk σ ν) (c : Call σ α) : Except Error α × Desk σ ν :=
  let (answer, node) := c desk.node
  (answer, { desk with node := node })

end Desk

end SeriesAcl
