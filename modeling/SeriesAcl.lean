import SeriesAcl.Admin.Store
import SeriesAcl.Editing.Screen
import SeriesAcl.Editing.Wizard
import SeriesAcl.Error.Record
import SeriesAcl.Main
import SeriesAcl.Notice.Journal
import SeriesAcl.Proofs.Access.Grouping
import SeriesAcl.Proofs.Access.Expansion
import SeriesAcl.Proofs.Access.Validity
import SeriesAcl.Proofs.Access.Switching
import SeriesAcl.Proofs.Access.Documents
import SeriesAcl.Proofs.Access.Reading
import SeriesAcl.Proofs.Admin.Records
import SeriesAcl.Proofs.Editing.Turns
import SeriesAcl.Proofs.Editing.Operations
import SeriesAcl.Proofs.Editing.Sharing
import SeriesAcl.Proofs.Editing.Picker
import SeriesAcl.Proofs.Command.Apply
import SeriesAcl.Proofs.Access.RoundTrip
import SeriesAcl.Proofs.Access.Succession
import SeriesAcl.Proofs.Roles.Paging
import SeriesAcl.Proofs.Roles.Traffic
import SeriesAcl.Proofs.Editing.Loading
import SeriesAcl.Proofs.Editing.WizardOperations
import SeriesAcl.Proofs.Editing.Handover
import SeriesAcl.Proofs.Editing.Watch
import SeriesAcl.Proofs.Command.Unread
import SeriesAcl.Proofs.Notice.Boards
import SeriesAcl.Proofs.Editing.Banners
import SeriesAcl.Proofs.Editing.ScreenRuns
import SeriesAcl.Proofs.Access.Delivery
import SeriesAcl.Proofs.Admin.Calls
import SeriesAcl.Proofs.Editing.ScreenOperations
import SeriesAcl.Proofs.Editing.FailedSections
import SeriesAcl.Proofs.Catalog.Places
import SeriesAcl.Proofs.Editing.FieldSaves
import SeriesAcl.Proofs.Editing.SelectedTags
import SeriesAcl.Proofs.Editing.WizardRows
import SeriesAcl.Proofs.Editing.WizardTags
import SeriesAcl.Proofs.Editing.Revocation
import SeriesAcl.Proofs.Catalog.RoundTrip
import SeriesAcl.Proofs.Notice.Log
import SeriesAcl.Proofs.Notice.Keeping
import SeriesAcl.Proofs.Notice.SharedSlots
import SeriesAcl.Proofs.Notice.Standing
import SeriesAcl.Proofs.Notice.BoardSlots
import SeriesAcl.Proofs.Editing.EditorNotes
import SeriesAcl.Proofs.Editing.RightsWarning
import SeriesAcl.Proofs.Text.Occurrence
import SeriesAcl.Proofs.Feed.Links
import SeriesAcl.Proofs.Catalog.Splitting
import SeriesAcl.Proofs.Roles.Search
import SeriesAcl.Proofs.Editing.FailedTurns
import SeriesAcl.Proofs.Command.Grammar
import SeriesAcl.Proofs.Command.Layout
import SeriesAcl.Proofs.Catalog.FileNames
import SeriesAcl.Proofs.Directory.Tags
import SeriesAcl.Proofs.Http.Paths
import SeriesAcl.Proofs.Http.SeriesRequests
import SeriesAcl.Proofs.Editing.NamedRoles
