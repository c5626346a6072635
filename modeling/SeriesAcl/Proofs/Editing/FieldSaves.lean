import SeriesAcl.Proofs.Catalog.Places
import SeriesAcl.Proofs.Editing.ScreenOperations

/-!
# Saving metadata fields

The places of catalogs that a screen remembers are those where the catalogs are, in every run: the
memory is cleared when catalogs are loaded, and edits keep their flavors (`remembers_run`). So a
field is submitted out of the catalog of its flavor, and the same catalog is marked
(`saveMetadata_run`).
-/

namespace SeriesAcl

namespace Catalog

private theorem flavor_setValue? {c c' : Catalog} {id : String} {value : Json}
    (h : c.setValue? id value = some c') : c'.flavor = c.flavor := by
  unfold setValue? at h
  obtain ⟨fields, -, rfl⟩ := Option.map_eq_some_iff.mp h
  rfl

/-- A catalog in the place of one of the same flavor changes no flavor. -/
theorem flavors_set {catalogs : List Catalog} {i : Nat} {c c' : Catalog}
    (h : catalogs[i]? = some c) (hflavor : c'.flavor = c.flavor) :
    (catalogs.set i c').map flavor = catalogs.map flavor := by
  obtain ⟨hi, hc⟩ := List.getElem?_eq_some_iff.mp h
  have hbound : i < (catalogs.map flavor).length := by rwa [List.length_map]
  have hsame : c'.flavor = (catalogs.map flavor)[i] := by
    rw [List.getElem_map, hc, hflavor]
  rw [List.map_set, hsame, List.set_getElem_self]

/-- Only the marks of the fields with the id change. -/
theorem markSaved_eq (c : Catalog) (id : String) :
    c.markSaved id =
      { c with fields := c.fields.map fun f ↦ { f with saved := f.saved || f.id == id } } := by
  unfold markSaved
  congr 2
  funext f
  by_cases h : f.id = id
  · rw [if_pos h, beq_iff_eq.mpr h, Bool.or_true]
  · rw [if_neg h, beq_false_of_ne h, Bool.or_false]

end Catalog

namespace Screen

/-- The places that a screen remembers are those of its catalogs. -/
def Remembers (s : Screen) : Prop :=
  s.forms.Fresh s.main s.metadata

/-- A catalog on a screen in the place of one of the same flavor changes no flavor either. -/
theorem flavors_setCatalog {s : Screen} {place : CatalogPlace} {c c' : Catalog}
    (h : s.catalogAt? place = some c) (hflavor : c'.flavor = c.flavor) :
    (s.setCatalog place c').main.map (·.catalog.flavor) = s.main.map (·.catalog.flavor) ∧
      (s.setCatalog place c').metadata.catalogs.map Catalog.flavor =
        s.metadata.catalogs.map Catalog.flavor := by
  cases place with
  | main =>
    obtain ⟨m, hm, rfl⟩ := Option.map_eq_some_iff.mp h
    refine ⟨?_, rfl⟩
    show (s.main.map fun m ↦ { m with catalog := c' }).map (·.catalog.flavor) = _
    rw [hm, Option.map_some, Option.map_some, Option.map_some, hflavor]
  | other i => exact ⟨rfl, Catalog.flavors_set h hflavor⟩

/-- The place of a flavor has a catalog of that flavor. -/
theorem exists_catalogAt? {s : Screen} {flavor : String} {place : CatalogPlace}
    (h : place.IsOf flavor s.main s.metadata) :
    ∃ c, s.catalogAt? place = some c ∧ c.flavor = flavor := by
  cases place with
  | main =>
    obtain ⟨m, hm, hflavor⟩ := h
    exact ⟨m.catalog, by rw [catalogAt?, hm, Option.map_some], hflavor⟩
  | other i => exact h.2.1

/-- The catalog that is found for a flavor is the one at its place. -/
theorem catalog_fst {s : Screen} (h : s.Remembers) (flavor : String) :
    (s.catalog flavor).1 =
      match MetadataForms.locate flavor s.main s.metadata with
      | none => .error (Error.unknownCatalog flavor)
      | some place =>
        match s.catalogAt? place with
        | none => .error (Error.unknownCatalog flavor)
        | some c => .ok (place, c) := by
  have hresolve := h.resolve_eq flavor
  unfold catalog
  rcases hfound : s.forms.resolve flavor s.main s.metadata with ⟨place, forms⟩
  rw [hfound] at hresolve
  obtain rfl : place = _ := hresolve
  dsimp only
  cases MetadataForms.locate flavor s.main s.metadata with
  | none => rfl
  | some place =>
    have hat : { s with forms := forms }.catalogAt? place = s.catalogAt? place := by
      cases place <;> rfl
    dsimp only
    rw [hat]
    cases s.catalogAt? place <;> rfl

/-- A catalog is found exactly when it is the one at the place of the flavor. -/
theorem catalog_eq_ok_iff {s : Screen} (h : s.Remembers) {flavor : String} {place : CatalogPlace}
    {c : Catalog} :
    (s.catalog flavor).1 = .ok (place, c) ↔
      place.IsOf flavor s.main s.metadata ∧ s.catalogAt? place = some c := by
  rw [catalog_fst h, ← MetadataForms.locate_eq_some_iff]
  cases MetadataForms.locate flavor s.main s.metadata with
  | none => simp
  | some found =>
    dsimp only
    constructor
    · intro heq
      split at heq
      · cases heq
      · next hat =>
        cases heq
        exact ⟨rfl, hat⟩
    · rintro ⟨heq, hat⟩
      cases heq
      rw [hat]

private theorem remembers_catalog {s : Screen} (h : s.Remembers) (flavor : String) :
    (s.catalog flavor).2.Remembers := by
  have hfresh := h.resolve flavor
  unfold catalog
  rcases hfound : s.forms.resolve flavor s.main s.metadata with ⟨place, forms⟩
  rw [hfound] at hfresh
  dsimp only
  split
  · exact hfresh
  · split <;> exact hfresh

/-- A catalog of the same flavor in the place of the one that was found. -/
theorem remembers_setCatalog {s : Screen} (h : s.Remembers) {flavor : String}
    {place : CatalogPlace} {c c' : Catalog} (hfound : (s.catalog flavor).1 = .ok (place, c))
    (hflavor : c'.flavor = c.flavor) : ((s.catalog flavor).2.setCatalog place c').Remembers := by
  have hfresh := remembers_catalog h flavor
  have hat := ((catalog_eq_ok_iff h).mp hfound).2
  obtain ⟨forms, hscreen⟩ := s.exists_catalog_eq flavor
  rw [hscreen] at hfresh ⊢
  have hat' : { s with forms := forms }.catalogAt? place = some c := by
    rw [← hat]
    cases place <;> rfl
  obtain ⟨hmain, hrest⟩ := flavors_setCatalog hat' hflavor
  have hforms : ({ s with forms := forms }.setCatalog place c').forms = forms := by
    cases place <;> rfl
  unfold Remembers
  rw [hforms]
  exact hfresh.congr hmain hrest

variable {σ ν : Type} [AdminNode σ] [NoteSink ν]

/-- Loading forgets the places. -/
theorem remembers_load (s : Screen) (desk : Desk σ ν) : (s.load desk).editor.Remembers := by
  obtain ⟨_, _, _, _, _, _, hload⟩ := s.exists_load_eq desk
  rw [hload]
  exact MetadataForms.fresh_empty _ _

/-- Every operation keeps what is remembered right. -/
theorem remembers_perform {s : Screen} (h : s.Remembers) (op : ScreenOp) (desk : Desk σ ν) :
    (s.perform op desk).editor.Remembers := by
  cases op with
  | «open» => exact s.remembers_load desk
  | change series rolePage => exact (make series rolePage).remembers_load desk
  | setValue flavor field value =>
    show (s.setValue flavor field value).2.Remembers
    rcases s.setValue_cases flavor field value with ⟨_, heq⟩ | ⟨place, c, c', hfound, hset, heq⟩
    · rw [heq]
      exact remembers_catalog h flavor
    · rw [heq]
      exact remembers_setCatalog h hfound (Catalog.flavor_setValue? hset)
  | saveMetadata flavor field =>
    show (s.saveMetadata flavor field desk).editor.Remembers
    rcases s.saveMetadata_cases flavor field desk with ⟨_, -, heq⟩ | ⟨place, c, hfound, heq⟩
    · rw [heq]
      exact remembers_catalog h flavor
    · rw [heq]
      dsimp only
      split
      · exact remembers_catalog h flavor
      · exact remembers_setCatalog h hfound rfl
  | editThemes edit => exact h
  | saveTheme theme =>
    show (s.saveTheme theme desk).editor.Remembers
    unfold saveTheme
    split <;> exact h
  | access op => exact h

end Screen

namespace Console

variable {ν : Type} [NoteSink ν]

/-- In every run the places that the screen remembers are those of its catalogs. -/
theorem remembers_run {σ : Type} [AdminNode σ] (series : String) (rolePage : Nat)
    (desk : Desk σ ν) (events : List (ConsoleEvent σ)) :
    (run series rolePage desk events).screen.Remembers := by
  induction events using List.reverseRecOn with
  | nil => exact MetadataForms.fresh_empty _ _
  | append_singleton events event ih =>
    rw [run_concat]
    cases event with
    | act op => exact Screen.remembers_perform ih op _
    | node change => exact ih

/-- A turn saved a field of the catalog at a place: the catalog is recorded as it is prepared for
that, its fields of that id are marked, and nothing else changes, places that are remembered
aside. -/
structure FieldSaved (x : Console Store ν) (place : CatalogPlace) (c : Catalog) (field : String)
    (saved : Turn Screen Store ν Unit) : Prop where
  answer : saved.answer = .ok ()
  desk : saved.desk = { x.desk with
    node := { x.desk.node with
      savedMetadata :=
        x.desk.node.savedMetadata ++ [(x.screen.series, c.prepareForSave field)] } }
  screen : saved.editor = { x.screen.setCatalog place { c with
      fields := c.fields.map fun f ↦ { f with saved := f.saved || f.id == field } } with
    forms := saved.editor.forms }

/-- A turn failed and changed nothing, places that are remembered aside. -/
structure FieldKept (x : Console Store ν) (saved : Turn Screen Store ν Unit) : Prop where
  answer : ∃ error, saved.answer = .error error
  desk : saved.desk = x.desk
  screen : saved.editor = { x.screen with forms := saved.editor.forms }

/-- A field is saved when its flavor has a place and the store takes it. -/
theorem saveMetadata_cases {x : Console Store ν} (h : x.screen.Remembers) (flavor field : String) :
    (.saveSeriesMetadata ∉ x.desk.node.failing ∧ ∃ place c,
        place.IsOf flavor x.screen.main x.screen.metadata ∧ x.screen.catalogAt? place = some c ∧
        x.FieldSaved place c field (x.turn (.saveMetadata flavor field))) ∨
      (.saveSeriesMetadata ∈ x.desk.node.failing ∨
          ∀ place : CatalogPlace, ¬place.IsOf flavor x.screen.main x.screen.metadata) ∧
        x.FieldKept (x.turn (.saveMetadata flavor field)) := by
  obtain ⟨forms, hscreen⟩ := x.screen.exists_catalog_eq flavor
  have hturn : x.turn (.saveMetadata flavor field) = x.screen.saveMetadata flavor field x.desk :=
    rfl
  rw [hturn]
  rcases x.screen.saveMetadata_cases flavor field x.desk with
    ⟨error, herror, heq⟩ | ⟨place, c, hfound, heq⟩
  · refine .inr ⟨.inr ?_, ?_⟩
    · intro place hplace
      obtain ⟨c, hat, -⟩ := Screen.exists_catalogAt? hplace
      cases herror.symm.trans ((Screen.catalog_eq_ok_iff h).mpr ⟨hplace, hat⟩)
    · rw [heq, hscreen]
      exact ⟨⟨error, rfl⟩, rfl, rfl⟩
  · obtain ⟨hplace, hat⟩ := (Screen.catalog_eq_ok_iff h).mp hfound
    have hsent : AdminNode.saveSeriesMetadata x.screen.series (c.prepareForSave field) x.desk.node =
        _ := Store.saveSeriesMetadata_eq x.desk.node x.screen.series (c.prepareForSave field)
    rw [hscreen, hsent] at heq
    by_cases hf : .saveSeriesMetadata ∈ x.desk.node.failing
    · rw [if_pos hf] at heq
      refine .inr ⟨.inl hf, ?_⟩
      rw [heq]
      exact ⟨⟨_, rfl⟩, rfl, rfl⟩
    · rw [if_neg hf] at heq
      refine .inl ⟨hf, place, c, hplace, hat, ?_⟩
      rw [heq]
      refine ⟨rfl, rfl, ?_⟩
      rw [← c.markSaved_eq field]
      cases place <;> rfl

/-- After any run the place that a screen finds for a flavor, remembered or not, is the one that it
finds afresh: that of the main catalog if it has the flavor, else that of the last other one, and
there is a catalog at it. To save a field records the catalog there as it is prepared for that, and
marks its fields of the id. When there is no place or the store refuses, catalogs and store stay as
they are. -/
theorem saveMetadata_run (series : String) (rolePage : Nat) (desk : Desk Store ν)
    (events : List (ConsoleEvent Store)) (flavor field : String) :
    let x := run series rolePage desk events
    let found := fun forms : MetadataForms ↦
      (forms.resolve flavor x.screen.main x.screen.metadata).1
    let saved := x.turn (.saveMetadata flavor field)
    found x.screen.forms = found MetadataForms.empty ∧
      (∀ place, found x.screen.forms = some place ↔
        place.IsOf flavor x.screen.main x.screen.metadata) ∧
      (∀ place, found x.screen.forms = some place →
        ∃ c, x.screen.catalogAt? place = some c ∧ c.flavor = flavor) ∧
      (saved.answer = .ok () ↔
        (∃ place, found x.screen.forms = some place) ∧
          .saveSeriesMetadata ∉ x.desk.node.failing) ∧
      (saved.answer = .ok () → ∃ place c, found x.screen.forms = some place ∧
        x.screen.catalogAt? place = some c ∧ x.FieldSaved place c field saved) ∧
      (saved.answer ≠ .ok () → x.FieldKept saved) := by
  intro x found saved
  have hremembers : x.screen.Remembers := remembers_run series rolePage desk events
  have hplace : ∀ place, found x.screen.forms = some place ↔
      place.IsOf flavor x.screen.main x.screen.metadata := by
    intro place
    show (x.screen.forms.resolve _ _ _).1 = _ ↔ _
    rw [hremembers.resolve_eq, MetadataForms.locate_eq_some_iff]
  have hfresh : found x.screen.forms = found MetadataForms.empty :=
    (hremembers.resolve_eq flavor).trans ((MetadataForms.fresh_empty _ _).resolve_eq flavor).symm
  refine ⟨hfresh, hplace, ?_, ?_⟩
  · intro place hfound
    exact Screen.exists_catalogAt? ((hplace place).mp hfound)
  · rcases saveMetadata_cases hremembers flavor field with
      ⟨hf, place, c, hof, hat, hsaved⟩ | ⟨hrefused, hkept⟩
    · have hfound := (hplace place).mpr hof
      exact ⟨⟨fun _ ↦ ⟨⟨place, hfound⟩, hf⟩, fun _ ↦ hsaved.answer⟩,
        fun _ ↦ ⟨place, c, hfound, hat, hsaved⟩, fun hne ↦ absurd hsaved.answer hne⟩
    · obtain ⟨error, herror⟩ := hkept.answer
      have hne : saved.answer ≠ .ok () := by
        show (x.turn (.saveMetadata flavor field)).answer ≠ .ok ()
        rw [herror]
        nofun
      refine ⟨⟨fun hok ↦ absurd hok hne, ?_⟩, fun hok ↦ absurd hok hne, fun _ ↦ hkept⟩
      rintro ⟨⟨place, hfound⟩, hf⟩
      rcases hrefused with hfailing | hnone
      · exact absurd hfailing hf
      · exact absurd ((hplace place).mp hfound) (hnone place)

end Console

end SeriesAcl
