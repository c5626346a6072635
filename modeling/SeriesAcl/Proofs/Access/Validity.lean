import SeriesAcl.Proofs.Access.Grouping

/-!
# Rows that pass the check

The check looks at the marks and actions of rows, and the list that is submitted is written from the
same rows. The two agree: the relaxed check asks that there are rows and that each of them adds to
the list (`isValid_relaxed_iff`). Writing rows out and reading them again keeps what they grant
(`mem_grants_group_toEntries`), so rows that pass still pass (`isValid_iff_toEntries_ne_nil`).
-/

namespace SeriesAcl.Policy

variable {field : String} {rows : List Policy} {role action : String}

/-! ### What a row adds -/

/-- The list is put together from what each row adds to it. -/
theorem toEntries_eq_flatMap_toEntries (rows : List Policy) :
    toEntries rows = rows.flatMap fun p ↦ toEntries [p] := by
  simp only [toEntries_eq_flatMap, List.flatMap_singleton]

private theorem isRetainable_iff_toEntries {p : Policy} :
    p.isRetainable = true ↔ toEntries [p] ≠ [] := by
  rw [isRetainable_iff, toEntries_eq_flatMap, List.flatMap_singleton]

/-- The relaxed check passes rows that each add something, if there are any. -/
theorem isValid_relaxed_iff :
    (check rows .relaxed).isValid = true ↔ rows ≠ [] ∧ ∀ p ∈ rows, toEntries [p] ≠ [] := by
  simp only [isValid_check_iff, isRetainable_iff_toEntries]

/-- The strict check asks for a row with both marks besides. -/
theorem isValid_strict_iff :
    (check rows .strict).isValid = true ↔
      (∀ p ∈ rows, p.isRetainable = true) ∧ ∃ p ∈ rows, p.read = true ∧ p.write = true := by
  simp [check, Check.isValid]

private theorem isValid_relaxed_of_strict (h : (check rows .strict).isValid = true) :
    (check rows .relaxed).isValid = true := by
  obtain ⟨hall, p, hp, -⟩ := isValid_strict_iff.mp h
  exact isValid_check_iff.mpr ⟨List.ne_nil_of_mem hp, hall⟩

/-- Of rows that pass the strict check some role is granted reading and writing. -/
theorem exists_role_of_isValid_strict (h : (check rows .strict).isValid = true) :
    ∃ role, (role, Action.read) ∈ Entry.grants (toEntries rows) ∧
      (role, Action.write) ∈ Entry.grants (toEntries rows) := by
  obtain ⟨hall, p, hp, hread, hwrite⟩ := isValid_strict_iff.mp h
  obtain ⟨role, hrole⟩ := Option.isSome_iff_exists.mp (Bool.and_eq_true_iff.mp (hall p hp)).1
  exact ⟨role, mem_grants_toEntries.mpr ⟨p, hp, hrole, .inl ⟨hread, rfl⟩⟩,
    mem_grants_toEntries.mpr ⟨p, hp, hrole, .inr (.inl ⟨hwrite, rfl⟩)⟩⟩

/-! ### Rows that are read again -/

/-- Where no entry denies, the row of a role allows what its entries name. -/
theorem allows_foldl_of_allow {entries : List Entry} (h : ∀ e ∈ entries, e.allow = true) :
    (entries.foldl apply (blank (some role) field)).Allows action ↔
      ∃ e ∈ entries, e.action = action := by
  induction entries using List.reverseRecOn with
  | nil => simp [Allows, blank]
  | append_singleton rest e ih =>
    have hrest : ∀ x ∈ rest, x.allow = true := fun x hx ↦ h x (List.mem_append_left _ hx)
    have he : Entry.allowed e.role e.action = e := by
      rw [Entry.allowed, ← h e (by simp)]
    have htidy : (rest.foldl apply (blank (some role) field)).Tidy field :=
      (tidy_blank role).foldl_apply rest
    have hstep := allows_apply_allowed htidy e.role e.action action
    rw [he] at hstep
    rw [List.foldl_append, List.foldl_cons, List.foldl_nil, hstep, ih hrest]
    simp [or_and_right, exists_or, eq_comm]

/-- Rows that are written out and read again grant what they granted. -/
theorem mem_grants_group_toEntries :
    (role, action) ∈ Entry.grants (toEntries (group (toEntries rows) field)) ↔
      (role, action) ∈ Entry.grants (toEntries rows) := by
  have hallow : ∀ e ∈ toEntries rows, e.allow = true := fun _ he ↦ (mem_toEntries.mp he).1
  rw [mem_grants_group, summary,
    allows_foldl_of_allow fun e he ↦ hallow e (List.mem_filter.mp he).1]
  simp only [Entry.grants, List.mem_map, List.mem_filter, decide_eq_true_eq, Prod.mk.injEq]
  constructor
  · rintro ⟨e, ⟨he, hrole⟩, haction⟩
    exact ⟨e, ⟨he, hallow e he⟩, hrole, haction⟩
  · rintro ⟨e, ⟨he, -⟩, hrole, haction⟩
    exact ⟨e, ⟨he, hrole⟩, haction⟩

/-- The row of a role, as it is read again, allows what the role was granted. -/
theorem allows_of_mem_grants {p : Policy} (hp : p ∈ group (toEntries rows) field)
    (hr : p.role = some role) (h : (role, action) ∈ Entry.grants (toEntries rows)) :
    p.Allows action := by
  have hd : ((group (toEntries rows) field).map Policy.role).Nodup := (tidied_group _).distinct
  obtain ⟨q, hq, hqr, ha⟩ := mem_grants_toEntries.mp (mem_grants_group_toEntries.mpr h)
  obtain rfl := Option.some.inj ((find?_eq_some hd hp hr).symm.trans (find?_eq_some hd hq hqr))
  exact ha

/-- A row that is read again grants something. -/
theorem isRetainable_of_mem_group_toEntries {p : Policy}
    (hp : p ∈ group (toEntries rows) field) : p.isRetainable = true := by
  obtain ⟨e, he, hr⟩ := exists_entry_of_mem_group hp
  obtain ⟨hallow, q, hq, hqr, ha⟩ := mem_toEntries.mp he
  refine (isRetainable_iff_allows hr).mpr ⟨e.action, allows_of_mem_grants hp hr ?_⟩
  exact mem_grants_toEntries.mpr ⟨q, hq, hqr, ha⟩

/-- Rows that pass the relaxed check pass it when they are read again. -/
theorem isValid_relaxed_group_toEntries (h : (check rows .relaxed).isValid = true) :
    (check (group (toEntries rows) field) .relaxed).isValid = true := by
  obtain ⟨e, he⟩ := List.exists_mem_of_ne_nil _ (toEntries_of_isValid h).1
  obtain ⟨p, hp, -⟩ := exists_row_of_mem field he
  exact isValid_check_iff.mpr
    ⟨List.ne_nil_of_mem hp, fun _ ↦ isRetainable_of_mem_group_toEntries⟩

/-- Rows that pass the strict check pass it when they are read again: the row of a role that is
granted reading and writing has both marks. -/
theorem isValid_strict_group_toEntries (h : (check rows .strict).isValid = true) :
    (check (group (toEntries rows) field) .strict).isValid = true := by
  refine isValid_strict_iff.mpr ⟨fun _ ↦ isRetainable_of_mem_group_toEntries, ?_⟩
  obtain ⟨role, hread, hwrite⟩ := exists_role_of_isValid_strict h
  have hagain : (role, Action.read) ∈
      Entry.grants (toEntries (group (toEntries rows) field)) :=
    mem_grants_group_toEntries.mpr hread
  obtain ⟨p, hp, hr, -⟩ := mem_grants_toEntries.mp hagain
  have htidy : p.Tidy field := (tidied_group _).tidy p hp
  exact ⟨p, hp, htidy.read_of_allows (allows_of_mem_grants hp hr hread),
    htidy.write_of_allows (allows_of_mem_grants hp hr hwrite)⟩

/-- The check and the list that is written agree. The relaxed check passes exactly when there are
rows and each of them adds to the list; what passes the strict check besides lets some role read and
write. Rows that pass either check pass it again when they are written and read. -/
theorem isValid_iff_toEntries_ne_nil (rows : List Policy) :
    (toEntries rows = rows.flatMap fun p ↦ toEntries [p]) ∧
      ((check rows .relaxed).isValid = true ↔ rows ≠ [] ∧ ∀ p ∈ rows, toEntries [p] ≠ []) ∧
      ((check rows .strict).isValid = true →
        rows ≠ [] ∧ (∀ p ∈ rows, toEntries [p] ≠ []) ∧
          ∃ role, (role, Action.read) ∈ Entry.grants (toEntries rows) ∧
            (role, Action.write) ∈ Entry.grants (toEntries rows)) ∧
      ∀ mode field, (check rows mode).isValid = true →
        (check (group (toEntries rows) field) mode).isValid = true := by
  refine ⟨toEntries_eq_flatMap_toEntries rows, isValid_relaxed_iff, ?_, ?_⟩
  · intro h
    obtain ⟨hne, hrows⟩ := isValid_relaxed_iff.mp (isValid_relaxed_of_strict h)
    exact ⟨hne, hrows, exists_role_of_isValid_strict h⟩
  · intro mode field h
    cases mode with
    | strict => exact isValid_strict_group_toEntries h
    | relaxed => exact isValid_relaxed_group_toEntries h

/-- A role with two rows, one of which names reading like any other action, and a role that may only
write. -/
def repeatedRows : List Policy :=
  [readWrite "ROLE_A" seriesField,
    ⟨some "ROLE_A", false, false, seriesField, [Action.read, Action.castView]⟩,
    ⟨some "ROLE_B", false, true, wizardField, []⟩]

/-- The rows pass both checks, and pass them again after a round trip. -/
theorem isValid_iff_toEntries_ne_nil_repeatedRows :
    (check repeatedRows .strict).isValid = true ∧ (check repeatedRows .relaxed).isValid = true ∧
      (∃ role, (role, Action.read) ∈ Entry.grants (toEntries repeatedRows) ∧
        (role, Action.write) ∈ Entry.grants (toEntries repeatedRows)) ∧
      (check (group (toEntries repeatedRows) seriesField) .strict).isValid = true ∧
      (check (group (toEntries repeatedRows) wizardField) .relaxed).isValid = true := by
  have hstrict : (check repeatedRows .strict).isValid = true := by decide
  have hrelaxed : (check repeatedRows .relaxed).isValid = true := by decide
  obtain ⟨-, -, hrights, hagain⟩ := isValid_iff_toEntries_ne_nil repeatedRows
  exact ⟨hstrict, hrelaxed, (hrights hstrict).2.2, hagain .strict seriesField hstrict,
    hagain .relaxed wizardField hrelaxed⟩

end SeriesAcl.Policy
