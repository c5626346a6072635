import SeriesAcl.Catalog.Metadata

/-!
# The main catalog among the metadata

What lifting the main catalog out of the metadata does, told by the places of catalogs and fields:
which catalog goes, what is left, and what the header shows of it (`IsSplit`). Metadata is split in
this way and in no other one (`splitMain_eq_iff`).
-/

namespace SeriesAcl

/-- A field is a title with a text. -/
def Field.Titled (f : Field) (s : String) : Prop :=
  f.id = "title" ∧ f.value = .string s

/-- What is shown of a catalog as the main one. The fields are counted from 2 on, in 32 bits unless
there are too many of them, and the rest of the catalog is as it was. The title is that of the last
title field with a text, cut off behind 70 characters; the id of the series is the text of the first
identifier field. -/
structure MainCatalog.Shows (main : MainCatalog) (c : Catalog) : Prop where
  catalog : main.catalog =
    { c with fields := c.fields.mapIdx fun i f ↦ { f with tabIndex := some (2 + i) } }
  tabIndex_lt : c.fields.length < UInt32.size - 2 →
    ∀ f ∈ main.catalog.fields, ∀ n, f.tabIndex = some n → n < UInt32.size
  title : ∀ t, main.title = some t ↔
    ∃ before f behind s, c.fields = before ++ f :: behind ∧ f.Titled s ∧
      (∀ g ∈ behind, ∀ s', ¬g.Titled s') ∧ t = String.ofList (s.toList.take 70)
  seriesUid : ∀ uid, main.seriesUid = some uid ↔
    ∃ before f behind, c.fields = before ++ f :: behind ∧ f.id = "identifier" ∧
      (∀ g ∈ before, g.id ≠ "identifier") ∧ f.value = .string uid

namespace Metadata

/-- How metadata is split: not at all when no catalog has the main flavor, and otherwise at the last
one that has it. The other catalogs stay in their order, and a locked field of the main catalog
locks the metadata. -/
inductive IsSplit (m : Metadata) : Metadata × Option MainCatalog → Prop
  | whole : (∀ c ∈ m.catalogs, c.flavor ≠ Catalog.mainFlavor) → IsSplit m (m, none)
  | lifted {before behind : List Catalog} {c : Catalog} {locked : Bool} {main : MainCatalog} :
      m.catalogs = before ++ c :: behind → c.flavor = Catalog.mainFlavor →
      (∀ d ∈ behind, d.flavor ≠ Catalog.mainFlavor) →
      (locked = true ↔ m.locked = true ∨ ∃ f ∈ c.fields, f.locked = true) → main.Shows c →
      IsSplit m (⟨before ++ behind, locked⟩, some main)

/-! ### Places in a list -/

section Places

variable {α : Type} {test : α → Bool} {xs : List α}

private theorem cutFirst?_eq_none_iff : cutFirst? test xs = none ↔ ∀ x ∈ xs, test x = false := by
  induction xs with
  | nil => simp [cutFirst?]
  | cons x xs ih =>
    rw [cutFirst?, List.forall_mem_cons, ← ih]
    cases test x <;> simp

/-- A list is cut at its first item that passes the test. -/
theorem cutFirst?_eq_some_iff {before behind : List α} {found : α} :
    cutFirst? test xs = some (before, found, behind) ↔
      xs = before ++ found :: behind ∧ test found = true ∧ ∀ y ∈ before, test y = false := by
  induction xs generalizing before with
  | nil => simp [cutFirst?]
  | cons x xs ih =>
    rw [cutFirst?]
    cases hx : test x with
    | true =>
      rw [if_pos rfl, Option.some.injEq, Prod.mk.injEq, Prod.mk.injEq]
      constructor
      · rintro ⟨rfl, rfl, rfl⟩
        exact ⟨rfl, hx, nofun⟩
      · rintro ⟨hxs, -, hbefore⟩
        cases before with
        | nil =>
          obtain ⟨rfl, rfl⟩ := List.cons.inj hxs
          exact ⟨rfl, rfl, rfl⟩
        | cons y ys =>
          obtain ⟨rfl, -⟩ := List.cons.inj hxs
          cases hx.symm.trans (hbefore x List.mem_cons_self)
    | false =>
      rw [if_neg Bool.false_ne_true, Option.map_eq_some_iff]
      constructor
      · rintro ⟨⟨front, y, back⟩, hcut, heq⟩
        cases heq
        obtain ⟨rfl, hfound, hfront⟩ := ih.mp hcut
        exact ⟨rfl, hfound, List.forall_mem_cons.mpr ⟨hx, hfront⟩⟩
      · rintro ⟨hxs, hfound, hbefore⟩
        cases before with
        | nil =>
          obtain ⟨rfl, -⟩ := List.cons.inj hxs
          cases hx.symm.trans hfound
        | cons y ys =>
          obtain ⟨rfl, rfl⟩ := List.cons.inj hxs
          exact ⟨_, ih.mpr ⟨rfl, hfound, (List.forall_mem_cons.mp hbefore).2⟩, rfl⟩

private theorem takeLast?_eq_none_iff : takeLast? test xs = none ↔ ∀ x ∈ xs, test x = false := by
  rw [takeLast?, Option.map_eq_none_iff, cutFirst?_eq_none_iff]
  simp only [List.mem_reverse]

/-- The last item that passes the test is taken, and the others keep their order. -/
theorem takeLast?_eq_some_iff {found : α} {rest : List α} :
    takeLast? test xs = some (found, rest) ↔
      ∃ before behind, xs = before ++ found :: behind ∧ rest = before ++ behind ∧
        test found = true ∧ ∀ y ∈ behind, test y = false := by
  rw [takeLast?, Option.map_eq_some_iff]
  constructor
  · rintro ⟨⟨behind, y, before⟩, hcut, heq⟩
    cases heq
    obtain ⟨hxs, hfound, hbehind⟩ := cutFirst?_eq_some_iff.mp hcut
    refine ⟨before.reverse, behind.reverse, ?_, rfl, hfound, ?_⟩
    · rw [← List.reverse_reverse xs, hxs]
      simp
    · simpa only [List.mem_reverse] using hbehind
  · rintro ⟨before, behind, rfl, rfl, hfound, hbehind⟩
    refine ⟨(behind.reverse, found, before.reverse), cutFirst?_eq_some_iff.mpr ⟨?_, hfound, ?_⟩, ?_⟩
    · simp
    · simpa only [List.mem_reverse] using hbehind
    · simp

end Places

/-! ### What is shown -/

private theorem number_eq_mapIdx (next : Nat) (fields : List Field) :
    number next fields = fields.mapIdx fun i f ↦ { f with tabIndex := some (next + i) } := by
  induction fields generalizing next with
  | nil => rfl
  | cons f fs ih =>
    rw [number, ih, List.mapIdx_cons]
    simp only [Nat.add_zero, Nat.add_assoc, Nat.add_comm 1]

/-- The last of the numbers is one more than the number of fields. -/
theorem tabIndex_lt_of_mem_number {fields : List Field} {next bound : Nat}
    (hbound : next + fields.length ≤ bound) {f : Field} (hf : f ∈ number next fields) {n : Nat}
    (hn : f.tabIndex = some n) : n < bound := by
  rw [number_eq_mapIdx, List.mem_mapIdx] at hf
  obtain ⟨i, hi, rfl⟩ := hf
  cases hn
  omega

private theorem asString?_eq_some_iff {value : Json} {s : String} :
    value.asString? = some s ↔ value = .string s := by
  cases value <;> simp [Json.asString?]

private theorem titleOf?_eq_some_iff {f : Field} {t : String} :
    titleOf? f = some t ↔ ∃ s, f.Titled s ∧ t = String.ofList (s.toList.take 70) := by
  unfold titleOf? Field.Titled titleLength
  by_cases hid : f.id = "title"
  · rw [if_pos hid, Option.map_eq_some_iff]
    simp only [asString?_eq_some_iff, hid, true_and, eq_comm (a := t)]
  · simp [hid]

private theorem titleOf?_eq_none_iff {f : Field} : titleOf? f = none ↔ ∀ s, ¬f.Titled s := by
  rw [Option.eq_none_iff_forall_ne_some]
  constructor
  · intro h s hs
    exact h _ (titleOf?_eq_some_iff.mpr ⟨s, hs, rfl⟩)
  · intro h t ht
    obtain ⟨s, hs, -⟩ := titleOf?_eq_some_iff.mp ht
    exact h s hs

private theorem title_mainCatalog (c : Catalog) (t : String) :
    (mainCatalog c).title = some t ↔
      ∃ before f behind s, c.fields = before ++ f :: behind ∧ f.Titled s ∧
        (∀ g ∈ behind, ∀ s', ¬g.Titled s') ∧ t = String.ofList (s.toList.take 70) := by
  show (c.fields.filterMap titleOf?).getLast? = some t ↔ _
  rw [List.getLast?_filterMap, List.findSome?_eq_some_iff]
  constructor
  · rintro ⟨front, f, back, hfields, htitle, hnone⟩
    obtain ⟨s, hs, ht⟩ := titleOf?_eq_some_iff.mp htitle
    refine ⟨back.reverse, f, front.reverse, s, ?_, hs, ?_, ht⟩
    · rw [← List.reverse_reverse c.fields, hfields]
      simp
    · exact fun g hg ↦ titleOf?_eq_none_iff.mp (hnone g (List.mem_reverse.mp hg))
  · rintro ⟨before, f, behind, s, hfields, hs, hbehind, ht⟩
    refine ⟨behind.reverse, f, before.reverse, ?_, titleOf?_eq_some_iff.mpr ⟨s, hs, ht⟩, ?_⟩
    · rw [hfields]
      simp
    · exact fun g hg ↦ titleOf?_eq_none_iff.mpr (hbehind g (List.mem_reverse.mp hg))

private theorem seriesUid_mainCatalog (c : Catalog) (uid : String) :
    (mainCatalog c).seriesUid = some uid ↔
      ∃ before f behind, c.fields = before ++ f :: behind ∧ f.id = "identifier" ∧
        (∀ g ∈ before, g.id ≠ "identifier") ∧ f.value = .string uid := by
  show (c.field? "identifier" >>= fun f ↦ f.value.asString?) = some uid ↔ _
  simp only [Option.bind_eq_bind, Option.bind_eq_some_iff, Catalog.field?,
    List.find?_eq_some_iff_append, asString?_eq_some_iff, beq_iff_eq, Bool.not_eq_true',
    beq_eq_false_iff_ne, ne_eq]
  constructor
  · rintro ⟨f, ⟨hid, before, behind, hfields, hbefore⟩, hvalue⟩
    exact ⟨before, f, behind, hfields, hid, hbefore, hvalue⟩
  · rintro ⟨before, f, behind, hfields, hid, hbefore, hvalue⟩
    exact ⟨f, ⟨hid, before, behind, hfields, hbefore⟩, hvalue⟩

private theorem shows_mainCatalog (c : Catalog) : (mainCatalog c).Shows c where
  catalog := by
    rw [mainCatalog, number_eq_mapIdx, firstTabIndex]
  tabIndex_lt := by
    intro hlength f hf n hn
    exact tabIndex_lt_of_mem_number (by rw [firstTabIndex]; omega) hf hn
  title := title_mainCatalog c
  seriesUid := seriesUid_mainCatalog c

/-- There is one way to show a catalog as the main one. -/
theorem eq_mainCatalog_of_shows {main : MainCatalog} {c : Catalog} (h : main.Shows c) :
    main = mainCatalog c := by
  have hshown := shows_mainCatalog c
  obtain ⟨catalog, title, uid⟩ := main
  have hcatalog : catalog = (mainCatalog c).catalog := h.catalog.trans hshown.catalog.symm
  have htitle : title = (mainCatalog c).title :=
    Option.ext fun t ↦ (h.title t).trans (hshown.title t).symm
  have huid : uid = (mainCatalog c).seriesUid :=
    Option.ext fun u ↦ (h.seriesUid u).trans (hshown.seriesUid u).symm
  rw [hcatalog, htitle, huid]

/-! ### The split -/

/-- Metadata is split at the last catalog of the main flavor, and in no other way. -/
theorem splitMain_eq_iff (m : Metadata) (result : Metadata × Option MainCatalog) :
    m.splitMain = result ↔ m.IsSplit result := by
  have hmain : ∀ c : Catalog, (c.flavor == Catalog.mainFlavor) = false ↔
      c.flavor ≠ Catalog.mainFlavor := fun c ↦ beq_eq_false_iff_ne
  unfold splitMain
  constructor
  · rintro rfl
    split
    · next hnone =>
      exact .whole fun c hc ↦ (hmain c).mp (takeLast?_eq_none_iff.mp hnone c hc)
    · next c rest htake =>
      obtain ⟨before, behind, hcatalogs, rfl, hflavor, hbehind⟩ := takeLast?_eq_some_iff.mp htake
      refine .lifted hcatalogs (beq_iff_eq.mp hflavor) (fun d hd ↦ (hmain d).mp (hbehind d hd)) ?_
        (shows_mainCatalog c)
      rw [Bool.or_eq_true, List.any_eq_true]
  · intro h
    cases h with
    | whole hnone =>
      rw [takeLast?_eq_none_iff.mpr fun c hc ↦ (hmain c).mpr (hnone c hc)]
    | @lifted before behind c locked main hcatalogs hflavor hbehind hlocked hshown =>
      have htake : takeLast? (fun c ↦ c.flavor == Catalog.mainFlavor) m.catalogs =
          some (c, before ++ behind) :=
        takeLast?_eq_some_iff.mpr ⟨before, behind, hcatalogs, rfl, beq_iff_eq.mpr hflavor,
          fun d hd ↦ (hmain d).mpr (hbehind d hd)⟩
      have hlock : (m.locked || c.fields.any (·.locked)) = locked := by
        rw [Bool.eq_iff_iff, Bool.or_eq_true, List.any_eq_true, hlocked]
      rw [htake, eq_mainCatalog_of_shows hshown]
      dsimp only
      rw [hlock]

end Metadata

end SeriesAcl
