import Mathlib.Data.List.TakeWhile
import SeriesAcl.Admin.Store
import SeriesAcl.Proofs.Roles.Traffic
import SeriesAcl.Proofs.Text.Ascii
import SeriesAcl.Proofs.Text.Occurrence

/-!
# What a role search finds

A search is sent as one of the components of a filter, between commas, and is not marked off there
in any other way. So a node in memory looks for the part of the search in front of its first comma
(`page_search`), and a search finds the roles with its text in their name, whatever roles the node
has, exactly when it has no comma (`listRoles_search_iff`).
-/

namespace SeriesAcl

/-! ### Commas and lower case -/

namespace Text

private theorem ofNat_ne_comma {n : Nat} (h : 0x2C < n) : Char.ofNat n ≠ ',' := by
  by_cases hvalid : n.isValidChar
  · rw [Char.ofNat, dif_pos hvalid]
    intro hn
    have hnat : n = 0x2C := congrArg Char.toNat hn
    omega
  · rw [Char.ofNat, dif_neg hvalid]
    decide

private theorem toLower_eq_comma_iff {c : Char} (h : c.toNat < 0x80) : c.toLower = ',' ↔ c = ',' :=
  of_forall_ascii (P := fun c ↦ c.toLower = ',' ↔ c = ',') (by decide) h

/-- Every letter of the table has its lower case behind the comma. -/
theorem comma_lt_lower : ∀ range ∈ CaseTable.lowerRanges, 0x2C < range.2.2.2 := by
  decide +kernel

private theorem comma_mem_lowerChar_iff (c : Char) : ',' ∈ lowerChar c ↔ c = ',' := by
  unfold lowerChar
  split
  · next hascii =>
    rw [List.mem_singleton, eq_comm, toLower_eq_comma_iff hascii]
  · next hwide =>
    have hc : c ≠ ',' := by
      rintro rfl
      exact hwide (by decide)
    refine iff_of_false ?_ hc
    split
    · decide
    · dsimp only
      split
      · next first last step lower hfind =>
        have hlower := comma_lt_lower _ (List.mem_of_find?_eq_some hfind)
        rw [List.mem_singleton]
        exact (ofNat_ne_comma (Nat.lt_add_right _ hlower)).symm
      · rw [List.mem_singleton]
        exact hc.symm

private theorem comma_mem_lowerFrom_iff (before s : List Char) :
    ',' ∈ lowerFrom before s ↔ ',' ∈ s := by
  induction s generalizing before with
  | nil => rfl
  | cons c cs ih =>
    rw [lowerFrom]
    split
    · next hc =>
      subst hc
      rw [List.mem_cons, List.mem_cons, ih]
      refine or_congr_left (iff_of_false ?_ (by decide))
      split <;> decide
    · rw [List.mem_append, List.mem_cons, ih, comma_mem_lowerChar_iff, eq_comm]

private theorem comma_mem_lower_iff (s : String) : ',' ∈ (lower s).toList ↔ ',' ∈ s.toList := by
  rw [lower, String.toList_ofList, comma_mem_lowerFrom_iff]

end Text

/-! ### The filter -/

/-- The lower case of a text stands in the lower case of a role's name. -/
def RoleEntry.IsNamed (text : String) (r : RoleEntry) : Prop :=
  Text.Occurs (Text.lower text) (Text.lower r.name)

/-- Decided on the two texts in lower case. -/
instance (text : String) : DecidablePred (RoleEntry.IsNamed text) := fun r ↦
  inferInstanceAs (Decidable (Text.Occurs (Text.lower text) (Text.lower r.name)))

private theorem RoleEntry.isNamed_name (name : String) (value : Option String) :
    RoleEntry.IsNamed name ⟨name, value⟩ :=
  List.infix_rfl

/-- A role is not found by a text with a comma when its name has none. -/
theorem RoleEntry.IsNamed.comma_mem {text : String} {r : RoleEntry} (h : r.IsNamed text)
    (hc : ',' ∈ text.toList) : ',' ∈ r.name.toList := by
  rw [← Text.comma_mem_lower_iff] at hc ⊢
  exact h.subset hc

/-- The first roles with a text in their name, in the order of the list. -/
def RoleEntry.named (roles : List RoleEntry) (limit : Nat) (text : String) : List RoleEntry :=
  (roles.filter fun r ↦ r.IsNamed text).take limit

namespace RoleQuery

/-- The part of a text in front of its first comma. -/
def firstComponent (text : String) : String :=
  String.ofList (text.toList.takeWhile fun c ↦ c ≠ ',')

private theorem comma_notMem_firstComponent (text : String) :
    ',' ∉ (firstComponent text).toList := by
  rw [firstComponent, String.toList_ofList]
  intro h
  simpa using List.mem_takeWhile_imp h

private theorem firstComponent_eq_self {text : String} (h : ',' ∉ text.toList) :
    firstComponent text = text := by
  have hall : ∀ c ∈ text.toList, decide (c ≠ ',') = true := by
    intro c hc
    exact decide_eq_true (ne_of_mem_of_not_mem hc h)
  rw [firstComponent, List.takeWhile_eq_self_iff.mpr hall, String.ofList_toList]

/-- A role that is named like the part of a text in front of its first comma is found by that part,
and not by the text. -/
theorem named_firstComponent_ne {text : String} (hcomma : ',' ∈ text.toList) :
    RoleEntry.named [⟨firstComponent text, none⟩] 1 (firstComponent text) ≠
      RoleEntry.named [⟨firstComponent text, none⟩] 1 text := by
  have hunnamed : ¬RoleEntry.IsNamed text ⟨firstComponent text, none⟩ := fun hnamed ↦
    comma_notMem_firstComponent text (hnamed.comma_mem hcomma)
  simp [RoleEntry.named, RoleEntry.isNamed_name, hunnamed]

/-- The comma behind a search is not the first one when the search has one itself. -/
theorem exists_behind_firstComponent (text : String) (rest : List Char) :
    ∃ behind, text.toList ++ ',' :: rest = (firstComponent text).toList ++ ',' :: behind := by
  rw [firstComponent, String.toList_ofList]
  induction text.toList with
  | nil => exact ⟨rest, rfl⟩
  | cons c cs ih =>
    by_cases hc : c = ','
    · refine ⟨cs ++ ',' :: rest, ?_⟩
      simp [hc]
    · obtain ⟨behind, hbehind⟩ := ih
      refine ⟨behind, ?_⟩
      rw [List.cons_append, hbehind]
      simp [hc]

/-- The name that a filter asks for is the search up to its first comma. -/
theorem wantedName_filter (text : String) :
    Store.wantedName (nameMark ++ text ++ "," ++ targetFilter) =
      some (Text.lower (firstComponent text)) := by
  obtain ⟨behind, hbehind⟩ := exists_behind_firstComponent text targetFilter.toList
  have hfilter : (nameMark ++ text ++ "," ++ targetFilter).toList =
      nameMark.toList ++ (firstComponent text).toList ++ ',' :: behind := by
    rw [List.append_assoc, ← hbehind]
    simp
  have hcomma : ',' ∉ nameMark.toList ++ (firstComponent text).toList := by
    rw [List.mem_append, not_or]
    exact ⟨by decide, comma_notMem_firstComponent text⟩
  have hafter : Text.after? nameMark.toList (nameMark.toList ++ (firstComponent text).toList) =
      some (firstComponent text).toList :=
    Text.after?_eq_some_iff.mpr rfl
  rw [Store.wantedName, hfilter, Text.splitAtChar_append hcomma, List.findSome?_cons, hafter,
    Option.map_some, String.ofList_toList]

private theorem make_of_not_allBlank {search : String} (h : Text.allBlank search = false)
    (limit offset : Nat) :
    make limit offset (some search) =
      ⟨limit, 0, nameMark ++ Text.trim search ++ "," ++ targetFilter⟩ := by
  have htrim : Text.trim search ≠ "" := by
    rw [ne_eq, Text.trim_eq_empty_iff, h]
    exact Bool.false_ne_true
  have htext : searchText (some search) = some (Text.trim search) := by
    rw [searchText, Option.map_some, Option.filter_some, if_pos (decide_eq_true htrim)]
  rw [make, htext]

end RoleQuery

namespace Store

/-- The page of a search holds the first roles with the part of the search in front of its first
comma in their name. -/
theorem page_search {search : String} (h : Text.allBlank search = false) (limit offset : Nat)
    (roles : List RoleEntry) :
    page roles (RoleQuery.make limit offset (some search)) =
      RoleEntry.named roles limit (RoleQuery.firstComponent (Text.trim search)) := by
  rw [RoleQuery.make_of_not_allBlank h, page]
  simp only [RoleQuery.wantedName_filter, Text.contains_eq_decide]
  rfl

private theorem answer_listRoles (s : Store) (hs : .listRoles ∉ s.failing) (query : RoleQuery) :
    (AdminNode.listRoles query s).1 = .ok (page s.roles query) := by
  simp only [AdminNode.listRoles, listRoles, guarded, if_neg hs]

/-- A node that lists one role. -/
def listing (role : String) : Store :=
  { empty with roles := [⟨role, none⟩] }

/-- A search that is not blank finds the first roles with its text in front of the first comma in
their name. So it finds those with the whole text, up to letter case and the blanks around it,
whatever roles the node has, exactly when there is no comma in it. -/
theorem listRoles_search_iff {search : String} (h : Text.allBlank search = false) :
    (∀ (s : Store) (limit offset : Nat), .listRoles ∉ s.failing →
        (AdminNode.listRoles (RoleQuery.make limit offset (some search)) s).1 =
          .ok (RoleEntry.named s.roles limit (RoleQuery.firstComponent (Text.trim search)))) ∧
      ((∀ (s : Store) (limit offset : Nat), .listRoles ∉ s.failing →
          (AdminNode.listRoles (RoleQuery.make limit offset (some search)) s).1 =
            .ok (RoleEntry.named s.roles limit (Text.trim search))) ↔
        ',' ∉ (Text.trim search).toList) := by
  have hfirst : ∀ (s : Store) (limit offset : Nat), .listRoles ∉ s.failing →
      (AdminNode.listRoles (RoleQuery.make limit offset (some search)) s).1 =
        .ok (RoleEntry.named s.roles limit (RoleQuery.firstComponent (Text.trim search))) := by
    intro s limit offset hs
    rw [answer_listRoles s hs, page_search h]
  refine ⟨hfirst, fun hwhole hcomma ↦ ?_, fun hcomma s limit offset hs ↦ ?_⟩
  · let s := listing (RoleQuery.firstComponent (Text.trim search))
    have hs : .listRoles ∉ s.failing := nofun
    have hsame := (hfirst s 1 0 hs).symm.trans (hwhole s 1 0 hs)
    exact RoleQuery.named_firstComponent_ne hcomma (Except.ok.inj hsame)
  · rw [hfirst s limit offset hs, RoleQuery.firstComponent_eq_self hcomma]

/-- A node of two roles, one of which has a comma in its name. -/
def pairedRoles : Store :=
  { empty with roles := [⟨"ROLE_A", none⟩, ⟨"ROLE_A,B", none⟩] }

/-- The part in front of the comma is found, which differs from the whole search. -/
theorem listRoles_search_iff_pairedRoles :
    Text.allBlank " a,b " = false ∧
      (AdminNode.listRoles (RoleQuery.make 10 0 (some " a,b ")) pairedRoles).1 =
        .ok (RoleEntry.named pairedRoles.roles 10 (RoleQuery.firstComponent "a,b")) ∧
      ¬∀ (s : Store) (limit offset : Nat), .listRoles ∉ s.failing →
        (AdminNode.listRoles (RoleQuery.make limit offset (some " a,b ")) s).1 =
          .ok (RoleEntry.named s.roles limit "a,b") := by
  have hblank : Text.allBlank " a,b " = false := by decide
  have htrim : Text.trim " a,b " = "a,b" := by decide
  obtain ⟨hfirst, hwhole⟩ := listRoles_search_iff hblank
  rw [htrim] at hfirst hwhole
  exact ⟨hblank, hfirst pairedRoles 10 0 nofun, fun h ↦ hwhole.mp h (by decide)⟩

/-- A search with a comma finds a role that does not have the text in its name. -/
theorem not_listRoles_search_pairedRoles :
    ¬∀ (s : Store) (limit offset : Nat) (search : String), Text.allBlank search = false →
      .listRoles ∉ s.failing →
        (AdminNode.listRoles (RoleQuery.make limit offset (some search)) s).1 =
          .ok (RoleEntry.named s.roles limit (Text.trim search)) := by
  intro h
  have hall := h pairedRoles 10 0 "A,B" (by decide) nofun
  have hanswer : (AdminNode.listRoles (RoleQuery.make 10 0 (some "A,B")) pairedRoles).1 =
      .ok pairedRoles.roles := by
    decide +kernel
  have hnamed : RoleEntry.named pairedRoles.roles 10 (Text.trim "A,B") =
      [⟨"ROLE_A,B", none⟩] := by
    decide +kernel
  rw [hanswer, hnamed] at hall
  exact absurd (Except.ok.inj hall) (by decide)

end Store

end SeriesAcl
