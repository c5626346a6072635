import SeriesAcl.Directory.Resource
import SeriesAcl.Proofs.Json.Canonical
import SeriesAcl.Proofs.Text.Occurrence

/-!
# The user directory as a resource list

The user directory comes as a resource list does, and the two are read from the same value. The
directory has a tag for every member with a text, and so the tags of the members that the list has;
but it does not leave out the bookkeeping keys. The two agree on a value exactly when no bookkeeping
key has a text there (`tagsOf_canonical`).
-/

namespace SeriesAcl

namespace Json

/-- The text of a member of an object. -/
def text? (key : String) : Json → Option String
  | .object members => (Dict.lookup key members).bind asString?
  | _ => none

end Json

namespace Resource

/-- A bookkeeping key begins with a dollar sign. -/
theorem isBookkeeping_iff {key : String} : isBookkeeping key = true ↔ ['$'] <+: key.toList :=
  Text.startsWith_iff

/-- The user directory and the resource list of a value agree: the keys of the tags are those keys
of the list that have a text in the value, a tag has its key as its name too and the text as its
value, and no bookkeeping key has a tag. -/
structure Agree (v : Json) : Prop where
  keys : (tagsOf v).map UserTag.key = (listOf v).keys.filter fun key ↦ (v.text? key).isSome
  tags : ∀ tag ∈ tagsOf v, tag.name = tag.key ∧ v.text? tag.key = some tag.value
  unmarked : ∀ tag ∈ tagsOf v, ¬['$'] <+: tag.key.toList

/-! ### Members -/

private theorem tag?_eq (m : String × Json) :
    tag? m = m.2.asString?.map fun role ↦ ⟨m.1, m.1, role⟩ := by
  obtain ⟨key, value⟩ := m
  cases value <;> rfl

/-- Members in key order. -/
abbrev InOrder (members : List (String × Json)) : Prop :=
  (Dict.mk members).Sorted

section Members

variable {members : List (String × Json)}

private theorem keys_tagsOf (members : List (String × Json)) :
    (tagsOf (.object members)).map UserTag.key =
      (members.filter fun m ↦ m.2.asString?.isSome).map Prod.fst := by
  rw [tagsOf]
  induction members with
  | nil => rfl
  | cons m rest ih =>
    cases htext : m.2.asString? with
    | none =>
      have htag : tag? m = none := by rw [tag?_eq, htext, Option.map_none]
      rw [List.filterMap_cons_none htag, List.filter_cons_of_neg (by rw [htext]; decide), ih]
    | some role =>
      have htag : tag? m = some ⟨m.1, m.1, role⟩ := by rw [tag?_eq, htext, Option.map_some]
      rw [List.filterMap_cons_some htag, List.filter_cons_of_pos (by rw [htext]; rfl),
        List.map_cons, List.map_cons, ih]

variable (h : InOrder members)
include h

private theorem keys_listOf :
    (listOf (.object members)).keys =
      (members.filter fun m ↦ !isBookkeeping m.1).map Prod.fst := by
  have hsorted : (Dict.mk ((members.filter fun m ↦ !isBookkeeping m.1).map fun m ↦
      (m.1, label m.2))).Sorted :=
    List.pairwise_map.mpr (h.filter _)
  rw [listOf, Dict.keys, Dict.entries_ofList hsorted, List.map_map]
  rfl

/-- What is found at the key of a member is the text of the member. -/
theorem text?_of_mem {m : String × Json} (hm : m ∈ members) :
    Json.text? m.1 (.object members) = m.2.asString? := by
  rw [Json.text?, (Dict.lookup_eq_some_iff h.nodup_keys).mpr hm, Option.bind_some]

private theorem mem_tagsOf_iff {tag : UserTag} :
    tag ∈ tagsOf (.object members) ↔
      tag.name = tag.key ∧ Json.text? tag.key (.object members) = some tag.value := by
  rw [tagsOf, List.mem_filterMap]
  constructor
  · rintro ⟨m, hm, htag⟩
    rw [tag?_eq] at htag
    obtain ⟨role, htext, rfl⟩ := Option.map_eq_some_iff.mp htag
    exact ⟨rfl, (text?_of_mem h hm).trans htext⟩
  · obtain ⟨key, name, role⟩ := tag
    rintro ⟨hname, htext⟩
    obtain rfl : name = key := hname
    obtain ⟨value, hvalue, htext⟩ := Option.bind_eq_some_iff.mp htext
    refine ⟨(name, value), Dict.mem_of_lookup hvalue, ?_⟩
    rw [tag?_eq, htext, Option.map_some]

/-- Bookkeeping keys aside, the tags have the keys of the list that have a text. -/
theorem filter_keys_tagsOf :
    ((tagsOf (.object members)).map UserTag.key).filter (fun key ↦ !isBookkeeping key) =
      (listOf (.object members)).keys.filter fun key ↦
        (Json.text? key (.object members)).isSome := by
  rw [keys_tagsOf, keys_listOf h, List.filter_map, List.filter_map, List.filter_filter,
    List.filter_filter]
  congr 1
  apply List.filter_congr
  intro m hm
  rw [Function.comp_apply, Function.comp_apply, text?_of_mem h hm, Bool.and_comm]

end Members

/-- The user directory and the resource list agree on members in key order exactly when no
bookkeeping key has a text. -/
theorem agree_object_iff {members : List (String × Json)} (h : InOrder members) :
    Agree (.object members) ↔
      ∀ key, ['$'] <+: key.toList → Json.text? key (.object members) = none := by
  constructor
  · intro hagree key hkey
    rw [Option.eq_none_iff_forall_ne_some]
    intro role htext
    -- A bookkeeping key with a text would have a tag.
    have htag : (⟨key, key, role⟩ : UserTag) ∈ tagsOf (.object members) :=
      (mem_tagsOf_iff h).mpr ⟨rfl, htext⟩
    exact hagree.unmarked _ htag hkey
  · intro hnone
    have hunmarked : ∀ tag ∈ tagsOf (.object members), ¬['$'] <+: tag.key.toList := by
      intro tag htag hkey
      have htext := ((mem_tagsOf_iff h).mp htag).2
      rw [hnone tag.key hkey] at htext
      cases htext
    refine ⟨?_, fun tag htag ↦ (mem_tagsOf_iff h).mp htag, hunmarked⟩
    rw [← filter_keys_tagsOf h, eq_comm, List.filter_eq_self]
    intro key hkey
    obtain ⟨tag, htag, rfl⟩ := List.mem_map.mp hkey
    rw [Bool.not_eq_true', ← Bool.not_eq_true, isBookkeeping_iff]
    exact hunmarked tag htag

private theorem agree_of_nil {v : Json} (htags : tagsOf v = []) (hlist : (listOf v).keys = []) :
    Agree v := by
  refine ⟨?_, ?_, ?_⟩
  · rw [htags, hlist]
    rfl
  all_goals
    rw [htags]
    exact nofun

/-- Of every value, as it is held with its members in key order, the user directory has a tag for
each member with a text, whose keys, bookkeeping aside, are those of the resource list. So the two
agree on a value exactly when no bookkeeping key has a text in it. -/
theorem tagsOf_canonical (v : Json) :
    (∀ tag, tag ∈ tagsOf v.canonical ↔
        tag.name = tag.key ∧ v.canonical.text? tag.key = some tag.value) ∧
      ((tagsOf v.canonical).map UserTag.key).filter (fun key ↦ !isBookkeeping key) =
        (listOf v.canonical).keys.filter (fun key ↦ (v.canonical.text? key).isSome) ∧
      (Agree v.canonical ↔ ∀ key, ['$'] <+: key.toList → v.canonical.text? key = none) := by
  cases v with
  | object members =>
    have h : InOrder (Json.canonicalObject members) := Json.sorted_canonicalObject members
    exact ⟨fun tag ↦ mem_tagsOf_iff h, filter_keys_tagsOf h, agree_object_iff h⟩
  | null | bool | number | string | array =>
    refine ⟨fun tag ↦ iff_of_false nofun nofun, rfl, ?_⟩
    exact iff_of_true (agree_of_nil rfl rfl) fun _ _ ↦ rfl

/-- A bookkeeping key with a text has a tag. -/
theorem not_agree_versionedDirectory :
    ¬∀ v : Json, Agree v.canonical := by
  intro h
  have hagree := h (.object [("$version", .string "7")])
  have htag : (⟨"$version", "$version", "7"⟩ : UserTag) ∈
      tagsOf (Json.canonical (.object [("$version", .string "7")])) :=
    List.mem_singleton.mpr rfl
  exact hagree.unmarked _ htag (by decide)

end Resource

end SeriesAcl
