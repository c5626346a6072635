import Mathlib.Tactic.SplitIfs
import SeriesAcl.Json.Decode

/-!
# Reading compact text

A value in its compact form is read back as its tree (`read_compact`), whatever characters its texts
hold: every character is escaped in a way that is read as that character (`exists_piece`). This is
shown for values without numbers that nest no deeper than a reader follows, as the records of access
lists are. A typed reading of the text then gives what the value itself holds (`ofText_compact`).
-/

namespace SeriesAcl.Json

open Reader

mutual

/-- A value without numbers, nested at most `room` levels deep. -/
def Plain (room : Nat) : Json → Prop
  | .number _ => False
  | .array items => 0 < room ∧ ItemsPlain (room - 1) items
  | .object members => 0 < room ∧ MembersPlain (room - 1) members
  | _ => True

/-- Every item is plain. -/
def ItemsPlain (room : Nat) : List Json → Prop
  | [] => True
  | item :: items => item.Plain room ∧ ItemsPlain room items

/-- Every member's value is plain. -/
def MembersPlain (room : Nat) : List (String × Json) → Prop
  | [] => True
  | (_, value) :: members => value.Plain room ∧ MembersPlain room members

end

/-! ### Texts -/

/-- An escape of one letter is read as the character it stands for. -/
theorem pieces?_escaped {e c : Char} (hu : e ≠ 'u') (h : escaped? e = some c) (s : List Char) :
    pieces? ('\\' :: e :: s) = (pieces? s).map fun (ps, rest) ↦ (.char c :: ps, rest) := by
  rw [pieces?]
  · rw [h]
    cases pieces? s <;> rfl
  · rintro _ _ _ _ _ rfl
    exact absurd rfl hu

private theorem hexUnit?_digitChar :
    ∀ n < 0x20, hexUnit? '0' '0' (Nat.digitChar (n / 16)) (Nat.digitChar (n % 16)) = some n := by
  decide

/-- An escape by number is read as the code unit of that number. -/
theorem pieces?_control {n : Nat} (h : n < 0x20) (s : List Char) :
    pieces? ('\\' :: 'u' :: '0' :: '0' :: Nat.digitChar (n / 16) :: Nat.digitChar (n % 16) :: s) =
      (pieces? s).map fun (ps, rest) ↦ (.unit n :: ps, rest) := by
  rw [pieces?, hexUnit?_digitChar n h]
  cases pieces? s <;> rfl

/-- A character that needs no escape is read as itself. -/
theorem pieces?_plain {c : Char} (hq : c ≠ '"') (hb : c ≠ '\\') (hc : ¬c.toNat < 0x20)
    (s : List Char) :
    pieces? (c :: s) = (pieces? s).map fun (ps, rest) ↦ (.char c :: ps, rest) := by
  rw [pieces?, if_neg (not_or_intro hb hc)]
  · cases pieces? s <;> rfl
  · exact hq
  · rintro _ _ _ _ _ rfl
    exact absurd rfl hb
  · rintro _ _ rfl
    exact absurd rfl hb

/-- A code unit that is no surrogate is a character of its own. -/
theorem characters?_unit {n : Nat} (h : n < 0xD800) (ps : List Piece) :
    characters? (.unit n :: ps) = (characters? ps).map (Char.ofNat n :: ·) := by
  have hsurrogate : ¬(0xD800 ≤ n ∧ n < 0xE000) := by omega
  have hhigh : ¬(0xD800 ≤ n ∧ n < 0xDC00) := by omega
  have hlow : ¬(0xDC00 ≤ n ∧ n < 0xE000) := by omega
  match ps with
  | [] => simp only [characters?, if_neg hsurrogate, Option.map_some]
  | .char c :: ps =>
    simp only [characters?, if_neg hsurrogate, Option.map_map]
    rfl
  | .unit m :: ps => simp only [characters?, if_neg hhigh, if_neg hlow]

/-- An escaped character is read as one piece, and that piece stands for the character. -/
theorem exists_piece (c : Char) :
    ∃ p, (∀ s, pieces? (escape c ++ s) = (pieces? s).map fun (ps, rest) ↦ (p :: ps, rest)) ∧
      ∀ ps, characters? (p :: ps) = (characters? ps).map (c :: ·) := by
  have hletter {e : Char} (hu : e ≠ 'u') (he : escaped? e = some c) :
      ∃ p, (∀ s, pieces? ('\\' :: e :: s) = (pieces? s).map fun (ps, rest) ↦ (p :: ps, rest)) ∧
        ∀ ps, characters? (p :: ps) = (characters? ps).map (c :: ·) :=
    ⟨.char c, pieces?_escaped hu he, fun _ ↦ rfl⟩
  unfold escape
  split_ifs with hquote hslash hback htab hline hform hreturn hcontrol
  · exact hletter (by decide) (by rw [hquote]; rfl)
  · exact hletter (by decide) (by rw [hslash]; rfl)
  · exact hletter (by decide) (by rw [← c.ofNat_toNat, hback]; rfl)
  · exact hletter (by decide) (by rw [htab]; rfl)
  · exact hletter (by decide) (by rw [hline]; rfl)
  · exact hletter (by decide) (by rw [← c.ofNat_toNat, hform]; rfl)
  · exact hletter (by decide) (by rw [hreturn]; rfl)
  · refine ⟨.unit c.toNat, pieces?_control hcontrol, fun ps ↦ ?_⟩
    rw [characters?_unit (by omega), c.ofNat_toNat]
  · exact ⟨.char c, pieces?_plain hquote hslash hcontrol, fun _ ↦ rfl⟩

/-- An escaped text is read up to the quote behind it. -/
theorem exists_pieces (cs s : List Char) :
    ∃ ps, pieces? (cs.flatMap escape ++ '"' :: s) = some (ps, s) ∧ characters? ps = some cs := by
  induction cs with
  | nil => exact ⟨[], rfl, rfl⟩
  | cons c cs ih =>
    obtain ⟨ps, hps, hchars⟩ := ih
    obtain ⟨p, hp, hpchars⟩ := exists_piece c
    refine ⟨p :: ps, ?_, ?_⟩
    · rw [List.flatMap_cons, List.append_assoc, hp, hps]
      rfl
    · rw [hpchars, hchars]
      rfl

/-- A quoted text is read back behind its first quote. -/
theorem string?_escape (text : String) (s : List Char) :
    string? (text.toList.flatMap escape ++ '"' :: s) = some (some text, s) := by
  obtain ⟨ps, hps, hchars⟩ := exists_pieces text.toList s
  unfold string?
  rw [hps, Option.map_some]
  dsimp only
  rw [hchars, Option.map_some, String.ofList_toList]

/-! ### Values -/

private theorem skipSpace_cons {c : Char} (h : isSpace c = false) (s : List Char) :
    skipSpace (c :: s) = c :: s := by
  rw [skipSpace, List.dropWhile_cons, h]
  rfl

/-- The compact form of a plain value starts with no blank and no closing bracket. -/
theorem exists_compactChars_eq {v : Json} {room : Nat} (h : v.Plain room) :
    ∃ c cs, v.compactChars = c :: cs ∧ isSpace c = false ∧ c ≠ ']' := by
  match v with
  | .null => exact ⟨_, _, rfl, rfl, by decide⟩
  | .bool true => exact ⟨_, _, rfl, rfl, by decide⟩
  | .bool false => exact ⟨_, _, rfl, rfl, by decide⟩
  | .number _ => exact h.elim
  | .string _ => exact ⟨_, _, rfl, rfl, by decide⟩
  | .array [] => exact ⟨_, _, rfl, rfl, by decide⟩
  | .array (_ :: _) => exact ⟨_, _, rfl, rfl, by decide⟩
  | .object [] => exact ⟨_, _, rfl, rfl, by decide⟩
  | .object ((_, _) :: _) => exact ⟨_, _, rfl, rfl, by decide⟩

private theorem within_of_pos {room : Nat} (h : 0 < room) (r : Reading Node) :
    within room r = r := by
  obtain ⟨n, rfl⟩ := Nat.exists_eq_succ_of_ne_zero (Nat.ne_of_gt h)
  cases r
  rfl

/-- A value that starts with a quote is the text behind it. -/
theorem value_string {fuel room : Nat} {cs s : List Char} {text : String}
    (h : string? cs = some (some text, s)) :
    value (fuel + 1) room ('"' :: cs) = ⟨.string text, some s⟩ := by
  simp only [value, skipSpace_cons (c := '"') rfl, h]

/-- A value that starts with a bracket is the array of the items behind it. -/
theorem value_array {fuel room : Nat} (hroom : 0 < room) {c : Char} {cs : List Char}
    (hspace : isSpace c = false) (hc : c ≠ ']') {nodes : List Node} {s : List Char}
    (h : items fuel (room - 1) (c :: cs) = ⟨nodes, some s⟩) :
    value (fuel + 1) room ('[' :: c :: cs) = ⟨.array nodes, some s⟩ := by
  simp only [value, skipSpace_cons (c := '[') rfl, skipSpace_cons hspace]
  split
  · next heq => exact absurd (List.cons.inj heq).1 hc
  · rw [h, within_of_pos hroom]

/-- A value that starts with a brace is the object of the members behind it. -/
theorem value_object {fuel room : Nat} (hroom : 0 < room) {cs : List Char}
    {nodes : List (Option String × Node)} {s : List Char}
    (h : members fuel (room - 1) ('"' :: cs) = ⟨nodes, some s⟩) :
    value (fuel + 1) room ('\x7b' :: '"' :: cs) = ⟨.object nodes, some s⟩ := by
  simp only [value, skipSpace_cons (c := '\x7b') rfl, skipSpace_cons (c := '"') rfl]
  split
  · next heq => exact absurd (List.cons.inj heq).1 (by decide)
  · rw [h, within_of_pos hroom]

/-- The last item of an array. -/
theorem items_last {fuel room : Nat} {cs s : List Char} {node : Node}
    (h : value fuel room cs = ⟨node, some (']' :: s)⟩) :
    items (fuel + 1) room cs = ⟨[node], some s⟩ := by
  simp only [items, h, skipSpace_cons (c := ']') rfl]

/-- An item of an array with others behind it. -/
theorem items_more {fuel room : Nat} {cs next s : List Char} {node : Node} {nodes : List Node}
    (h : value fuel room cs = ⟨node, some (',' :: next)⟩)
    (hnext : items fuel room next = ⟨nodes, some s⟩) :
    items (fuel + 1) room cs = ⟨node :: nodes, some s⟩ := by
  simp only [items, h, skipSpace_cons (c := ',') rfl, hnext]

/-- The last member of an object. -/
theorem members_last {fuel room : Nat} {cs rest s : List Char} {key : String} {node : Node}
    (hkey : string? cs = some (some key, ':' :: rest))
    (h : value fuel room rest = ⟨node, some ('\x7d' :: s)⟩) :
    members (fuel + 1) room ('"' :: cs) = ⟨[(some key, node)], some s⟩ := by
  simp only [members, skipSpace_cons (c := '"') rfl, hkey, skipSpace_cons (c := ':') rfl, h,
    skipSpace_cons (c := '\x7d') rfl]

/-- A member of an object with others behind it. -/
theorem members_more {fuel room : Nat} {cs rest next s : List Char} {key : String} {node : Node}
    {nodes : List (Option String × Node)} (hkey : string? cs = some (some key, ':' :: rest))
    (h : value fuel room rest = ⟨node, some (',' :: next)⟩)
    (hnext : members fuel room next = ⟨nodes, some s⟩) :
    members (fuel + 1) room ('"' :: cs) = ⟨(some key, node) :: nodes, some s⟩ := by
  simp only [members, skipSpace_cons (c := '"') rfl, hkey, skipSpace_cons (c := ':') rfl, h,
    skipSpace_cons (c := ',') rfl, hnext]

mutual

/-- A plain value is read off the front of a text. The fuel does not run out, since every value that
is nested or follows takes at least one character. -/
theorem value_compactChars (v : Json) {fuel room : Nat} (h : v.Plain room)
    (hfuel : v.compactChars.length ≤ fuel) (s : List Char) :
    value fuel room (v.compactChars ++ s) = ⟨Node.ofJson v, some s⟩ := by
  match fuel with
  | 0 =>
    obtain ⟨c, cs, hcs, -, -⟩ := exists_compactChars_eq h
    simp [hcs] at hfuel
  | fuel + 1 =>
    match v with
    | .null => rfl
    | .bool true => rfl
    | .bool false => rfl
    | .number _ => exact h.elim
    | .string text =>
      rw [compactChars, quote, List.cons_append, List.append_assoc, List.singleton_append]
      exact value_string (string?_escape text s)
    | .array [] => exact within_of_pos h.1 _
    | .array (item :: rest) =>
      obtain ⟨hroom, hitem, hrest⟩ := h
      obtain ⟨c, cs, hcs, hspace, hc⟩ := exists_compactChars_eq hitem
      rw [compactChars, List.length_cons, List.length_append] at hfuel
      have hitems := items_compactItems item rest hitem hrest (Nat.le_of_succ_le_succ hfuel) s
      rw [compactChars, List.cons_append, List.append_assoc]
      rw [hcs, List.cons_append] at hitems ⊢
      exact value_array hroom hspace hc hitems
    | .object [] => exact within_of_pos h.1 _
    | .object ((key, v) :: rest) =>
      obtain ⟨hroom, hv, hrest⟩ := h
      rw [compactChars, quote] at hfuel ⊢
      simp only [List.length_cons, List.length_append] at hfuel
      have hlength : v.compactChars.length + (compactMembers rest).length ≤ fuel := by omega
      simp only [List.cons_append, List.append_assoc, List.nil_append]
      exact value_object hroom (members_compactMembers key v rest hv hrest hlength s)

/-- The items of an array from one of them on. -/
theorem items_compactItems (item : Json) (rest : List Json) {fuel room : Nat}
    (h : item.Plain room) (hrest : ItemsPlain room rest)
    (hfuel : item.compactChars.length + (compactItems rest).length ≤ fuel) (s : List Char) :
    items fuel room (item.compactChars ++ (compactItems rest ++ s)) =
      ⟨Node.ofJson item :: Node.ofItems rest, some s⟩ := by
  match fuel, rest with
  | 0, rest => cases rest <;> simp [compactItems] at hfuel
  | fuel + 1, [] =>
    rw [compactItems, List.length_singleton] at hfuel
    exact items_last (value_compactChars item h (by omega) _)
  | fuel + 1, next :: rest =>
    rw [compactItems, List.length_cons, List.length_append] at hfuel
    rw [compactItems, List.cons_append, List.append_assoc]
    exact items_more (value_compactChars item h (by omega) _)
      (items_compactItems next rest hrest.1 hrest.2 (by omega) s)

/-- The members of an object from one of them on. -/
theorem members_compactMembers (key : String) (v : Json) (rest : List (String × Json))
    {fuel room : Nat} (h : v.Plain room) (hrest : MembersPlain room rest)
    (hfuel : v.compactChars.length + (compactMembers rest).length ≤ fuel) (s : List Char) :
    members fuel room ('"' :: (key.toList.flatMap escape ++ '"' :: ':' ::
        (v.compactChars ++ (compactMembers rest ++ s)))) =
      ⟨(some key, Node.ofJson v) :: Node.ofMembers rest, some s⟩ := by
  match fuel, rest with
  | 0, rest => cases rest <;> simp [compactMembers] at hfuel
  | fuel + 1, [] =>
    rw [compactMembers, List.length_singleton] at hfuel
    exact members_last (string?_escape key _) (value_compactChars v h (by omega) _)
  | fuel + 1, (next, w) :: rest =>
    rw [compactMembers, quote] at hfuel ⊢
    simp only [List.length_cons, List.length_append] at hfuel
    simp only [List.cons_append, List.append_assoc, List.nil_append]
    exact members_more (string?_escape key _) (value_compactChars v h (by omega) _)
      (members_compactMembers next w rest hrest.1 hrest.2 (by omega) s)

end

/-! ### Documents -/

/-- The compact text of a plain value is read as the value. -/
theorem read_compact {v : Json} (h : v.Plain maxDepth) :
    Document.read v.compact = ⟨Node.ofJson v, true⟩ := by
  have hfuel : v.compactChars.length ≤ 2 * v.compactChars.length + 2 := by omega
  have hvalue := value_compactChars v h hfuel []
  rw [List.append_nil] at hvalue
  unfold Document.read compact
  simp only [String.toList_ofList, hvalue]
  rfl

/-- A typed reading of the compact text gives what the value holds. -/
theorem ofText_compact {α : Type} (d : Decoder α) {v : Json} (h : v.Plain maxDepth) :
    Decoder.ofText d v.compact = Decoder.ofValue d v := by
  unfold Decoder.ofText Decoder.ofValue
  rw [read_compact h]
  dsimp only
  cases d (Node.ofJson v) <;> rfl

example :
    Decoder.ofText Decoder.string (Json.string "q\"\\\n\x01").compact = .ok "q\"\\\n\x01" := by
  rfl

end SeriesAcl.Json
