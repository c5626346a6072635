import SeriesAcl.Feed
import SeriesAcl.Proofs.Text.Occurrence

/-!
# Links to the feeds of a series

What the links are when the pattern has each marker once, in order. The markers are looked for in a
text that already holds the address, the pattern and the series, so each of these can hide or add
one. The links are put together from the parts as they stand exactly when none does
(`seriesLinks_eq_iff`).
-/

namespace SeriesAcl.Feed

/-- What the address is cut off at. -/
def seriesPath : String := "/series"

/-- A feed is the last one with the name of the series feed. -/
def IsSeriesFeed (feeds : List Feed) (feed : Feed) : Prop :=
  feed.name = seriesName ∧
    ∃ before behind, feeds = before ++ feed :: behind ∧ ∀ g ∈ behind, g.name ≠ seriesName

/-- A text has none of the three markers in it. -/
structure Unmarked (part : String) : Prop where
  kind : ¬Text.Occurs kindMarker part
  version : ¬Text.Occurs versionMarker part
  series : ¬Text.Occurs seriesMarker part

/-- The parts of a feed whose pattern has each marker once: the address, and what stands in the
pattern in front of each marker. -/
structure Layout where
  address : String
  beforeKind : String
  beforeVersion : String
  beforeSeries : String

namespace Layout

/-- The pattern, its marker for the series aside. -/
def pattern (l : Layout) : String :=
  l.beforeKind ++ kindMarker ++ (l.beforeVersion ++ versionMarker ++ l.beforeSeries)

/-- A feed has these parts. -/
structure Describes (l : Layout) (feed : Feed) : Prop where
  identifier : feed.identifier = l.address ++ seriesPath
  pattern : feed.pattern = l.pattern ++ seriesMarker
  beforeKind : Unmarked l.beforeKind
  beforeVersion : Unmarked l.beforeVersion
  beforeSeries : Unmarked l.beforeSeries

/-- The parts with a kind, a version and a series in the places of the markers. -/
def fill (l : Layout) (kind version series : String) : String :=
  l.address ++ l.beforeKind ++ kind ++ (l.beforeVersion ++ version ++ (l.beforeSeries ++ series))

/-- The links that the parts stand for. -/
def links (l : Layout) (series : String) : List FeedLink :=
  [⟨"atom", "0.3", l.fill "atom" "0.3" series⟩, ⟨"atom", "1.0", l.fill "atom" "1.0" series⟩,
    ⟨"rss", "2.0", l.fill "rss" "2.0" series⟩]

/-- No marker is taken for another one: the address is not cut off within, no marker for the kind or
the series begins in it, and none for the version ends in the series. -/
structure Unmistakable (l : Layout) (series : String) : Prop where
  address : ¬Text.Occurs seriesPath l.address
  kind : ¬Text.Occurs kindMarker (l.address ++ l.beforeKind)
  marker : ¬Text.Occurs seriesMarker (l.address ++ l.beforeKind)
  version : ¬Text.Occurs versionMarker (l.beforeSeries ++ series)

end Layout

/-! ### The markers -/

private theorem solitary_seriesPath : Text.Solitary '/' seriesPath.toList :=
  ⟨_, rfl, by decide⟩

private theorem solitary_kindMarker : Text.Solitary '<' kindMarker.toList :=
  ⟨_, rfl, by decide⟩

private theorem solitary_versionMarker : Text.Solitary '<' versionMarker.toList :=
  ⟨_, rfl, by decide⟩

private theorem solitary_seriesMarker : Text.Solitary '<' seriesMarker.toList :=
  ⟨_, rfl, by decide⟩

private theorem seriesMarker_apart_kindMarker :
    Text.Apart '<' seriesMarker.toList kindMarker.toList :=
  ⟨solitary_seriesMarker, solitary_kindMarker, by decide, by decide⟩

private theorem seriesMarker_apart_versionMarker :
    Text.Apart '<' seriesMarker.toList versionMarker.toList :=
  ⟨solitary_seriesMarker, solitary_versionMarker, by decide, by decide⟩

/-! ### The text with the markers -/

/-- The text that the links of a feed are cut out of. -/
def markedText (feed : Feed) (series : String) : String :=
  Text.before seriesMarker (Text.before seriesPath feed.identifier ++ feed.pattern) ++ series

/-- The links are made of the parts around the first marker for the kind and the first one for the
version behind it. -/
theorem links_eq_ok_iff {feed : Feed} {series : String} {made : List FeedLink} :
    feed.links series = .ok made ↔
      ∃ head behindKind middle behindVersion,
        Text.splitFirst? kindMarker (feed.markedText series) = some (head, behindKind) ∧
          Text.splitFirst? versionMarker behindKind = some (middle, behindVersion) ∧
          made = linkKinds.map fun (kind, version) ↦
            ⟨kind, version,
              head ++ kind ++ middle ++ version ++ Text.before versionMarker behindVersion⟩ := by
  unfold Feed.links markedText seriesPath
  dsimp only
  constructor
  · intro h
    split at h
    · cases h
    · next head behindKind hkind =>
      split at h
      · cases h
      · next middle behindVersion hversion =>
        exact ⟨head, behindKind, middle, behindVersion, hkind, hversion, (Except.ok.inj h).symm⟩
  · rintro ⟨head, behindKind, middle, behindVersion, hkind, hversion, rfl⟩
    rw [hkind]
    dsimp only
    rw [hversion]

/-- The last feed with the name of the series feed is the one that counts. -/
theorem IsSeriesFeed.seriesLinks_eq {feeds : List Feed} {feed : Feed}
    (h : IsSeriesFeed feeds feed) (series : String) :
    seriesLinks feeds series = feed.links series := by
  obtain ⟨hname, before, behind, rfl, hbehind⟩ := h
  have hfind : (before ++ feed :: behind).reverse.find? (fun f ↦ f.name == seriesName) =
      some feed := by
    rw [List.find?_eq_some_iff_append]
    refine ⟨beq_iff_eq.mpr hname, behind.reverse, before.reverse, by simp, ?_⟩
    intro g hg
    rw [Bool.not_eq_true']
    exact beq_eq_false_iff_ne.mpr (hbehind g (List.mem_reverse.mp hg))
  rw [seriesLinks, hfind]

namespace Layout

variable {l : Layout} {feed : Feed} {series : String}

/-- A marker for the series within the address and the pattern begins in the address. -/
theorem Describes.occurs_seriesMarker_iff (h : l.Describes feed) :
    Text.Occurs seriesMarker (l.address ++ l.pattern) ↔
      Text.Occurs seriesMarker (l.address ++ l.beforeKind) := by
  have hpattern : l.address ++ l.pattern =
      l.address ++ l.beforeKind ++ kindMarker ++
        (l.beforeVersion ++ versionMarker ++ l.beforeSeries) := by
    rw [Layout.pattern]
    simp only [String.append_assoc]
  rw [hpattern, seriesMarker_apart_kindMarker.occurs_iff,
    seriesMarker_apart_versionMarker.occurs_iff]
  exact or_iff_left (not_or.mpr ⟨h.beforeVersion.series, h.beforeSeries.series⟩)

/-- Without a marker that is hidden or added, the text ends with the series. -/
theorem Describes.markedText_eq (h : l.Describes feed)
    (haddress : ¬Text.Occurs seriesPath l.address)
    (hmarker : ¬Text.Occurs seriesMarker (l.address ++ l.beforeKind)) (series : String) :
    feed.markedText series =
      l.address ++ l.beforeKind ++ kindMarker ++
        (l.beforeVersion ++ versionMarker ++ (l.beforeSeries ++ series)) := by
  have hcut : Text.before seriesPath feed.identifier = l.address := by
    rw [h.identifier, ← String.append_empty (s := l.address ++ seriesPath)]
    exact Text.before_append solitary_seriesPath haddress
  have hpattern :
      Text.before seriesMarker (l.address ++ feed.pattern) = l.address ++ l.pattern := by
    rw [h.pattern, ← String.append_assoc, ← String.append_empty (s := _ ++ seriesMarker)]
    exact Text.before_append solitary_seriesMarker (h.occurs_seriesMarker_iff.not.mpr hmarker)
  rw [markedText, hcut, hpattern, Layout.pattern]
  simp only [String.append_assoc]

/-- The text is shorter than the parts when the address is cut off within or a marker for the series
begins in it. -/
theorem Describes.length_markedText_lt (h : l.Describes feed)
    (hhidden : Text.Occurs seriesPath l.address ∨
      Text.Occurs seriesMarker (l.address ++ l.beforeKind)) (series : String) :
    (feed.markedText series).length <
      l.address.length + l.pattern.length + series.length := by
  have hidentifier : feed.identifier = l.address ++ seriesPath ++ "" := by
    rw [h.identifier, String.append_empty]
  by_cases haddress : Text.Occurs seriesPath l.address
  · have hcut : (Text.before seriesPath feed.identifier).length < l.address.length := by
      rw [h.identifier]
      exact Text.length_before_lt (by decide) haddress _
    have hpattern := Text.length_before_append_le seriesMarker
      (Text.before seriesPath feed.identifier ++ l.pattern) ""
    rw [String.append_empty, String.append_assoc, ← h.pattern, String.length_append] at hpattern
    rw [markedText, String.length_append]
    omega
  · have hmarker := hhidden.resolve_left haddress
    have hcut : Text.before seriesPath feed.identifier = l.address := by
      rw [hidentifier]
      exact Text.before_append solitary_seriesPath haddress
    have hfeed : l.address ++ feed.pattern = l.address ++ l.beforeKind ++
        (kindMarker ++ (l.beforeVersion ++ versionMarker ++ l.beforeSeries) ++ seriesMarker) := by
      rw [h.pattern, Layout.pattern]
      simp only [String.append_assoc]
    have hlt := Text.length_before_lt (by decide) hmarker
      (kindMarker ++ (l.beforeVersion ++ versionMarker ++ l.beforeSeries) ++ seriesMarker)
    have hlength : l.beforeKind.length ≤ l.pattern.length := by
      rw [Layout.pattern, String.length_append, String.length_append, Nat.add_assoc]
      exact Nat.le_add_right _ _
    rw [← hfeed, String.length_append] at hlt
    rw [markedText, hcut, String.length_append]
    omega

/-- Behind the first marker for the kind comes the rest of the pattern with the series. -/
theorem Describes.splitFirst?_markedText (h : l.Describes feed)
    (haddress : ¬Text.Occurs seriesPath l.address)
    (hmarker : ¬Text.Occurs seriesMarker (l.address ++ l.beforeKind))
    (hkind : ¬Text.Occurs kindMarker (l.address ++ l.beforeKind)) (series : String) :
    Text.splitFirst? kindMarker (feed.markedText series) =
      some (l.address ++ l.beforeKind,
        l.beforeVersion ++ versionMarker ++ (l.beforeSeries ++ series)) := by
  rw [h.markedText_eq haddress hmarker]
  exact Text.splitFirst?_append solitary_kindMarker hkind

/-- The links are put together from the parts when no marker is taken for another one. -/
theorem Describes.links_eq (h : l.Describes feed) (hu : l.Unmistakable series) :
    feed.links series = .ok (l.links series) := by
  refine links_eq_ok_iff.mpr ⟨_, _, _, _,
    h.splitFirst?_markedText hu.address hu.marker hu.kind series,
    Text.splitFirst?_append solitary_versionMarker h.beforeVersion.version, ?_⟩
  rw [Text.before_of_not_occurs hu.version]
  simp only [linkKinds, links, fill, List.map_cons, List.map_nil, String.append_assoc]

/-- The pieces around the first markers of a feed, when the first link made of them is the one that
the parts stand for. -/
structure Makes (l : Layout) (feed : Feed) (series head behindKind middle behindVersion : String) :
    Prop where
  kind : Text.splitFirst? kindMarker (feed.markedText series) = some (head, behindKind)
  version : Text.splitFirst? versionMarker behindKind = some (middle, behindVersion)
  link : l.fill "atom" "0.3" series =
    head ++ "atom" ++ middle ++ "0.3" ++ Text.before versionMarker behindVersion

private theorem exists_makes_of_links_eq (h : feed.links series = .ok (l.links series)) :
    ∃ head behindKind middle behindVersion,
      l.Makes feed series head behindKind middle behindVersion := by
  obtain ⟨head, behindKind, middle, behindVersion, hkind, hversion, hmade⟩ := links_eq_ok_iff.mp h
  exact ⟨head, behindKind, middle, behindVersion, hkind, hversion,
    congrArg FeedLink.link (List.cons.inj hmade).1⟩

section Makes

variable {head behindKind middle behindVersion : String}

private theorem Makes.length_eq (hm : l.Makes feed series head behindKind middle behindVersion) :
    l.address.length + l.beforeKind.length + l.beforeVersion.length + l.beforeSeries.length +
        series.length =
      head.length + middle.length + (Text.before versionMarker behindVersion).length := by
  have hlength := congrArg String.length hm.link
  simp only [fill, String.length_append] at hlength
  omega

/-- The first link is as long as the parts, so nothing of the text was lost on the way. -/
theorem Makes.not_hidden (hm : l.Makes feed series head behindKind middle behindVersion)
    (h : l.Describes feed) :
    ¬(Text.Occurs seriesPath l.address ∨
      Text.Occurs seriesMarker (l.address ++ l.beforeKind)) := by
  intro hhidden
  have hlt := h.length_markedText_lt hhidden series
  have htail := Text.length_before_le versionMarker behindVersion
  have hlength := hm.length_eq
  rw [Text.eq_of_splitFirst? hm.kind, Text.eq_of_splitFirst? hm.version] at hlt
  simp only [Layout.pattern, String.length_append] at hlt
  omega

/-- At a marker for the kind in front of the one of the pattern, the first link would go on with the
kind, and the parts with the marker. -/
theorem Makes.not_occurs_kindMarker (hm : l.Makes feed series head behindKind middle behindVersion)
    (h : l.Describes feed) (haddress : ¬Text.Occurs seriesPath l.address)
    (hmarker : ¬Text.Occurs seriesMarker (l.address ++ l.beforeKind)) :
    ¬Text.Occurs kindMarker (l.address ++ l.beforeKind) := by
  intro hoccurs
  have hkind := hm.kind
  have htext := Text.eq_of_splitFirst? hm.kind
  have hlink : l.address ++ l.beforeKind ++
      ("atom" ++ (l.beforeVersion ++ "0.3" ++ (l.beforeSeries ++ series))) =
      head ++ "atom" ++ (middle ++ "0.3" ++ Text.before versionMarker behindVersion) := by
    rw [← String.append_assoc, ← fill, hm.link]
    simp only [String.append_assoc]
  rw [h.markedText_eq haddress hmarker, String.append_assoc] at hkind htext
  have hlt := Text.length_lt_of_splitFirst? (by decide) hoccurs hkind
  have hmark := Text.head?_eq_getElem? (by decide) htext hlt
  have hatom := Text.head?_eq_getElem? (by decide) hlink hlt
  rw [← hmark] at hatom
  revert hatom
  decide

/-- At a marker for the version behind the one of the pattern, the first link would be cut off. -/
theorem Makes.not_occurs_versionMarker
    (hm : l.Makes feed series head behindKind middle behindVersion) (h : l.Describes feed)
    (haddress : ¬Text.Occurs seriesPath l.address)
    (hmarker : ¬Text.Occurs seriesMarker (l.address ++ l.beforeKind))
    (hkind : ¬Text.Occurs kindMarker (l.address ++ l.beforeKind)) :
    ¬Text.Occurs versionMarker (l.beforeSeries ++ series) := by
  intro hoccurs
  obtain ⟨rfl, rfl⟩ := Prod.mk.inj (Option.some.inj
    ((h.splitFirst?_markedText haddress hmarker hkind series).symm.trans hm.kind))
  obtain ⟨rfl, rfl⟩ := Prod.mk.inj (Option.some.inj
    ((Text.splitFirst?_append solitary_versionMarker h.beforeVersion.version).symm.trans
      hm.version))
  have hlength := hm.length_eq
  have hlt := Text.length_before_lt (by decide) hoccurs ""
  rw [String.append_empty] at hlt
  simp only [String.length_append] at hlength hlt
  omega

end Makes

/-- The links are only put together from the parts when no marker is taken for another one. -/
theorem Describes.unmistakable_of_links_eq (h : l.Describes feed)
    (hlinks : feed.links series = .ok (l.links series)) : l.Unmistakable series := by
  obtain ⟨head, behindKind, middle, behindVersion, hm⟩ := exists_makes_of_links_eq hlinks
  obtain ⟨haddress, hmarker⟩ := not_or.mp (hm.not_hidden h)
  have hkind := hm.not_occurs_kindMarker h haddress hmarker
  exact ⟨haddress, hkind, hmarker, hm.not_occurs_versionMarker h haddress hmarker hkind⟩

end Layout

/-- The links to the feeds of a series, when the pattern of the last feed named `Series` has each
marker once, in order. There are exactly three, each put together from the parts as they stand, if
and only if no marker is taken for another one. -/
theorem seriesLinks_eq_iff {feeds : List Feed} {feed : Feed} (hfeed : IsSeriesFeed feeds feed)
    {l : Layout} (hl : l.Describes feed) (series : String) :
    seriesLinks feeds series = .ok (l.links series) ↔ l.Unmistakable series := by
  rw [hfeed.seriesLinks_eq]
  exact ⟨hl.unmistakable_of_links_eq, hl.links_eq⟩

/-- The feed with some parts and the name of the series feed. -/
def Layout.feed (l : Layout) : Feed :=
  ⟨seriesName, l.address ++ seriesPath, l.pattern ++ seriesMarker, none⟩

/-- A node below a path of its own, with the usual pattern. -/
def nestedLayout : Layout :=
  ⟨"node/series/web", "/", "/", "/series/"⟩

private theorem nestedLayout_describes : nestedLayout.Describes nestedLayout.feed :=
  ⟨rfl, rfl, ⟨by decide, by decide, by decide⟩, ⟨by decide, by decide, by decide⟩,
    ⟨by decide, by decide, by decide⟩⟩

/-- An address with the series path in it is cut off there. -/
theorem not_seriesLinks_nestedLayout :
    ¬∀ (feeds : List Feed) (feed : Feed) (l : Layout) (series : String),
      IsSeriesFeed feeds feed → l.Describes feed →
        seriesLinks feeds series = .ok (l.links series) := by
  intro h
  have hlinks := h [nestedLayout.feed] nestedLayout.feed nestedLayout "abc"
    ⟨rfl, [], [], rfl, nofun⟩ nestedLayout_describes
  have hcut : (seriesLinks [nestedLayout.feed] "abc").toOption =
      some [⟨"atom", "0.3", "node/atom/0.3/series/abc"⟩,
        ⟨"atom", "1.0", "node/atom/1.0/series/abc"⟩,
        ⟨"rss", "2.0", "node/rss/2.0/series/abc"⟩] := by
    decide +kernel
  rw [hlinks] at hcut
  revert hcut
  decide +kernel

/-- The usual layout, with a feed of another name behind it. -/
def plainLayout : Layout :=
  ⟨"https://feeds.example.org", "/", "/", "/series/"⟩

/-- The links of this layout are the expected ones. -/
theorem seriesLinks_eq_iff_plainLayout :
    IsSeriesFeed [plainLayout.feed, ⟨"Latest", "", "", none⟩] plainLayout.feed ∧
      plainLayout.Describes plainLayout.feed ∧
      seriesLinks [plainLayout.feed, ⟨"Latest", "", "", none⟩] "abc" =
        .ok (plainLayout.links "abc") := by
  have hfeed : IsSeriesFeed [plainLayout.feed, ⟨"Latest", "", "", none⟩] plainLayout.feed :=
    ⟨rfl, [], [⟨"Latest", "", "", none⟩], rfl, by decide⟩
  have hdescribes : plainLayout.Describes plainLayout.feed :=
    ⟨rfl, rfl, ⟨by decide, by decide, by decide⟩, ⟨by decide, by decide, by decide⟩,
      ⟨by decide, by decide, by decide⟩⟩
  exact ⟨hfeed, hdescribes, (seriesLinks_eq_iff hfeed hdescribes "abc").mpr
    ⟨by decide, by decide, by decide, by decide⟩⟩

end SeriesAcl.Feed
