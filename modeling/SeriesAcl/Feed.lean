import SeriesAcl.Error.Basic
import SeriesAcl.Json.Decode
import SeriesAcl.Text.Search

/-!
# Feeds

The feeds that a node offers, and the public links to the feeds of one series. The pattern of the
feed named `Series` holds markers for the kind, the version and the series. See `SPEC_FULL.md`,
section 6.1.
-/

namespace SeriesAcl

open Json (Decoder Fields)

/-- A feed that a node offers (`SPEC_FULL.md` 6.1). -/
structure Feed where
  name : String
  identifier : String
  pattern : String
  description : Option String
  deriving DecidableEq, Repr

/-- A link to a feed of a series. -/
structure FeedLink where
  kind : String
  version : String
  link : String
  deriving DecidableEq, Repr

namespace FeedLink

/-- The record of a link. -/
def toJson (l : FeedLink) : Json :=
  .object [("type", .string l.kind), ("version", .string l.version), ("link", .string l.link)]

end FeedLink

namespace Feed

/-- The name of the feed that series links are made from. -/
def seriesName : String := "Series"

/-- The marker for the series. -/
def seriesMarker : String := "<series_id>"

/-- The marker for the kind of feed. -/
def kindMarker : String := "<type>"

/-- The marker for the version of the feed format. -/
def versionMarker : String := "<version>"

/-- The kinds and versions that every series has links for. -/
def linkKinds : List (String × String) :=
  [("atom", "0.3"), ("atom", "1.0"), ("rss", "2.0")]

/-- The links of one feed for a series (`SPEC_FULL.md` 6.1). The node's address is the identifier up
to its first `/series`; the pattern counts up to its first marker for the series. -/
def links (feed : Feed) (series : String) : Except Error (List FeedLink) :=
  let address := Text.before "/series" feed.identifier
  let full := Text.before seriesMarker (address ++ feed.pattern) ++ series
  match Text.splitFirst? kindMarker full with
  | none => .error (Error.invalidFeedPattern kindMarker feed.pattern)
  | some (head, afterKind) =>
    match Text.splitFirst? versionMarker afterKind with
    | none => .error (Error.invalidFeedPattern versionMarker feed.pattern)
    | some (middle, afterVersion) =>
      let tail := Text.before versionMarker afterVersion
      .ok (linkKinds.map fun (kind, version) ↦
        ⟨kind, version, head ++ kind ++ middle ++ version ++ tail⟩)

/-- The links for a series, made from the last feed named `Series`; without one there are none
(`SPEC_FULL.md` 6.1). -/
def seriesLinks (feeds : List Feed) (series : String) : Except Error (List FeedLink) :=
  match feeds.reverse.find? fun f ↦ f.name == seriesName with
  | none => .ok []
  | some feed => feed.links series

/-- The record of a feed. -/
def toJson (f : Feed) : Json :=
  .object [("name", .string f.name), ("identifier", .string f.identifier),
    ("pattern", .string f.pattern), ("description", .ofOption f.description)]

/-- The feed of a record. -/
def decode : Decoder Feed :=
  Decoder.record ["name", "identifier", "pattern", "description"]
    (Feed.mk <$> Fields.required "name" Decoder.string
      <*> Fields.required "identifier" Decoder.string
      <*> Fields.required "pattern" Decoder.string
      <*> Fields.optional "description" Decoder.string)

end Feed

end SeriesAcl
