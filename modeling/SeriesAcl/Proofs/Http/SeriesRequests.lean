import SeriesAcl.Http.Client
import SeriesAcl.Proofs.Admin.Calls
import SeriesAcl.Proofs.Http.Paths

/-!
# Requests for series

What a client asks a node for. Every call sends one request if the base is on the web, and none
otherwise, for the path of the call with its dot segments resolved (`paths_after`). So what belongs
to a series is asked for at a path of its own, in which the series can be read, unless the series is
named by a dot or two dots (`namesSeries_run_iff`): these ask for something above all series
(`not_namesSeries_parentFolder`).
-/

namespace SeriesAcl

/-- The text of the path of an address. -/
def Url.pathText (u : Url) : String :=
  match u.path with
  | .segments items => segmentsText items
  | .text content => content

namespace NodeCall

/-- What a call asks for of a series: the series, and the last name of the path. -/
def part? : NodeCall → Option (String × String)
  | .seriesAccess series => some (series, "access.json")
  | .saveSeriesAccess series _ => some (series, "access")
  | .seriesMetadata series => some (series, "metadata.json")
  | .saveSeriesMetadata series _ => some (series, "metadata")
  | .seriesTheme series => some (series, "theme.json")
  | .saveSeriesTheme series _ => some (series, "theme")
  | .deleteSeriesTheme series => some (series, "theme")
  | _ => none

/-- The path that a call asks for. -/
def path : NodeCall → String
  | .currentUser => "/info/me.json"
  | .seriesAccess series => Client.seriesPath series "access.json"
  | .saveSeriesAccess series _ => Client.seriesPath series "access"
  | .managedAcl id => Client.managedPath id
  | .listRoles _ => Client.resourcePath Resource.roles
  | .resourceList name => Client.resourcePath name
  | .directoryUsers => Client.resourcePath Resource.directoryUsers
  | .seriesMetadata series => Client.seriesPath series "metadata.json"
  | .saveSeriesMetadata series _ => Client.seriesPath series "metadata"
  | .seriesTheme series => Client.seriesPath series "theme.json"
  | .saveSeriesTheme series _ => Client.seriesPath series "theme"
  | .deleteSeriesTheme series => Client.seriesPath series "theme"
  | .feeds => "/admin-ng/feeds/feeds"

variable {call : NodeCall} {series name : String}

private theorem path_of_part? (h : call.part? = some (series, name)) :
    call.path = Client.seriesPath series name := by
  cases call <;> cases h <;> rfl

/-- The last names of the paths of a series are settled. -/
theorem settled_of_part? (h : call.part? = some (series, name)) : Url.Settled name := by
  have hname : name ∈ ["access.json", "access", "metadata.json", "metadata", "theme.json",
      "theme"] := by
    cases call <;> cases h <;> decide
  have hsettled : ∀ s ∈ ["access.json", "access", "metadata.json", "metadata", "theme.json",
      "theme"], Url.IsWhole s ∧ Url.isSingleDot s.toList = false ∧
        Url.isDoubleDot s.toList = false := by
    decide
  obtain ⟨hwhole, hsingle, hdouble⟩ := hsettled name hname
  exact ⟨hwhole, hsingle, hdouble⟩

end NodeCall

namespace Client

/-! ### The address of a path -/

private theorem canRequest_congr {u v : Url} (hscheme : v.scheme = u.scheme)
    (hhost : v.authority.map Authority.host = u.authority.map Authority.host) :
    canRequest v = canRequest u := by
  unfold canRequest
  rw [hscheme]
  rcases hu : u.authority with _ | a <;> rcases hv : v.authority with _ | b <;> rw [hu, hv] at hhost
  · cases hhost
  · cases hhost
  · dsimp only
    rw [show b.host = a.host from Option.some.inj hhost]

/-- Requests can be formed only for the schemes of the web. -/
theorem scheme_of_canRequest {u : Url} (h : canRequest u = true) :
    u.scheme = "http" ∨ u.scheme = "https" := by
  unfold canRequest at h
  rw [Bool.and_eq_true, Bool.or_eq_true, beq_iff_eq, beq_iff_eq] at h
  exact h.1

/-- These schemes are special ones, and not the one for files. -/
theorem special_of_canRequest {u : Url} (h : canRequest u = true) :
    Url.isSpecial u.scheme = true ∧ u.scheme ≠ "file" := by
  rcases scheme_of_canRequest h with hs | hs <;> rw [hs] <;> decide

/-- An address for which requests can be formed has its path in segments. -/
def Rooted (u : Url) : Prop :=
  canRequest u = true → ∃ items, u.path = .segments items

/-- A path on the web has its dot segments resolved. -/
theorem exists_withPath {u : Url} (hroot : Rooted u) (hweb : canRequest u = true) (path : String) :
    ∃ url, u.withPath path = .ok url ∧ canRequest url = true ∧
      url.pathText = Url.segmentsText (Url.segmentsOf true path.toList) := by
  obtain ⟨items, hitems⟩ := hroot hweb
  obtain ⟨hspecial, hfile⟩ := special_of_canRequest hweb
  unfold Url.withPath
  rw [hitems]
  dsimp only
  rw [if_neg hfile, hspecial]
  exact ⟨_, rfl, hweb, rfl⟩

/-- No request can be formed for a path on a base that is not on the web. -/
theorem canRequest_withPath {u url : Url} (hweb : canRequest u = false) {path : String}
    (hurl : u.withPath path = .ok url) : canRequest url = false := by
  unfold Url.withPath at hurl
  split at hurl
  · cases hurl
  · dsimp only at hurl
    obtain rfl := Except.ok.inj hurl
    by_cases hfile : u.scheme = "file"
    · unfold canRequest
      rw [hfile]
      rfl
    · simp only [if_neg hfile]
      exact hweb

/-! ### One call -/

/-- What a call for a path leaves of a client: it asked for the path once if it can send requests,
and not at all otherwise. -/
def Asked (path : String) (c c' : Client) : Prop :=
  ∃ cookies sent, c' = { c with cookies := cookies, log := c.log ++ sent } ∧
    (sent.map fun e ↦ e.request.url.pathText) =
      if canRequest c.base then [Url.segmentsText (Url.segmentsOf true path.toList)] else []

private theorem asked_send {c : Client} {path : String} {request : Request}
    (hweb : canRequest request.url = canRequest c.base)
    (hpath : canRequest c.base = true →
      request.url.pathText = Url.segmentsText (Url.segmentsOf true path.toList)) :
    Asked path c (send request c).2 := by
  unfold send
  rw [hweb]
  by_cases h : canRequest c.base = true
  · rw [if_pos h]
    refine ⟨((c.transport c.log request).map fun r ↦ c.cookies.merge ⟨r.cookies⟩).getD c.cookies,
      [⟨request, c.transport c.log request⟩], ?_, ?_⟩
    · dsimp only
      cases hanswer : c.transport c.log request with
      | none => rfl
      | some response =>
        dsimp only
        split <;> rfl
    · rw [if_pos h, List.map_singleton, hpath h]
  · rw [if_neg h]
    exact ⟨c.cookies, [], by rw [List.append_nil], by rw [if_neg h]; rfl⟩

/-- The request for an address has its path, with or without the user in it. -/
theorem request_url (c : Client) (method : Method) (url : Url)
    (form : Option (List (String × String))) :
    canRequest (c.request method url form).url = canRequest url ∧
      (c.request method url form).url.pathText = url.pathText := by
  unfold request
  dsimp only
  split
  · refine ⟨canRequest_congr rfl ?_, rfl⟩
    rw [Url.anonymous, Option.map_map]
    rfl
  · exact ⟨rfl, rfl⟩

private theorem asked_exchange {c : Client} (hroot : Rooted c.base) (method : Method)
    (path : String) (params : List (String × String)) (form : Option (List (String × String))) :
    Asked path c (exchange method path params form c).2 := by
  unfold exchange address
  cases hweb : canRequest c.base with
  | true =>
    obtain ⟨url, hurl, hurlweb, hpath⟩ := exists_withPath hroot hweb path
    rw [hurl]
    dsimp only
    have hreq := c.request_url method
      { url with query := if params.isEmpty then none else some (Percent.form params) } form
    refine asked_send (hreq.1.trans ?_) fun _ ↦ hreq.2.trans hpath
    exact (canRequest_congr rfl rfl).trans (hurlweb.trans hweb.symm)
  | false =>
    cases hurl : c.base.withPath path with
    | error fault => exact ⟨c.cookies, [], by rw [List.append_nil], by rw [hweb]; rfl⟩
    | ok url =>
      dsimp only
      have hreq := c.request_url method
        { url with query := if params.isEmpty then none else some (Percent.form params) } form
      refine asked_send (hreq.1.trans ?_) fun h ↦ Bool.noConfusion (h.symm.trans hweb)
      exact (canRequest_congr rfl rfl).trans ((canRequest_withPath hweb hurl).trans hweb.symm)

/-- What is done with an answer asks for nothing. -/
theorem Asked.bind {α β : Type} {c : Client} {path : String} {call : Call Client α}
    (h : Asked path c (call c).2) {f : α → Call Client β} (hf : ∀ a s, (f a s).2 = s) :
    Asked path c ((call >>= f) c).2 := by
  have hstate : ((call >>= f) c).2 = (call c).2 := by
    show (Call.bind call f c).2 = (call c).2
    unfold Call.bind
    split
    · next a s heq => rw [hf, heq]
    · next heq => rw [heq]
  rw [hstate]
  exact h

/-- Every call asks for its path. -/
theorem asked_on {c : Client} (hroot : Rooted c.base) (call : NodeCall) :
    Asked call.path c (call.on c).2 := by
  have read : ∀ {α : Type} (d : Json.Decoder α) (path : String) (params : List (String × String)),
      Asked path c (read d path params c).2 := fun d path params ↦
    (asked_exchange hroot .get path params none).bind fun _ _ ↦ rfl
  have submit : ∀ (method : Method) (path : String) (form : List (String × String)),
      Asked path c (submit method path form c).2 := fun method path form ↦
    (asked_exchange hroot method path [] (some form)).bind fun _ _ ↦ rfl
  cases call with
  | currentUser => exact (read _ _ _).bind fun _ _ ↦ rfl
  | seriesAccess series => exact (read _ _ _).bind fun _ _ ↦ rfl
  | saveSeriesAccess series update => exact submit _ _ _
  | managedAcl id => exact (read _ _ _).bind fun _ _ ↦ rfl
  | listRoles query => exact ((read _ _ _).bind fun _ _ ↦ rfl).bind fun _ _ ↦ rfl
  | resourceList name => exact ((read _ _ _).bind fun _ _ ↦ rfl).bind fun _ _ ↦ rfl
  | directoryUsers => exact ((read _ _ _).bind fun _ _ ↦ rfl).bind fun _ _ ↦ rfl
  | seriesMetadata series => exact ((read _ _ _).bind fun _ _ ↦ rfl).bind fun _ _ ↦ rfl
  | saveSeriesMetadata series catalog => exact submit _ _ _
  | seriesTheme series => exact (read _ _ _).bind fun _ _ ↦ rfl
  | saveSeriesTheme series theme => exact submit _ _ _
  | deleteSeriesTheme series => exact (asked_exchange hroot .delete _ [] none).bind fun _ _ ↦ rfl
  | feeds => exact (read _ _ _).bind fun _ _ ↦ rfl

/-! ### Runs -/

/-- A client after some calls. -/
def after (c : Client) (calls : List NodeCall) : Client :=
  calls.foldl (fun c call ↦ (call.on c).2) c

/-- The paths that were asked for. -/
def paths (c : Client) : List String :=
  c.log.map fun e ↦ e.request.url.pathText

/-- A client asks for the paths of the calls in their order, with their dot segments resolved, if it
can send requests, and for nothing otherwise. -/
theorem paths_after {c : Client} (hroot : Rooted c.base) (calls : List NodeCall) :
    (c.after calls).paths = c.paths ++
      if canRequest c.base then
        calls.map fun call ↦ Url.segmentsText (Url.segmentsOf true call.path.toList)
      else [] := by
  induction calls generalizing c with
  | nil => cases canRequest c.base <;> exact (List.append_nil _).symm
  | cons call rest ih =>
    obtain ⟨cookies, sent, hnext, hsent⟩ := asked_on hroot call
    have hstep : c.after (call :: rest) = (call.on c).2.after rest := rfl
    have hroot' : Rooted (call.on c).2.base := by
      rw [hnext]
      exact hroot
    rw [hstep, ih hroot', hnext]
    unfold paths
    dsimp only
    rw [List.map_append, hsent, List.append_assoc]
    cases canRequest c.base <;> rfl

/-- An address on the web is read with its path in segments. -/
theorem rooted_of_read {text : String} {u : Url} (h : Url.read text = .ok u) : Rooted u := by
  intro hweb
  unfold Url.read at h
  dsimp only at h
  split at h
  · cases h
  · next scheme rest _ =>
    split at h
    · cases h
    · next authority path hbody =>
      obtain rfl := Except.ok.inj h
      obtain ⟨hspecial, hfile⟩ : Url.isSpecial scheme = true ∧ scheme ≠ "file" :=
        special_of_canRequest hweb
      rw [Url.readBody, if_neg hfile, if_pos hspecial] at hbody
      unfold Url.readHierarchy at hbody
      simp only [bind, Except.bind] at hbody
      split at hbody
      · cases hbody
      · exact ⟨_, (congrArg Prod.snd (Except.ok.inj hbody)).symm⟩

/-- A client that is made has asked for nothing yet. -/
theorem rooted_of_make {config : Config} {transport : Transport} {c : Client}
    (h : make config transport = .ok c) : Rooted c.base ∧ c.log = [] := by
  unfold make at h
  simp only [bind, Except.bind] at h
  split at h
  · cases h
  · split at h
    · next base hbase =>
      obtain rfl := Except.ok.inj h
      exact ⟨rooted_of_read hbase, rfl⟩
    · cases h

/-! ### What belongs to a series -/

/-- The path at which a client asks for something of a series. A dot as the name of a series stands
for the place of all series, and two dots for the one above it. -/
def seriesTarget (series name : String) : String :=
  if series = "." then "/admin-ng/series/" ++ name
  else if series = ".." then "/admin-ng/" ++ name
  else seriesPath series name

/-- The segments of that path. -/
def targetSegments (series name : String) : List String :=
  if series = "." then ["admin-ng", "series", name]
  else if series = ".." then ["admin-ng", name]
  else ["admin-ng", "series", Percent.segment series, name]

private theorem seriesPath_eq (series name : String) :
    seriesPath series name =
      Url.segmentsText ["admin-ng", "series", Percent.segment series, name] := by
  have hplace : "/admin-ng/series/" = "/" ++ "admin-ng" ++ ("/" ++ "series" ++ "/") := rfl
  unfold seriesPath
  rw [hplace]
  simp only [Url.segmentsText_cons, String.append_assoc, Url.segmentsText_nil, String.append_empty]

private theorem seriesTarget_eq (series name : String) :
    seriesTarget series name = Url.segmentsText (targetSegments series name) := by
  have hplace : "/admin-ng/series/" = "/" ++ "admin-ng" ++ ("/" ++ "series" ++ "/") := rfl
  have habove : "/admin-ng/" = "/" ++ "admin-ng" ++ "/" := rfl
  unfold seriesTarget targetSegments
  split
  · rw [hplace]
    simp only [Url.segmentsText_cons, String.append_assoc, Url.segmentsText_nil,
      String.append_empty]
  · split
    · rw [habove]
      simp only [Url.segmentsText_cons, String.append_assoc, Url.segmentsText_nil,
        String.append_empty]
    · exact seriesPath_eq series name

variable {series name series' name' : String}

/-- Once its dot segments are resolved, the path of something of a series is its target. -/
theorem resolved_seriesPath (h : Url.Settled name) :
    Url.segmentsText (Url.segmentsOf true (seriesPath series name).toList) =
      seriesTarget series name := by
  have hroot : Url.Settled "admin-ng" := ⟨by decide, by decide, by decide⟩
  have hplace : Url.Settled "series" := ⟨by decide, by decide, by decide⟩
  have hpieces : Url.pieces true (seriesPath series name).toList.tail =
      ["admin-ng".toList, "series".toList, (Percent.segment series).toList, name.toList] := by
    rw [seriesPath_eq, Url.pieces_segmentsText ?_ (List.cons_ne_nil _ _)]
    · rfl
    · simp only [List.mem_cons, List.not_mem_nil, or_false, forall_eq_or_imp, forall_eq]
      exact ⟨hroot.isWhole, hplace.isWhole, Url.isWhole_segment series, h.isWhole⟩
  rw [seriesTarget_eq, Url.segmentsOf, hpieces, Url.Trail.follow_cons hroot,
    Url.Trail.follow_cons hplace, targetSegments]
  refine congrArg Url.segmentsText ?_
  split
  · next hsingle =>
    have hsegment : Percent.segment "." = "." := rfl
    rw [hsingle, hsegment, Url.Trail.follow_dot, Url.Trail.follow_cons h]
    rfl
  · next hsingle =>
    split
    · next hdouble =>
      have hsegment : Percent.segment ".." = ".." := rfl
      rw [hdouble, hsegment, Url.Trail.follow_dots, Url.Trail.follow_cons h]
      rfl
    · next hdouble =>
      rw [Url.Trail.follow_cons (Url.settled_segment hsingle hdouble), Url.Trail.follow_cons h]
      rfl

private theorem isWhole_of_mem_targetSegments (h : Url.IsWhole name) :
    ∀ s ∈ targetSegments series name, Url.IsWhole s := by
  have hroot : Url.IsWhole "admin-ng" := by decide
  have hplace : Url.IsWhole "series" := by decide
  have hsegment := Url.isWhole_segment series
  unfold targetSegments
  split
  · simp [hroot, hplace, h]
  · split <;> simp [hroot, hplace, hsegment, h]

/-- A target tells the series and what of it is asked for. -/
theorem seriesTarget_inj (h : Url.IsWhole name) (h' : Url.IsWhole name')
    (heq : seriesTarget series name = seriesTarget series' name') :
    series = series' ∧ name = name' := by
  have hne : ∀ series name, targetSegments series name ≠ [] := by
    intro series name
    unfold targetSegments
    split
    · exact List.cons_ne_nil _ _
    · split <;> exact List.cons_ne_nil _ _
  rw [seriesTarget_eq, seriesTarget_eq] at heq
  have hsegments := Url.segmentsText_inj (isWhole_of_mem_targetSegments h)
    (isWhole_of_mem_targetSegments h') (hne _ _) (hne _ _) heq
  unfold targetSegments at hsegments
  grind [Percent.segment_inj]

/-- A path with the name of what is asked for behind a segment that spells out the series. -/
def Spells (series name path : String) : Prop :=
  ∃ x, path = "/admin-ng/series/" ++ x ++ "/" ++ name ∧ Percent.decode? x.toList = some series

private theorem spells_seriesTarget_iff :
    Spells series name (seriesTarget series name) ↔ series ≠ "." ∧ series ≠ ".." := by
  constructor
  · rintro ⟨x, hpath, -⟩
    have hlength := congrArg String.length hpath
    simp only [String.length_append] at hlength
    have habove : "/admin-ng/".length ≤ "/admin-ng/series/".length := by decide
    have hslash : "/".length = 1 := rfl
    -- The path of dots lacks the slash behind the segment, or more.
    constructor
    · rintro rfl
      have htarget : seriesTarget "." name = "/admin-ng/series/" ++ name := rfl
      rw [htarget, String.length_append] at hlength
      omega
    · rintro rfl
      have htarget : seriesTarget ".." name = "/admin-ng/" ++ name := rfl
      rw [htarget, String.length_append] at hlength
      omega
  · rintro ⟨hsingle, hdouble⟩
    have htarget : seriesTarget series name = seriesPath series name :=
      (if_neg hsingle).trans (if_neg hdouble)
    rw [htarget]
    exact ⟨Percent.segment series, rfl, Percent.decode?_segment series⟩

/-- Calls and the paths that were asked for: each path for something of a series spells out the
series, and different things of series are never asked for at one path. -/
structure NamesSeries (asked : List (NodeCall × String)) : Prop where
  spells : ∀ call path series name, (call, path) ∈ asked → call.part? = some (series, name) →
    Spells series name path
  apart : ∀ call other path, (call, path) ∈ asked → (other, path) ∈ asked →
    call.part?.isSome = true → other.part?.isSome = true → call.part? = other.part?

/-- A call for something of a series asks for its target. -/
theorem path_of_mem_asked {first : Client} (hroot : Rooted first.base) (hlog : first.log = [])
    {calls : List NodeCall} {call : NodeCall} {path : String}
    (hmem : (call, path) ∈ calls.zip (first.after calls).paths)
    (hpart : call.part? = some (series, name)) : path = seriesTarget series name := by
  rw [paths_after hroot, paths, hlog, List.map_nil, List.nil_append] at hmem
  split at hmem
  · rw [← List.map_prod_left_eq_zip] at hmem
    obtain ⟨asked, -, heq⟩ := List.mem_map.mp hmem
    obtain ⟨rfl, rfl⟩ := Prod.mk.inj heq
    rw [NodeCall.path_of_part? hpart]
    exact resolved_seriesPath (NodeCall.settled_of_part? hpart)
  · rw [List.zip_nil_right] at hmem
    cases hmem

/-- A client that is made on a base on the web asks once for each call, and on another base for
nothing. What belongs to a series is asked for at a path of its own. It spells out the series, so
that all requests name their series, exactly if no series is named by a dot or by two dots. -/
theorem namesSeries_run_iff {config : Config} {transport : Transport} {first : Client}
    (h : make config transport = .ok first) (calls : List NodeCall) :
    let asked := calls.zip (first.after calls).paths
    (first.after calls).paths.length = (if canRequest first.base then calls.length else 0) ∧
      (∀ call path series name, (call, path) ∈ asked → call.part? = some (series, name) →
        path = seriesTarget series name) ∧
      (∀ call other path, (call, path) ∈ asked → (other, path) ∈ asked →
        call.part?.isSome = true → other.part?.isSome = true → call.part? = other.part?) ∧
      (NamesSeries asked ↔ ∀ call path series name, (call, path) ∈ asked →
        call.part? = some (series, name) → series ≠ "." ∧ series ≠ "..") := by
  intro asked
  obtain ⟨hroot, hlog⟩ := rooted_of_make h
  have htarget : ∀ call path series name, (call, path) ∈ asked →
      call.part? = some (series, name) → path = seriesTarget series name :=
    fun _ _ _ _ hmem hpart ↦ path_of_mem_asked hroot hlog hmem hpart
  have hapart : ∀ call other path, (call, path) ∈ asked → (other, path) ∈ asked →
      call.part?.isSome = true → other.part?.isSome = true → call.part? = other.part? := by
    intro call other path hmem hmem' hsome hsome'
    obtain ⟨⟨series, name⟩, hpart⟩ := Option.isSome_iff_exists.mp hsome
    obtain ⟨⟨series', name'⟩, hpart'⟩ := Option.isSome_iff_exists.mp hsome'
    have heq := (htarget _ _ _ _ hmem hpart).symm.trans (htarget _ _ _ _ hmem' hpart')
    obtain ⟨rfl, rfl⟩ := seriesTarget_inj (NodeCall.settled_of_part? hpart).isWhole
      (NodeCall.settled_of_part? hpart').isWhole heq
    rw [hpart, hpart']
  refine ⟨?_, htarget, hapart, ?_, ?_⟩
  · rw [paths_after hroot, paths, hlog]
    cases canRequest first.base <;> simp
  · intro hnames call path series name hmem hpart
    have hspells := hnames.spells call path series name hmem hpart
    rwa [htarget call path series name hmem hpart, spells_seriesTarget_iff] at hspells
  · intro hdots
    refine ⟨fun call path series name hmem hpart ↦ ?_, hapart⟩
    rw [htarget call path series name hmem hpart, spells_seriesTarget_iff]
    exact hdots call path series name hmem hpart

/-- Settings for a node on the own machine. -/
def localConfig : Config := ⟨"http://127.0.0.1:1", none, none, 30000, 100⟩

/-- A client of that node, which is never reached. -/
def localClient : Client where
  base := ⟨"http", some ⟨"", none, .ipv4 2130706433, some 1⟩, .segments [""], none, none⟩
  user := none
  password := none
  transport := Transport.unreachable
  cookies := Dict.empty
  log := []

private theorem make_localConfig : make localConfig Transport.unreachable = .ok localClient := by
  have hread : Url.read localConfig.baseUrl = .ok localClient.base := by decide +kernel
  have hvalid : localConfig.validate = .ok () := by rfl
  unfold make
  rw [hvalid]
  simp only [bind, Except.bind, hread]
  rfl

private theorem canRequest_localClient : canRequest localClient.base = true :=
  rfl

/-- Something of a series that is named by two dots is asked for above all series. -/
theorem not_namesSeries_parentFolder :
    ¬∀ (config : Config) (transport : Transport) (first : Client) (calls : List NodeCall),
      make config transport = .ok first →
      NamesSeries (calls.zip (first.after calls).paths) := by
  intro h
  have hnames := h localConfig Transport.unreachable localClient [.seriesAccess ".."]
    make_localConfig
  have hpart : NodeCall.part? (.seriesAccess "..") = some ("..", "access.json") := rfl
  have hsettled := NodeCall.settled_of_part? hpart
  have hpaths : (localClient.after [.seriesAccess ".."]).paths =
      [seriesTarget ".." "access.json"] := by
    rw [paths_after (rooted_of_make make_localConfig).1, if_pos canRequest_localClient,
      ← resolved_seriesPath hsettled]
    rfl
  rw [hpaths] at hnames
  have hspells := hnames.spells (.seriesAccess "..") _ ".." "access.json" List.mem_cons_self rfl
  exact (spells_seriesTarget_iff.mp hspells).2 rfl

/-- A slash in an id is escaped, and the empty id is a segment like any other. -/
theorem namesSeries_run_iff_slashes :
    let calls : List NodeCall := [.seriesAccess "../a", .feeds, .seriesTheme ""]
    make localConfig Transport.unreachable = .ok localClient ∧
      (localClient.after calls).paths.length = 3 ∧
      NamesSeries (calls.zip (localClient.after calls).paths) := by
  intro calls
  obtain ⟨hlength, -, -, hnames⟩ := namesSeries_run_iff make_localConfig calls
  rw [if_pos canRequest_localClient] at hlength
  refine ⟨make_localConfig, hlength, hnames.mpr fun call path series name hmem hpart ↦ ?_⟩
  have hcall : call ∈ calls := (List.of_mem_zip hmem).1
  have hseries : ∀ call ∈ calls, ∀ series ∈ call.part?.map Prod.fst,
      series ≠ "." ∧ series ≠ ".." := by decide
  exact hseries call hcall series (by rw [hpart]; rfl)

end Client

end SeriesAcl
