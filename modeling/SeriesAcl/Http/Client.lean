import SeriesAcl.Admin.Interface
import SeriesAcl.Http.Base64
import SeriesAcl.Http.Message
import SeriesAcl.Settings.Config

/-!
# A node over HTTP

A node that is reached over a transport. Names go into paths as single segments, so that no name can
spell a second one; cookies that the node sets are sent back to it. Every request is kept with what
came of it. See `SPEC_FULL.md`, section 6.
-/

namespace SeriesAcl

open Json (Decoder)

/-- A connection to a node (`SPEC_FULL.md` 6, `HttpAdminApi`). -/
structure Client where
  base : Url
  user : Option String
  password : Option String
  transport : Transport
  cookies : Dict String
  log : List Exchange

namespace Client

/-- A connection with the given settings. -/
def make (config : Config) (transport : Transport) : Except Error Client := do
  config.validate
  match Url.read config.baseUrl with
  | .ok base => return ⟨base, config.user, config.password, transport, Dict.empty, []⟩
  | .error fault => throw (Error.invalidBaseUrl config.baseUrl fault.message)

/-- The authorization of a user by password. -/
def basic (user : String) (password : Option String) : String :=
  "Basic " ++ Base64.ofText (user ++ ":" ++ password.getD "")

/-- The cookies as a request carries them. -/
def cookieText (cookies : Dict String) : Option String :=
  if cookies.isEmpty then none
  else some ("; ".intercalate (cookies.entries.map fun (name, value) ↦ name ++ "=" ++ value))

/-- Whether a request can be formed for an address: the scheme is a web scheme, and the host has no
character that requests do not take. -/
def canRequest (u : Url) : Bool :=
  (u.scheme == "http" || u.scheme == "https") &&
    match u.authority with
    | some a => !(a.host.toText.toList.any "\"`\x7b\x7d".toList.contains)
    | none => false

/-- The address of a path on the node, with a query if parameters are given. -/
def address (c : Client) (path : String) (params : List (String × String)) : Except Error Url :=
  match c.base.withPath path with
  | .error fault => .error (Error.invalidPath path fault.message)
  | .ok url => .ok { url with query := if params.isEmpty then none else some (Percent.form params) }

/-- The request for an address. A user named in the address goes before the one in the settings and
is not part of the address that is asked for. -/
def request (c : Client) (method : Method) (url : Url) (form : Option (List (String × String))) :
    Request :=
  let named := url.credentials?.map fun (user, password) ↦ basic user password
  { method := method
    url := if named.isSome then url.anonymous else url
    authorization := named.or (c.user.map fun user ↦ basic user c.password)
    cookie := cookieText c.cookies
    form := form.map Percent.form }

/-- Send a request: the response, unless it does not come or reports a failure. -/
def send (request : Request) : Call Client Response := fun c ↦
  if canRequest request.url then
    let answer := c.transport c.log request
    let c := { c with log := c.log ++ [⟨request, answer⟩] }
    match answer with
    | none => (.error (Error.transport request.url.toText), c)
    | some response =>
      let c := { c with cookies := c.cookies.merge ⟨response.cookies⟩ }
      if response.isSuccess then (.ok response, c)
      else (.error (Error.ofStatus response.status (response.body.getD "")), c)
  else (.error (Error.unsupportedScheme request.url.toText), c)

/-- Ask for a path. -/
def exchange (method : Method) (path : String) (params : List (String × String))
    (form : Option (List (String × String))) : Call Client Response := fun c ↦
  match c.address path params with
  | .error e => (.error e, c)
  | .ok url => send (c.request method url form) c

/-- The value in a response. -/
def decoded {α : Type} (d : Decoder α) (response : Response) : Except Error α :=
  match response.body with
  | none => .error Error.invalidBody
  | some text => (Decoder.ofText d text).mapError Error.invalidJson

/-- Read a value at a path. -/
def read {α : Type} (d : Decoder α) (path : String) (params : List (String × String)) :
    Call Client α := do
  Call.ofExcept (decoded d (← exchange .get path params none))

/-- Send a form to a path. -/
def submit (method : Method) (path : String) (form : List (String × String)) :
    Call Client Unit := do
  let _ ← exchange method path [] (some form)

/-- The path of something that belongs to a series (`SPEC_FULL.md` 6). -/
def seriesPath (series name : String) : String :=
  "/admin-ng/series/" ++ Percent.segment series ++ "/" ++ name

/-- The path of a resource list (`SPEC_FULL.md` 6). -/
def resourcePath (name : String) : String :=
  "/admin-ng/resources/" ++ Percent.segment name ++ ".json"

/-- The path of a managed list (`SPEC_FULL.md` 6). -/
def managedPath (id : Int) : String :=
  "/acl-manager/acl/" ++ toString id

/-- A client answers the calls of a node by requests. -/
instance : AdminNode Client where
  currentUser := read User.decode "/info/me.json" []
  seriesAccess series := read AccessEnvelope.decode (seriesPath series "access.json") []
  saveSeriesAccess series update := submit .post (seriesPath series "access") update.formFields
  managedAcl id := read ManagedAcl.decode (managedPath id) []
  listRoles query := do
    Call.ofExcept (RoleEntry.listOf
      (← read Decoder.any (resourcePath Resource.roles) query.params))
  resourceList name := do
    return Resource.listOf (← read Decoder.any (resourcePath name) [])
  directoryUsers := do
    return Resource.tagsOf (← read Decoder.any (resourcePath Resource.directoryUsers) [])
  seriesMetadata series := do
    Call.ofExcept (Metadata.ofJson (← read Decoder.any (seriesPath series "metadata.json") []))
  saveSeriesMetadata series catalog :=
    submit .put (seriesPath series "metadata")
      [("metadata", (Json.array [catalog.toJson]).compact)]
  seriesTheme series := read (Decoder.dict Decoder.any) (seriesPath series "theme.json") []
  saveSeriesTheme series theme := submit .put (seriesPath series "theme") [("themeId", theme)]
  deleteSeriesTheme series := do
    let _ ← exchange .delete (seriesPath series "theme") [] none
  feeds := read (Decoder.list Feed.decode) "/admin-ng/feeds/feeds" []

end Client

end SeriesAcl
