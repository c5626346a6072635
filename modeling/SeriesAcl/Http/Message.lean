import SeriesAcl.Dict
import SeriesAcl.Http.Url

/-!
# Requests and responses

What goes over the wire and comes back. A response is what is known once the connection is closed:
its status, the cookies that it sets, and its text unless that broke off.
-/

namespace SeriesAcl

/-- What a request asks for. -/
inductive Method where
  | get
  | post
  | put
  | delete
  deriving DecidableEq, Repr

/-- The name of a method on the wire. -/
def Method.name : Method → String
  | .get => "GET"
  | .post => "POST"
  | .put => "PUT"
  | .delete => "DELETE"

/-- A request. Its text is a form, if it has one. -/
structure Request where
  method : Method
  url : Url
  authorization : Option String
  cookie : Option String
  form : Option String
  deriving DecidableEq, Repr

namespace Request

/-- The media type of forms. -/
def formType : String := "application/x-www-form-urlencoded"

/-- The media type of the request's text. -/
def contentType (r : Request) : Option String :=
  r.form.map fun _ ↦ formType

end Request

/-- A response. -/
structure Response where
  status : Nat
  cookies : List (String × String)
  body : Option String
  deriving DecidableEq, Repr

namespace Response

/-- Whether the node did what was asked. -/
def isSuccess (r : Response) : Bool :=
  200 ≤ r.status && r.status < 300

/-- Whether a status forbids a text. -/
def isBare (status : Nat) : Bool :=
  status == 204 || status == 304

end Response

/-- A request and the response to it, if one came. -/
structure Exchange where
  request : Request
  response : Option Response
  deriving DecidableEq, Repr

/-- How requests are answered, in the light of all that was exchanged before. -/
abbrev Transport := List Exchange → Request → Option Response

/-- A transport on which nothing is ever reached. -/
def Transport.unreachable : Transport := fun _ _ ↦ none

end SeriesAcl
