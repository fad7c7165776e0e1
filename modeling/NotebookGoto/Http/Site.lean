import NotebookGoto.Http.MediaType
import NotebookGoto.Http.Route
import NotebookGoto.Http.Token
import NotebookGoto.Template.Render
import NotebookGoto.Wire

/-!
# The server's answers

A site is what a server needs to know to answer: where its endpoints live, its token, and the
template of the code that it hands out. `Site.respond` is a total function of the request. It
looks at the path first, then at the token, then at the method, and only then at the body.
-/

namespace NotebookGoto.Http

open Text

/-- A server, as far as its answers depend on it. Why a body could not be read is told by the reader
of bodies in its own words: `account` gives them for a body, where it has any. They go into one kind
of answer only, and nothing depends on what they are. -/
structure Site where
  baseUrl : String
  extensionName : String
  token : Token
  template : String
  account : Bytes → Option String := fun _ => none

namespace Response

/-- A response that holds JSON. -/
def json (status : Nat) (body : List Char) : Response :=
  ⟨status, some "application/json", none, body⟩

/-- A response that holds nothing. -/
def empty (status : Nat) : Response :=
  ⟨status, none, none, []⟩

/-- A response that tells what went wrong. -/
def problem (status : Nat) (message : String) : Response :=
  json status (Wire.problem.toText message)

/-- The response to a request that does not present the token. -/
def forbidden : Response :=
  problem 403 "Forbidden"

/-- The response that tells of an error: the client's fault if the lookup makes no sense, and
otherwise the server's. -/
def ofError (e : Error) : Response :=
  match e with
  | .position _ | .cell _ => problem 400 e.message
  | _ => problem 500 e.message

end Response

/-- Why a body is not taken as a lookup: its content type is not JSON, it is too long, or it
could not be read. -/
inductive BodyFault where
  | contentType | length | json (fault : Json.Fault)
  deriving DecidableEq, Repr

/-- How the message starts when a body could not be read. -/
def BodyFault.start : Json.Fault → String
  | .malformed => "Failed to parse the request body as JSON"
  | .mistyped => "Failed to deserialize the JSON body into the target type"

/-- The wording of a fault. Where a body could not be read the account of it stands at the end. -/
def BodyFault.message (account : Option String) : BodyFault → String
  | .contentType => "Expected request with `Content-Type: application/json`"
  | .length => "Failed to buffer the request body: length limit exceeded"
  | .json fault => start fault ++ account.elim "" (": " ++ ·)

namespace Request

/-- How many bytes a body may have. -/
def bodyLimit : Nat := 2097152

/-- Whether the content type says that the body is JSON. -/
def hasJson (r : Request) : Bool :=
  ((r.header? "content-type".toList).map MediaType.isJson).getD false

/-- The lookup in a body. What follows the value in the body does not matter. -/
def lookup (r : Request) : Except BodyFault Lookup :=
  -- The content type is looked at before the length, and both before the text.
  if !r.hasJson then .error .contentType
  else if bodyLimit < r.body.length then .error .length
  else (Wire.lookup.read (Json.read (Utf8.decode r.body)).1).mapError .json

end Request

/-- The methods that endpoints know. -/
inductive Method where
  | get | head | post
  deriving DecidableEq, Repr

namespace Method

/-- The name of a method. -/
def name : Method → String
  | .get => "GET"
  | .head => "HEAD"
  | .post => "POST"

/-- The method of a name, in capital letters. -/
def ofName? (name : List Char) : Option Method :=
  [Method.get, .head, .post].find? (·.name.toList = name)

/-- The methods of an endpoint. -/
def allowed : Endpoint → List Method
  | .hello => [.get, .head]
  | .code => [.get, .head, .post]

end Method

namespace Site

/-- The endpoint that a path leads to. -/
def endpoint? (s : Site) (path : List Char) : Option Endpoint :=
  Endpoint.all.find? fun e => Route.accepts (Route.path s.baseUrl s.extensionName e) path

/-- The method of a request, if the endpoint has it. -/
def method? (e : Endpoint) (r : Request) : Option Method :=
  (Method.ofName? r.method).filter (· ∈ Method.allowed e)

/-- Whether a request presents the site's token. -/
def admits (s : Site) (r : Request) : Bool :=
  (r.token?.map s.token.verify).getD false

/-- The answer to a lookup that a client has sent. -/
def render (s : Site) (r : Request) : Response :=
  match r.lookup with
  | .error fault => .problem 400 (fault.message (s.account r.body))
  | .ok l =>
    match Template.render s.template l with
    | .ok code => .json 200 (Wire.code.toText code)
    | .error e => .ofError e

/-- What an endpoint answers to a method. -/
def serve (s : Site) (r : Request) : Endpoint → Method → Response
  | .code, .post => s.render r
  | .code, _ => .json 200 (Wire.code.toText s.template)
  | .hello, _ => .json 200 (Wire.greeting.toText Endpoint.greeting)

/-- The answer at an endpoint: its own for a request with the token, and with it the list of
methods where the request has none of them. -/
def answer (s : Site) (r : Request) (e : Endpoint) : Response :=
  match method? e r with
  | none =>
    let base : Response := if s.admits r then .empty 405 else .forbidden
    { base with allow := some (",".intercalate ((Method.allowed e).map (·.name))) }
  | some m =>
    let full := if s.admits r then s.serve r e m else .forbidden
    if m = .head then { full with body := [] } else full

/-- The answer to a request. -/
def respond (s : Site) (r : Request) : Response :=
  match s.endpoint? r.target.path with
  | none => .empty 404
  | some e => s.answer r e

end Site

end NotebookGoto.Http
