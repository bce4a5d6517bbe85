import RowFence.Http.MediaType
import RowFence.Http.Request
import RowFence.Http.Response
import RowFence.Json.Shape

/-! JSON in the bodies of requests. What follows the value is not looked at. -/

namespace RowFence.Http

inductive BodyError where
  | mediaType
  | size
  | json (e : Json.Fault)
  deriving DecidableEq, Repr

namespace BodyError

def status : BodyError → Nat
  | mediaType => 415
  | size => 413
  | json e => if e.reason.concernsShape then 422 else 400

def message : BodyError → String
  | mediaType => "Expected request with `Content-Type: application/json`"
  | size => "Failed to buffer the request body: length limit exceeded"
  | json e =>
    (if e.reason.concernsShape then "Failed to deserialize the JSON body into the target type: "
      else "Failed to parse the request body as JSON: ") ++ e.tracedMessage

def response (e : BodyError) : Response := .text e.status e.message

end BodyError

namespace Request

def maxBodySize : Nat := 2097152

def isJson (r : Request) : Bool :=
  ((r.headers.text? "content-type").bind MediaType.ofText?).any (·.isJson)

def readJson {α : Type} (r : Request) (reader : Json.Reader α) : Except BodyError α :=
  if !r.isJson then .error .mediaType
  else if maxBodySize < r.body.utf8ByteSize then .error .size
  else (reader.runOnStart r.body).mapError .json

def readField (r : Request) (title field : String) : Except BodyError String :=
  r.readJson (Json.Reader.record title [⟨field, true, fun _ => Json.Reader.string⟩] "")

end Request

end RowFence.Http
