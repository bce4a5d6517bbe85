import RowFence.Http.Request
import RowFence.Http.Response
import RowFence.Text.Blank
import RowFence.Text.Split

/-! Answers to pages of other origins. A request with the method OPTIONS is answered here; all
others are answered inside, and header fields are added. -/

namespace RowFence.Http

inductive CorsOrigins where
  | any
  | only (origins : List String)
  deriving DecidableEq, Repr

structure Cors where
  origins : CorsOrigins
  methods? : Option String
  headers? : Option String
  deriving DecidableEq, Repr

namespace Cors

def wildcard : String := "*"

def parts (s : String) : List String := (Text.pieces ',' s).map Text.trim

/-- Nothing if the wildcard stands among other origins. -/
def origins? (s : String) : Option CorsOrigins :=
  if s = wildcard then some .any
  else
    let origins := (parts s).filter isHeaderValue
    if origins.contains wildcard then none else some (.only origins)

/-- Joins the parts of a list that are allowed in it, if there are any. -/
def offered? (read : String → Option String) (s : String) : Option String :=
  if s = wildcard then some wildcard
  else
    match (parts s).filterMap read with
    | [] => none
    | names => some (",".intercalate names)

def method? (s : String) : Option String := if isToken s then some s else none

def headerName? (s : String) : Option String := if isToken s then some (lowered s) else none

def ofTexts? (origins methods headers : String) : Option Cors :=
  (origins? origins).map fun origins =>
    ⟨origins, offered? method? methods, offered? headerName? headers⟩

def allowedOrigin? (c : Cors) (r : Request) : Option String :=
  match c.origins with
  | .any => some wildcard
  | .only origins => (r.headers.first? "origin").filter origins.contains

def vary : String × String :=
  ("vary", "origin, access-control-request-method, access-control-request-headers")

def originFields (c : Cors) (r : Request) : Headers :=
  vary :: ((c.allowedOrigin? r).map fun o => ("access-control-allow-origin", o)).toList

def preflight (c : Cors) (r : Request) : Response :=
  ⟨200, c.originFields r
    ++ (c.methods?.map fun s => ("access-control-allow-methods", s)).toList
    ++ (c.headers?.map fun s => ("access-control-allow-headers", s)).toList, .empty⟩

def layer (c : Cors) (inner : Request → Response) (r : Request) : Response :=
  if r.method = "OPTIONS" then c.preflight r
  else
    let answer := inner r
    { answer with headers := answer.headers ++ c.originFields r }

end Cors

end RowFence.Http
