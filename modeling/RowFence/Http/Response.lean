import RowFence.Http.Header
import RowFence.Http.Problem

/-! Answers to requests. -/

namespace RowFence.Http

inductive Body where
  | empty
  | text (s : String)
  | json (v : Json.Value)
  deriving Repr

structure Response where
  status : Nat
  headers : Headers
  body : Body
  deriving Repr

namespace Response

def empty (status : Nat) : Response := ⟨status, [], .empty⟩

def text (status : Nat) (s : String) : Response :=
  ⟨status, [("content-type", "text/plain; charset=utf-8")], .text s⟩

def json (status : Nat) (v : Json.Value) : Response :=
  ⟨status, [("content-type", "application/json")], .json v⟩

def withHeader (r : Response) (name value : String) : Response :=
  { r with headers := r.headers ++ [(name, value)] }

def withNewHeader (r : Response) (name value : String) : Response :=
  if r.headers.contains name then r else r.withHeader name value

def withoutBody (r : Response) : Response := { r with body := .empty }

end Response

end RowFence.Http

namespace RowFence.Problem

def toJson (p : Problem) : Json.Value :=
  .object [("error", .string p.code), ("message", .string p.message)]

def response (p : Problem) : Http.Response := .json p.status p.toJson

end RowFence.Problem
