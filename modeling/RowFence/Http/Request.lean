import RowFence.Http.Header
import RowFence.Http.Uri

/-! Requests, as they come in. -/

namespace RowFence.Http

/-- Who sends a request, as far as authentication in front of the server knows. The tenant has not
been checked. -/
structure Identity where
  subject : String
  tenant? : Option Int
  deriving DecidableEq, Repr

structure Request where
  method : String
  uri : Uri
  headers : Headers
  identity? : Option Identity
  body : String
  deriving DecidableEq, Repr

namespace Request

inductive Malformed where
  | uri | header | method
  deriving DecidableEq, Repr

def ofParts (method uri : String) (headers : List (String × String)) (identity? : Option Identity)
    (body : String) : Except Malformed Request := do
  let some uri := Uri.ofText? uri | throw .uri
  let some headers := headers.mapM fun (name, value) => headerField? name value | throw .header
  if !isToken method then throw .method
  return { method, uri, headers, identity?, body }

end Request

end RowFence.Http
