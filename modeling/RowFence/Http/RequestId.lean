import RowFence.Http.Request
import RowFence.Http.Response

/-! Numbers that tell requests apart: the one that a request brings along, or else a fresh one. It
comes back with the answer. -/

namespace RowFence.Http.RequestId

def headerName : String := "x-request-id"

def layer (fresh : String) (inner : Request → Response) (r : Request) : Response :=
  match r.headers.first? headerName with
  | some id => (inner r).withNewHeader headerName id
  | none =>
    (inner { r with headers := r.headers ++ [(headerName, fresh)] }).withNewHeader headerName fresh

end RowFence.Http.RequestId
