import RowFence.Proofs.Server.Boundary

/-! Answers come back with the number of their request, whoever gives them, the rules for other
origins apart: they answer `OPTIONS` before a request is numbered. -/

namespace RowFence

namespace Http

namespace Response

end Response

namespace RequestId

end RequestId

namespace Cors

variable (c : Cors) (r : Request)

end Cors

end Http

namespace Endpoint

open Http

end Endpoint

namespace App

open Http

variable (app : App) (o : Occasion) (r : Request)

end App

end RowFence
