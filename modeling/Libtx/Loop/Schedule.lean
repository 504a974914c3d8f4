import Libtx.Loop.Membership
import Libtx.Rounds.Orderly

namespace Libtx

open Intrusive

variable {L T W P R : Type} [DecidableEq L] [DecidableEq T] [DecidableEq W]

end Libtx
