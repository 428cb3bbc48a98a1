import GraphScript.Proofs.Extent
import GraphScript.Proofs.Health

namespace GraphScript

open Lowered CSharp

namespace Passage

variable {n : Nat}

end Passage

namespace Context

variable {ctx : Context}

namespace Assembly

variable {b : Bodies}

end Assembly

end Context

/-- The locals of the code that was written, in order. -/
def Writer.locals (w : Writer) : List Local :=
  Spot.start.locals (w.lines.toList.map fun line => Mark.of line.text)

end GraphScript
