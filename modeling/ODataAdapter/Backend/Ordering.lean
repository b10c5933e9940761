import ODataAdapter.Backend.Rendering
import ODataAdapter.Order.Chain

/-!
Orderings as backend text. Keys on deleted fields are left out.
-/

namespace ODataAdapter.Target

def keyText? (target : Target) (key : SortKey) : Option String :=
  (target.mapping.target? key.property).map fun name =>
    if key.descending then name ++ " desc" else name

def orderText (target : Target) (chain : SortChain) : String :=
  String.intercalate "," (chain.keys.filterMap target.keyText?)

end ODataAdapter.Target
