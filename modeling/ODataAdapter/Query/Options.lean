import ODataAdapter.Filter.Expr
import ODataAdapter.Order.Chain

/-!
The options of one query.
-/

namespace ODataAdapter

structure QueryOptions where
  filter : Option Filter.Expr := none
  order : Option SortChain := none
  skip : Option UInt64 := none
  top : Option UInt64 := none
  inlineCount : Option String := none
  deriving DecidableEq, Repr, Inhabited

end ODataAdapter
