import ODataAdapter.Exchange.Filter
import ODataAdapter.Query.Options

/-!
Query options in JSON, with the sort keys nested in each other.
-/

namespace ODataAdapter.Exchange

def chainToJson : SortChain → Json
  | .last key =>
      .object [("property", .string key.property), ("descending", .bool key.descending)]
  | .more key rest =>
      .object [("property", .string key.property), ("descending", .bool key.descending),
        ("next", chainToJson rest)]

def optionToJson {α : Type} (toJson : α → Json) (value : Option α) : Json :=
  value.elim .null toJson

def countToJson (count : UInt64) : Json :=
  .number (.integer count.toNat)

def optionsToJson (options : QueryOptions) : Json :=
  .object
    [("filter", optionToJson exprToJson options.filter),
     ("order", optionToJson chainToJson options.order),
     ("skip", optionToJson countToJson options.skip),
     ("top", optionToJson countToJson options.top),
     ("inline_count", optionToJson .string options.inlineCount)]

/-- Each sort key takes one level of nesting. -/
def chain : Decoder SortChain
  | 0, _ => none
  | budget + 1, value => do
      let [property, descending, next] ← members? ["property", "descending", "next"] value | none
      let property ← property.bind (string budget)
      let descending ← withDefault false (bool budget) descending
      let next ← withDefault none (nullable (chain budget)) next
      let key : SortKey := ⟨property, descending⟩
      return next.elim (.last key) (.more key)

def options : Decoder QueryOptions
  | 0, _ => none
  | budget + 1, value => do
      let [filter, order, skip, top, inlineCount] ←
        members? ["filter", "order", "skip", "top", "inline_count"] value | none
      let filter ← withDefault none (nullable (expr budget)) filter
      let order ← withDefault none (nullable (chain budget)) order
      let skip ← withDefault none (nullable (count budget)) skip
      let top ← withDefault none (nullable (count budget)) top
      let inlineCount ← withDefault none (nullable (string budget)) inlineCount
      return { filter, order, skip, top, inlineCount }

end ODataAdapter.Exchange
