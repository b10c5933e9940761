import ODataAdapter.Command.Adapt
import ODataAdapter.Proofs.Backend.Nesting
import ODataAdapter.Proofs.Backend.Refusal
import ODataAdapter.Proofs.Exchange.TakingBack
import ODataAdapter.Proofs.Query.Transparency

/-!
A query can be given as text, or as a file with its options in JSON. Both ways lead to the same
backend query as long as the JSON nests no deeper than JSON may. A chain of clauses that is short
enough to be translated can be too long for that.
-/

namespace ODataAdapter

open Exchange (optionsToJson optionsLevels decodeText?)
open ODataAdapter.Filter (Expr readExpr)
open Query (OptionKey)

namespace QueryOptions

theorem ofText_filter {depthLimit : Nat} {text : List Char} {expr : Expr}
    (read : readExpr depthLimit text = .ok expr) (noSeparator : '&' ∉ text) (noEscape : '%' ∉ text)
    (ends : ∀ char ∈ text.getLast?, Text.isBlank char = false) :
    ofText depthLimit (String.ofList ("$filter=".toList ++ text)) = .ok { filter := some expr } := by
  have clause : (String.ofList ("$filter=".toList ++ text)).toList =
      OptionKey.filter.name.toList ++ '=' :: text := by
    rw [String.toList_ofList]
    rfl
  have plain : Query.decode text = text := by
    rw [Query.decode_eq_self_iff]
    rintro ⟨high, low, _, _, inside⟩
    exact noEscape (inside.subset List.mem_cons_self)
  rw [Query.ofText_clause clause noSeparator, Text.trimEnd_eq_self ends, plain,
    Query.setOption_filter read]

end QueryOptions

namespace Target

theorem mem_flagChainText {more : Nat} {char : Char} (member : char ∈ flagChainText more) :
    char ∈ [' ', 'A', 'a', 'n', 'd'] := by
  have word : ∀ char ∈ " and A".toList, char ∈ [' ', 'A', 'a', 'n', 'd'] :=
    List.all_iff_forall_prop.1 (by decide)
  induction more with
  | zero =>
      obtain rfl : char = 'A' := by simpa [flagChainText] using member
      decide
  | succ more ih =>
      rcases List.mem_append.1 member with earlier | last
      · exact ih earlier
      · exact word char last

theorem getLast?_flagChainText (more : Nat) : (flagChainText more).getLast? = some 'A' := by
  cases more with
  | zero => rfl
  | succ more =>
      have last : " and A".toList.getLast? = some 'A' := by decide
      rw [flagChainText, List.getLast?_append, last, Option.some_or]

theorem ofText_flagChain (depthLimit more : Nat) :
    QueryOptions.ofText depthLimit (String.ofList ("$filter=".toList ++ flagChainText more)) =
      .ok { filter := some (flagChain more) } := by
  have noSeparator : '&' ∉ flagChainText more := by
    intro member
    exact absurd (mem_flagChainText member) (by decide)
  have noEscape : '%' ∉ flagChainText more := by
    intro member
    exact absurd (mem_flagChainText member) (by decide)
  have ends : ∀ char ∈ (flagChainText more).getLast?, Text.isBlank char = false := by
    intro char isLast
    rw [getLast?_flagChainText] at isLast
    obtain rfl : 'A' = char := Option.some.inj isLast
    decide
  refine QueryOptions.ofText_filter ?_ noSeparator noEscape ends
  refine ((writes_flagChain more).loosen (Nat.zero_le _)).readExpr_eq ?_
  rw [(nests_flagChainText more).deepestNesting_eq]
  exact Nat.zero_le _

theorem filterText_flagChain {more : Nat} (fits : more < defaultDepth) :
    filterText ⟨.empty, defaultDepth⟩ (flagChain more) = .ok (flagChain more).print := by
  have shallow : (flagChain more).height ≤ defaultDepth := by
    rw [(flagChain_measures more).2]
    exact fits
  have within : WithinDepth ⟨.empty, defaultDepth⟩ (flagChain more) := by
    rw [WithinDepth, Expr.render_empty shallow]
    rfl
  have translated := filterText_of_supported (writes_flagChain more).supported within
  rwa [Expr.survivingText_empty] at translated

theorem exprLevels_flagChain (more : Nat) :
    Exchange.exprLevels (flagChain more) = 2 * more + 2 := by
  induction more with
  | zero => rfl
  | succ more ih =>
      simp only [flagChain, Exchange.exprLevels, ih]
      omega

end Target

namespace Command

/-- Options that were read from a query and stored as JSON are taken back from the file, and then
lead to the same result as the query, exactly if the JSON nests no deeper than JSON may. Otherwise
the file is refused. -/
theorem adapt_file_eq_adapt_query {config : Config} {files : Files} {path text : String}
    {options : QueryOptions} (read : QueryOptions.ofText config.depthLimit text = .ok options)
    (stored : files path = .text (optionsToJson options).compact) (invocation : Invocation) :
    (optionsToJson options).nesting = optionsLevels options ∧
      decodeText? Exchange.options (optionsToJson options).compact =
        (if (optionsToJson options).nesting ≤ Written.maxNesting then some options else none) ∧
      adapt config files invocation (.file path) =
        if (optionsToJson options).nesting ≤ Written.maxNesting then
          adapt config files invocation (.query text)
        else .error (.optionsMalformed path) := by
  have decoded := Exchange.decodeText?_compact (Exchange.takesBack_options options)
    (Exchange.whole_optionsToJson options)
  refine ⟨Exchange.nesting_optionsToJson options, decoded, ?_⟩
  have fromText : sourceOptions config files (.query text) = .ok (some options) := by
    simp [sourceOptions, read, Except.map, Except.mapError]
  by_cases shallow : (optionsToJson options).nesting ≤ Written.maxNesting
  · have fromFile : sourceOptions config files (.file path) = .ok (some options) := by
      simp [sourceOptions, stored, FileState.read, decoded, shallow]
    rw [if_pos shallow, adapt, adapt, fromFile, fromText]
  · have refused : sourceOptions config files (.file path) = .error (.optionsMalformed path) := by
      simp [sourceOptions, stored, FileState.read, decoded, shallow]
    rw [if_neg shallow, adapt, refused]
    rfl

theorem adapt_file_eq_adapt_query_of_two_fields :
    let text := String.ofList ("$filter=".toList ++ Target.flagChainText 1)
    let options : QueryOptions := { filter := some (Target.flagChain 1) }
    let files : Files := fun _ => .text (optionsToJson options).compact
    let invocation : Invocation := { action := .adapt (.file "options.json") }
    QueryOptions.ofText defaultDepth text = .ok options ∧
      files "options.json" = .text (optionsToJson options).compact ∧
        (optionsToJson options).nesting = optionsLevels options ∧
          decodeText? Exchange.options (optionsToJson options).compact =
            (if (optionsToJson options).nesting ≤ Written.maxNesting then some options else none) ∧
          adapt {} files invocation (.file "options.json") =
            if (optionsToJson options).nesting ≤ Written.maxNesting then
              adapt {} files invocation (.query text)
            else .error (.optionsMalformed "options.json") := by
  intro text options files invocation
  have read : QueryOptions.ofText defaultDepth text = .ok options :=
    Target.ofText_flagChain defaultDepth 1
  have stored : files "options.json" = .text (optionsToJson options).compact := rfl
  exact ⟨read, stored, adapt_file_eq_adapt_query read stored invocation⟩

/-- Sixty-four fields joined by `and` are read and translated within the default limits, but their
JSON nests a hundred and twenty-nine objects and is refused. -/
theorem decodeText?_flagChain_tooDeep :
    QueryOptions.ofText defaultDepth
        (String.ofList ("$filter=".toList ++ Target.flagChainText 63)) =
      .ok { filter := some (Target.flagChain 63) } ∧
    (∃ query, Target.query ⟨.empty, defaultDepth⟩ .all { filter := some (Target.flagChain 63) } =
      .ok query) ∧
    decodeText? Exchange.options (optionsToJson { filter := some (Target.flagChain 63) }).compact =
      none := by
  refine ⟨Target.ofText_flagChain defaultDepth 63, ?_, ?_⟩
  · exact Target.exists_query_eq_ok rfl (Target.filterText_flagChain (by decide))
  · rw [Exchange.decodeText?_compact (Exchange.takesBack_options _)
      (Exchange.whole_optionsToJson _), if_neg]
    simp [Exchange.nesting_optionsToJson, optionsLevels, Target.exprLevels_flagChain,
      Written.maxNesting]

end Command

end ODataAdapter
