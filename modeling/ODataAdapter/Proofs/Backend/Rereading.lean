import ODataAdapter.Proofs.Backend.Forwarding
import ODataAdapter.Proofs.Query.Escapes

/-!
Assembled queries read back. The clauses that were put in come out again as long as no value holds
a separator or an escape, and any value that holds one is read as a shorter one.
-/

namespace ODataAdapter.Query

theorem clauses_append (left right : List Char) :
    clauses (left ++ '&' :: right) = clauses left ++ clauses right := by
  simp [clauses, splitAt_append]

theorem clauses_clause (option : OptionKey) (value : List Char) :
    ∃ first stray,
      clauses (option.name.toList ++ '=' :: value) =
        (option.name.toList, decode first) :: stray ∧
      (('&' ∉ value ∧ first = value ∧ stray = []) ∨
        ('&' ∈ value ∧ first.length < value.length)) := by
  obtain ⟨noSeparator, _⟩ := option.name_plain
  have free : '&' ∉ option.name.toList ++ ['='] := by simp [noSeparator]
  obtain ⟨first, others, pieces, whole⟩ := splitAt_word free value
  rw [List.append_assoc, List.singleton_append] at whole
  refine ⟨first, (others.filter (!·.isEmpty)).map decodePiece, ?_, ?_⟩
  · simp [clauses, whole, decodePiece_clause]
  · by_cases separated : '&' ∈ value
    · obtain ⟨before, after, rfl, beforeFree⟩ := List.eq_append_cons_of_mem separated
      rw [splitAt_append, splitAt_free beforeFree, List.singleton_append] at pieces
      obtain ⟨rfl, _⟩ := List.cons.inj pieces
      refine Or.inr ⟨separated, ?_⟩
      simp only [List.length_append, List.length_cons]
      omega
    · rw [splitAt_free separated] at pieces
      obtain ⟨rfl, rfl⟩ := List.cons.inj pieces
      exact Or.inl ⟨separated, rfl, rfl⟩

theorem clauses_join_eq_iff {sent : List (String × String)}
    (named : ∀ clause ∈ sent, IsOption clause) :
    clauses (String.join (sent.map clauseText)).toList =
        sent.map (Prod.map String.toList String.toList) ↔
      ∀ clause ∈ sent, '&' ∉ clause.2.toList ∧ ¬HasEscape clause.2.toList := by
  induction sent with
  | nil =>
      constructor
      · intro _ clause member
        contradiction
      · intro _
        rfl
  | cons clause sent ih =>
      obtain ⟨option, key⟩ := named clause List.mem_cons_self
      have others := ih fun clause member => named clause (List.mem_cons_of_mem _ member)
      obtain ⟨first, stray, found, shape⟩ := clauses_clause option clause.2.toList
      rw [join_cons, key, clauses_append, found, List.map_cons, List.forall_mem_cons,
        List.cons_append, List.cons.injEq, Prod.map, key, Prod.mk.injEq]
      rcases shape with ⟨free, rfl, rfl⟩ | ⟨separated, shorter⟩
      · rw [decode_eq_self_iff, List.nil_append, others]
        simp [free]
      · -- What comes back for this value is too short, whatever the later clauses are.
        have decoded := length_decode_le first
        constructor
        · rintro ⟨⟨_, same⟩, _⟩
          rw [same] at decoded
          omega
        · rintro ⟨⟨free, _⟩, _⟩
          exact absurd separated free

end ODataAdapter.Query

namespace ODataAdapter.Target

open Query (clausesOf escapePlus formClauses HasEscape)

variable {target : Target} {allow : Allowance} {options : QueryOptions}

/-- A query is read back as the clauses it was made of exactly if no value holds an `&` or an
escape. To read it is to read form data once every plus is written as an escape. -/
theorem clausesOf_query_eq_iff {query : String}
    (assembled : target.query allow options = .ok query) :
    ∃ sent, target.clauses allow options = .ok sent ∧ query = queryText sent ∧
      formClauses (escapePlus ((Text.trim query.toList).dropWhile (· = '?'))) = clausesOf query ∧
      (clausesOf query = sent.map (Prod.map String.toList String.toList) ↔
        ∀ clause ∈ sent, '&' ∉ clause.2.toList ∧ ¬HasEscape clause.2.toList) := by
  simp only [Target.query] at assembled
  cases found : target.clauses allow options with
  | error error => simp [found, Except.map] at assembled
  | ok sent =>
      rw [found] at assembled
      obtain rfl : queryText sent = query := Except.ok.inj assembled
      have named := clauses_named found
      refine ⟨sent, rfl, rfl, Query.formClauses_escapePlus _, ?_⟩
      rw [Query.clausesOf_queryText named]
      exact Query.clauses_join_eq_iff named

theorem clausesOf_query_eq_iff_of_signs :
    Target.query ⟨.empty, defaultDepth⟩ .all { inlineCount := some "1+1=2%2" } =
        .ok "?$inlinecount=1+1=2%2&" ∧
      ∃ sent,
        Target.clauses ⟨.empty, defaultDepth⟩ .all { inlineCount := some "1+1=2%2" } = .ok sent ∧
        "?$inlinecount=1+1=2%2&" = queryText sent ∧
        formClauses (escapePlus
            ((Text.trim "?$inlinecount=1+1=2%2&".toList).dropWhile (· = '?'))) =
          clausesOf "?$inlinecount=1+1=2%2&" ∧
        (clausesOf "?$inlinecount=1+1=2%2&" =
            sent.map (Prod.map String.toList String.toList) ↔
          ∀ clause ∈ sent, '&' ∉ clause.2.toList ∧ ¬HasEscape clause.2.toList) := by
  have assembled :
      Target.query ⟨.empty, defaultDepth⟩ .all { inlineCount := some "1+1=2%2" } =
        .ok "?$inlinecount=1+1=2%2&" := by rfl
  exact ⟨assembled, clausesOf_query_eq_iff assembled⟩

end ODataAdapter.Target
