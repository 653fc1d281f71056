import ModelApi.Proofs.Compile.DataSources
import ModelApi.Proofs.Resolver.KeyQuery

/-!
# What becomes of a statement

A statement is text of the user. It reaches the function in a string literal of the request, and nothing is escaped on
the way, so the literal ends at the first quote.

* `Text.following?`: what follows the first place where a mark stands, `Text.upTo`: what precedes a character;
* `literalOf?`: the string literal that a template assigns to a variable;
* `literalOf?_statementRequest`: the literal of a request is the statement up to its first quote;
* `request_of_statement`: the requests of an API are made of the statements that its fields declare;
* `statement_read_back`: a statement is got back from its request when there is no quote in it, and only then.
-/

namespace ModelApi

open ModelApi.Expr
open Schema (Document)
open Text (joinWith cutAt cut?)

/-! ## reading a literal -/

namespace Text

/-- What follows the first place where `mark` stands. -/
def followingChars? (mark : List Char) : List Char → Option (List Char)
  | [] => mark.isPrefixOf? []
  | c :: cs => (mark.isPrefixOf? (c :: cs)).or (followingChars? mark cs)

@[inherit_doc followingChars?]
def following? (mark s : String) : Option String := (followingChars? mark.toList s.toList).map String.ofList

/-- The text before the first `c`, or all of it. -/
def upTo (c : Char) (s : String) : String := String.ofList (cutAt c s.toList).1

theorem length_le_of_following {mark cs rest : List Char} (h : followingChars? mark cs = some rest) :
    mark.length ≤ cs.length := by
  have hprefix : ∀ ds : List Char, mark.isPrefixOf? ds = some rest → mark.length ≤ ds.length := by
    intro ds hds
    rw [← List.isPrefixOf?_eq_some_iff_append_eq.1 hds, List.length_append]
    omega
  induction cs with
  | nil => exact hprefix [] h
  | cons c cs ih =>
    rcases Option.or_eq_some_iff.1 h with hhere | ⟨-, hlater⟩
    · exact hprefix (c :: cs) hhere
    · have hlength := ih hlater
      rw [List.length_cons]
      omega

/-- A mark that is found is found at the same place when the text goes on. -/
theorem followingChars?_append {mark cs rest : List Char} (h : followingChars? mark cs = some rest) (more : List Char) :
    followingChars? mark (cs ++ more) = some (rest ++ more) := by
  induction cs with
  | nil =>
    obtain ⟨rfl, rfl⟩ := List.append_eq_nil_iff.1 (List.isPrefixOf?_eq_some_iff_append_eq.1 h)
    cases more <;> rfl
  | cons c cs ih =>
    rcases Option.or_eq_some_iff.1 h with hhere | ⟨hnone, hlater⟩
    · have hsame : mark.isPrefixOf? (c :: (cs ++ more)) = some (rest ++ more) := by
        rw [List.isPrefixOf?_eq_some_iff_append_eq, ← List.append_assoc,
          List.isPrefixOf?_eq_some_iff_append_eq.1 hhere, List.cons_append]
      rw [List.cons_append, followingChars?, hsame, Option.some_or]
    · -- the mark is no longer than what follows, so a place where it starts is one before the text goes on
      have hstill : mark.isPrefixOf? (c :: (cs ++ more)) = none := by
        refine Option.eq_none_iff_forall_ne_some.2 fun r hfound => ?_
        have hlength : mark.length ≤ (c :: cs).length := length_le_of_following h
        obtain ⟨u, hu⟩ : mark <+: c :: cs := List.prefix_of_prefix_length_le
          ⟨r, List.isPrefixOf?_eq_some_iff_append_eq.1 hfound⟩ (List.prefix_append (c :: cs) more) hlength
        rw [List.isPrefixOf?_eq_some_iff_append_eq.2 hu] at hnone
        cases hnone
      rw [List.cons_append, followingChars?, hstill, Option.none_or, ih hlater]

theorem cutAt_fst_append (c : Char) (cs rest : List Char) : ∃ after,
    cutAt c (cs ++ c :: rest) = ((cutAt c cs).1, some after) := by
  induction cs with
  | nil => exact ⟨rest, by simp [cutAt]⟩
  | cons d cs ih =>
    by_cases hd : d = c
    · exact ⟨cs ++ c :: rest, by simp [cutAt, hd]⟩
    · obtain ⟨after, hafter⟩ := ih
      exact ⟨after, by simp [cutAt, hd, hafter]⟩

theorem cutAt_fst_eq_self_iff (c : Char) (cs : List Char) : (cutAt c cs).1 = cs ↔ c ∉ cs := by
  induction cs with
  | nil => simp [cutAt]
  | cons d cs ih =>
    by_cases hd : d = c
    · simp [cutAt, hd]
    · simp [cutAt, hd, ih, Ne.symm hd]

/-- A text that ends with a mark, and has it nowhere else, is followed by what is appended to it. -/
theorem following?_append {mark s : String} (h : followingChars? mark.toList s.toList = some []) (t : String) :
    following? mark (s ++ t) = some t := by
  rw [following?, String.toList_append, followingChars?_append h, List.nil_append, Option.map_some, String.ofList_toList]

theorem cut?_fst_append (c : Char) (s t : String) :
    (cut? c (s ++ (String.singleton c ++ t))).map Prod.fst = some (upTo c s) := by
  obtain ⟨after, hcut⟩ := cutAt_fst_append c s.toList t.toList
  have hchars : (s ++ (String.singleton c ++ t)).toList = s.toList ++ c :: t.toList := by simp
  rw [cut?, hchars, hcut]
  rfl

theorem upTo_eq_self_iff (c : Char) (s : String) : upTo c s = s ↔ c ∉ s.toList := by
  rw [← cutAt_fst_eq_self_iff, upTo, ← String.toList_inj, String.toList_ofList]

end Text

/-- The string literal that a template assigns to a variable: what stands between its opening quote, at the first
assignment of a literal to the variable, and the next quote. -/
def literalOf? (target template : String) : Option String :=
  (Text.following? ("#set( $" ++ target ++ " = \"") template).bind fun rest => (cut? '"' rest).map Prod.fst

/-! ## requests -/

/-- The request for a statement, up to the quote that opens the literal. -/
def statementFront : String :=
  startMark "Invoke RDS Lambda data source" ++ "\n" ++ (assign "lambdaInput" emptyObj).print ++ "\n" ++
    (assign "lambdaInput.args" emptyObj).print ++ "\n" ++ "#set( " ++ "$" ++ "lambdaInput.statement" ++ " = " ++ "\""

theorem statementRequest_eq (statement operationName : String) :
    ∃ rest, statementRequest statement operationName = statementFront ++ (statement ++ ("\"" ++ rest)) := by
  simp only [statementRequest, statementFront, printSteps, printBlock, print, assign, render, renderAll, joinWith,
    Position.lead, String.append_assoc, String.empty_append]
  exact ⟨_, rfl⟩

/-- The literal of a request is the statement up to its first quote. -/
theorem literalOf?_statementRequest (statement operationName : String) :
    literalOf? "lambdaInput.statement" (statementRequest statement operationName) =
      some (Text.upTo '"' statement) := by
  obtain ⟨rest, hrequest⟩ := statementRequest_eq statement operationName
  -- nothing of the statement is looked at to find where it starts
  have hfront : Text.followingChars? ("#set( $" ++ "lambdaInput.statement" ++ " = \"").toList statementFront.toList =
      some [] := by decide +kernel
  rw [literalOf?, hrequest, Text.following?_append hfront]
  exact Text.cut?_fst_append '"' statement rest

theorem literalOf?_eq_iff (statement operationName : String) :
    literalOf? "lambdaInput.statement" (statementRequest statement operationName) = some statement ↔
      '"' ∉ statement.toList := by
  rw [literalOf?_statementRequest, Option.some.injEq, Text.upTo_eq_self_iff]

/-! ## fields with statements -/

section Document

variable {doc : Document} {config : Config} {api : Api} {d : Declarations}

/-- The requests of an API are made of the statements that its fields declare. -/
theorem request_of_statement (h : compileDocument doc config = .ok api)
    (hd : collect doc config (config.sourcesOf doc) = .ok d) {f : SqlField} (hf : f ∈ d.sqlFields) :
    ∃ r, api.registry.get? f.key = some r ∧ r.request = statementRequest f.statement f.fieldName := by
  have hn := rootFields_nodup h hd
  have hkey : f.key ∈ d.rootFields config.usesSync := by
    rw [Declarations.rootFields_eq]
    exact List.mem_append_right _ (List.mem_map_of_mem hf)
  obtain ⟨r, hr⟩ := resolver_of_rootField h hd hkey
  obtain ⟨resolver, hregister, hcore⟩ := resolver_of_compiled h hd hr
  have hrequest : r.request = resolver.request :=
    (congrArg Resolver.request hcore).trans (Resolver.request_addRequests _ _ _)
  refine ⟨r, hr, hrequest.trans ?_⟩
  rcases Project.register_cases hregister with ⟨m, hm, o, ho, hserves, -⟩ | ⟨i, hi, field, hfield, hquery, -⟩ |
    ⟨g, hg, hsame, rfl⟩
  · have hserved : (m.name, f.key) ∈ d.served config.usesSync :=
      Project.mem_served_of_operation (p := projectOf config doc d) hm ho hserves
    exact absurd rfl (Declarations.served_ne_statement hn hserved hf)
  · have hserved : (i.model, f.key) ∈ d.served config.usesSync := hquery ▸ Declarations.mem_served_of_query hi hfield
    exact absurd rfl (Declarations.served_ne_statement hn hserved hf)
  · rw [Declarations.rootFields_eq] at hn
    have hfg : f = g := List.inj_on_of_nodup_map (List.nodup_append.1 hn).2.1 hf hg hsame
    rw [hfg]
    rfl

end Document

/-- Whatever the statement and the name of the operation, the string literal that the request assigns to
`$lambdaInput.statement` is the statement up to its first quote. So the statement is got back when there is no quote in
it, and only then. -/
theorem statement_read_back (statement operationName : String) :
    literalOf? "lambdaInput.statement" (statementRequest statement operationName) =
      some (Text.upTo '"' statement) ∧
    (literalOf? "lambdaInput.statement" (statementRequest statement operationName) = some statement ↔
      '"' ∉ statement.toList) :=
  ⟨literalOf?_statementRequest statement operationName, literalOf?_eq_iff statement operationName⟩

/-- Titles, which are stored in a column whose name is quoted. -/
def quotedColumn : Document := ⟨[
  .type ⟨⟨1, 1⟩, "Query", false, .object [
    ⟨"titles", [], .list (.named "String" true) true, [⟨"sql", ⟨1, 31⟩,
      [("statement", .str "SELECT \"title\" FROM post")]⟩]⟩], []⟩]⟩

/-- All data is kept in a database. -/
def quotedConfig : Config :=
  { defaultDataSource := some (.postgres ⟨"db", ⟨"host", "port", "user", "password", "name"⟩, none, .empty, none⟩) }

/-- A statement with quotes is accepted, and cut off in the request at the first of them. -/
theorem quoted_column_cut_off : ∃ d api f r, compileDocument quotedColumn quotedConfig = .ok api ∧
    collect quotedColumn quotedConfig (quotedConfig.sourcesOf quotedColumn) = .ok d ∧ d.sqlFields = [f] ∧
    Text.isBlank f.statement = false ∧ api.registry.get? f.key = some r ∧
    r.request = statementRequest f.statement f.fieldName ∧
    literalOf? "lambdaInput.statement" r.request = some "SELECT " ∧
    literalOf? "lambdaInput.statement" r.request ≠ some f.statement := by
  have hsome : (compileDocument quotedColumn quotedConfig).toOption.isSome = true := by decide +kernel
  obtain ⟨api, hapi⟩ := Option.isSome_iff_exists.1 hsome
  have h : compileDocument quotedColumn quotedConfig = .ok api := ok_of_toOption hapi
  obtain ⟨r, hr, hrequest⟩ := request_of_statement h rfl List.mem_cons_self
  refine ⟨_, api, _, r, h, rfl, rfl, by decide, hr, hrequest, ?_, ?_⟩
  · rw [hrequest, literalOf?_statementRequest]
    decide
  · rw [hrequest, ne_eq, literalOf?_eq_iff]
    decide

end ModelApi
