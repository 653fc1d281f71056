import Mathlib.Data.List.ReduceOption
import ModelApi.Proofs.Directive.Run

/-!
# The order of rules does not matter

All rules change one record, and some of them look at what was declared before. But each directive is left to one rule,
so the rules that see an occurrence before or after it have nothing to do. A visit therefore comes down to one verdict
for each occurrence, whatever the order of the rules, and the errors are the verdicts against an occurrence.

* `visitWith_eq`: what a visit makes of an occurrence is settled by one verdict;
* `takeStep_perm`: the verdict is the same for rules in another order;
* `reports`: the error of each occurrence, if any, `foldl_visitWith_errors`: a run ends with all of these;
* `rules_in_any_order`: all of it together, for a document.
-/

namespace ModelApi

open Schema (Document)

/-- What a visit becomes with the verdict on an occurrence. -/
def Visit.settle (v : Visit) (o : Occurrence) : Except Misuse Declarations → Visit
  | .ok declared => { v with declared }
  | .error misuse => { v with errors := v.errors ++ [⟨o.directive.pos, misuse⟩] }

/-! ## one verdict for each occurrence -/

section Verdict

variable {rs rs' : List Rule} {o : Occurrence}

theorem Rule.visit_eq_settle (rule : Rule) (o : Occurrence) (v : Visit) :
    rule.visit o v = v.settle o (rule.accept o v.declared) := by
  rw [Rule.visit_eq]
  cases rule.accept o v.declared <;> rfl

theorem Rule.visit_of_notMem {rule : Rule} (h : o.directive.name ∉ rule.directives) (v : Visit) :
    rule.visit o v = v := by
  rw [visit_eq_settle, accept_of_notMem h]
  rfl

theorem visitWith_of_notMem (h : ∀ rule ∈ rs, o.directive.name ∉ rule.directives) (v : Visit) :
    visitWith rs o v = v := by
  induction rs with
  | nil => rfl
  | cons rule rs ih =>
    rw [visitWith, List.foldl_cons, Rule.visit_of_notMem (h rule List.mem_cons_self)]
    exact ih fun other hother => h other (List.mem_cons_of_mem _ hother)

/-- What a visit makes of an occurrence is settled by one verdict. -/
theorem visitWith_eq (hapart : rs.Pairwise Rule.Apart) (v : Visit) :
    visitWith rs o v = v.settle o (takeStep rs o v.declared) := by
  induction rs with
  | nil => rfl
  | cons rule rs ih =>
    have hrest := List.pairwise_cons.1 hapart
    by_cases hmem : o.directive.name ∈ rule.directives
    · -- the rules that come later pass the occurrence over
      have hlater : ∀ other ∈ rs, o.directive.name ∉ other.directives := fun other hother => hrest.1 other hother _ hmem
      rw [takeStep_of_mem hapart List.mem_cons_self hmem, visitWith, List.foldl_cons, Rule.visit_eq_settle,
        Rule.accept_of_mem hmem]
      exact visitWith_of_notMem hlater _
    · rw [visitWith, List.foldl_cons, Rule.visit_of_notMem hmem, takeStep, List.foldlM_cons,
        Rule.accept_of_notMem hmem]
      exact ih hrest.2

theorem Rule.Apart.symm {rule other : Rule} (h : rule.Apart other) : other.Apart rule :=
  fun name hother hrule => h name hrule hother

/-- The verdict is the same for rules in another order. -/
theorem takeStep_perm (hapart : rs.Pairwise Rule.Apart) (hperm : rs'.Perm rs) (d : Declarations) :
    takeStep rs' o d = takeStep rs o d := by
  have hapart' : rs'.Pairwise Rule.Apart := (hperm.pairwise_iff Rule.Apart.symm).2 hapart
  by_cases hnone : ∀ rule ∈ rs, o.directive.name ∉ rule.directives
  · rw [takeStep_of_notMem hnone, takeStep_of_notMem fun rule hrule => hnone rule (hperm.subset hrule)]
  · push Not at hnone
    obtain ⟨rule, hrule, hmem⟩ := hnone
    rw [takeStep_of_mem hapart hrule hmem, takeStep_of_mem hapart' (hperm.symm.subset hrule) hmem]

theorem visitAll_perm (hapart : rs.Pairwise Rule.Apart) (hperm : rs'.Perm rs) (doc : Document) :
    visitAll rs' doc = visitAll rs doc := by
  have hapart' : rs'.Pairwise Rule.Apart := (hperm.pairwise_iff Rule.Apart.symm).2 hapart
  unfold visitAll
  congr 1
  funext v o
  rw [visitWith_eq hapart, visitWith_eq hapart', takeStep_perm hapart hperm]

/-! ## the errors of a run -/

/-- The error that is reported for each occurrence, if any. A misused directive declares nothing. -/
def reports (rs : List Rule) : List Occurrence → Declarations → List (Option RuleError)
  | [], _ => []
  | o :: rest, d =>
    match takeStep rs o d with
    | .ok d' => none :: reports rs rest d'
    | .error misuse => some ⟨o.directive.pos, misuse⟩ :: reports rs rest d

/-- A run over occurrences ends with the errors that are reported for them, in their order. -/
theorem foldl_visitWith_errors (hapart : rs.Pairwise Rule.Apart) : ∀ (l : List Occurrence) (v : Visit),
    (l.foldl (fun v o => visitWith rs o v) v).errors = v.errors ++ (reports rs l v.declared).reduceOption
  | [], v => (List.append_nil _).symm
  | o :: rest, v => by
    rw [List.foldl_cons, foldl_visitWith_errors hapart rest, visitWith_eq hapart, reports]
    cases takeStep rs o v.declared with
    | ok d => rfl
    | error misuse => exact List.append_assoc _ _ _

/-- The error is about the occurrence: it is at its place, and it is what the rule of the directive says. -/
def RuleError.About (rs : List Rule) (o : Occurrence) (e : RuleError) : Prop :=
  e.pos = o.directive.pos ∧
    ∃ rule ∈ rs, o.directive.name ∈ rule.directives ∧ ∃ d, rule.declare o d = .error e.misuse

theorem about_of_takeStep (hapart : rs.Pairwise Rule.Apart) {d : Declarations} {misuse : Misuse}
    (h : takeStep rs o d = .error misuse) : RuleError.About rs o ⟨o.directive.pos, misuse⟩ := by
  by_cases hnone : ∀ rule ∈ rs, o.directive.name ∉ rule.directives
  · rw [takeStep_of_notMem hnone] at h
    cases h
  · push Not at hnone
    obtain ⟨rule, hrule, hmem⟩ := hnone
    rw [takeStep_of_mem hapart hrule hmem] at h
    exact ⟨rfl, rule, hrule, hmem, d, h⟩

theorem reports_about (hapart : rs.Pairwise Rule.Apart) : ∀ (l : List Occurrence) (d : Declarations),
    List.Forall₂ (fun o report => ∀ e ∈ report, RuleError.About rs o e) l (reports rs l d)
  | [], _ => .nil
  | o :: rest, d => by
    rw [reports]
    cases h : takeStep rs o d with
    | ok d' => exact .cons (fun e he => nomatch he) (reports_about hapart rest d')
    | error misuse =>
      refine .cons (fun e he => ?_) (reports_about hapart rest d)
      rw [← Option.mem_some.1 he]
      exact about_of_takeStep hapart h

end Verdict

section Collect

variable {doc : Document} {config : Config} {sources : DataSources}

theorem collect_eq_error_iff {errors : List RuleError} : collect doc config sources = .error errors ↔
    errors ≠ [] ∧ (visitAll (rules doc config sources) doc).errors = errors := by
  unfold collect
  generalize visitAll (rules doc config sources) doc = v
  obtain ⟨declared, _ | ⟨e, rest⟩⟩ := v
  · simp
  · constructor
    · rintro ⟨⟩
      exact ⟨List.cons_ne_nil _ _, rfl⟩
    · rintro ⟨-, rfl⟩
      rfl

theorem collect_eq_ok_iff_visit {d : Declarations} : collect doc config sources = .ok d ↔
    (visitAll (rules doc config sources) doc).errors = [] ∧
      (visitAll (rules doc config sources) doc).declared = d := by
  unfold collect
  generalize visitAll (rules doc config sources) doc = v
  obtain ⟨declared, _ | ⟨e, rest⟩⟩ := v
  · simp
  · simp

end Collect

/-- Rules in any order declare the same and report the same errors: at most one for each occurrence, in the order of the
visit. Collecting fails exactly when there are errors, and with all of them. -/
theorem rules_in_any_order {doc : Document} {config : Config} {sources : DataSources} {rs : List Rule}
    (h : rs.Perm (rules doc config sources)) :
    visitAll rs doc = visitAll (rules doc config sources) doc ∧
    (visitAll rs doc).errors = (reports (rules doc config sources) doc.occurrences {}).reduceOption ∧
    List.Forall₂ (fun o report => ∀ e ∈ report, RuleError.About (rules doc config sources) o e) doc.occurrences
      (reports (rules doc config sources) doc.occurrences {}) ∧
    (∀ errors, collect doc config sources = .error errors ↔ errors ≠ [] ∧ (visitAll rs doc).errors = errors) ∧
    ∀ d, collect doc config sources = .ok d ↔ (visitAll rs doc).errors = [] ∧ (visitAll rs doc).declared = d := by
  rw [visitAll_perm rules_apart h]
  refine ⟨rfl, foldl_visitWith_errors rules_apart _ _, reports_about rules_apart _ _, ?_, ?_⟩
  · exact fun errors => collect_eq_error_iff
  · exact fun d => collect_eq_ok_iff_visit

/-- A key on a type that is no model, and a statement on a field of no root type: both are reported. -/
theorem misplaced_in_reverse :
    let doc : Document := ⟨[.type ⟨⟨1, 1⟩, "Post", false, .object
      [⟨"id", [], .named "ID" false, [⟨"primaryKey", ⟨1, 20⟩, []⟩]⟩,
        ⟨"tax", [], .named "Int" true, [⟨"deprecated", ⟨1, 42⟩, []⟩, ⟨"sql", ⟨1, 54⟩, []⟩]⟩], []⟩]⟩
    let all := rules doc {} .empty
    all.reverse.Perm all ∧
      (visitAll all.reverse doc).errors =
        [⟨⟨1, 20⟩, .keyNotOnModel "primaryKey"⟩, ⟨⟨1, 54⟩, .sqlNotOnRoot "Post" "tax"⟩] ∧
      collect doc {} .empty = .error (visitAll all.reverse doc).errors := by
  intro doc all
  have hany := rules_in_any_order (List.reverse_perm all)
  have herrors : (visitAll all doc).errors =
      [⟨⟨1, 20⟩, .keyNotOnModel "primaryKey"⟩, ⟨⟨1, 54⟩, .sqlNotOnRoot "Post" "tax"⟩] := by decide
  rw [← hany.1] at herrors
  refine ⟨List.reverse_perm all, herrors, (hany.2.2.2.1 _).2 ⟨?_, rfl⟩⟩
  rw [herrors]
  exact List.cons_ne_nil _ _

end ModelApi
