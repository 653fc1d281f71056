import Mathlib.Data.List.Forall2
import ModelApi.Proofs.Text.Lines
import ModelApi.Template.Printer

/-!
# The indentation of a printed template

The printer hands the indentation down the tree, and values that print over several lines mix it with their own. In a
tidy tree nothing else decides where lines start: statements move as a whole when they are indented.

* `Expr.Tidy`: embedded texts have one line, values contain no statements, and no compound or loop is empty;
* `Deeper`: how a piece of text changes when the indentation grows; pieces are put together by `append`, within a line,
  and by `nextLine`;
* `Expr.deeper_render`: a printed tree changes like that, in both positions;
* `Layer`: what can stand around a run of statements, `lines_around`: where the run ends up among the lines;
* `Expr.statements_indented`: both together, for a whole template and for every body in it.
-/

namespace ModelApi

open Text (joinWith lines indentLines hang EndsLine)

/-! ## trees that can be indented -/

namespace Expr

mutual
/-- At this position the tree can be indented: its texts have one line, no statement stands for a value, compounds and
loops are not empty, and what an inline condition contains prints on one line. -/
def Tidy (p : Position) : Expr → Prop
  | .set target value => p = .statement ∧ Tidy .value target ∧ Tidy .value value
  | .ifThen inline condition body =>
    p = .statement ∧ Tidy .value condition ∧ Tidy .statement body ∧ (inline = true → '\n' ∉ body.print.toList)
  | .ifElse condition yes no => p = .statement ∧ Tidy .value condition ∧ Tidy .statement yes ∧ Tidy .statement no
  | .forEach item collection body =>
    p = .statement ∧ Tidy .value item ∧ Tidy .value collection ∧ body ≠ [] ∧ TidyAll .statement body
  | .compound steps => p = .statement ∧ steps ≠ [] ∧ TidyAll .statement steps
  | .block name steps => p = .statement ∧ '\n' ∉ name.toList ∧ TidyAll .statement steps
  | .comment text => p = .statement ∧ '\n' ∉ text.toList
  | .raw text | .ref text | .str text => '\n' ∉ text.toList
  | .int _ | .bool _ | .null => True
  | .quiet e | .parens e | .not e | .toJson e => Tidy .value e
  | .eq left right | .ne left right => Tidy .value left ∧ Tidy .value right
  | .list items | .and items | .or items => TidyAll .value items
  | .call method arguments => Tidy .value method ∧ TidyAll .value arguments
  | .obj attributes => TidyAttributes attributes

def TidyAll (p : Position) : List Expr → Prop
  | [] => True
  | e :: rest => Tidy p e ∧ TidyAll p rest

def TidyAttributes : List (String × Expr) → Prop
  | [] => True
  | (key, e) :: rest => '\n' ∉ key.toList ∧ Tidy .value e ∧ TidyAttributes rest
end

theorem tidyAll_iff (p : Position) (es : List Expr) : TidyAll p es ↔ ∀ e ∈ es, e.Tidy p := by
  induction es with
  | nil => simp [TidyAll]
  | cons e rest ih => simp [TidyAll, ih]

end Expr

/-! ## pieces of text -/

/-- `t` is the piece of text `s` when the indentation is deeper by `i`: every line starts with `i`, except for the first
line of a value. -/
def Deeper (p : Position) (i s t : String) : Prop := t = p.lead i ++ hang i s

namespace Deeper

variable {p : Position} {i s t s' t' : String}

/-- The rest of a line, and what follows it. -/
theorem append (h : Deeper p i s t) (h' : Deeper .value i s' t') : Deeper p i (s ++ s') (t ++ t') := by
  rw [Deeper] at *
  rw [h, h', Text.hang_append, Position.lead, String.empty_append, String.append_assoc]

/-- A text within a line stays as it is. -/
theorem fixed (h : '\n' ∉ s.toList) : Deeper .value i s s := by
  rw [Deeper, Text.hang_of_notMem i h]
  exact String.empty_append.symm

theorem followed (h : Deeper p i s t) (text : String) (htext : '\n' ∉ text.toList := by decide) :
    Deeper p i (s ++ text) (t ++ text) :=
  h.append (fixed htext)

/-- Statements start a line of their own. -/
theorem nextLine (h : Deeper p i s t) (h' : Deeper .statement i s' t') (ending : String)
    (hending : EndsLine ending := by decide) : Deeper p i (s ++ ending ++ s') (t ++ ending ++ t') := by
  rw [Deeper] at *
  rw [h, h', Text.hang_append, Text.hang_append, Text.hang_of_endsLine i hending, Position.lead]
  simp only [String.append_assoc]

theorem lead (i : String) (p : Position) {indent : String} (h : '\n' ∉ indent.toList) :
    Deeper p i (p.lead indent) (p.lead (i ++ indent)) := by
  cases p with
  | statement => rw [Deeper, Position.lead, Position.lead, Position.lead, Text.hang_of_notMem i h]
  | value => exact fixed List.not_mem_nil

theorem joinWith {ss ts : List String} (h : List.Forall₂ (Deeper .value i) ss ts) (sep : String)
    (hsep : '\n' ∉ sep.toList := by decide) : Deeper .value i (Text.joinWith sep ss) (Text.joinWith sep ts) := by
  induction h with
  | nil => exact fixed List.not_mem_nil
  | cons hs hrest ih =>
    cases hrest with
    | nil => exact hs
    | cons _ _ => exact (hs.followed sep hsep).append ih

theorem joinLines {ss ts : List String} (h : List.Forall₂ (Deeper .statement i) ss ts) (hne : ss ≠ []) (sep : String)
    (hsep : EndsLine sep := by decide) : Deeper .statement i (Text.joinWith sep ss) (Text.joinWith sep ts) := by
  induction h with
  | nil => exact absurd rfl hne
  | cons hs hrest ih =>
    cases hrest with
    | nil => exact hs
    | cons _ _ => exact hs.nextLine (ih (List.cons_ne_nil _ _)) sep hsep

theorem startMark {name : String} (h : '\n' ∉ name.toList) :
    Deeper .value i (Expr.startMark name) (Expr.startMark name) := by
  have hopen : Deeper .value i "## [Start] " "## [Start] " := fixed (by decide)
  exact (hopen.followed name h).followed ". **"

theorem endMark {name : String} (h : '\n' ∉ name.toList) :
    Deeper .value i (Expr.endMark name) (Expr.endMark name) := by
  have hopen : Deeper .value i "## [End] " "## [End] " := fixed (by decide)
  exact (hopen.followed name h).followed ". **"

end Deeper

/-! ## printing -/

namespace Expr

theorem renderAll_eq (p : Position) (indent : String) (es : List Expr) :
    renderAll p indent es = es.map (render p indent) := by
  induction es with
  | nil => rfl
  | cons e rest ih => rw [renderAll, ih, List.map_cons]

theorem renderAll_ne_nil {p : Position} {indent : String} {es : List Expr} (h : es ≠ []) :
    renderAll p indent es ≠ [] := by
  rw [renderAll_eq]
  exact fun hnil => h (List.map_eq_nil_iff.1 hnil)

theorem newline_notMem_tab {indent : String} (h : '\n' ∉ indent.toList) : '\n' ∉ (indent ++ tab).toList :=
  Text.notMem_append h (by decide)

mutual
/-- Growing the indentation puts `i` in front of every line of a printed tree, except for the first line of a value. -/
theorem deeper_render (i : String) (p : Position) {j : String} (hj : '\n' ∉ j.toList) : ∀ e : Expr, e.Tidy p →
    Deeper p i (render p j e) (render p (i ++ j) e)
  | .set target value, h => by
    obtain ⟨rfl, ht, hv⟩ := h
    have htarget := deeper_render i .value hj target ht
    have hvalue := deeper_render i .value hj value hv
    have hhead := (((Deeper.lead i .statement hj).followed "#set( ").append htarget).followed " = "
    exact (hhead.append hvalue).followed " )"
  | .ifThen true condition body, h => by
    obtain ⟨rfl, hc, -, hline⟩ := h
    have hcondition := ((Deeper.lead i .statement hj).followed "#if( ").append (deeper_render i .value hj condition hc)
    exact ((hcondition.followed " ) ").followed body.print (hline rfl)).followed " #end"
  | .ifThen false condition body, h => by
    obtain ⟨rfl, hc, hb, -⟩ := h
    have hcondition := ((Deeper.lead i .statement hj).followed "#if( ").append (deeper_render i .value hj condition hc)
    have hbody := deeper_render i .statement (newline_notMem_tab hj) body hb
    rw [← String.append_assoc] at hbody
    exact ((hcondition.nextLine hbody " )\n").nextLine (.lead i .statement hj) "\n").followed "#end"
  | .ifElse condition yes no, h => by
    obtain ⟨rfl, hc, hy, hn⟩ := h
    have hcondition := ((Deeper.lead i .statement hj).followed "#if( ").append (deeper_render i .value hj condition hc)
    have hyes := deeper_render i .statement (newline_notMem_tab hj) yes hy
    have hno := deeper_render i .statement (newline_notMem_tab hj) no hn
    rw [← String.append_assoc] at hyes hno
    have hdivided := (hcondition.nextLine hyes " )\n").nextLine (.lead i .statement hj) "\n"
    exact ((hdivided.nextLine hno "#else\n").nextLine (.lead i .statement hj) "\n").followed "#end"
  | .forEach item collection body, h => by
    obtain ⟨rfl, ht, hc, hne, hb⟩ := h
    have hitem := ((Deeper.lead i .statement hj).followed "#foreach( ").append (deeper_render i .value hj item ht)
    have hcollection := (hitem.followed " in ").append (deeper_render i .value hj collection hc)
    have hbody := deeper_renderAll i .statement (newline_notMem_tab hj) body hb
    rw [← String.append_assoc] at hbody
    have hlines := Deeper.joinLines hbody (renderAll_ne_nil hne) "\n"
    exact ((hcollection.nextLine hlines " )\n").nextLine (.lead i .statement hj) "\n").followed "#end"
  | .compound steps, h => by
    obtain ⟨rfl, hne, hs⟩ := h
    exact Deeper.joinLines (deeper_renderAll i .statement hj steps hs) (renderAll_ne_nil hne) "\n"
  | .block name steps, h => by
    obtain ⟨rfl, hname, hs⟩ := h
    have hstart := (Deeper.lead i .statement hj).append (Deeper.startMark hname)
    have hend := (Deeper.lead i .statement hj).append (Deeper.endMark hname)
    have hsteps := List.rel_append (deeper_renderAll i .statement hj steps hs) (.cons hend .nil)
    exact Deeper.joinLines (.cons hstart hsteps) (List.cons_ne_nil _ _) "\n"
  | .comment text, h => by
    obtain ⟨rfl, ht⟩ := h
    exact (((Deeper.lead i .statement hj).followed "## ").followed text ht).followed " **"
  | .raw text, h => (Deeper.lead i p hj).followed text h
  | .ref name, h => ((Deeper.lead i p hj).followed "$").followed name h
  | .quiet e, h => (((Deeper.lead i p hj).followed "$util.qr(").append (deeper_render i .value hj e h)).followed ")"
  | .str text, h => (((Deeper.lead i p hj).followed "\"").followed text h).followed "\""
  | .int n, _ => (Deeper.lead i p hj).followed _ (Text.notMem_toString_int (by decide) (by decide) n)
  | .bool b, _ => by
    have hb : '\n' ∉ (if b then "true" else "false").toList := by cases b <;> decide
    exact (Deeper.lead i p hj).followed _ hb
  | .null, _ => (Deeper.lead i p hj).followed "null"
  | .obj [], _ => (Deeper.lead i p hj).followed "\x7b\x7d"
  | .obj (a :: rest), h => by
    have hattributes := deeper_renderAttributes i (newline_notMem_tab hj) (a :: rest) h
    rw [← String.append_assoc] at hattributes
    have hlines := Deeper.joinLines hattributes (List.cons_ne_nil _ _) ",\n"
    exact (((Deeper.lead i p hj).nextLine hlines "\x7b\n").nextLine (.lead i .statement hj) "\n").followed "\x7d"
  | .list items, h => by
    have hitems := Deeper.joinWith (deeper_renderAll i .value hj items h) ", "
    exact (((Deeper.lead i p hj).followed "[").append hitems).followed "]"
  | .call method arguments, h => by
    obtain ⟨hm, ha⟩ := h
    have hmethod := (Deeper.lead i p hj).append (deeper_render i .value hj method hm)
    have harguments := Deeper.joinWith (deeper_renderAll i .value hj arguments ha) ", "
    exact ((hmethod.followed "(").append harguments).followed ")"
  | .and operands, h =>
    (Deeper.lead i p hj).append (Deeper.joinWith (deeper_renderAll i .value hj operands h) " && ")
  | .or operands, h =>
    (Deeper.lead i p hj).append (Deeper.joinWith (deeper_renderAll i .value hj operands h) " || ")
  | .parens e, h => (((Deeper.lead i p hj).followed "(").append (deeper_render i .value hj e h)).followed ")"
  | .not e, h => ((Deeper.lead i p hj).followed "!").append (deeper_render i .value hj e h)
  | .eq left right, h => by
    obtain ⟨hl, hr⟩ := h
    have hleft := (Deeper.lead i p hj).append (deeper_render i .value hj left hl)
    exact (hleft.followed " == ").append (deeper_render i .value hj right hr)
  | .ne left right, h => by
    obtain ⟨hl, hr⟩ := h
    have hleft := (Deeper.lead i p hj).append (deeper_render i .value hj left hl)
    exact (hleft.followed " != ").append (deeper_render i .value hj right hr)
  | .toJson e, h => (((Deeper.lead i p hj).followed "$util.toJson(").append (deeper_render i .value hj e h)).followed ")"

theorem deeper_renderAll (i : String) (p : Position) {j : String} (hj : '\n' ∉ j.toList) : ∀ es : List Expr,
    TidyAll p es → List.Forall₂ (Deeper p i) (renderAll p j es) (renderAll p (i ++ j) es)
  | [], _ => .nil
  | e :: rest, h => .cons (deeper_render i p hj e h.1) (deeper_renderAll i p hj rest h.2)

theorem deeper_renderAttributes (i : String) {j : String} (hj : '\n' ∉ j.toList) :
    ∀ attributes : List (String × Expr), TidyAttributes attributes →
      List.Forall₂ (Deeper .statement i) (renderAttributes j attributes) (renderAttributes (i ++ j) attributes)
  | [], _ => .nil
  | (key, e) :: rest, h => by
    obtain ⟨hkey, he, hrest⟩ := h
    have hname := (((Deeper.lead i .statement hj).followed "\"").followed key hkey).followed "\": "
    exact .cons (hname.append (deeper_render i .value hj e he)) (deeper_renderAttributes i hj rest hrest)
end

/-- An indented statement is the printed one with the indentation in front of every line. -/
theorem render_eq_indentLines {e : Expr} (h : e.Tidy .statement) (indent : String) :
    render .statement indent e = indentLines indent e.print := by
  have hdeeper := deeper_render indent .statement (j := "") (by decide) e h
  rw [String.append_empty] at hdeeper
  rw [hdeeper, Text.indentLines_eq]
  rfl

/-! ## runs of statements -/

/-- A run of statements as one statement. -/
def ofRun : List Expr → Expr
  | [e] => e
  | run => .compound run

/-- The lines of a run of statements. -/
def runLines (indent : String) (run : List Expr) : List String := run.flatMap fun e => lines (render .statement indent e)

theorem tidy_compound {run : List Expr} :
    (compound run).Tidy .statement ↔ run ≠ [] ∧ ∀ e ∈ run, e.Tidy .statement := by
  simp [Tidy, tidyAll_iff]

theorem tidy_ofRun {run : List Expr} : (ofRun run).Tidy .statement ↔ run ≠ [] ∧ ∀ e ∈ run, e.Tidy .statement := by
  unfold ofRun
  split
  · simp
  · exact tidy_compound

theorem render_ofRun (indent : String) (run : List Expr) :
    render .statement indent (ofRun run) = joinWith "\n" (renderAll .statement indent run) := by
  unfold ofRun
  split <;> rfl

theorem lines_ofRun {indent : String} {run : List Expr} (h : run ≠ []) :
    lines (render .statement indent (ofRun run)) = runLines indent run := by
  rw [render_ofRun, Text.lines_joinWith (renderAll_ne_nil h), renderAll_eq, List.flatMap_map]
  rfl

/-- Indented statements have the lines of the printed ones, each behind the indentation. -/
theorem runLines_of_tidy {run : List Expr} (h : ∀ e ∈ run, e.Tidy .statement) {indent : String}
    (hindent : '\n' ∉ indent.toList) :
    runLines indent run = (run.flatMap fun e => lines e.print).map (indent ++ ·) := by
  rw [runLines, List.map_flatMap]
  refine List.flatMap_congr fun e he => ?_
  rw [render_eq_indentLines (h e he), Text.lines_indentLines hindent]

end Expr

/-! ## what stands around a run -/

open ModelApi.Expr

/-- What can stand directly around a run of statements. An inline condition is none of it: what that contains has no
line of its own. -/
inductive Layer where
  | condition (condition : Expr)
  | firstBranch (condition no : Expr)
  | secondBranch (condition yes : Expr)
  | loop (item collection : Expr)
  | compound
  | block (name : String)
  /-- Other statements before and after. -/
  | beside (before after : List Expr)

namespace Layer

/-- The statements that a layer makes of a run. -/
def around (run : List Expr) : Layer → List Expr
  | .condition c => [.ifThen false c (ofRun run)]
  | .firstBranch c no => [.ifElse c (ofRun run) no]
  | .secondBranch c yes => [.ifElse c yes (ofRun run)]
  | .loop item collection => [.forEach item collection run]
  | .compound => [.compound run]
  | .block name => [.block name run]
  | .beside before after => before ++ run ++ after

/-- The levels that a layer adds. -/
def levels : Layer → Nat
  | .condition _ | .firstBranch _ _ | .secondBranch _ _ | .loop _ _ => 1
  | .compound | .block _ | .beside _ _ => 0

/-- The statements that layers make of a run, the outermost layer first. -/
def aroundAll (layers : List Layer) (run : List Expr) : List Expr := layers.foldr (fun l steps => l.around steps) run

def depth (layers : List Layer) : Nat := layers.foldr (fun l n => l.levels + n) 0

/-- Two spaces for each level. -/
def spaces (levels : Nat) : String := String.ofList (List.replicate (2 * levels) ' ')

theorem spaces_add (m n : Nat) : spaces (m + n) = spaces m ++ spaces n := by
  rw [spaces, spaces, spaces, Nat.mul_add, ← List.replicate_append_replicate, String.ofList_append]

theorem newline_notMem_spaces (n : Nat) : '\n' ∉ (spaces n).toList := by
  rw [spaces, String.toList_ofList]
  intro h
  cases List.eq_of_mem_replicate h

/-- A statement that prints a run between a first and a last text, one level deeper. -/
theorem lines_enclosed {indent : String} {wrap : List Expr → Expr} (first last : String)
    (hrender : ∀ run, render .statement indent (wrap run) =
      first ++ "\n" ++ render .statement (indent ++ tab) (ofRun run) ++ "\n" ++ last)
    (htidy : ∀ run, (wrap run).Tidy .statement → (ofRun run).Tidy .statement) :
    ∃ before after : List String, ∀ run : List Expr, (∀ e ∈ [wrap run], e.Tidy .statement) →
      (∀ e ∈ run, e.Tidy .statement) ∧
        runLines indent [wrap run] = before ++ runLines (indent ++ spaces 1) run ++ after := by
  refine ⟨lines first, lines last, fun run h => ?_⟩
  obtain ⟨hne, hrun⟩ := tidy_ofRun.1 (htidy run (h _ List.mem_cons_self))
  have htab : spaces 1 = tab := by decide
  refine ⟨hrun, ?_⟩
  rw [htab, ← lines_ofRun hne, runLines, List.flatMap_singleton, hrender, Text.lines_append, Text.lines_append]

/-- The run is printed on lines of its own, deeper by the levels of the layer; the other lines do not depend on it. -/
theorem lines_around (l : Layer) (indent : String) : ∃ before after : List String, ∀ run : List Expr,
    (∀ e ∈ l.around run, e.Tidy .statement) → (∀ e ∈ run, e.Tidy .statement) ∧
      runLines indent (l.around run) = before ++ runLines (indent ++ spaces l.levels) run ++ after := by
  have hhead : " )\n" = " )" ++ "\n" := by decide
  have helse : "#else\n" = "#else" ++ "\n" := by decide
  have hsame : indent ++ spaces 0 = indent := String.append_empty
  cases l with
  | condition c =>
    refine lines_enclosed (indent ++ "#if( " ++ render .value indent c ++ " )") (indent ++ "#end") (fun run => ?_)
      fun run h => h.2.2.1
    simp only [render, Position.lead, hhead, String.append_assoc]
  | firstBranch c no =>
    refine lines_enclosed (indent ++ "#if( " ++ render .value indent c ++ " )")
      (indent ++ "#else\n" ++ render .statement (indent ++ tab) no ++ "\n" ++ indent ++ "#end") (fun run => ?_)
      fun run h => h.2.2.1
    simp only [render, Position.lead, hhead, String.append_assoc]
  | secondBranch c yes =>
    refine lines_enclosed (indent ++ "#if( " ++ render .value indent c ++ " )\n" ++
      render .statement (indent ++ tab) yes ++ "\n" ++ indent ++ "#else") (indent ++ "#end") (fun run => ?_)
      fun run h => h.2.2.2
    simp only [render, Position.lead, helse, String.append_assoc]
  | loop item collection =>
    refine lines_enclosed (indent ++ "#foreach( " ++ render .value indent item ++ " in " ++
      render .value indent collection ++ " )") (indent ++ "#end") (fun run => ?_)
      fun run h => tidy_ofRun.2 ⟨h.2.2.2.1, (tidyAll_iff _ _).1 h.2.2.2.2⟩
    rw [render_ofRun]
    simp only [render, Position.lead, hhead, String.append_assoc]
  | compound =>
    refine ⟨[], [], fun run h => ?_⟩
    obtain ⟨hne, hrun⟩ := tidy_compound.1 (h (.compound run) List.mem_cons_self)
    refine ⟨hrun, ?_⟩
    rw [levels, hsame, ← lines_ofRun hne, render_ofRun, List.nil_append, List.append_nil]
    exact List.flatMap_singleton _ _
  | block name =>
    refine ⟨lines (indent ++ startMark name), lines (indent ++ endMark name), fun run h => ?_⟩
    obtain ⟨-, -, hrun⟩ := h (.block name run) List.mem_cons_self
    refine ⟨(tidyAll_iff _ _).1 hrun, ?_⟩
    -- the run of a block may be empty: its lines are not those of one statement
    calc runLines indent [.block name run]
        = lines (render .statement indent (.block name run)) := List.flatMap_singleton _ _
      _ = ((indent ++ startMark name) :: (renderAll .statement indent run ++ [indent ++ endMark name])).flatMap lines :=
          Text.lines_joinWith (List.cons_ne_nil _ _)
      _ = lines (indent ++ startMark name) ++ runLines (indent ++ spaces 0) run ++ lines (indent ++ endMark name) := by
          rw [List.flatMap_cons, List.flatMap_append, List.flatMap_singleton, hsame, renderAll_eq, List.flatMap_map,
            List.append_assoc]
          rfl
  | beside before after =>
    refine ⟨runLines indent before, runLines indent after, fun run h => ⟨fun e he => h e ?_, ?_⟩⟩
    · exact List.mem_append_left _ (List.mem_append_right _ he)
    · rw [levels, hsame, around, runLines, runLines, runLines, runLines, List.flatMap_append, List.flatMap_append]

/-- The same for many layers, by induction on them: each adds its lines around those of the inner ones. -/
theorem lines_aroundAll (layers : List Layer) : ∀ indent : String, ∃ before after : List String, ∀ run : List Expr,
    (∀ e ∈ aroundAll layers run, e.Tidy .statement) → (∀ e ∈ run, e.Tidy .statement) ∧
      runLines indent (aroundAll layers run) = before ++ runLines (indent ++ spaces (depth layers)) run ++ after := by
  induction layers with
  | nil =>
    intro indent
    refine ⟨[], [], fun run h => ⟨h, ?_⟩⟩
    have hsame : indent ++ spaces (depth []) = indent := String.append_empty
    rw [hsame, List.nil_append, List.append_nil]
    rfl
  | cons l layers ih =>
    intro indent
    obtain ⟨before, after, hl⟩ := lines_around l indent
    obtain ⟨innerBefore, innerAfter, hlayers⟩ := ih (indent ++ spaces l.levels)
    refine ⟨before ++ innerBefore, innerAfter ++ after, fun run h => ?_⟩
    obtain ⟨hinner, houterLines⟩ := hl (aroundAll layers run) h
    obtain ⟨hrun, hinnerLines⟩ := hlayers run hinner
    refine ⟨hrun, ?_⟩
    have hdeep : indent ++ spaces (depth (l :: layers)) = indent ++ spaces l.levels ++ spaces (depth layers) := by
      rw [String.append_assoc, ← spaces_add]
      rfl
    calc runLines indent (aroundAll (l :: layers) run)
        = before ++ runLines (indent ++ spaces l.levels) (aroundAll layers run) ++ after := houterLines
      _ = before ++ innerBefore ++ runLines (indent ++ spaces (depth (l :: layers))) run ++ (innerAfter ++ after) := by
          rw [hinnerLines, hdeep]
          simp only [List.append_assoc]

end Layer

namespace Expr

/-- A tidy statement that is indented is the printed one with the indentation in front of every line. Whatever layers
there are around a run of statements, it is printed in them as it is by itself, with two spaces for each level in front
of every line, and the lines before and after it do not depend on it. -/
theorem statements_indented :
    (∀ e : Expr, e.Tidy .statement → ∀ indent, e.render .statement indent = indentLines indent e.print) ∧
    ∀ layers : List Layer, ∃ before after : List String, ∀ (run : List Expr) (e : Expr),
      Layer.aroundAll layers run = [e] → e.Tidy .statement →
        lines e.print = before ++ (run.flatMap fun s => lines s.print).map (Layer.spaces (Layer.depth layers) ++ ·) ++
          after := by
  refine ⟨fun e h indent => render_eq_indentLines h indent, fun layers => ?_⟩
  obtain ⟨before, after, hlines⟩ := Layer.lines_aroundAll layers ""
  refine ⟨before, after, fun run e haround h => ?_⟩
  obtain ⟨hrun, hprinted⟩ := hlines run fun s hs => by
    rw [haround] at hs
    exact List.mem_singleton.1 hs ▸ h
  rw [haround, String.empty_append, runLines_of_tidy hrun (Layer.newline_notMem_spaces _)] at hprinted
  rw [← hprinted, runLines, List.flatMap_singleton]
  rfl

/-- A loop over a condition, in which an object with an object in it is assigned. -/
theorem nested_assignment_indented :
    let step := assign "found" (.obj [("key", .ref "key"), ("path", .list [.obj [("depth", .int 2)]])])
    let e : Expr := .forEach (.ref "key") (.ref "keys") [.when (.ref "key.wanted") step, .comment "next"]
    e.Tidy .statement ∧
      e.render .statement "    " = indentLines "    " e.print ∧
      ∃ before after, lines e.print = before ++ (lines step.print).map ("    " ++ ·) ++ after ∧
        lines step.print = ["#set( $found = \x7b", "  \"key\": $key,", "  \"path\": [\x7b", "    \"depth\": 2", "  \x7d]",
          "\x7d )"] := by
  intro step e
  have htidy : e.Tidy .statement := by
    simp [e, step, Tidy, TidyAll, TidyAttributes, when, assign]
  obtain ⟨before, after, hlines⟩ := statements_indented.2
    [.loop (.ref "key") (.ref "keys"), .beside [] [.comment "next"], .condition (.ref "key.wanted")]
  have hstep := hlines [step] e rfl htidy
  rw [List.flatMap_singleton] at hstep
  exact ⟨htidy, statements_indented.1 e htidy _, before, after, hstep, by decide +kernel⟩

end Expr

end ModelApi
