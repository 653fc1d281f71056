import Mathlib.Data.List.Forall2
import ModelApi.Proofs.Text.Join
import ModelApi.Template.Printer

/-!
# The blocks of a printed template

Whoever reads a template finds its blocks by four marks in the text. Printing escapes nothing, so a text that is
embedded in an expression could pass for a mark, or complete one. Without a `#` it cannot: every mark starts with one.

* `Mark.read`: the marks of a text, from left to right; `Mark.Nested`: they open and close blocks in order;
* `Expr.marks`: the marks that a tree asks for, `Expr.marks_whole`: these are nested;
* `Shows`: the marks that a piece of text adds, whatever follows it; pieces add theirs one after the other;
* `Expr.shows_render`: printing shows the marks of the tree, in both positions and with any indentation;
* `Expr.printed_blocks_nested`: both together, for a whole template.
-/

namespace ModelApi

open Text (joinWith)

/-! ## marks -/

/-- The marks that open, divide and close blocks. -/
inductive Mark where
  | openIf | openLoop | otherwise | close
  deriving DecidableEq, Repr

/-- The blocks that can be open: a condition before and after its dividing mark, and a loop. -/
inductive OpenBlock where
  | condition | alternative | loop
  deriving DecidableEq, Repr

namespace Mark

def all : List Mark := [.openIf, .openLoop, .otherwise, .close]

def text : Mark → String
  | .openIf => "#if("
  | .openLoop => "#foreach("
  | .otherwise => "#else"
  | .close => "#end"

/-- The mark that a text starts with. -/
def atStart? (cs : List Char) : Option Mark := all.find? (·.text.toList.isPrefixOf cs)

/-- The marks of a text, from left to right. They never overlap: only the first character of a mark is a `#`. -/
def read : List Char → List Mark
  | [] => []
  | c :: cs => (atStart? (c :: cs)).toList ++ read cs

theorem atStart?_of_ne {c : Char} (hc : c ≠ '#') (cs : List Char) : atStart? (c :: cs) = none := by
  have hno : ∀ m : Mark, m.text.toList.isPrefixOf (c :: cs) = false := by
    intro m
    cases m <;> simp [text, List.isPrefixOf, Ne.symm hc]
  simp [atStart?, hno]

/-- Reads a mark while some blocks are open, the innermost first. A dividing mark belongs to the innermost block, which
has to be a condition that is not divided yet; a closing mark closes the innermost block. -/
def step : List OpenBlock → Mark → Option (List OpenBlock)
  | blocks, .openIf => some (.condition :: blocks)
  | blocks, .openLoop => some (.loop :: blocks)
  | .condition :: blocks, .otherwise => some (.alternative :: blocks)
  | _ :: blocks, .close => some blocks
  | _, _ => none

/-- Every mark can be read, and no block is open before or after. -/
def Nested (marks : List Mark) : Prop := marks.foldlM step [] = some []

instance (marks : List Mark) : Decidable (Nested marks) := inferInstanceAs (Decidable (_ = _))

/-! ## whole blocks -/

/-- The marks open and close blocks of their own and leave alone those around them. -/
def Whole (marks : List Mark) : Prop := ∀ blocks, marks.foldlM step blocks = some blocks

theorem Whole.nested {marks : List Mark} (h : Whole marks) : Nested marks := h []

theorem Whole.nil : Whole [] := fun _ => rfl

theorem Whole.append {marks more : List Mark} (h : Whole marks) (h' : Whole more) : Whole (marks ++ more) := by
  intro blocks
  rw [List.foldlM_append, h blocks]
  exact h' blocks

/-- What stands in an open block, up to the mark that closes it. -/
theorem Whole.closed {inner : List Mark} (h : Whole inner) (block : OpenBlock) (blocks : List OpenBlock) :
    (inner ++ [close]).foldlM step (block :: blocks) = some blocks := by
  rw [List.foldlM_append, h (block :: blocks)]
  rfl

theorem Whole.condition {inner : List Mark} (h : Whole inner) : Whole ([openIf] ++ inner ++ [close]) :=
  fun blocks => h.closed .condition blocks

theorem Whole.loop {inner : List Mark} (h : Whole inner) : Whole ([openLoop] ++ inner ++ [close]) :=
  fun blocks => h.closed .loop blocks

theorem Whole.alternative {yes no : List Mark} (hyes : Whole yes) (hno : Whole no) :
    Whole ([openIf] ++ yes ++ [otherwise] ++ no ++ [close]) := by
  intro blocks
  have hbranch : ([openIf] ++ yes).foldlM step blocks = some (.condition :: blocks) := hyes (.condition :: blocks)
  have hdivided : ([openIf] ++ yes ++ [otherwise]).foldlM step blocks = some (.alternative :: blocks) := by
    rw [List.foldlM_append, hbranch]
    rfl
  rw [List.append_assoc, List.foldlM_append, hdivided]
  exact hno.closed .alternative blocks

end Mark

/-! ## the marks and the texts of a tree -/

namespace Expr

mutual
/-- The marks that a tree asks for: one pair around what a condition or a loop contains, and a dividing mark between the
branches of a condition with an alternative. -/
def marks : Expr → List Mark
  | .ifThen _ condition body => [.openIf] ++ marks condition ++ marks body ++ [.close]
  | .ifElse condition yes no => [.openIf] ++ marks condition ++ marks yes ++ [.otherwise] ++ marks no ++ [.close]
  | .forEach item collection body => [.openLoop] ++ marks item ++ marks collection ++ marksOfAll body ++ [.close]
  | .raw _ | .ref _ | .str _ | .int _ | .bool _ | .null | .comment _ => []
  | .quiet e | .parens e | .not e | .toJson e => marks e
  | .set left right | .eq left right | .ne left right => marks left ++ marks right
  | .list items | .and items | .or items | .compound items | .block _ items => marksOfAll items
  | .call method arguments => marks method ++ marksOfAll arguments
  | .obj attributes => marksOfAttributes attributes

def marksOfAll : List Expr → List Mark
  | [] => []
  | e :: rest => marks e ++ marksOfAll rest

def marksOfAttributes : List (String × Expr) → List Mark
  | [] => []
  | (_, e) :: rest => marks e ++ marksOfAttributes rest
end

mutual
/-- The texts that are embedded in a tree: copied texts, variables, strings, comments, names of blocks and keys of
objects. -/
def texts : Expr → List String
  | .raw text | .ref text | .str text | .comment text => [text]
  | .int _ | .bool _ | .null => []
  | .quiet e | .parens e | .not e | .toJson e => texts e
  | .set left right | .eq left right | .ne left right | .ifThen _ left right => texts left ++ texts right
  | .ifElse condition yes no => texts condition ++ texts yes ++ texts no
  | .forEach item collection body => texts item ++ texts collection ++ textsOfAll body
  | .list items | .and items | .or items | .compound items => textsOfAll items
  | .block name steps => name :: textsOfAll steps
  | .call method arguments => texts method ++ textsOfAll arguments
  | .obj attributes => textsOfAttributes attributes

def textsOfAll : List Expr → List String
  | [] => []
  | e :: rest => texts e ++ textsOfAll rest

def textsOfAttributes : List (String × Expr) → List String
  | [] => []
  | (key, e) :: rest => key :: (texts e ++ textsOfAttributes rest)
end

theorem marksOfAll_eq (es : List Expr) : marksOfAll es = (es.map marks).flatten := by
  induction es with
  | nil => rfl
  | cons e rest ih => rw [marksOfAll, ih, List.map_cons, List.flatten_cons]

theorem marksOfAttributes_eq (attributes : List (String × Expr)) :
    marksOfAttributes attributes = (attributes.map fun a => marks a.2).flatten := by
  induction attributes with
  | nil => rfl
  | cons a rest ih => rw [marksOfAttributes, ih, List.map_cons, List.flatten_cons]

mutual
/-- The marks of a tree are nested, wherever it stands. -/
theorem marks_whole : ∀ e : Expr, Mark.Whole e.marks
  | .ifThen _ condition body => ((marks_whole condition).append (marks_whole body)).condition
  | .ifElse condition yes no => ((marks_whole condition).append (marks_whole yes)).alternative (marks_whole no)
  | .forEach item collection body =>
    (((marks_whole item).append (marks_whole collection)).append (marksOfAll_whole body)).loop
  | .raw _ | .ref _ | .str _ | .int _ | .bool _ | .null | .comment _ => .nil
  | .quiet e | .parens e | .not e | .toJson e => marks_whole e
  | .set left right | .eq left right | .ne left right => (marks_whole left).append (marks_whole right)
  | .list items | .and items | .or items | .compound items | .block _ items => marksOfAll_whole items
  | .call method arguments => (marks_whole method).append (marksOfAll_whole arguments)
  | .obj attributes => marksOfAttributes_whole attributes

theorem marksOfAll_whole : ∀ es : List Expr, Mark.Whole (marksOfAll es)
  | [] => .nil
  | e :: rest => (marks_whole e).append (marksOfAll_whole rest)

theorem marksOfAttributes_whole : ∀ attributes : List (String × Expr), Mark.Whole (marksOfAttributes attributes)
  | [] => .nil
  | (_, e) :: rest => (marks_whole e).append (marksOfAttributes_whole rest)
end

end Expr

/-! ## the marks that a text shows -/

/-- The text adds these marks, whatever follows it. -/
def Shows (text : String) (marks : List Mark) : Prop :=
  ∀ rest, Mark.read (text.toList ++ rest) = marks ++ Mark.read rest

namespace Shows

variable {s t : String} {ms ns : List Mark}

theorem append (hs : Shows s ms) (ht : Shows t ns) : Shows (s ++ t) (ms ++ ns) := by
  intro rest
  rw [String.toList_append, List.append_assoc, hs, ht, List.append_assoc]

theorem read_eq (h : Shows s ms) : Mark.read s.toList = ms := by
  have hend := h []
  rwa [List.append_nil, Mark.read, List.append_nil] at hend

/-- A text without `#` adds no mark. -/
theorem plain (h : '#' ∉ s.toList) : Shows s [] := by
  intro rest
  rw [List.nil_append]
  generalize s.toList = cs at h
  induction cs with
  | nil => rfl
  | cons c cs ih =>
    have hc : c ≠ '#' := fun e => h (e ▸ List.mem_cons_self)
    rw [List.cons_append, Mark.read, Mark.atStart?_of_ne hc, ih fun hm => h (List.mem_cons_of_mem _ hm)]
    rfl

/-- A text followed by one without `#`. -/
theorem followed (hs : Shows s ms) (t : String) (ht : '#' ∉ t.toList := by decide) : Shows (s ++ t) ms := by
  have happend := hs.append (plain ht)
  rwa [List.append_nil] at happend

theorem joinWith {parts : List String} {marks : List (List Mark)} (h : List.Forall₂ Shows parts marks) (sep : String)
    (hsep : '#' ∉ sep.toList := by decide) : Shows (Text.joinWith sep parts) marks.flatten := by
  induction h with
  | nil => exact plain (s := "") (by decide)
  | @cons s ms parts marks hs hparts ih =>
    cases hparts with
    | nil =>
      rw [List.flatten_singleton]
      exact hs
    | cons _ _ => exact (hs.followed sep hsep).append ih

/-! The texts that the printer adds around nodes. -/

theorem openIf : Shows "#if( " [.openIf] := fun _ => rfl
theorem openLoop : Shows "#foreach( " [.openLoop] := fun _ => rfl
theorem otherwise : Shows "#else\n" [.otherwise] := fun _ => rfl
theorem close : Shows "#end" [.close] := fun _ => rfl
theorem closeInline : Shows " #end" [.close] := fun _ => rfl
theorem set : Shows "#set( " [] := fun _ => rfl
theorem comment : Shows "## " [] := fun _ => rfl

theorem startMark {name : String} (h : '#' ∉ name.toList) : Shows (Expr.startMark name) [] := by
  have hopen : Shows "## [Start] " [] := fun _ => rfl
  exact (hopen.followed name h).followed ". **"

theorem endMark {name : String} (h : '#' ∉ name.toList) : Shows (Expr.endMark name) [] := by
  have hopen : Shows "## [End] " [] := fun _ => rfl
  exact (hopen.followed name h).followed ". **"

theorem int (n : Int) : Shows (toString n) [] := plain (Text.notMem_toString_int (by decide) (by decide) n)

end Shows

/-! ## printing -/

theorem Position.notMem_lead (p : Position) {indent : String} (h : '#' ∉ indent.toList) :
    '#' ∉ (p.lead indent).toList := by
  cases p with
  | statement => exact h
  | value => exact List.not_mem_nil

theorem Shows.lead (p : Position) {indent : String} (h : '#' ∉ indent.toList) : Shows (p.lead indent) [] :=
  .plain (p.notMem_lead h)

namespace Expr

theorem notMem_tab {indent : String} (h : '#' ∉ indent.toList) : '#' ∉ (indent ++ tab).toList :=
  Text.notMem_append h (by decide)

/-- What stands between printed expressions adds no mark. -/
theorem shows_joined {es : List Expr} {parts : List String} (h : List.Forall₂ Shows parts (es.map marks))
    (sep : String) (hsep : '#' ∉ sep.toList := by decide) : Shows (joinWith sep parts) (marksOfAll es) := by
  rw [marksOfAll_eq]
  exact .joinWith h sep hsep

/-- The marks of a named block are those of its steps. -/
theorem shows_block {es : List Expr} {parts : List String} (h : List.Forall₂ Shows parts (es.map marks))
    {start finish : String} (hstart : Shows start []) (hfinish : Shows finish []) :
    Shows (joinWith "\n" (start :: (parts ++ [finish]))) (marksOfAll es) := by
  have hends : List.Forall₂ Shows (parts ++ [finish]) (es.map marks ++ [[]]) := List.rel_append h (.cons hfinish .nil)
  have hall := Shows.joinWith (.cons hstart hends) "\n"
  rwa [List.flatten_cons, List.flatten_append, List.flatten_singleton, List.nil_append, List.append_nil,
    ← marksOfAll_eq] at hall

/-- The start of a condition. -/
theorem shows_condition (p : Position) {indent condition : String} (hi : '#' ∉ indent.toList) {ms : List Mark}
    (h : Shows condition ms) : Shows (p.lead indent ++ "#if( " ++ condition) ([.openIf] ++ ms) :=
  ((Shows.lead p hi).append .openIf).append h

mutual
/-- Printing shows the marks of the tree. -/
theorem shows_render (p : Position) {indent : String} (hi : '#' ∉ indent.toList) : ∀ e : Expr,
    (∀ t ∈ e.texts, '#' ∉ t.toList) → Shows (render p indent e) e.marks
  | .set target value, h => by
    obtain ⟨ht, hv⟩ := List.forall_mem_append.1 h
    have hlead := p.notMem_lead hi
    have htarget := shows_render .value hlead target ht
    have hvalue := shows_render .value hlead value hv
    have hhead := (((Shows.lead p hi).append .set).append htarget).followed " = "
    exact (hhead.append hvalue).followed " )"
  | .ifThen true condition body, h => by
    obtain ⟨hc, hb⟩ := List.forall_mem_append.1 h
    have hlead := p.notMem_lead hi
    have hcondition := shows_condition p hi (shows_render .value hlead condition hc)
    have hbody := shows_render .statement (by decide : '#' ∉ "".toList) body hb
    exact ((hcondition.followed " ) ").append hbody).append .closeInline
  | .ifThen false condition body, h => by
    obtain ⟨hc, hb⟩ := List.forall_mem_append.1 h
    have hlead := p.notMem_lead hi
    have hcondition := shows_condition p hi (shows_render .value hlead condition hc)
    have hbody := shows_render .statement (notMem_tab hlead) body hb
    exact ((((hcondition.followed " )\n").append hbody).followed "\n").followed _ hlead).append .close
  | .ifElse condition yes no, h => by
    obtain ⟨h, hn⟩ := List.forall_mem_append.1 h
    obtain ⟨hc, hy⟩ := List.forall_mem_append.1 h
    have hlead := p.notMem_lead hi
    have hcondition := shows_condition p hi (shows_render .value hlead condition hc)
    have hyes := shows_render .statement (notMem_tab hlead) yes hy
    have hno := shows_render .statement (notMem_tab hlead) no hn
    have hdivided := ((((hcondition.followed " )\n").append hyes).followed "\n").followed _ hlead).append .otherwise
    exact (((hdivided.append hno).followed "\n").followed _ hlead).append .close
  | .forEach item collection body, h => by
    obtain ⟨h, hb⟩ := List.forall_mem_append.1 h
    obtain ⟨ht, hc⟩ := List.forall_mem_append.1 h
    have hlead := p.notMem_lead hi
    have hitem := shows_render .value hlead item ht
    have hcollection := shows_render .value hlead collection hc
    have hbody := shows_joined (shows_renderAll .statement (notMem_tab hlead) body hb) "\n"
    have hhead := ((((Shows.lead p hi).append .openLoop).append hitem).followed " in ").append hcollection
    exact ((((hhead.followed " )\n").append hbody).followed "\n").followed _ hlead).append .close
  | .compound steps, h => shows_joined (shows_renderAll .statement (p.notMem_lead hi) steps h) "\n"
  | .block name steps, h => by
    obtain ⟨hname, hs⟩ := List.forall_mem_cons.1 h
    have hlead := p.notMem_lead hi
    exact shows_block (shows_renderAll .statement hlead steps hs) ((Shows.lead p hi).append (.startMark hname))
      ((Shows.lead p hi).append (.endMark hname))
  | .comment text, h =>
    (((Shows.lead p hi).append .comment).followed text (h _ List.mem_cons_self)).followed " **"
  | .raw text, h => (Shows.lead p hi).followed text (h _ List.mem_cons_self)
  | .ref name, h =>
    ((Shows.lead p hi).followed "$").followed name (h _ List.mem_cons_self)
  | .quiet e, h =>
    (((Shows.lead p hi).followed "$util.qr(").append (shows_render .value hi e h)).followed ")"
  | .str text, h =>
    (((Shows.lead p hi).followed "\"").followed text (h _ List.mem_cons_self)).followed "\""
  | .int n, _ => (Shows.lead p hi).append (.int n)
  | .bool b, _ => by
    have hb : '#' ∉ (if b then "true" else "false").toList := by cases b <;> decide
    exact (Shows.lead p hi).followed _ hb
  | .null, _ => (Shows.lead p hi).followed "null"
  | .obj [], _ => (Shows.lead p hi).followed "\x7b\x7d"
  | .obj (a :: rest), h => by
    have hattributes := Shows.joinWith (shows_renderAttributes (notMem_tab hi) (a :: rest) h) ",\n"
    rw [← marksOfAttributes_eq] at hattributes
    have hopen := (Shows.lead p hi).followed "\x7b\n"
    exact (((hopen.append hattributes).followed "\n").followed indent hi).followed "\x7d"
  | .list items, h => by
    have hitems := shows_joined (shows_renderAll .value hi items h) ", "
    exact (((Shows.lead p hi).followed "[").append hitems).followed "]"
  | .call method arguments, h => by
    obtain ⟨hm, ha⟩ := List.forall_mem_append.1 h
    have hmethod := (Shows.lead p hi).append (shows_render .value hi method hm)
    have harguments := shows_joined (shows_renderAll .value hi arguments ha) ", "
    exact ((hmethod.followed "(").append harguments).followed ")"
  | .and operands, h =>
    (Shows.lead p hi).append (shows_joined (shows_renderAll .value hi operands h) " && ")
  | .or operands, h =>
    (Shows.lead p hi).append (shows_joined (shows_renderAll .value hi operands h) " || ")
  | .parens e, h =>
    (((Shows.lead p hi).followed "(").append (shows_render .value hi e h)).followed ")"
  | .not e, h => ((Shows.lead p hi).followed "!").append (shows_render .value hi e h)
  | .eq left right, h => by
    obtain ⟨hl, hr⟩ := List.forall_mem_append.1 h
    have hleft := (Shows.lead p hi).append (shows_render .value hi left hl)
    exact (hleft.followed " == ").append (shows_render .value hi right hr)
  | .ne left right, h => by
    obtain ⟨hl, hr⟩ := List.forall_mem_append.1 h
    have hleft := (Shows.lead p hi).append (shows_render .value hi left hl)
    exact (hleft.followed " != ").append (shows_render .value hi right hr)
  | .toJson e, h =>
    (((Shows.lead p hi).followed "$util.toJson(").append (shows_render .value hi e h)).followed ")"

theorem shows_renderAll (p : Position) {indent : String} (hi : '#' ∉ indent.toList) : ∀ es : List Expr,
    (∀ t ∈ textsOfAll es, '#' ∉ t.toList) → List.Forall₂ Shows (renderAll p indent es) (es.map marks)
  | [], _ => .nil
  | e :: rest, h => by
    obtain ⟨he, hrest⟩ := List.forall_mem_append.1 h
    exact .cons (shows_render p hi e he) (shows_renderAll p hi rest hrest)

theorem shows_renderAttributes {indent : String} (hi : '#' ∉ indent.toList) : ∀ attributes : List (String × Expr),
    (∀ t ∈ textsOfAttributes attributes, '#' ∉ t.toList) →
      List.Forall₂ Shows (renderAttributes indent attributes) (attributes.map fun a => marks a.2)
  | [], _ => .nil
  | (key, e) :: rest, h => by
    obtain ⟨hkey, h⟩ := List.forall_mem_cons.1 h
    obtain ⟨he, hrest⟩ := List.forall_mem_append.1 h
    have hname := (((Shows.plain hi).followed "\"").followed key hkey).followed "\": "
    exact .cons (hname.append (shows_render .value hi e he)) (shows_renderAttributes hi rest hrest)
end

/-- When no embedded text contains a `#`, the marks of a printed template are those that its tree asks for, and they are
nested. -/
theorem printed_blocks_nested (e : Expr) (h : ∀ t ∈ e.texts, '#' ∉ t.toList) :
    Mark.read e.print.toList = e.marks ∧ Mark.Nested (Mark.read e.print.toList) := by
  have hshows : Shows e.print e.marks := shows_render .statement (by decide) e h
  rw [hshows.read_eq]
  exact ⟨rfl, (marks_whole e).nested⟩

/-- A choice between a loop and an object, in the place of a value. -/
theorem negated_choice_nested :
    let e : Expr := .not (.ifElse (.ref "seen") (.forEach (.ref "key") (.ref "keys") [whenInline (.ref "key") .null])
      (.obj [("else", .comment "end")]))
    (∀ t ∈ e.texts, '#' ∉ t.toList) ∧
      Mark.read e.print.toList = [.openIf, .openLoop, .openIf, .close, .close, .otherwise, .close] ∧
      Mark.Nested (Mark.read e.print.toList) :=
  ⟨by decide, (printed_blocks_nested _ (by decide)).1, (printed_blocks_nested _ (by decide)).2⟩

end Expr

end ModelApi
