import Mathlib.Data.List.Basic
import ModelApi.Proofs.Key.Composite
import ModelApi.Resolver.KeyTemplate

/-!
# What a query by key binds

The condition of a query speaks of attributes and values through placeholders. A template binds them by assigning an
object to one of two maps, or by a call that puts a member there. `Expr.bindings` reads these off a template, in order,
each with the conditions that it stands under.

* `bindings_nameSortKey`, `bindings_bindValue`: the calls are read back from their text;
* `bindings_sortCondition`: what one form of sort key condition binds, whatever is prepared before it;
* `Key.bindings_keyQuery`: a query binds the partition attribute, and the sort attribute under each operator;
* `Key.sortKey_names_iff`: `#sortKey` stands for the sort attribute only, unless the partition field is called
  `sortKey`: the placeholder of the partition field is made from its name;
* `Key.derivations_agree`: the attributes of a key are the same in the table, in the key of an item and in queries.
-/

namespace ModelApi

open ModelApi.Expr
open Text (cutAt)

/-! ## reading texts -/

namespace Text

/-- What follows `front`, when the text starts with it. -/
def after? (front s : String) : Option String := (front.toList.isPrefixOf? s.toList).map String.ofList

/-- What precedes `back`, when the text ends with it. -/
def before? (back s : String) : Option String := (back.toList.isSuffixOf? s.toList).map String.ofList

/-- What precedes and what follows the first `c`. -/
def cut? (c : Char) (s : String) : Option (String × String) :=
  (cutAt c s.toList).2.map fun rest => (String.ofList (cutAt c s.toList).1, String.ofList rest)

theorem after?_append (front s : String) : after? front (front ++ s) = some s := by
  have h : front.toList.isPrefixOf? (front ++ s).toList = some s.toList :=
    List.isPrefixOf?_eq_some_iff_append_eq.2 String.toList_append.symm
  rw [after?, h, Option.map_some, String.ofList_toList]

theorem before?_append (back s : String) : before? back (s ++ back) = some s := by
  have h : back.toList.isSuffixOf? (s ++ back).toList = some s.toList :=
    List.isSuffixOf?_eq_some_iff_append_eq.2 String.toList_append.symm
  rw [before?, h, Option.map_some, String.ofList_toList]

theorem cutAt_append {c : Char} (rest : List Char) : ∀ {cs : List Char}, c ∉ cs →
    cutAt c (cs ++ c :: rest) = (cs, some rest)
  | [], _ => by simp [cutAt]
  | d :: cs, h => by
    have hd : d ≠ c := fun e => h (e ▸ List.mem_cons_self)
    have hcs : c ∉ cs := fun hm => h (List.mem_cons_of_mem _ hm)
    simp only [List.cons_append, cutAt, hd, if_false, cutAt_append rest hcs]

theorem cut?_append {c : Char} {s : String} (t : String) (h : c ∉ s.toList) :
    cut? c (s ++ (String.singleton c ++ t)) = some (s, t) := by
  have hcut : cutAt c (s ++ (String.singleton c ++ t)).toList = (s.toList, some t.toList) := by
    rw [String.toList_append, String.toList_append, String.toList_singleton, List.singleton_append]
    exact cutAt_append t.toList h
  rw [cut?, hcut, Option.map_some, String.ofList_toList, String.ofList_toList]

end Text

open Text (after? before? cut? after?_append before?_append cut?_append)

/-! ## bindings -/

/-- A placeholder that a template binds under the given conditions: to an attribute, or to a value with its type tag. -/
inductive Binding where
  | name (conditions : List Expr) (placeholder attributeName : String)
  | value (conditions : List Expr) (placeholder tag text : String)

namespace Binding

/-- Reads `"a"`. -/
def quoted? (s : String) : Option String := (after? "\"" s).bind (before? "\"")

/-- Reads `{ "T": "v" }`. -/
def tagged? (s : String) : Option (String × String) :=
  (after? "\x7b \"" s).bind fun s => (cut? '"' s).bind fun (tag, s) =>
    (after? ": \"" s).bind fun s => (before? "\" \x7d" s).map fun text => (tag, text)

/-- Reads `$modelQueryExpression.m.put("p", v)`: the map, the placeholder and the value. -/
def put? (s : String) : Option (String × String × String) :=
  (after? "$modelQueryExpression." s).bind fun s => (cut? '.' s).bind fun (map, s) =>
    (after? "put(\"" s).bind fun s => (cut? '"' s).bind fun (placeholder, s) =>
      (after? ", " s).bind fun s => (before? ")" s).map fun bound => (map, placeholder, bound)

/-- The binding that a call makes. -/
def ofCall? (conditions : List Expr) (s : String) : Option Binding :=
  (put? s).bind fun (map, placeholder, bound) =>
    if map = "expressionNames" then (quoted? bound).map (.name conditions placeholder)
    else if map = "expressionValues" then (tagged? bound).map fun (tag, text) => .value conditions placeholder tag text
    else none

/-- The binding that a member of an object makes, when the object is assigned to a map of placeholders. -/
def ofMember? (conditions : List Expr) (target : String) : String × Expr → Option Binding
  | (placeholder, .str attributeName) =>
    if target = "modelQueryExpression.expressionNames" then some (.name conditions placeholder attributeName) else none
  | (placeholder, .obj [(tag, .str text)]) =>
    if target = "modelQueryExpression.expressionValues" then some (.value conditions placeholder tag text) else none
  | _ => none

end Binding

namespace Expr

mutual
/-- The bindings of a template, in order; `conditions` are those it stands under. -/
def bindings (conditions : List Expr) : Expr → List Binding
  | .set (.ref target) (.obj members) => members.filterMap (Binding.ofMember? conditions target)
  | .quiet (.raw text) => (Binding.ofCall? conditions text).toList
  | .ifThen _ condition body => bindings (conditions ++ [condition]) body
  | .ifElse condition yes no => bindings (conditions ++ [condition]) yes ++ bindings (conditions ++ [.not condition]) no
  | .forEach _ _ body => bindingsOf conditions body
  | .compound steps => bindingsOf conditions steps
  | .block _ steps => bindingsOf conditions steps
  | _ => []

/-- The bindings of templates one after the other. -/
def bindingsOf (conditions : List Expr) : List Expr → List Binding
  | [] => []
  | step :: rest => bindings conditions step ++ bindingsOf conditions rest
end

theorem bindingsOf_eq (conditions steps : List Expr) :
    bindingsOf conditions steps = steps.flatMap (bindings conditions) := by
  induction steps with
  | nil => rfl
  | cons step rest ih => rw [bindingsOf, ih, List.flatMap_cons]

theorem bindingsOf_append (conditions : List Expr) (steps more : List Expr) :
    bindingsOf conditions (steps ++ more) = bindingsOf conditions steps ++ bindingsOf conditions more := by
  rw [bindingsOf_eq, bindingsOf_eq, bindingsOf_eq, List.flatMap_append]

end Expr

/-! ## the calls that bind a placeholder -/

namespace Binding

theorem quoted?_quote (s : String) : quoted? ("\"" ++ s ++ "\"") = some s := by
  rw [quoted?, String.append_assoc, after?_append, Option.bind_some, before?_append]

theorem tagged?_taggedValue (type : AttributeType) (text : String) :
    tagged? (taggedValue type text) = some (type.tag, text) := by
  have htag : '"' ∉ type.tag.toList := by cases type <;> decide
  have hcut : "\": \"" = String.singleton '"' ++ ": \"" := by decide
  rw [tagged?, taggedValue, hcut]
  simp only [String.append_assoc, after?_append, Option.bind_some, cut?_append _ htag, before?_append, Option.map_some]

/-- A call on one of the maps of the query, taken apart. -/
theorem put?_call {map placeholder : String} (hmap : '.' ∉ map.toList) (hplaceholder : '"' ∉ placeholder.toList)
    (bound : String) :
    put? ("$modelQueryExpression." ++ (map ++ (String.singleton '.' ++ ("put(\"" ++ (placeholder ++
      (String.singleton '"' ++ (", " ++ (bound ++ ")")))))))) = some (map, placeholder, bound) := by
  simp only [put?, after?_append, Option.bind_some, cut?_append _ hmap, cut?_append _ hplaceholder, before?_append,
    Option.map_some]

end Binding

/-- Naming the sort key binds `#sortKey`. -/
theorem bindings_nameSortKey (conditions : List Expr) (name : String) :
    (nameSortKey queryVariable ("\"" ++ name ++ "\"")).bindings conditions = [.name conditions "#sortKey" name] := by
  have hput : Binding.put? ("$" ++ queryVariable ++ ".expressionNames.put(\"#sortKey\", " ++ ("\"" ++ name ++ "\"") ++
      ")") = some ("expressionNames", "#sortKey", "\"" ++ name ++ "\"") := by
    have hcall : "$" ++ queryVariable ++ ".expressionNames.put(\"#sortKey\", " =
        "$modelQueryExpression." ++ ("expressionNames" ++ (String.singleton '.' ++ ("put(\"" ++ ("#sortKey" ++
          (String.singleton '"' ++ ", "))))) := by decide
    rw [hcall]
    simpa only [String.append_assoc] using Binding.put?_call (by decide) (by decide) ("\"" ++ name ++ "\"")
  simp only [nameSortKey, Expr.bindings, Binding.ofCall?, hput, Option.bind_some, if_true, Binding.quoted?_quote,
    Option.map_some, Option.toList_some]

/-- Binding a tagged value. -/
theorem bindings_bindValue (conditions : List Expr) {placeholder : String} (h : '"' ∉ placeholder.toList)
    (type : AttributeType) (text : String) :
    (bindValue queryVariable placeholder (taggedValue type text)).bindings conditions =
      [.value conditions placeholder type.tag text] := by
  have hput : Binding.put? ("$" ++ queryVariable ++ ".expressionValues.put(\"" ++ placeholder ++ "\", " ++
      taggedValue type text ++ ")") = some ("expressionValues", placeholder, taggedValue type text) := by
    have hcall : "$" ++ queryVariable ++ ".expressionValues.put(\"" = "$modelQueryExpression." ++
        ("expressionValues" ++ (String.singleton '.' ++ "put(\"")) := by decide
    have hcut : "\", " = String.singleton '"' ++ ", " := by decide
    rw [hcall, hcut]
    simp only [String.append_assoc]
    exact Binding.put?_call (by decide) h _
  have hmap : "expressionValues" ≠ "expressionNames" := by decide
  simp only [bindValue, Expr.bindings, Binding.ofCall?, hput, Option.bind_some, hmap, if_false, if_true,
    Binding.tagged?_taggedValue, Option.map_some, Option.toList_some]

/-! ## conditions of queries -/

theorem bindings_partitionCondition (conditions : List Expr) (partition : String) (type : AttributeType) :
    (partitionCondition queryVariable partition type).bindings conditions =
      [.name (conditions ++ [.raw ("!$util.isNull($ctx.args." ++ partition ++ ")")]) ("#" ++ partition) partition,
        .value (conditions ++ [.raw ("!$util.isNull($ctx.args." ++ partition ++ ")")]) (":" ++ partition) type.tag
          ("$ctx.args." ++ partition)] := by
  have hnames : queryVariable ++ ".expressionNames" = "modelQueryExpression.expressionNames" := by decide
  have hvalues : queryVariable ++ ".expressionValues" = "modelQueryExpression.expressionValues" := by decide
  simp only [partitionCondition, Expr.when, assign, Expr.bindings, bindingsOf, hnames, hvalues, List.filterMap_cons,
    List.filterMap_nil, Binding.ofMember?, if_true, List.nil_append, List.append_nil, List.cons_append]

/-- Condensing the parts of a composite binds no placeholder. -/
theorem bindings_condense (conditions : List Expr) (argument : String) (fields : List String) (o : Operand) :
    bindingsOf conditions (condense argument fields o) = [] := by
  have hparts : ∀ (fields : List String) (isFirst : Bool),
      bindingsOf conditions (condenseParts argument o isFirst fields) = [] := by
    intro fields
    induction fields with
    | nil => exact fun _ => rfl
    | cons field rest ih =>
      intro isFirst
      simp only [condenseParts, bindingsOf, whenInline, assign, Expr.bindings, ih, List.append_nil]
  simp only [condense, bindingsOf, assign, Expr.bindings, hparts, List.append_nil]

/-- A form of condition binds the sort key and its operands; what is prepared before it binds nothing. -/
theorem bindings_sortCondition (argument attributeName : String) (type : AttributeType) (text : Operand → String)
    {prepare : List Expr} (hprepare : ∀ conditions, bindingsOf conditions prepare = []) {c : SortCondition}
    (hc : ∀ o ∈ c.operands, '"' ∉ o.placeholder.toList) :
    (Expr.when (conditionGiven argument c.operator) (.compound (prepare ++
      [addSortCondition queryVariable c.expression, nameSortKey queryVariable ("\"" ++ attributeName ++ "\"")] ++
      c.operands.map fun o => bindValue queryVariable o.placeholder (taggedValue type (text o))))).bindings [] =
    .name [conditionGiven argument c.operator] "#sortKey" attributeName ::
      c.operands.map fun o => .value [conditionGiven argument c.operator] o.placeholder type.tag (text o) := by
  have hoperands : ∀ conditions, bindingsOf conditions (c.operands.map fun o =>
      bindValue queryVariable o.placeholder (taggedValue type (text o))) =
      c.operands.map fun o => .value conditions o.placeholder type.tag (text o) := by
    intro conditions
    rw [bindingsOf_eq, List.flatMap_map, List.map_eq_flatMap]
    exact List.flatMap_congr fun o ho => bindings_bindValue conditions (hc o ho) type (text o)
  have hcondition : ∀ conditions, (addSortCondition queryVariable c.expression).bindings conditions = [] := by
    intro conditions
    simp only [addSortCondition, assign, Expr.bindings]
  simp only [Expr.when, Expr.bindings, bindingsOf_append, hprepare, hoperands, bindingsOf, hcondition,
    bindings_nameSortKey, List.nil_append, List.append_nil, List.cons_append]

theorem quote_notMem_placeholder {c : SortCondition} (hc : c ∈ sortConditions) :
    ∀ o ∈ c.operands, '"' ∉ o.placeholder.toList := by
  revert c
  decide

/-! ## the attributes of a key -/

/-- The operators of sort key conditions with their operands. -/
def sortOperators : List (String × List Operand) :=
  [("beginsWith", [⟨"beginsWith", "sortKeyValue", ":sortKey"⟩]),
    ("between", [⟨"between[0]", "sortKeyValue0", ":sortKey0"⟩, ⟨"between[1]", "sortKeyValue1", ":sortKey1"⟩]),
    ("eq", [⟨"eq", "sortKeyValue", ":sortKey"⟩]),
    ("lt", [⟨"lt", "sortKeyValue", ":sortKey"⟩]),
    ("le", [⟨"le", "sortKeyValue", ":sortKey"⟩]),
    ("gt", [⟨"gt", "sortKeyValue", ":sortKey"⟩]),
    ("ge", [⟨"ge", "sortKeyValue", ":sortKey"⟩])]

/-- What the condition on the partition attribute binds. -/
def AttributeDef.partitionBindings (a : AttributeDef) : List Binding :=
  let given := [Expr.raw ("!$util.isNull($ctx.args." ++ a.name ++ ")")]
  [.name given ("#" ++ a.name) a.name, .value given (":" ++ a.name) a.type.tag ("$ctx.args." ++ a.name)]

namespace Key

/-- The attributes that an item stores for a key. -/
def storedNames (k : Key) : List String := k.partition.name :: k.sortAttribute?.toList

/-- The value of an operand: a member of the argument, or the variable that a composite is condensed in. -/
def operandText (k : Key) (argument : String) (o : Operand) : String :=
  if k.isComposite then "$" ++ o.target else "$ctx.args." ++ argument ++ "." ++ o.path

/-- What the conditions on the sort attribute bind: each operator names the attribute, and tags each of its operands
with the type of the attribute. -/
def sortBindings (k : Key) (a : AttributeDef) : List Binding :=
  k.sortArgument?.toList.flatMap fun argument => sortOperators.flatMap fun (operator, operands) =>
    let given := [conditionGiven argument operator]
    .name given "#sortKey" a.name ::
      operands.map fun o => .value given o.placeholder a.type.tag (k.operandText argument o)

theorem names_itemAttributes (k : Key) (source : String) : (k.itemAttributes source).map Prod.fst = k.storedNames := by
  obtain ⟨partition, sort⟩ := k
  rcases sort with _ | ⟨single, _ | ⟨second, rest⟩⟩ <;> rfl

/-- The checks before a query bind nothing. -/
theorem bindings_checks (k : Key) (listing : Bool) : bindingsOf [] (checkDirection k listing) = [] ∧
    bindingsOf [] (checkSortArgument k) = [] := by
  constructor
  · unfold checkDirection
    split_ifs <;> simp only [bindingsOf, Expr.when, Expr.bindings, List.append_nil]
  · cases h : k.sortArgument? <;>
      simp only [checkSortArgument, h, Option.toList_none, Option.toList_some, List.map_nil, List.map_cons, bindingsOf,
        Expr.when, Expr.bindings, List.append_nil]

/-- The bindings of all forms of condition, whatever each of them prepares. -/
theorem bindings_sortConditions (k : Key) {argument : String} (hargument : k.sortArgument? = some argument)
    (a : AttributeDef) (prepare : SortCondition → List Expr)
    (hprepare : ∀ c conditions, bindingsOf conditions (prepare c) = []) :
    (Expr.block "Applying Key Condition" (sortConditions.map fun c =>
      .when (conditionGiven argument c.operator) (.compound (prepare c ++
        [addSortCondition queryVariable c.expression, nameSortKey queryVariable ("\"" ++ a.name ++ "\"")] ++
        c.operands.map fun o =>
          bindValue queryVariable o.placeholder (taggedValue a.type (k.operandText argument o)))))).bindings [] =
      k.sortBindings a := by
  have hoperators : sortOperators = sortConditions.map fun c => (c.operator, c.operands) := rfl
  rw [Expr.bindings, bindingsOf_eq, List.flatMap_map, sortBindings, hargument, Option.toList_some,
    List.flatMap_singleton, hoperators, List.flatMap_map]
  exact List.flatMap_congr fun c hc =>
    bindings_sortCondition argument a.name a.type (k.operandText argument) (hprepare c) (quote_notMem_placeholder hc)

theorem bindings_keyConditions (doc : Schema.Document) (k : Key) :
    (keyConditions doc k queryVariable).bindings [] =
      ((k.attributes doc).take 1).flatMap (·.partitionBindings) ++
        ((k.attributes doc).drop 1).flatMap k.sortBindings := by
  have hpartition : ((k.attributes doc).take 1).flatMap (·.partitionBindings) =
      (partitionCondition queryVariable k.partition.name (attributeType doc k.partition.type)).bindings [] := by
    rw [bindings_partitionCondition]
    rfl
  rw [keyConditions, Expr.bindings, bindingsOf_append, bindingsOf_append, (k.bindings_checks false).2, hpartition]
  obtain ⟨partition, sort⟩ := k
  rcases sort with _ | ⟨single, _ | ⟨second, rest⟩⟩
  · rfl
  · -- the operands are members of the argument, so nothing is prepared
    have hsort := bindings_sortConditions ⟨partition, [single]⟩ rfl ⟨single.name, attributeType doc single.type⟩
      (fun _ => []) fun _ _ => rfl
    simp only [bindingsOf, List.append_nil, List.nil_append]
    exact congrArg _ (hsort.trans (List.append_nil _).symm)
  · -- the operands are condensed first
    let fields := (single :: second :: rest).map (·.name)
    have hcondense : ∀ (c : SortCondition) conditions,
        bindingsOf conditions (c.operands.flatMap (condense (compositeArgument fields) fields)) = [] := by
      intro c conditions
      rw [bindingsOf_eq, List.flatMap_assoc]
      exact List.flatMap_eq_nil_iff.2 fun o _ => by rw [← bindingsOf_eq, bindings_condense]
    have hsort := bindings_sortConditions ⟨partition, single :: second :: rest⟩ rfl ⟨compositeName fields, .s⟩ _
      hcondense
    simp only [bindingsOf, List.append_nil, List.nil_append]
    exact congrArg _ (hsort.trans (List.append_nil _).symm)

/-- A query binds the partition attribute, which comes first, and the sort attribute, if there is one, under each
operator. The values carry the types of the attribute definitions. -/
theorem bindings_keyQuery (doc : Schema.Document) (k : Key) (listing : Bool) :
    (keyQuery doc k listing).bindings [] =
      ((k.attributes doc).take 1).flatMap (·.partitionBindings) ++
        ((k.attributes doc).drop 1).flatMap k.sortBindings := by
  have hreset : (assign queryVariable emptyObj).bindings [] = [] := by
    simp only [assign, emptyObj, Expr.bindings, List.filterMap_nil]
  rw [keyQuery, Expr.bindings, bindingsOf_append, (k.bindings_checks listing).1, bindingsOf, bindingsOf, bindingsOf,
    hreset, bindings_keyConditions, List.nil_append, List.nil_append, List.append_nil]

/-! ## what `#sortKey` stands for -/

theorem mem_partitionBindings {a : AttributeDef} {conditions : List Expr} {placeholder name : String}
    (h : .name conditions placeholder name ∈ a.partitionBindings) : placeholder = "#" ++ a.name ∧ name = a.name := by
  simp only [AttributeDef.partitionBindings, List.mem_cons, Binding.name.injEq, reduceCtorEq, List.not_mem_nil,
    or_false] at h
  exact h.2

theorem mem_sortBindings {k : Key} {a : AttributeDef} {conditions : List Expr} {placeholder name : String}
    (h : .name conditions placeholder name ∈ k.sortBindings a) : name = a.name := by
  obtain ⟨argument, -, h⟩ := List.mem_flatMap.1 h
  obtain ⟨⟨operator, operands⟩, -, h⟩ := List.mem_flatMap.1 h
  rcases List.mem_cons.1 h with h | h
  · cases h
    rfl
  · obtain ⟨o, -, ho⟩ := List.mem_map.1 h
    cases ho

/-- Only a partition field of the name `sortKey` takes the placeholder of the sort key. -/
theorem sortKey_names_iff (doc : Schema.Document) (k : Key) (listing : Bool) :
    (∀ conditions name, .name conditions "#sortKey" name ∈ (keyQuery doc k listing).bindings [] →
      k.sortAttribute? = some name) ↔
    (k.partition.name = "sortKey" → k.sortAttribute? = some "sortKey") := by
  rw [bindings_keyQuery]
  constructor
  · intro h hpartition
    refine h [.raw ("!$util.isNull($ctx.args." ++ k.partition.name ++ ")")] "sortKey" (List.mem_append_left _ ?_)
    refine List.mem_flatMap.2 ⟨_, List.mem_cons_self, ?_⟩
    rw [AttributeDef.partitionBindings, hpartition]
    exact List.mem_cons_self
  · intro h conditions name hmem
    rcases List.mem_append.1 hmem with hmem | hmem
    · obtain ⟨a, ha, hmem⟩ := List.mem_flatMap.1 hmem
      obtain rfl := List.mem_singleton.1 ha
      obtain ⟨hplaceholder, rfl⟩ := mem_partitionBindings hmem
      have hname : "sortKey" = k.partition.name := by
        apply String.toList_injective
        have hchars := congrArg String.toList hplaceholder
        rw [String.toList_append] at hchars
        exact List.append_cancel_left
          (show "#".toList ++ "sortKey".toList = "#".toList ++ k.partition.name.toList from hchars)
      rw [← hname]
      exact h hname.symm
    · obtain ⟨a, ha, hmem⟩ := List.mem_flatMap.1 hmem
      have hnames : ((k.attributes doc).drop 1).map (·.name) = k.sortAttribute?.toList := by
        rw [List.map_drop, names_attributes]
        rfl
      rw [mem_sortBindings hmem, ← Option.mem_toList, ← hnames]
      exact List.mem_map_of_mem ha

/-- The table, the key of an item and the attribute definitions have the same attributes in the same order. The values
that a query binds carry the types of the attribute definitions, and `#sortKey` stands for the sort attribute unless a
partition field of that name takes the placeholder. -/
theorem derivations_agree (doc : Schema.Document) (k : Key) (mutation listing : Bool) :
    k.elements.map (·.name) = k.storedNames ∧ (k.attributes doc).map (·.name) = k.storedNames ∧
    (∃ item, objectKeyTemplate k mutation = Expr.printSteps "Set the primary key" [
        perform "ctx.stash.metadata.put" [.str objectKeyName, .obj item]] ∧ item.map Prod.fst = k.storedNames) ∧
    (keyQuery doc k listing).bindings [] =
      ((k.attributes doc).take 1).flatMap (·.partitionBindings) ++
        ((k.attributes doc).drop 1).flatMap k.sortBindings ∧
    ((∀ conditions name, .name conditions "#sortKey" name ∈ (keyQuery doc k listing).bindings [] →
        k.sortAttribute? = some name) ↔
      (k.partition.name = "sortKey" → k.sortAttribute? = some "sortKey")) :=
  ⟨k.names_elements, k.names_attributes doc, ⟨_, rfl, k.names_itemAttributes _⟩, k.bindings_keyQuery doc listing,
    k.sortKey_names_iff doc listing⟩

/-- A numeric partition field called `sortKey`, and a date to sort by. -/
def dated : Key := ⟨⟨"sortKey", .named "Int" false⟩, [⟨"date", .named "String" false⟩]⟩

/-- The sort attribute is `date`, and the condition on the partition field binds `#sortKey` to another one. -/
theorem sortKey_names_partition : dated.sortAttribute? = some "date" ∧
    ∃ conditions, .name conditions "#sortKey" "sortKey" ∈ (keyQuery ⟨[]⟩ dated false).bindings [] := by
  refine ⟨rfl, [.raw ("!$util.isNull($ctx.args." ++ "sortKey" ++ ")")], ?_⟩
  rw [bindings_keyQuery]
  exact List.mem_append_left _ (List.mem_flatMap.2 ⟨_, List.mem_cons_self, List.mem_cons_self⟩)

end Key

end ModelApi
