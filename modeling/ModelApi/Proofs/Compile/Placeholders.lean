import Mathlib.Data.Set.Operations
import ModelApi.Proofs.Compile.DataSources
import ModelApi.Proofs.Compile.PreAuth
import ModelApi.Proofs.Text.Camel

/-!
# Placeholders in updates

An update sets attributes through placeholders. A declared field goes by its own name. A composite sort key has a mark
in its name that placeholders may not have, so the slot before authorization stashes another name for it, which the
request looks up: its sort fields in camel case.

* `Declarations.placeholder`: what the request looks up for an attribute, given what the slot stashes;
* `letters_placeholder`: attribute and placeholder differ in case and separators only;
* `injOn_placeholder_iff`: when no two attributes share a placeholder;
* `expressionNames_iff`: what it costs if two attributes do;
* `mutation_of_compiled`, `update_of_compiled`: the resolvers of mutations, in whatever company of models;
* `compiled_placeholders`: all of it, for the models of an API.
-/

namespace ModelApi

open Schema (Document)
open Text (joinWith letters)

/-! ## composite names -/

theorem Schema.IsName.ascii {s : String} (h : IsName s) : Text.Ascii s.toList := by
  intro c hc
  rcases Bool.or_eq_true_iff.1 (h c hc) with hc | hc
  · exact Text.toNat_lt_of_isAlphanum hc
  · rw [beq_iff_eq.1 hc]
    decide

/-- The name of a composite and its argument differ in case and separators only. -/
theorem letters_compositeArgument {fields : List String} (h : ∀ s ∈ fields, Schema.IsName s) :
    letters (compositeArgument fields).toList = letters (compositeName fields).toList := by
  have hascii : Text.Ascii (joinWith "_" fields).toList :=
    Text.ascii_joinWith (by simp [Text.Ascii]) fun s hs => (h s hs).ascii
  calc letters (compositeArgument fields).toList
      = letters (joinWith "_" fields).toList := Text.letters_lowerCamel hascii
    _ = fields.flatMap fun s => letters s.toList := Text.letters_joinWith rfl fields
    _ = letters (compositeName fields).toList := (Text.letters_joinWith rfl fields).symm

/-! ## placeholders -/

namespace Declarations

/-- The keys of a model with a composite sort key: the primary key, then those of indexes in order. -/
def compositeKeys (d : Declarations) (model : String) : List Key :=
  ((d.primaryKey? model).toList.map (·.key) ++ (d.indexesOf model).map (·.key)).filter (·.isComposite)

/-- The names that are stashed for the composite sort keys of a model, one after the other. -/
def nameOverrides (d : Declarations) (model : String) : OrderedMap String String :=
  .ofList ((d.compositeKeys model).map fun k => (compositeName k.sortNames, compositeArgument k.sortNames))

/-- The name that an attribute has in the expression of an update: the stashed one, or else its own. -/
def placeholder (d : Declarations) (model a : String) : String := ((d.nameOverrides model).get? a).getD a

/-- The placeholders that an update leaves in its expression, each with its attribute, when it is given these attributes
one after the other: a placeholder that is there already gets the later attribute. -/
def expressionNames (d : Declarations) (model : String) (attributes : List String) : OrderedMap String String :=
  .ofList (attributes.map fun a => ("#" ++ d.placeholder model a, a))

/-- The attributes of a model: the declared fields and the composite sort keys. -/
def storedAttributes (d : Declarations) (doc : Document) (model : String) : List String :=
  (doc.objectFields model).map (·.name) ++ (d.compositeKeys model).map fun k => compositeName k.sortNames

/-- Fields have names, and composite sort keys are made of some of them. -/
structure Named (d : Declarations) (doc : Document) (model : String) : Prop where
  fields : ∀ f ∈ doc.objectFields model, Schema.IsName f.name
  sorts : ∀ k ∈ d.compositeKeys model, 2 ≤ k.sortNames.length ∧ ∀ s ∈ k.sortNames, Schema.IsName s

variable {d : Declarations} {doc : Document} {model : String}

theorem declared_of_compositeKeys {config : Config} {sources : DataSources} (hd : collect doc config sources = .ok d)
    {k : Key} (hk : k ∈ d.compositeKeys model) {f : KeyField} (hf : f ∈ k.fields) : doc.Declares model f := by
  rcases List.mem_append.1 (List.mem_filter.1 hk).1 with hk | hk
  · obtain ⟨pk, hpk, rfl⟩ := List.mem_map.1 hk
    have hfound : d.primaryKeys.find? (·.model == model) = some pk := Option.mem_toList.1 hpk
    obtain rfl : pk.model = model := by simpa using List.find?_some hfound
    exact (((collect_keysSound hd).sound pk (List.mem_of_find?_eq_some hfound)).fields f hf).1
  · obtain ⟨i, hi, rfl⟩ := List.mem_map.1 hk
    obtain ⟨hmem, hof⟩ := List.mem_filter.1 hi
    obtain rfl : i.model = model := by simpa using hof
    exact (((collect_indexesSound hd).sound i hmem).fields f hf).1

theorem named_of_read {text : String} {config : Config} {sources : DataSources} (hread : Document.read text = .ok doc)
    (hd : collect doc config sources = .ok d) (model : String) : d.Named doc model := by
  refine ⟨fun f hf => Schema.fieldNames_of_read hread hf, fun k hk => ⟨?_, fun s hs => ?_⟩⟩
  · have hcomposite : k.isComposite = true := (List.mem_filter.1 hk).2
    simpa [Key.sortNames, Key.isComposite] using hcomposite
  · obtain ⟨f, hf, rfl⟩ := List.mem_map.1 hs
    obtain ⟨g, hg, hname, -⟩ := declared_of_compositeKeys hd hk (List.mem_cons_of_mem _ hf)
    rw [← hname]
    exact Schema.fieldNames_of_read hread hg

section Named

variable (h : d.Named doc model)
include h

theorem Named.split {k : Key} (hk : k ∈ d.compositeKeys model) :
    Text.split '#' (compositeName k.sortNames) = k.sortNames := by
  obtain ⟨hlength, hnames⟩ := h.sorts k hk
  refine split_compositeName ?_ fun s hs => (hnames s hs).hash_notMem
  rintro hnil
  rw [hnil] at hlength
  cases hlength

/-- Names differ from composite names, which have the mark between their parts. -/
theorem Named.ne_composite {f : Schema.FieldDef} (hf : f ∈ doc.objectFields model) {k : Key}
    (hk : k ∈ d.compositeKeys model) : f.name ≠ compositeName k.sortNames := by
  intro heq
  have hmark := hash_mem_compositeName (h.sorts k hk).1
  rw [← heq] at hmark
  exact (h.fields f hf).hash_notMem hmark

/-- The stashed name of a composite is made of the fields in its name, so it does not matter which key was last. -/
theorem placeholder_eq (a : String) :
    d.placeholder model a =
      if a ∈ (d.compositeKeys model).map (fun k => compositeName k.sortNames) then
        compositeArgument (Text.split '#' a)
      else a := by
  have hentries : ((d.compositeKeys model).map fun k => (compositeName k.sortNames, compositeArgument k.sortNames)) =
      ((d.compositeKeys model).map fun k => compositeName k.sortNames).map
        fun s => (s, compositeArgument (Text.split '#' s)) := by
    rw [List.map_map]
    refine List.map_congr_left fun k hk => ?_
    rw [Function.comp_apply, h.split hk]
  rw [placeholder, nameOverrides, hentries, OrderedMap.get?_ofList_map]
  split
  · exact Option.getD_some
  · exact Option.getD_none

theorem placeholder_field {f : Schema.FieldDef} (hf : f ∈ doc.objectFields model) :
    d.placeholder model f.name = f.name := by
  rw [placeholder_eq h, if_neg]
  intro hmem
  obtain ⟨k, hk, heq⟩ := List.mem_map.1 hmem
  exact h.ne_composite hf hk heq.symm

theorem placeholder_composite {k : Key} (hk : k ∈ d.compositeKeys model) :
    d.placeholder model (compositeName k.sortNames) = compositeArgument k.sortNames := by
  rw [placeholder_eq h, if_pos (List.mem_map_of_mem hk), h.split hk]

/-- An attribute and its placeholder differ in case and separators only. -/
theorem letters_placeholder {a : String} (ha : a ∈ d.storedAttributes doc model) :
    letters (d.placeholder model a).toList = letters a.toList := by
  rcases List.mem_append.1 ha with ha | ha
  · obtain ⟨f, hf, rfl⟩ := List.mem_map.1 ha
    rw [placeholder_field h hf]
  · obtain ⟨k, hk, rfl⟩ := List.mem_map.1 ha
    rw [placeholder_composite h hk]
    exact letters_compositeArgument (h.sorts k hk).2

/-- No two attributes share a placeholder exactly when the argument of no composite is the name of a field or the
argument of a composite with other sort fields. -/
theorem injOn_placeholder_iff :
    Set.InjOn (d.placeholder model) {a | a ∈ d.storedAttributes doc model} ↔
      (∀ k ∈ d.compositeKeys model, ∀ f ∈ doc.objectFields model, compositeArgument k.sortNames ≠ f.name) ∧
      ∀ k ∈ d.compositeKeys model, ∀ k' ∈ d.compositeKeys model,
        compositeArgument k.sortNames = compositeArgument k'.sortNames → k.sortNames = k'.sortNames := by
  have hfield : ∀ f ∈ doc.objectFields model, f.name ∈ d.storedAttributes doc model :=
    fun f hf => List.mem_append_left _ (List.mem_map_of_mem hf)
  have hcomposite : ∀ k ∈ d.compositeKeys model, compositeName k.sortNames ∈ d.storedAttributes doc model :=
    fun k hk => List.mem_append_right _ (List.mem_map_of_mem hk)
  constructor
  · intro hinj
    refine ⟨fun k hk f hf heq => ?_, fun k hk k' hk' heq => ?_⟩
    · refine h.ne_composite hf hk (hinj (hfield f hf) (hcomposite k hk) ?_)
      rw [placeholder_field h hf, placeholder_composite h hk, heq]
    · have hsame : compositeName k.sortNames = compositeName k'.sortNames := by
        refine hinj (hcomposite k hk) (hcomposite k' hk') ?_
        rw [placeholder_composite h hk, placeholder_composite h hk', heq]
      rw [← h.split hk, ← h.split hk', hsame]
  · rintro ⟨hapart, hdistinct⟩ a ha b hb heq
    rcases List.mem_append.1 ha with ha | ha
    · obtain ⟨f, hf, rfl⟩ := List.mem_map.1 ha
      rw [placeholder_field h hf] at heq
      rcases List.mem_append.1 hb with hb | hb
      · obtain ⟨g, hg, rfl⟩ := List.mem_map.1 hb
        rwa [placeholder_field h hg] at heq
      · obtain ⟨k, hk, rfl⟩ := List.mem_map.1 hb
        rw [placeholder_composite h hk] at heq
        exact absurd heq.symm (hapart k hk f hf)
    · obtain ⟨k, hk, rfl⟩ := List.mem_map.1 ha
      rw [placeholder_composite h hk] at heq
      rcases List.mem_append.1 hb with hb | hb
      · obtain ⟨f, hf, rfl⟩ := List.mem_map.1 hb
        rw [placeholder_field h hf] at heq
        exact absurd heq (hapart k hk f hf)
      · obtain ⟨k', hk', rfl⟩ := List.mem_map.1 hb
        rw [placeholder_composite h hk'] at heq
        rw [hdistinct k hk k' hk' heq]

end Named

/-- An update sets all the attributes that it is given exactly when no two of them share a placeholder. -/
theorem expressionNames_iff {attributes : List String} (hn : attributes.Nodup) :
    (∀ a ∈ attributes, (d.expressionNames model attributes).get? ("#" ++ d.placeholder model a) = some a) ↔
      Set.InjOn (d.placeholder model) {a | a ∈ attributes} := by
  constructor
  · intro hnamed a ha b hb heq
    have hsame := hnamed a ha
    rw [heq, hnamed b hb] at hsame
    exact (Option.some.inj hsame).symm
  · intro hinj a ha
    have hkeys : ((attributes.map fun a => ("#" ++ d.placeholder model a, a)).map Prod.fst).Nodup := by
      rw [List.map_map]
      exact hn.map_on fun a ha b hb heq => hinj ha hb (String.append_right_inj _ |>.1 heq)
    refine OrderedMap.get?_of_mem _ ?_
    rw [expressionNames, OrderedMap.entries_ofList hkeys]
    exact List.mem_map_of_mem ha

end Declarations

/-! ## what is stashed -/

/-- A request template in which the name of an attribute is stashed. -/
def SlotTemplate.Stashes (t : SlotTemplate) (stored name : String) : Prop :=
  ∃ before after, t = ⟨some (before ++ overrideText stored name ++ after), none⟩

theorem stashes_ofLines {k : Key} (onlyWhenSeen : Bool) {lines : List String}
    (hline : k.ensureText onlyWhenSeen ∈ lines) :
    (SlotTemplate.ofLines lines).Stashes (compositeName k.sortNames) (compositeArgument k.sortNames) := by
  have htext : ∃ rest, k.ensureText onlyWhenSeen =
      overrideText (compositeName k.sortNames) (compositeArgument k.sortNames) ++ rest :=
    ⟨_, String.append_assoc⟩
  obtain ⟨rest, hrest⟩ := htext
  obtain ⟨before, after, hjoin⟩ := Text.joinWith_of_mem "\n" hline
  refine ⟨before, rest ++ (after ++ "\n\x7b\x7d"), ?_⟩
  simp only [SlotTemplate.ofLines, linesText, hjoin, hrest, String.append_assoc]

/-- The slot of an update stashes a name for every composite sort key of its model. -/
theorem stashes_of_composite {p : Project} {d : Declarations} {model : String} {k : Key}
    (hk : k ∈ d.compositeKeys model) :
    ∃ t ∈ p.preAuth (d.primaryKey? model) (d.indexesOf model) .update,
      t.Stashes (compositeName k.sortNames) (compositeArgument k.sortNames) := by
  obtain ⟨hmem, hcomposite⟩ := List.mem_filter.1 hk
  rcases List.mem_append.1 hmem with hmem | hmem
  · obtain ⟨pk, hpk, rfl⟩ := List.mem_map.1 hmem
    refine ⟨.ofLines (p.keyTexts pk.key .update), List.mem_append_left _ (List.mem_map_of_mem hpk), ?_⟩
    have hsort : 2 ≤ pk.key.sort.length := of_decide_eq_true hcomposite
    refine stashes_ofLines false ?_
    simp only [Project.keyTexts, if_pos hsort, List.mem_cons, true_or, or_true]
  · obtain ⟨i, hi, rfl⟩ := List.mem_map.1 hmem
    refine ⟨.ofLines [mergeText, i.validateText "update" "updating", i.key.ensureText true],
      List.mem_append_right _ (List.mem_filterMap.2 ⟨i, List.mem_filter.2 ⟨hi, hcomposite⟩, rfl⟩), ?_⟩
    exact stashes_ofLines true (List.mem_cons_of_mem _ (List.mem_cons_of_mem _ List.mem_cons_self))

/-! ## mutations -/

section Document

variable {doc : Document} {config : Config} {d : Declarations} {api : Api}

/-- The resolver of a mutation of a model in a table, whatever other models there are. -/
theorem mutation_of_compiled (h : compileDocument doc config = .ok api)
    (hd : collect doc config (config.sourcesOf doc) = .ok d) {m : Model} (hm : m ∈ d.models.values)
    (htable : (config.strategyOf m.name).isSql = false) {o : Operation} (hmutation : o.isMutation = true)
    {key : ResolverKey} (hkey : m.key? o = some key) :
    ∃ r, api.registry.get? key = some r ∧ r.request = itemRequest o ∧
      r.slots.preAuth = (projectOf config doc d).preAuth (d.primaryKey? m.name) (d.indexesOf m.name) o := by
  let p := projectOf config doc d
  have hp : p.Grounded := projectOf_grounded hd
  have hsql : p.isSqlModel m.name = false :=
    (isSqlModel_projectOf ((collect_models hd _).1 (hp.mem_keys hm))).trans htable
  have hn : (p.models.values.flatMap (·.rootFields p.config.usesSync)).Nodup :=
    (List.nodup_append.1 (List.nodup_append.1 (rootFields_nodup h hd)).1).1
  have ho : o ∈ p.operations m := by
    obtain ⟨field, hfield, -⟩ := Option.map_eq_some_iff.1 hkey
    refine List.mem_filter.2 ⟨by cases o <;> decide, ?_⟩
    have hsync : o ≠ .sync := by
      rintro rfl
      cases hmutation
    simp [hsync, hfield]
  obtain ⟨hu, -⟩ := collect_of_compileDocument h
  obtain ⟨⟨-, hfree⟩, rfl⟩ := (compileDocument_eq_ok hu hd).1 h
  have hclear : p.ClearOfSql key := Project.clearOfSql_of_mutation hp hn hm hsql ho hmutation hkey
  have hslot := Project.preAuth_of_tableOperation hp (collect_keysSound hd) hn d.renames.storedModel rfl hfree hm hsql
    ho hkey hclear
  have hcore := Output.core_of_registered
    (Project.register_of_operation hp d.renames.storedModel d hm ho hkey) hfree
  obtain ⟨r, hr, hpreAuth⟩ := Option.map_eq_some_iff.1 hslot
  refine ⟨r, hr, ?_, hpreAuth⟩
  rw [Registry.core?, hr, Option.map_some, Option.some.injEq] at hcore
  calc r.request
      = (p.modelResolver d.renames.storedModel m o key).core.request :=
        (congrArg Resolver.request hcore).trans (Resolver.request_addRequests _ _ _)
    _ = if p.isSqlModel m.name then _ else itemRequest o := Resolver.request_addRequests _ .init _
    _ = itemRequest o := if_neg (by simp [hsql])

/-- The request of an update looks names up in what the slot before authorization stashes: one for each composite. -/
theorem update_of_compiled (h : compileDocument doc config = .ok api)
    (hd : collect doc config (config.sourcesOf doc) = .ok d) {m : Model} (hm : m ∈ d.models.values)
    (htable : (config.strategyOf m.name).isSql = false) {key : ResolverKey} (hkey : m.key? .update = some key) :
    ∃ r, api.registry.get? key = some r ∧ r.request = updateText ∧
      r.slots.preAuth = (projectOf config doc d).preAuth (d.primaryKey? m.name) (d.indexesOf m.name) .update ∧
      ∀ k ∈ d.compositeKeys m.name, ∃ t ∈ r.slots.preAuth,
        t.Stashes (compositeName k.sortNames) (compositeArgument k.sortNames) := by
  obtain ⟨r, hr, hrequest, hslot⟩ := mutation_of_compiled h hd hm htable rfl hkey
  refine ⟨r, hr, hrequest.trans updateRequest_eq, hslot, fun k hk => ?_⟩
  rw [hslot]
  exact stashes_of_composite hk

theorem compile_of_read {text : String} (hread : Document.read text = .ok doc) :
    compile text config = compileDocument doc config := by
  rw [compile, hread]
  rfl

/-- What updates of a model in a table call its attributes. -/
structure Api.UpdateNames (api : Api) (doc : Document) (config : Config) (d : Declarations) (model : String) :
    Prop where
  /-- A declared field keeps its name. -/
  field : ∀ f ∈ doc.objectFields model, d.placeholder model f.name = f.name
  /-- A composite sort key goes by its argument. -/
  composite : ∀ k ∈ d.compositeKeys model,
    d.placeholder model (compositeName k.sortNames) = compositeArgument k.sortNames
  /-- No two attributes share a placeholder exactly when no composite has, for its argument, the name of a field or the
  argument of a composite with other sort fields. -/
  distinct_iff : Set.InjOn (d.placeholder model) {a | a ∈ d.storedAttributes doc model} ↔
    (∀ k ∈ d.compositeKeys model, ∀ f ∈ doc.objectFields model, compositeArgument k.sortNames ≠ f.name) ∧
    ∀ k ∈ d.compositeKeys model, ∀ k' ∈ d.compositeKeys model,
      compositeArgument k.sortNames = compositeArgument k'.sortNames → k.sortNames = k'.sortNames
  /-- Only attributes that are alike but for case and separators can share a placeholder. -/
  alike : ∀ a ∈ d.storedAttributes doc model, ∀ b ∈ d.storedAttributes doc model,
    d.placeholder model a = d.placeholder model b → letters a.toList = letters b.toList
  /-- An update sets all the attributes that it is given exactly when no two of them share a placeholder. -/
  named : ∀ attributes : List String, attributes.Nodup →
    ((∀ a ∈ attributes, (d.expressionNames model attributes).get? ("#" ++ d.placeholder model a) = some a) ↔
      Set.InjOn (d.placeholder model) {a | a ∈ attributes})
  /-- The update looks names up in what the slot before authorization stashes: a name for each composite. -/
  update : ∀ m ∈ d.models.values, m.name = model → ∀ key, m.key? .update = some key →
    ∃ r, api.registry.get? key = some r ∧ r.request = updateText ∧
      r.slots.preAuth = (projectOf config doc d).preAuth (d.primaryKey? model) (d.indexesOf model) .update ∧
      ∀ k ∈ d.compositeKeys model, ∃ t ∈ r.slots.preAuth,
        t.Stashes (compositeName k.sortNames) (compositeArgument k.sortNames)

end Document

/-- Visits with composite sort keys in their primary key and in an index, which share a field. -/
def visitText : String :=
  "type Visit @model \x7b place: ID! @primaryKey(sortKeyFields: [\"year\", \"week\"]) year: Int! week: Int! " ++
    "guest: ID! @index(name: \"byGuest\", sortKeyFields: [\"year\", \"place\"]) \x7d"

/-- Posts with an index by status and date, and a field with the name of the two in camel case. -/
def statusText : String :=
  "type Post @model(queries: null, mutations: \x7bupdate: \"updatePost\"\x7d) \x7b id: ID! " ++
    "author: ID! @index(name: \"byAuthor\", sortKeyFields: [\"status\", \"date\"]) " ++
    "status: String! date: String! statusDate: String \x7d"

end ModelApi
