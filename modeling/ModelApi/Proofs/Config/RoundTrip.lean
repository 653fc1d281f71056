import ModelApi.Config.Decode
import ModelApi.Config.Encode
import ModelApi.Proofs.Json.Decoding

/-!
# Configurations survive being written and read

Every record of a configuration is written with all of its fields, in the order in which they are declared, and reading
it gives it back. A strategy takes two readings: its members are put aside while the tag is looked for, so they must be
free of faults at the depth where the strategy stands, and none of them may be taken for the tag.

* one lemma `undoes_*` for each record;
* `undoes_strategy`: a strategy, at every depth that leaves room for its members;
* `Config.restored_from_json`: the whole configuration, from every source.
-/

namespace ModelApi.Decode

variable {source : Source}

/-- Null stands for nothing, so a value must not be encoded as null. -/
theorem Undoes.optional {α : Type} {decode : Draft → Except Problem α} {encode : α → Json} (h : Undoes decode encode)
    (hnull : ∀ a, Draft.ofJson (encode a) ≠ .null) : Undoes (optional decode) (optionJson encode) := by
  rintro (_ | a)
  · rfl
  · have hsome : Decode.optional decode (.ofJson (encode a)) = (decode (.ofJson (encode a))).map some := by
      rw [Decode.optional]
      exact hnull a
    rw [optionJson, hsome, h a]
    rfl

/-! ## relational databases -/

theorem undoes_connection : Undoes (connection.decode source) (·.toJson) := fun c =>
  Shape.decode_of_reads (by decide)
    (.field (undoes_text c.hostname) (.field (undoes_text c.port) (.field (undoes_text c.username)
      (.field (undoes_text c.password) (.field (undoes_text c.databaseName) (.nil _)))))) rfl

theorem undoes_subnet : Undoes (subnet.decode source) (·.toJson) := fun s =>
  Shape.decode_of_reads (by decide)
    (.field (undoes_text s.subnetId) (.field (undoes_text s.availabilityZone) (.nil _))) rfl

theorem undoes_vpc : Undoes (vpc.decode source) (·.toJson) := fun v =>
  Shape.decode_of_reads (by decide)
    (.field (undoes_text v.vpcId) (.field (undoes_text.items v.securityGroupIds)
      (.field (undoes_subnet.items v.subnets) (.nil _)))) rfl

theorem undoes_concurrency : Undoes (concurrency.decode source) concurrencyJson := fun n =>
  Shape.decode_of_reads (by decide) (.field (undoes_word32 n) (.nil _)) rfl

theorem undoes_sqlSource : Undoes (sqlSource.decode source) fun s => .obj s.members := by
  intro s
  have hvpc : Undoes (Decode.optional (vpc.decode source)) (optionJson (·.toJson)) := undoes_vpc.optional nofun
  have hconcurrency : Undoes (Decode.optional (concurrency.decode source)) (optionJson concurrencyJson) :=
    undoes_concurrency.optional nofun
  exact Shape.decode_of_reads (by decide)
    (.field (undoes_text s.name) (.field (undoes_connection s.connection) (.field (hvpc s.vpc)
      (.field (undoes_text.dictionary s.statements) (.field (hconcurrency s.concurrency) (.nil _)))))) rfl

/-! ## strategies -/

theorem undoes_provisioning : Undoes (provisioning source) fun p => .str p.tag :=
  undoes_choice (by rintro (_ | _) <;> decide) source

theorem undoes_tableSource :
    Undoes (tableSource.decode source) fun p => .obj [("provisionStrategy", .str p.tag)] := fun p =>
  Shape.decode_of_reads (by decide) (.field (undoes_provisioning p) (.nil _)) rfl

/-- Reading the tag puts aside all members that are not called like it. -/
theorem splitTag_ofMembers {depth : Nat} (tag : Option DbType) {members : List (String × Json)}
    (hnames : ∀ m ∈ members, m.1 ≠ tagName) (hfits : ∀ m ∈ members, m.2.Fits depth) :
    splitTag source depth tag (Draft.ofMembers members) = .ok (tag, Draft.ofMembers members) := by
  induction members with
  | nil => rfl
  | cons m members ih =>
    obtain ⟨name, v⟩ := m
    have haside : putAside source ((Draft.ofJson v).readFault depth) = .ok () := by
      have hnone : (Draft.ofJson v).readFault depth = none := hfits (name, v) List.mem_cons_self
      rw [hnone, putAside]
      split <;> rfl
    have hrest := ih (fun m hm => hnames m (List.mem_cons_of_mem _ hm)) fun m hm => hfits m (List.mem_cons_of_mem _ hm)
    have hname : name ≠ tagName := hnames (name, v) List.mem_cons_self
    unfold Draft.ofMembers splitTag
    rw [if_neg hname, haside, hrest]
    rfl

theorem tagged_tag (kind : DbType) : tagged (.ofJson (.str kind.tag)) = .ok kind := by
  cases kind <;> rfl

/-- A strategy comes down to what stands behind its tag. -/
theorem strategy_of_tag {depth : Nat} (kind : DbType) {members : List (String × Json)} {s : Strategy}
    (hnames : ∀ m ∈ members, m.1 ≠ tagName) (hfits : ∀ m ∈ members, m.2.Fits (depth + 1))
    (h : strategyOf kind (.ofJson (.obj members)) = .ok s) :
    strategy depth source (.ofJson (.obj ((tagName, .str kind.tag) :: members))) = .ok s := by
  have hsplit : splitTag source (depth + 1) none (Draft.ofMembers ((tagName, .str kind.tag) :: members)) =
      .ok (some kind, Draft.ofMembers members) := by
    rw [Draft.ofMembers, splitTag, if_pos rfl, tagged_tag, ← splitTag_ofMembers (some kind) hnames hfits]
    rfl
  rw [Draft.ofJson, strategy, hsplit]
  exact h

theorem fits_vpc {depth : Nat} (hdepth : depth + 2 < Draft.deepest) (v : Vpc) : v.toJson.Fits depth := by
  have hids : (Json.strs v.securityGroupIds).Fits (depth + 1) := Json.fits_arr (by omega) (by simp)
  have hsubnets : (Json.arr (v.subnets.map (·.toJson))).Fits (depth + 1) := by
    refine Json.fits_arr (by omega) fun w hw => ?_
    obtain ⟨s, _, rfl⟩ := List.mem_map.1 hw
    exact Json.fits_obj (by omega) (by simp)
  exact Json.fits_obj (by omega) (by simp [hids, hsubnets])

theorem fits_optionJson {α : Type} {depth : Nat} {encode : α → Json} (h : ∀ a, (encode a).Fits depth) :
    ∀ o, (optionJson encode o).Fits depth
  | none => Json.fits_null
  | some a => h a

theorem fits_members {depth : Nat} (hdepth : depth + 2 < Draft.deepest) (s : SqlSource) :
    ∀ m ∈ s.members, m.2.Fits depth := by
  have hconnection : s.connection.toJson.Fits depth := Json.fits_obj (by omega) (by simp)
  have hvpc : (optionJson (·.toJson) s.vpc).Fits depth := fits_optionJson (fits_vpc hdepth) s.vpc
  have hstatements : (Json.ofMapWith .str s.statements).Fits depth :=
    Json.fits_ofMapWith s.statements (by omega) Json.fits_str
  have hconcurrency : (optionJson concurrencyJson s.concurrency).Fits depth :=
    fits_optionJson (fun n => Json.fits_obj (by omega) (by simp)) s.concurrency
  simp [SqlSource.members, hconnection, hvpc, hstatements, hconcurrency]

theorem tagName_notMem_members (s : SqlSource) : ∀ m ∈ s.members, m.1 ≠ tagName := by
  simp [SqlSource.members, tagName]

/-- The kind that a strategy was written as is the kind it is read as. Its members are nested in at most three arrays
and objects. -/
theorem undoes_strategy {depth : Nat} (hdepth : depth + 3 < Draft.deepest) :
    Undoes (strategy depth source) (·.toJson) := by
  intro s
  cases s with
  | dynamodb p =>
    refine strategy_of_tag .dynamodb (by simp [tagName]) (by simp) ?_
    exact congrArg (Except.map Strategy.dynamodb) (undoes_tableSource p)
  | mysql s =>
    refine strategy_of_tag .mysql (tagName_notMem_members s) (fits_members (by omega) s) ?_
    exact congrArg (Except.map Strategy.mysql) (undoes_sqlSource s)
  | postgres s =>
    refine strategy_of_tag .postgres (tagName_notMem_members s) (fits_members (by omega) s) ?_
    exact congrArg (Except.map Strategy.postgres) (undoes_sqlSource s)

/-! ## configurations -/

theorem undoes_customSql : Undoes (customSql.decode source) (·.toJson) := by
  intro c
  have hroot : Undoes (choice [("Query", SqlRoot.query), ("Mutation", SqlRoot.mutation)] source)
      fun root => .str root.typeName := undoes_choice (by rintro (_ | _) <;> decide) source
  have hstrategy : Undoes (strategy 3 source) (·.toJson) := undoes_strategy (by decide)
  exact Shape.decode_of_reads (by decide)
    (.field (hroot c.root) (.field (undoes_text c.fieldName) (.field (hstrategy c.strategy) (.nil _)))) rfl

theorem undoes_parameters : Undoes (parameters.decode source) (·.toJson) := fun p =>
  Shape.decode_of_reads (by decide)
    (.field (undoes_flag p.sandboxMode) (.field (undoes_flag p.secondaryKeyAsGsi) (.nil _))) rfl

theorem undoes_sync : Undoes (sync.decode source) (·.toJson) := by
  intro s
  have hhandler : Undoes (conflictHandler source) fun handler => .str handler.tag :=
    undoes_choice (by rintro (_ | _ | _) <;> decide) source
  exact Shape.decode_of_reads (by decide)
    (.field (hhandler s.conflictHandler) (.field (undoes_word32 s.deltaTtl) (.nil _))) rfl

theorem undoes_config : Undoes (config.decode source) (·.toJson) := by
  intro c
  have hsync : Undoes (Decode.optional (sync.decode source)) (optionJson (·.toJson)) := undoes_sync.optional nofun
  have hsources : Undoes (dataSources 1 source) (.ofMapWith (·.toJson)) :=
    Undoes.dictionary (undoes_strategy (by decide))
  have hdefault : Undoes (Decode.optional (strategy 1 source)) (optionJson (·.toJson)) :=
    (undoes_strategy (by decide)).optional nofun
  exact Shape.decode_of_reads (by decide)
    (.field (undoes_parameters c.parameters) (.field (hsync c.sync) (.field (hsources c.dataSources)
      (.field (hdefault c.defaultDataSource) (.field (undoes_customSql.items c.customSql)
        (.field (undoes_text.dictionary c.sqlStatements) (.nil _))))))) rfl

end ModelApi.Decode

namespace ModelApi

/-! ## what is written lists no name twice -/

theorem proper_optionJson {α : Type} {encode : α → Json} (h : ∀ a, (encode a).Proper) :
    ∀ o, (optionJson encode o).Proper
  | none => Json.proper_null
  | some a => h a

theorem proper_listJson {α : Type} {encode : α → Json} (h : ∀ a, (encode a).Proper) (l : List α) :
    (Json.arr (l.map encode)).Proper := by
  refine Json.proper_arr fun v hv => ?_
  obtain ⟨a, _, rfl⟩ := List.mem_map.1 hv
  exact h a

theorem Vpc.proper_toJson (v : Vpc) : v.toJson.Proper := by
  have hids : (Json.strs v.securityGroupIds).Proper := proper_listJson Json.proper_str _
  have hsubnets : (Json.arr (v.subnets.map (·.toJson))).Proper :=
    proper_listJson (fun s => Json.proper_obj (by simp) (by simp)) _
  exact Json.proper_obj (by simp) (by simp [hids, hsubnets])

theorem SqlSource.proper_members (s : SqlSource) : ∀ m ∈ s.members, m.2.Proper := by
  have hconnection : s.connection.toJson.Proper := Json.proper_obj (by simp) (by simp)
  have hvpc : (optionJson (·.toJson) s.vpc).Proper := proper_optionJson Vpc.proper_toJson s.vpc
  have hstatements : (Json.ofMapWith .str s.statements).Proper := Json.proper_ofMapWith s.statements Json.proper_str
  have hconcurrency : (optionJson concurrencyJson s.concurrency).Proper :=
    proper_optionJson (fun n => Json.proper_obj (by simp) (by simp)) s.concurrency
  simp [SqlSource.members, hconnection, hvpc, hstatements, hconcurrency]

theorem Strategy.proper_toJson (s : Strategy) : s.toJson.Proper := by
  cases s with
  | dynamodb p => exact Json.proper_obj (by simp) (by simp)
  | mysql s | postgres s =>
    refine Json.proper_obj (by simp [SqlSource.members]) ?_
    simpa using fun name v hm => s.proper_members (name, v) hm

theorem Config.proper_toJson (c : Config) : c.toJson.Proper := by
  have hparameters : c.parameters.toJson.Proper := Json.proper_obj (by simp) (by simp)
  have hsync : (optionJson (·.toJson) c.sync).Proper :=
    proper_optionJson (fun s => Json.proper_obj (by simp) (by simp)) c.sync
  have hsources : (Json.ofMapWith (·.toJson) c.dataSources).Proper :=
    Json.proper_ofMapWith c.dataSources Strategy.proper_toJson
  have hdefault : (optionJson (·.toJson) c.defaultDataSource).Proper :=
    proper_optionJson Strategy.proper_toJson c.defaultDataSource
  have hcustom : (Json.arr (c.customSql.map (·.toJson))).Proper :=
    proper_listJson (fun s => Json.proper_obj (by simp) (by simp [s.strategy.proper_toJson])) c.customSql
  have hstatements : (Json.ofMapWith .str c.sqlStatements).Proper :=
    Json.proper_ofMapWith c.sqlStatements Json.proper_str
  exact Json.proper_obj (by simp) (by simp [hparameters, hsync, hsources, hdefault, hcustom, hstatements])

/-- A configuration is read back from what it is written as: with every map in its order and every strategy of its kind,
whether the value comes as text or in another form. What is written lists no name twice, so no member is lost when the
value is kept as a map. -/
theorem Config.restored_from_json (c : Config) :
    Config.ofJson c.toJson = .ok c ∧ (∀ source, Decode.config.decode source (.ofJson c.toJson) = .ok c) ∧
      c.toJson.Proper :=
  ⟨Decode.undoes_config c, fun _ => Decode.undoes_config c, c.proper_toJson⟩

end ModelApi
