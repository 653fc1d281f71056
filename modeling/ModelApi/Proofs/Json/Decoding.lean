import ModelApi.Json.Decode
import ModelApi.Proofs.OrderedMap

/-!
# Decoding what was encoded

A decoder undoes an encoder when it gives back every value from the draft of its encoding. The notion is closed under
the ways in which decoders are built, so the decoder of a large record is treated one record at a time.

* `Undoes`: what it means, with one lemma for each kind of simple data;
* `Reads` and `Shape.decode_of_reads`: a record from the members of its own fields, in order;
* `Json.Fits`: nesting within the limit that holds for values put aside;
* `Json.Proper`: no object lists a name twice, so the value is read back as it is.
-/

namespace ModelApi.Decode

/-- The decoder gives back whatever was encoded. -/
def Undoes {α : Type} (decode : Draft → Except Problem α) (encode : α → Json) : Prop :=
  ∀ a, decode (.ofJson (encode a)) = .ok a

/-! ## simple data -/

theorem undoes_text : Undoes text .str := fun _ => rfl

theorem undoes_flag : Undoes flag .bool := fun _ => rfl

theorem undoes_word32 : Undoes word32 fun n => .int n.toNat := by
  intro n
  have hbound : (0 : Int) ≤ (n.toNat : Int) ∧ (n.toNat : Int).toNat < UInt32.size := by
    have := n.toNat_lt_size
    omega
  calc word32 (.ofJson (.int n.toNat))
      = if (0 : Int) ≤ (n.toNat : Int) ∧ (n.toNat : Int).toNat < UInt32.size then
          .ok (UInt32.ofNat (n.toNat : Int).toNat) else .error (.wrongValue (.num (.int n.toNat)) "u32") := rfl
    _ = .ok n := by rw [if_pos hbound]; simp

/-- A choice by name. Names are tried in order, so each must lead to its own value. -/
theorem undoes_choice {α : Type} {options : List (String × α)} {tag : α → String}
    (h : ∀ a, options.lookup (tag a) = some a) (source : Source) :
    Undoes (choice options source) fun a => .str (tag a) := by
  intro a
  change named options (tag a) = .ok a
  simp only [named, h]

section

variable {α : Type} {decode : Draft → Except Problem α} {encode : α → Json}

theorem mapM_ofItems (h : Undoes decode encode) (l : List α) :
    (Draft.ofItems (l.map encode)).mapM decode = .ok l := by
  induction l with
  | nil => rfl
  | cons a l ih =>
    rw [List.map_cons, Draft.ofItems, List.mapM_cons, h a, ih]
    rfl

theorem Undoes.items (h : Undoes decode encode) : Undoes (items decode) fun l => .arr (l.map encode) := by
  intro l
  rw [Draft.ofJson, Decode.items, mapM_ofItems h]
  rfl

theorem entries_ofMembers (h : Undoes decode encode) (l : List (String × α)) (m : OrderedMap String α) :
    entries decode m (Draft.ofMembers (l.map fun e => (e.1, encode e.2))) =
      .ok (l.foldl (fun m e => m.insert e.1 e.2) m) := by
  induction l generalizing m with
  | nil => rfl
  | cons e l ih =>
    simp only [List.map_cons, Draft.ofMembers, entries, h e.2, List.foldl_cons, ← ih]
    rfl

/-- Entries are put into the map one after the other, so it lists them in the order of the members. -/
theorem Undoes.dictionary (h : Undoes decode encode) : Undoes (dictionary decode) (.ofMapWith encode) := by
  intro m
  rw [Json.ofMapWith, Draft.ofJson, Decode.dictionary, entries_ofMembers h]
  exact congrArg Except.ok m.ofList_entries

end

/-! ## records -/

section

variable {σ α : Type} {source : Source}

/-- Members that stand for fields, one for each and in the same order, lead from one state to another. -/
inductive Reads (source : Source) : List (Field σ) → List (String × Json) → σ → σ → Prop where
  | nil (s : σ) : Reads source [] [] s s
  | cons {field : Field σ} {fields : List (Field σ)} {v : Json} {members : List (String × Json)} {s s' s'' : σ} :
      field.read source (.ofJson v) s = .ok s' → Reads source fields members s' s'' →
      Reads source (field :: fields) ((field.name, v) :: members) s s''

/-- The member of a field that is decoded and then stored. -/
theorem Reads.field {β : Type} {name : String} {decode : Source → Draft → Except Problem β} {store : σ → β → σ}
    {fields : List (Field σ)} {v : Json} {members : List (String × Json)} {s s' : σ} {b : β}
    (h : decode source (.ofJson v) = .ok b) (hrest : Reads source fields members (store s b) s') :
    Reads source (.of name decode store :: fields) ((name, v) :: members) s s' := by
  have hread : (Field.of name decode store).read source (.ofJson v) s = .ok (store s b) := by
    simp only [Field.of, h, Except.map]
  exact .cons hread hrest

theorem find?_field {fields : List (Field σ)} (hnames : (fields.map (·.name)).Nodup) {field : Field σ}
    (h : field ∈ fields) : fields.find? (·.name == field.name) = some field := by
  induction fields with
  | nil => cases h
  | cons first fields ih =>
    rw [List.map_cons, List.nodup_cons] at hnames
    rcases List.mem_cons.1 h with rfl | h
    · exact List.find?_cons_of_pos (beq_self_eq_true _)
    · have hne : first.name ≠ field.name := fun heq => hnames.1 (heq ▸ List.mem_map_of_mem h)
      rw [List.find?_cons_of_neg (by simpa using hne)]
      exact ih hnames.2 h

/-- No member is taken for a duplicate as long as its field has not been seen. -/
theorem Shape.readMembers_of_reads {shape : Shape σ α} (hnames : shape.names.Nodup) {fields : List (Field σ)}
    {members : List (String × Json)} {s s' : σ} (h : Reads source fields members s s') :
    ∀ seen, fields ⊆ shape.fields → (fields.map (·.name)).Nodup → (∀ field ∈ fields, field.name ∉ seen) →
      shape.readMembers source seen s (Draft.ofMembers members) = .ok s' := by
  induction h with
  | nil s => intro _ _ _ _; rfl
  | @cons field fields v members s s' s'' hread _ ih =>
    intro seen hsub hnodup hseen
    have hfind := find?_field hnames (hsub List.mem_cons_self)
    have hfresh : seen.contains field.name = false := by simpa using hseen field List.mem_cons_self
    rw [List.map_cons, List.nodup_cons] at hnodup
    have hrest := ih (field.name :: seen) (fun f hf => hsub (List.mem_cons_of_mem _ hf)) hnodup.2 fun f hf => by
      rw [List.mem_cons, not_or]
      refine ⟨fun heq => hnodup.1 ?_, hseen f (List.mem_cons_of_mem _ hf)⟩
      exact heq ▸ List.mem_map_of_mem hf
    simp only [Draft.ofMembers, Shape.readMembers, hfind, hfresh, hread, ← hrest]
    rfl

/-- A record whose members are those of its fields is what the state that they lead to is finished as. -/
theorem Shape.decode_of_reads {shape : Shape σ α} (hnames : shape.names.Nodup) {members : List (String × Json)} {s : σ}
    {a : α} (h : Reads source shape.fields members shape.start s)
    (hfinish : shape.finish (fun _ name => .missingField name) s = .ok a) :
    shape.decode source (.ofJson (.obj members)) = .ok a := by
  have hread := readMembers_of_reads hnames h [] (fun _ hf => hf) hnames (fun _ _ => List.not_mem_nil)
  rw [Draft.ofJson, Shape.decode, hread, ← hfinish]
  rfl

end

end ModelApi.Decode

namespace ModelApi.Json

/-! ## values that are put aside -/

/-- The value can be put aside inside `depth` arrays and objects. -/
def Fits (depth : Nat) (v : Json) : Prop := (Draft.ofJson v).readFault depth = none

section

variable {depth : Nat}

@[simp] theorem fits_null : Fits depth .null := rfl

@[simp] theorem fits_str (s : String) : Fits depth (.str s) := rfl

@[simp] theorem fits_int (n : Int) : Fits depth (.int n) := rfl

theorem fits_arr {items : List Json} (hdepth : depth < Draft.deepest) (h : ∀ v ∈ items, Fits (depth + 1) v) :
    Fits depth (.arr items) := by
  have hitems : Draft.readItemsFault (depth + 1) (Draft.ofItems items) none = none := by
    induction items with
    | nil => rfl
    | cons v items ih =>
      have hv : (Draft.ofJson v).readFault (depth + 1) = none := h v List.mem_cons_self
      rw [Draft.ofItems, Draft.readItemsFault, hv]
      exact ih fun w hw => h w (List.mem_cons_of_mem _ hw)
  rw [Fits, Draft.ofJson, Draft.readFault, if_neg (Nat.not_le.2 hdepth), hitems]

theorem fits_obj {members : List (String × Json)} (hdepth : depth < Draft.deepest)
    (h : ∀ m ∈ members, Fits (depth + 1) m.2) : Fits depth (.obj members) := by
  have hmembers : Draft.readMembersFault (depth + 1) (Draft.ofMembers members) none = none := by
    induction members with
    | nil => rfl
    | cons m members ih =>
      have hm : (Draft.ofJson m.2).readFault (depth + 1) = none := h m List.mem_cons_self
      rw [Draft.ofMembers, Draft.readMembersFault, hm]
      exact ih fun w hw => h w (List.mem_cons_of_mem _ hw)
  rw [Fits, Draft.ofJson, Draft.readFault, if_neg (Nat.not_le.2 hdepth), Option.map_none, hmembers]

theorem fits_ofMapWith {α : Type} {f : α → Json} (m : OrderedMap String α) (hdepth : depth < Draft.deepest)
    (h : ∀ a, Fits (depth + 1) (f a)) : Fits depth (.ofMapWith f m) := by
  refine fits_obj hdepth fun member hm => ?_
  obtain ⟨e, _, rfl⟩ := List.mem_map.1 hm
  exact h e.2

end

/-! ## values without repeated names -/

/-- The value is read back as it is: no object in it lists a name twice. -/
def Proper (v : Json) : Prop := (Draft.ofJson v).toJson = .ok v

@[simp] theorem proper_null : Proper .null := rfl

@[simp] theorem proper_bool (b : Bool) : Proper (.bool b) := rfl

@[simp] theorem proper_str (s : String) : Proper (.str s) := rfl

@[simp] theorem proper_int (n : Int) : Proper (.int n) := rfl

theorem proper_arr {items : List Json} (h : ∀ v ∈ items, Proper v) : Proper (.arr items) := by
  have hitems : Draft.toItems (Draft.ofItems items) = .ok items := by
    induction items with
    | nil => rfl
    | cons v items ih =>
      have hv : (Draft.ofJson v).toJson = .ok v := h v List.mem_cons_self
      rw [Draft.ofItems, Draft.toItems, hv, ih fun w hw => h w (List.mem_cons_of_mem _ hw)]
      rfl
  rw [Proper, Draft.ofJson, Draft.toJson, hitems]
  rfl

theorem proper_obj {members : List (String × Json)} (hnames : (members.map Prod.fst).Nodup)
    (h : ∀ m ∈ members, Proper m.2) : Proper (.obj members) := by
  have hmembers : Draft.toMembers (Draft.ofMembers members) = .ok members := by
    clear hnames
    induction members with
    | nil => rfl
    | cons m members ih =>
      have hm : (Draft.ofJson m.2).toJson = .ok m.2 := h m List.mem_cons_self
      rw [Draft.ofMembers, Draft.toMembers, hm, ih fun w hw => h w (List.mem_cons_of_mem _ hw)]
      rfl
  rw [Proper, Draft.ofJson, Draft.toJson, hmembers]
  exact congrArg (fun l => Except.ok (Json.obj l)) (OrderedMap.entries_ofList hnames)

theorem proper_ofMapWith {α : Type} {f : α → Json} (m : OrderedMap String α) (h : ∀ a, Proper (f a)) :
    Proper (.ofMapWith f m) := by
  refine proper_obj ?_ fun member hm => ?_
  · rw [List.map_map]
    exact m.nodup
  · obtain ⟨e, _, rfl⟩ := List.mem_map.1 hm
    exact h e.2

end ModelApi.Json
