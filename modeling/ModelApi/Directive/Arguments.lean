import ModelApi.Directive.Basic
import ModelApi.Json.Decode

/-!
# Arguments of directives

The arguments of a directive are decoded as a record that refuses unknown fields. For some arguments of `@model` an
explicit null is not the same as no argument.
-/

namespace ModelApi

open Decode

/-- The arguments as a JSON object; of arguments with one name the last counts, at the first place. -/
def Schema.Directive.argumentsJson (d : Schema.Directive) : Json :=
  .ofMap (.ofList (d.arguments.map fun a => (a.1, a.2.toJson)))

/-- The arguments of a directive, decoded. -/
def Schema.Directive.decode {σ α : Type} (shape : Shape σ α) (d : Schema.Directive) : Except Problem α :=
  shape.decode .value (.ofJson d.argumentsJson)

/-- An optional text field. -/
def Decode.Field.ofOptionalText {σ : Type} (name : String) (store : σ → Option String → σ) : Field σ :=
  .of name (fun _ => optional text) store

/-! ## models -/

/-- The names that `@model` gives to queries. -/
structure QueryNames where
  get : Option String := none
  list : Option String := none
  sync : Option String := none
  deriving DecidableEq, Repr

/-- The names that `@model` gives to mutations. -/
structure MutationNames where
  create : Option String := none
  update : Option String := none
  delete : Option String := none
  deriving DecidableEq, Repr

/-- The arguments of `@model`. The outer option says whether an argument is given, the inner one whether it is null. -/
structure ModelArguments where
  queries : Option (Option QueryNames) := none
  mutations : Option (Option MutationNames) := none
  timestamps : Option (Option Timestamps) := none
  deriving DecidableEq, Repr

namespace Decode

def queryNames : Shape QueryNames QueryNames where
  name := "ModelQueries"
  strict := true
  start := {}
  fields := [
    .ofOptionalText "get" fun s v => { s with get := v },
    .ofOptionalText "list" fun s v => { s with list := v },
    .ofOptionalText "sync" fun s v => { s with sync := v }]
  finish _ s := .ok s

def mutationNames : Shape MutationNames MutationNames where
  name := "ModelMutations"
  strict := true
  start := {}
  fields := [
    .ofOptionalText "create" fun s v => { s with create := v },
    .ofOptionalText "update" fun s v => { s with update := v },
    .ofOptionalText "delete" fun s v => { s with delete := v }]
  finish _ s := .ok s

/-- Timestamps that are listed; the others are not kept. -/
def timestamps : Shape Timestamps Timestamps where
  name := "Timestamps"
  strict := true
  start := ⟨none, none⟩
  fields := [
    .ofOptionalText "createdAt" fun s v => { s with createdAt := v },
    .ofOptionalText "updatedAt" fun s v => { s with updatedAt := v }]
  finish _ s := .ok s

/-- Subscriptions may be anything: they are not generated here. -/
def modelArguments : Shape ModelArguments ModelArguments where
  name := "ModelArguments"
  strict := true
  start := {}
  fields := [
    .of "queries" (fun source => optional (queryNames.decode source)) fun s v => { s with queries := some v },
    .of "mutations" (fun source => optional (mutationNames.decode source)) fun s v => { s with mutations := some v },
    .of "timestamps" (fun source => optional (timestamps.decode source)) fun s v => { s with timestamps := some v },
    ⟨"subscriptions", fun _ _ s => .ok s⟩]
  finish _ s := .ok s

end Decode

/-! ## keys -/

/-- The arguments of `@index`. -/
structure IndexArguments where
  name : Option String := none
  sortFields : List String := []
  queryField : Option String := none
  deriving DecidableEq, Repr

namespace Decode

/-- The sort fields of a primary key. -/
def primaryKeyArguments : Shape (List String) (List String) where
  name := "PrimaryKeyArguments"
  strict := true
  start := []
  fields := [.of "sortKeyFields" (fun _ => items text) fun _ v => v]
  finish _ s := .ok s

def indexArguments : Shape IndexArguments IndexArguments where
  name := "IndexArguments"
  strict := true
  start := {}
  fields := [
    .ofOptionalText "name" fun s v => { s with name := v },
    .of "sortKeyFields" (fun _ => items text) fun s v => { s with sortFields := v },
    .ofOptionalText "queryField" fun s v => { s with queryField := v }]
  finish _ s := .ok s

end Decode

/-! ## statements and names -/

/-- The arguments of `@sql`. -/
structure SqlArguments where
  statement : Option String := none
  reference : Option String := none
  deriving DecidableEq, Repr

namespace Decode

def sqlArguments : Shape SqlArguments SqlArguments where
  name := "SqlArguments"
  strict := true
  start := {}
  fields := [
    .ofOptionalText "statement" fun s v => { s with statement := v },
    .ofOptionalText "reference" fun s v => { s with reference := v }]
  finish _ s := .ok s

/-- The name that a model or field is stored under. -/
def nameArgument : Shape (Option String) String where
  name := "NameArguments"
  strict := true
  start := none
  fields := [.ofText "name" fun _ v => some v]
  finish problem s := needed problem 0 "name" s

end Decode

end ModelApi
