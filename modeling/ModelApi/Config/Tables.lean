import ModelApi.Config.Decode
import ModelApi.Toml.Grammar

/-!
# Configurations in TOML

A configuration may also be written as a TOML document. The values of the document are decoded as those of a JSON text
are; all that can be wrong with one is a single outcome.
-/

namespace ModelApi

namespace Toml

mutual
/-- A value as a draft to decode. A date is an object with one member of a reserved name. -/
def Value.draft : Value → ModelApi.Draft
  | .text s => .str (some s)
  | .int n => .num (some (.int n))
  | .real => .num (some (.real (.zero false)))
  | .bool b => .bool b
  | .date s => .obj [(some "$__toml_private_datetime", .str (some s))] none
  | .array items => .arr (draftItems items) none
  | .table _ entries => .obj (draftEntries entries) none
  | .tables items => .arr (draftTables items) none

def draftItems : List Value → List ModelApi.Draft
  | [] => []
  | v :: rest => v.draft :: draftItems rest

def draftEntries : List (String × Value) → List (Option String × ModelApi.Draft)
  | [] => []
  | (key, v) :: rest => (some key, v.draft) :: draftEntries rest

def draftTables : List (List (String × Value)) → List ModelApi.Draft
  | [] => []
  | entries :: rest => .obj (draftEntries entries) none :: draftTables rest
end

end Toml

/-- The configuration that a TOML text writes. -/
def Config.ofTomlText (text : String) : Option Config :=
  (Toml.read text).bind fun root => (Decode.config.decode .tables root.toValue.draft).toOption

end ModelApi
