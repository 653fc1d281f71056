import ModelApi.Json.Basic

/-!
# Resolvers

A resolver answers a field of a root type: a request and a response template, with more templates in the slots around
them. The registry holds the resolvers of a compilation in the order in which they were added, one for each field.
-/

namespace ModelApi

/-- The stages around the main templates, in the order in which they run. -/
inductive Slot where
  | init | preAuth | auth | postAuth | preDataLoad | postDataLoad | finish
  deriving DecidableEq, Repr, Inhabited

namespace Slot

def all : List Slot := [.init, .preAuth, .auth, .postAuth, .preDataLoad, .postDataLoad, .finish]

def name : Slot → String
  | .init => "init"
  | .preAuth => "preAuth"
  | .auth => "auth"
  | .postAuth => "postAuth"
  | .preDataLoad => "preDataLoad"
  | .postDataLoad => "postDataLoad"
  | .finish => "finish"

end Slot

/-- A template in a slot; either side may be missing. -/
structure SlotTemplate where
  request : Option String
  response : Option String
  deriving DecidableEq, Repr

/-- A template with a request side only. -/
def SlotTemplate.ofRequest (request : String) : SlotTemplate := ⟨some request, none⟩

/-- The templates of each slot, in order. -/
structure Slots where
  init : List SlotTemplate := []
  preAuth : List SlotTemplate := []
  auth : List SlotTemplate := []
  postAuth : List SlotTemplate := []
  preDataLoad : List SlotTemplate := []
  postDataLoad : List SlotTemplate := []
  finish : List SlotTemplate := []
  deriving DecidableEq, Repr

namespace Slots

/-- The templates of a slot. -/
def get (s : Slots) : Slot → List SlotTemplate
  | .init => s.init
  | .preAuth => s.preAuth
  | .auth => s.auth
  | .postAuth => s.postAuth
  | .preDataLoad => s.preDataLoad
  | .postDataLoad => s.postDataLoad
  | .finish => s.finish

/-- Puts a template behind those that a slot holds. -/
def add (s : Slots) (slot : Slot) (t : SlotTemplate) : Slots :=
  match slot with
  | .init => { s with init := s.init ++ [t] }
  | .preAuth => { s with preAuth := s.preAuth ++ [t] }
  | .auth => { s with auth := s.auth ++ [t] }
  | .postAuth => { s with postAuth := s.postAuth ++ [t] }
  | .preDataLoad => { s with preDataLoad := s.preDataLoad ++ [t] }
  | .postDataLoad => { s with postDataLoad := s.postDataLoad ++ [t] }
  | .finish => { s with finish := s.finish ++ [t] }

theorem get_add (s : Slots) (slot other : Slot) (t : SlotTemplate) :
    (s.add slot t).get other = if other = slot then s.get other ++ [t] else s.get other := by
  cases slot <;> cases other <;> rfl

end Slots

/-- The field that a resolver answers. -/
structure ResolverKey where
  typeName : String
  fieldName : String
  deriving DecidableEq, Repr

def ResolverKey.text (k : ResolverKey) : String := k.typeName ++ "." ++ k.fieldName

/-- The templates of a field. -/
structure Resolver where
  dataSource : Option String
  request : String
  response : String
  /-- The stack the resolver is created in. -/
  stackId : String
  slots : Slots := {}
  deriving DecidableEq, Repr

namespace Resolver

/-- Puts a template behind those that a slot holds. -/
def addToSlot (r : Resolver) (slot : Slot) (t : SlotTemplate) : Resolver := { r with slots := r.slots.add slot t }

/-- Puts a request template behind those that a slot holds. -/
def addRequest (r : Resolver) (slot : Slot) (request : String) : Resolver := r.addToSlot slot (.ofRequest request)

/-- The files of a template at a position of a slot, counted from one. -/
def slotFiles (base : String) (slot : Slot) (position : Nat) (t : SlotTemplate) : List (String × String) :=
  let name := base ++ "." ++ slot.name ++ "." ++ toString position
  (t.request.toList.map fun text => (name ++ ".req.vtl", text)) ++
    (t.response.toList.map fun text => (name ++ ".res.vtl", text))

/-- The files of the templates of a slot from a position on. -/
def slotFilesFrom (base : String) (slot : Slot) : Nat → List SlotTemplate → List (String × String)
  | _, [] => []
  | position, t :: rest => slotFiles base slot position t ++ slotFilesFrom base slot (position + 1) rest

/-- Every template of a resolver with its file name: the main templates, then those of each slot. -/
def files (key : ResolverKey) (r : Resolver) : List (String × String) :=
  [(key.text ++ ".req.vtl", r.request), (key.text ++ ".res.vtl", r.response)] ++
    Slot.all.flatMap fun slot => slotFilesFrom key.text slot 1 (r.slots.get slot)

end Resolver

/-- The resolvers of a compilation. -/
abbrev Registry := OrderedMap ResolverKey Resolver

namespace Registry

/-- Adds a resolver; none when the field is answered already. -/
def add? (r : Registry) (key : ResolverKey) (resolver : Resolver) : Option Registry :=
  if r.contains key then none else some (r.insert key resolver)

/-- Every template by its file name; of templates with one name the last counts. -/
def files (r : Registry) : OrderedMap String String :=
  .ofList (r.entries.flatMap fun e => e.2.files e.1)

end Registry

/-! ## encodings -/

def SlotTemplate.toJson (t : SlotTemplate) : Json :=
  .obj [("request", .strOrNull t.request), ("response", .strOrNull t.response)]

/-- The slots that hold templates. -/
def Slots.toJson (s : Slots) : Json :=
  .obj (Slot.all.filterMap fun slot =>
    match s.get slot with
    | [] => none
    | ts => some (slot.name, .arr (ts.map (·.toJson))))

def Resolver.toJson (key : ResolverKey) (r : Resolver) : Json :=
  .obj [("typeName", .str key.typeName), ("fieldName", .str key.fieldName), ("dataSource", .strOrNull r.dataSource),
    ("requestTemplate", .str r.request), ("responseTemplate", .str r.response), ("stackId", .str r.stackId),
    ("slots", r.slots.toJson)]

def Registry.toJson (r : Registry) : Json := .arr (r.entries.map fun e => e.2.toJson e.1)

end ModelApi
