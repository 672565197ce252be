import Mathlib.Data.List.Forall2
import ResourceAccessors.Stored.Cache

/-!
# The shape of a cache

Which values a cache consists of, told field by field. A stored value is read exactly when it has its
shape, so that a cache with a field of another shape anywhere in it is not read at all.
-/

namespace ResourceAccessors

namespace Stored

open Declaration Generation

/-! ### Shapes -/

/-- A shape of values. -/
abbrev Shape := Json → Prop

namespace Shape

/-- A text. -/
def text : Shape := fun json =>
  ∃ value, json = .string value

/-- A truth value. -/
def flag : Shape := fun json =>
  ∃ value, json = .bool value

/-- Null or a value of some shape. -/
def optional (item : Shape) : Shape := fun json =>
  json = .null ∨ item json

/-- An array of values of one shape. -/
def list (item : Shape) : Shape := fun json =>
  ∃ items, json = .array items ∧ ∀ value ∈ items, item value

/-- An object with values of one shape. -/
def map (item : Shape) : Shape := fun json =>
  ∃ fields, json = .object fields ∧ ∀ field ∈ fields, item field.2

/-- One of some names, or an object with one of these names for null. -/
def name (names : List String) : Shape := fun json =>
  ∃ name ∈ names, json = .string name ∨ json = .object [(name, .null)]

/-- An object with a text under one name. -/
def carrying (name : String) : Shape := fun json =>
  ∃ value, json = .object [(name, .string value)]

/-- An object in which each field has its shape, where a field that is absent is null and none is given
twice; or an array of the fields in their order. -/
def record (parts : List (String × Shape)) : Shape
  | .object fields => ∀ part ∈ parts, ∃ value, fieldNamed fields part.1 = some value ∧ part.2 value
  | .array items => List.Forall₂ (fun part value => part.2 value) parts items
  | _ => False

/-! ### The shapes of stored values -/

def kind : Shape :=
  name ["Struct", "TupleStruct", "UnitStruct", "Enum", "Union"]

def visibility : Shape := fun json =>
  name ["Public", "Crate", "Inherited"] json ∨ carrying "Restricted" json

def arguments : Shape :=
  record [("extension", text), ("path", text), ("before_read", optional text),
    ("after_read", optional text)]

def site : Shape :=
  record [("name", text), ("module_path", list text), ("source_file", text),
    ("visibility", visibility), ("kind", kind), ("impl_generics", text), ("ty_generics", text),
    ("where_clause", text), ("generic_names", list text), ("cfg", list text), ("attribute", arguments)]

def candidate : Shape :=
  record [("path", text), ("file_name", text), ("resource_name", text), ("text", optional text)]

def property : Shape :=
  record [("property_name", text), ("candidate", candidate)]

def plan : Shape :=
  record [("site", site), ("search_path", text), ("search_folder", text), ("properties", list property),
    ("is_design_time_build", flag)]

def options : Shape :=
  record [("is_design_time_build", flag), ("project_dir", text), ("root_namespace", text)]

def file : Shape :=
  record [("path", text), ("text", optional text)]

def planInput : Shape :=
  record [("site", site), ("options", options), ("files", list file)]

def source : Shape :=
  record [("path", text), ("module_path", list text), ("text", text)]

def embedded : Shape :=
  record [("resource_name", text), ("path", text)]

def manifestInput : Shape :=
  record [("entries", list embedded), ("project_dir", text), ("hint_names", list text)]

def artifact : Shape :=
  record [("hint_name", text), ("source", text)]

/-- What one step of a pass leaves: inputs of one shape with outputs of another one. -/
def step (input output : Shape) : Shape :=
  map (record [("input", input), ("output", output)])

def state : Shape :=
  record [("extraction", step source (list site)), ("combine", step planInput plan),
    ("source_output", step plan text), ("manifest", step manifestInput (list artifact))]

end Shape

/-- A reading of exactly the values of a shape. -/
def Accepts {α : Type} (decode : Decoder α) (shape : Shape) : Prop :=
  ∀ json, (decode json).isSome = true ↔ shape json

section Accepts

variable {α β : Type} {decode : Decoder α} {shape : Shape}

/-- What may be absent is accepted exactly where its shape is met. -/
theorem Accepts.optional (accepts : Accepts decode shape) :
    Accepts (optional decode) (.optional shape) := by
  intro json
  cases json with
  | null => simp [Stored.optional, Shape.optional]
  | _ => simp [Stored.optional, Shape.optional, accepts _]

/-- A list is accepted exactly where each item has its shape. -/
theorem Accepts.list (accepts : Accepts decode shape) : Accepts (list decode) (.list shape) := by
  have all : ∀ items, (readAll decode items).isSome = true ↔ ∀ value ∈ items, shape value := by
    intro items
    induction items with
    | nil => simp [readAll]
    | cons first rest ih =>
      rw [List.forall_mem_cons, ← ih, ← accepts first, readAll]
      cases decode first <;> cases readAll decode rest <;> simp
  intro json
  cases json <;> simp [Stored.list, Shape.list, all]

/-- A map is accepted exactly where each value has its shape. -/
theorem Accepts.keyed (accepts : Accepts decode shape) : Accepts (keyed decode) (.map shape) := by
  have all : ∀ fields, (readEntries decode fields).isSome = true ↔ ∀ field ∈ fields, shape field.2 := by
    intro fields
    induction fields with
    | nil => simp [readEntries]
    | cons first rest ih =>
      rw [List.forall_mem_cons, ← ih, ← accepts first.2, readEntries]
      cases decode first.2 <;> cases readEntries decode rest <;> simp
  intro json
  cases json <;> simp [Stored.keyed, Shape.map, all]

/-- The fields of a structure are found when the value is a structure with these fields. -/
theorem record_iff {parts : List (String × Shape)} {json : Json} : Shape.record parts json ↔
    ∃ values, structureFields (parts.map Prod.fst) json = some values ∧
      List.Forall₂ (fun part value => part.2 value) parts values := by
  cases json with
  | object fields =>
    simp only [Shape.record, structureFields]
    induction parts with
    | nil => simp [fieldsNamed]
    | cons first rest ih =>
      rw [List.forall_mem_cons, ih, List.map_cons, fieldsNamed]
      constructor
      · rintro ⟨⟨value, found, fits⟩, values, others, all⟩
        exact ⟨value :: values, by simp [found, others], .cons fits all⟩
      · rintro ⟨values, found, all⟩
        obtain ⟨value, one, found⟩ := Option.bind_eq_some_iff.1 found
        obtain ⟨others, later, found⟩ := Option.bind_eq_some_iff.1 found
        cases found
        cases all with
        | cons fits all => exact ⟨⟨value, one, fits⟩, others, later, all⟩
  | array items =>
    simp only [Shape.record, structureFields]
    constructor
    · intro all
      exact ⟨items, by simp [all.length_eq], all⟩
    · rintro ⟨values, found, all⟩
      split at found
      next =>
        cases found
        exact all
      next => cases found
  | _ => simp [Shape.record, structureFields]

/-- A test that does not look at the value holds when there is a value. -/
theorem any_const (found : Option α) (passes : Bool) :
    found.any (fun _ => passes) = (found.isSome && passes) := by
  cases found <;> rfl

-- the fields of a record one after the other, as shapes and as what is read
attribute [local simp] any_const Option.isSome_bind List.forall₂_cons_left_iff List.forall₂_nil_left_iff

/-- The records of a step are accepted exactly where inputs and outputs have their shapes. -/
theorem Accepts.step {α β : Type} {input : Decoder α} {output : Decoder β} {given computed : Shape}
    (first : Accepts input given) (second : Accepts output computed) :
    Accepts (Stored.keyed (record input output)) (.step given computed) := by
  refine Accepts.keyed fun json => ?_
  rw [record_iff]
  unfold record
  split
  next found => simp [found, first _, second _]
  next => simp_all

end Accepts

end Stored

end ResourceAccessors
