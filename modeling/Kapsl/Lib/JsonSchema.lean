import Kapsl.Lib.JsonText

/-!
# Lib/JsonSchema — schemas of documents, and when a value is accepted

The part of JSON Schema in which an object lists all its properties.  `accepts` decides; what a
composite schema asks of a value is said by one lemma each (`accepts_array`, `accepts_object`,
`accepts_oneOf`), so that a proof follows the document.
-/

namespace JsonText

/-- A schema. -/
inductive Schema
  /-- `"type": "integer"` with both bounds. -/
  | integer (minimum maximum : ℤ)
  /-- `"type": "string"`. -/
  | string (minLength : ℕ)
  /-- `"type": "string"` with a pattern from `^` to `$`, given by what may stand at each place. -/
  | pattern (places : List (List CodePoint))
  | boolean
  | const (value : Value)
  | array (minItems : ℕ) (uniqueItems : Bool) (items : Schema)
  /-- `"type": "object"` without additional properties. -/
  | object (required : List String) (properties : List (String × Schema))
  | oneOf (alternatives : List Schema)

/-- Whether a text has one of the given code points at each place, and no other place. -/
def matchesPlaces : List (List CodePoint) → Text → Bool
  | [], [] => true
  | place :: places, c :: s => place.contains c && matchesPlaces places s
  | _, _ => false

theorem matchesPlaces_iff {places : List (List CodePoint)} {s : Text} :
    matchesPlaces places s = true ↔ List.Forall₂ (fun place c => c ∈ place) places s := by
  induction places generalizing s with
  | nil =>
    rw [List.forall₂_nil_left_iff]
    rcases s with _ | ⟨c, s⟩ <;> simp [matchesPlaces]
  | cons place places ih =>
    rcases s with _ | ⟨c, s⟩
    · simp [matchesPlaces]
    · rw [matchesPlaces, Bool.and_eq_true, List.contains_iff_mem, ih, List.forall₂_cons]

/-- A place that is repeated takes any text of that length over what may stand there. -/
theorem forall₂_replicate {α β : Type*} {R : α → β → Prop} {a : α} {bs : List β}
    (h : ∀ b ∈ bs, R a b) : List.Forall₂ R (List.replicate bs.length a) bs := by
  induction bs with
  | nil => exact .nil
  | cons b bs ih =>
    obtain ⟨hb, hbs⟩ := List.forall_mem_cons.mp h
    exact .cons hb (ih hbs)

namespace Schema

mutual

/-- Whether a value satisfies a schema. -/
def accepts : Schema → Value → Bool
  | .integer minimum maximum, .int n => decide (minimum ≤ n) && decide (n ≤ maximum)
  | .string minLength, .text s => decide (minLength ≤ s.length)
  | .pattern places, .text s => matchesPlaces places s
  | .boolean, .bool _ => true
  | .const value, v => decide (v = value)
  | .array minItems uniqueItems items, .list vs =>
    decide (minItems ≤ vs.length) && (!uniqueItems || decide vs.Nodup) && vs.all (accepts items)
  | .object required properties, .dict fields =>
    (required.all fun key => fields.any fun field => field.1 == key) &&
      fields.all fun field => acceptsProperty properties field.1 field.2
  | .oneOf alternatives, v => accepting alternatives v == 1
  | _, _ => false

/-- Whether the schema of a property accepts a value; a property that is not listed has none. -/
def acceptsProperty : List (String × Schema) → String → Value → Bool
  | [], _, _ => false
  | (key, schema) :: properties, name, v =>
    if name = key then accepts schema v else acceptsProperty properties name v

/-- How many schemas accept a value. -/
def accepting : List Schema → Value → ℕ
  | [], _ => 0
  | schema :: alternatives, v => (if accepts schema v then 1 else 0) + accepting alternatives v

end

attribute [local simp] accepts

variable {v : Value}

@[simp] theorem accepts_integer {minimum maximum n : ℤ} :
    (Schema.integer minimum maximum).accepts (.int n) = true ↔ minimum ≤ n ∧ n ≤ maximum := by
  simp

@[simp] theorem accepts_string {minLength : ℕ} {s : Text} :
    (Schema.string minLength).accepts (.text s) = true ↔ minLength ≤ s.length := by
  simp

theorem accepts_pattern {places : List (List CodePoint)} {s : Text} :
    (Schema.pattern places).accepts (.text s) = true ↔
      List.Forall₂ (fun place c => c ∈ place) places s := by
  rw [accepts, matchesPlaces_iff]

@[simp] theorem accepts_boolean {b : Bool} : Schema.boolean.accepts (.bool b) = true := by
  simp

@[simp] theorem accepts_const {value : Value} :
    (Schema.const value).accepts v = true ↔ v = value := by
  rcases v with _ | _ | _ | _ | _ <;> simp

theorem accepts_array {minItems : ℕ} {uniqueItems : Bool} {items : Schema} {vs : List Value} :
    (Schema.array minItems uniqueItems items).accepts (.list vs) = true ↔
      minItems ≤ vs.length ∧ (uniqueItems = true → vs.Nodup) ∧
        ∀ v ∈ vs, items.accepts v = true := by
  simp only [accepts, Bool.and_eq_true, decide_eq_true_eq, List.all_eq_true, and_assoc,
    Bool.or_eq_true, Bool.not_eq_true', ← Bool.not_eq_true, imp_iff_not_or]

/-- **A dict is accepted** if it has the required keys, and each of its fields is accepted by the
property of its key. -/
theorem accepts_object {required : List String} {properties : List (String × Schema)}
    {fields : List (String × Value)} :
    (Schema.object required properties).accepts (.ofFields fields) = true ↔
      (∀ key ∈ required, key ∈ fields.map Prod.fst) ∧
        ∀ field ∈ fields, acceptsProperty properties field.1 field.2 = true := by
  have hperm := List.perm_insertionSort (fun a b : String × Value => a.1 ≤ b.1) fields
  simp only [Value.ofFields, accepts, Bool.and_eq_true, List.all_eq_true, List.any_eq_true,
    beq_iff_eq, hperm.mem_iff, List.mem_map]

theorem accepts_oneOf {alternatives : List Schema} :
    (Schema.oneOf alternatives).accepts v = true ↔ accepting alternatives v = 1 := by
  rcases v with _ | _ | _ | _ | _ <;> simp

end Schema

end JsonText
