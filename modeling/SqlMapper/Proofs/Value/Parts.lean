import SqlMapper.Value.Basic

namespace SqlMapper.Value

inductive Within (w : Value) : Value → Prop where
  | self : Within w w
  | item {items : List Value} {v : Value} (mem : v ∈ items) (h : Within w v) : Within w (array items)
  | field {fields : List (String × Value)} {name : String} {v : Value} (mem : (name, v) ∈ fields)
    (h : Within w v) : Within w (object fields)

/-- `P` holds of the value and of all that is within it. -/
def Throughout (P : Value → Prop) (v : Value) : Prop := ∀ w : Value, w.Within v → P w

variable {P : Value → Prop} {v : Value}

theorem throughout_iff (ha : v.isArray = false) (ho : v.isObject = false) : v.Throughout P ↔ P v := by
  refine ⟨fun h => h v .self, fun h w hw => ?_⟩
  cases hw with
  | self => exact h
  | item => cases ha
  | field => cases ho

theorem throughout_array_iff {items : List Value} :
    (array items).Throughout P ↔ P (array items) ∧ ∀ v ∈ items, v.Throughout P := by
  constructor
  · exact fun h => ⟨h _ .self, fun v hv w hw => h w (.item hv hw)⟩
  · rintro ⟨h, hitems⟩ w hw
    cases hw with
    | self => exact h
    | item mem hw => exact hitems _ mem w hw

theorem throughout_object_iff {fields : List (String × Value)} :
    (object fields).Throughout P ↔ P (object fields) ∧ ∀ e ∈ fields, e.2.Throughout P := by
  constructor
  · exact fun h => ⟨h _ .self, fun e he w hw => h w (.field he hw)⟩
  · rintro ⟨h, hfields⟩ w hw
    cases hw with
    | self => exact h
    | field mem hw => exact hfields _ mem w hw

end SqlMapper.Value
