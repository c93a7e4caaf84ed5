import SqlMapper.Proofs.Value.Parts
import SqlMapper.Value.Json

namespace SqlMapper

theorem Value.ofInteger_toInt (n : Int64) : ofInteger n.toInt = int n := by
  rw [ofInteger, if_pos ⟨n.minValue_le_toInt, n.toInt_le⟩, Int64.ofInt_toInt]

theorem Value.ofInteger_octet (o : UInt8) : ofInteger o.toNat = int (.ofNat o.toNat) := by
  have ho : o.toNat < 256 := o.toNat_lt
  have hfits : Int64.minValue.toInt ≤ o.toNat ∧ (o.toNat : Int) ≤ Int64.maxValue.toInt := by
    rw [Int64.toInt_minValue, Int64.toInt_maxValue]
    omega
  rw [ofInteger, if_pos hfits, Int64.ofInt_eq_ofNat]

namespace Value

mutual

/-- The value with null for each float that is not finite, and for each byte string the array of its
octets. -/
def plain : Value → Value
  | null => null
  | bool b => bool b
  | int n => int n
  | float x => if x.isFinite then float x else null
  | string s => string s
  | bytes octets => array (octets.map fun o => int (.ofNat o.toNat))
  | array items => array (plainItems items)
  | object fields => object (plainFields fields)

def plainItems : List Value → List Value
  | [] => []
  | v :: vs => v.plain :: plainItems vs

def plainFields : List (String × Value) → List (String × Value)
  | [] => []
  | (n, v) :: vs => (n, v.plain) :: plainFields vs

end

/-- JSON has a form for the value, if it has one for each of its parts. -/
def HasJsonForm : Value → Prop
  | float x => x.isFinite = true
  | bytes _ => False
  | _ => True

mutual

theorem plain_eq_self_iff : ∀ v : Value, v.plain = v ↔ v.Throughout HasJsonForm
  | null | bool _ | int _ | float _ | string _ | bytes _ => by
    rw [throughout_iff rfl rfl]
    simp [plain, HasJsonForm]
  | array items => by
    simp [plain, throughout_array_iff, HasJsonForm, plainItems_eq_self_iff items]
  | object fields => by
    simp [plain, throughout_object_iff, HasJsonForm, plainFields_eq_self_iff fields]

theorem plainItems_eq_self_iff : ∀ items : List Value,
    plainItems items = items ↔ ∀ v ∈ items, v.Throughout HasJsonForm
  | [] => by simp [plainItems]
  | v :: vs => by simp [plainItems, plain_eq_self_iff v, plainItems_eq_self_iff vs]

theorem plainFields_eq_self_iff : ∀ fields : List (String × Value),
    plainFields fields = fields ↔ ∀ e ∈ fields, e.2.Throughout HasJsonForm
  | [] => by simp [plainFields]
  | (_, v) :: vs => by simp [plainFields, plain_eq_self_iff v, plainFields_eq_self_iff vs]

end

end Value

namespace Json

inductive Within (k : Json) : Json → Prop where
  | self : Within k k
  | item {items : List Json} {j : Json} (mem : j ∈ items) (h : Within k j) : Within k (array items)
  | member {members : List (String × Json)} {name : String} {j : Json} (mem : (name, j) ∈ members)
    (h : Within k j) : Within k (object members)

def isLeaf : Json → Bool
  | array _ | object _ => false
  | _ => true

def Throughout (P : Json → Prop) (j : Json) : Prop := ∀ k : Json, k.Within j → P k

/-- Values have integers of 64 bits. -/
def HasValue : Json → Prop
  | integer n => Int64.minValue.toInt ≤ n ∧ n ≤ Int64.maxValue.toInt
  | _ => True

variable {P : Json → Prop} {j : Json}

theorem throughout_iff (hleaf : j.isLeaf = true) : j.Throughout P ↔ P j := by
  refine ⟨fun h => h j .self, fun h k hk => ?_⟩
  cases hk with
  | self => exact h
  | item | member => cases hleaf

theorem throughout_array_iff {items : List Json} :
    (array items).Throughout P ↔ P (array items) ∧ ∀ j ∈ items, j.Throughout P := by
  constructor
  · exact fun h => ⟨h _ .self, fun j hj k hk => h k (.item hj hk)⟩
  · rintro ⟨h, hitems⟩ k hk
    cases hk with
    | self => exact h
    | item mem hk => exact hitems _ mem k hk

theorem throughout_object_iff {members : List (String × Json)} :
    (object members).Throughout P ↔ P (object members) ∧ ∀ e ∈ members, e.2.Throughout P := by
  constructor
  · exact fun h => ⟨h _ .self, fun e he k hk => h k (.member he hk)⟩
  · rintro ⟨h, hmembers⟩ k hk
    cases hk with
    | self => exact h
    | member mem hk => exact hmembers _ mem k hk

theorem itemsToValues_octets (octets : List UInt8) :
    itemsToValues (octets.map fun o => integer o.toNat) =
      octets.map fun o => Value.int (.ofNat o.toNat) := by
  induction octets with
  | nil => rfl
  | cons o octets ih =>
    rw [List.map_cons, itemsToValues, toValue, Value.ofInteger_octet, ih, List.map_cons]

mutual

theorem toValue_ofValue : ∀ v : Value, (ofValue v).toValue = v.plain
  | .null => rfl
  | .bool _ => rfl
  | .int n => Value.ofInteger_toInt n
  | .float x => by
    unfold ofValue Value.plain
    split <;> rfl
  | .string _ => rfl
  | .bytes octets => by
    rw [ofValue, toValue, itemsToValues_octets, Value.plain]
  | .array items => by rw [ofValue, toValue, itemsToValues_itemsOfValues items, Value.plain]
  | .object fields => by rw [ofValue, toValue, membersToFields_membersOfFields fields, Value.plain]

theorem itemsToValues_itemsOfValues : ∀ items : List Value,
    itemsToValues (itemsOfValues items) = Value.plainItems items
  | [] => rfl
  | v :: vs => by
    rw [itemsOfValues, itemsToValues, toValue_ofValue v, itemsToValues_itemsOfValues vs, Value.plainItems]

theorem membersToFields_membersOfFields : ∀ fields : List (String × Value),
    membersToFields (membersOfFields fields) = Value.plainFields fields
  | [] => rfl
  | (n, v) :: vs => by
    rw [membersOfFields, membersToFields, toValue_ofValue v, membersToFields_membersOfFields vs,
      Value.plainFields]

end

theorem ofValue_ofInteger_iff (n : Int) : ofValue (.ofInteger n) = integer n ↔
    Int64.minValue.toInt ≤ n ∧ n ≤ Int64.maxValue.toInt := by
  unfold Value.ofInteger
  split
  · next h =>
    have hfits := h
    rw [Int64.toInt_minValue, Int64.toInt_maxValue] at hfits
    refine ⟨fun _ => h, fun _ => ?_⟩
    rw [ofValue, Int64.toInt_ofInt_of_le (by omega) (by omega)]
  · next h =>
    refine ⟨fun heq => ?_, fun h' => absurd h' h⟩
    unfold ofValue at heq
    split at heq <;> cases heq

mutual

theorem ofValue_toValue_iff : ∀ j : Json, ofValue j.toValue = j ↔ j.Throughout HasValue
  | null | bool _ | string _ => by
    rw [throughout_iff rfl]
    simp [toValue, ofValue, HasValue]
  | float x => by
    rw [throughout_iff rfl]
    simp [toValue, ofValue, HasValue, x.property]
  | integer n => by
    rw [throughout_iff rfl]
    exact ofValue_ofInteger_iff n
  | array items => by
    simp [toValue, ofValue, throughout_array_iff, HasValue, itemsOfValues_itemsToValues_iff items]
  | object members => by
    simp [toValue, ofValue, throughout_object_iff, HasValue, membersOfFields_membersToFields_iff members]

theorem itemsOfValues_itemsToValues_iff : ∀ items : List Json,
    itemsOfValues (itemsToValues items) = items ↔ ∀ j ∈ items, j.Throughout HasValue
  | [] => by simp [itemsToValues, itemsOfValues]
  | j :: js => by
    simp [itemsToValues, itemsOfValues, ofValue_toValue_iff j, itemsOfValues_itemsToValues_iff js]

theorem membersOfFields_membersToFields_iff : ∀ members : List (String × Json),
    membersOfFields (membersToFields members) = members ↔ ∀ e ∈ members, e.2.Throughout HasValue
  | [] => by simp [membersToFields, membersOfFields]
  | (_, j) :: js => by
    simp [membersToFields, membersOfFields, ofValue_toValue_iff j, membersOfFields_membersToFields_iff js]

end

/-- A value comes back from JSON with null for its floats that are not finite and arrays for its byte strings,
so it comes back as it was if and only if it has neither. A document comes back as it was if and only if its
integers have 64 bits. -/
theorem round_trip :
    (∀ v : Value, (ofValue v).toValue = v.plain ∧
      ((ofValue v).toValue = v ↔ v.Throughout Value.HasJsonForm)) ∧
    ∀ j : Json, ofValue j.toValue = j ↔ j.Throughout HasValue := by
  refine ⟨fun v => ⟨toValue_ofValue v, ?_⟩, ofValue_toValue_iff⟩
  rw [toValue_ofValue v]
  exact Value.plain_eq_self_iff v

/-- A byte string deep inside becomes the array of its octets, and an infinite float null. -/
example : (ofValue (.object [("k", .array [.bytes [0, 255], .float (.ofBits 0x7ff0000000000000), .int 7])])).toValue =
    .object [("k", .array [.array [.int 0, .int 255], .null, .int 7])] := by decide +kernel

end Json

end SqlMapper
