import Mathlib.Data.List.Forall2
import Mathlib.Data.List.Nodup
import SqlMapper.Result.Mapper

namespace SqlMapper

/-- The label has these words of lower-case letters, with an underscore between any two. -/
structure SnakeCase (words : List (List Char)) (label : String) : Prop where
  some_word : words ≠ []
  letters : ∀ w ∈ words, w ≠ [] ∧ ∀ c ∈ w, c.isLower = true
  label : label.toList = List.intercalate ['_'] words

def capitalize : List Char → List Char
  | [] => []
  | c :: cs => c.toUpper :: cs

/-- The words one after the other, all but the first of them capitalized. -/
def camelWords : List (List Char) → List Char
  | [] => []
  | w :: ws => w ++ ws.flatMap capitalize

def parted (c : Char) : List Char :=
  if c.isUpper then ['_', c.toLower] else [c]

/-- The name with an underscore and the lower-case letter for each upper-case letter. -/
def snakeCase (name : String) : String := String.ofList (name.toList.flatMap parted)

theorem forall_isLower {P : Char → Prop} (h : ∀ k : Fin 26, P (Char.ofNat (97 + k))) {c : Char}
    (hc : c.isLower = true) : P c := by
  obtain ⟨hlow, hhigh⟩ := Bool.and_eq_true_iff.mp hc
  have hlow : 97 ≤ c.toNat := UInt32.le_iff_toNat_le.mp (of_decide_eq_true hlow)
  have hhigh : c.toNat ≤ 122 := UInt32.le_iff_toNat_le.mp (of_decide_eq_true hhigh)
  have hk := h ⟨c.toNat - 97, by omega⟩
  rwa [show 97 + (c.toNat - 97) = c.toNat by omega, Char.ofNat_toNat] at hk

section Letters

variable {c : Char} (hc : c.isLower = true)

include hc

theorem ne_underscore_of_isLower : c ≠ '_' :=
  forall_isLower (P := (· ≠ '_')) (by decide) hc

theorem lower_of_isLower : Text.lower c = [c] :=
  forall_isLower (P := fun c => Text.lower c = [c]) (by decide) hc

theorem upper_of_isLower : Text.upper c = [c.toUpper] :=
  forall_isLower (P := fun c => Text.upper c = [c.toUpper]) (by decide) hc

theorem parted_of_isLower : parted c = [c] :=
  forall_isLower (P := fun c => parted c = [c]) (by decide) hc

theorem parted_toUpper_of_isLower : parted c.toUpper = ['_', c] :=
  forall_isLower (P := fun c => parted c.toUpper = ['_', c]) (by decide) hc

theorem camelCaseFrom_cons (started raise : Bool) (cs : List Char) :
    camelCaseFrom started raise (c :: cs) =
      (if raise then c.toUpper else c) :: camelCaseFrom true false cs := by
  rw [camelCaseFrom, if_neg (ne_underscore_of_isLower hc), lower_of_isLower hc, upper_of_isLower hc]
  cases raise <;> rfl

end Letters

section Words

variable {w : List Char} {words : List (List Char)}

theorem camelCaseFrom_letters (h : ∀ c ∈ w, c.isLower = true) (rest : List Char) :
    camelCaseFrom true false (w ++ rest) = w ++ camelCaseFrom true false rest := by
  induction w with
  | nil => rfl
  | cons c cs ih =>
    obtain ⟨hc, hcs⟩ := List.forall_mem_cons.mp h
    rw [List.cons_append, camelCaseFrom_cons hc, ih hcs]
    rfl

theorem camelCaseFrom_word (hne : w ≠ []) (h : ∀ c ∈ w, c.isLower = true) (started raise : Bool)
    (rest : List Char) : camelCaseFrom started raise (w ++ rest) =
      (if raise then capitalize w else w) ++ camelCaseFrom true false rest := by
  obtain ⟨c, cs, rfl⟩ := List.exists_cons_of_ne_nil hne
  obtain ⟨hc, hcs⟩ := List.forall_mem_cons.mp h
  rw [List.cons_append, camelCaseFrom_cons hc, camelCaseFrom_letters hcs]
  cases raise <;> rfl

theorem camelCaseFrom_words (h : ∀ w ∈ words, w ≠ [] ∧ ∀ c ∈ w, c.isLower = true) :
    camelCaseFrom true false (words.flatMap fun w => '_' :: w) = words.flatMap capitalize := by
  induction words with
  | nil => rfl
  | cons w ws ih =>
    obtain ⟨⟨hne, hw⟩, hws⟩ := List.forall_mem_cons.mp h
    rw [List.flatMap_cons, List.cons_append, camelCaseFrom, if_pos rfl, camelCaseFrom_word hne hw, ih hws]
    rfl

theorem intercalate_cons_eq (w : List Char) (ws : List (List Char)) :
    List.intercalate ['_'] (w :: ws) = w ++ ws.flatMap fun w => '_' :: w := by
  induction ws generalizing w with
  | nil => simp
  | cons next ws ih => rw [List.intercalate_cons_cons, ih, List.flatMap_cons]; simp

theorem flatMap_parted_letters (h : ∀ c ∈ w, c.isLower = true) : w.flatMap parted = w := by
  induction w with
  | nil => rfl
  | cons c cs ih =>
    obtain ⟨hc, hcs⟩ := List.forall_mem_cons.mp h
    rw [List.flatMap_cons, parted_of_isLower hc, ih hcs]
    rfl

theorem flatMap_parted_capitalize (hne : w ≠ []) (h : ∀ c ∈ w, c.isLower = true) :
    (capitalize w).flatMap parted = '_' :: w := by
  obtain ⟨c, cs, rfl⟩ := List.exists_cons_of_ne_nil hne
  obtain ⟨hc, hcs⟩ := List.forall_mem_cons.mp h
  rw [capitalize, List.flatMap_cons, parted_toUpper_of_isLower hc, flatMap_parted_letters hcs]
  rfl

theorem flatMap_parted_words (h : ∀ w ∈ words, w ≠ [] ∧ ∀ c ∈ w, c.isLower = true) :
    (words.flatMap capitalize).flatMap parted = words.flatMap fun w => '_' :: w := by
  induction words with
  | nil => rfl
  | cons w ws ih =>
    obtain ⟨⟨hne, hw⟩, hws⟩ := List.forall_mem_cons.mp h
    rw [List.flatMap_cons, List.flatMap_append, flatMap_parted_capitalize hne hw, ih hws, List.flatMap_cons]

end Words

namespace SnakeCase

variable {words : List (List Char)} {label : String}

theorem camelCase (h : SnakeCase words label) : (camelCase label).toList = camelWords words := by
  obtain ⟨w, ws, rfl⟩ := List.exists_cons_of_ne_nil h.some_word
  obtain ⟨⟨hne, hw⟩, hws⟩ := List.forall_mem_cons.mp h.letters
  rw [SqlMapper.camelCase, String.toList_ofList, h.label, intercalate_cons_eq, camelCaseFrom_word hne hw,
    camelCaseFrom_words hws]
  rfl

theorem snakeCase (h : SnakeCase words label) : snakeCase (SqlMapper.camelCase label) = label := by
  obtain ⟨w, ws, rfl⟩ := List.exists_cons_of_ne_nil h.some_word
  obtain ⟨⟨-, hw⟩, hws⟩ := List.forall_mem_cons.mp h.letters
  rw [SqlMapper.snakeCase, h.camelCase, camelWords, List.flatMap_append, flatMap_parted_letters hw,
    flatMap_parted_words hws, ← intercalate_cons_eq, ← h.label, String.ofList_toList]

end SnakeCase

structure NamedAfter (cell field : String × Value) : Prop where
  name : ∀ words, SnakeCase words cell.1 → field.1.toList = camelWords words
  column : snakeCase field.1 = cell.1
  value : field.2 = cell.2

theorem namedAfter_fieldName {cell : String × Value} (h : ∃ words, SnakeCase words cell.1) :
    NamedAfter cell (fieldName true cell.1, cell.2) := by
  obtain ⟨words, hwords⟩ := h
  exact ⟨fun _ h => h.camelCase, hwords.snakeCase, rfl⟩

theorem nodup_map_fieldName {labels : List String} (h : ∀ label ∈ labels, ∃ words, SnakeCase words label)
    (hdistinct : labels.Nodup) : (labels.map (fieldName true)).Nodup := by
  apply List.Nodup.of_map snakeCase
  have hback : (labels.map (fieldName true)).map snakeCase = labels.map id := by
    rw [List.map_map]
    apply List.map_congr_left
    intro label hlabel
    obtain ⟨words, hwords⟩ := h label hlabel
    exact hwords.snakeCase
  rwa [hback, List.map_id]

/-- Columns in snake case, no two of them the same, become the fields of an object: each one with a name of
its own, in camel case, from which the label can be told, and with the value in the column. -/
theorem RowMapper.byLabel_camelCase (row : Row) (resultType : Option String)
    (hscalar : ∀ name, resultType = some name → ScalarType.named? name = none)
    (hlabels : ∀ label ∈ row.columns, ∃ words, SnakeCase words label) (hdistinct : row.columns.Nodup) :
    ∃ fields named, RowMapper.byLabel true row resultType = .ok (.object fields) ∧
      fields.Perm named ∧ (named.map Prod.fst).Nodup ∧ List.Forall₂ NamedAfter row.cells named := by
  have hnone : resultType.bind ScalarType.named? = none := Option.bind_eq_none_iff.mpr hscalar
  have hnames : ((row.cells.map fun cell => (fieldName true cell.1, cell.2)).map Prod.fst).Nodup := by
    have hnodup := nodup_map_fieldName hlabels hdistinct
    rw [Row.columns, List.map_map] at hnodup
    rwa [List.map_map]
  refine ⟨_, _, ?_, NameMap.ofList_perm hnames, hnames, ?_⟩
  · unfold byLabel
    rw [hnone]
    rfl
  · rw [List.forall₂_map_right_iff, List.forall₂_same]
    exact fun cell hcell => namedAfter_fieldName (hlabels cell.1 (List.mem_map_of_mem hcell))

def userRow : Row := .ofColumns ["user_id", "name", "date_of_birth"] [.int 7, .string "Ann", .null]

theorem userRow_columns : ∀ label ∈ userRow.columns, ∃ words, SnakeCase words label := by
  intro label hlabel
  have hcases : label = "user_id" ∨ label = "name" ∨ label = "date_of_birth" := by
    simpa [userRow, Row.columns, Row.ofColumns] using hlabel
  obtain rfl | rfl | rfl := hcases
  · exact ⟨["user".toList, "id".toList], by decide, by simp, rfl⟩
  · exact ⟨["name".toList], by decide, by simp, rfl⟩
  · exact ⟨["date".toList, "of".toList, "birth".toList], by decide, by simp, rfl⟩

/-- The fields are in the order of their names, not of the columns. -/
theorem user_fields_named :
    (∀ name, some "User" = some name → ScalarType.named? name = none) ∧
    (∀ label ∈ userRow.columns, ∃ words, SnakeCase words label) ∧ userRow.columns.Nodup ∧
    ∃ named, RowMapper.byLabel true userRow (some "User") =
        .ok (.object [("dateOfBirth", .null), ("name", .string "Ann"), ("userId", .int 7)]) ∧
      List.Perm [("dateOfBirth", .null), ("name", .string "Ann"), ("userId", .int 7)] named ∧
      (named.map Prod.fst).Nodup ∧ List.Forall₂ NamedAfter userRow.cells named := by
  have hscalar : ∀ name, some "User" = some name → ScalarType.named? name = none := by
    rintro _ ⟨⟩
    rfl
  have hdistinct : userRow.columns.Nodup := by decide
  obtain ⟨fields, named, hfields, hperm, hnodup, hnamed⟩ :=
    RowMapper.byLabel_camelCase userRow (some "User") hscalar userRow_columns hdistinct
  have hmapped : RowMapper.byLabel true userRow (some "User") =
      .ok (.object [("dateOfBirth", .null), ("name", .string "Ann"), ("userId", .int 7)]) := rfl
  cases hmapped.symm.trans hfields
  exact ⟨hscalar, userRow_columns, hdistinct, named, hmapped, hperm, hnodup, hnamed⟩

end SqlMapper
