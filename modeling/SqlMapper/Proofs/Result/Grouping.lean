import SqlMapper.Proofs.Session.Recall
import SqlMapper.Proofs.Value.Firsts

namespace SqlMapper

open Fallible

namespace Grouping

/-- A new key comes last; an old one has its value replaced where it is. -/
theorem insertInto_cases (key value : Value) (entries : List (Value × Value)) :
    ((∀ e ∈ entries, e.1.equals key = false) ∧
      insertInto key value entries = entries ++ [(key, value)]) ∨
    ∃ before k v after, entries = before ++ (k, v) :: after ∧
      (∀ e ∈ before, e.1.equals key = false) ∧ k.equals key = true ∧
      insertInto key value entries = before ++ (k, value) :: after := by
  induction entries with
  | nil => exact .inl ⟨nofun, rfl⟩
  | cons e entries ih =>
    obtain ⟨k, v⟩ := e
    by_cases h : k.equals key = true
    · exact .inr ⟨[], k, v, entries, rfl, nofun, h, by simp [insertInto, h]⟩
    · have hk : k.equals key = false := Bool.eq_false_iff.mpr h
      obtain ⟨hnew, heq⟩ | ⟨before, k', v', after, rfl, hbefore, hk', heq⟩ := ih
      · exact .inl ⟨List.forall_mem_cons.mpr ⟨hk, hnew⟩, by simp [insertInto, h, heq]⟩
      · exact .inr ⟨(k, v) :: before, k', v', after, rfl,
          List.forall_mem_cons.mpr ⟨hk, hbefore⟩, hk', by simp [insertInto, h, heq]⟩

/-- Whether a key equals nothing, not even itself. -/
def isAlone (e : Value × Value) : Bool := !e.1.equals e.1

/-- The entry has the row that comes last of those whose keys equal its own. -/
def HasLast (keyed : List (Value × Value)) (e : Value × Value) : Prop :=
  ∃ earlier k later, keyed = earlier ++ (k, e.2) :: later ∧ e.1.equals k = true ∧
    ∀ d ∈ later, e.1.equals d.1 = false

/-- `g` has the rows, each given with its key, grouped by their keys. -/
structure Groups (keyed : List (Value × Value)) (g : Grouping) : Prop where
  /-- The keys are the first of their equals, in the order of the rows. -/
  order : g.keys = Value.firsts (keyed.map Prod.fst)
  last : ∀ e ∈ g.entries, e.1.equals e.1 = true → HasLast keyed e
  /-- The rows whose keys equal nothing have entries of their own. -/
  alone : g.entries.filter isAlone = keyed.filter isAlone

variable {keyed before after : List (Value × Value)} {g : Grouping} {k v key row : Value}

namespace Groups

theorem empty : Groups [] empty := ⟨rfl, nofun, rfl⟩

theorem unequal (h : Groups keyed g) :
    g.keys.Pairwise fun k k' => k.equals k' = false ∧ k'.equals k = false := by
  rw [h.order]
  exact (Value.pairwise_firsts _).imp fun hk => ⟨hk, (Value.equals_comm _ _).trans hk⟩

theorem any_keys (h : Groups keyed g) (key : Value) :
    g.keys.any (·.equals key) = (keyed.map Prod.fst).any (·.equals key) := by
  rw [h.order, Value.any_firsts]

theorem found (h : Groups keyed g) {e : Value × Value} (he : e ∈ keyed)
    (hself : e.1.equals e.1 = true) : ∃ k ∈ g.keys, k.equals e.1 = true := by
  apply List.any_eq_true.mp
  rw [h.any_keys]
  exact List.any_eq_true.mpr ⟨e.1, List.mem_map_of_mem he, hself⟩

end Groups

theorem HasLast.snoc {e : Value × Value} (h : HasLast keyed e) (hkey : e.1.equals key = false) :
    HasLast (keyed ++ [(key, row)]) e := by
  obtain ⟨earlier, k, later, rfl, hk, hlater⟩ := h
  refine ⟨earlier, k, later ++ [(key, row)], by simp, hk, fun d hd => ?_⟩
  obtain hd | hd := List.mem_append.mp hd
  · exact hlater d hd
  · obtain rfl := List.mem_singleton.mp hd
    exact hkey

theorem hasLast_of_equals (h : k.equals key = true) : HasLast (keyed ++ [(key, row)]) (k, row) :=
  ⟨keyed, key, [], rfl, h, nofun⟩

theorem Groups.append (h : Groups keyed g) (hnew : ∀ e ∈ g.entries, e.1.equals key = false) :
    Groups (keyed ++ [(key, row)]) ⟨g.entries ++ [(key, row)]⟩ := by
  have hnone : (keyed.map Prod.fst).any (·.equals key) = false := by
    rw [← h.any_keys]
    simpa [keys] using hnew
  refine ⟨?_, fun e he hself => ?_, ?_⟩
  · rw [List.map_append, List.map_singleton, Value.firsts_concat, hnone, ← h.order, keys,
      List.map_append]
    rfl
  · obtain he | he := List.mem_append.mp he
    · exact (h.last e he hself).snoc (hnew e he)
    · obtain rfl := List.mem_singleton.mp he
      exact hasLast_of_equals hself
  · rw [List.filter_append, h.alone, List.filter_append]

theorem not_equals_of_equals {k' : Value} (h : k.equals k' = false) (hk : k.equals key = true) :
    k'.equals key = false := by
  apply Bool.eq_false_iff.mpr
  intro hk'
  have hkk' : k.equals k' = true := Value.equals_trans hk (Value.equals_symm hk')
  simp [h] at hkk'

theorem Groups.replace (h : Groups keyed ⟨before ++ (k, v) :: after⟩)
    (hbefore : ∀ e ∈ before, e.1.equals key = false) (hk : k.equals key = true) :
    Groups (keyed ++ [(key, row)]) ⟨before ++ (k, row) :: after⟩ := by
  have hsome : (keyed.map Prod.fst).any (·.equals key) = true := by
    rw [← h.any_keys]
    simp [keys, hk]
  have hafter : ∀ e ∈ after, e.1.equals key = false := by
    intro e he
    have hpairs := h.unequal
    simp only [keys, List.map_append, List.map_cons, List.pairwise_append, List.pairwise_cons]
      at hpairs
    exact not_equals_of_equals (hpairs.2.1.1 e.1 (List.mem_map_of_mem he)).1 hk
  refine ⟨?_, fun e he hself => ?_, ?_⟩
  · rw [List.map_append, List.map_singleton, Value.firsts_concat, hsome, if_pos rfl,
      List.append_nil, ← h.order]
    simp [keys]
  · obtain he | he := List.mem_append.mp he
    · exact (h.last e (by simp [he]) hself).snoc (hbefore e he)
    · obtain rfl | he := List.mem_cons.mp he
      · exact hasLast_of_equals hk
      · exact (h.last e (by simp [he]) hself).snoc (hafter e he)
  · have hkself : k.equals k = true := Value.equals_self hk
    have hkeyself : key.equals key = true := Value.equals_self (Value.equals_symm hk)
    have halone := h.alone
    simp only [List.filter_append, List.filter_cons, isAlone, hkself] at halone
    simp only [List.filter_append, ← halone, List.filter_cons, isAlone, hkself, hkeyself]
    simp

theorem Groups.insert (h : Groups keyed g) (key row : Value) :
    Groups (keyed ++ [(key, row)]) (g.insert key row) := by
  obtain ⟨entries⟩ := g
  rw [Grouping.insert]
  obtain ⟨hnew, heq⟩ | ⟨before, k, v, after, rfl, hbefore, hk, heq⟩ :=
    insertInto_cases key row entries
  · rw [heq]
    exact h.append hnew
  · rw [heq]
    exact h.replace hbefore hk

/-- How rows come to be grouped by the property that they have at `key`: the first row without it is an
error. -/
inductive Gathered (key : String) : List Value → Except Error Grouping → Prop where
  | missing {before : List Value} {row : Value} {after : List Value}
    (has : ∀ b ∈ before, (b.property key).isSome = true) (lacks : row.property key = none) :
    Gathered key (before ++ row :: after) (.error (.noSuchProperty key row.typeName))
  | grouped {keyed : List (Value × Value)} {g : Grouping}
    (has : ∀ e ∈ keyed, e.2.property key = some e.1) (groups : Groups keyed g)
    (unequal : g.keys.Pairwise fun k k' => k.equals k' = false ∧ k'.equals k = false)
    (found : ∀ e ∈ keyed, e.1.equals e.1 = true → ∃ k ∈ g.keys, k.equals e.1 = true) :
    Gathered key (keyed.map Prod.snd) (.ok g)

theorem addRows_gathered {key : String} (has : ∀ e ∈ keyed, e.2.property key = some e.1)
    (h : Groups keyed g) (rows : List Value) :
    Gathered key (keyed.map Prod.snd ++ rows) (g.addRows key rows) := by
  induction rows generalizing keyed g with
  | nil =>
    rw [List.append_nil]
    exact .grouped has h h.unequal fun _ => h.found
  | cons row rows ih =>
    rw [addRows]
    cases hrow : row.property key with
    | none =>
      refine .missing (fun b hb => ?_) hrow
      obtain ⟨e, he, rfl⟩ := List.mem_map.mp hb
      rw [has e he]
      rfl
    | some k =>
      have hhas : ∀ e ∈ keyed ++ [(k, row)], e.2.property key = some e.1 := by
        intro e he
        obtain he | he := List.mem_append.mp he
        · exact has e he
        · obtain rfl := List.mem_singleton.mp he
          exact hrow
      have hgathered := ih hhas (h.insert k row)
      rwa [List.map_append, List.append_assoc] at hgathered

theorem ofRows_gathered (key : String) (rows : List Value) :
    Gathered key rows (ofRows key rows) := by
  have hnone : ∀ e ∈ ([] : List (Value × Value)), e.2.property key = some e.1 := nofun
  exact addRows_gathered hnone .empty rows

theorem Gathered.error_iff {key : String} {rows : List Value} {r : Except Error Grouping}
    (h : Gathered key rows r) :
    (∃ e, r = .error e) ↔ ∃ row ∈ rows, row.property key = none := by
  cases h with
  | @missing before row after has lacks => exact ⟨fun _ => ⟨row, by simp, lacks⟩, fun _ => ⟨_, rfl⟩⟩
  | @grouped keyed g has groups unequal found =>
    refine ⟨nofun, ?_⟩
    rintro ⟨row, hrow, hnone⟩
    obtain ⟨e, he, rfl⟩ := List.mem_map.mp hrow
    rw [has e he] at hnone
    cases hnone

end Grouping

namespace Session

variable {config : Configuration} {id : String} {bounds : RowBounds} {rows : List Value} {u v : Scope}

/-- A select for a map groups the rows of its query by their property at `key`: it fails if and only if
one of them has none there, and then the first of these is to blame. -/
theorem selectMap_groups (key : String)
    (h : (query config id bounds none).outcome u = (.ok rows, v)) :
    ∃ r, (selectMap config id key bounds).outcome u = (r, v) ∧
      ((∃ e, r = .error e) ↔ ∃ row ∈ rows, row.property key = none) ∧
      Grouping.Gathered key rows r := by
  have hgathered := Grouping.ofRows_gathered key rows
  exact ⟨_, outcome_bind_of_ok h, hgathered.error_iff, hgathered⟩

end Session

def unevenRow (key : Value) (n : Int64) : Value := .object [("k", key), ("n", .int n)]

def negativeZero : Binary64 := .ofBits 0x8000000000000000

def notANumber : Binary64 := .ofBits Binary64.quietNaN

def unevenKeys : List Value :=
  [.float (.ofInt 0), .float notANumber, .float negativeZero, .float notANumber]

def unevenScope : Scope where
  database := .ofScript ⟨fun _ => [("SELECT 1", .ofRows ["k", "n"]
    ((unevenKeys.zip [1, 2, 3, 4]).map fun e => [e.1, .int e.2]))]⟩
  session := .new .simple (.overSource false none) false
  parameter := .absent
  handled := []

/-- The two zeros are one key, the first of them, and have the later row; each row whose key is not a
number is by itself. -/
theorem zeros_share_key :
    ∃ r v, (Session.query loneConfig "q" .all none).outcome unevenScope =
        (.ok ((unevenKeys.zip [1, 2, 3, 4]).map fun e => unevenRow e.1 e.2), v) ∧
      (Session.selectMap loneConfig "q" "k" .all).outcome unevenScope = (r, v) ∧
      Grouping.Gathered "k" ((unevenKeys.zip [1, 2, 3, 4]).map fun e => unevenRow e.1 e.2) r ∧
      r.toOption = some ⟨[(.float (.ofInt 0), unevenRow (.float negativeZero) 3),
        (.float notANumber, unevenRow (.float notANumber) 2),
        (.float notANumber, unevenRow (.float notANumber) 4)]⟩ := by
  have hrows : (Session.query loneConfig "q" .all none).outcome unevenScope =
      (.ok ((unevenKeys.zip [1, 2, 3, 4]).map fun e => unevenRow e.1 e.2),
        ((Session.query loneConfig "q" .all none).outcome unevenScope).2) := rfl
  obtain ⟨r, hselect, -, hgathered⟩ := Session.selectMap_groups "k" hrows
  have hr : ((Session.selectMap loneConfig "q" "k" .all).outcome unevenScope).1.toOption = some
      ⟨[(.float (.ofInt 0), unevenRow (.float negativeZero) 3),
        (.float notANumber, unevenRow (.float notANumber) 2),
        (.float notANumber, unevenRow (.float notANumber) 4)]⟩ := by decide +kernel
  rw [hselect] at hr
  exact ⟨r, _, hrows, hselect, hgathered, hr⟩

end SqlMapper
