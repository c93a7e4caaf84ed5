namespace SqlMapper

/-- Entries in increasing order of their names, which `insert` keeps. -/
abbrev NameMap (α : Type) := List (String × α)

namespace NameMap

variable {α β : Type}

def get? (name : String) : NameMap α → Option α
  | [] => none
  | (n, a) :: rest => if n = name then some a else get? name rest

def contains (name : String) (m : NameMap α) : Bool :=
  (get? name m).isSome

/-- Puts `a` under `name`, in place of an entry of that name or else before the first greater one. -/
def insert (name : String) (a : α) : NameMap α → NameMap α
  | [] => [(name, a)]
  | (n, b) :: rest =>
    if n = name then (name, a) :: rest
    else if name < n then (name, a) :: (n, b) :: rest
    else (n, b) :: insert name a rest

def erase (name : String) : NameMap α → NameMap α
  | [] => []
  | (n, a) :: rest => if n = name then rest else (n, a) :: erase name rest

def names (m : NameMap α) : List String :=
  m.map Prod.fst

/-- Of entries with one name the last counts. -/
def ofList (entries : List (String × α)) : NameMap α :=
  entries.foldl (fun m e => insert e.1 e.2 m) []

def Sorted (m : NameMap α) : Prop :=
  m.Pairwise (fun a b => a.1 < b.1)

@[simp] theorem get?_nil (name : String) : get? name ([] : NameMap α) = none := rfl

theorem get?_insert_self (name : String) (a : α) (m : NameMap α) :
    get? name (insert name a m) = some a := by
  induction m with
  | nil => simp [insert, get?]
  | cons e rest ih =>
    obtain ⟨n, b⟩ := e
    simp only [insert]
    split
    · simp [get?]
    · split
      · simp [get?]
      · simp_all [get?]

theorem get?_insert_of_ne {name other : String} (h : other ≠ name) (a : α) (m : NameMap α) :
    get? other (insert name a m) = get? other m := by
  induction m with
  | nil => simp [insert, get?, h.symm]
  | cons e rest ih =>
    obtain ⟨n, b⟩ := e
    simp only [insert]
    split
    · next hn => subst hn; simp [get?, h.symm]
    · split
      · simp [get?, h.symm]
      · simp [get?, ih]

theorem insert_insert (name : String) (a b : α) (m : NameMap α) :
    insert name b (insert name a m) = insert name b m := by
  induction m with
  | nil => simp [insert]
  | cons e rest ih =>
    obtain ⟨n, c⟩ := e
    by_cases hn : n = name
    · simp [insert, hn]
    · by_cases hl : name < n <;> simp [insert, hn, hl, ih]

theorem mem_insert {name : String} {a : α} {m : NameMap α} {e : String × α}
    (h : e ∈ insert name a m) : e = (name, a) ∨ e ∈ m := by
  induction m with
  | nil => simpa [insert] using h
  | cons d rest ih =>
    obtain ⟨n, b⟩ := d
    simp only [insert] at h
    split at h
    · rcases List.mem_cons.1 h with h | h <;> simp [h]
    · split at h
      · rcases List.mem_cons.1 h with h | h <;> simp_all
      · rcases List.mem_cons.1 h with h | h
        · simp [h]
        · rcases ih h with h | h <;> simp [h]

theorem insert_perm {name : String} {m : NameMap α} (h : get? name m = none) (a : α) :
    (insert name a m).Perm ((name, a) :: m) := by
  induction m with
  | nil => exact .refl _
  | cons e rest ih =>
    obtain ⟨n, b⟩ := e
    have hn : n ≠ name := fun hn => by simp [get?, hn] at h
    simp only [insert, hn, if_false]
    split
    · exact .refl _
    · have hrest : get? name rest = none := by simpa [get?, hn] using h
      exact ((ih hrest).cons (n, b)).trans (.swap (name, a) (n, b) rest)

theorem mem_of_get? {name : String} {a : α} {m : NameMap α} (h : get? name m = some a) :
    (name, a) ∈ m := by
  induction m with
  | nil => cases h
  | cons e rest ih =>
    obtain ⟨n, b⟩ := e
    unfold get? at h
    split at h
    · next hn =>
      cases h
      rw [hn]
      exact List.mem_cons_self
    · exact List.mem_cons_of_mem _ (ih h)

theorem mem_iff_get? {name : String} {a : α} {m : NameMap α} (hm : Sorted m) :
    (name, a) ∈ m ↔ get? name m = some a := by
  refine ⟨fun h => ?_, mem_of_get?⟩
  induction m with
  | nil => cases h
  | cons e rest ih =>
    obtain ⟨n, b⟩ := e
    obtain ⟨hfirst, hrest⟩ := List.pairwise_cons.1 hm
    obtain h | h := List.mem_cons.1 h
    · cases h
      simp [get?]
    · have hn : n ≠ name := by
        rintro rfl
        exact String.lt_irrefl n (hfirst _ h)
      rw [get?, if_neg hn]
      exact ih hrest h

theorem erase_sublist (name : String) (m : NameMap α) : (erase name m).Sublist m := by
  induction m with
  | nil => exact .slnil
  | cons e rest ih =>
    obtain ⟨n, b⟩ := e
    rw [erase]
    split
    · exact List.sublist_cons_self _ _
    · exact ih.cons_cons _

theorem mem_names_iff {name : String} {m : NameMap α} :
    name ∈ names m ↔ ∃ a, get? name m = some a := by
  induction m with
  | nil => simp [names]
  | cons e rest ih =>
    obtain ⟨n, b⟩ := e
    by_cases hn : n = name
    · simp [names, get?, hn]
    · simpa [names, get?, hn, Ne.symm hn] using ih

theorem Sorted.names {m : NameMap α} (h : Sorted m) : (NameMap.names m).Pairwise (· < ·) :=
  List.pairwise_map.2 h

theorem sorted_insert {m : NameMap α} (hm : Sorted m) (name : String) (a : α) :
    Sorted (insert name a m) := by
  induction m with
  | nil => simp [insert, Sorted]
  | cons e rest ih =>
    obtain ⟨n, b⟩ := e
    have hrest := List.pairwise_cons.1 hm
    simp only [insert]
    split
    · next hn => subst hn; exact List.pairwise_cons.2 hrest
    · next hn =>
      split
      · next hl =>
        refine List.pairwise_cons.2 ⟨fun d hd => ?_, hm⟩
        rcases List.mem_cons.1 hd with rfl | hd
        · exact hl
        · exact String.lt_trans hl (hrest.1 d hd)
      · next hl =>
        refine List.pairwise_cons.2 ⟨fun d hd => ?_, ih hrest.2⟩
        rcases mem_insert hd with rfl | hd
        · exact Decidable.byContradiction fun h => hn (String.le_antisymm hl h)
        · exact hrest.1 d hd

theorem Sorted.le_of_notMem {before after : NameMap α} {d e : String × α} (h : Sorted (before ++ d :: after))
    (he : e ∈ before ++ d :: after) (hbefore : e ∉ before) : d.1 ≤ e.1 := by
  have hlater : e ∈ d :: after := (List.mem_append.1 he).resolve_left hbefore
  obtain rfl | hafter := List.mem_cons.1 hlater
  · exact String.le_refl e.1
  · have hlt : d.1 < e.1 := (List.pairwise_cons.1 (List.pairwise_append.1 h).2.1).1 e hafter
    exact String.lt_asymm hlt

theorem perm_foldl_insert {entries m : NameMap α} (h : (names (entries ++ m)).Nodup) :
    (entries.foldl (fun m e => insert e.1 e.2 m) m).Perm (entries ++ m) := by
  induction entries generalizing m with
  | nil => exact .refl _
  | cons e entries ih =>
    have hnew : e.1 ∉ names (entries ++ m) := (List.nodup_cons.1 h).1
    have hget : get? e.1 m = none := by
      rw [Option.eq_none_iff_forall_ne_some]
      intro a ha
      have hm := mem_names_iff.2 ⟨a, ha⟩
      rw [names, List.map_append] at hnew
      exact hnew (List.mem_append_right _ hm)
    have hinsert := (insert_perm hget e.2).append_left entries
    have hperm : (entries ++ insert e.1 e.2 m).Perm (e :: (entries ++ m)) :=
      hinsert.trans List.perm_middle
    have hnodup : (names (entries ++ insert e.1 e.2 m)).Nodup := (hperm.map Prod.fst).nodup_iff.2 h
    exact (ih hnodup).trans hperm

theorem ofList_perm {entries : List (String × α)} (h : (names entries).Nodup) :
    (ofList entries).Perm entries := by
  have hperm : (entries.foldl (fun m e => insert e.1 e.2 m) []).Perm (entries ++ []) :=
    perm_foldl_insert (by rwa [List.append_nil])
  rwa [List.append_nil] at hperm

end NameMap

end SqlMapper
