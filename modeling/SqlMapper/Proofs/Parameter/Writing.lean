import SqlMapper.Proofs.Parameter.Property

namespace SqlMapper

/-- Two lookups end alike. Where an argument is missing they say which there are, of which there may be
more for the second. -/
inductive Parameter.AnswersAlike : Except Error Value → Except Error Value → Prop where
  | same (r : Except Error Value) : AnswersAlike r r
  | missing (name : String) {names names' : List String} (h : names.Sublist names') :
    AnswersAlike (.error (.parameterNotFound name names)) (.error (.parameterNotFound name names'))

/-- Two lookups end alike. Where an argument is missing, `bound` may be one of those that there are for the
second. -/
inductive Parameter.AnswersAlikeBut (bound : String) : Except Error Value → Except Error Value → Prop where
  | same (r : Except Error Value) : AnswersAlikeBut bound r r
  | missing (name : String) {names names' : List String} (kept : names.Sublist names')
    (added : ∀ n ∈ names', n ∈ names ∨ n = bound) :
    AnswersAlikeBut bound (.error (.parameterNotFound name names)) (.error (.parameterNotFound name names'))

/-- A parameter object that has come of `p` by assignments to properties in `P`. -/
inductive Parameter.WrittenAt (P : String → Prop) (p : Parameter) : Parameter → Prop where
  | unwritten : WrittenAt P p p
  | write {property : String} {value : Value} {q r : Parameter} (written : WrittenAt P p q)
    (h : P property) (assigned : q.assign property value = .ok r) : WrittenAt P p r

theorem NameMap.names_sublist_insert {α : Type} (name : String) (a : α) (m : NameMap α) :
    m.names.Sublist (m.insert name a).names := by
  induction m with
  | nil => exact List.nil_sublist _
  | cons e rest ih =>
    obtain ⟨n, b⟩ := e
    unfold insert
    split
    · next hn =>
      subst hn
      exact .refl _
    · split
      · exact .cons _ (.refl _)
      · exact .cons_cons n ih

theorem NameMap.of_mem_names_insert {α : Type} {name n : String} {a : α} {m : NameMap α}
    (h : n ∈ (m.insert name a).names) : n ∈ m.names ∨ n = name := by
  obtain ⟨e, he, rfl⟩ := List.mem_map.mp h
  obtain rfl | he := mem_insert he
  · exact .inr rfl
  · exact .inl (List.mem_map_of_mem he)

theorem Value.typeName_of_set? {v x updated : Value} {path : List String}
    (h : v.set? path x = some updated) : updated.typeName = v.typeName := by
  cases path with
  | nil =>
    rw [set?_nil] at h
    cases h
  | cons name rest =>
    obtain ⟨fields, c, rfl, rfl, -⟩ := set?_cons h
    rfl

namespace Parameter

variable {P : String → Prop} {property other : String} {x : Value} {p q r : Parameter}

namespace AnswersAlike

variable {a b c : Except Error Value}

theorem trans (h : AnswersAlike a b) (h' : AnswersAlike b c) : AnswersAlike a c := by
  cases h with
  | same => exact h'
  | missing name hnames =>
    cases h' with
    | same => exact .missing name hnames
    | missing _ hnames' => exact .missing name (hnames.trans hnames')

theorem eq_ok {v : Value} (h : AnswersAlike a b) (ha : a = .ok v) : b = .ok v := by
  cases h with
  | same => exact ha
  | missing => cases ha

end AnswersAlike

namespace AnswersAlikeBut

variable {a b : Except Error Value} {bound : String}

theorem alike (h : AnswersAlikeBut bound a b) : AnswersAlike a b := by
  cases h with
  | same => exact .same _
  | missing name kept => exact .missing name kept

theorem bind (h : AnswersAlikeBut bound a b) (f : Value → Except Error Value) :
    AnswersAlikeBut bound (a >>= f) (b >>= f) := by
  cases h with
  | same => exact .same _
  | missing name kept added => exact .missing name kept added

end AnswersAlikeBut

theorem argument_insert_alike {name head bound : String} {arguments : NameMap Value}
    (h : head ≠ name) (hname : name ∈ arguments.names ∨ name = bound) (c : Value) :
    AnswersAlikeBut bound (NameMap.argument arguments head)
      (NameMap.argument (NameMap.insert name c arguments) head) := by
  unfold NameMap.argument
  rw [NameMap.get?_insert_of_ne h]
  cases NameMap.get? head arguments with
  | some value => exact .same _
  | none =>
    refine .missing head (NameMap.names_sublist_insert name c arguments) fun n hn => ?_
    obtain hn | rfl := NameMap.of_mem_names_insert hn
    · exact .inl hn
    · exact hname

/-- An assignment does not show in the lookup of another matter, but that it may have bound an argument. -/
theorem lookup_of_assign_of_apart (h : p.assign property x = .ok q)
    (ha : PathsApart (segments property) (segments other)) :
    AnswersAlikeBut property (p.lookup other) (q.lookup other) := by
  cases p with
  | absent => cases h
  | single target =>
    simp only [assign] at h
    split at h
    · next updated hset =>
      cases h
      have hsame : updated.property other = target.property other :=
        Value.get?_of_set?_of_apart hset ha
      obtain ⟨name, rest, hpath⟩ := List.exists_cons_of_ne_nil (segments_ne_nil property)
      rw [Value.setProperty, hpath] at hset
      obtain ⟨fields, c, rfl, rfl, -⟩ := Value.set?_cons hset
      simp only [lookup, hsame]
      exact .same _
    · cases h
  | named arguments =>
    obtain ⟨updated, rfl, hset⟩ := assign_named h
    rw [segments_eq_splitHead] at hset ha
    rw [segments_eq_splitHead other] at ha
    obtain ⟨fields, c, hfields, hupdated, hc⟩ := Value.set?_cons hset
    cases hfields
    cases hupdated
    rcases hs : splitHead other with ⟨head, path⟩
    rw [hs] at ha
    by_cases hhead : head = (splitHead property).1
    · subst hhead
      have ha' := pathsApart_cons_iff.mp ha
      obtain ⟨hrest, -⟩ | ⟨child, hchild, hc⟩ := hc
      · rw [hrest] at ha'
        exact absurd List.nil_prefix ha'.1
      · cases path with
        | none => exact absurd List.nil_prefix ha'.2
        | some path =>
          -- the argument is an object before and after, and lacks the rest of the path in both or in none
          have hsame : c.property path = child.property path := Value.get?_of_set?_of_apart hc ha'
          have htype := Value.typeName_of_set? hc
          have hargument : NameMap.argument arguments (splitHead property).1 = .ok child := by
            rw [NameMap.argument, hchild]
          simp only [lookup, hs, hargument, NameMap.argument_insert_self, Bind.bind, Except.bind, hsame,
            htype]
          exact .same _
    · have hname : (splitHead property).1 ∈ NameMap.names arguments ∨
          (splitHead property).1 = property := by
        obtain ⟨hrest, -⟩ | ⟨child, hchild, -⟩ := hc
        · exact .inr (fst_splitHead_of_bare hrest)
        · exact .inl (NameMap.mem_names_iff.mpr ⟨child, hchild⟩)
      have hargument := argument_insert_alike hhead hname c
      cases path with
      | none => simpa only [lookup, hs] using hargument
      | some path => simpa only [lookup, hs] using hargument.bind _

namespace WrittenAt

theorem trans (h : WrittenAt P p q) (h' : WrittenAt P q r) : WrittenAt P p r := by
  induction h' with
  | unwritten => exact h
  | write _ hP assigned ih => exact .write ih hP assigned

theorem eq_of_forall_not (h : WrittenAt P p q) (hP : ∀ property, ¬ P property) : q = p := by
  cases h with
  | unwritten => rfl
  | write _ hwrite _ => exact absurd hwrite (hP _)

theorem lookup (h : WrittenAt P p q)
    (ha : ∀ property, P property → PathsApart (segments property) (segments other)) :
    AnswersAlike (p.lookup other) (q.lookup other) := by
  induction h with
  | unwritten => exact .same _
  | write _ hP assigned ih => exact ih.trans (lookup_of_assign_of_apart assigned (ha _ hP)).alike

end WrittenAt

variable {writes : List (String × Value)}

theorem writtenAt_of_assignAll (h : p.assignAll writes = .ok q)
    (hP : ∀ w ∈ writes, P w.1) : WrittenAt P p q := by
  induction writes generalizing p with
  | nil =>
    cases h
    exact .unwritten
  | cons w writes ih =>
    obtain ⟨hw, hwrites⟩ := List.forall_mem_cons.mp hP
    obtain ⟨between, hbetween, h⟩ := ok_of_except_bind_ok h
    exact (WrittenAt.write .unwritten hw hbetween).trans (ih h hwrites)

/-- If no two of the properties are one matter, each has in the end what was assigned to it. -/
theorem lookup_of_assignAll (h : p.assignAll writes = .ok q)
    (ha : writes.Pairwise fun w w' => PathsApart (segments w.1) (segments w'.1))
    {w : String × Value} (hw : w ∈ writes) : q.lookup w.1 = .ok w.2 := by
  induction writes generalizing p with
  | nil => cases hw
  | cons w' writes ih =>
    obtain ⟨hapart, hrest⟩ := List.pairwise_cons.mp ha
    obtain ⟨between, hbetween, hq⟩ := ok_of_except_bind_ok h
    obtain rfl | hw := List.mem_cons.mp hw
    · -- the later assignments are to other matters
      have hwritten := writtenAt_of_assignAll (P := (· ∈ writes.map Prod.fst)) hq
        fun _ hmem => List.mem_map_of_mem hmem
      refine (hwritten.lookup fun property hmem => ?_).eq_ok (lookup_of_assign hbetween)
      obtain ⟨later, hlater, rfl⟩ := List.mem_map.mp hmem
      exact ⟨(hapart later hlater).2, (hapart later hlater).1⟩
    · exact ih hq hrest hw

end Parameter

end SqlMapper
