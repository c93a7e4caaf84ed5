import SqlMapper.Command

namespace SqlMapper

/-- Registered commands, each under its own identifier and in the order of these. -/
structure Registry where
  commands : NameMap Command
  named : ∀ e ∈ commands, e.2.id = e.1

namespace Registry

def empty : Registry := ⟨[], by simp⟩

def find? (r : Registry) (id : String) : Option Command := r.commands.get? id

def get (r : Registry) (id : String) : Except Error Command :=
  match r.find? id with
  | some command => .ok command
  | none => .error (.commandNotFound id)

def insert (r : Registry) (command : Command) : Registry where
  commands := r.commands.insert command.id command
  named e he := by
    obtain rfl | he := NameMap.mem_insert he
    · rfl
    · exact r.named e he

def add (r : Registry) (command : Command) : Except ConfigFault Registry :=
  match r.find? command.id with
  | some _ => .error (.duplicateCommand command.id)
  | none => .ok (r.insert command)

def ids (r : Registry) : List String := r.commands.names

theorem find?_insert_self (r : Registry) (c : Command) : (r.insert c).find? c.id = some c :=
  NameMap.get?_insert_self ..

theorem find?_insert_of_ne {id : String} {c : Command} (h : id ≠ c.id) (r : Registry) :
    (r.insert c).find? id = r.find? id :=
  NameMap.get?_insert_of_ne h ..

theorem found_of_insert {r : Registry} {id : String} {c d : Command}
    (h : (r.insert c).find? id = some d) : d = c ∨ r.find? id = some d := by
  by_cases hid : id = c.id
  · subst hid
    rw [find?_insert_self] at h
    exact .inl (Option.some.inj h).symm
  · rw [find?_insert_of_ne hid] at h
    exact .inr h

theorem id_of_find? {r : Registry} {id : String} {c : Command} (h : r.find? id = some c) :
    c.id = id :=
  r.named (id, c) (NameMap.mem_of_get? h)

theorem find?_of_get {r : Registry} {id : String} {c : Command} (h : r.get id = .ok c) :
    r.find? id = some c := by
  unfold get at h
  split at h
  · next found =>
    cases h
    exact found
  · cases h

theorem get_of_find? {r : Registry} {id : String} {c : Command} (h : r.find? id = some c) :
    r.get id = .ok c := by
  rw [get, h]

end Registry

end SqlMapper
