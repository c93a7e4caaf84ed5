import SqlMapper.DeclaredType

namespace SqlMapper.DeclaredType

def params : DeclaredType → List String
  | param name => [name]
  | array element => element.params
  | collection _ element => element.params
  | map key value => key.params ++ value.params
  | cursor element => element.params
  | optional inner => inner.params
  | _ => []

def instantiate (types : String → DeclaredType) : DeclaredType → DeclaredType :=
  substitute fun p => some (types p)

@[simp] theorem instantiate_param (types : String → DeclaredType) (p : String) :
    (param p).instantiate types = types p := rfl

@[simp] theorem instantiate_any (types : String → DeclaredType) :
    any.instantiate types = any := rfl

theorem substitute_eq_instantiate (types : String → Option DeclaredType) (t : DeclaredType) :
    t.substitute types = t.instantiate fun p => (types p).getD (param p) := by
  induction t with
  | param name => rfl
  | map key value ihk ihv =>
    simp only [substitute, ihk, ihv]
    rfl
  | array t ih | collection _ t ih | cursor t ih | optional t ih =>
    simp only [substitute, ih]
    rfl
  | _ => rfl

theorem instantiate_instantiate (f g : String → DeclaredType) (t : DeclaredType) :
    (t.instantiate f).instantiate g = t.instantiate fun p => (f p).instantiate g := by
  unfold instantiate
  induction t with
  | param name => rfl
  | map key value ihk ihv => simp only [substitute, ihk, ihv]
  | array t ih | collection _ t ih | cursor t ih | optional t ih => simp only [substitute, ih]
  | _ => rfl

/-- A type with its parameters replaced is read at each of them: two replacements answer the same
only if they agree on all. -/
theorem instantiate_eq_iff (f g : String → DeclaredType) (t : DeclaredType) :
    t.instantiate f = t.instantiate g ↔ ∀ p ∈ t.params, f p = g p := by
  unfold instantiate
  induction t with
  | param name => simp [substitute, params]
  | map key value ihk ihv =>
    simp only [substitute, map.injEq, ihk, ihv, params, List.forall_mem_append]
  | array t ih | collection _ t ih | cursor t ih | optional t ih =>
    simpa [substitute, params] using ih
  | _ => simp [substitute, params]

end SqlMapper.DeclaredType
