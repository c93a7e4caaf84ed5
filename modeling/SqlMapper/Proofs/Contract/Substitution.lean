import SqlMapper.Proofs.Contract.Types

namespace SqlMapper.DeclaredType

inductive Within (part : DeclaredType) : DeclaredType → Prop where
  | self : Within part part
  | array {element : DeclaredType} (h : Within part element) : Within part (array element)
  | collection (kind : CollectionKind) {element : DeclaredType} (h : Within part element) :
    Within part (collection kind element)
  | key {key : DeclaredType} (value : DeclaredType) (h : Within part key) : Within part (map key value)
  | value (key : DeclaredType) {value : DeclaredType} (h : Within part value) :
    Within part (map key value)
  | cursor {element : DeclaredType} (h : Within part element) : Within part (cursor element)
  | optional {inner : DeclaredType} (h : Within part inner) : Within part (optional inner)

/-- What `f` answers, with the answers of `g` put into it, and what `g` answers where `f` has none. -/
def followedBy (f g : String → Option DeclaredType) (p : String) : Option DeclaredType :=
  match f p with
  | some t => some (t.substitute g)
  | none => g p

variable {t : DeclaredType} {p : String}

theorem mem_params_of_within (h : (param p).Within t) : p ∈ t.params := by
  induction h with
  | self => exact List.mem_singleton_self p
  | key _ _ ih => exact List.mem_append_left _ ih
  | value _ _ ih => exact List.mem_append_right _ ih
  | array _ ih | collection _ _ ih | cursor _ ih | optional _ ih => exact ih

theorem within_of_mem_params (h : p ∈ t.params) : (param p).Within t := by
  induction t with
  | param name =>
    obtain rfl := List.mem_singleton.mp h
    exact .self
  | array element ih => exact .array (ih h)
  | collection kind element ih => exact .collection kind (ih h)
  | map key value ihk ihv =>
    obtain h | h := List.mem_append.mp h
    · exact .key value (ihk h)
    · exact .value key (ihv h)
  | cursor element ih => exact .cursor (ih h)
  | optional inner ih => exact .optional (ih h)
  | _ => cases h

theorem within_iff_mem_params : (param p).Within t ↔ p ∈ t.params :=
  ⟨mem_params_of_within, within_of_mem_params⟩

theorem params_instantiate (f : String → DeclaredType) (t : DeclaredType) :
    (t.instantiate f).params = t.params.flatMap fun p => (f p).params := by
  unfold instantiate
  induction t with
  | param name => simp [substitute, params]
  | map key value ihk ihv => simp only [substitute, params, ihk, ihv, List.flatMap_append]
  | array t ih | collection _ t ih | cursor t ih | optional t ih => simpa [substitute, params] using ih
  | _ => rfl

@[simp] theorem instantiate_param_self (t : DeclaredType) : t.instantiate param = t := by
  unfold instantiate
  induction t with
  | map key value ihk ihv => simp only [substitute, ihk, ihv]
  | array t ih | collection _ t ih | cursor t ih | optional t ih => simp only [substitute, ih]
  | _ => rfl

theorem substitute_substitute (f g : String → Option DeclaredType) (t : DeclaredType) :
    (t.substitute f).substitute g = t.substitute (followedBy f g) := by
  rw [substitute_eq_instantiate f, substitute_eq_instantiate g, instantiate_instantiate,
    substitute_eq_instantiate (followedBy f g)]
  congr 1
  funext p
  rw [← substitute_eq_instantiate, followedBy]
  cases f p <;> rfl

theorem substitute_eq_self_iff (types : String → Option DeclaredType) (t : DeclaredType) :
    t.substitute types = t ↔ ∀ p, (param p).Within t → (types p).getD (param p) = param p := by
  have hself := instantiate_eq_iff (fun p => (types p).getD (param p)) param t
  rw [instantiate_param_self, ← substitute_eq_instantiate] at hself
  rw [hself]
  exact forall_congr' fun p => imp_congr_left within_iff_mem_params.symm

theorem not_within_eraseParams (t : DeclaredType) (p : String) : ¬ (param p).Within t.eraseParams := by
  have hnone : t.eraseParams.params = [] := by
    rw [eraseParams, ← instantiate, params_instantiate]
    exact List.flatMap_eq_nil_iff.mpr fun _ _ => rfl
  rw [within_iff_mem_params, hnone]
  exact List.not_mem_nil

theorem eraseParams_eq_self_iff (t : DeclaredType) :
    t.eraseParams = t ↔ ∀ p, ¬ (param p).Within t := by
  rw [eraseParams, substitute_eq_self_iff]
  simp

/-- Two substitutions are one: of what the first answers, with the second put into it, and of what the second
answers where the first does not. Without answers nothing changes. Erasing leaves no parameter, and changes
nothing exactly where there is none. -/
theorem substitution_composes :
    (∀ (f g : String → Option DeclaredType) (t : DeclaredType),
      (t.substitute f).substitute g = t.substitute (followedBy f g)) ∧
    (∀ t : DeclaredType, t.substitute (fun _ => none) = t) ∧
    (∀ (t : DeclaredType) (p : String), ¬ (param p).Within t.eraseParams) ∧
    ∀ t : DeclaredType, t.eraseParams = t ↔ ∀ p, ¬ (param p).Within t :=
  ⟨substitute_substitute, fun t => (substitute_eq_self_iff _ t).mpr fun _ _ => rfl,
    not_within_eraseParams, eraseParams_eq_self_iff⟩

end SqlMapper.DeclaredType
