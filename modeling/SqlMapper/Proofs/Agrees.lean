import SqlMapper.Proofs.Maintains

namespace SqlMapper.Fallible

variable {σ τ α β γ δ : Type}

/-- Both ended well, with answers and states that have `Q`, or both with one error and states that
have `E`. -/
inductive Ends (Q : α → β → σ → τ → Prop) (E : σ → τ → Prop) :
    Except Error α × σ → Except Error β × τ → Prop where
  | ok {a : α} {b : β} {s : σ} {t : τ} (h : Q a b s t) : Ends Q E (.ok a, s) (.ok b, t)
  | error {e : Error} {s : σ} {t : τ} (h : E s t) : Ends Q E (.error e, s) (.error e, t)

/-- From states that have `P` together, `x` and `y` end alike. -/
def Agrees (P : σ → τ → Prop) (x : Fallible σ α) (y : Fallible τ β) (Q : α → β → σ → τ → Prop)
    (E : σ → τ → Prop) : Prop :=
  ∀ s t, P s t → Ends Q E (x.outcome s) (y.outcome t)

/-- From states that have `R` together, `x` and `y` answer the same or fail with the same error, and
leave states that have `R`. -/
def Matches (R : σ → τ → Prop) (x : Fallible σ α) (y : Fallible τ α) : Prop :=
  Agrees R x y (fun a b s t => b = a ∧ R s t) R

theorem Ends.mono {Q Q' : α → β → σ → τ → Prop} {E E' : σ → τ → Prop}
    {r : Except Error α × σ} {r' : Except Error β × τ} (h : Ends Q E r r')
    (hQ : ∀ a b s t, Q a b s t → Q' a b s t) (hE : ∀ s t, E s t → E' s t) : Ends Q' E' r r' := by
  cases h with
  | ok h => exact .ok (hQ _ _ _ _ h)
  | error h => exact .error (hE _ _ h)

theorem Ends.same {R : σ → τ → Prop} {r : Except Error α × σ} {r' : Except Error α × τ}
    (h : Ends (fun a b s t => b = a ∧ R s t) R r r') : r'.1 = r.1 ∧ R r.2 r'.2 := by
  cases h with
  | ok h => exact ⟨congrArg Except.ok h.1, h.2⟩
  | error h => exact ⟨rfl, h⟩

theorem Ends.states {R : σ → τ → Prop} {r : Except Error α × σ} {r' : Except Error β × τ}
    (h : Ends (fun _ _ => R) R r r') : R r.2 r'.2 := by
  cases h <;> assumption

namespace Agrees

variable {P P' E E' : σ → τ → Prop} {Q Q' : α → β → σ → τ → Prop} {S : γ → δ → σ → τ → Prop}
  {x : Fallible σ α} {y : Fallible τ β}

theorem weaken (h : Agrees P x y Q E) (hP : ∀ s t, P' s t → P s t)
    (hQ : ∀ a b s t, Q a b s t → Q' a b s t) (hE : ∀ s t, E s t → E' s t) :
    Agrees P' x y Q' E' :=
  fun s t hs => (h s t (hP s t hs)).mono hQ hE

theorem weaken_pre (h : Agrees P x y Q E) (hP : ∀ s t, P' s t → P s t) : Agrees P' x y Q E :=
  h.weaken hP (fun _ _ _ _ h => h) fun _ _ h => h

theorem weaken_post (h : Agrees P x y Q E) (hQ : ∀ a b s t, Q a b s t → Q' a b s t) :
    Agrees P x y Q' E :=
  h.weaken (fun _ _ h => h) hQ fun _ _ h => h

theorem weaken_error (h : Agrees P x y Q E) (hE : ∀ s t, E s t → E' s t) : Agrees P x y Q E' :=
  h.weaken (fun _ _ h => h) (fun _ _ _ _ h => h) hE

theorem pure {a : α} {b : β} (h : ∀ s t, P s t → Q a b s t) :
    Agrees P (pure a : Fallible σ α) (pure b : Fallible τ β) Q E :=
  fun s t hs => .ok (h s t hs)

theorem throw {e : Error} (h : ∀ s t, P s t → E s t) :
    Agrees P (throw e : Fallible σ α) (throw e : Fallible τ β) Q E :=
  fun s t hs => .error (h s t hs)

theorem ending {r : Except Error α} {Q : α → α → σ → τ → Prop}
    (hQ : ∀ a s t, r = .ok a → P s t → Q a a s t) (hE : ∀ s t, P s t → E s t) :
    Agrees P (Fallible.ending r : Fallible σ α) (Fallible.ending r : Fallible τ α) Q E := by
  intro s t hs
  cases r with
  | ok a => exact .ok (hQ a s t rfl hs)
  | error e => exact .error (hE s t hs)

theorem change {f : σ → σ} {g : τ → τ} {Q : Unit → Unit → σ → τ → Prop}
    (h : ∀ s t, P s t → Q () () (f s) (g t)) :
    Agrees P (Fallible.change f) (Fallible.change g) Q E :=
  fun s t hs => .ok (h s t hs)

theorem bind {f : α → Fallible σ γ} {g : β → Fallible τ δ} (hx : Agrees P x y Q E)
    (hf : ∀ a b, Agrees (Q a b) (f a) (g b) S E) : Agrees P (x >>= f) (y >>= g) S E := by
  intro s t hs
  have h := hx s t hs
  rcases hr : x.outcome s with ⟨r, s'⟩
  rcases hr' : y.outcome t with ⟨r', t'⟩
  rw [hr, hr'] at h
  cases h with
  | ok h =>
    rw [outcome_bind_of_ok hr, outcome_bind_of_ok hr']
    exact hf _ _ _ _ h
  | error h =>
    rw [outcome_bind_of_error hr, outcome_bind_of_error hr']
    exact .error h

theorem left {R : α → σ → τ → Prop} {f : α → Fallible σ γ} {z : Fallible τ δ}
    (hx : ∀ s t, P s t → ∃ a s', x.outcome s = (.ok a, s') ∧ R a s' t)
    (hf : ∀ a, Agrees (R a) (f a) z S E) : Agrees P (x >>= f) z S E := by
  intro s t hs
  obtain ⟨a, s', hr, hR⟩ := hx s t hs
  rw [outcome_bind_of_ok hr]
  exact hf a s' t hR

theorem bind_same {y : Fallible τ α} {Q : α → σ → τ → Prop} {f : α → Fallible σ γ}
    {g : α → Fallible τ δ} (hx : Agrees P x y (fun a b s t => b = a ∧ Q a s t) E)
    (hf : ∀ a, Agrees (Q a) (f a) (g a) S E) : Agrees P (x >>= f) (y >>= g) S E := by
  refine hx.bind fun a b => ?_
  rintro s t ⟨rfl, h⟩
  exact hf b s t h

theorem of_fact {K : Prop} (h : K → Agrees P x y Q E) : Agrees (fun s t => P s t ∧ K) x y Q E :=
  fun s t hs => h hs.2 s t hs.1

theorem attempt_bind {f : Except Error α → Fallible σ γ} {g : Except Error β → Fallible τ δ}
    {F : σ → τ → Prop} (hx : Agrees P x y Q E)
    (hok : ∀ a b, Agrees (Q a b) (f (.ok a)) (g (.ok b)) S F)
    (herror : ∀ e, Agrees E (f (.error e)) (g (.error e)) S F) :
    Agrees P (x.attempt >>= f) (y.attempt >>= g) S F := by
  intro s t hs
  have h := hx s t hs
  rw [outcome_bind_of_ok (outcome_attempt x s), outcome_bind_of_ok (outcome_attempt y t)]
  rcases hr : x.outcome s with ⟨r, s'⟩
  rcases hr' : y.outcome t with ⟨r', t'⟩
  rw [hr, hr'] at h
  cases h with
  | ok h => exact hok _ _ _ _ h
  | error h => exact herror _ _ _ h

theorem thenAlways {y : Fallible τ α} {Q R : α → σ → τ → Prop} {F : σ → τ → Prop}
    {last : Fallible σ Unit} {last' : Fallible τ Unit}
    (hx : Agrees P x y (fun a b s t => b = a ∧ Q a s t) E)
    (hok : ∀ a, Agrees (Q a) last last' (fun _ _ => R a) F)
    (herror : Agrees E last last' (fun _ _ => F) F) :
    Agrees P (x.thenAlways last) (y.thenAlways last') (fun a b s t => b = a ∧ R a s t) F := by
  refine hx.attempt_bind (fun a b => ?_) fun e => herror.bind fun _ _ => .throw fun _ _ h => h
  rintro s t ⟨rfl, h⟩
  exact (hok b).bind (fun _ _ => .pure fun _ _ h => ⟨rfl, h⟩) s t h

theorem orUndo {F : σ → τ → Prop} {undo : Fallible σ Unit} {undo' : Fallible τ Unit}
    (hx : Agrees P x y Q E) (hundo : Agrees E undo undo' (fun _ _ => F) F) :
    Agrees P (x.orUndo undo) (y.orUndo undo') Q F :=
  hx.attempt_bind (fun _ _ => .pure fun _ _ h => h) fun _ =>
    hundo.bind fun _ _ => .throw fun _ _ h => h

theorem discard {S : Unit → Unit → σ → τ → Prop} (h : Agrees P x y (fun _ _ => S () ()) E) :
    Agrees P (discard x) (discard y) S E := by
  intro s t hs
  have hends := h s t hs
  rw [outcome_discard, outcome_discard]
  rcases hr : x.outcome s with ⟨r, s'⟩
  rcases hr' : y.outcome t with ⟨r', t'⟩
  rw [hr, hr'] at hends
  cases hends with
  | ok h => exact .ok h
  | error h => exact .error h

theorem thenAlways_left {R : α → β → σ → τ → Prop} {F : σ → τ → Prop} {last : Fallible σ Unit}
    (hx : Agrees P x y Q E)
    (hok : ∀ a b s t, Q a b s t → ∃ s', last.outcome s = (.ok (), s') ∧ R a b s' t)
    (herror : ∀ s t, E s t → ∃ s', last.outcome s = (.ok (), s') ∧ F s' t) :
    Agrees P (x.thenAlways last) y R F := by
  intro s t hs
  have h := hx s t hs
  rw [Fallible.thenAlways, outcome_bind_of_ok (outcome_attempt x s)]
  rcases hr : x.outcome s with ⟨r, s'⟩
  rcases hr' : y.outcome t with ⟨r', t'⟩
  rw [hr, hr'] at h
  cases h with
  | ok h =>
    obtain ⟨u, hu, hR⟩ := hok _ _ _ _ h
    rw [outcome_bind_of_ok hu]
    exact .ok hR
  | error h =>
    obtain ⟨u, hu, hF⟩ := herror _ _ h
    rw [outcome_bind_of_ok hu]
    exact .error hF

theorem orUndo_left {F : σ → τ → Prop} {undo : Fallible σ Unit} (hx : Agrees P x y Q E)
    (hundo : ∀ s t, E s t → ∃ s', undo.outcome s = (.ok (), s') ∧ F s' t) :
    Agrees P (x.orUndo undo) y Q F := by
  intro s t hs
  have h := hx s t hs
  rcases hr : x.outcome s with ⟨r, s'⟩
  rcases hr' : y.outcome t with ⟨r', t'⟩
  rw [hr, hr'] at h
  cases h with
  | ok h =>
    rw [outcome_orUndo_of_ok hr]
    exact .ok h
  | error h =>
    obtain ⟨u, hu, hF⟩ := hundo _ _ h
    rw [outcome_orUndo_of_error hr hu]
    exact .error hF

end Agrees

namespace Matches

variable {R : σ → τ → Prop} {x : Fallible σ α} {y : Fallible τ α}

theorem pure (a : α) : Matches R (pure a : Fallible σ α) (pure a : Fallible τ α) :=
  Agrees.pure fun _ _ h => ⟨rfl, h⟩

theorem throw (e : Error) : Matches R (throw e : Fallible σ α) (throw e : Fallible τ α) :=
  Agrees.throw fun _ _ h => h

theorem throw_bind (e : Error) (f : γ → Fallible σ α) (g : γ → Fallible τ α) :
    Matches R (MonadExcept.throw e >>= f) (MonadExcept.throw e >>= g) :=
  fun _ _ h => .error h

theorem ending (r : Except Error α) :
    Matches R (Fallible.ending r : Fallible σ α) (Fallible.ending r : Fallible τ α) :=
  Agrees.ending (fun _ _ _ _ h => ⟨rfl, h⟩) fun _ _ h => h

theorem bind_agrees {f : α → Fallible σ γ} {g : α → Fallible τ δ} {S : γ → δ → σ → τ → Prop}
    {E : σ → τ → Prop} (hx : Matches R x y) (hE : ∀ s t, R s t → E s t)
    (hf : ∀ a, Agrees R (f a) (g a) S E) : Agrees R (x >>= f) (y >>= g) S E := by
  refine (Agrees.weaken_error hx hE).bind fun a b => ?_
  rintro s t ⟨rfl, h⟩
  exact hf b s t h

theorem bind {f : α → Fallible σ γ} {g : α → Fallible τ γ} (hx : Matches R x y)
    (hf : ∀ a, Matches R (f a) (g a)) : Matches R (x >>= f) (y >>= g) :=
  hx.bind_agrees (fun _ _ h => h) hf

theorem attempt (hx : Matches R x y) : Matches R x.attempt y.attempt := by
  intro s t hs
  obtain ⟨hr, hR⟩ := (hx s t hs).same
  exact .ok ⟨hr, hR⟩

theorem discard (hx : Matches R x y) : Matches R (discard x) (discard y) :=
  Agrees.discard (hx.weaken_post fun _ _ _ _ h => ⟨rfl, h.2⟩)

theorem forM {f : γ → Fallible σ PUnit} {g : γ → Fallible τ PUnit} (l : List γ)
    (h : ∀ c, Matches R (f c) (g c)) : Matches R (l.forM f) (l.forM g) := by
  induction l with
  | nil => exact .pure _
  | cons c l ih => exact (h c).bind fun _ => ih

theorem within {ρ : Type} {get : σ → ρ} {set : ρ → σ → σ} {get' : τ → ρ} {set' : ρ → τ → τ}
    {z : Fallible ρ α} (hget : ∀ s t, R s t → get' t = get s)
    (hset : ∀ s t r, R s t → R (set r s) (set' r t)) :
    Matches R (z.within get set) (z.within get' set') := by
  intro s t hs
  rw [outcome_within, outcome_within, hget s t hs]
  rcases z.outcome (get s) with ⟨e | a, r⟩
  · exact .error (hset s t r hs)
  · exact .ok ⟨rfl, hset s t r hs⟩

end Matches

end SqlMapper.Fallible
