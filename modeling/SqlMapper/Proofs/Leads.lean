import SqlMapper.Proofs.Maintains

namespace SqlMapper

namespace Fallible

variable {σ α β : Type}

/-- From a state with `P`, `x` leaves a state that has `Q` together with its answer, or one that has
`E` if it fails. -/
def Leads (P : σ → Prop) (x : Fallible σ α) (Q : α → σ → Prop) (E : σ → Prop) : Prop :=
  ∀ s, P s → (∀ a t, x.outcome s = (.ok a, t) → Q a t) ∧
    ∀ e t, x.outcome s = (.error e, t) → E t

theorem Maintains.leads {I : σ → Prop} {V : α → Prop} {x : Fallible σ α} (h : Maintains I x V) :
    Leads I x (fun _ => I) I := by
  intro s hs
  have hI := (h s hs).1
  refine ⟨fun a t hx => ?_, fun e t hx => ?_⟩ <;> rwa [hx] at hI

namespace Leads

variable {P E F : σ → Prop} {Q : α → σ → Prop} {R : β → σ → Prop}

theorem ok {x : Fallible σ α} {s t : σ} {a : α} (h : Leads P x Q E)
    (hx : x.outcome s = (.ok a, t)) (hs : P s) : Q a t := (h s hs).1 a t hx

theorem error {x : Fallible σ α} {s t : σ} {e : Error} (h : Leads P x Q E)
    (hx : x.outcome s = (.error e, t)) (hs : P s) : E t := (h s hs).2 e t hx

theorem state {x : Fallible σ α} {s : σ} (h : Leads P x (fun _ => E) E) (hs : P s) :
    E (x.outcome s).2 := by
  rcases hx : x.outcome s with ⟨e | a, t⟩
  · exact h.error hx hs
  · exact h.ok hx hs

theorem maintains {I : σ → Prop} {x : Fallible σ α} (h : Leads I x (fun _ => I) I) :
    Maintains I x fun _ => True := fun _ hs => ⟨h.state hs, fun _ _ => trivial⟩

theorem weaken {P' E' : σ → Prop} {Q' : α → σ → Prop} {x : Fallible σ α} (h : Leads P x Q E)
    (hP : ∀ s, P' s → P s) (hQ : ∀ a s, Q a s → Q' a s) (hE : ∀ s, E s → E' s) :
    Leads P' x Q' E' := fun s hs =>
  ⟨fun a t hx => hQ a t (h.ok hx (hP s hs)), fun _ t hx => hE t (h.error hx (hP s hs))⟩

theorem weaken_pre {P' : σ → Prop} {x : Fallible σ α} (h : Leads P x Q E)
    (hP : ∀ s, P' s → P s) : Leads P' x Q E :=
  h.weaken hP (fun _ _ h => h) fun _ h => h

theorem weaken_error {E' : σ → Prop} {x : Fallible σ α} (h : Leads P x Q E)
    (hE : ∀ s, E s → E' s) : Leads P x Q E' :=
  h.weaken (fun _ h => h) (fun _ _ h => h) hE

theorem and {I : σ → Prop} {V : α → Prop} {x : Fallible σ α} (h : Leads P x Q E)
    (hI : Maintains I x V) :
    Leads (fun s => P s ∧ I s) x (fun a s => Q a s ∧ I s) fun s => E s ∧ I s := fun _ hs =>
  ⟨fun _ _ hx => ⟨h.ok hx hs.1, kept hx hI hs.2⟩, fun _ _ hx => ⟨h.error hx hs.1, kept hx hI hs.2⟩⟩

theorem of_outcome {x : Fallible σ α} (h : ∀ s, P s → ∃ r t, x.outcome s = (r, t) ∧
    (∀ a, r = .ok a → Q a t) ∧ ∀ e, r = .error e → E t) : Leads P x Q E := by
  intro s hs
  obtain ⟨r, t, hx, hok, herror⟩ := h s hs
  rw [hx]
  refine ⟨fun a u hu => ?_, fun e u hu => ?_⟩ <;> obtain ⟨hr, rfl⟩ := Prod.mk.inj hu
  · exact hok a hr
  · exact herror e hr

theorem pure {a : α} (h : ∀ s, P s → Q a s) : Leads P (pure a : Fallible σ α) Q E := by
  intro s hs
  refine ⟨fun b t hx => ?_, nofun⟩
  cases hx
  exact h s hs

theorem throw {e : Error} (h : ∀ s, P s → E s) : Leads P (throw e : Fallible σ α) Q E := by
  intro s hs
  refine ⟨nofun, fun e' t hx => ?_⟩
  cases hx
  exact h s hs

theorem change {f : σ → σ} {Q : Unit → σ → Prop} (h : ∀ s, P s → Q () (f s)) :
    Leads P (change f) Q E := by
  intro s hs
  refine ⟨fun b t hx => ?_, nofun⟩
  cases hx
  exact h s hs

theorem bind {x : Fallible σ α} {f : α → Fallible σ β} (hx : Leads P x Q E)
    (hf : ∀ a, Leads (Q a) (f a) R E) : Leads P (x >>= f) R E := by
  intro s hs
  rcases h : x.outcome s with ⟨e | a, t⟩
  · rw [outcome_bind_of_error h]
    refine ⟨nofun, fun e' u hu => ?_⟩
    cases hu
    exact hx.error h hs
  · rw [outcome_bind_of_ok h]
    exact hf a t (hx.ok h hs)

theorem attempt_bind {x : Fallible σ α} {f : Except Error α → Fallible σ β} (hx : Leads P x Q E)
    (hok : ∀ a, Leads (Q a) (f (.ok a)) R F) (herror : ∀ e, Leads E (f (.error e)) R F) :
    Leads P (x.attempt >>= f) R F := by
  intro s hs
  rw [outcome_bind_of_ok (outcome_attempt x s)]
  rcases h : x.outcome s with ⟨e | a, t⟩
  · exact herror e t (hx.error h hs)
  · exact hok a t (hx.ok h hs)

theorem thenAlways {x : Fallible σ α} {last : Fallible σ Unit} {R : α → σ → Prop}
    (hx : Leads P x Q E) (hok : ∀ a, Leads (Q a) last (fun _ => R a) F)
    (herror : Leads E last (fun _ => F) F) : Leads P (x.thenAlways last) R F := by
  refine hx.attempt_bind (fun a => (hok a).bind fun _ => ?_) fun e => herror.bind fun _ => ?_
  · exact .pure fun _ h => h
  · exact .throw fun _ h => h

theorem orUndo {x : Fallible σ α} {undo : Fallible σ Unit} (hx : Leads P x Q E)
    (hundo : Leads E undo (fun _ => F) F) : Leads P (x.orUndo undo) Q F :=
  hx.attempt_bind (fun _ => .pure fun _ h => h) fun _ => hundo.bind fun _ => .throw fun _ h => h

theorem discard {x : Fallible σ α} {R : σ → Prop} (h : Leads P x (fun _ => R) E) :
    Leads P (discard x) (fun _ => R) E := by
  intro s hs
  rw [outcome_discard]
  rcases hx : x.outcome s with ⟨e | a, t⟩
  · refine ⟨nofun, fun e' u hu => ?_⟩
    cases hu
    exact h.error hx hs
  · refine ⟨fun b u hu => ?_, nofun⟩
    cases hu
    exact h.ok hx hs

end Leads

theorem Maintains.bind_leads {I E : σ → Prop} {V : α → Prop} {R : β → σ → Prop} {x : Fallible σ α}
    {f : α → Fallible σ β} (hx : Maintains I x V) (hE : ∀ s, I s → E s)
    (hf : ∀ a, V a → Leads I (f a) R E) : Leads I (x >>= f) R E := by
  intro s hs
  obtain ⟨hI, hV⟩ := hx s hs
  rcases h : x.outcome s with ⟨e | a, t⟩ <;> rw [h] at hI hV
  · rw [outcome_bind_of_error h]
    refine ⟨nofun, fun e' u hu => ?_⟩
    cases hu
    exact hE t hI
  · rw [outcome_bind_of_ok h]
    exact hf a (hV a rfl) t hI

end Fallible

end SqlMapper
