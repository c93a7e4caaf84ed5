import Mathlib.Data.List.Forall2
import SqlMapper.Fallible

namespace SqlMapper

theorem ok_of_except_bind_ok {α β : Type} {ε : Type} {x : Except ε α} {f : α → Except ε β} {b : β}
    (h : (x >>= f) = .ok b) : ∃ a, x = .ok a ∧ f a = .ok b := by
  cases x with
  | error e => cases h
  | ok a => exact ⟨a, rfl, h⟩

theorem error_of_except_bind_error {α β : Type} {ε : Type} {x : Except ε α} {f : α → Except ε β}
    {e : ε} (h : (x >>= f) = .error e) : x = .error e ∨ ∃ a, x = .ok a ∧ f a = .error e := by
  cases x with
  | error e' =>
    cases h
    exact .inl rfl
  | ok a => exact .inr ⟨a, rfl, h⟩

theorem ok_of_mapError_ok {α ε ε' : Type} {f : ε → ε'} {x : Except ε α} {a : α}
    (h : x.mapError f = .ok a) : x = .ok a := by
  cases x with
  | error e => cases h
  | ok a' =>
    cases h
    rfl

theorem error_of_mapError_error {α ε ε' : Type} {f : ε → ε'} {x : Except ε α} {e : ε'}
    (h : x.mapError f = .error e) : ∃ fault, x = .error fault ∧ f fault = e := by
  cases x with
  | error fault =>
    cases h
    exact ⟨fault, rfl, rfl⟩
  | ok a => cases h

/-- Work on each of a list goes well with all of them, or stops at the first with which it does not. -/
theorem except_mapM_cases {α β ε : Type} (f : α → Except ε β) (l : List α) :
    (∃ bs, l.mapM f = .ok bs ∧ List.Forall₂ (fun a b => f a = .ok b) l bs) ∨
    ∃ before a after e, l = before ++ a :: after ∧ (∀ c ∈ before, ∃ b, f c = .ok b) ∧
      f a = .error e ∧ l.mapM f = .error e := by
  induction l with
  | nil => exact .inl ⟨[], rfl, .nil⟩
  | cons a l ih =>
    rw [List.mapM_cons]
    cases ha : f a with
    | error e => exact .inr ⟨[], a, l, e, rfl, nofun, ha, rfl⟩
    | ok b =>
      obtain ⟨bs, hbs, hl⟩ | ⟨before, c, after, e, rfl, hbefore, hc, he⟩ := ih
      · refine .inl ⟨b :: bs, ?_, .cons ha hl⟩
        rw [hbs]
        rfl
      · refine .inr ⟨a :: before, c, after, e, rfl, ?_, hc, ?_⟩
        · exact List.forall_mem_cons.mpr ⟨⟨b, ha⟩, hbefore⟩
        · rw [he]
          rfl

theorem error_of_except_mapM_error {α β : Type} {ε : Type} {f : α → Except ε β} {l : List α} {e : ε}
    (h : l.mapM f = .error e) : ∃ a ∈ l, f a = .error e := by
  obtain ⟨bs, hok, -⟩ | ⟨before, a, after, _, rfl, -, ha, herror⟩ := except_mapM_cases f l
  · cases hok.symm.trans h
  · cases herror.symm.trans h
    exact ⟨a, by simp, ha⟩

theorem except_forM_eq_map {α ε : Type} (f : α → Except ε Unit) (l : List α) :
    l.forM f = (l.mapM f).map fun _ => () := by
  induction l with
  | nil => rfl
  | cons a l ih =>
    change (f a >>= fun _ => l.forM f) = _
    rw [List.mapM_cons, ih]
    cases f a with
    | error e => rfl
    | ok _ => cases l.mapM f <;> rfl

namespace Fallible

variable {σ τ α β : Type}

/-- From a state with `I`, `x` leaves a state with `I` however it ends, and what it answers has
`V`. -/
def Maintains (I : σ → Prop) (x : Fallible σ α) (V : α → Prop) : Prop :=
  ∀ s, I s → I (x.outcome s).2 ∧ ∀ a, (x.outcome s).1 = .ok a → V a

theorem outcome_bind_of_ok {x : Fallible σ α} {f : α → Fallible σ β} {s t : σ} {a : α}
    (h : x.outcome s = (.ok a, t)) : (x >>= f).outcome s = (f a).outcome t := by
  rw [outcome_bind, h]

theorem outcome_bind_of_error {x : Fallible σ α} {f : α → Fallible σ β} {s t : σ} {e : Error}
    (h : x.outcome s = (.error e, t)) : (x >>= f).outcome s = (.error e, t) := by
  rw [outcome_bind, h]

theorem outcome_bind_pure (x : Fallible σ α) (f : α → β) (s : σ) :
    (x >>= fun a => pure (f a)).outcome s = ((x.outcome s).1.map f, (x.outcome s).2) := by
  rw [outcome_bind]
  rcases x.outcome s with ⟨_ | _, _⟩ <;> rfl

theorem snd_bind {x : Fallible σ α} {f : α → Fallible σ β} (h : ∀ a t, ((f a).outcome t).2 = t)
    (s : σ) : ((x >>= f).outcome s).2 = (x.outcome s).2 := by
  rcases hx : x.outcome s with ⟨e | a, t⟩
  · rw [outcome_bind_of_error hx]
  · rw [outcome_bind_of_ok hx, h]

theorem ok_of_bind_ok {x : Fallible σ α} {f : α → Fallible σ β} {s u : σ} {b : β}
    (h : (x >>= f).outcome s = (.ok b, u)) :
    ∃ a t, x.outcome s = (.ok a, t) ∧ (f a).outcome t = (.ok b, u) := by
  rw [outcome_bind] at h
  rcases hx : x.outcome s with ⟨_ | a, t⟩
  · simp [hx] at h
  · exact ⟨a, t, rfl, by simpa [hx] using h⟩

theorem ok_of_thenAlways_ok {x : Fallible σ α} {last : Fallible σ Unit} {s u : σ} {a : α}
    (h : (x.thenAlways last).outcome s = (.ok a, u)) :
    ∃ t, x.outcome s = (.ok a, t) ∧ last.outcome t = (.ok (), u) := by
  obtain ⟨r, t, hx, h⟩ := ok_of_bind_ok h
  rw [outcome_attempt] at hx
  cases hx
  obtain ⟨_, v, hl, h⟩ := ok_of_bind_ok h
  rw [outcome_ending] at h
  obtain ⟨hr, rfl⟩ := Prod.mk.inj h
  exact ⟨_, Prod.ext hr rfl, hl⟩

theorem ok_of_orUndo_ok {x : Fallible σ α} {undo : Fallible σ Unit} {s u : σ} {a : α}
    (h : (x.orUndo undo).outcome s = (.ok a, u)) : x.outcome s = (.ok a, u) := by
  obtain ⟨r, t, hx, h⟩ := ok_of_bind_ok h
  rw [outcome_attempt] at hx
  cases hx
  rcases hr : x.outcome s with ⟨e | b, v⟩ <;> rw [hr] at h
  · obtain ⟨_, _, _, h⟩ := ok_of_bind_ok h
    cases h
  · cases h
    rfl

theorem outcome_orUndo_of_ok {x : Fallible σ α} {undo : Fallible σ Unit} {s t : σ} {a : α}
    (h : x.outcome s = (.ok a, t)) : (x.orUndo undo).outcome s = (.ok a, t) := by
  have ha : x.attempt.outcome s = (.ok (.ok a), t) := by rw [outcome_attempt, h]
  rw [orUndo, outcome_bind_of_ok ha]
  rfl

theorem outcome_orUndo_of_error {x : Fallible σ α} {undo : Fallible σ Unit} {s t u : σ} {e : Error}
    (h : x.outcome s = (.error e, t)) (hu : undo.outcome t = (.ok (), u)) :
    (x.orUndo undo).outcome s = (.error e, u) := by
  have ha : x.attempt.outcome s = (.ok (.error e), t) := by rw [outcome_attempt, h]
  rw [orUndo, outcome_bind_of_ok ha]
  exact outcome_bind_of_ok hu

theorem outcome_thenAlways_of_ok {x : Fallible σ α} {last : Fallible σ Unit} {s t u : σ} {a : α}
    (hx : x.outcome s = (.ok a, t)) (hl : last.outcome t = (.ok (), u)) :
    (x.thenAlways last).outcome s = (.ok a, u) := by
  have ha : x.attempt.outcome s = (.ok (.ok a), t) := by rw [outcome_attempt, hx]
  rw [thenAlways, outcome_bind_of_ok ha, outcome_bind_of_ok hl]
  rfl

theorem outcome_discard (x : Fallible σ α) (s : σ) :
    (discard x).outcome s = ((x.outcome s).1.map fun _ => (), (x.outcome s).2) := by
  change Fallible.bind x _ s = _
  unfold Fallible.bind outcome
  rcases x s with ⟨_ | _, _⟩ <;> rfl

theorem ok_of_discard_ok {x : Fallible σ α} {s t : σ} {r : Unit}
    (h : (discard x).outcome s = (.ok r, t)) : ∃ a, x.outcome s = (.ok a, t) := by
  rw [outcome_discard] at h
  rcases hx : x.outcome s with ⟨e | a, u⟩ <;> rw [hx] at h <;> cases h
  exact ⟨a, rfl⟩

theorem discard_bind_of_ok {x : Fallible σ α} {f : Unit → Fallible σ β} {s t : σ} {a : α}
    (h : x.outcome s = (.ok a, t)) : (discard x >>= f).outcome s = (f ()).outcome t := by
  rw [outcome_bind, outcome_discard, h]
  rfl

theorem discard_bind_of_error {x : Fallible σ α} {f : Unit → Fallible σ β} {s t : σ} {e : Error}
    (h : x.outcome s = (.error e, t)) : (discard x >>= f).outcome s = (.error e, t) := by
  rw [outcome_bind, outcome_discard, h]
  rfl

theorem outcome_quietly (x : Fallible σ Unit) (s : σ) :
    (quietly x).outcome s = (.ok (), (x.outcome s).2) := by
  rw [quietly, outcome_discard, outcome_attempt]
  rfl

theorem map_throw (f : α → β) (e : Error) : f <$> (throw e : Fallible σ α) = throw e := rfl

theorem map_ending (f : α → β) (r : Except Error α) :
    f <$> (ending r : Fallible σ α) = ending (r.map f) := by
  cases r <;> rfl

theorem attempt_map (f : α → β) (x : Fallible σ α) :
    (f <$> x).attempt = Except.map f <$> x.attempt := by
  funext s
  change (f <$> x).attempt.outcome s = (Except.map f <$> x.attempt).outcome s
  rw [map_eq_pure_bind, map_eq_pure_bind, outcome_attempt, outcome_bind_pure, outcome_bind_pure,
    outcome_attempt]
  rfl

theorem map_thenAlways (f : α → β) (x : Fallible σ α) (last : Fallible σ Unit) :
    f <$> x.thenAlways last = (f <$> x).thenAlways last := by
  simp only [thenAlways, map_bind, attempt_map, bind_map_left, map_ending]

theorem forM_eq_mapM {f : α → Fallible σ PUnit} {g : α → Fallible σ β}
    (h : ∀ a, f a = (fun _ => ()) <$> g a) (l : List α) : l.forM f = (fun _ => ()) <$> l.mapM g := by
  induction l with
  | nil => rw [List.mapM_nil, map_pure]; rfl
  | cons a l ih =>
    change (f a >>= fun _ => l.forM f) = _
    simp [h, ih, List.mapM_cons]

theorem kept {I : σ → Prop} {V : α → Prop} {x : Fallible σ α} {s t : σ} {r : Except Error α}
    (hx : x.outcome s = (r, t)) (h : Maintains I x V) (hs : I s) : I t := by
  have hI := (h s hs).1
  rwa [hx] at hI

namespace Maintains

variable {I : σ → Prop} {V : α → Prop} {W : β → Prop}

theorem weaken {V' : α → Prop} {x : Fallible σ α} (h : Maintains I x V) (hV : ∀ a, V a → V' a) :
    Maintains I x V' :=
  fun s hs => ⟨(h s hs).1, fun a ha => hV a ((h s hs).2 a ha)⟩

theorem forget {x : Fallible σ α} (h : Maintains I x V) : Maintains I x fun _ => True :=
  h.weaken fun _ _ => trivial

theorem pure {a : α} (ha : V a) : Maintains I (pure a : Fallible σ α) V := by
  intro s hs
  refine ⟨hs, fun b hb => ?_⟩
  cases hb
  exact ha

theorem throw (e : Error) : Maintains I (throw e : Fallible σ α) V := by
  intro s hs
  refine ⟨hs, fun b hb => ?_⟩
  cases hb

theorem ending {r : Except Error α} (h : ∀ a, r = .ok a → V a) : Maintains I (ending r) V :=
  fun _ hs => ⟨hs, h⟩

theorem state : Maintains I (state : Fallible σ σ) I := by
  intro s hs
  refine ⟨hs, fun t ht => ?_⟩
  cases ht
  exact hs

theorem change {f : σ → σ} (h : ∀ s, I s → I (f s)) : Maintains I (change f) fun _ => True :=
  fun s hs => ⟨h s hs, fun _ _ => trivial⟩

theorem bind {x : Fallible σ α} {f : α → Fallible σ β} (hx : Maintains I x V)
    (hf : ∀ a, V a → Maintains I (f a) W) : Maintains I (x >>= f) W := by
  intro s hs
  obtain ⟨hI, hV⟩ := hx s hs
  rcases h : x.outcome s with ⟨e | a, t⟩
  · rw [outcome_bind_of_error h]
    rw [h] at hI
    exact ⟨hI, fun b hb => by cases hb⟩
  · rw [outcome_bind_of_ok h]
    rw [h] at hI hV
    exact hf a (hV a rfl) t hI

theorem attempt {x : Fallible σ α} (h : Maintains I x V) :
    Maintains I x.attempt fun r => ∀ a, r = .ok a → V a := by
  intro s hs
  rw [outcome_attempt]
  refine ⟨(h s hs).1, fun r hr => ?_⟩
  cases hr
  exact (h s hs).2

theorem thenAlways {x : Fallible σ α} {last : Fallible σ Unit} (hx : Maintains I x V)
    (hl : Maintains I last fun _ => True) : Maintains I (x.thenAlways last) V :=
  hx.attempt.bind fun _ hr => hl.bind fun _ _ => .ending hr

theorem orUndo {x : Fallible σ α} {undo : Fallible σ Unit} (hx : Maintains I x V)
    (hu : Maintains I undo fun _ => True) : Maintains I (x.orUndo undo) V := by
  refine hx.attempt.bind fun r hr => ?_
  cases r with
  | ok a => exact .pure (hr a rfl)
  | error e => exact hu.bind fun _ _ => .throw e

theorem discard {x : Fallible σ α} (h : Maintains I x V) :
    Maintains I (discard x) fun _ => True := by
  intro s hs
  rw [outcome_discard]
  exact ⟨(h s hs).1, fun _ _ => trivial⟩

theorem quietly {x : Fallible σ Unit} (h : Maintains I x fun _ => True) :
    Maintains I x.quietly fun _ => True :=
  h.attempt.discard

theorem forM {γ : Type} {f : γ → Fallible σ PUnit} {l : List γ}
    (h : ∀ c ∈ l, Maintains I (f c) fun _ => True) : Maintains I (l.forM f) fun _ => True := by
  induction l with
  | nil => exact .pure trivial
  | cons c l ih =>
    exact (h c (by simp)).bind fun _ _ => ih fun d hd => h d (List.mem_cons_of_mem c hd)

theorem mapM {γ : Type} {f : γ → Fallible σ α} {l : List γ} (h : ∀ c ∈ l, Maintains I (f c) V) :
    Maintains I (l.mapM f) fun as => ∀ a ∈ as, V a := by
  induction l with
  | nil => exact .pure (by simp)
  | cons c l ih =>
    rw [List.mapM_cons]
    refine (h c List.mem_cons_self).bind fun a ha =>
      (ih fun d hd => h d (List.mem_cons_of_mem c hd)).bind fun as has => .pure ?_
    intro b hb
    obtain rfl | hb := List.mem_cons.mp hb
    · exact ha
    · exact has b hb

theorem within {get : τ → σ} {set : σ → τ → τ} {J : τ → Prop} {x : Fallible σ α}
    (h : Maintains I x V) (hget : ∀ t, J t → I (get t)) (hset : ∀ t s, J t → I s → J (set s t)) :
    Maintains J (x.within get set) V := by
  intro t ht
  rw [outcome_within]
  obtain ⟨hI, hV⟩ := h (get t) (hget t ht)
  exact ⟨hset t _ ht hI, hV⟩

end Maintains

end Fallible

end SqlMapper
