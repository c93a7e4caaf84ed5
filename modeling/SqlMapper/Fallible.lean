import SqlMapper.Error

namespace SqlMapper

/-- Takes a state to how the computation ends and the state it leaves. -/
def Fallible (σ α : Type) := σ → Except Error α × σ

namespace Fallible

variable {σ τ α β γ : Type}

def outcome (x : Fallible σ α) (s : σ) : Except Error α × σ := x s

def of (f : σ → Except Error α × σ) : Fallible σ α := f

def ending (r : Except Error α) : Fallible σ α := fun s => (r, s)

def bind (x : Fallible σ α) (f : α → Fallible σ β) : Fallible σ β := fun s =>
  match x s with
  | (.ok a, t) => f a t
  | (.error e, t) => (.error e, t)

instance : Monad (Fallible σ) where
  pure a := ending (.ok a)
  bind := bind

instance : MonadExcept Error (Fallible σ) where
  throw e := ending (.error e)
  tryCatch x handle := fun s =>
    match x s with
    | (.ok a, t) => (.ok a, t)
    | (.error e, t) => handle e t

def state : Fallible σ σ := fun s => (.ok s, s)

def change (f : σ → σ) : Fallible σ Unit := fun s => (.ok (), f s)

/-- Runs `x` and answers how it ended. -/
def attempt (x : Fallible σ α) : Fallible σ (Except Error α) := fun s =>
  (.ok (x s).1, (x s).2)

/-- Runs `last` after `x`, however `x` ended. -/
def thenAlways (x : Fallible σ α) (last : Fallible σ Unit) : Fallible σ α := do
  let r ← attempt x
  last
  ending r

/-- Runs `undo` after `x` if `x` failed. -/
def orUndo (x : Fallible σ α) (undo : Fallible σ Unit) : Fallible σ α := do
  match ← attempt x with
  | .ok a => return a
  | .error e => undo; throw e

/-- Runs `x` and lets its failure pass. -/
def quietly (x : Fallible σ Unit) : Fallible σ Unit := discard (attempt x)

/-- Runs `x` on the part of the state that `get` and `set` show. -/
def within (get : τ → σ) (set : σ → τ → τ) (x : Fallible σ α) : Fallible τ α := fun t =>
  ((x (get t)).1, set (x (get t)).2 t)

@[simp] theorem outcome_pure (a : α) (s : σ) : outcome (pure a) s = (.ok a, s) := rfl

@[simp] theorem outcome_throw (e : Error) (s : σ) :
    outcome (throw e : Fallible σ α) s = (.error e, s) := rfl

@[simp] theorem outcome_of (f : σ → Except Error α × σ) (s : σ) : (of f).outcome s = f s := rfl

@[simp] theorem outcome_ending (r : Except Error α) (s : σ) : (ending r).outcome s = (r, s) := rfl

@[simp] theorem outcome_state (s : σ) : outcome state s = (.ok s, s) := rfl

@[simp] theorem outcome_change (f : σ → σ) (s : σ) : (change f).outcome s = (.ok (), f s) := rfl

@[simp] theorem outcome_attempt (x : Fallible σ α) (s : σ) :
    x.attempt.outcome s = (.ok (x.outcome s).1, (x.outcome s).2) := rfl

@[simp] theorem outcome_within (get : τ → σ) (set : σ → τ → τ) (x : Fallible σ α) (t : τ) :
    (x.within get set).outcome t = ((x.outcome (get t)).1, set (x.outcome (get t)).2 t) := rfl

theorem outcome_bind (x : Fallible σ α) (f : α → Fallible σ β) (s : σ) :
    (x >>= f).outcome s =
      match x.outcome s with
      | (.ok a, t) => (f a).outcome t
      | (.error e, t) => (.error e, t) := rfl

theorem id_map (x : Fallible σ α) : id <$> x = x := by
  funext s
  change Fallible.bind x _ s = x s
  unfold Fallible.bind
  rcases x s with ⟨_ | _, _⟩ <;> rfl

theorem bind_assoc (x : Fallible σ α) (f : α → Fallible σ β) (g : β → Fallible σ γ) :
    x >>= f >>= g = x >>= fun a => f a >>= g := by
  funext s
  change Fallible.bind (Fallible.bind x f) g s = Fallible.bind x _ s
  unfold Fallible.bind
  rcases x s with ⟨_ | _, _⟩ <;> rfl

instance : LawfulMonad (Fallible σ) :=
  LawfulMonad.mk' _ id_map (fun _ _ => rfl) bind_assoc

end Fallible

end SqlMapper
