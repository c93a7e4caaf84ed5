import SqlMapper.Proofs.Leads
import SqlMapper.Proofs.Session.Operation

namespace SqlMapper

open Fallible

/-- Neither the parameter object nor the cache and the flags of the session matter. -/
structure Scope.Blind (I : Scope → Prop) : Prop where
  same {u v : Scope} (h : I u) (htransaction : v.session.transaction = u.session.transaction)
    (hstrategy : v.session.strategy = u.session.strategy) (hdatabase : v.database = u.database) :
    I v

variable {α : Type} {I : Scope → Prop} {config : Configuration} {command : Command} {id : String}
  {bounds : RowBounds} {handler : Option RowHandler}

namespace SessionM

theorem maintains_of_blind (hI : Scope.Blind I) {x : SessionM α}
    (h : ∀ u, (x.outcome u).2.session.transaction = u.session.transaction ∧
      (x.outcome u).2.session.strategy = u.session.strategy ∧
      (x.outcome u).2.database = u.database) : Maintains I x fun _ => True :=
  fun u hu => ⟨hI.same hu (h u).1 (h u).2.1 (h u).2.2, fun _ _ => trivial⟩

theorem withParameter_leads {P P' E : Scope → Prop} {Q : α → Scope → Prop} {p : Parameter}
    (hP : ∀ u, P' u → P { u with parameter := p }) (hQ : ∀ a, Scope.Blind (Q a))
    (hE : Scope.Blind E) {x : SessionM α} (h : Leads P x Q E) :
    Leads P' (withParameter p x) (fun r => Q r.1) E := by
  intro u hu
  rw [withParameter_outcome]
  rcases hx : x.outcome { u with parameter := p } with ⟨e | a, v⟩
  · have hafter := h.error hx (hP u hu)
    refine ⟨fun r t ht => ?_, fun e' t ht => ?_⟩ <;> cases ht
    exact hE.same hafter rfl rfl rfl
  · have hafter := h.ok hx (hP u hu)
    refine ⟨fun r t ht => ?_, fun e t ht => ?_⟩ <;> cases ht
    exact (hQ a).same hafter rfl rfl rfl

theorem ensureOpen_blind (hI : Scope.Blind I) : Maintains I ensureOpen fun _ => True := by
  refine maintains_of_blind hI fun u => ?_
  cases hc : u.session.closed
  · rw [ensureOpen_of_open hc]
    exact ⟨rfl, rfl, rfl⟩
  · rw [ensureOpen_of_closed hc]
    exact ⟨rfl, rfl, rfl⟩

theorem clearCache_blind (hI : Scope.Blind I) : Maintains I clearCache fun _ => True :=
  maintains_of_blind hI fun _ => ⟨rfl, rfl, rfl⟩

theorem endQuery_blind (hI : Scope.Blind I) : Maintains I (endQuery config) fun _ => True := by
  refine maintains_of_blind hI fun u => ?_
  rw [endQuery_outcome]
  split <;> exact ⟨rfl, rfl, rfl⟩

theorem cachedQuery_blind (hI : Scope.Blind I)
    (hrun : Maintains I (runQuery config command bounds none) fun _ => True) :
    Maintains I (cachedQuery config command bounds) fun _ => True := by
  refine (maintains_of_blind hI fun _ => ⟨rfl, rfl, rfl⟩).bind fun p _ =>
    (Maintains.ending (V := fun _ => True) fun _ _ => trivial).bind fun bound _ =>
      (Maintains.ending (V := fun _ => True) fun _ _ => trivial).bind fun key _ =>
        (maintains_of_blind hI fun _ => ⟨rfl, rfl, rfl⟩).bind fun w _ => ?_
  split
  · exact .pure trivial
  · exact hrun.bind fun rows _ => (maintains_of_blind hI fun _ => ⟨rfl, rfl, rfl⟩).bind
      fun _ _ => (endQuery_blind hI).bind fun _ _ => .pure trivial

theorem query_blind (hI : Scope.Blind I)
    (hrun : ∀ handler, Maintains I (runQuery config command bounds handler) fun _ => True) :
    Maintains I (query config command bounds handler) fun _ => True := by
  have hrest : Maintains I
      (if handler.isNone && command.statementKind != .callable then
        cachedQuery config command bounds
      else do
        let rows ← runQuery config command bounds handler
        endQuery config
        return rows) fun _ => True := by
    split
    · exact cachedQuery_blind hI (hrun none)
    · exact (hrun handler).bind fun _ _ => (endQuery_blind hI).bind fun _ _ => .pure trivial
  refine (ensureOpen_blind hI).bind fun _ _ => ?_
  dsimp only
  split
  · exact (clearCache_blind hI).bind fun _ _ => hrest
  · exact hrest

end SessionM

namespace Session

theorem query_blind (hI : Scope.Blind I) (hrun : ∀ c, config.registry.find? id = some c →
      Maintains I (SessionM.query config c bounds handler) fun _ => True) :
    Maintains I (query config id bounds handler) fun _ => True := by
  refine fun u hu => ⟨?_, fun _ _ => trivial⟩
  cases hc : config.registry.find? id with
  | none => rwa [query_of_missing hc]
  | some c =>
    obtain ⟨p, hq⟩ := query_of_found (s := u) hc bounds handler
    have hafter := (hrun c hc u.wrapped (hI.same hu rfl rfl rfl)).1
    rw [hq]
    exact hI.same hafter rfl rfl rfl

theorem mutate_blind (hI : Scope.Blind I) (hrun : ∀ c, config.registry.find? id = some c →
      Maintains I (SessionM.mutate config c) fun _ => True) :
    Maintains I (mutate config id) fun _ => True := by
  refine fun u hu => ⟨?_, fun _ _ => trivial⟩
  cases hc : config.registry.find? id with
  | none => rwa [mutate_of_missing hc]
  | some c =>
    obtain ⟨p, hm⟩ := mutate_of_found (s := u) hc
    have hafter := (hrun c hc (u.withDirty true).wrapped (hI.same hu rfl rfl rfl)).1
    rw [hm]
    exact hI.same hafter rfl rfl rfl

theorem selectCursor_blind (hI : Scope.Blind I) {Q : Cursor → Scope → Prop}
    (hQ : ∀ c, Scope.Blind (Q c)) (hrun : ∀ c, config.registry.find? id = some c →
      Leads I (SessionM.openCursor config c bounds) Q I) :
    Leads I (selectCursor config id bounds) Q I := by
  refine .of_outcome fun u hu => ?_
  cases hc : config.registry.find? id with
  | none => exact ⟨_, _, selectCursor_of_missing hc, nofun, fun _ _ => hu⟩
  | some c =>
    obtain ⟨p, hs⟩ := selectCursor_of_found (s := u) hc bounds
    have hwrapped : I u.wrapped := hI.same hu rfl rfl rfl
    refine ⟨_, _, hs, fun a ha => ?_, fun e he => ?_⟩
    · exact (hQ a).same ((hrun c hc).ok (Prod.ext ha rfl) hwrapped) rfl rfl rfl
    · exact hI.same ((hrun c hc).error (Prod.ext he rfl) hwrapped) rfl rfl rfl

theorem clearCache_blind (hI : Scope.Blind I) : Maintains I clearCache fun _ => True := by
  refine SessionM.maintains_of_blind hI fun u => ?_
  cases h : u.session.closed
  · rw [clearCache_of_open h]
    exact ⟨rfl, rfl, rfl⟩
  · rw [clearCache_of_closed h]
    exact ⟨rfl, rfl, rfl⟩

theorem perform_query_maintains {op : Operation} (hop : op.query? = some (id, bounds, handler))
    (hq : Maintains I (query config id bounds handler) fun _ => True) :
    Maintains I (op.perform config) fun _ => True := by
  refine fun u hu => ⟨?_, fun _ _ => trivial⟩
  rw [(perform_query config hop u).state]
  exact (hq u hu).1

theorem finishing_blind (hI : Scope.Blind I) {finish : Transaction → DriverM Unit}
    (hfinish : ∀ u, I u →
      I { u with database := ((finish u.session.transaction).outcome u.database).2 })
    (must : Bool) {x : Except Error α × Scope} (hx : I x.2) : I (finishing must finish x).2 := by
  obtain ⟨e | a, t⟩ := x
  · exact hx
  · have hdone := hfinish t hx
    unfold finishing
    dsimp only
    split
    · rcases hf : (finish t.session.transaction).outcome t.database with ⟨e | _, db⟩ <;>
        rw [hf] at hdone
      · exact hdone
      · exact hI.same hdone rfl rfl rfl
    · exact hI.same hx rfl rfl rfl

end Session

end SqlMapper
