import SqlMapper.Proofs.Session.Attending

namespace SqlMapper

open Fallible

/-- `K` is said of the kept statements between two runs of commands, and `R` is said of them and of
the statement that is ready to be executed for an invocation. -/
structure Serving (config : Configuration) (K : NameMap Statement → Database → Prop)
    (R : Invocation → Statement → NameMap Statement → Database → Prop) : Prop where
  idle {m : NameMap Statement} {db db' : Database} (hdb : db.Idles db') (h : K m db) : K m db'
  created {m : NameMap Statement} {i : Invocation} (hi : config.Invokes i) (timeout : Option Nat)
    (c : Connection) :
    Leads (K m) (i.prepare config.settings timeout c) (fun s => R i s m) (K m)
  kept {m : NameMap Statement} {i : Invocation} {s : Statement} {db : Database} (h : R i s m db) :
    R i s (m.insert i.bound.sql s) db
  dropped {m : NameMap Statement} {sql : String} {db : Database} (h : K m db) : K (m.erase sql) db
  again {m : NameMap Statement} {i : Invocation} {s : Statement} (hi : config.Invokes i)
    (hs : m.get? i.bound.sql = some s) (timeout : Option Nat) :
    Leads (K m) (i.applySettings config.settings timeout s) (fun _ => R i s m) (K m)
  given {m : NameMap Statement} {i : Invocation} {s : Statement} (p : Parameter) :
    Leads (R i s m) (i.parameterize p s) (fun _ => R i s m) (K m)
  executed {m : NameMap Statement} {i : Invocation} {s : Statement} :
    Leads (R i s m) (i.execute s) (fun _ => K m) (K m)
  emptied {m : NameMap Statement} {db : Database} (h : K m db) : K [] db

def Strategy.Reuses (P : NameMap Statement → Database → Prop) (st : Strategy) (db : Database) :
    Prop :=
  ∃ m, st = .reuse m ∧ P m db

variable {α : Type} {config : Configuration} {timeout : Option Nat}
  {K P E : NameMap Statement → Database → Prop}
  {R : Invocation → Statement → NameMap Statement → Database → Prop}

theorem Strategy.reuses_leads {st : Strategy} {x : DriverM α}
    {Q : α → NameMap Statement → Database → Prop} (h : ∀ m, Leads (P m) x (fun a => Q a m) (E m)) :
    Leads (st.Reuses P) x (fun a => st.Reuses (Q a)) (st.Reuses E) := by
  rintro db ⟨m, rfl, hdb⟩
  exact ⟨fun a t hx => ⟨m, rfl, (h m).ok hx hdb⟩, fun e t hx => ⟨m, rfl, (h m).error hx hdb⟩⟩

theorem Serving.attending (hS : Serving config K R) :
    Attending config .reuse timeout (fun i _ => config.Invokes i) (fun _ _ => True)
      (Strategy.Reuses K) (fun i s => Strategy.Reuses (R i s))
      fun i _ s => Strategy.Reuses (R i s) where
  idle hdb := by
    rintro ⟨m, hst, hm⟩
    exact ⟨m, hst, hS.idle hdb hm⟩
  created _ hi c := Strategy.reuses_leads fun _ => hS.created hi timeout c
  again {m i p s} _ hi hs := by
    rintro db ⟨m', hm, hdb⟩
    cases hm
    have hleads := hS.again hi hs timeout
    exact ⟨fun a t hx => ⟨m, rfl, hleads.ok hx hdb⟩, fun e t hx => ⟨m, rfl, hleads.error hx hdb⟩⟩
  kept := by
    rintro m i s db ⟨m', hm, hdb⟩
    cases hm
    exact ⟨_, rfl, hS.kept hdb⟩
  dropped := by
    rintro m sql db ⟨m', hm, hdb⟩
    cases hm
    exact ⟨_, rfl, hS.dropped hdb⟩
  given {st i p s} _ := Strategy.reuses_leads fun _ => hS.given p
  executed := Strategy.reuses_leads fun _ => hS.executed
  joined := nofun
  queued := nofun
  sent := nofun
  emptied := by
    rintro st db ⟨m, -, hdb⟩
    exact ⟨[], rfl, hS.emptied hdb⟩

/-- What is said of the kept statements between two runs is so after every run of a session. -/
theorem Run.serves (hS : Serving config K R) {start w : World} {past : List Turn}
    (hstart : start.session.strategy.Reuses K start.database) (hr : Run config start past w) :
    w.session.strategy.Reuses K w.database := by
  have hrests : (w.scope .absent).Rests .reuse start.session.transaction.timeout
      (Strategy.Reuses K) := by
    induction hr with
    | start =>
      refine ⟨?_, rfl, hstart⟩
      obtain ⟨m, hm, -⟩ := hstart
      change start.session.strategy.executorType = .reuse
      rw [hm]
      rfl
    | turn _ step ih =>
      exact World.turn_rests hS.attending (fun _ _ _ _ _ h => h.invokes) (fun _ _ => trivial) ih
  exact hrests.kept

end SqlMapper
