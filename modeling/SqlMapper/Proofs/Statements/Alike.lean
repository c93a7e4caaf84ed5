import SqlMapper.Proofs.Database.Alike
import SqlMapper.Proofs.Database.Batch
import SqlMapper.Proofs.Database.Custody
import SqlMapper.Proofs.Session.Execution

namespace SqlMapper

open Fallible Database

/-- An open statement that has the invocation's text when it is executed for it. -/
structure Invocation.Fits (i : Invocation) (t : StatementState) : Prop where
  isOpen : t.closed = false
  batch : t.batch = []
  text : i.text.getD t.sql = i.bound.sql

/-- The statement can be used for any of the runs with the text it is kept for, and a statement of
its own could be created for any of them. -/
structure Database.Keeps (D : Invocation → Prop) (db : Database) (e : String × Statement) : Prop where
  made : e.2.index < db.statements.length
  fits : ∀ i, D i → i.bound.sql = e.1 → i.Fits (db.statement e.2)
  prepares : ∀ i, D i → i.bound.sql = e.1 →
    (db.script.response 0 i.form.sql).prepareError = none

/-- The databases answer alike and show the same. Statements that stand for each other by `H` are in
the same state, and the second database has more of them, kept in `m` for the runs in `D`. -/
structure Database.Alike (D : Invocation → Prop) (H : Statement → Statement → Prop)
    (m : NameMap Statement) (db db' : Database) : Prop where
  fixed : db.Fixed
  script : db'.script = db.script
  faults : db'.faults = db.faults
  connections : db'.connections = db.connections
  shown : LogEntry.shown db'.log = LogEntry.shown db.log
  made : ∀ s s', H s s' → s.index < db.statements.length ∧ s'.index < db'.statements.length
  same : ∀ s s', H s s' → db'.statement s' = db.statement s
  kept : ∀ e ∈ m, db'.Keeps D e
  one : ∀ e ∈ m, ∀ e' ∈ m, e.2 = e'.2 → e.1 = e'.1
  apart : ∀ e ∈ m, ∀ s, ¬ H s e.2

/-- Besides, `s` and `s'` are in use for the text and stand for none of the others. -/
structure Database.Using (D : Invocation → Prop) (H : Statement → Statement → Prop)
    (m : NameMap Statement) (sql : String) (s s' : Statement) (db db' : Database) : Prop where
  alike : Alike D H m db db'
  made : s.index < db.statements.length
  made' : s'.index < db'.statements.length
  others : ∀ t t', H t t' → t ≠ s ∧ t' ≠ s'
  own : ∀ e ∈ m, e.2 = s' → e.1 = sql

structure Database.Fitting (D : Invocation → Prop) (H : Statement → Statement → Prop)
    (m : NameMap Statement) (i : Invocation) (s s' : Statement) (db db' : Database) : Prop extends
    Using D H m i.bound.sql s s' db db' where
  fits : i.Fits (db.statement s)
  fits' : i.Fits (db'.statement s')
  prepares : (db.script.response 0 i.form.sql).prepareError = none

structure Database.Twin (D : Invocation → Prop) (H : Statement → Statement → Prop)
    (m : NameMap Statement) (sql : String) (s s' : Statement) (db db' : Database) : Prop extends
    Using D H m sql s s' db db' where
  same : db'.statement s' = db.statement s

structure Database.Later (db d : Database) : Prop where
  script : d.script = db.script
  faults : d.faults = db.faults
  length : db.statements.length ≤ d.statements.length

/-- Runs with one text are of one kind. -/
def Invocation.Uniform (D : Invocation → Prop) : Prop :=
  ∀ i j, D i → D j → i.bound.sql = j.bound.sql →
    i.command.statementKind = j.command.statementKind

variable {D : Invocation → Prop} {H : Statement → Statement → Prop} {m : NameMap Statement}
  {sql : String} {i j : Invocation} {s s' : Statement} {db db' d d' : Database}

namespace Invocation

theorem fits_created (i : Invocation) : i.Fits (.created i.form.sql) where
  isOpen := rfl
  batch := rfl
  text := i.text_getD_form

/-- For runs of one kind with one text statements can be used in the same way. -/
theorem alike_of_kind (hsql : i.bound.sql = j.bound.sql)
    (hkind : i.command.statementKind = j.command.statementKind) :
    i.text = j.text ∧ i.form.sql = j.form.sql := by
  unfold text form
  rw [hkind, hsql]
  cases j.command.statementKind <;> exact ⟨rfl, rfl⟩

end Invocation

namespace Database

theorem Later.fixed (h : db.Later d) (hdb : db.Fixed) : d.Fixed :=
  ⟨by rw [h.script]; exact hdb.script, by rw [h.faults]; exact hdb.faults⟩

theorem Later.trans {d₁ : Database} (h : db.Later d) (h₁ : d.Later d₁) : db.Later d₁ :=
  ⟨h₁.script.trans h.script, h₁.faults.trans h.faults, Nat.le_trans h.length h₁.length⟩

theorem later_record (db : Database) (call : Call) (o : CallOutcome) : db.Later (db.record call o) :=
  ⟨rfl, rfl, Nat.le_refl _⟩

theorem later_change (db : Database) (s : Statement) (f : StatementState → StatementState) :
    db.Later (db.change s f) :=
  ⟨rfl, rfl, by simp⟩

theorem later_adding (db : Database) (sql : String) : db.Later (db.adding sql) :=
  ⟨rfl, rfl, by simp⟩

namespace Alike

variable (h : Alike D H m db db')
include h

theorem fixed' : db'.Fixed :=
  ⟨by rw [h.script]; exact h.fixed.script, by rw [h.faults]; exact h.fixed.faults⟩

theorem response (sql : String) : db'.response sql = db.response sql := by
  rw [h.fixed.response, h.fixed'.response, h.script]

theorem update (hd : db.Later d) (hd' : db'.Later d') (hconnections : d'.connections = d.connections)
    (hshown : LogEntry.shown d'.log = LogEntry.shown d.log)
    (hheld : ∀ s s', H s s' → d.statement s = db.statement s ∧ d'.statement s' = db'.statement s')
    (hkept : ∀ e ∈ m, ∀ i : Invocation, i.bound.sql = e.1 → i.Fits (db'.statement e.2) →
      i.Fits (d'.statement e.2)) : Alike D H m d d' where
  fixed := hd.fixed h.fixed
  script := by rw [hd'.script, hd.script, h.script]
  faults := by rw [hd'.faults, hd.faults, h.faults]
  connections := hconnections
  shown := hshown
  made s s' hs := ⟨Nat.lt_of_lt_of_le (h.made s s' hs).1 hd.length,
    Nat.lt_of_lt_of_le (h.made s s' hs).2 hd'.length⟩
  same s s' hs := by rw [(hheld s s' hs).1, (hheld s s' hs).2, h.same s s' hs]
  kept e he := ⟨Nat.lt_of_lt_of_le (h.kept e he).made hd'.length,
    fun i hi hsql => hkept e he i hsql ((h.kept e he).fits i hi hsql), by
      rw [hd'.script]
      exact (h.kept e he).prepares⟩
  one := h.one
  apart := h.apart

omit h in
theorem steady : Steady (Alike D H m) where
  fixed h := ⟨h.fixed, h.fixed'⟩
  connections h := h.connections
  record {db db' _ _ _} h hshown := h.update (db.later_record _ _) (db'.later_record _ _) h.connections
    (by rw [shown_record, shown_record, h.shown, hshown]) (fun _ _ _ => ⟨rfl, rfl⟩)
    fun _ _ _ _ hfits => hfits
  reconnect h l := h.update ⟨rfl, rfl, Nat.le_refl _⟩ ⟨rfl, rfl, Nat.le_refl _⟩ rfl h.shown
    (fun _ _ _ => ⟨rfl, rfl⟩) fun _ _ _ _ hfits => hfits

end Alike

theorem Using.steady : Steady (Using D H m sql s s') where
  fixed h := Alike.steady.fixed h.alike
  connections h := h.alike.connections
  record h hshown := ⟨Alike.steady.record h.alike hshown, h.made, h.made', h.others, h.own⟩
  reconnect h l := ⟨Alike.steady.reconnect h.alike l, h.made, h.made', h.others, h.own⟩

theorem Fitting.steady : Steady (Fitting D H m i s s') where
  fixed h := Alike.steady.fixed h.alike
  connections h := h.alike.connections
  record h hshown := ⟨Using.steady.record h.toUsing hshown, h.fits, h.fits', h.prepares⟩
  reconnect h l := ⟨Using.steady.reconnect h.toUsing l, h.fits, h.fits', h.prepares⟩

theorem Twin.steady : Steady (Twin D H m sql s s') where
  fixed h := Alike.steady.fixed h.alike
  connections h := h.alike.connections
  record h hshown := ⟨Using.steady.record h.toUsing hshown, h.same⟩
  reconnect h l := ⟨Using.steady.reconnect h.toUsing l, h.same⟩

/-- A change of a statement after which it is of the same use for the text. -/
structure Gentle (sql : String) (f : StatementState → StatementState) : Prop where
  closed : ∀ t, (f t).closed = t.closed
  batch : ∀ t, (f t).batch = t.batch
  sql : ∀ t, (f t).sql = t.sql ∨ (f t).sql = sql

theorem Gentle.fits {f : StatementState → StatementState} {t : StatementState}
    (hf : Gentle i.bound.sql f) (h : i.Fits t) : i.Fits (f t) where
  isOpen := by rw [hf.closed, h.isOpen]
  batch := by rw [hf.batch, h.batch]
  text := by
    obtain hsql | hsql := hf.sql t <;> rw [hsql]
    · exact h.text
    · unfold Invocation.text
      split <;> rfl

theorem Using.change (h : Using D H m sql s s' db db') (f : StatementState → StatementState)
    {g : StatementState → StatementState} (hg : Gentle sql g) :
    Using D H m sql s s' (db.change s f) (db'.change s' g) where
  alike := by
    refine h.alike.update (db.later_change s f) (db'.later_change s' g) h.alike.connections
      h.alike.shown (fun t t' ht => ?_) fun e he i hi hfits => ?_
    · obtain ⟨hne, hne'⟩ := h.others t t' ht
      exact ⟨statement_change_of_ne hne f, statement_change_of_ne hne' g⟩
    · by_cases hs : e.2 = s'
      · rw [hs, statement_change_self h.made']
        rw [← h.own e he hs, ← hi] at hg
        exact hg.fits (hs ▸ hfits)
      · rwa [statement_change_of_ne hs]
  made := by simpa using h.made
  made' := by simpa using h.made'
  others := h.others
  own := h.own

theorem Twin.change (h : Twin D H m sql s s' db db') {f : StatementState → StatementState}
    (hf : Gentle sql f) : Twin D H m sql s s' (db.change s f) (db'.change s' f) where
  toUsing := h.toUsing.change f hf
  same := by
    rw [statement_change_self h.made, statement_change_self h.made', h.same]

def closing (db : Database) (s : Statement) : Database :=
  if (db.statement s).closed then db
  else (db.change s ({ · with closed := true })).record
    (.closeStatement s (db.statement s).sql) .succeeded

theorem closeQuietly_outcome (h : db.Fixed) (s : Statement) :
    s.closeQuietly.outcome db = (.ok (), db.closing s) := by
  have hclosed : s.isClosed.outcome db = (.ok (db.statement s).closed, db) := rfl
  rw [Statement.closeQuietly, outcome_bind_of_ok hclosed, closing]
  split
  · rfl
  · next hopen =>
    rw [outcome_quietly, Statement.close, outcome_of, h.fault]
    dsimp only
    rw [if_neg hopen]
    rfl

theorem later_closing (db : Database) (s : Statement) : db.Later (db.closing s) := by
  unfold closing
  split
  · exact ⟨rfl, rfl, Nat.le_refl _⟩
  · exact ⟨rfl, rfl, by simp [record]⟩

@[simp] theorem closing_connections (db : Database) (s : Statement) :
    (db.closing s).connections = db.connections := by
  unfold closing
  split <;> rfl

@[simp] theorem closing_shown (db : Database) (s : Statement) :
    LogEntry.shown (db.closing s).log = LogEntry.shown db.log := by
  unfold closing
  split
  · rfl
  · rw [shown_record]
    exact List.append_nil _

theorem statement_closing_of_ne {t : Statement} (ht : t ≠ s) :
    (db.closing s).statement t = db.statement t := by
  unfold closing
  split
  · rfl
  · exact statement_change_of_ne ht _

theorem statement_closing_self (h : s.index < db.statements.length) :
    (db.closing s).statement s = { db.statement s with closed := true } := by
  unfold closing
  split
  · next hclosed => rw [← hclosed]
  · exact statement_change_self h _

theorem Alike.closing_left (h : Alike D H m db db') (hs : ∀ t t', H t t' → t ≠ s) :
    Alike D H m (db.closing s) db' :=
  h.update (db.later_closing s) ⟨rfl, rfl, Nat.le_refl _⟩ (by simpa using h.connections)
    (by simpa using h.shown) (fun t t' ht => ⟨statement_closing_of_ne (hs t t' ht), rfl⟩)
    fun _ _ _ _ hfits => hfits

theorem Alike.closing_right (h : Alike D H m db db') (hs : ∀ t t', H t t' → t' ≠ s')
    (hnew : ∀ e ∈ m, e.2 ≠ s') : Alike D H m db (db'.closing s') := by
  refine h.update ⟨rfl, rfl, Nat.le_refl _⟩ (db'.later_closing s') (by simpa using h.connections)
    (by simpa using h.shown) (fun t t' ht => ⟨rfl, statement_closing_of_ne (hs t t' ht)⟩)
    fun e he i _ hfits => ?_
  rwa [statement_closing_of_ne (hnew e he)]

theorem Using.closing (h : Using D H m sql s s' db db') (hnew : ∀ e ∈ m, e.2 ≠ s') :
    Alike D H m (db.closing s) (db'.closing s') :=
  (h.alike.closing_left fun t t' ht => (h.others t t' ht).1).closing_right
    (fun t t' ht => (h.others t t' ht).2) hnew

theorem Twin.closing (h : Twin D H m sql s s' db db') (hnew : ∀ e ∈ m, e.2 ≠ s') :
    Twin D H m sql s s' (db.closing s) (db'.closing s') where
  alike := h.toUsing.closing hnew
  made := Nat.lt_of_lt_of_le h.made (db.later_closing s).length
  made' := Nat.lt_of_lt_of_le h.made' (db'.later_closing s').length
  others := h.others
  own := h.own
  same := by rw [statement_closing_self h.made, statement_closing_self h.made', h.same]

theorem Alike.prepare (i : Invocation) (c : Connection) :
    Agrees (Alike D H m) (c.prepare i.form) (c.prepare i.form)
      (fun s s' db db' => Fitting D H m i s s' db db' ∧ ∀ e ∈ m, e.2 ≠ s') (Alike D H m) := by
  refine Agrees.perform (P := Alike D H m) (E := Alike D H m)
    (fun db db' h => by rw [h.response]) (fun db db' h _ => Alike.steady.record h rfl)
    fun db db' h hnone => ?_
  have hothers : ∀ t t', H t t' → t ≠ ⟨db.statements.length⟩ ∧ t' ≠ ⟨db'.statements.length⟩ := by
    intro t t' ht
    obtain ⟨hlt, hlt'⟩ := h.made t t' ht
    exact ⟨Statement.ne_of_index_lt hlt, Statement.ne_of_index_lt hlt'⟩
  have hnew : ∀ e ∈ m, e.2 ≠ ⟨db'.statements.length⟩ := fun e he =>
    Statement.ne_of_index_lt (h.kept e he).made
  have hadding : Alike D H m (db.adding i.form.sql) (db'.adding i.form.sql) := by
    refine h.update (db.later_adding _) (db'.later_adding _) h.connections h.shown
      (fun t t' ht => ?_) fun e he j _ hfits => ?_
    · exact ⟨statement_adding (h.made t t' ht).1, statement_adding (h.made t t' ht).2⟩
    · rwa [statement_adding (h.kept e he).made]
  have husing : Using D H m i.bound.sql ⟨db.statements.length⟩ ⟨db'.statements.length⟩
      (db.adding i.form.sql) (db'.adding i.form.sql) :=
    ⟨hadding, by simp, by simp, hothers, fun e he hs => absurd hs (hnew e he)⟩
  have hfitting : Fitting D H m i ⟨db.statements.length⟩ ⟨db'.statements.length⟩
      (db.adding i.form.sql) (db'.adding i.form.sql) := by
    refine ⟨husing, ?_, ?_, ?_⟩
    · rw [statement_adding_new]
      exact i.fits_created
    · rw [statement_adding_new]
      exact i.fits_created
    · rw [h.fixed.response] at hnone
      exact Option.map_eq_none_iff.mp hnone
  exact .ok ⟨Fitting.steady.record hfitting rfl, hnew⟩

theorem Alike.prepare_left (h : Alike D H m db db') (hi : D i) (hs : (i.bound.sql, s') ∈ m)
    (c : Connection) :
    ∃ s d, (c.prepare i.form).outcome db = (.ok s, d) ∧ Fitting D H m i s s' d db' := by
  have hkept := h.kept _ hs
  have hprepares := hkept.prepares i hi rfl
  rw [h.script] at hprepares
  refine ⟨⟨db.statements.length⟩, (db.adding i.form.sql).record
    (.prepare c ⟨db.statements.length⟩ i.form) .succeeded, ?_, ⟨⟨?_, ?_, hkept.made, ?_, ?_⟩, ?_,
    hkept.fits i hi rfl, hprepares⟩⟩
  · rw [Connection.prepare, outcome_of, h.fixed.response, hprepares]
    rfl
  · refine h.update ((db.later_adding _).trans (later_record _ _ _)) ⟨rfl, rfl, Nat.le_refl _⟩
      h.connections ?_ (fun t t' ht => ?_) fun _ _ _ _ hfits => hfits
    · rw [shown_record]
      exact h.shown.trans (List.append_nil _).symm
    · exact ⟨statement_adding (h.made t t' ht).1, rfl⟩
  · simp [record]
  · intro t t' ht
    refine ⟨Statement.ne_of_index_lt (h.made t t' ht).1, ?_⟩
    rintro rfl
    exact h.apart _ hs t ht
  · exact fun e he hsame => h.one e he _ hs hsame
  · change i.Fits ((db.adding i.form.sql).statement _)
    rw [statement_adding_new]
    exact i.fits_created

theorem Alike.emptied (h : Alike D H m db db') : Alike D H [] db db' :=
  ⟨h.fixed, h.script, h.faults, h.connections, h.shown, h.made, h.same, nofun, nofun, nofun⟩

theorem Alike.closing_all (h : Alike D H [] db db') {l : NameMap Statement}
    (hl : ∀ e ∈ l, ∀ s, ¬ H s e.2) :
    ∃ d, (l.forM fun (_, s) => s.closeQuietly).outcome db' = (.ok (), d) ∧ Alike D H [] db d := by
  induction l generalizing db' with
  | nil => exact ⟨db', rfl, h⟩
  | cons e l ih =>
    obtain ⟨he, hl⟩ := List.forall_mem_cons.mp hl
    have hclosed : Alike D H [] db (db'.closing e.2) :=
      h.closing_right (fun t t' ht hsame => he t (hsame ▸ ht)) nofun
    obtain ⟨d, hd, hrest⟩ := ih hclosed hl
    exact ⟨d, (outcome_bind_of_ok (closeQuietly_outcome h.fixed' e.2)).trans hd, hrest⟩

theorem Fitting.keep (h : Fitting D H m i s s' db db') (hnew : ∀ e ∈ m, e.2 ≠ s')
    (hD : Invocation.Uniform D) (hi : D i) :
    Fitting D H (m.insert i.bound.sql s') i s s' db db' := by
  have hserves : db'.Keeps D (i.bound.sql, s') := by
    refine ⟨h.made', fun j hj hsql => ?_, fun j hj hsql => ?_⟩ <;>
      obtain ⟨htext, hform⟩ := Invocation.alike_of_kind hsql (hD j i hj hi hsql)
    · exact ⟨h.fits'.isOpen, h.fits'.batch, by rw [htext, hsql]; exact h.fits'.text⟩
    · rw [hform, h.alike.script]
      exact h.prepares
  refine ⟨⟨⟨h.alike.fixed, h.alike.script, h.alike.faults, h.alike.connections, h.alike.shown,
    h.alike.made, h.alike.same, fun e he => ?_, fun e he e' he' hsame => ?_, fun e he t ht => ?_⟩,
    h.made, h.made', h.others, fun e he hs => ?_⟩, h.fits, h.fits', h.prepares⟩
  · obtain rfl | he := NameMap.mem_insert he
    · exact hserves
    · exact h.alike.kept e he
  · obtain rfl | he := NameMap.mem_insert he <;> obtain rfl | he' := NameMap.mem_insert he'
    · rfl
    · exact absurd hsame.symm (hnew e' he')
    · exact absurd hsame (hnew e he)
    · exact h.alike.one e he e' he' hsame
  · obtain rfl | he := NameMap.mem_insert he
    · exact (h.others t _ ht).2 rfl
    · exact h.alike.apart e he t ht
  · obtain rfl | he := NameMap.mem_insert he
    · rfl
    · exact h.own e he hs

section Invocations

variable {R : Database → Database → Prop}

theorem applySettings_matches (hR : Steady R) (i : Invocation) (settings : Settings)
    (timeout : Option Nat) (s s' : Statement) :
    Matches R (i.applySettings settings timeout s) (i.applySettings settings timeout s') := by
  have htimeout : ∀ n, Matches R (s.setTimeout n) (s'.setTimeout n) := fun n =>
    .silent hR (fun _ _ h => hR.fault h _) fun _ => rfl
  have hsize : ∀ n, Matches R (s.setFetchSize n) (s'.setFetchSize n) := fun n =>
    .silent hR (fun _ _ h => hR.fault h _) fun _ => rfl
  unfold Invocation.applySettings
  cases i.timeout settings timeout <;> cases i.fetchSize settings
  · exact .pure _
  · exact hsize _
  · exact (htimeout _).bind fun _ => .pure _
  · exact (htimeout _).bind fun _ => hsize _

theorem parameterize_matches (hR : Steady R)
    (hclosed : ∀ db db', R db db' → (db'.statement s').closed = (db.statement s).closed)
    (i : Invocation) (p : Parameter) : Matches R (i.parameterize p s) (i.parameterize p s') := by
  have hregister : ∀ index, Matches R (s.registerOut index) (s'.registerOut index) := fun index =>
    .silent hR (fun _ _ h => hR.fault h _) fun _ => rfl
  have hbind : ∀ index value, Matches R (s.bind index value) (s'.bind index value) :=
    fun index value =>
      .silent hR
        (fun db db' h => by rw [hR.fault h, closedError, closedError, hclosed db db' h])
        fun _ => rfl
  exact (Matches.forM _ fun (c : Nat × String) => hregister c.1).bind fun _ =>
    Matches.forM _ fun (c : Nat × String) => (Matches.ending _).bind fun value =>
      hbind c.1 value

theorem Fitting.parameterize (i : Invocation) (p : Parameter) :
    Matches (Fitting D H m i s s') (i.parameterize p s) (i.parameterize p s') :=
  parameterize_matches steady (fun _ _ h => h.fits'.isOpen.trans h.fits.isOpen.symm) i p

theorem Fitting.execute (i : Invocation) (s s' : Statement) :
    Agrees (Fitting D H m i s s') (i.execute s) (i.execute s')
      (fun _ _ => Twin D H m i.bound.sql s s') (Using D H m i.bound.sql s s') := by
  have hgentle : Gentle i.bound.sql ({ · with sql := i.bound.sql }) :=
    ⟨fun _ => rfl, fun _ => rfl, fun _ => .inr rfl⟩
  refine Agrees.discard ?_
  refine Agrees.perform (P := Fitting D H m i s s') (E := Using D H m i.bound.sql s s')
    (fun db db' h => ?_) (fun db db' h hrefused => ?_) fun db db' h _ => ?_
  · rw [closedError, closedError, h.fits.isOpen, h.fits'.isOpen]
  · rw [closedError, h.fits.isOpen] at hrefused
    exact absurd rfl hrefused
  · rw [h.fits.text, h.fits'.text, h.alike.response]
    dsimp only
    have hanswered : Gentle i.bound.sql fun t =>
        { t with sql := i.bound.sql }.answered (db.response i.bound.sql) :=
      ⟨fun _ => rfl, fun _ => rfl, fun _ => .inr rfl⟩
    split
    · exact .error (Using.steady.record (h.toUsing.change _ hgentle) rfl)
    · refine .ok ⟨Using.steady.record (h.toUsing.change _ hanswered) rfl, ?_⟩
      change ((db'.change s' _).statement s') = (db.change s _).statement s
      rw [statement_change_self h.made, statement_change_self h.made']
      simp [StatementState.answered, h.fits.isOpen, h.fits'.isOpen, h.fits.batch, h.fits'.batch]

theorem closeQuietly_agrees (hnew : ∀ e ∈ m, e.2 ≠ s') :
    Agrees (Using D H m sql s s') s.closeQuietly s'.closeQuietly (fun _ _ => Alike D H m)
      (Alike D H m) := by
  intro db db' h
  rw [closeQuietly_outcome h.alike.fixed, closeQuietly_outcome h.alike.fixed']
  exact .ok (h.closing hnew)

theorem closeQuietly_left (s : Statement) (hs : ∀ t t', H t t' → t ≠ s) (db db' : Database)
    (h : Alike D H m db db') :
    ∃ d, s.closeQuietly.outcome db = (.ok (), d) ∧ Alike D H m d db' :=
  ⟨_, closeQuietly_outcome h.fixed s, h.closing_left hs⟩

theorem Using.closeQuietly_left (db db' : Database) (h : Using D H m sql s s' db db') :
    ∃ d, s.closeQuietly.outcome db = (.ok (), d) ∧ Alike D H m d db' :=
  Database.closeQuietly_left s (fun t t' ht => (h.others t t' ht).1) db db' h.alike

theorem parameterize_agrees (hnew : ∀ e ∈ m, e.2 ≠ s') (i : Invocation) (p : Parameter) :
    Agrees (Fitting D H m i s s') ((i.parameterize p s).orUndo s.closeQuietly)
      ((i.parameterize p s').orUndo s'.closeQuietly) (fun _ _ => Fitting D H m i s s')
      (Alike D H m) :=
  (((Fitting.parameterize i p).weaken_error fun _ _ h => h.toUsing).orUndo
    (closeQuietly_agrees hnew)).weaken_post fun _ _ _ _ h => h.2

theorem parameterize_kept (i : Invocation) (p : Parameter) :
    Agrees (Fitting D H m i s s') ((i.parameterize p s).orUndo s.closeQuietly) (i.parameterize p s')
      (fun _ _ => Fitting D H m i s s') (Alike D H m) :=
  ((Fitting.parameterize i p).orUndo_left fun db db' h =>
    h.toUsing.closeQuietly_left db db').weaken_post fun _ _ _ _ h => h.2

variable (settings : Settings) (timeout : Option Nat) (c : Connection)

theorem prepare_agrees (i : Invocation) :
    Agrees (Alike D H m) (i.prepare settings timeout c) (i.prepare settings timeout c)
      (fun s s' db db' => Fitting D H m i s s' db db' ∧ ∀ e ∈ m, e.2 ≠ s') (Alike D H m) := by
  refine (Alike.prepare i c).bind fun s s' => ?_
  rintro db db' ⟨h, hnew⟩
  have hsettings := applySettings_matches (R := Fitting D H m i s s') Fitting.steady i settings
    timeout s s'
  refine ((hsettings.weaken_error fun _ _ h => h.toUsing).orUndo (closeQuietly_agrees hnew)).bind
    (fun _ _ => .pure fun _ _ h => ⟨h.2, hnew⟩) db db' h

theorem prepare_found (hi : D i) (hs : (i.bound.sql, s') ∈ m) :
    Agrees (Alike D H m) (i.prepare settings timeout c) (i.applySettings settings timeout s')
      (fun s _ => Fitting D H m i s s') (Alike D H m) := by
  intro db db' h
  obtain ⟨s, d, hp, hfitting⟩ := h.prepare_left hi hs c
  have hsettings := applySettings_matches (R := Fitting D H m i s s') Fitting.steady i settings
    timeout s s'
  have hrest := (hsettings.orUndo_left fun d d' h => h.toUsing.closeQuietly_left d d').bind
    (g := pure) (S := fun s _ => Fitting D H m i s s') fun _ _ => .pure (a := s) fun _ _ h => h.2
  rw [bind_pure] at hrest
  rw [Invocation.prepare, outcome_bind_of_ok hp]
  exact hrest d db' hfitting

end Invocations

section Reading

variable (s s')

theorem Twin.nextRow : Matches (Twin D H m sql s s') s.nextRow s'.nextRow := by
  refine Agrees.perform (P := Twin D H m sql s s') (E := Twin D H m sql s s')
    (fun db db' h => by rw [closedError, closedError, h.same])
    (fun db db' h _ => Twin.steady.record h rfl) fun db db' h _ => ?_
  have hgentle : ∀ rows n, Gentle sql ({ · with rows := rows, rowsRead := n }) := fun _ _ =>
    ⟨fun _ => rfl, fun _ => rfl, fun _ => .inl rfl⟩
  rw [h.same]
  dsimp only
  split
  · exact .error (Twin.steady.record h rfl)
  · split
    · exact .ok ⟨rfl, Twin.steady.record h rfl⟩
    · exact .ok ⟨rfl, Twin.steady.record (h.change (hgentle _ _)) rfl⟩

theorem Twin.rowsLeft : Matches (Twin D H m sql s s') s.rowsLeft s'.rowsLeft := by
  intro db db' h
  rw [Statement.rowsLeft, Statement.rowsLeft, outcome_of, outcome_of, h.same]
  exact .ok ⟨rfl, h⟩

theorem Twin.updateCount : Matches (Twin D H m sql s s') s.updateCount s'.updateCount := by
  intro db db' h
  rw [Statement.updateCount, Statement.updateCount, outcome_of, outcome_of, h.same]
  exact .ok ⟨rfl, h⟩

theorem Twin.generatedKeys :
    Matches (Twin D H m sql s s') s.generatedKeys s'.generatedKeys :=
  .quiet Twin.steady
    (fun db => .ok (db.faults.keyRows.getD (db.statement s).generatedKeys))
    (fun db => .ok (db.faults.keyRows.getD (db.statement s').generatedKeys))
    (fun _ _ h => Twin.steady.fault h _) (fun _ _ h => by rw [h.same, h.alike.faults]) fun _ => rfl

theorem Twin.outParameter (index : Nat) :
    Matches (Twin D H m sql s s') (s.outParameter index) (s'.outParameter index) := by
  refine Agrees.perform (P := Twin D H m sql s s') (E := Twin D H m sql s s')
    (fun _ _ _ => rfl) (fun db db' h _ => Twin.steady.record h rfl) fun db db' h _ => ?_
  rw [h.same]
  split
  · exact .ok ⟨rfl, Twin.steady.record h rfl⟩
  · exact .error (Twin.steady.record h rfl)

theorem Twin.skip (n : Nat) :
    Matches (Twin D H m sql s s') (Reading.skip s n) (Reading.skip s' n) := by
  induction n with
  | zero => exact .pure _
  | succ n ih =>
    refine (Twin.nextRow s s').bind fun row => ?_
    cases row with
    | none => exact .pure _
    | some row => exact ih

theorem Twin.steps (n : Nat) :
    Matches (Twin D H m sql s s') (Reading.steps s n) (Reading.steps s' n) :=
  (Twin.rowsLeft s s').bind fun _ => .pure _

theorem Twin.skipOffset (bounds : RowBounds) :
    Matches (Twin D H m sql s s') (Reading.skipOffset s bounds) (Reading.skipOffset s' bounds) :=
  (Twin.steps s s' _).bind fun n => Twin.skip s s' n

theorem Twin.collect (read : Row → Except Error Value) (n : Nat) :
    Matches (Twin D H m sql s s') (Reading.collect s read n) (Reading.collect s' read n) := by
  induction n with
  | zero => exact .pure _
  | succ n ih =>
    refine (Twin.nextRow s s').bind fun row => ?_
    cases row with
    | none => exact .pure _
    | some row => exact (Matches.ending _).bind fun value => ih.bind fun _ => .pure _

end Reading

def Single (H : Statement → Statement → Prop) : Prop :=
  ∀ s s' t t', H s s' → H t t' → (t = s ↔ t' = s')

theorem Alike.twin (hH : Single H) (h : Alike D H m db db') (hs : H s s') :
    Twin D (fun t t' => H t t' ∧ t ≠ s) m sql s s' db db' ∧ ∀ e ∈ m, e.2 ≠ s' := by
  have hnew : ∀ e ∈ m, e.2 ≠ s' := by
    rintro e he rfl
    exact h.apart e he s hs
  obtain ⟨hmade, hmade'⟩ := h.made s s' hs
  refine ⟨⟨⟨⟨h.fixed, h.script, h.faults, h.connections, h.shown, fun t t' ht => h.made t t' ht.1,
    fun t t' ht => h.same t t' ht.1, h.kept, h.one, fun e he t ht => h.apart e he t ht.1⟩, hmade,
    hmade', fun t t' ht => ⟨ht.2, fun hsame => ht.2 ((hH s s' t t' hs ht.1).mpr hsame)⟩,
    fun e he hsame => absurd hsame (hnew e he)⟩, h.same s s' hs⟩, hnew⟩

theorem Twin.alike_of (hH : Single H)
    (h : Twin D (fun t t' => H t t' ∧ t ≠ s) m sql s s' db db') (hs : H s s')
    (hnew : ∀ e ∈ m, e.2 ≠ s') : Alike D H m db db' := by
  have hcases : ∀ t t', H t t' → (t = s ∧ t' = s') ∨ H t t' ∧ t ≠ s := by
    intro t t' ht
    by_cases hts : t = s
    · exact .inl ⟨hts, (hH s s' t t' hs ht).mp hts⟩
    · exact .inr ⟨ht, hts⟩
  have halike := h.alike
  refine ⟨halike.fixed, halike.script, halike.faults, halike.connections, halike.shown,
    fun t t' ht => ?_, fun t t' ht => ?_, halike.kept, halike.one, fun e he t ht => ?_⟩
  · obtain ⟨rfl, rfl⟩ | ht := hcases t t' ht
    · exact ⟨h.made, h.made'⟩
    · exact halike.made t t' ht
  · obtain ⟨rfl, rfl⟩ | ht := hcases t t' ht
    · exact h.same
    · exact halike.same t t' ht
  · obtain ⟨-, hsame⟩ | ht := hcases t e.2 ht
    · exact hnew e he hsame
    · exact halike.apart e he t ht

theorem Twin.hold (h : Twin D H m sql s s' db db') (hnew : ∀ e ∈ m, e.2 ≠ s') :
    Alike D (fun t t' => H t t' ∨ (t = s ∧ t' = s')) m db db' := by
  have halike := h.alike
  refine ⟨halike.fixed, halike.script, halike.faults, halike.connections, halike.shown, ?_, ?_,
    halike.kept, halike.one, ?_⟩
  · rintro t t' (ht | ⟨rfl, rfl⟩)
    · exact halike.made t t' ht
    · exact ⟨h.made, h.made'⟩
  · rintro t t' (ht | ⟨rfl, rfl⟩)
    · exact halike.same t t' ht
    · exact h.same
  · rintro e he t (ht | ⟨-, hsame⟩)
    · exact halike.apart e he t ht
    · exact hnew e he hsame

theorem Single.hold (hH : Single H) (hothers : ∀ t t', H t t' → t ≠ s ∧ t' ≠ s') :
    Single fun t t' => H t t' ∨ (t = s ∧ t' = s') := by
  rintro t t' u u' (ht | ⟨rfl, rfl⟩) (hu | ⟨rfl, rfl⟩)
  · exact hH t t' u u' ht hu
  · obtain ⟨hne, hne'⟩ := hothers t t' ht
    exact ⟨fun hsame => absurd hsame.symm hne, fun hsame => absurd hsame.symm hne'⟩
  · obtain ⟨hne, hne'⟩ := hothers u u' hu
    exact ⟨fun hsame => absurd hsame hne, fun hsame => absurd hsame hne'⟩
  · exact ⟨fun _ => rfl, fun _ => rfl⟩

end Database

end SqlMapper
