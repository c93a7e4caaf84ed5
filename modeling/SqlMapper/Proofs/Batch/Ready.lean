import SqlMapper.Proofs.Batch.Sending

namespace SqlMapper.Batch

open Fallible

def statements (queue : List QueuedStatement) : List Statement := queue.map (·.statement)

/-- A queue whose statements are open, hold an entry for each parameter object and were created one
after the other. -/
structure Ready (queue : List QueuedStatement) (db : Database) : Prop where
  made : ∀ q ∈ queue, q.statement.index < db.statements.length
  isOpen : ∀ q ∈ queue, (db.statement q.statement).closed = false
  entries : ∀ q ∈ queue, (db.statement q.statement).batch.length = q.parameters.length
  increasing : queue.Pairwise fun q q' => q.statement.index < q'.statement.index

namespace Ready

variable {q : QueuedStatement} {queue rest : List QueuedStatement} {db db' : Database}

theorem made_statements (h : Ready queue db) :
    ∀ s ∈ statements queue, s.index < db.statements.length := by
  intro s hs
  obtain ⟨q, hq, rfl⟩ := List.mem_map.mp hs
  exact h.made q hq

theorem of_append {done : List QueuedStatement} (h : Ready (done ++ rest) db) : Ready rest db :=
  ⟨fun q hq => h.made q (List.mem_append_right _ hq),
    fun q hq => h.isOpen q (List.mem_append_right _ hq),
    fun q hq => h.entries q (List.mem_append_right _ hq),
    (List.pairwise_append.mp h.increasing).2.1⟩

theorem init {done : List QueuedStatement} (h : Ready (done ++ rest) db) : Ready done db :=
  ⟨fun q hq => h.made q (List.mem_append_left _ hq),
    fun q hq => h.isOpen q (List.mem_append_left _ hq),
    fun q hq => h.entries q (List.mem_append_left _ hq),
    (List.pairwise_append.mp h.increasing).1⟩

theorem tail (h : Ready (q :: rest) db) : Ready rest db := @of_append rest db [q] h

theorem head_not_mem (h : Ready (q :: rest) db) : q.statement ∉ statements rest := by
  intro hm
  obtain ⟨q', hq', he⟩ := List.mem_map.mp hm
  exact Statement.ne_of_index_lt ((List.pairwise_cons.mp h.increasing).1 q' hq') he.symm

theorem last_not_mem (h : Ready (queue ++ [q]) db) : q.statement ∉ statements queue := by
  intro hm
  obtain ⟨q', hq', he⟩ := List.mem_map.mp hm
  have hlt := (List.pairwise_append.mp h.increasing).2.2 q' hq' q (List.mem_singleton_self q)
  exact Statement.ne_of_index_lt hlt he

theorem eq_of_statement (h : Ready queue db) {q' : QueuedStatement} (hq : q ∈ queue)
    (hq' : q' ∈ queue) (hs : q.statement = q'.statement) : q = q' := by
  obtain ⟨i, hi, rfl⟩ := List.getElem_of_mem hq
  obtain ⟨j, hj, rfl⟩ := List.getElem_of_mem hq'
  have hne : ∀ {k l : Nat} (hk : k < queue.length) (hl : l < queue.length), k < l →
      queue[k].statement ≠ queue[l].statement := fun {k l} hk hl hlt =>
    Statement.ne_of_index_lt (List.pairwise_iff_getElem.mp h.increasing k l hk hl hlt)
  obtain hlt | rfl | hlt := Nat.lt_trichotomy i j
  · exact absurd hs (hne hi hj hlt)
  · rfl
  · exact absurd hs.symm (hne hj hi hlt)

theorem beside (h : Ready queue db) (hb : db.Beside (statements queue) db') : Ready queue db' where
  made q hq := hb.made _ (List.mem_map_of_mem hq)
  isOpen q hq := by rw [hb.same _ (List.mem_map_of_mem hq), h.isOpen q hq]
  entries q hq := by rw [hb.same _ (List.mem_map_of_mem hq), h.entries q hq]
  increasing := h.increasing

theorem counts_length {counts : List Int}
    (h : Ready (q :: rest) db) (hx : q.statement.executeBatch.outcome db = (.ok counts, db')) :
    counts.length = q.parameters.length := by
  have hq : q ∈ q :: rest := List.mem_cons_self
  obtain ⟨r, _, _, hout, -, hlength⟩ := Statement.executeBatch_of_open (h.isOpen q hq)
  rw [hx] at hout
  rw [hlength counts (congrArg Prod.fst hout).symm, h.entries q hq]

theorem record (h : Ready queue db) (call : Call) (o : CallOutcome) :
    Ready queue (db.record call o) := ⟨h.made, h.isOpen, h.entries, h.increasing⟩

end Ready

/-- `t` comes from `s` by calls that left the statements in `kept` alone, left these marks and tried
to close these statements; of the session only the transaction may have changed. -/
structure Advance (kept : List Statement) (marks : List Mark) (closes : List Statement)
    (s t : Scope) : Prop where
  beside : s.database.Beside kept t.database
  session : { t.session with transaction := s.session.transaction } = s.session
  log : ∃ calls, t.database.log = s.database.log ++ calls ∧ calls.filterMap LogEntry.mark? = marks ∧
    ∀ c ∈ closes, ∃ sql o, ⟨.closeStatement c sql, o⟩ ∈ calls

variable {kept : List Statement} {s t u : Scope}

namespace Advance

variable {marks marks' : List Mark} {closes closes' : List Statement}

theorem of_apart (h : s.Apart kept t) : Advance kept [] [] s t where
  beside := .of_apart h.database
  session := h.session
  log := by
    obtain ⟨calls, hc, hm⟩ := h.database.log
    exact ⟨calls, hc, hm, fun c hc => absurd hc List.not_mem_nil⟩

theorem trans (h : Advance kept marks closes s t) (h' : Advance kept marks' closes' t u) :
    Advance kept (marks ++ marks') (closes ++ closes') s u where
  beside := h.beside.trans h'.beside
  session := by
    rw [← h.session, ← h'.session]
  log := by
    obtain ⟨calls, hc, hm, hcl⟩ := h.log
    obtain ⟨calls', hc', hm', hcl'⟩ := h'.log
    refine ⟨calls ++ calls', by rw [hc', hc, List.append_assoc], by rw [List.filterMap_append, hm, hm'],
      fun c hmem => ?_⟩
    obtain hmem | hmem := List.mem_append.mp hmem
    · obtain ⟨sql, o, hx⟩ := hcl c hmem
      exact ⟨sql, o, List.mem_append_left _ hx⟩
    · obtain ⟨sql, o, hx⟩ := hcl' c hmem
      exact ⟨sql, o, List.mem_append_right _ hx⟩

theorem mono {fewer : List Statement} (h : Advance kept marks closes s t)
    (hf : ∀ s ∈ fewer, s ∈ kept) : Advance fewer marks closes s t :=
  ⟨h.beside.mono hf, h.session, h.log⟩

theorem alone (h : Advance kept marks closes s t) : Advance [] marks closes s t := h.mono nofun

end Advance

theorem closing_advance {q : QueuedStatement}
    (hkept : ∀ s' ∈ kept, s'.index < s.database.statements.length) (hq : q.statement ∉ kept)
    (hopen : (s.database.statement q.statement).closed = false) :
    Advance kept [] [q.statement] s (closing q s) := by
  have hapart := (Statement.closeQuietly_apart hq _ (.refl hkept)).1
  obtain ⟨sql, o, hlog⟩ := Statement.closeQuietly_log hopen
  refine ⟨.of_apart hapart, rfl, _, hlog, ?_, fun c hc => ?_⟩
  · obtain ⟨calls, hc, hm⟩ := hapart.log
    rw [hlog] at hc
    rwa [List.append_cancel_left hc]
  · cases List.mem_singleton.mp hc
    exact ⟨sql, o, List.mem_singleton_self _⟩

theorem executing_advance {q : QueuedStatement} {r : Except Error (List Int)} {db : Database}
    (hkept : ∀ s' ∈ kept, s'.index < s.database.statements.length) (hq : q.statement ∉ kept)
    (hmade : q.statement.index < s.database.statements.length)
    (hopen : (s.database.statement q.statement).closed = false)
    (hx : q.statement.executeBatch.outcome s.database = (r, db)) :
    Advance kept [.sent q.statement (s.database.statement q.statement).batch.length (.ofResult r)] []
        s { s with database := db } ∧
      q.statement.index < db.statements.length ∧ (db.statement q.statement).closed = false := by
  obtain ⟨r', sql, f, hout, hclosed, -⟩ := Statement.executeBatch_of_open hopen
  cases hx.symm.trans hout
  refine ⟨⟨(Database.Beside.change hkept hq f).record _ _, rfl, _, rfl, rfl, fun c hc => ?_⟩, ?_, ?_⟩
  · cases hc
  · simpa [Database.record] using hmade
  · change ((s.database.change q.statement f).statement q.statement).closed = false
    rw [Database.statement_change_self hmade, hclosed, hopen]

theorem sending_advance {config : Configuration} {q : QueuedStatement}
    {r : Except (Error × List Int) BatchResult}
    (hkept : ∀ s' ∈ kept, s'.index < s.database.statements.length) (hq : q.statement ∉ kept)
    (hmade : q.statement.index < s.database.statements.length)
    (hopen : (s.database.statement q.statement).closed = false) (h : Sending config q s r t) :
    ∃ o, o ≠ .refused ∧ (∀ b, r = .ok b → o = .succeeded) ∧
      Advance kept [.sent q.statement (s.database.statement q.statement).batch.length o]
        [q.statement] s t := by
  have hrest : ∀ {db : Database} {u v : Scope} {m : List Mark} {x : Except Error (List Parameter)}
      {counts : List Int},
      Advance kept m [] s u → u.database = db → q.statement.index < db.statements.length →
      (db.statement q.statement).closed = false →
      (Keys.afterBatch config q.command q.statement q.parameters counts).outcome u = (x, v) →
      Advance kept m [q.statement] s (closing q v) := by
    rintro db u v m x counts hu rfl hm ho hk
    have hapart : u.Apart (q.statement :: kept) v := by
      refine Fallible.kept hk (Keys.afterBatch_apart config _ _ _ _) (.refl fun t ht => ?_)
      obtain rfl | ht := List.mem_cons.mp ht
      · exact hm
      · exact hu.beside.made t ht
    have hv : Advance kept [] [] u v :=
      .mono (.of_apart hapart) fun t ht => List.mem_cons_of_mem _ ht
    have hsame := hapart.database.same q.statement List.mem_cons_self
    have hclose := closing_advance hv.beside.made hq (s := v) (by rw [hsame, ho])
    simpa using (hu.trans hv).trans hclose
  cases h with
  | @refused e db hx =>
    obtain ⟨ha, hm, ho⟩ := executing_advance hkept hq hmade hopen hx
    refine ⟨.failed, nofun, nofun, ?_⟩
    simpa [CallOutcome.ofResult] using ha.trans (closing_advance ha.beside.made hq ho)
  | keyless hx hk =>
    obtain ⟨ha, hm, ho⟩ := executing_advance hkept hq hmade hopen hx
    exact ⟨.succeeded, nofun, nofun, hrest ha rfl hm ho hk⟩
  | done hx hk =>
    obtain ⟨ha, hm, ho⟩ := executing_advance hkept hq hmade hopen hx
    exact ⟨.succeeded, nofun, fun _ _ => rfl, hrest ha rfl hm ho hk⟩

variable {config : Configuration} {q : QueuedStatement} {queue rest done : List QueuedStatement}
  {results : List BatchResult}

/-- The mark of a queued statement whose entries were all executed. -/
def sentMark (q : QueuedStatement) : Mark := .sent q.statement q.parameters.length .succeeded

theorem sends_advance (hready : Ready (done ++ rest) s.database)
    (h : Sends config s done results t) :
    Advance (statements rest) (done.map sentMark) (statements done) s t := by
  induction h with
  | nil s => exact .of_apart (.refl hready.made_statements)
  | @cons s t u q done r results hq hsends ih =>
    have hq' : q ∈ q :: (done ++ rest) := List.mem_cons_self
    obtain ⟨o, -, ho, ha⟩ := sending_advance hready.tail.made_statements hready.head_not_mem
      (hready.made q hq') (hready.isOpen q hq') hq
    have hrest := ih (hready.tail.beside ha.beside)
    cases ho r rfl
    rw [hready.entries q hq'] at ha
    have hkept : ∀ s ∈ statements rest, s ∈ statements (done ++ rest) := fun s hs => by
      simp only [statements, List.map_append, List.mem_append] at hs ⊢
      exact .inr hs
    exact (ha.mono hkept).trans hrest

theorem closed_advance (hready : Ready queue s.database) :
    Advance [] [] (statements queue) s (closed queue s) := by
  induction queue generalizing s with
  | nil => exact .of_apart (.self _)
  | cons q rest ih =>
    have hq : q ∈ q :: rest := List.mem_cons_self
    have ha := closing_advance hready.tail.made_statements hready.head_not_mem (hready.isOpen q hq)
    have hrest := ih (hready.tail.beside ha.beside)
    have hclosed : closed (q :: rest) s = closed rest (closing q s) := by
      unfold closed closing
      change { s with database := ((q.statement.closeQuietly >>= fun _ => closeAll rest).outcome
        s.database).2 } = _
      rw [outcome_bind_of_ok (Prod.ext (q.statement.closeQuietly_ok s.database) rfl)]
    rw [hclosed]
    exact ha.alone.trans hrest

theorem failed_advance {e : Error} {counts : List Int}
    (hready : Ready (done ++ q :: rest) s.database) (h : Sends config s done results t)
    (hq : Sending config q t (.error (e, counts)) u) :
    ∃ o, o ≠ .refused ∧
      Advance [] (done.map sentMark ++ [.sent q.statement q.parameters.length o])
        (statements (done ++ q :: rest)) s (closed rest u) := by
  have hmem : q ∈ q :: rest := List.mem_cons_self
  have hdone := sends_advance hready h
  have hrest := hready.of_append.beside hdone.beside
  obtain ⟨o, ho, -, ha⟩ := sending_advance hrest.tail.made_statements hrest.head_not_mem
    (hrest.made q hmem) (hrest.isOpen q hmem) hq
  rw [hrest.entries q hmem] at ha
  have hclosed := closed_advance (hrest.tail.beside ha.beside)
  refine ⟨o, ho, ?_⟩
  have hall := (hdone.alone.trans ha.alone).trans hclosed
  simpa [statements] using hall

end SqlMapper.Batch
