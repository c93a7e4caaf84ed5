import SqlMapper.Cursor
import SqlMapper.Proofs.Session.Apart

namespace SqlMapper.Cursor

open Fallible

variable {kept : List Statement} {db₀ : Database} {c : Cursor}

/-- The statement of `c'` is that of `c`, unless it has been given up. -/
def From (c c' : Cursor) : Prop := ∀ s, c'.statement = some s → c.statement = some s

theorem release_apart (h : ∀ s, c.statement = some s → s ∉ kept) :
    Maintains (db₀.Apart kept) c.release fun c' => c'.statement = none := by
  unfold release
  split
  · next s hs => exact (Statement.closeQuietly_apart (h s hs)).bind fun _ _ => .pure rfl
  · exact .pure rfl

theorem close_apart (h : ∀ s, c.statement = some s → s ∉ kept) :
    Maintains (db₀.Apart kept) c.close c.From := by
  refine (release_apart h).bind fun c' hc' => .pure fun s hs => ?_
  split at hs <;> rw [hc'] at hs <;> cases hs

theorem fetch_maintains {I : Database → Prop} {s : Statement}
    (hnext : Maintains I s.nextRow fun _ => True) (c : Cursor) :
    Maintains I (c.fetch s) fun _ => True := by
  have hskip : Maintains I (c.skipOffset s) fun _ => True := by
    unfold skipOffset
    split
    · exact .pure trivial
    · exact Reading.skipOffset_maintains hnext c.bounds
  refine hskip.bind fun enough _ => ?_
  split
  · split
    · refine hnext.bind fun row _ => ?_
      cases row with
      | none => exact .pure trivial
      | some row =>
        exact (Maintains.ending (V := fun _ => True) fun _ _ => trivial).bind fun _ _ =>
          .pure trivial
    · exact .pure trivial
  · exact .pure trivial

theorem fetch_apart {s : Statement} (c : Cursor) (hs : s ∉ kept) :
    Maintains (db₀.Apart kept) (c.fetch s) fun _ => True :=
  fetch_maintains (Statement.nextRow_apart hs) c

theorem next_apart (h : ∀ s, c.statement = some s → s ∉ kept) :
    Maintains (db₀.Apart kept) c.next fun r => c.From r.2 := by
  unfold next
  split
  · next s _ hs =>
    refine (fetch_apart c (h s hs)).attempt.bind fun r _ => ?_
    split
    · exact .pure fun _ ht => ht
    · exact (release_apart h).bind fun c' hc' => .pure fun t ht => by
        rw [hc'] at ht
        cases ht
    · exact (close_apart h).bind fun c' hc' => .pure hc'
  · exact .pure fun _ ht => ht
  · exact .pure fun _ ht => ht

section Closing

variable {I : Database → Prop} (hclose : ∀ s : Statement, Maintains I s.closeQuietly fun _ => True)

include hclose in
theorem release_maintains (c : Cursor) : Maintains I c.release fun _ => True := by
  unfold release
  split
  · exact (hclose _).bind fun _ _ => .pure trivial
  · exact .pure trivial

include hclose in
theorem close_maintains (c : Cursor) : Maintains I c.close fun _ => True :=
  (release_maintains hclose c).bind fun _ _ => .pure trivial

include hclose in
theorem next_maintains (hnext : ∀ s : Statement, Maintains I s.nextRow fun _ => True) (c : Cursor) :
    Maintains I c.next fun _ => True := by
  unfold next
  split
  · refine (fetch_maintains (hnext _) c).attempt.bind fun r _ => ?_
    split
    · exact .pure trivial
    · exact (release_maintains hclose c).bind fun _ _ => .pure trivial
    · exact (close_maintains hclose c).bind fun _ _ => .pure trivial
  · exact .pure trivial
  · exact .pure trivial

end Closing

end SqlMapper.Cursor
