import SqlMapper.Proofs.Cursor
import SqlMapper.Proofs.Session.Custody

namespace SqlMapper.Cursor

open Fallible

/-- As long as the cursor is open, and no longer, it has a statement. -/
def Sound (c : Cursor) : Prop := c.state = .isOpen ↔ c.statement ≠ none

theorem Owns.sound {c : Cursor} {s : Statement} (h : c.Owns s) : c.Sound := by
  refine ⟨fun _ => ?_, fun _ => h.isOpen⟩
  rw [h.statement]
  nofun

variable {H : Transaction → List Statement → Database → Prop} {tr : Transaction}
  {held : List Statement} {c : Cursor}

theorem release_holding (hH : Custody H) (held : List Statement) (E : Database → Prop) :
    Leads (Holding H tr (c.statement.toList ++ held)) c.release
      (fun c' db => c' = { c with statement := none } ∧ Holding H tr held db) E := by
  unfold release
  split
  · next s hs =>
    have hheld : c.statement.toList ++ held = s :: held := by
      rw [hs]
      rfl
    rw [hheld]
    exact (s.closeQuietly_holding hH held E).bind fun _ => .pure fun _ h => ⟨rfl, h⟩
  · next hnone =>
    have hheld : c.statement.toList ++ held = held := by
      rw [Option.eq_none_iff_forall_ne_some.mpr hnone]
      rfl
    rw [hheld]
    exact .pure fun _ h => ⟨rfl, h⟩

theorem close_holding (hH : Custody H) (held : List Statement) (E : Database → Prop) :
    Leads (Holding H tr (c.statement.toList ++ held)) c.close
      (fun c' db => c'.statement = none ∧ c'.state ≠ .isOpen ∧ Holding H tr held db) E := by
  refine (release_holding hH held E).bind fun c' => .pure fun db h => ?_
  obtain ⟨rfl, hold⟩ := h
  by_cases hopen : c.state = .isOpen
  · simpa [hopen] using hold
  · simpa [hopen] using hold

theorem next_holding (hH : Custody H) (hc : c.Sound) (held : List Statement)
    (E : Database → Prop) :
    Leads (Holding H tr (c.statement.toList ++ held)) c.next
      (fun r db => r.2.Sound ∧ Holding H tr (r.2.statement.toList ++ held) db) E := by
  unfold next
  split
  · next s hopen hs =>
    have hmem : s ∈ c.statement.toList ++ held := by simp [hs]
    have hfetch : Maintains (Holding H tr (c.statement.toList ++ held)) (c.fetch s) fun _ => True :=
      fetch_maintains (s.nextRow_holding hH hmem) c
    refine hfetch.leads.attempt_bind (fun row => ?_) fun e => ?_
    · cases row with
      | some value => exact .pure fun _ h => ⟨hc, h⟩
      | none =>
        refine (release_holding hH held E).bind fun c' => .pure fun db h => ?_
        obtain ⟨rfl, hold⟩ := h
        exact ⟨⟨nofun, fun h => absurd rfl h⟩, hold⟩
    · refine (close_holding hH held E).bind fun c' => .pure fun db h => ?_
      obtain ⟨hnone, hstate, hold⟩ := h
      refine ⟨⟨fun ho => absurd ho hstate, fun h => absurd hnone h⟩, ?_⟩
      rw [hnone]
      exact hold
  · next hopen hnone => exact absurd hnone (hc.mp hopen)
  · next hstate => exact .pure fun _ h => ⟨hc, h⟩

end SqlMapper.Cursor
