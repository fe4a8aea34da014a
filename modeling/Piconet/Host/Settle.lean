import Piconet.Host.Progress

/-!
# Coming to rest

As every step brings a host nearer to rest, it can be run until everything waits.
-/

namespace Piconet.Host

/-- The three counts are compared one after the other, so steps that bring a host nearer come to an end. -/
theorem Nearer.lex {h' h : Host} (n : Nearer h' h) :
    Prod.Lex (· < ·) (Prod.Lex (· < ·) (· < ·)) (h'.credit, h'.effort, h'.chores)
      (h.credit, h.effort, h.chores) := by
  rcases n with lt | ⟨le, rest⟩
  · exact .left _ _ lt
  · rcases Nat.lt_or_eq_of_le le with lt | eq
    · exact .left _ _ lt
    · rw [eq]
      refine .right _ ?_
      rcases rest with lt | ⟨le, lt⟩
      · exact .left _ _ lt
      · rcases Nat.lt_or_eq_of_le le with lt' | eq
        · exact .left _ _ lt'
        · rw [eq]
          exact .right _ lt

/-- Goes on until everything waits. -/
def settle (h : Host) : Host :=
  match _ : h.step with
  | some h' => settle h'
  | none => h
termination_by (h.credit, h.effort, h.chores)
decreasing_by exact (nearer_step ‹_›).lex

/-- A host that can go on settles where it settles after a step. -/
theorem settle_of_step {h h' : Host} (hh : h.step = some h') : h.settle = h'.settle := by
  rw [settle]
  split
  · next h'' hs => rw [Option.some.inj (hh.symm.trans hs)]
  · next hs => exact absurd (hs.symm.trans hh) (by simp)

/-- A host that cannot go on has settled. -/
theorem settle_of_rest {h : Host} (hh : h.step = none) : h.settle = h := by
  rw [settle]
  split
  · next h' hs => exact absurd (hs.symm.trans hh) (by simp)
  · rfl

/-- What every step keeps is kept on the way to rest. -/
theorem settle_induction {P : Host → Prop} (hstep : ∀ h h', P h → h.step = some h' → P h') {h : Host}
    (hP : P h) : P h.settle := by
  fun_induction settle h with
  | case1 h h' hs ih => exact ih (hstep h h' hP hs)
  | case2 h hs => exact hP

/-- At rest everything waits. -/
theorem step_settle (h : Host) : h.settle.step = none := by
  fun_induction settle h with
  | case1 h h' hs ih => exact ih
  | case2 h hs => exact hs

/-- At rest there is no duty left. -/
theorem agenda_settle (h : Host) : h.settle.agenda = [] := by
  have := h.step_settle
  rw [step] at this
  split at this
  · exact absurd this (by simp)
  · assumption

end Piconet.Host
