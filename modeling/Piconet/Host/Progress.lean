import Piconet.Host.Advance
import Piconet.Host.Credit

/-!
# Progress

Every step of a host brings it nearer to rest (`Host.nearer_step`).
-/

namespace Piconet

namespace Host

/-! ## Duties -/

theorem Nearer.of_ahead {h' h : Host} (a : Ahead h' h) : Nearer h' h := .inr ⟨a.1, .inl a.2⟩

/-- What may still be submitted is counted duty by duty. -/
theorem credit_of_agenda {h : Host} {duties : List Duty} {duty : Duty}
    (hh : h.agenda = duty :: duties) : h.credit = duty.credit + (h.withAgenda duties).credit := by
  simp only [credit, withAgenda, hh, addUp_cons]
  omega

/-- What is still to be done is counted duty by duty. -/
theorem chores_of_agenda {h : Host} {duties : List Duty} {duty : Duty}
    (hh : h.agenda = duty :: duties) :
    h.chores = dutyChores h.watchers duty + (h.withAgenda duties).chores := by
  simp only [chores, withAgenda, hh, addUp_cons]

/-- Doing what is left of a duty brings the host nearer, if it is less than the duty was. -/
theorem Nearer.of_duty {h g : Host} {duties : List Duty} {duty : Duty}
    (hh : h.agenda = duty :: duties) (credit : g.credit ≤ (h.withAgenda duties).credit + duty.credit)
    (effort : g.effort ≤ h.effort)
    (chores : g.chores < (h.withAgenda duties).chores + dutyChores h.watchers duty) : Nearer g h := by
  refine .inr ⟨?_, .inr ⟨effort, ?_⟩⟩
  · rw [credit_of_agenda hh, Nat.add_comm]
    exact credit
  · rw [chores_of_agenda hh, Nat.add_comm]
    exact chores

/-- Every duty counts. -/
theorem dutyChores_pos (watchers : Table WatcherId Watcher) (duty : Duty) :
    0 < dutyChores watchers duty := by
  cases duty <;> simp only [dutyChores] <;> omega

/-- A duty that brought nothing on is off the agenda. -/
theorem Nearer.of_idle {h g : Host} {duties : List Duty} {duty : Duty}
    (hh : h.agenda = duty :: duties) (i : Idle g (h.withAgenda duties)) : Nearer g h :=
  .of_duty hh (Nat.le_trans i.credit (Nat.le_add_right _ _)) i.effort (by
    rw [i.chores]
    exact Nat.lt_add_of_pos_right (dutyChores_pos _ _))

/-- A duty that changed nothing that is counted is off the agenda. -/
theorem Nearer.of_calm {h g : Host} {duties : List Duty} {duty : Duty}
    (hh : h.agenda = duty :: duties) (c : Calm g (h.withAgenda duties)) : Nearer g h :=
  .of_idle hh (.of_calm c)

/-- Putting off less than the duty took brings the host nearer. -/
theorem Nearer.of_urge {h g : Host} {duties : List Duty} {duty : Duty}
    (hh : h.agenda = duty :: duties) (c : Calm g (h.withAgenda duties)) {ds : List Duty}
    (credit : addUp Duty.credit ds = 0)
    (chores : addUp (dutyChores h.watchers) ds < dutyChores h.watchers duty) :
    Nearer (g.urge ds) h := by
  refine .of_duty hh ?_ (Nat.le_of_eq c.effort_eq) ?_
  · have := c.credit_le
    rw [credit_urge, credit]
    omega
  · rw [chores_urge, c.chores_eq, show g.watchers = h.watchers from c.watchers]
    omega

/-- A duty that brought a run of discovery ahead counts for that. -/
theorem Nearer.of_ahead_rest {h g : Host} {duties : List Duty} {duty : Duty}
    (hh : h.agenda = duty :: duties) (a : Ahead g (h.withAgenda duties)) : Nearer g h :=
  .inr ⟨Nat.le_trans a.1 (by rw [credit_of_agenda hh]; exact Nat.le_add_left _ _), .inl a.2⟩

/-- One listener more has been notified. -/
theorem nearer_announce {h : Host} {duties : List Duty} {n : Registry.Notice} {l : Listener}
    {ls : List Listener} (hh : h.agenda = .announce n (l :: ls) :: duties) :
    Nearer (((h.withAgenda duties).urge [.announce n ls]).hear n l) h := by
  -- the listener puts less on the agenda than its turn was counted as
  have later (ds : List Duty) {g : Host} (c : Calm g (h.withAgenda duties))
      (credit : addUp Duty.credit ds = 0)
      (chores : addUp (dutyChores h.watchers) ds < listenerChores h.watchers l) :
      Nearer ((g.urge [.announce n ls]).urge ds) h := by
    rw [show (g.urge [.announce n ls]).urge ds = g.urge (ds ++ [.announce n ls]) by simp [urge]]
    refine .of_urge hh c ?_ ?_
    · simp [credit, Duty.credit]
    · simp only [addUp_append, addUp_cons, addUp_nil, dutyChores]
      omega
  cases l with
  | device id =>
    simp only [hear]
    split
    · next d hd =>
      obtain ⟨e, he, hear⟩ := Option.bind_eq_some_iff.1 hd
      exact later [.reassess id] (g := (h.withAgenda duties).setDevice id d)
        (calm_setDevice he (Nat.le_of_eq (Device.credit_eq (Device.attempted_hear hear)))) rfl
        (by simp [dutyChores, listenerChores])
    · exact later [] (.refl _) rfl (by simp [listenerChores])
  | watcher id =>
    simp only [hear]
    split
    · next w hw =>
      refine later [.react id n 0] (g := (h.withAgenda duties).sight _) ⟨rfl, rfl, rfl, rfl, Nat.le_refl _⟩ rfl ?_
      simp only [addUp_cons, addUp_nil, dutyChores, listenerChores]
      omega
    · exact later [] (.refl _) rfl (by simp only [addUp_nil, listenerChores]; omega)

/-- A rule was looked at. If it applies, what it commands was counted with it. -/
theorem nearer_react {h : Host} {duties : List Duty} {w : WatcherId} {n : Registry.Notice}
    {rule : Nat} (hh : h.agenda = .react w n rule :: duties) :
    Nearer ((h.withAgenda duties).react w n rule) h := by
  unfold react
  split
  · next r hr =>
    obtain ⟨watcher, hw, hrule⟩ := Option.bind_eq_some_iff.1 hr
    split
    · next applies =>
      refine .inl ?_
      -- all the rule can still do was counted with the watcher
      have spent := rulesWeight_modify hrule fun r => { r with times := r.times - 1 }
      have one := ruleWeight_spent (RuleOf.times_pos_of_applies applies)
      have := Table.total_modify (f := fun w : Watcher => rulesWeight w.rules) hw (·.spend rule)
      rw [credit_of_agenda hh, credit_urge]
      simp only [credit, withAgenda, Watcher.spend, Duty.credit, addUp_cons, addUp_nil] at this ⊢
      omega
    · refine .of_urge hh (.refl _) rfl ?_
      -- the rule is passed over, and one rule less is left to go through
      have lt : rule < watcher.rules.length := (List.getElem?_eq_some_iff.1 hrule).1
      have count : ruleCount h.watchers w = watcher.rules.length := by
        rw [ruleCount, show h.watchers.get? w = some watcher from hw]
        rfl
      simp only [addUp_cons, addUp_nil, dutyChores, count]
      omega
  · exact .of_calm hh (.refl _)

/-- A command of a watcher was carried out. -/
theorem nearer_perform {h : Host} {duties : List Duty} {w : WatcherId} {cs : List Command}
    (hh : h.agenda = .perform w cs :: duties) : Nearer ((h.withAgenda duties).perform w cs) h := by
  cases cs with
  | nil => exact .of_calm hh (.refl _)
  | cons c cs =>
    refine .inl ?_
    have := credit_obey_lt ((h.withAgenda duties).urge [.record w ((h.withAgenda duties).answerTo c), .perform w cs]) c
    rw [credit_of_agenda hh]
    rw [credit_urge] at this
    simp only [perform, Duty.credit, commandsWeight, addUp_cons, addUp_nil] at this ⊢
    omega

/-- A device was assessed. If it submitted a profile, it has used up its one attempt. -/
theorem nearer_reassess {h : Host} {duties : List Duty} {id : DeviceId}
    (hh : h.agenda = .reassess id :: duties) : Nearer ((h.withAgenda duties).reassess id) h := by
  unfold reassess
  split
  · next d hd =>
    split
    · exact .of_calm hh (calm_setUsable _ _ _)
    · split
      · next name due =>
        refine .inl ?_
        -- the only attempt of the device was counted with it
        have attempt {e : Device} (he : e.attempted = true) :
            (h.withAgenda duties).devices.total Device.credit =
              ((h.withAgenda duties).setDevice id e).devices.total Device.credit + 1 := by
          have := Table.total_modify (f := Device.credit) hd fun _ => e
          have : d.credit = 1 := by rw [Device.credit, Device.not_attempted_of_due due]; rfl
          have : e.credit = 0 := by rw [Device.credit, he]; rfl
          simp only [setDevice, withAgenda] at *
          omega
        rw [credit_of_agenda hh]
        unfold provision
        simp only
        split
        · rw [credit_request, credit_urge]
          have := attempt (e := { d with attempted := true }) rfl
          simp only [credit, log, setDevice, Duty.credit, addUp_cons, addUp_nil] at this ⊢
          omega
        · rw [credit_request, credit_urge]
          have := attempt (e := { d with attempted := true, submitting := true }) rfl
          simp only [credit, log, setDevice, Duty.credit, addUp_cons, addUp_nil] at this ⊢
          omega
      · exact .of_urge hh (.refl _) rfl (by simp [dutyChores])
  · exact .of_calm hh (.refl _)

/-- To take a submitted profile as one's own is nothing that is counted. -/
theorem calm_adopt (h : Host) (id : DeviceId) (uuid : String) : Calm (h.adopt id uuid) h := by
  rw [adopt]
  split
  · next d hd =>
    exact calm_setDevice hd (Nat.le_of_eq (Device.credit_eq
      (show (d.track uuid).attempted = _ from d.attempted_track uuid)))
  · exact .refl h

/-- To settle the usability after a submission is nothing that is counted. -/
theorem calm_conclude (h : Host) (id : DeviceId) : Calm (h.conclude id) h := by
  rw [conclude]
  split
  · exact calm_setUsable _ _ _
  · exact .refl h

/-- What a watcher records is nothing that is counted. -/
theorem calm_record (h : Host) (w : WatcherId) (a : Answer) : Calm (h.record w a) h := by
  rw [record]
  split
  · exact ⟨rfl, rfl, rfl, rfl, Nat.le_refl _⟩
  · exact .refl h

/-- Every duty brings the host nearer to rest. -/
theorem nearer_act {h : Host} {duties : List Duty} {duty : Duty} (hh : h.agenda = duty :: duties) :
    Nearer ((h.withAgenda duties).act duty) h := by
  cases duty with
  | announce n listeners =>
    cases listeners with
    | nil => exact .of_calm hh (.refl _)
    | cons l ls => exact nearer_announce hh
  | react w n rule => exact nearer_react hh
  | perform w cs => exact nearer_perform hh
  | record w a => exact .of_calm hh (calm_record _ _ _)
  | reassess id => exact nearer_reassess hh
  | adopt id uuid => exact .of_calm hh (calm_adopt _ _ _)
  | conclude id => exact .of_calm hh (calm_conclude _ _)
  | pursue id =>
    rcases ahead_pursue (h.withAgenda duties) id with a | ⟨i, -⟩
    · exact .of_ahead_rest hh a
    · exact .of_idle hh i

end Host

/-! ## The monitor -/

/-- A signal, or the end, was counted with the monitor. -/
theorem Monitor.credit_take {m : Monitor} {b : Branch} (hb : m.branch? = some b)
    (interface : String) :
    (m.take interface b).1.credit + (if (m.take interface b).2.isSome then 2 else 1) ≤ m.credit := by
  have following : m.stage = .following := by
    rw [branch?] at hb
    split at hb
    · assumption
    · exact absurd hb (by simp)
    · exact absurd hb (by simp)
  have one_or_two (p : Prop) [Decidable p] : (if p then 2 else 1) ≤ 2 := by split <;> omega
  have ended (m' : Monitor) (e : Ending) :
      ({ m' with stage := .ended e } : Monitor).credit + 1 ≤ m.credit := by
    simp only [credit, following]
    omega
  cases b with
  | stop => exact ended m (.ok ())
  | added =>
    cases hq : m.added with
    | nil =>
      simp only [take, hq]
      exact ended m (.error streamEnded)
    | cons s rest =>
      simp only [take, hq, credit, following, List.length_cons]
      apply Nat.le_trans (Nat.add_le_add_left (one_or_two _) _)
      omega
  | removed =>
    cases hq : m.removed with
    | nil =>
      simp only [take, hq]
      exact ended m (.error streamEnded)
    | cons s rest =>
      simp only [take, hq, credit, following, List.length_cons]
      apply Nat.le_trans (Nat.add_le_add_left (one_or_two _) _)
      omega

namespace Host

/-- What the monitor asks for creates one device at most, which may submit once. -/
theorem credit_heed_le (h : Host) (q : Monitor.Request) : (h.heed q).credit ≤ h.credit + 1 := by
  cases q with
  | add path => exact h.credit_deviceAdded_le path
  | remove path => exact Nat.le_succ_of_le (h.credit_deviceRemoved_le path)

/-- The monitor has one signal less to take. -/
theorem nearer_follow {h : Host} {m : Monitor} {b : Monitor.Branch} (hm : h.monitor = some m)
    (hb : m.branch? = some b) : Nearer (h.follow m b) h := by
  refine .inl ?_
  have taken := Monitor.credit_take hb h.generation.deviceInterface
  have credit_monitor (m' : Monitor) :
      ({ h with monitor := some m' } : Host).credit + m.credit = h.credit + m'.credit := by
    simp only [credit, hm, Option.elim_some]
    omega
  unfold follow
  generalize m.take h.generation.deviceInterface b = answer at taken ⊢
  obtain ⟨m', request⟩ := answer
  have := credit_monitor m'
  cases request with
  | none =>
    simp only [Option.isSome_none, Bool.false_eq_true, if_false, Option.elim_none] at taken ⊢
    omega
  | some q =>
    have := credit_heed_le { h with monitor := some m' } q
    simp only [Option.isSome_some, if_true, Option.elim_some] at taken ⊢
    omega

/-! ## Coming to rest -/

/-- **Whatever is done next brings the host nearer to its rest.** -/
theorem nearer_resume {h h' : Host} (hh : h.resume = some h') : Nearer h' h := by
  rw [resume] at hh
  split at hh
  · next m b hmb =>
    obtain ⟨m', hm, hb⟩ := Option.bind_eq_some_iff.1 hmb
    obtain ⟨b', hb', e⟩ := Option.map_eq_some_iff.1 hb
    obtain ⟨rfl, rfl⟩ := Prod.mk.inj e
    rw [← Option.some.inj hh]
    exact nearer_follow hm hb'
  · obtain ⟨id, ready, rfl⟩ := Option.map_eq_some_iff.1 hh
    rw [readyRun?] at ready
    have found := List.find?_some ready
    obtain ⟨r, hr, isReady⟩ := (Option.any_eq_true _ _).1 found
    rcases ahead_pursue h id with a | ⟨-, waits⟩
    · exact .of_ahead a
    · exact absurd (waits r hr) (by simp [isReady])

/-- Every step brings the host nearer to rest. -/
theorem nearer_step {h h' : Host} (hh : h.step = some h') : Nearer h' h := by
  rw [step] at hh
  split at hh
  · next duty duties ha =>
    rw [← Option.some.inj hh]
    exact nearer_act ha
  · exact nearer_resume hh

end Host

end Piconet
