import Piconet.Host.Step

/-!
# How far a host is from rest

Three measures say how far a host is from a state in which everything waits, the earlier ones before
the later ones: the *credit*, all that commands still to come can bring about, with the first
attempts of devices to submit a profile; the *effort* that runs of discovery still have to make; and
the *chores* on the agenda. A `Calm` change adds to none of them.
-/

namespace Piconet

/-! ## How much commands can bring about -/

mutual

/-- How many commands and first attempts of devices a command can bring about, itself included. -/
def Command.weight : Command → Nat
  | .subscribe _ rules => 1 + rulesWeight rules
  | .deviceAdded _ => 2
  | _ => 1

/-- The weight of the commands of one rule. -/
def commandsWeight : List Command → Nat
  | [] => 0
  | c :: cs => c.weight + commandsWeight cs

/-- What all future applications of a rule can bring about. -/
def ruleWeight : RuleOf Command → Nat
  | ⟨_, _, steps, times⟩ => times * (1 + commandsWeight steps)

/-- The weight of the rules of one watcher. -/
def rulesWeight : List (RuleOf Command) → Nat
  | [] => 0
  | r :: rs => ruleWeight r + rulesWeight rs

end

/-- A rule that applies is to be applied at least once more. -/
theorem RuleOf.times_pos_of_applies {α : Type} {r : RuleOf α} {n : Registry.Notice}
    (h : r.applies n = true) : 0 < r.times := by
  simp only [RuleOf.applies, Bool.and_eq_true, decide_eq_true_eq] at h
  exact h.1.1

/-- A rule that is changed makes the difference of its weights. -/
theorem rulesWeight_modify {rules : List Rule} {i : Nat} {r : Rule} (h : rules[i]? = some r)
    (g : Rule → Rule) :
    rulesWeight (rules.modify i g) + ruleWeight r = rulesWeight rules + ruleWeight (g r) := by
  induction rules generalizing i with
  | nil => simp at h
  | cons s rules ih =>
    cases i with
    | zero =>
      obtain rfl : s = r := by simpa using h
      simp only [List.modify_zero_cons, rulesWeight]
      omega
    | succ i =>
      have := ih (by simpa using h)
      simp only [List.modify_succ_cons, rulesWeight]
      omega

/-- An application takes its own work out of what the rule can bring about. -/
theorem ruleWeight_spent {r : Rule} (h : 0 < r.times) :
    ruleWeight { r with times := r.times - 1 } + (1 + commandsWeight r.steps) = ruleWeight r := by
  obtain ⟨on, uuid, steps, times⟩ := r
  obtain ⟨n, rfl⟩ := Nat.exists_eq_succ_of_ne_zero (Nat.pos_iff_ne_zero.1 h)
  simp only [ruleWeight, Nat.succ_sub_one, Nat.succ_mul]

/-! ## Measures -/

/-- The commands in a duty. -/
def Duty.credit : Duty → Nat
  | perform _ cs => commandsWeight cs
  | _ => 0

/-- The attempt to submit a profile that a device has left. -/
def Device.credit (d : Device) : Nat := if d.attempted then 0 else 1

/-- The devices that a monitor can still bring, and its own end. -/
def Monitor.credit (m : Monitor) : Nat :=
  match m.stage with
  | .following => 1 + 2 * (m.added.length + m.removed.length)
  | .enumerating | .ended _ => 0

/-- How much there is in a feed, if there is one. -/
def feedLength {α : Type} (f : Option (Feed α)) : Nat := f.elim 0 (·.queue.length)

/-- What a run still has to do. -/
def Run.effort (r : Run) : Nat :=
  feedLength r.changes + feedLength r.power + match r.phase with
    | .bringUp stage progress => 2 + 4 * stage.rank + progress.rank
    | .follow => 1

namespace Host

/-- How many submissions and commands the host may still make on its own. -/
def credit (h : Host) : Nat :=
  addUp Duty.credit h.agenda + h.watchers.total (rulesWeight ·.rules)
    + h.devices.total Device.credit + h.monitor.elim 0 Monitor.credit

/-- How far all runs of discovery still have to go. -/
def effort (h : Host) : Nat := h.runs.total Run.effort

/-- The number of a watcher's rules. -/
def ruleCount (watchers : Table WatcherId Watcher) (w : WatcherId) : Nat :=
  (watchers.get? w).elim 0 (·.rules.length)

/-- How much hearing of a change can take. -/
def listenerChores (watchers : Table WatcherId Watcher) : Listener → Nat
  | .device _ => 3
  | .watcher w => 2 + ruleCount watchers w

/-- How much a duty can take. -/
def dutyChores (watchers : Table WatcherId Watcher) : Duty → Nat
  | .announce _ ls => 1 + addUp (listenerChores watchers) ls
  | .react w _ rule => 1 + (ruleCount watchers w - rule)
  | .reassess _ => 2
  | .perform .. | .record .. | .adopt .. | .conclude _ | .pursue _ => 1

/-- How much there is on the agenda. -/
def chores (h : Host) : Nat := addUp (dutyChores h.watchers) h.agenda

/-- One host is nearer to rest than another. -/
def Nearer (h' h : Host) : Prop :=
  h'.credit < h.credit ∨
    h'.credit ≤ h.credit ∧ (h'.effort < h.effort ∨ h'.effort ≤ h.effort ∧ h'.chores < h.chores)

/-! ## Changes that leave the measures alone -/

/-- A change that adds nothing to do. -/
structure Calm (h' h : Host) : Prop where
  agenda : h'.agenda = h.agenda
  watchers : h'.watchers = h.watchers
  runs : h'.runs = h.runs
  monitor : h'.monitor = h.monitor
  devices : h'.devices.total Device.credit ≤ h.devices.total Device.credit

namespace Calm

theorem refl (h : Host) : Calm h h := ⟨rfl, rfl, rfl, rfl, Nat.le_refl _⟩

theorem trans {h₁ h₂ h₃ : Host} (a : Calm h₁ h₂) (b : Calm h₂ h₃) : Calm h₁ h₃ :=
  ⟨a.agenda.trans b.agenda, a.watchers.trans b.watchers, a.runs.trans b.runs,
    a.monitor.trans b.monitor, Nat.le_trans a.devices b.devices⟩

/-- What is calm makes nothing possible that was not. -/
theorem credit_le {h' h : Host} (c : Calm h' h) : h'.credit ≤ h.credit := by
  have := c.devices
  rw [credit, credit, c.agenda, c.watchers, c.monitor]
  omega

/-- What is calm does not bring discovery on. -/
theorem effort_eq {h' h : Host} (c : Calm h' h) : h'.effort = h.effort := by
  rw [effort, effort, c.runs]

/-- What is calm leaves as much to do. -/
theorem chores_eq {h' h : Host} (c : Calm h' h) : h'.chores = h.chores := by
  rw [chores, chores, c.agenda, c.watchers]

end Calm

/-- A record may be replaced by one that has made its attempt if the old one had. -/
theorem calm_setDevice {h : Host} {id : DeviceId} {d e : Device} (hd : h.device? id = some d)
    (he : e.credit ≤ d.credit) : Calm (h.setDevice id e) h where
  agenda := rfl
  watchers := rfl
  runs := rfl
  monitor := rfl
  devices := by
    have := Table.total_modify (f := Device.credit) hd fun _ => e
    simp only [setDevice]
    omega

/-- An event is published. -/
theorem calm_emit (h : Host) (id : DeviceId) (e : Event) : Calm (h.emit id e) h :=
  ⟨rfl, rfl, rfl, rfl, Nat.le_refl _⟩

/-- Events are published one after the other. -/
theorem calm_emitAll (h : Host) (id : DeviceId) (es : List Event) : Calm (h.emitAll id es) h := by
  rw [emitAll]
  induction es generalizing h with
  | nil => exact .refl h
  | cons e es ih => exact (ih (h.emit id e)).trans (calm_emit h id e)

/-- Whether a device is usable is stored with it. -/
theorem calm_setUsable (h : Host) (id : DeviceId) (usable : Bool) : Calm (h.setUsable id usable) h := by
  rw [setUsable]
  split
  · next d hd =>
    split
    · exact .refl h
    · exact (calm_emit _ _ _).trans (calm_setDevice hd (Nat.le_refl _))
  · exact .refl h

/-- The end of discovery is reported. -/
theorem calm_report (h : Host) (id : DeviceId) (success : Bool) : Calm (h.report id success) h := by
  rw [report]
  split
  · next d hd =>
    split
    · exact .refl h
    · exact (calm_emit _ _ _).trans (calm_setDevice hd (Nat.le_refl _))
  · exact .refl h

/-- A device is dropped, and submits nothing any longer. -/
theorem calm_destroy (h : Host) (id : DeviceId) : Calm (h.destroy id) h :=
  ⟨rfl, rfl, rfl, rfl, Table.total_erase_le _ _ _⟩

/-- A call of a stub is noted. -/
theorem calm_noteCall (h : Host) (path : String) (stage : Stage) (progress : Progress) :
    Calm (h.noteCall path stage progress) h := by
  unfold noteCall
  split
  · exact ⟨rfl, rfl, rfl, rfl, Nat.le_refl _⟩
  · exact .refl h

/-! ## Duties -/

/-- A duty that is urged brings along what it may come to. -/
theorem credit_urge (h : Host) (ds : List Duty) :
    (h.urge ds).credit = addUp Duty.credit ds + h.credit := by
  simp only [credit, urge, addUp_append]
  omega

/-- It is one more thing to do. -/
theorem chores_urge (h : Host) (ds : List Duty) :
    (h.urge ds).chores = addUp (dutyChores h.watchers) ds + h.chores := by
  simp only [chores, urge, addUp_append]

/-- To notify listeners was counted with their rules. -/
theorem credit_announce (h : Host) (n : Registry.Notice) : (h.announce n).credit = h.credit := by
  rw [announce, credit_urge]
  simp [Duty.credit, credit]

/-- A request to the registry was counted with whoever makes it. -/
theorem credit_request (h : Host) (q : Registry.Request) : (h.request q).credit = h.credit := by
  rw [request]
  split
  · rw [credit_announce]
    rfl
  · rfl

end Host

/-! ## Devices -/

namespace Device

/-- To track a candidate is no attempt. -/
theorem attempted_track (d : Device) (uuid : String) : (d.track uuid).attempted = d.attempted := by
  rw [track]
  split <;> rfl

/-- To drop a candidate is no attempt. -/
theorem attempted_untrack (d : Device) (uuid : String) : (d.untrack uuid).attempted = d.attempted := by
  rw [untrack]
  split <;> rfl

/-- To take up a profile that was added is no attempt. -/
theorem attempted_adopt? {d e : Device} {p : Profile} (h : d.adopt? p = some e) :
    e.attempted = d.attempted := by
  rw [adopt?] at h
  split at h
  · rw [← Option.some.inj h, attempted_track]
  · exact absurd h (by simp)

/-- To lose a profile that was removed is no attempt. -/
theorem attempted_forget? {d e : Device} {p : Profile} (h : d.forget? p = some e) :
    e.attempted = d.attempted := by
  rw [forget?] at h
  split at h
  · rw [← Option.some.inj h, attempted_untrack]
  · exact absurd h (by simp)

/-- To look through the registry is no attempt. -/
theorem attempted_survey (d : Device) (stored : List Profile) :
    (d.survey stored).attempted = d.attempted := by
  rw [survey]
  induction stored generalizing d with
  | nil => rfl
  | cons p ps ih =>
    rw [List.foldl_cons, ih]
    cases h : d.adopt? p with
    | none => rfl
    | some e => exact attempted_adopt? h

/-- A notification leaves the attempt as it is. -/
theorem attempted_hear {d e : Device} {stored : List Profile} {n : Registry.Notice}
    (h : d.hear stored n = some e) : e.attempted = d.attempted := by
  cases n with
  | added p =>
    simp only [hear] at h
    split at h
    · exact absurd h (by simp)
    · exact attempted_adopt? h
  | removed p => exact attempted_forget? h
  | updated p =>
    simp only [hear] at h
    split at h
    · exact attempted_adopt? h
    · exact attempted_forget? h
  | loaded =>
    rw [← Option.some.inj h, attempted_survey]

/-- A device may submit as long as it has not. -/
theorem credit_eq {d e : Device} (h : e.attempted = d.attempted) : e.credit = d.credit := by
  rw [credit, credit, h]

/-- A device that is due to submit has not done so. -/
theorem not_attempted_of_due {d : Device} {loaded : Bool} {name : String}
    (h : d.dueProfileName? loaded = some name) : d.attempted = false := by
  rw [dueProfileName?] at h
  split at h
  · exact absurd h (by simp)
  · next hd =>
    simp only [Bool.or_eq_true, not_or, Bool.not_eq_true] at hd
    exact hd.1.1.1.1

end Device

end Piconet
