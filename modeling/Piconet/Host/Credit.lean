import Piconet.Host.Measure

/-!
# The credit of commands

What a command brings about was counted with it: obeying it costs credit (`Host.credit_obey_lt`).
-/

namespace Piconet.Host

/-- A watcher that nobody keeps any longer still has the rules that it had. -/
theorem credit_dropWatcher_le (h : Host) (name : String) : (h.dropWatcher name).credit ≤ h.credit := by
  have : h.watchers.total (rulesWeight ·.rules) ≥ (h.dropWatcher name).watchers.total (rulesWeight ·.rules) :=
    Table.total_mapValues_le (fun w => by split <;> exact Nat.le_refl _) _
  simp only [credit, dropWatcher] at this ⊢
  omega

/-- A subscription costs what the rules of the new watcher cost. -/
theorem credit_subscribe_le (h : Host) (name : String) (rules : List Rule) :
    (h.subscribe name rules).credit ≤ h.credit + rulesWeight rules := by
  have := h.credit_dropWatcher_le name
  have := Table.total_set_le (fun w : Watcher => rulesWeight w.rules) (h.dropWatcher name).watchers
    h.nextId { name, rules }
  simp only [subscribe, credit, dropWatcher] at *
  omega

/-- To cancel a subscription forgets the listener and keeps the watcher. -/
theorem credit_unsubscribe (h : Host) (name : String) : (h.unsubscribe name).credit = h.credit := by
  rw [unsubscribe]
  split <;> rfl

/-- The stub is behind the host, and costs nothing. -/
theorem credit_changeStub (h : Host) (f : Stub → Stub) : (h.changeStub f).credit = h.credit := by
  rw [changeStub]
  split <;> rfl

/-- To start discovery is no submission: a device has the one attempt that it had before. -/
theorem credit_startRun_le (h : Host) (id : DeviceId) (label : Option String) :
    (h.startRun id label).credit ≤ h.credit := by
  rw [startRun]
  split
  · next d hd =>
    split
    · exact Nat.le_refl _
    · exact (calm_setDevice (e := { d with started := true }) hd (Nat.le_refl _)).credit_le
  · exact Nat.le_refl _

/-- A new device may submit a profile once. -/
theorem credit_create_le (h : Host) (d : Device) : (h.create d).1.credit ≤ h.credit + 1 := by
  have := Table.total_set_le Device.credit h.devices h.nextId d
  have : d.credit ≤ 1 := by rw [Device.credit]; split <;> omega
  simp only [create, credit]
  omega

/-- A device that the manager takes up may submit a profile once. -/
theorem credit_deviceAdded_le (h : Host) (path : String) :
    (h.deviceAdded path).credit ≤ h.credit + 1 := by
  rw [deviceAdded]
  split
  · next m hm =>
    split
    · omega
    · apply Nat.le_trans (credit_startRun_le _ _ _)
      have := h.credit_create_le (.fresh path h.generation m.timeouts)
      simp only [credit, create] at this ⊢
      omega
  · omega

/-- A device that is dropped submits nothing any longer. -/
theorem credit_deviceRemoved_le (h : Host) (path : String) :
    (h.deviceRemoved path).credit ≤ h.credit := by
  rw [deviceRemoved]
  split
  · split
    · exact (calm_destroy h _).credit_le
    · exact Nat.le_refl _
  · exact Nat.le_refl _

/-- Any number of devices may be dropped. -/
theorem calm_destroyAll (h : Host) (es : List (String × DeviceId)) :
    Calm (es.foldl (fun h e => h.destroy e.2) h) h := by
  induction es generalizing h with
  | nil => exact .refl h
  | cons e es ih => exact (ih (h.destroy e.2)).trans (calm_destroy h e.2)

/-- The manager drops all of its devices. -/
theorem credit_shutdown_le (h : Host) : h.shutdown.credit ≤ h.credit := by
  rw [shutdown]
  split
  · exact (calm_destroyAll h _).credit_le
  · exact Nat.le_refl _

/-- A device goes with its handle. -/
theorem credit_drop_le (h : Host) (handle : String) : (h.drop handle).credit ≤ h.credit := by
  rw [drop]
  split
  · exact (calm_destroy h _).credit_le
  · exact Nat.le_refl _

/-- What a command brings about was counted with it. -/
theorem credit_obey_lt (h : Host) (c : Command) : (h.obey c).credit < h.credit + c.weight := by
  cases c with
  | request q => simp [obey, credit_request, Command.weight]
  | subscribe name rules =>
    have := h.credit_subscribe_le name rules
    simp only [obey, Command.weight]
    omega
  | unsubscribe name => simp [obey, credit_unsubscribe, Command.weight]
  | dropWatcher name => exact Nat.lt_succ_of_le (h.credit_dropWatcher_le name)
  | hold | release | fail | unfail | setProperties | setPower =>
    simp [obey, credit_changeStub, Command.weight]
  | push path batch =>
    simp only [obey, Command.weight]
    split <;> exact Nat.lt_succ_self _
  | power path on =>
    simp only [obey, Command.weight]
    split
    · split
      · exact Nat.lt_succ_of_le (Nat.le_of_eq (credit_changeStub h _))
      · exact Nat.lt_succ_self _
    · exact Nat.lt_succ_self _
  | endChanges path =>
    simp only [obey, Command.weight]
    split <;> exact Nat.lt_succ_self _
  | endPower path =>
    simp only [obey, Command.weight]
    split <;> exact Nat.lt_succ_self _
  | drop handle => exact Nat.lt_succ_of_le (h.credit_drop_le handle)
  | deviceAdded path =>
    have := h.credit_deviceAdded_le path
    simp only [obey, deviceAddedAndHeard, Command.weight]
    split
    · omega
    · split
      · exact Nat.lt_succ_of_le this
      · exact Nat.lt_succ_of_le this
  | deviceRemoved path => exact Nat.lt_succ_of_le (h.credit_deviceRemoved_le path)
  | shutdown => exact Nat.lt_succ_of_le h.credit_shutdown_le
  | dropManager => exact Nat.lt_succ_of_le h.credit_shutdown_le
  | get | profiles | withDevice | nothing | unknown => exact Nat.lt_succ_self _

end Piconet.Host
