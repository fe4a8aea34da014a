import Piconet.Host.Measure

/-!
# Runs come on

A run of discovery that can go on comes on when it is pursued, and one that cannot changes nothing
(`Host.ahead_pursue`).
-/

namespace Piconet

/-! ## Updates that are taken -/

namespace Run

/-- A run that is there has something to go for. -/
theorem effort_pos (r : Run) : 0 < r.effort := by
  rw [effort]
  split <;> omega

/-- An update that is taken was waiting. -/
theorem Takes.effort {r r' : Run} {u : Update} (takes : r.Takes u r') : r'.effort + 1 = r.effort := by
  cases takes with
  | properties feed queue | power feed queue =>
    simp only [Run.effort, turn, feed, queue, feedLength, Option.elim_some, List.length_cons]
    omega

end Run

namespace Host

/-- The runs have come on, and there is no more credit than before. -/
def Ahead (h' h : Host) : Prop := h'.credit ≤ h.credit ∧ h'.effort < h.effort

/-- What went on calmly before does not count. -/
theorem Ahead.of_calm {h₁ h₂ h₃ : Host} (a : Ahead h₁ h₂) (c : Calm h₂ h₃) : Ahead h₁ h₃ :=
  ⟨Nat.le_trans a.1 c.credit_le, c.effort_eq ▸ a.2⟩

/-- What goes on calmly afterwards does not count either. -/
theorem Ahead.calm {h₁ h₂ h₃ : Host} (c : Calm h₁ h₂) (a : Ahead h₂ h₃) : Ahead h₁ h₃ :=
  ⟨Nat.le_trans c.credit_le a.1, c.effort_eq ▸ a.2⟩

/-- Duties that may come to no submission do not count either. -/
theorem Ahead.urge {h' h : Host} (a : Ahead h' h) {ds : List Duty}
    (hds : addUp Duty.credit ds = 0) : Ahead (h'.urge ds) h :=
  ⟨by rw [credit_urge, hds, Nat.zero_add]; exact a.1, a.2⟩

/-- A run has come further. -/
theorem ahead_setRun {h : Host} {id : RunId} {r r' : Run} (hr : h.run? id = some r)
    (lt : r'.effort < r.effort) : Ahead (h.setRun id r') h := by
  have := Table.total_modify (f := Run.effort) hr fun _ => r'
  refine ⟨Nat.le_refl _, ?_⟩
  simp only [effort, setRun]
  omega

/-- A run has come to its end. -/
theorem ahead_endRun {h : Host} {id : RunId} {r : Run} (hr : h.run? id = some r) :
    Ahead (h.endRun id) h := by
  have := Table.total_erase (f := Run.effort) hr
  have := r.effort_pos
  refine ⟨Nat.le_refl _, ?_⟩
  simp only [effort, endRun]
  omega

/-- A run that enters a later stage has come further. -/
theorem ahead_enter {h : Host} {id : RunId} {r r' : Run} {stage : Stage} (hr : h.run? id = some r)
    (lt : (r'.enter stage).effort < r.effort) : Ahead (h.enter id r' stage) h :=
  (ahead_setRun hr lt).urge rfl

/-- A run that is given up has come to its end. -/
theorem ahead_abandon {h : Host} {id : RunId} {r : Run} (hr : h.run? id = some r) :
    Ahead (h.abandon id r) h :=
  ((ahead_endRun hr).calm (calm_report _ _ _)).urge rfl

/-- Events change no record. -/
theorem devices_emitAll (h : Host) (id : DeviceId) (es : List Event) :
    (h.emitAll id es).devices = h.devices := by
  rw [emitAll]
  induction es generalizing h with
  | nil => rfl
  | cons e es ih => exact ih (h.emit id e)

/-- A device is changed and publishes so. -/
theorem calm_emitAll_setDevice {h : Host} {id : DeviceId} {d e : Device} (hd : h.device? id = some d)
    (he : e.credit ≤ d.credit) (events : List Event) :
    Calm ((h.emitAll id events).setDevice id e) h :=
  (calm_setDevice (by rw [device?, devices_emitAll]; exact hd) he).trans (calm_emitAll h id events)

/-- With the first batch taken in, a run has one stage less before it. -/
theorem ahead_fetched {h : Host} {id : RunId} {r : Run} {d : Device} {progress : Progress}
    (hr : h.run? id = some r) (hd : h.device? r.device = some d)
    (hp : r.phase = .bringUp .fetch progress) (b : PropertyBatch) :
    Ahead (h.fetched id r d b) h := by
  have same : ({ (d.merge b).survey h.registry.profiles with bound := true } : Device).attempted
      = d.attempted := (d.merge b).attempted_survey _
  have calm := calm_emitAll_setDevice hd (Nat.le_of_eq (Device.credit_eq same))
    ((d.merge b).eventsFor (d.changes (d.merge b)))
  have hr' := hr
  rw [run?, ← calm.runs] at hr'
  unfold fetched
  simp only
  split
  · split
    · refine ((ahead_enter hr' ?_).urge rfl).of_calm calm
      simp only [Run.effort, Run.enter, hp, Stage.rank, Progress.rank]
      omega
    · exact (ahead_abandon hr').of_calm calm
  · refine ((ahead_enter hr' ?_).urge rfl).of_calm calm
    simp only [Run.effort, Run.enter, hp, Stage.rank, Progress.rank]
    omega

/-- **Whatever a stage has brought, the run has come further.** -/
theorem ahead_proceed {h : Host} {id : RunId} {r : Run} {d : Device} {stage : Stage}
    {progress : Progress} (hr : h.run? id = some r) (hd : h.device? r.device = some d)
    (hp : r.phase = .bringUp stage progress) (a : stage.Yield) :
    Ahead (h.proceed id r d stage a) h := by
  cases stage with
  | acquire =>
    have calm := calm_setDevice (e := { d with busPresent := true }) hd (Nat.le_refl _)
    refine ((ahead_enter (r := r) (h := h.setDevice _ _) hr ?_).urge rfl).of_calm calm
    simp only [Run.effort, Run.enter, hp, Stage.rank, Progress.rank]
    omega
  | bind =>
    apply ahead_enter hr
    simp only [Run.effort, Run.enter, hp, Stage.rank, Progress.rank]
    omega
  | subscribe =>
    apply ahead_enter hr
    simp only [Run.effort, Run.enter, hp, Stage.rank, Progress.rank, feedLength, Option.elim_some,
      List.length_nil]
    omega
  | fetch => exact ahead_fetched hr hd hp a
  | bindAdapter adapter =>
    apply ahead_enter hr
    simp only [Run.effort, Run.enter, hp, Stage.rank, Progress.rank]
    omega
  | subscribePower adapter =>
    apply ahead_enter hr
    simp only [Run.effort, Run.enter, hp, Stage.rank, Progress.rank, feedLength, Option.elim_some,
      List.length_nil]
    omega
  | readPower adapter =>
    have calm := calm_setDevice (e := { d with adapter := .resolved a.on }) hd (Nat.le_refl _)
    refine (ahead_enter (r := r) (h := h.setDevice _ _) hr ?_).of_calm calm
    -- a feed that is silenced keeps what it was sent before
    have : feedLength (if a.heard then r.power else r.power.map (·.silence)) = feedLength r.power := by
      split
      · rfl
      · cases r.power <;> rfl
    simp only [Run.effort, Run.enter, hp, Stage.rank, Progress.rank, this]
    omega
  | announce =>
    have calm := calm_report h r.device true
    have hr' := hr
    rw [run?, ← calm.runs] at hr'
    refine ((ahead_setRun hr' ?_).urge rfl).of_calm calm
    simp only [Run.effort, hp, Stage.rank, Progress.rank]
    omega

end Host

/-! ## Calls that wait -/

/-- A call to a stub comes on, or it still waits where it waited. -/
theorem Stub.waits_of_attempt {s : Stub} {path : String} {stage : Stage} {p q : Progress}
    (hf : s.attempt path stage p = .waits q) (hp : p ≠ .stuck) :
    q.rank < p.rank ∨ ∃ atPath kind target, p = .waits atPath ∧ q = p ∧
      stage.call? path = some (kind, target) ∧
        s.held.contains (if atPath then pathPoint kind target else kind) = true := by
  have find_ne (stage : Stage) : s.find path stage ≠ .waits q := by
    cases stage <;> simp only [find] <;> (try split) <;> simp
  have failing_ne (stage : Stage) : findFailing stage ≠ .waits q := by
    cases stage <;> simp [findFailing]
  have atPath {kind target : String} {b : Bool} (h : s.passPath kind target = .waits b) :
      b = true ∧ s.held.contains (pathPoint kind target) = true := by
    rw [passPath] at h
    split at h
    · next hh => exact ⟨(Passage.waits.inj h).symm, hh⟩
    · split at h <;> exact absurd h (by simp)
  rw [attempt] at hf
  split at hf
  · exact absurd hf (find_ne _)
  · next kind target hc =>
    split at hf
    · next b hb =>
      obtain rfl := Finding.waits.inj hf
      rw [pass] at hb
      split at hb
      · next h =>
        obtain ⟨rfl, held⟩ := atPath hb
        exact .inr ⟨true, kind, target, h, h.symm, hc, held⟩
      · next h =>
        -- the call is not at its path yet: it comes on unless its kind is still held
        rw [passKind] at hb
        split at hb
        · next held =>
          obtain rfl := Passage.waits.inj hb
          cases p with
          | fresh => exact .inl (by decide)
          | stuck => exact absurd rfl hp
          | waits atPath =>
            cases atPath with
            | false => exact .inr ⟨false, kind, target, rfl, rfl, hc, held⟩
            | true => exact absurd rfl h
        · split at hb
          · exact absurd hb (by simp)
          · obtain ⟨rfl, -⟩ := atPath hb
            cases p with
            | fresh => exact .inl (by decide)
            | stuck => exact absurd rfl hp
            | waits atPath =>
              cases atPath with
              | false => exact .inl (by decide)
              | true => exact absurd rfl h
    · exact absurd hf (find_ne _)
    · exact absurd hf (failing_ne _)

/-- A peer answers at once or never. -/
theorem Peer.waits_of_attempt {p : Peer} {g : Generation} {path : String} {stage : Stage}
    {q : Progress} (hf : (p.attempt g path stage).2 = .waits q) : q = .stuck := by
  have binding_ne (path : String) : findBinding path ≠ .waits q := by
    rw [findBinding]
    split <;> simp
  have power {path : String} (h : (p.findPower path).2 = .waits q) : q = .stuck := by
    rw [findPower] at h
    split at h
    · split at h
      · simp at h
      · simp at h
      · exact (Finding.waits.inj h).symm
    · simp at h
    · exact (Finding.waits.inj h).symm
  cases stage with
  | acquire | subscribe | subscribePower | announce => simp [attempt] at hf
  | bind => exact absurd hf (binding_ne _)
  | bindAdapter adapter => exact absurd hf (binding_ne _)
  | readPower adapter => exact power hf
  | fetch =>
    simp only [attempt] at hf
    split at hf
    · simp at hf
    · simp at hf
    · exact (Finding.waits.inj hf).symm

namespace Host

/-- Nothing is to be done that was not to be done before. -/
structure Idle (h' h : Host) : Prop where
  credit : h'.credit ≤ h.credit
  effort : h'.effort ≤ h.effort
  chores : h'.chores = h.chores

/-- What is calm is idle. -/
theorem Idle.of_calm {h' h : Host} (c : Calm h' h) : Idle h' h :=
  ⟨c.credit_le, Nat.le_of_eq c.effort_eq, c.chores_eq⟩

/-- A run may be kept where it is. -/
theorem idle_setRun {h : Host} {id : RunId} {r r' : Run} (hr : h.run? id = some r)
    (le : r'.effort ≤ r.effort) : Idle (h.setRun id r') h := by
  have := Table.total_modify (f := Run.effort) hr fun _ => r'
  refine ⟨Nat.le_refl _, ?_, rfl⟩
  simp only [Host.effort, setRun]
  omega

/-- What went on calmly before does not count. -/
theorem Idle.of_calm_right {h₁ h₂ h₃ : Host} (i : Idle h₁ h₂) (c : Calm h₂ h₃) : Idle h₁ h₃ :=
  ⟨Nat.le_trans i.credit c.credit_le, c.effort_eq ▸ i.effort, i.chores.trans c.chores_eq⟩

/-- What a peer may still answer is not counted. -/
theorem calm_setTransport (h : Host) (t : Transport) : Calm { h with transport := t } h :=
  ⟨rfl, rfl, rfl, rfl, Nat.le_refl _⟩

/-- A run comes on when its call does not wait longer. -/
theorem ahead_settleStage {h : Host} {id : RunId} {r : Run} {d : Device} {stage : Stage}
    {progress : Progress} (hr : h.run? id = some r) (hd : h.device? r.device = some d)
    (hp : r.phase = .bringUp stage progress) {finding : Finding stage.Yield}
    (hf : ∀ q, finding = .waits q → q.rank < progress.rank) :
    Ahead (h.settleStage id r d stage finding) h := by
  cases finding with
  | waits q =>
    apply ahead_setRun hr
    have := hf q rfl
    simp only [Run.effort, hp]
    omega
  | failed => exact ahead_abandon hr
  | yields a => exact ahead_proceed hr hd hp a

/-- A noted call changes no record. -/
theorem devices_noteCall (h : Host) (path : String) (stage : Stage) (progress : Progress) :
    (h.noteCall path stage progress).devices = h.devices := by
  unfold noteCall
  split <;> rfl

/-- A run that brings its device up comes on, unless its call is still held. -/
theorem ahead_attempt {h : Host} {id : RunId} {r : Run} {d : Device} {stage : Stage}
    {progress : Progress} (hr : h.run? id = some r) (hd : h.device? r.device = some d)
    (hp : r.phase = .bringUp stage progress) (hs : progress ≠ .stuck) :
    Ahead (h.attempt id r d stage progress) h ∨ Idle (h.attempt id r d stage progress) h ∧
      ∃ atPath, progress = .waits atPath ∧ h.isHeld d.path stage atPath = true := by
  unfold attempt
  split
  · next s ht =>
    -- only a stub can hold a call, and then the call waits where it waited
    have calm := calm_noteCall h d.path stage progress
    have hr' : (h.noteCall d.path stage progress).run? id = some r := by
      rw [run?, calm.runs]; exact hr
    have hd' : (h.noteCall d.path stage progress).device? r.device = some d := by
      rw [device?, devices_noteCall]; exact hd
    cases hf : s.attempt d.path stage progress with
    | waits q =>
      rcases Stub.waits_of_attempt hf hs with lt | ⟨atPath, kind, target, rfl, rfl, hc, held⟩
      · exact .inl ((ahead_settleStage hr' hd' hp (by rintro _ ⟨⟩; exact lt)).of_calm calm)
      · refine .inr ⟨(idle_setRun hr' ?_).of_calm_right calm, atPath, rfl, ?_⟩
        · simp only [Run.effort, hp, Nat.le_refl]
        · simp only [isHeld, ht, hc]
          exact held
    | failed => exact .inl ((ahead_settleStage hr' hd' hp (by simp)).of_calm calm)
    | yields a => exact .inl ((ahead_settleStage hr' hd' hp (by simp)).of_calm calm)
  · next p ht =>
    -- a peer answers at once or leaves the call stuck, which is further than where it was
    generalize hf : p.attempt h.generation d.path stage = answer
    obtain ⟨p', finding⟩ := answer
    refine .inl ((ahead_settleStage (h := { h with transport := .peer p' }) hr hd hp ?_).of_calm
      (calm_setTransport h _))
    intro q hq
    rw [Peer.waits_of_attempt (q := q) (by rw [hf]; exact hq)]
    cases progress with
    | fresh => decide
    | waits b => cases b <;> decide
    | stuck => exact absurd rfl hs
  · exact .inl (ahead_abandon hr)

/-- An update is merged calmly, and has the device assessed. -/
theorem calm_takeIn {h : Host} {id : DeviceId} {d : Device} (hd : h.device? id = some d)
    (u : Update) : ∃ g, h.takeIn id d u = g.urge [.reassess id] ∧ Calm g h := by
  cases u with
  | properties b =>
    refine ⟨_, rfl, calm_emitAll_setDevice hd (Nat.le_of_eq (Device.credit_eq ?_)) _⟩
    split
    · exact (d.merge b).attempted_survey _
    · rfl
  | power on => exact ⟨_, rfl, calm_setDevice (e := { d with adapter := .resolved on }) hd (Nat.le_refl _)⟩

/-- A run that follows its device comes on, unless nothing has come. -/
theorem ahead_followOn {h : Host} {id : RunId} {r : Run} {d : Device} (hr : h.run? id = some r)
    (hd : h.device? r.device = some d) :
    Ahead (h.followOn id r d) h ∨
      Idle (h.followOn id r d) h ∧ r.next? = none ∧ r.exhausted = false := by
  unfold followOn
  split
  · next u r' hn =>
    have takes := Run.takes_of_next? hn
    have lt : r'.effort < r.effort := Nat.lt_of_succ_le (Nat.le_of_eq takes.effort)
    have same : r'.device = r.device := by cases takes <;> rfl
    obtain ⟨g, hg, calm⟩ := calm_takeIn (h := (h.setRun id r').urge [.pursue id]) (same ▸ hd) u
    rw [hg]
    exact .inl ((((ahead_setRun hr lt).urge rfl).calm calm).urge rfl)
  · next hn =>
    split
    · exact .inl (ahead_endRun hr)
    · next he => exact .inr ⟨idle_setRun hr (Nat.le_refl _), hn, by simpa using he⟩

/-- A run comes on, or it cannot go on now. -/
theorem ahead_pursue (h : Host) (id : RunId) :
    Ahead (h.pursue id) h ∨
      Idle (h.pursue id) h ∧ ∀ r, h.run? id = some r → h.isReady r = false := by
  unfold pursue
  split
  · next hr => exact .inr ⟨.of_calm (.refl h), fun r hr' => absurd (hr.symm.trans hr') (by simp)⟩
  · next r hr =>
    have only {P : Run → Prop} (hP : P r) : ∀ r', h.run? id = some r' → P r' := fun r' hr' => by
      obtain rfl := Option.some.inj (hr.symm.trans hr')
      exact hP
    split
    · exact .inl (ahead_endRun hr)
    · next d hd hp =>
      rcases ahead_followOn hr hd with a | ⟨i, hn, he⟩
      · exact .inl a
      · refine .inr ⟨i, only ?_⟩
        simp only [isReady, hd, hp, Run.hasUpdate_of_next?_eq_none hn, he, Bool.or_false]
    · next d stage hd hp =>
      refine .inr ⟨.of_calm (.refl h), only ?_⟩
      simp only [isReady, hd, hp]
    · next d stage progress hs hd hp =>
      rcases ahead_attempt hr hd hp hs with a | ⟨i, b, rfl, held⟩
      · exact .inl a
      · refine .inr ⟨i, only ?_⟩
        simp only [isReady, hd, hp, held, Bool.not_true]

end Host

end Piconet
