import Piconet.Proofs.DroppedDevices

/-!
# Operations that outlive their device

A future that a device handed out may be held for longer than the device itself: it was not started,
or its call is on its way. Nothing but the operation itself is left to go on with it
(`Bench.outcome?`), and it goes on when it is polled, answered or waited for. What it comes to then is
settled as soon as the device is gone (`Bench.Resolves`): an operation that was not started, and one
that opens a session, find that there is no device any longer. One that closes a session and has made
its call does not look, and passes on what the remote device replies.
-/

namespace Piconet

open Bench (free)

variable {id : DeviceId} {b b' c : Bench} {p q : Pending} {name n : String}

/-- The name of the operation that a step goes on with, if it was created before. -/
def Step.resumes? : Step → Option String
  | .poll name | .expire name | .reply name _ => some name
  | _ => none

/-- What ends the call of an operation: a reply that is there, if it is not given up for the deadline, and
otherwise the deadline. -/
def Pending.reply? (p : Pending) (b : Bench) : Option SessionReply :=
  match p.phase with
  | .created => none
  | .calling deadline channel =>
    match channel.bind b.letters.get? with
    | some r => some (p.against r (deadline ≤ b.clock))
    | none => if deadline ≤ b.clock then some (.error .timeout) else none

/-- An operation has nothing to wait for. -/
def Pending.IsDue (p : Pending) (b : Bench) : Prop := p.phase = .created ∨ (p.reply? b).isSome

/-- An operation looks at its device before it ends, whenever it goes on: it has not made its call, or
it opens a session. -/
def Pending.LooksBack (p : Pending) : Prop := p.phase = .created ∨ ∃ r, p.operation = .connect r

namespace Bench

/-- What the operation of a name comes to in a move. -/
def outcome? (b : Bench) (name : String) : Move → Option Outcome
  | .step s => if s.resumes? = some name then (b.doStep s).2.outcome? else none
  | .act | .poll _ | .follow _ | .report => none

/-- The operation of a name can come to one outcome only, and comes to it. -/
structure Resolves (name : String) (p : Pending) (o : Outcome) (b : Bench) : Prop where
  /-- whatever happens leaves it as it is or ends it with that outcome, if it does not drop it -/
  only : ∀ m c, b.make m = some c → b.dropped? m ≠ some name →
    b.outcome? name m = none ∧ c.operations.get? name = some p ∨
      b.outcome? name m = some o ∧ c.operations.get? name = none
  /-- polled when it has nothing to wait for, it ends -/
  polled : p.IsDue b → b.outcome? name (.step (.poll name)) = some o
  /-- given a reply, it ends if it has nothing to wait for then -/
  answered : ∀ channel r, b.senders.get? name = some channel → p.IsDue (b.give name channel r) →
    b.outcome? name (.step (.reply name r)) = some o
  /-- waited for, it ends -/
  expired : b.outcome? name (.step (.expire name)) = some o

/-! ## Going on without a device -/

/-- What an operation on a device that is gone comes to when it has nothing to wait for. -/
def bereft? (b : Bench) (p : Pending) : Option Outcome :=
  match p.phase with
  | .created => some (.error .deviceGone)
  | .calling .. => (p.reply? b).map fun r => (p.operation.finish r none).2

/-- Only an operation that has something to wait for does not end. -/
theorem isSome_bereft? : (b.bereft? p).isSome ↔ p.IsDue b := by
  rw [bereft?, Pending.IsDue]
  cases phase : p.phase with
  | created => simp
  | calling deadline channel => simp

/-- An operation that looks back finds that its device is gone. -/
theorem bereft?_of_looksBack (looks : p.LooksBack) {o : Outcome} (ends : b.bereft? p = some o) :
    o = .error .deviceGone := by
  rw [bereft?] at ends
  cases phase : p.phase with
  | created =>
    rw [phase] at ends
    exact (Option.some.inj ends).symm
  | calling deadline channel =>
    rw [phase] at ends
    obtain ⟨r, -, rfl⟩ := Option.map_eq_some_iff.1 ends
    rcases looks with created | ⟨role, opens⟩
    · exact absurd (phase.symm.trans created) (by simp)
    · rw [opens]
      rfl

/-- One that does not passes on what ends its call. -/
theorem bereft?_of_not_looksBack (passesOn : ¬ p.LooksBack) :
    b.bereft? p = (p.reply? b).map fun r => r.map fun _ => none := by
  obtain ⟨calling, closes⟩ := not_or.1 passesOn
  rw [bereft?]
  cases phase : p.phase with
  | created => exact absurd phase calling
  | calling deadline channel =>
    cases operation : p.operation with
    | connect r => exact absurd ⟨r, operation⟩ closes
    | disconnect => rfl

/-- An operation whose device is gone ends, or waits, and nothing else changes. -/
def withdraw (b : Bench) (name : String) (p : Pending) : Bench × Option Outcome :=
  match b.bereft? p with
  | some o => ({ b with operations := b.operations.erase name }, some o)
  | none => (b, none)

/-- To withdraw is to end with what an operation without a device comes to. -/
theorem snd_withdraw (b : Bench) (name : String) (p : Pending) :
    (b.withdraw name p).2 = b.bereft? p := by
  rw [withdraw]
  split
  · next ends => exact ends.symm
  · next waits => exact waits.symm

/-- Without a device an operation that looks for its reply withdraws. -/
theorem look_of_gone (gone : b.host.device? p.device = none) (calling : p.phase ≠ .created) :
    b.look name p = b.withdraw name p := by
  have ends (r : SessionReply) : b.finish name p r =
      ({ b with operations := b.operations.erase name }, some (p.operation.finish r none).2) := by
    rw [Bench.finish, gone]
    rfl
  cases phase : p.phase with
  | created => exact absurd phase calling
  | calling deadline channel =>
    simp only [Bench.look, withdraw, bereft?, Pending.reply?, phase]
    cases channel.bind b.letters.get? with
    | some r => exact ends _
    | none =>
      by_cases late : deadline ≤ b.clock
      · simpa [late] using ends _
      · simp [late]

/-- **An operation that is polled when its device is gone** ends at once if it was not started. -/
theorem poll_of_gone_eq (gone : b.host.device? p.device = none) :
    b.poll name p = b.withdraw name p := by
  rw [Bench.poll]
  cases phase : p.phase with
  | created => simp only [Bench.start, gone, Operation.start, withdraw, bereft?, phase, putDevice]
  | calling => exact look_of_gone gone (by simp [phase])

/-- An operation that is waited for when its device is gone ends. -/
theorem expire_of_gone_eq (held : b.operations.get? name = some p)
    (gone : b.host.device? p.device = none) :
    ∃ t ≥ b.clock, ∃ o, { b with clock := t }.bereft? p = some o ∧
      b.expire name p = ({ b with clock := t, operations := b.operations.erase name }, some o) := by
  have polled : b.poll name p = b.withdraw name p := poll_of_gone_eq gone
  rw [Bench.expire, polled, withdraw]
  cases ends : b.bereft? p with
  | some o => exact ⟨b.clock, Nat.le_refl _, o, ends, rfl⟩
  | none =>
    cases phase : p.phase with
    | created =>
      rw [bereft?, phase] at ends
      exact absurd ends (by simp)
    | calling deadline channel =>
      -- the deadline is over by then
      let later : Bench := { b with clock := max b.clock deadline }
      have due : (later.bereft? p).isSome := by
        rw [isSome_bereft?]
        refine .inr ?_
        simp only [Pending.reply?, phase]
        rw [if_pos (Nat.le_max_right _ _)]
        cases channel.bind later.letters.get? <;> rfl
      obtain ⟨o, ends⟩ := Option.isSome_iff_exists.1 due
      refine ⟨max b.clock deadline, Nat.le_max_left _ _, o, ends, ?_⟩
      simp only [held, phase]
      have looked : later.look name p = later.withdraw name p := look_of_gone gone (by simp [phase])
      rw [withdraw, ends] at looked
      exact looked

/-! ## Operations leave one another alone -/

/-- Nothing becomes of operations of other names, and what is held under the name is for a device. -/
structure Attends (name : String) (id : DeviceId) (b c : Bench) : Prop where
  others : ∀ n ≠ name, c.operations.get? n = b.operations.get? n
  own : ∀ q, c.operations.get? name = some q → q.device = id

theorem attends_erase (same : c.operations = b.operations.erase name) : Attends name id b c where
  others n other := by rw [same, Table.get?_erase, if_neg other]
  own q held := by
    rw [same, Table.get?_erase, if_pos rfl] at held
    exact absurd held (by simp)

theorem attends_set (same : c.operations = b.operations.set name p) : Attends name p.device b c where
  others n other := by rw [same, Table.get?_set, if_neg other]
  own q held := by
    rw [same, Table.get?_set, if_pos rfl] at held
    rw [Option.some.inj held]

theorem attends_self (held : b.operations.get? name = some p) : Attends name p.device b b where
  others _ _ := rfl
  own q same := by rw [Option.some.inj (held.symm.trans same)]

/-- Whoever attends to one operation twice has attended to no other. -/
theorem Attends.trans (first : Attends name id b b') (second : Attends name id b' c) :
    Attends name id b c where
  others n other := (second.others n other).trans (first.others n other)
  own := second.own

/-- To look for a reply is a matter of that operation. -/
theorem attends_look (held : b.operations.get? name = some p) :
    Attends name p.device b (b.look name p).1 := by
  rcases look_cases b name p with ⟨r, ends⟩ | waits
  · rw [ends]
    exact attends_erase rfl
  · rw [waits]
    exact attends_self held

/-- To start an operation is a matter of that operation. -/
theorem attends_start (b : Bench) (name : String) (p : Pending) :
    Attends name p.device b (b.start name p).1 := by
  cases started : p.operation.start (b.host.device? p.device) with
  | ended after outcome =>
    rw [Bench.start, started]
    exact attends_erase rfl
  | calling after call =>
    obtain ⟨c, q, device, -, -, -, operations, ends⟩ := start_calling name started
    rw [← device]
    refine (attends_set operations).trans ?_
    rcases ends with ⟨r, ends⟩ | looks
    · rw [ends]
      exact attends_erase rfl
    · rw [looks]
      exact attends_look (by rw [operations, Table.get?_set, if_pos rfl])

/-- To poll an operation is a matter of that operation. -/
theorem attends_poll (held : b.operations.get? name = some p) :
    Attends name p.device b (b.poll name p).1 := by
  rw [Bench.poll]
  split
  · exact attends_start b name p
  · exact attends_look held

/-- The deadline of an operation is a matter of that operation. -/
theorem attends_expire (held : b.operations.get? name = some p) :
    Attends name p.device b (b.expire name p).1 := by
  have polled := attends_poll held
  rw [Bench.expire]
  generalize b.poll name p = polling at polled ⊢
  obtain ⟨c, _ | outcome⟩ := polling
  · dsimp only
    split
    · next q held =>
      split
      · next deadline channel phase =>
        -- time passes, and the operation looks again
        have looked := attends_look (b := { c with clock := max c.clock deadline }) held
        rw [polled.own q held] at looked
        exact ⟨fun n other => (looked.others n other).trans (polled.others n other), looked.own⟩
      · exact polled
    · exact polled
  · exact polled

/-- An operation is created and goes on, unless it is lazy. -/
theorem attends_operate (j : DeviceId) (path : String) (operation : Operation) (name : String)
    (provision : Provision) (isLazy : Bool) (favors : Pending.Branch) :
    Attends name j b (b.operate j path operation name provision isLazy favors).1 := by
  let p : Pending := { operation, device := j, favors }
  -- the script is set aside from the operations, whichever it is
  have begun (c : Bench) (same : c.operations = b.operations) :
      Attends name j b (if isLazy then ({ c with operations := c.operations.set name p }, .created)
        else progress (Bench.poll { c with operations := c.operations.set name p } name p)).1 := by
    have created : Attends name j b { c with operations := c.operations.set name p } :=
      attends_set (p := p) (congrArg (·.set name p) same)
    split
    · exact created
    · rw [fst_progress]
      exact created.trans (attends_poll (p := p) (by rw [Table.get?_set, if_pos rfl]))
  cases provision with
  | usual => exact begun (b.setScript path none) rfl
  | reply r => exact begun (b.setScript path (some r)) rfl
  | hold => exact begun (b.holdScript path name) rfl

/-- A step that goes on with an operation goes on with that one. -/
theorem attends_resume {s : Step} (resumes : s.resumes? = some name)
    (held : b.operations.get? name = some p) : Attends name p.device b (b.doStep s).1 := by
  cases s with
  | poll n =>
    obtain rfl : n = name := Option.some.inj resumes
    simp only [doStep, withSome, held, Option.elim_some, fst_progress]
    exact attends_poll held
  | expire n =>
    obtain rfl : n = name := Option.some.inj resumes
    simp only [doStep, withSome, held, Option.elim_some, fst_progress]
    exact attends_expire held
  | reply n r =>
    obtain rfl : n = name := Option.some.inj resumes
    cases sender : b.senders.get? n with
    | none =>
      simp only [doStep, withSome, sender, Option.elim_none]
      exact attends_self held
    | some channel =>
      have under : (b.give n channel r).operations.get? n = some p := held
      simp only [doStep, withSome, sender, Option.elim_some, Bench.reply, pollIfThere, under,
        Prod.map_fst, id]
      have polled := attends_poll under
      exact ⟨polled.others, polled.own⟩
  | _ => exact absurd resumes (by simp [Step.resumes?])

/-- A step that would go on with an operation that is not there changes no operation. -/
theorem operations_resume_of_none {s : Step} (resumes : s.resumes? = some name)
    (none : b.operations.get? name = none) : (b.doStep s).1.operations = b.operations := by
  cases s with
  | poll n | expire n =>
    obtain rfl : n = name := Option.some.inj resumes
    simp only [doStep, withSome, none, Option.elim_none]
  | reply n r =>
    obtain rfl : n = name := Option.some.inj resumes
    refine operations_withSome fun channel => ?_
    have under : (b.give n channel r).operations.get? n = .none := none
    simp only [Bench.reply, pollIfThere, under]
    rfl
  | _ => exact absurd resumes (by simp [Step.resumes?])

/-- A move that is no step of a user changes no operation. -/
theorem operations_aside {m : Move} (made : b.make m = some c) (off : ∀ s, m ≠ .step s) :
    c.operations = b.operations := by
  refine operations_make ?_ (fun n => off _) made
  rintro ⟨s, same, -⟩
  exact off s same

/-- An operation that is not dropped, and that a step does not go on with, stays as it is. -/
theorem get?_operations_doStep {s : Step} (kept : b.dropped? (.step s) ≠ some name)
    (other : s.resumes? ≠ some name) :
    (b.doStep s).1.operations.get? name = b.operations.get? name := by
  have apart {n : String} (elsewhere : some n ≠ some name) : name ≠ n :=
    fun same => elsewhere (same ▸ rfl)
  -- the step goes on with an operation of another name, if there is one
  have resumed {n : String} (resumes : s.resumes? = some n) :
      (b.doStep s).1.operations.get? name = b.operations.get? name := by
    cases held : b.operations.get? n with
    | none => rw [operations_resume_of_none resumes held]
    | some p => exact (attends_resume resumes held).others name (apart (resumes ▸ other))
  cases s with
  | poll | expire | reply => exact resumed rfl
  | operate device operation n provision isLazy favors =>
    cases named : b.host.find? device with
    | none => simp [doStep, withSome, named]
    | some j =>
      cases found : b.host.device? j with
      | none => simp [doStep, withSome, named, found]
      | some d =>
        have elsewhere : name ≠ n := apart (by simpa [dropped?, named, found] using kept)
        simp only [doStep, withSome, named, found, Option.elim_some]
        exact (attends_operate j d.path operation n provision isLazy favors).others name elsewhere
  | cancel n =>
    have elsewhere : name ≠ n := apart (by simpa [dropped?] using kept)
    exact (Table.get?_erase b.operations n name).trans (if_neg elsewhere)
  | _ => rw [operations_doStep rfl (by simp)]

/-! ## What is left to come -/

/-- What an operation comes to is the result of the step that goes on with it. -/
theorem outcome?_step {s : Step} (resumes : s.resumes? = some name) :
    b.outcome? name (.step s) = (b.doStep s).2.outcome? := if_pos resumes

/-- **What becomes of an operation whose device is gone** in a step that goes on with it. -/
theorem resume_of_gone {s : Step} (held : b.operations.get? name = some p)
    (gone : b.host.device? p.device = none) (resumes : s.resumes? = some name) :
    b.outcome? name (.step s) = none ∧ (b.doStep s).1.operations.get? name = some p ∨
    ∃ x : Bench, ∃ o, x.bereft? p = some o ∧ b.outcome? name (.step s) = some o ∧
      (b.doStep s).1.operations.get? name = none := by
  have erased (x : Bench) : (x.operations.erase name).get? name = none := by
    rw [Table.get?_erase, if_pos rfl]
  rw [outcome?_step resumes]
  cases s with
  | poll n =>
    obtain rfl : n = name := Option.some.inj resumes
    simp only [doStep, withSome, held, Option.elim_some, fst_progress, outcome?_progress,
      poll_of_gone_eq gone, withdraw]
    cases ends : b.bereft? p with
    | none => exact .inl ⟨rfl, held⟩
    | some o => exact .inr ⟨b, o, ends, rfl, erased b⟩
  | expire n =>
    obtain rfl : n = name := Option.some.inj resumes
    obtain ⟨t, -, o, ends, expired⟩ := expire_of_gone_eq held gone
    simp only [doStep, withSome, held, Option.elim_some, fst_progress, outcome?_progress, expired]
    exact .inr ⟨_, o, ends, rfl, erased b⟩
  | reply n r =>
    obtain rfl : n = name := Option.some.inj resumes
    cases sender : b.senders.get? n with
    | none =>
      simp only [doStep, withSome, sender, Option.elim_none]
      exact .inl ⟨rfl, held⟩
    | some channel =>
      have under : (b.give n channel r).operations.get? n = some p := held
      have polled : (b.give n channel r).poll n p = (b.give n channel r).withdraw n p :=
        poll_of_gone_eq gone
      simp only [doStep, withSome, sender, Option.elim_some, Bench.reply, pollIfThere, under, polled,
        Prod.map_fst, Prod.map_snd, outcome?_delivered, withdraw, id]
      cases ends : (b.give n channel r).bereft? p with
      | none => exact .inl ⟨rfl, under⟩
      | some o => exact .inr ⟨_, o, ends, rfl, erased _⟩
  | _ => exact absurd resumes (by simp [Step.resumes?])

/-- **An operation that looks back comes to the device being gone.** -/
theorem resolves_of_gone (held : b.operations.get? name = some p)
    (gone : b.host.device? p.device = none) (looks : p.LooksBack) :
    Resolves name p (.error .deviceGone) b where
  only m c made kept := by
    cases m with
    | act | poll | follow | report => exact .inl ⟨rfl, by rw [operations_aside made (by simp), held]⟩
    | step s =>
      obtain ⟨-, made⟩ := Option.ite_none_right_eq_some.1 made
      obtain rfl := Option.some.inj made
      by_cases resumes : s.resumes? = some name
      · refine (resume_of_gone held gone resumes).imp_right ?_
        rintro ⟨x, o, ends, came, erased⟩
        rw [bereft?_of_looksBack looks ends] at came
        exact ⟨came, erased⟩
      · exact .inl ⟨if_neg resumes, (get?_operations_doStep kept resumes).trans held⟩
  polled due := by
    obtain ⟨o, ends⟩ := Option.isSome_iff_exists.1 (isSome_bereft?.2 due)
    rw [outcome?_step rfl]
    simp only [doStep, withSome, held, Option.elim_some, outcome?_progress, poll_of_gone_eq gone,
      snd_withdraw, ends, bereft?_of_looksBack looks ends]
  answered channel r sender due := by
    obtain ⟨o, ends⟩ := Option.isSome_iff_exists.1 (isSome_bereft?.2 due)
    have under : (b.give name channel r).operations.get? name = some p := held
    have polled : (b.give name channel r).poll name p = (b.give name channel r).withdraw name p :=
      poll_of_gone_eq gone
    rw [outcome?_step rfl]
    simp only [doStep, withSome, sender, Option.elim_some, Bench.reply, pollIfThere, under, polled,
      Prod.map_snd, outcome?_delivered, snd_withdraw, ends, bereft?_of_looksBack looks ends]
  expired := by
    obtain ⟨t, -, o, ends, expired⟩ := expire_of_gone_eq held gone
    rw [outcome?_step rfl]
    simp only [doStep, withSome, held, Option.elim_some, outcome?_progress, expired,
      bereft?_of_looksBack looks ends]

/-- An operation on a device that is gone was held before: none is created any longer. -/
theorem held_of_gone {m : Move} (gone : b.host.device? p.device = none) (made : b.make m = some c)
    (held : c.operations.get? name = some p) : b.operations.get? name = some p := by
  cases m with
  | act | poll | follow | report =>
    rwa [operations_aside made (by simp)] at held
  | step s =>
    obtain ⟨-, made⟩ := Option.ite_none_right_eq_some.1 made
    obtain rfl := Option.some.inj made
    by_cases resumes : s.resumes? = some name
    · cases before : b.operations.get? name with
      | none =>
        rw [operations_resume_of_none resumes before, before] at held
        exact absurd held (by simp)
      | some q =>
        have device : p.device = q.device := (attends_resume resumes before).own p held
        rcases resume_of_gone before (device ▸ gone) resumes with ⟨-, stays⟩ | ⟨-, -, -, -, erased⟩
        · exact stays.symm.trans held
        · exact absurd (held.symm.trans erased) (by simp)
    · by_cases kept : b.dropped? (.step s) = some name
      · cases s with
        | cancel n =>
          obtain rfl : n = name := Option.some.inj kept
          have erased : (b.operations.erase n).get? n = none := by rw [Table.get?_erase, if_pos rfl]
          exact absurd (held.symm.trans erased) (by simp)
        | operate device operation n provision isLazy favors =>
          -- an operation is only created on a device that is there
          obtain ⟨d, found, same⟩ := Option.map_eq_some_iff.1 kept
          obtain rfl : n = name := same
          obtain ⟨j, named, found⟩ := Option.bind_eq_some_iff.1 found
          simp only [doStep, withSome, named, found, Option.elim_some] at held
          obtain rfl := (attends_operate j d.path operation n provision isLazy favors).own p held
          exact absurd (found.symm.trans gone) (by simp)
        | _ => exact absurd kept (by simp [dropped?])
      · rwa [get?_operations_doStep kept resumes] at held

/-- **Session operations whose device is dropped.** From the move on with which the last handle of a device
goes, no operation on its session is created or replaced. One that was not started, and one that opens a
session, can only end in `DeviceGone`: whatever the endpoint replies and whether or not the deadline passes, it
ends so as soon as it is polled with nothing left to wait for. One that closes a session and has made its call
does not look for its device again, and passes on the endpoint's own result. -/
theorem resolves_of_dropped {m : Move} (reached : Reachable free b) (kept : b.host.Keeps id)
    (made : b.make m = some b') (dropped : ¬ b'.host.Keeps id) :
    ∀ c, Reaches free b' c → ∀ name p, c.operations.get? name = some p → p.device = id →
      b'.operations.get? name = some p ∧
        (p.LooksBack → Resolves name p (.error .deviceGone) c) ∧
        (¬ p.LooksBack → c.outcome? name (.step (.poll name)) =
          (p.reply? c).map fun r => r.map fun _ => none) := by
  have silent := silent_of_dropped reached kept made dropped
  intro c later name p held device
  have gone {x : Bench} (later : Reaches free b' x) : x.host.device? p.device = none :=
    device ▸ (silent x later).gone
  refine ⟨?_, resolves_of_gone held (gone later), fun passesOn => ?_⟩
  · induction later with
    | refl => exact held
    | move m before _ made ih => exact ih (held_of_gone (gone before) made held)
  · rw [outcome?_step rfl]
    simp only [doStep, withSome, held, Option.elim_some, outcome?_progress,
      poll_of_gone_eq (gone later), snd_withdraw, bereft?_of_not_looksBack passesOn]

/-- A bench on which the handle of a device is dropped, whose session is being opened, while another
operation was not started. -/
def forsaking (moves : Nat) : Bench :=
  matched.makeAll
    (List.take moves [.step (.operate "D" (.connect .dun) "open" .hold false),
      .step (.operate "D" .disconnect "close" .usual true), .step (.command (.drop "D"))])

/-- A handle is dropped while a session is being opened and another operation is held that was not started: both
end in `DeviceGone`. -/
theorem resolves_forsaking :
    (forsaking 2).host.Keeps 0 ∧
      (forsaking 2).make (.step (.command (.drop "D"))) = some (forsaking 3) ∧
      ¬ (forsaking 3).host.Keeps 0 ∧
      ∃ p q, (forsaking 3).operations.get? "open" = some p ∧ p.phase ≠ .created ∧
        Resolves "open" p (.error .deviceGone) (forsaking 3) ∧
        (forsaking 3).operations.get? "close" = some q ∧ q.operation = .disconnect ∧
        Resolves "close" q (.error .deviceGone) (forsaking 3) := by
  have reached : Reachable free (forsaking 2) :=
    (reachable_matched trivial).trans (reaches_makeAll _ _ fun _ _ => trivial)
  have kept : (forsaking 2).host.Keeps 0 := ⟨.holder "D", by rfl⟩
  have made : (forsaking 2).make (.step (.command (.drop "D"))) = some (forsaking 3) := by rfl
  have dropped : ¬ (forsaking 3).host.Keeps 0 := by
    rintro ⟨name | path, held⟩
    · have none : (forsaking 3).host.handles = {} := by rfl
      rw [Host.kept?, none] at held
      exact absurd held (by simp [Table.get?])
    · have none : (forsaking 3).host.manager = none := by rfl
      rw [Host.kept?, none] at held
      exact absurd held (by simp)
  have settled := resolves_of_dropped reached kept made dropped _ .refl
  let p := ((forsaking 3).operations.get? "open").get (by rfl)
  let q := ((forsaking 3).operations.get? "close").get (by rfl)
  have opens : (forsaking 3).operations.get? "open" = some p := (Option.some_get _).symm
  have closes : (forsaking 3).operations.get? "close" = some q := (Option.some_get _).symm
  have calling : p.phase = .calling 20000 (some 0) := by rfl
  exact ⟨kept, made, dropped, p, q, opens, by simp [calling],
    (settled "open" p opens rfl).2.1 (.inr ⟨.dun, rfl⟩), closes, rfl,
    (settled "close" q closes rfl).2.1 (.inl rfl)⟩

/-- **A session that is being closed when its device is dropped**: the operation succeeds if the endpoint says
so and times out if it says nothing, instead of ending in `DeviceGone`. -/
theorem closes_of_dropped :
    let b := (hangingUp 2).makeAll [.step (.command (.drop "D"))]
    Reachable free b ∧ (hangingUp 2).host.Keeps 0 ∧ b.host.device? 0 = none ∧
      (∃ p, (hangingUp 2).operations.get? "close" = some p ∧ p.device = 0 ∧
        b.operations.get? "close" = some p) ∧
      b.outcome? "close" (.step (.reply "close" (.ok ""))) = some (.ok none) ∧
      b.outcome? "close" (.step (.expire "close")) = some (.error .timeout) := by
  have reached : Reachable free (hangingUp 2) :=
    (reachable_matched trivial).trans (reaches_makeAll _ _ fun _ _ => trivial)
  refine ⟨reached.trans (reaches_makeAll _ _ fun _ _ => trivial), ⟨.holder "D", by rfl⟩, by rfl,
    ⟨((hangingUp 2).operations.get? "close").get (by rfl), (Option.some_get _).symm, by rfl, by rfl⟩,
    by rfl, by rfl⟩

end Bench

end Piconet
