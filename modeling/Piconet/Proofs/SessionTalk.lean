import Piconet.Operation

/-!
# The talk of a session

An operation that passes its checks makes one call to the device and is over when the call is.
`Talk` is the record of such calls and of how they ended, and `Talk.Due` says when a call may be
made, in view of what passed before. The record of a session has one of four shapes; each says
which operation has its call on its way, if any (`Session.Shape.call?`), and what passed last
(`Session.Shape.Fits`). The checks of an operation and its end lead from one shape to another.
-/

namespace Piconet

/-! ## The record of calls -/

/-- What passes in the sessions of a device. -/
inductive Talk where
  /-- a call is made, for a device as the caller knew it -/
  | called (caller : Device) (call : EndpointCall)
  /-- the last call is over -/
  | ended (outcome : Outcome)

/-- What a call takes. A session is opened when discovery has succeeded, in a role that the model
supports and the device serves; it is closed right after it was opened and before anything else,
and the interface is named for a dial-up session under BlueZ 4 only. -/
def Talk.Due (before : List Talk) (caller : Device) : EndpointCall → Prop
  | .connect r =>
    caller.initialized = true ∧ caller.generation.supports r = true ∧
      caller.capabilities.serves r = true
  | .disconnect r i => ∃ earlier opener x,
      before = earlier ++ [.called opener (.connect r), .ended (.ok (some x))] ∧
        i = if r = .dun ∧ caller.generation = .bluez4 then some x else none

/-- All calls were due when they were made. -/
def Talk.Proper (ts : List Talk) : Prop := ∀ before caller call after,
  ts = before ++ .called caller call :: after → Talk.Due before caller call

namespace Talk

variable {ts : List Talk} {d : Device} {call : EndpointCall} {o : Outcome}

theorem proper_nil : Proper [] := by
  intro before caller call after same
  exact absurd same (by simp)

theorem Proper.called (proper : Proper ts) (due : Due ts d call) :
    Proper (ts ++ [.called d call]) := by
  intro before caller call' after same
  rcases List.eq_nil_or_concat after with rfl | ⟨rest, last, rfl⟩
  · obtain ⟨rfl, same⟩ := List.append_inj' same rfl
    obtain ⟨rfl, rfl⟩ : d = caller ∧ call = call' := by simpa using same
    exact due
  · rw [List.concat_eq_append, ← List.cons_append, ← List.append_assoc] at same
    exact proper before caller call' rest (List.append_inj' same rfl).1

theorem Proper.ended (proper : Proper ts) (o : Outcome) : Proper (ts ++ [.ended o]) := by
  intro before caller call after same
  rcases List.eq_nil_or_concat after with rfl | ⟨rest, last, rfl⟩
  · exact absurd (List.append_inj' same rfl).2 (by simp)
  · rw [List.concat_eq_append, ← List.cons_append, ← List.append_assoc] at same
    exact proper before caller call rest (List.append_inj' same rfl).1

end Talk

/-! ## The shapes of a session -/

/-- How far a session has come. -/
inductive Session.Shape where
  | idle
  | connecting (role : Role)
  | up (role : Role) (interface : String)
  | closing
  deriving DecidableEq, Repr

namespace Session

/-- The shape of a record, if it has one: nothing is open and nothing on its way; a role is being
opened; a role is open on an interface; or what was open is being closed. -/
def shape? : Session → Option Shape
  | ⟨none, none, none⟩ => some .idle
  | ⟨some r, some .connect, none⟩ => some (.connecting r)
  | ⟨some r, none, some x⟩ => some (.up r x)
  | ⟨none, some .disconnect, none⟩ => some .closing
  | _ => none

namespace Shape

/-- The record of a session that has come so far. -/
def session : Shape → Session
  | .idle => ⟨none, none, none⟩
  | .connecting r => ⟨some r, some .connect, none⟩
  | .up r x => ⟨some r, none, some x⟩
  | .closing => ⟨none, some .disconnect, none⟩

/-- The operation whose call is on its way. -/
def call? : Shape → Option Operation
  | .idle | .up .. => none
  | .connecting r => some (.connect r)
  | .closing => some .disconnect

/-- What passed last, where it matters. -/
def Fits (ts : List Talk) : Shape → Prop
  | .idle | .closing => True
  | .connecting r => ∃ earlier opener, ts = earlier ++ [.called opener (.connect r)]
  | .up r x => ∃ earlier opener,
      ts = earlier ++ [.called opener (.connect r), .ended (.ok (some x))]

end Shape

variable {s : Session} {shape : Shape}

/-- A record has the shape that it is the record of. -/
theorem shape?_eq_some : s.shape? = some shape ↔ s = shape.session := by
  constructor
  · intro has
    rw [shape?.eq_def] at has
    split at has <;> cases has <;> rfl
  · rintro rfl
    cases shape <;> rfl

end Session

/-! ## Operations -/

open Session (Shape)

namespace Session.Shape

variable {shape : Shape} {s : Session} {r : Role}

/-- A session with nothing on its way and no role is idle. -/
theorem idle_of_free (record : s = shape.session) (free : s.inFlight = none) (none : s.role = none) :
    shape = .idle := by
  subst record
  cases shape <;> simp_all [Shape.session]

/-- A session with nothing on its way and a role is up. -/
theorem up_of_free (record : s = shape.session) (free : s.inFlight = none) (role : s.role = some r) :
    ∃ x, shape = .up r x := by
  subst record
  cases shape <;> simp_all [Shape.session]

end Session.Shape

namespace Device

variable {d e : Device} {r : Role} {call : EndpointCall}

/-- What it takes to make the opening call, and what becomes of the device. -/
theorem of_beginConnect (started : d.beginConnect r = .calling e call) :
    (d.session.inFlight = none ∧ d.session.role = none) ∧ d.initialized = true ∧
      d.generation.supports r = true ∧ d.capabilities.serves r = true ∧ d.bound = true ∧
      e = { d with session := { d.session with inFlight := some .connect, role := some r } } ∧
      call = .connect r := by
  simp only [beginConnect] at started
  split at started
  · exact absurd started (by simp)
  · next free =>
    split at started
    · exact absurd started (by simp)
    · next initialized =>
      split at started
      · exact absurd started (by simp)
      · next fit =>
        split at started
        · exact absurd started (by simp)
        · next bound =>
          obtain ⟨rfl, rfl⟩ := Started.calling.inj started
          simp_all

/-- What it takes to make the closing call, and what becomes of the device. -/
theorem of_beginDisconnect (started : d.beginDisconnect = .calling e call) :
    d.session.inFlight = none ∧ ∃ r, d.session.role = some r ∧ d.bound = true ∧
      e = { d with session := { role := none, inFlight := some .disconnect, interface := none } } ∧
      call = .disconnect r (if d.generation.closesByInterface r then d.session.interface else none) := by
  simp only [beginDisconnect] at started
  split at started
  · exact absurd started (by simp)
  · next free =>
    split at started
    · exact absurd started (by simp)
    · next r role =>
      split at started
      · exact absurd started (by simp)
      · split at started
        · exact absurd started (by simp)
        · next bound =>
          obtain ⟨rfl, rfl⟩ := Started.calling.inj started
          exact ⟨by simpa using free, r, role, by simpa using bound, rfl, rfl⟩

end Device

namespace Operation

variable {op : Operation} {d e : Device} {call : EndpointCall} {outcome : Outcome} {shape : Shape}
  {ts : List Talk} {x? : Option Device}

/-- **A call is made when it is due**, and never while another one is on its way. -/
theorem start_calling (has : d.session.shape? = some shape) (fits : shape.Fits ts)
    (started : op.start (some d) = .calling e call) :
    shape.call? = none ∧ Talk.Due ts d call ∧ ∃ shape', e.session.shape? = some shape' ∧
      shape'.call? = some op ∧ shape'.Fits (ts ++ [.called d call]) := by
  have record := Session.shape?_eq_some.1 has
  cases op with
  | connect r =>
    obtain ⟨free, initialized, supports, serves, -, rfl, rfl⟩ := Device.of_beginConnect started
    obtain rfl := Session.Shape.idle_of_free record free.1 free.2
    refine ⟨rfl, ⟨initialized, supports, serves⟩, .connecting r, ?_, rfl, ts, d, rfl⟩
    rw [Session.shape?_eq_some, record]
    rfl
  | disconnect =>
    obtain ⟨free, r, role, -, rfl, rfl⟩ := Device.of_beginDisconnect started
    obtain ⟨x, rfl⟩ := Session.Shape.up_of_free record free role
    obtain ⟨earlier, opener, passed⟩ := fits
    refine ⟨rfl, ⟨earlier, opener, x, passed, ?_⟩, .closing, rfl, rfl, trivial⟩
    rw [record]
    cases d.generation <;> cases r <;> rfl

/-- An operation that its checks end leaves what is on its way alone, and what passed. -/
theorem start_ended (has : d.session.shape? = some shape) (fits : shape.Fits ts)
    (started : op.start (some d) = .ended x? outcome) :
    ∃ e shape', x? = some e ∧ e.session.shape? = some shape' ∧ shape'.call? = shape.call? ∧
      shape'.Fits ts := by
  have record := Session.shape?_eq_some.1 has
  cases op with
  | connect r =>
    simp only [start, Device.beginConnect] at started
    repeat' split at started
    all_goals cases started
    all_goals exact ⟨d, shape, rfl, has, rfl, fits⟩
  | disconnect =>
    simp only [start, Device.beginDisconnect] at started
    split at started
    · cases started
      exact ⟨d, shape, rfl, has, rfl, fits⟩
    · next free =>
      split at started
      · cases started
        exact ⟨d, shape, rfl, has, rfl, fits⟩
      · next r role =>
        -- the session was open, and its record is given up
        obtain ⟨x, rfl⟩ : ∃ x, shape = .up r x := by
          rw [record] at free role
          cases shape <;> simp_all [Shape.session]
        have idle : ({ inFlight := d.session.inFlight } : Session).shape? = some .idle := by
          rw [record]
          rfl
        repeat' split at started
        all_goals cases started
        all_goals exact ⟨_, .idle, rfl, idle, rfl, trivial⟩

/-- **When a call is over, nothing is on its way**, and a session is open if it was opened. -/
theorem finish_calling (has : d.session.shape? = some shape) (fits : shape.Fits ts)
    (calls : shape.call? = some op) (r : Except ConnectionError String) :
    ∃ e shape', (op.finish r (some d)).1 = some e ∧ e.session.shape? = some shape' ∧
      shape'.call? = none ∧ shape'.Fits (ts ++ [.ended (op.finish r (some d)).2]) := by
  have record := Session.shape?_eq_some.1 has
  cases shape with
  | idle | up => exact absurd calls (by simp [Shape.call?])
  | connecting role =>
    obtain rfl := Option.some.inj calls
    obtain ⟨earlier, opener, rfl⟩ := fits
    cases r with
    | ok x =>
      refine ⟨_, .up role x, rfl, ?_, rfl, earlier, opener, ?_⟩
      · rw [Session.shape?_eq_some, Device.finishConnect, record]
        rfl
      · rw [List.append_assoc]
        rfl
    | error _ => exact ⟨_, .idle, rfl, rfl, rfl, trivial⟩
  | closing =>
    obtain rfl := Option.some.inj calls
    refine ⟨_, .idle, rfl, ?_, rfl, trivial⟩
    rw [Session.shape?_eq_some, Device.finishDisconnect, record]
    rfl

end Operation

end Piconet
