import Piconet.Proofs.EventBurst
import Piconet.Proofs.Notification

/-!
# Requests to the registry return

A change of the registry is announced to all devices, each of which may be assessed anew; a device that
lacks nothing but a profile submits one, and that is another request to the registry, whose change is
announced before the first announcement goes on. Nothing in this gets smaller at first sight. What does
is the number of devices that have their attempt left: each profile takes one of them (`Host.Leaves`).

Nor do announcements pile up. A device that is assessed because of an addition has just taken the profile
up, so it has no reason to submit another (`Layered.plain_of_reassess`), and nothing but an addition is
ever announced inside of another announcement (`Layered.staggered`).
-/

namespace Piconet

open Bench (free orderly shut)

variable {law : Core → Registry.Request → Prop} {c c' : Core} {s : Option (DeviceId × Profile)}
  {devices : DeviceId → Option Device} {ds ws : List Duty} {id : DeviceId} {d e : Device}

/-! ## What a duty leaves -/

/-- The devices that have their attempt left. -/
theorem Table.total_credit (t : Table DeviceId Device) :
    t.total Device.credit = t.values.countP fun d => !d.attempted := by
  rw [total]
  induction t.values with
  | nil => rfl
  | cons d ds ih =>
    rw [addUp_cons, ih, List.countP_cons, Device.credit, Nat.add_comm]
    cases d.attempted <;> rfl

namespace Host

variable {h g k : Host}

/-- A duty that notifying somebody may bring about: it takes up no run of discovery, and it is a
watcher's only where there are watchers. -/
def Brings (h : Host) (duty : Duty) : Prop :=
  duty.isPursuit = false ∧ (h.watchers = {} → duty.isWatch = false)

/-- What is left of a duty when it is done and nobody called back: other duties in its place, and the
profiles that devices submitted, each of which gave up its attempt. -/
structure Leaves (h g : Host) : Prop where
  agenda : ∃ ws, (∀ w ∈ ws, h.Brings w) ∧ g.agenda = ws ++ h.agenda
  submissions : ∃ ps, g.submissions = h.submissions ++ ps ∧
    ps.length + g.devices.total Device.credit ≤ h.devices.total Device.credit
  watchers : h.watchers = {} → g.watchers = {}

namespace Leaves

theorem of_calm (calm : Calm g h) (calls : g.calls = h.calls) : Leaves h g where
  agenda := ⟨[], by simp, calm.agenda⟩
  submissions := ⟨[], by rw [Host.submissions, calls, List.append_nil, Host.submissions], by
    rw [List.length_nil, Nat.zero_add]
    exact calm.devices⟩
  watchers none := calm.watchers.trans none

theorem refl (h : Host) : Leaves h h := of_calm (.refl h) rfl

theorem trans (first : Leaves h g) (second : Leaves g k) : Leaves h k where
  agenda := by
    obtain ⟨ws, brings, next⟩ := first.agenda
    obtain ⟨ws', brings', next'⟩ := second.agenda
    refine ⟨ws' ++ ws, fun w mem => ?_, by rw [next', next, List.append_assoc]⟩
    rcases List.mem_append.1 mem with mem | mem
    · exact ⟨(brings' w mem).1, fun none => (brings' w mem).2 (first.watchers none)⟩
    · exact brings w mem
  submissions := by
    obtain ⟨ps, noted, fewer⟩ := first.submissions
    obtain ⟨ps', noted', fewer'⟩ := second.submissions
    refine ⟨ps ++ ps', by rw [noted', noted, List.append_assoc], ?_⟩
    rw [List.length_append]
    omega
  watchers none := second.watchers (first.watchers none)

/-- A duty may be urged if it brings no more than the host had. -/
theorem urge (leaves : Leaves h g) (brings : ∀ w ∈ ws, h.Brings w) : Leaves h (g.urge ws) where
  agenda := by
    obtain ⟨ws', brings', next⟩ := leaves.agenda
    refine ⟨ws ++ ws', fun w mem => ?_, by rw [Host.urge, next, List.append_assoc]⟩
    exact (List.mem_append.1 mem).elim (brings w) (brings' w)
  submissions := leaves.submissions
  watchers := leaves.watchers

end Leaves

/-! ### Devices -/

/-- A duty about a device brings the device's own attempt at most. -/
theorem brings_of_about {duty : Duty} (about : duty.about? = some id) : h.Brings duty := by
  cases duty <;> simp_all [Duty.about?, Brings, Duty.isPursuit, Duty.isWatch]

/-- The usability of a device is no call. -/
theorem calls_setUsable (h : Host) (id : DeviceId) (usable : Bool) :
    (h.setUsable id usable).calls = h.calls := by
  rw [setUsable]
  split
  · split <;> rfl
  · rfl

/-- To store and publish the usability of a device uses nothing up. -/
theorem leaves_setUsable (h : Host) (id : DeviceId) (usable : Bool) : Leaves h (h.setUsable id usable) :=
  .of_calm (calm_setUsable h id usable) (h.calls_setUsable id usable)

/-- To settle the usability of a device after its submission uses nothing up. -/
theorem leaves_conclude (h : Host) (id : DeviceId) : Leaves h (h.conclude id) := by
  rw [conclude]
  split
  · exact h.leaves_setUsable id _
  · exact .refl h

/-- To take the submitted profile as a candidate uses nothing up. -/
theorem leaves_adopt (h : Host) (id : DeviceId) (uuid : String) : Leaves h (h.adopt id uuid) := by
  refine .of_calm (h.calm_adopt id uuid) ?_
  rw [adopt]
  split <;> rfl

/-- A profile takes the attempt of the device that submits it. -/
theorem leaves_provision (found : h.device? id = some d) (first : d.attempted = false) (name : String) :
    Leaves h (h.provision id d name) := by
  -- either way the device has made its attempt
  have spent {g : Host} {e : Device} (devices : g.devices = h.devices.modify id fun _ => e)
      (attempted : e.attempted = true) :
      1 + g.devices.total Device.credit ≤ h.devices.total Device.credit := by
    have total := Table.total_modify (f := Device.credit) found fun _ => e
    have before : d.credit = 1 := by rw [Device.credit, first]; rfl
    have after : e.credit = 0 := by rw [Device.credit, attempted]; rfl
    rw [devices]
    omega
  cases rejection : h.registry.rejection with
  | some why =>
    have same := core_provision_turnedDown found name rejection
    have devices : (h.provision id d name).devices =
        h.devices.modify id fun _ => { d with attempted := true } := by
      simp only [provision, log, rejection, request, urge, setDevice, Registry.handle]
    refine ⟨⟨[.conclude id], by simp [brings_of_about, Duty.about?], congrArg Core.agenda same⟩,
      ⟨_, congrArg Core.submissions same, spent devices rfl⟩, fun none => ?_⟩
    simp only [provision, log, rejection, request, urge, setDevice, Registry.handle, none]
  | none =>
    obtain ⟨lives, -, same⟩ := core_provision_handedIn found name rejection
    have devices : (h.provision id d name).devices =
        h.devices.modify id fun _ => { d with attempted := true, submitting := true } := by
      simp only [provision, log, rejection, request, urge, setDevice, Registry.handle, announce]
    refine ⟨⟨[.announce _ _, .adopt id _, .conclude id], ?_, congrArg Core.agenda same⟩,
      ⟨_, congrArg Core.submissions same, spent devices rfl⟩, fun none => ?_⟩
    · simp [Brings, Duty.isPursuit, Duty.isWatch]
    · simp only [provision, log, rejection, request, urge, setDevice, Registry.handle, announce, none]

/-- A device that is assessed may use up its attempt. -/
theorem leaves_reassess (h : Host) (id : DeviceId) : Leaves h (h.reassess id) := by
  rw [reassess]
  split
  · next d found =>
    split
    · exact h.leaves_setUsable id _
    · split
      · next name due => exact leaves_provision found (Device.not_attempted_of_due due) name
      · exact (Leaves.refl h).urge (by simp [brings_of_about, Duty.about?])
  · exact .refl h

/-! ### Announcements and watchers -/

/-- A listener that is called puts an assessment or its rules on the agenda. -/
theorem leaves_hear (h : Host) (n : Registry.Notice) (l : Listener) : Leaves h (h.hear n l) := by
  cases l with
  | device id =>
    simp only [hear]
    split
    · next e heard =>
      obtain ⟨d, found, hears⟩ := Option.bind_eq_some_iff.1 heard
      have calm := calm_setDevice found (Nat.le_of_eq (Device.credit_eq (Device.attempted_hear hears)))
      exact (Leaves.of_calm calm rfl).urge (by simp [brings_of_about, Duty.about?])
    · exact .refl h
  | watcher id =>
    simp only [hear]
    split
    · next w there =>
      refine Leaves.urge (Leaves.of_calm ⟨rfl, rfl, rfl, rfl, Nat.le_refl _⟩ rfl) fun duty mem => ?_
      obtain rfl := List.mem_singleton.1 mem
      refine ⟨rfl, fun none => ?_⟩
      rw [watcher?, none] at there
      exact absurd there (by simp [Table.get?])
    · exact .refl h

/-- A rule of a watcher puts its commands on the agenda. -/
theorem leaves_react (h : Host) (w : WatcherId) (n : Registry.Notice) (rule : Nat) :
    Leaves h (h.react w n rule) := by
  rw [react]
  split
  · next r there =>
    obtain ⟨watcher, known, -⟩ := Option.bind_eq_some_iff.1 there
    have watched : h.watchers ≠ {} := by
      intro none
      rw [watcher?, none] at known
      exact absurd known (by simp [Table.get?])
    have goesOn : h.Brings (.react w n (rule + 1)) := ⟨rfl, fun none => absurd none watched⟩
    split
    · have spent : Leaves h { h with watchers := h.watchers.modify w (·.spend rule) } :=
        ⟨⟨[], by simp, rfl⟩, ⟨[], (List.append_nil _).symm, by simp⟩, fun none => absurd none watched⟩
      refine spent.urge fun duty mem => ?_
      rcases List.mem_pair.1 mem with rfl | rfl
      · exact ⟨rfl, fun none => absurd none watched⟩
      · exact goesOn
    · exact (Leaves.refl h).urge (by simpa using goesOn)
  · exact .refl h

/-- **What a duty leaves** when nobody calls back. -/
theorem leaves_act (h : Host) {duty : Duty} (noRun : duty.isPursuit = false)
    (calm : ∀ w x xs, duty ≠ .perform w (x :: xs)) : Leaves h (h.act duty) := by
  cases duty with
  | announce n listeners =>
    cases listeners with
    | nil => exact .refl h
    | cons l ls =>
      have goesOn : Leaves h (h.urge [.announce n ls]) :=
        (Leaves.refl h).urge (by simp [Brings, Duty.isPursuit, Duty.isWatch])
      exact goesOn.trans (leaves_hear _ n l)
  | react w n rule => exact h.leaves_react w n rule
  | perform w cs =>
    cases cs with
    | nil => exact .refl h
    | cons x xs => exact absurd rfl (calm w x xs)
  | record w a =>
    refine .of_calm (h.calm_record w a) ?_
    rw [act, record]
    split <;> rfl
  | reassess id => exact h.leaves_reassess id
  | adopt id uuid => exact h.leaves_adopt id uuid
  | conclude id => exact h.leaves_conclude id
  | pursue run => exact absurd noRun (by simp [Duty.isPursuit])

/-- A request has a change announced at most. -/
theorem leaves_request (h : Host) (q : Registry.Request) : Leaves h (h.request q) := by
  rw [request]
  rcases h.registry.handle q with ⟨r, _ | n⟩
  · exact .of_calm ⟨rfl, rfl, rfl, rfl, Nat.le_refl _⟩ rfl
  · refine Leaves.urge (g := { h with registry := r, subscriptions := _ })
      (.of_calm ⟨rfl, rfl, rfl, rfl, Nat.le_refl _⟩ rfl) ?_
    simp [Brings, Duty.isPursuit, Duty.isWatch]

end Host

/-! ## Announcements inside of announcements -/

/-- Of changes other than additions one is announced at a time. -/
theorem Nested.announcements_of_plain (nested : Nested devices ds) (plain : Plain ds) :
    (ds.filterMap Duty.announcement?).length ≤ 1 ∧
      ∀ a ∈ ds.filterMap Duty.announcement?, ∀ p, a.1 ≠ .added p := by
  induction ds with
  | nil => exact ⟨Nat.zero_le _, by simp⟩
  | cons duty ds ih =>
    have head := plain duty List.mem_cons_self
    by_cases announces : ∃ n ls, duty = .announce n ls
    · obtain ⟨n, ls, rfl⟩ := announces
      have other : ∀ p, n ≠ .added p := by
        rintro p rfl
        exact absurd head (by simp [Duty.adds])
      have below := Core.announcements_of_isPursuit (nested.pursuits other)
      have heads : (Duty.announce n ls :: ds).filterMap Duty.announcement? = [(n, ls)] := congrArg _ below
      rw [heads]
      exact ⟨Nat.le_refl _, by simpa using other⟩
    · have silent : duty.announcement? = none := by
        cases duty with
        | announce n ls => exact absurd ⟨n, ls, rfl⟩ announces
        | _ => rfl
      rw [List.filterMap_cons_none silent]
      exact ih nested.of_cons plain.of_cons

/-- One announcement at most is going on inside of another; the inner one is of an addition, and the
outer one is not. -/
def Staggered (as : List (Registry.Notice × List Listener)) : Prop :=
  ∃ inner outer, as = inner ++ outer ∧ inner.length ≤ 1 ∧ (∀ a ∈ inner, ∃ p, a.1 = .added p) ∧
    outer.length ≤ 1 ∧ ∀ a ∈ outer, ∀ p, a.1 ≠ .added p

/-- At most two notifications are nested, as only the inner one may be an addition. -/
theorem Staggered.length_le {as : List (Registry.Notice × List Listener)} (staggered : Staggered as) :
    as.length ≤ 2 := by
  obtain ⟨inner, outer, rfl, one, -, other, -⟩ := staggered
  rw [List.length_append]
  omega

/-- Where nothing is added there is one notification at most. -/
theorem Nested.staggered_of_plain (nested : Nested devices ds) (plain : Plain ds) :
    Staggered (ds.filterMap Duty.announcement?) :=
  ⟨[], _, rfl, Nat.zero_le _, by simp, nested.announcements_of_plain plain⟩

/-- An addition may be nested in one notification of another kind. -/
theorem Nested.staggered_of_added {p : Profile} {ls : List Listener} (nested : Nested devices ds)
    (plain : Plain ds) : Staggered ((.added p, ls) :: ds.filterMap Duty.announcement?) :=
  ⟨[(.added p, ls)], _, rfl, Nat.le_refl _, by simp, nested.announcements_of_plain plain⟩

/-- **Nothing but an addition is announced inside of another announcement**, and nothing at all inside
of an addition. -/
theorem Layered.staggered (layered : Layered devices ds) (nested : Nested devices ds) :
    Staggered (ds.filterMap Duty.announcement?) := by
  induction layered with
  | plain plain => exact nested.staggered_of_plain plain
  | added p ls plain => exact Nested.staggered_of_added nested.of_cons plain
  | handedIn p ls id plain =>
    have below : Nested devices _ := nested.of_cons.of_cons
    exact below.staggered_of_added (p := p) plain
  | adopt id uuid plain => exact (Nested.staggered_of_plain nested.of_cons plain :)
  | watch isWatch _ ih =>
    rw [List.filterMap_cons_none (Duty.announcement?_of_isWatch isWatch)]
    exact ih nested.of_cons
  | reassess id _ _ ih => exact ih nested.of_cons

namespace Core

/-- Everything is in order on an agenda on which nobody calls back. -/
structure Arranged (c : Core) : Prop where
  upkeep : c.Upkeep
  once : c.Once
  last : c.PursuitsLast
  layered : Layered c.devices c.agenda
  nested : Nested c.devices c.agenda

/-- **The agenda stays arranged** as long as only devices call back into the registry. -/
theorem Step.arranged (step : Step orderly c s c') (arranged : c.Arranged) : c'.Arranged where
  upkeep := step.upkeep arranged.upkeep
  once := step.once arranged.once
  last := step.pursuitsLast arranged.last
  layered := step.layered arranged.upkeep arranged.layered
  nested := step.nested arranged.upkeep arranged.once arranged.nested

end Core

namespace Bench

variable {a b b' c c₁ c₂ : Bench} {q : Registry.Request}

/-- The bench with another registry. -/
def withRegistry (b : Bench) (r : Registry) : Bench := b.onHost fun h => { h with registry := r }

/-- With the registry that it has, a bench is itself. -/
theorem withRegistry_self (b : Bench) : b.withRegistry b.host.registry = b := rfl

/-- No watcher calls back into the registry as long as the bench goes on by itself. -/
def Uncalled (c : Bench) : Prop := ∀ c₁, c.Subsides c₁ → c₁.command? .act = none

/-- Whatever follows by itself leaves things in order. -/
theorem Subsides.arranged (run : c.Subsides b') (arranged : c.host.core.Arranged) : b'.host.core.Arranged := by
  induction run with
  | refl => exact arranged
  | act _ _ calm made ih =>
    have lawful {h : Host} {q : Registry.Request} (asked : _ = some (h, q)) : shut h.core q :=
      absurd ((unasked_of_calm calm).symm.trans asked) (by simp)
    exact (runs_make ih.last (fun _ _ => lawful) made).preserves
      (fun _ _ _ arranged step => (step.weaken fun _ _ none => none.elim).arranged arranged) ih

/-- Nothing is done but the duties that come in addition to those there were when nobody was being
notified. -/
theorem Subsides.leaves {h : Host} (run : c.Subsides b') (quiet : h.core.isQuiet)
    (leaves : h.Leaves c.host) : h.Leaves b'.host := by
  induction run with
  | refl => exact leaves
  | @act c₁ c₂ _ busy calm made ih =>
    obtain ⟨ws, brings, next⟩ := ih.agenda
    cases ws with
    | nil =>
      have still : c₁.host.core.isQuiet := (congrArg (List.all · Duty.isPursuit) next).trans quiet
      exact absurd busy (by simp [still])
    | cons w ws =>
      rw [make, next] at made
      obtain rfl := Option.some.inj made
      have rest : h.Leaves (c₁.host.withAgenda (ws ++ h.agenda)) :=
        ⟨⟨ws, fun w mem => brings w (List.mem_cons_of_mem _ mem), rfl⟩, ih.submissions, ih.watchers⟩
      refine rest.trans (Host.leaves_act _ (brings w List.mem_cons_self).1 ?_)
      rintro id x xs rfl
      rw [command?, next] at calm
      exact absurd calm (by simp)

/-- **Without watchers nobody calls back.** -/
theorem uncalled_of_unwatched {h : Host} (quiet : h.core.isQuiet) (leaves : h.Leaves c.host)
    (none : h.watchers = {}) : c.Uncalled := by
  intro c₁ run
  obtain ⟨ws, brings, next⟩ := (run.leaves quiet leaves).agenda
  rw [command?, next]
  split
  · next w x xs ds agenda =>
    have due : .perform w (x :: xs) ∈ ws ++ h.agenda := by rw [agenda]; exact List.mem_cons_self
    rcases List.mem_append.1 due with mem | mem
    · exact absurd ((brings _ mem).2 none) (by simp [Duty.isWatch])
    · exact absurd (List.all_eq_true.1 quiet _ mem) (by simp [Duty.isPursuit])
  · rfl

/-- When nobody calls back everything comes to an end, with nothing on the agenda but what was on it. -/
theorem Subsides.returns {h : Host} (run : c.Subsides c₁) (quiet : h.core.isQuiet)
    (leaves : h.Leaves c.host) (uncalled : c.Uncalled) :
    ∃ b', c₁.Subsides b' ∧ b'.host.agenda = h.agenda := by
  obtain ⟨b', rest, ended⟩ := c₁.exists_subsides
  refine ⟨b', rest, ?_⟩
  rcases ended with still | calls
  · obtain ⟨ws, brings, next⟩ := ((run.trans rest).leaves quiet leaves).agenda
    cases ws with
    | nil => exact next
    | cons w ws =>
      rw [Core.isQuiet, show b'.host.core.agenda = _ from next, List.cons_append, List.all_cons,
        (brings w List.mem_cons_self).1] at still
      exact absurd still (by simp)
  · exact absurd calls (by simp [uncalled b' (run.trans rest)])

/-- A device that submits a profile has no candidate. -/
theorem Submits.alone {p : Profile} (submits : Submits id p c₁ c₂) (last : c₁.host.core.PursuitsLast) :
    ∃ d, c₁.host.core.devices id = some d ∧ d.candidates = [] := by
  obtain ⟨head, made, noted⟩ := submits
  have more : ¬ c₂.host.submissions.Sublist c₁.host.submissions := by
    intro fewer
    have := fewer.length_le
    rw [noted, List.length_append] at this
    exact absurd this (by simp)
  have lawful : ∀ h q, c₁.request? .act = some (h, q) → free h.core q := fun _ _ _ => trivial
  rcases steps_make last lawful made with steps | ⟨-, s, step⟩
  · exact absurd steps.submissions more
  · cases s with
    | none => exact absurd step.submissions more
    | some s =>
      obtain ⟨head', -, d, -, found, -, may, -⟩ := step.submits
      obtain rfl : id = s.1 := by simpa using head.symm.trans head'
      exact ⟨d, found, may.alone⟩

/-- While a profile is announced as added nobody submits one. -/
theorem Submits.announces_no_addition {p : Profile} (submits : Submits id p c₁ c₂)
    (arranged : c₁.host.core.Arranged) : ∀ a ∈ c₁.host.core.announcements, ∀ p', a.1 ≠ .added p' := by
  obtain ⟨d, found, alone⟩ := submits.alone arranged.last
  obtain ⟨ds, next⟩ := List.head?_eq_some_iff.1 submits.1
  have layered := arranged.layered
  rw [show c₁.host.core.agenda = _ from next] at layered
  have plain := layered.plain_of_reassess found alone
  rintro ⟨n, ls⟩ mem p' rfl
  obtain ⟨duty, due, same⟩ := List.mem_filterMap.1 mem
  obtain rfl : duty = .announce (.added p') ls := by
    cases duty <;> simp_all [Duty.announcement?]
  rw [show c₁.host.core.agenda = _ from next] at due
  have below : .announce (.added p') ls ∈ ds := by simpa using due
  exact absurd (plain _ below) (by simp [Duty.adds])

/-! ## Any request -/

/-- A request that is put when nobody is being notified leaves things in order, whatever is stored. -/
theorem arranged_of_request (reached : Reachable free b) (quiet : b.host.core.isQuiet) (r : Registry)
    (made : (b.withRegistry r).make (.step (.command (.request q))) = some c) : c.host.core.Arranged := by
  -- what is stored is no concern of identifiers and subscriptions
  have upkeep : (b.withRegistry r).host.core.Upkeep := { reached.upkeep with }
  have once : (b.withRegistry r).host.core.Once := { reached.once with }
  have last : (b.withRegistry r).host.core.PursuitsLast := Core.pairwise_of_all quiet
  have runs : Core.Runs free (b.withRegistry r).host.core c.host.core :=
    runs_make last (fun _ _ _ => trivial) made
  have pursuits : b.host.agenda.all Duty.isPursuit := quiet
  obtain ⟨-, -, asks⟩ := asks_of_request (b := b.withRegistry r) quiet made rfl
  refine ⟨runs.preserves (fun _ _ _ kept step => step.upkeep kept) upkeep,
    runs.preserves (fun _ _ _ kept step => step.once kept) once,
    runs.preserves (fun _ _ _ kept step => step.pursuitsLast kept) last, ?_, ?_⟩
  · rcases asks with same | ⟨n, ls, next⟩
    · rw [show c.host.core.agenda = _ from same]
      exact .plain (plain_of_isPursuit pursuits)
    · rw [show c.host.core.agenda = _ from next]
      cases n with
      | added p => exact .added p ls (plain_of_isPursuit pursuits)
      | removed | updated | loaded => exact .plain (.cons rfl (plain_of_isPursuit pursuits))
  · rcases asks with same | ⟨n, ls, next⟩
    · rw [show c.host.core.agenda = _ from same]
      exact Nested.of_isPursuit pursuits
    · rw [show c.host.core.agenda = _ from next]
      exact List.pairwise_cons.2 ⟨fun duty mem => .of_announce (List.all_eq_true.1 pursuits duty mem),
        Nested.of_isPursuit pursuits⟩

/-- A request leaves a change to be announced at most, whatever is stored. -/
theorem leaves_of_request (r : Registry)
    (made : (b.withRegistry r).make (.step (.command (.request q))) = some c) : b.host.Leaves c.host := by
  obtain ⟨-, made⟩ := Option.ite_none_right_eq_some.1 made
  obtain rfl := Option.some.inj made
  have stored : b.host.Leaves (b.withRegistry r).host := .of_calm ⟨rfl, rfl, rfl, rfl, Nat.le_refl _⟩ rfl
  exact stored.trans ((b.withRegistry r).host.leaves_request q)

/-- **Every request to the registry returns.** In any state of any run in which nobody is being notified, and
with any contents of the registry, any request can be made. If only devices call back into the registry on the
notification that follows, every way of going on can be continued to an end at which the agenda is what it was
before the request. On the way at most two notifications are nested, no device submits a profile while an
`Added` notification is being delivered, and in all no more profiles are submitted than there are devices that
had not made their attempt. -/
theorem request_returns (reached : Reachable free b) (quiet : b.host.core.isQuiet) (r : Registry)
    (q : Registry.Request) :
    ∃ c, (b.withRegistry r).make (.step (.command (.request q))) = some c ∧ (c.Uncalled →
      ∀ c₁, c.Subsides c₁ →
        (∃ b', c₁.Subsides b' ∧ b'.host.agenda = b.host.agenda) ∧
        c₁.host.core.announcements.length ≤ 2 ∧ Staggered c₁.host.core.announcements ∧
        (∀ c₂ id p, Submits id p c₁ c₂ → ∀ a ∈ c₁.host.core.announcements, ∀ p', a.1 ≠ .added p') ∧
        ∃ ps, c₁.host.submissions = b.host.submissions ++ ps ∧
          ps.length ≤ b.host.devices.values.countP fun d => !d.attempted) := by
  have isOpen : (b.withRegistry r).host.core.isOpen := Bool.or_eq_true_iff.2 (.inl quiet)
  have made : (b.withRegistry r).make (.step (.command (.request q))) =
      some ((b.withRegistry r).onHost (·.request q)) := if_pos isOpen
  refine ⟨_, made, fun uncalled c₁ run => ?_⟩
  have arranged := run.arranged (arranged_of_request reached quiet r made)
  have leaves := leaves_of_request r made
  have staggered : Staggered c₁.host.core.announcements := arranged.layered.staggered arranged.nested
  obtain ⟨ps, noted, few⟩ := (run.leaves quiet leaves).submissions
  refine ⟨run.returns quiet leaves uncalled, staggered.length_le, staggered,
    fun c₂ id p submits => submits.announces_no_addition arranged, ps, noted, ?_⟩
  rw [← Table.total_credit]
  omega

/-- The only profile of an access point is removed: the device submits one of its own, the `Added` notification
of it is nested in the `Removed` notification, and with this the device has used up its attempt. -/
theorem request_returns_tethered :
    ((tethered [unprofiled]).subside 2).host.core.announcements.length = 2 ∧
      (∃ b', ((tethered [unprofiled]).subside 2).Subsides b' ∧ b'.host.agenda = (tethered []).host.agenda) ∧
      ∃ ps, ((tethered [unprofiled]).subside 2).host.submissions = (tethered []).host.submissions ++ ps ∧
        ps.length = 1 ∧ ps.length ≤ (tethered []).host.devices.values.countP fun d => !d.attempted := by
  obtain ⟨c, made, returns⟩ := request_returns (reachable_tethered []) (by rfl)
    (tethered []).host.registry (.remove "u")
  have leaves := leaves_of_request _ made
  rw [withRegistry_self] at made
  have made' : (tethered []).make unprofiled = some (tethered [unprofiled]) := by rfl
  obtain rfl : c = tethered [unprofiled] := Option.some.inj (made.symm.trans made')
  have uncalled : (tethered [unprofiled]).Uncalled := uncalled_of_unwatched (by rfl) leaves (by rfl)
  obtain ⟨ended, -, -, -, ps, noted, few⟩ := returns uncalled _ (subsides_subside _ 2)
  refine ⟨by rfl, ended, ps, noted, ?_, few⟩
  have counted := congrArg List.length noted
  rw [List.length_append] at counted
  have before : (tethered []).host.submissions.length = 0 := by rfl
  have after : ((tethered [unprofiled]).subside 2).host.submissions.length = 1 := by rfl
  omega

end Bench

end Piconet
