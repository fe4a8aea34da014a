import Piconet.Proofs.Redundancy

/-!
# What moves do to announcements

A move goes on with the announcement that has its turn, or puts a request to the registry, or leaves
the registry and all announcements alone (`Bench.Informs`). Requests come from anybody, and from
devices that submit profiles (`Bench.put?`); those that make a change (`Registry.change?`) have it
announced to all listeners that are there, the others have nothing announced.
-/

namespace Piconet

open Bench (shut)

/-! ## Requests and changes -/

namespace Registry

variable {r : Registry} {q : Request} {n : Notice}

/-- The change that a request makes. A profile that is handed in may be turned down, only stored
profiles can be replaced or removed, and the registry is completed once. -/
def change? (r : Registry) : Request → Option Notice
  | .insert p => some (.added p)
  | .submit p => if r.rejection = none then some (.added p) else none
  | .update p => if p.uuid ∈ r.uuids then some (.updated p) else none
  | .remove uuid => (r.profiles.find? (·.uuid = uuid)).map .removed
  | .markLoaded => if r.loaded then none else some .loaded
  | .reject _ => none

/-- What listeners know of the registry. -/
structure Contents where
  profiles : List Profile
  loaded : Bool
  deriving DecidableEq

def contents (r : Registry) : Contents := ⟨r.profiles, r.loaded⟩

/-- What a change does to the contents. -/
def Notice.apply (x : Contents) : Notice → Contents
  | .added p => { x with profiles := x.profiles.filter (·.uuid ≠ p.uuid) ++ [p] }
  | .updated p => { x with profiles := x.profiles.map fun old => if old.uuid = p.uuid then p else old }
  | .removed p => { x with profiles := x.profiles.filter (·.uuid ≠ p.uuid) }
  | .loaded => { x with loaded := true }

theorem contains_iff {uuid : String} : r.contains uuid = true ↔ uuid ∈ r.uuids := by
  simp [contains, get?, uuids]

/-- **A request does the change that it announces**, and announces the change that it makes. -/
theorem handle_eq_change (r : Registry) (q : Request) :
    (r.handle q).2 = r.change? q ∧
      (r.handle q).1.contents = (r.change? q).elim r.contents (Notice.apply r.contents) := by
  cases q with
  | insert p => exact ⟨rfl, rfl⟩
  | update p =>
    by_cases known : p.uuid ∈ r.uuids
    · simp only [handle, change?, contains_iff.2 known, if_pos known, if_true]
      exact ⟨trivial, rfl⟩
    · simp [handle, change?, mt contains_iff.1 known, if_neg known]
  | remove uuid =>
    simp only [handle, change?, get?]
    cases found : r.profiles.find? (·.uuid = uuid) with
    | none => exact ⟨rfl, rfl⟩
    | some p =>
      obtain rfl : p.uuid = uuid := by simpa using List.find?_some found
      exact ⟨rfl, rfl⟩
  | submit p =>
    simp only [handle, change?]
    cases r.rejection with
    | none => exact ⟨rfl, rfl⟩
    | some why => exact ⟨rfl, rfl⟩
  | markLoaded =>
    cases loaded : r.loaded with
    | false => simp [handle, change?, loaded, markLoaded, contents, Notice.apply]
    | true => simp [handle, change?, loaded]
  | reject reason => exact ⟨rfl, rfl⟩

end Registry

/-! ## Announcements on the agenda -/

/-- The change that a duty announces, and who is still to hear of it. -/
def Duty.announcement? : Duty → Option (Registry.Notice × List Listener)
  | .announce n ls => some (n, ls)
  | _ => none

theorem Duty.announcement?_of_isPursuit {duty : Duty} (pursuit : duty.isPursuit) :
    duty.announcement? = none := by
  obtain ⟨run, rfl⟩ := eq_of_isPursuit pursuit
  rfl

theorem Duty.announcement?_of_isWatch {duty : Duty} (watch : duty.isWatch) :
    duty.announcement? = none := by
  obtain ⟨_, _, _, rfl⟩ | ⟨_, _, rfl⟩ | ⟨_, _, rfl⟩ := eq_of_isWatch watch <;> rfl

namespace Core

variable {law : Core → Registry.Request → Prop} {scope : Scope} {c c' : Core} {ds ws : List Duty}

/-- The announcements that are not over, the innermost first. -/
def announcements (c : Core) : List (Registry.Notice × List Listener) :=
  c.agenda.filterMap Duty.announcement?

theorem announcements_of_isPursuit (pursuits : ds.all Duty.isPursuit) :
    ds.filterMap Duty.announcement? = [] :=
  List.filterMap_eq_nil_iff.2 fun duty mem =>
    Duty.announcement?_of_isPursuit (List.all_eq_true.1 pursuits duty mem)

/-- When nobody is being notified nothing is being announced. -/
theorem announcements_of_quiet (quiet : c.isQuiet) : c.announcements = [] :=
  announcements_of_isPursuit quiet

theorem announcements_append_of_isWatch (watch : ws.all Duty.isWatch) :
    (ws ++ ds).filterMap Duty.announcement? = ds.filterMap Duty.announcement? := by
  have silent : ws.filterMap Duty.announcement? = [] :=
    List.filterMap_eq_nil_iff.2 fun duty mem =>
      Duty.announcement?_of_isWatch (List.all_eq_true.1 watch duty mem)
  rw [List.filterMap_append, silent, List.nil_append]

/-- What listeners know of the registry is left alone, and all announcements are; subscriptions come
and go. -/
structure Hushed (c c' : Core) : Prop where
  nextId_le : c.nextId ≤ c'.nextId
  contents : c'.registry.contents = c.registry.contents
  announcements : c'.announcements = c.announcements
  subscriptions : ∀ s ∈ c'.subscriptions,
    s ∈ c.subscriptions ∨ c.nextId ≤ s.listener.number

theorem Hushed.refl (c : Core) : c.Hushed c := ⟨Nat.le_refl _, rfl, rfl, fun _ => .inl⟩

theorem Hushed.trans {c'' : Core} (first : c.Hushed c') (second : c'.Hushed c'') :
    c.Hushed c'' where
  nextId_le := Nat.le_trans first.nextId_le second.nextId_le
  contents := second.contents.trans first.contents
  announcements := second.announcements.trans first.announcements
  subscriptions s mem := by
    rcases second.subscriptions s mem with mem | new
    · exact first.subscriptions s mem
    · exact .inr (Nat.le_trans first.nextId_le new)

/-- **Where nobody asks the registry for anything and nobody hears of anything**, nothing happens to
the registry and to announcements. -/
theorem Change.hushed (change : Change shut scope c none c')
    (deaf : ¬ scope.hearing) : c.Hushed c' := by
  -- a duty that is done and is no announcement
  have popped {duty : Duty} {ds : List Duty} (next : c.agenda = duty :: ds) (other : duty.announcement? = none) :
      ds.filterMap Duty.announcement? = c.agenda.filterMap Duty.announcement? := by
    rw [next, List.filterMap_cons_none other]
  have step := change.step.nextId_le
  cases change with
  | create path g t =>
    refine ⟨step, rfl, rfl, fun s mem => (List.mem_append.1 mem).imp_right fun new => ?_⟩
    rw [List.mem_singleton.1 new]
    exact Nat.le_refl _
  | enlist name =>
    refine ⟨step, rfl, rfl, fun s mem => (List.mem_append.1 mem).imp_right fun new => ?_⟩
    rw [List.mem_singleton.1 new]
    exact Nat.le_refl _
  | destroy | cancel => exact ⟨step, rfl, rfl, fun s mem => .inl (List.mem_filter.1 mem).1⟩
  | receivers | reported | startRun | endRuns | comeUp | session | edit | findPower =>
    exact ⟨step, rfl, rfl, fun s mem => .inl mem⟩
  | requestUnheard _ _ _ lawful | request _ _ _ _ _ lawful => exact lawful.elim
  | heardByAll _ _ _ allowed | watched _ _ _ _ _ _ _ allowed | unmoved _ _ _ _ _ _ allowed
  | moved _ _ _ _ _ _ _ _ _ allowed => exact absurd allowed deaf
  | defer ds quiet pursuits =>
    refine ⟨step, rfl, ?_, fun s mem => .inl mem⟩
    exact (announcements_of_isPursuit pursuits).trans (announcements_of_quiet quiet).symm
  | summon j d quiet found => exact ⟨step, rfl, rfl, fun s mem => .inl mem⟩
  | turn duty ds ws next isWatch watch =>
    refine ⟨step, rfl, ?_, fun s mem => .inl mem⟩
    exact (announcements_append_of_isWatch watch).trans
      (popped next (Duty.announcement?_of_isWatch isWatch))
  | late duty j ds next about gone =>
    refine ⟨step, rfl, popped next ?_, fun s mem => .inl mem⟩
    rcases about with rfl | ⟨uuid, rfl⟩ | rfl <;> rfl
  | decide j d ds usable next => exact ⟨step, rfl, popped next rfl, fun s mem => .inl mem⟩
  | concede j d ds next =>
    have dropped : ds.filterMap Duty.announcement? = _ := popped next rfl
    exact ⟨step, rfl, dropped, fun s mem => .inl mem⟩
  | adopt j d uuid ds next => exact ⟨step, rfl, popped next rfl, fun s mem => .inl mem⟩
  | conclude j d ds next => exact ⟨step, rfl, popped next rfl, fun s mem => .inl mem⟩

theorem Changes.hushed (changes : Changes shut scope c c')
    (deaf : ¬ scope.hearing) : c.Hushed c' := by
  induction changes with
  | refl => exact .refl c
  | tail _ change ih => exact ih.trans (change.hushed deaf)

end Core

/-- The subscriptions whose listeners are there. -/
def Host.living (h : Host) : List Subscription :=
  h.subscriptions.filter fun s => h.listenerLives s.listener

/-! ## Requests -/

namespace Host

variable {h : Host} {q : Registry.Request} {n : Registry.Notice}

/-- **A request that makes a change** has it announced to all that are there. -/
theorem request_of_change (change : h.registry.change? q = some n) :
    (h.request q).registry.contents = n.apply h.registry.contents ∧
      (h.request q).subscriptions = h.living ∧ (h.request q).nextId = h.nextId ∧
      (h.request q).core.announcements =
        (n, h.living.map (·.listener)) :: h.core.announcements := by
  obtain ⟨announced, contents⟩ := h.registry.handle_eq_change q
  rw [change] at announced contents
  obtain ⟨r, handled⟩ : ∃ r, h.registry.handle q = (r, some n) := ⟨_, Prod.ext rfl announced⟩
  rw [handled] at contents
  rw [request, handled]
  exact ⟨contents, rfl, rfl, rfl⟩

/-- **A request that makes no change** has nothing announced. -/
theorem request_of_none (change : h.registry.change? q = none) :
    (h.request q).registry.contents = h.registry.contents ∧
      (h.request q).subscriptions = h.subscriptions ∧ (h.request q).nextId = h.nextId ∧
      (h.request q).core.announcements = h.core.announcements := by
  obtain ⟨announced, contents⟩ := h.registry.handle_eq_change q
  rw [change] at announced contents
  obtain ⟨r, handled⟩ : ∃ r, h.registry.handle q = (r, none) := ⟨_, Prod.ext rfl announced⟩
  rw [handled] at contents
  rw [request, handled]
  exact ⟨contents, rfl, rfl, rfl⟩

theorem living_subset (h : Host) : h.living ⊆ h.subscriptions := fun _ mem =>
  (List.mem_filter.1 mem).1

end Host

/-! ## Submissions -/

namespace Host

/-- The profile that a device is due to submit, when it is assessed. -/
def due? (h : Host) (id : DeviceId) : Option (Device × String) :=
  (h.device? id).bind fun d =>
    match d.gate.decision with
    | .decided _ => none
    | .provision => (d.dueProfileName? h.registry.loaded).map fun name => (d, name)

/-- The host when a device is about to submit its profile: the attempt is noted. -/
def submitting (h : Host) (id : DeviceId) (d : Device) (p : Profile) : Host :=
  match h.registry.rejection with
  | some _ =>
    ((h.noted p d.binAddress).setDevice id { d with attempted := true }).urge [.conclude id]
  | none =>
    ((h.noted p d.binAddress).setDevice id { d with attempted := true, submitting := true }).urge
      [.adopt id p.uuid, .conclude id]

/-- **A device submits a profile by putting a request to the registry**, like anybody else. -/
theorem reassess_of_due {h : Host} {id : DeviceId} {d : Device} {name : String}
    (due : h.due? id = some (d, name)) :
    h.reassess id = (h.submitting id d (h.core.profileFor d name)).request
      (.submit (h.core.profileFor d name)) := by
  obtain ⟨d', found, due⟩ := Option.bind_eq_some_iff.1 due
  simp only [reassess, found]
  cases lacks : d'.gate.decision with
  | decided usable => exact absurd due (by simp [lacks])
  | provision =>
    simp only [lacks] at due
    obtain ⟨name', named, same⟩ := Option.map_eq_some_iff.1 due
    obtain ⟨rfl, rfl⟩ := Prod.mk.inj same
    simp only [named]
    cases accepts : h.registry.rejection <;> simp only [provision, submitting, log, accepts] <;> rfl

variable (h : Host) (id : DeviceId) (d : Device) (p : Profile)

/-- Nothing is announced before the registry has the profile. -/
theorem core_submitting : (h.submitting id d p).registry = h.registry ∧
    (h.submitting id d p).subscriptions = h.subscriptions ∧
    (h.submitting id d p).nextId = h.nextId ∧
    (h.submitting id d p).core.announcements = h.core.announcements := by
  rw [submitting]
  split <;> exact ⟨rfl, rfl, rfl, rfl⟩

end Host

/-! ## Moves -/

namespace Bench

variable {b c : Bench} {m : Move}

/-- The request that a move puts to the registry, with the host that it is put to: what somebody asks
for, or the submission of a device that is assessed. -/
def put? (b : Bench) (m : Move) : Option (Host × Registry.Request) :=
  match m, b.host.agenda with
  | .act, .reassess id :: duties =>
    ((b.host.withAgenda duties).due? id).map fun due =>
      let p := b.host.core.profileFor due.1 due.2
      ((b.host.withAgenda duties).submitting id due.1 p, .submit p)
  | _, _ => b.request? m

/-- The change that a move makes, with the host that makes it. -/
def change? (b : Bench) (m : Move) : Option (Host × Registry.Notice) :=
  (b.put? m).bind fun put => (put.1.registry.change? put.2).map fun n => (put.1, n)

/-- What a move has to do with the registry and its listeners. -/
inductive Informs (b : Bench) (m : Move) (c : Bench) : Prop
  /-- a listener hears what is being announced -/
  | hears (n : Registry.Notice) (l : Listener) (ls : List Listener)
      (rest : List (Registry.Notice × List Listener)) (next : b.announcing? m = some (n, l :: ls))
      (before : b.host.core.announcements = (n, l :: ls) :: rest)
      (after : c.host.core.announcements = (n, ls) :: rest)
      (registry : c.host.core.registry = b.host.core.registry)
      (subscriptions : c.host.core.subscriptions = b.host.core.subscriptions)
      (nextId : c.host.core.nextId = b.host.core.nextId)
  /-- an announcement is over -/
  | closes (n : Registry.Notice) (rest : List (Registry.Notice × List Listener))
      (next : b.announcing? m = some (n, []))
      (before : b.host.core.announcements = (n, []) :: rest)
      (after : c.host.core.announcements = rest)
      (registry : c.host.core.registry = b.host.core.registry)
      (subscriptions : c.host.core.subscriptions = b.host.core.subscriptions)
      (nextId : c.host.core.nextId = b.host.core.nextId)
  /-- a change is made and announced to all that are there -/
  | changes (h : Host) (n : Registry.Notice) (next : b.announcing? m = none)
      (made : b.change? m = some (h, n)) (fewer : h.living ⊆ b.host.core.subscriptions)
      (after : c.host.core.announcements =
        (n, h.living.map (·.listener)) :: b.host.core.announcements)
      (contents : c.host.core.registry.contents = n.apply b.host.core.registry.contents)
      (subscriptions : c.host.core.subscriptions = h.living)
      (nextId : c.host.core.nextId = b.host.core.nextId)
  /-- neither -/
  | aside (next : b.announcing? m = none) (made : b.change? m = none)
      (hushed : b.host.core.Hushed c.host.core)

/-- A request makes a change, or it does nothing that listeners get to know of. -/
theorem informs_of_put {h : Host} {q : Registry.Request} (next : b.announcing? m = none)
    (put : b.put? m = some (h, q)) (registry : h.registry = b.host.registry)
    (subscriptions : h.subscriptions = b.host.subscriptions) (nextId : h.nextId = b.host.nextId)
    (announcements : h.core.announcements = b.host.core.announcements)
    (did : c.host = h.request q) : b.Informs m c := by
  cases change : h.registry.change? q with
  | some n =>
    obtain ⟨contents, living, nextId', after⟩ := Host.request_of_change change
    rw [← did] at contents living nextId' after
    refine .changes h n next (by simp [change?, put, change]) ?_ ?_ ?_ living (nextId'.trans nextId)
    · exact fun s mem => show s ∈ b.host.subscriptions from subscriptions ▸ h.living_subset mem
    · rw [after, announcements]
    · rw [registry] at contents
      exact contents
  | none =>
    obtain ⟨contents, same, nextId', after⟩ := Host.request_of_none change
    rw [← did] at contents same nextId' after
    refine .aside next (by simp [change?, put, change]) ⟨?_, ?_, ?_, fun s mem => .inl ?_⟩
    · exact Nat.le_of_eq (nextId'.trans nextId).symm
    · rw [registry] at contents
      exact contents
    · exact after.trans announcements
    · exact show s ∈ b.host.subscriptions from (same.trans subscriptions) ▸ mem

/-- A listener that hears of a change leaves all announcements as they are. -/
theorem hear_spares (h : Host) (n : Registry.Notice) (l : Listener) :
    (h.hear n l).core.announcements = h.core.announcements ∧
      (h.hear n l).registry = h.registry ∧ (h.hear n l).subscriptions = h.subscriptions ∧
      (h.hear n l).nextId = h.nextId := by
  cases l with
  | device id =>
    simp only [Host.hear]
    split <;> exact ⟨rfl, rfl, rfl, rfl⟩
  | watcher w =>
    simp only [Host.hear]
    split <;> exact ⟨rfl, rfl, rfl, rfl⟩

/-- While a device is assessed that is not due to submit a profile, none is submitted. -/
theorem unsubmitted_of_idle {law : Law} {scope : Core.Scope} {s : Option (DeviceId × Profile)} {x : Core}
    {id : DeviceId} {ds : List Duty} (next : b.host.agenda = .reassess id :: ds)
    (idle : (b.host.withAgenda ds).due? id = none) (change : Core.Change law scope b.host.core s x) :
    s = none := by
  have submits {j : DeviceId} {ds' : List Duty} {d : Device} {name : String}
      (next' : b.host.agenda = .reassess j :: ds') (found : b.host.core.devices j = some d)
      (lacks : d.gate.decision = .provision)
      (due : d.dueProfileName? b.host.core.registry.loaded = some name) : False := by
    obtain ⟨rfl, rfl⟩ : j = id ∧ ds' = ds := by simpa using next'.symm.trans next
    have found' : (b.host.withAgenda ds').device? j = some d := found
    have due' : d.dueProfileName? (b.host.withAgenda ds').registry.loaded = some name := due
    simp [Host.due?, found', lacks, due'] at idle
  cases change with
  | turnedDown j d ds' name why next' found lacks due => exact (submits next' found lacks due).elim
  | handedIn j d ds' name lives next' found lacks due => exact (submits next' found lacks due).elim
  | _ => rfl

/-- A device that is assessed and is not due to submit a profile leaves the registry alone. -/
theorem hushed_reassess {id : DeviceId} {ds : List Duty}
    (next : b.host.agenda = .reassess id :: ds) (idle : (b.host.withAgenda ds).due? id = none) :
    b.host.core.Hushed ((b.host.withAgenda ds).reassess id).core := by
  let still : Core.Scope := ⟨False, fun _ => False, fun _ => False, False⟩
  obtain ⟨s, change⟩ : ∃ s, Core.Change shut still b.host.core s
      ((b.host.withAgenda ds).reassess id).core := Host.step_reassess next
  obtain rfl := unsubmitted_of_idle next idle change
  exact change.hushed fun hearing => hearing

/-- Only an assessment and what is asked for put a request to the registry. -/
theorem put?_of_head {duty : Duty} {ds : List Duty} (next : b.host.agenda = duty :: ds)
    (other : ∀ id, duty ≠ .reassess id) : b.put? .act = b.request? .act := by
  simp only [put?, next]
  split
  · next same => exact absurd (List.cons.inj same).1 (other _)
  · rfl

/-- What a host announces is what its next duty announces, and what the others do. -/
theorem announcements_of_head {duty : Duty} {ds : List Duty} (next : b.host.agenda = duty :: ds) :
    b.host.core.announcements = duty.announcement?.toList ++ ds.filterMap Duty.announcement? := by
  rw [Core.announcements, show b.host.core.agenda = _ from next]
  cases duty <;> rfl

/-- An announcement that has its turn goes on with the next listener, or is over. -/
theorem informs_of_announce {n : Registry.Notice} {ls : List Listener} {ds : List Duty}
    (next : b.host.agenda = .announce n ls :: ds) :
    b.Informs .act (b.onHost fun h => (h.withAgenda ds).act (.announce n ls)) := by
  have turn : b.announcing? .act = some (n, ls) := by rw [announcing?, next]
  have before := announcements_of_head next
  cases ls with
  | nil => exact .closes n _ turn before rfl rfl rfl rfl
  | cons l ls =>
    obtain ⟨announcements, registry, subscriptions, nextId⟩ :=
      hear_spares ((b.host.withAgenda ds).urge [.announce n ls]) n l
    exact .hears n l ls _ turn before announcements registry subscriptions nextId

/-- A device that is assessed submits its profile when it is due to. -/
theorem informs_of_reassess {id : DeviceId} {ds : List Duty}
    (next : b.host.agenda = .reassess id :: ds) :
    b.Informs .act (b.onHost fun h => (h.withAgenda ds).act (.reassess id)) := by
  have turn : b.announcing? .act = none := by rw [announcing?, next]
  have put : b.put? .act = ((b.host.withAgenda ds).due? id).map fun due =>
      ((b.host.withAgenda ds).submitting id due.1 (b.host.core.profileFor due.1 due.2),
        .submit (b.host.core.profileFor due.1 due.2)) := by
    simp only [put?, next]
  cases due : (b.host.withAgenda ds).due? id with
  | none =>
    rw [due] at put
    exact .aside turn (by rw [change?, put]; rfl) (hushed_reassess next due)
  | some due' =>
    obtain ⟨d, name⟩ := due'
    rw [due] at put
    obtain ⟨registry, subscriptions, nextId, announcements⟩ :=
      (b.host.withAgenda ds).core_submitting id d (b.host.core.profileFor d name)
    exact informs_of_put turn put registry subscriptions nextId
      (announcements.trans (announcements_of_head next).symm) (Host.reassess_of_due due)

/-- A watcher whose next command is a request puts it to the registry. -/
theorem informs_of_perform {w : WatcherId} {q : Registry.Request} {cs : List Command}
    {ds : List Duty} (next : b.host.agenda = .perform w (.request q :: cs) :: ds) :
    b.Informs .act (b.onHost fun h => (h.withAgenda ds).act (.perform w (.request q :: cs))) := by
  let h := b.host.withAgenda ds
  have asks : b.request? .act = some (h.urge [.record w (h.answerTo (.request q)), .perform w cs], q) := by
    rw [request?, next]
  refine informs_of_put (by rw [announcing?, next]) ((put?_of_head next (by simp)).trans asks)
    rfl rfl rfl ?_ rfl
  exact (announcements_of_head next).symm

/-- Without a request, a submission or a notification the registry and announcements are left
alone. -/
theorem informs_of_still {law : Law} (reached : Reachable law b) (noTurn : b.announcing? m = none)
    (asks : b.request? m = none) (put : b.put? m = none)
    (assesses : ∀ id, b.host.agenda.head? = some (.reassess id) → m ≠ .act)
    (made : b.make m = some c) : b.Informs m c := by
  have deaf : ¬ (b.scopeOf m).hearing := by
    intro hearing
    have hearing : (b.announcing? m).isSome := hearing
    rw [noTurn] at hearing
    exact absurd hearing (by simp)
  have unchanged : b.change? m = none := by rw [change?, put, Option.bind_none]
  rcases reached.changes_unasked asks made with changes | ⟨act, s, change⟩
  · exact .aside noTurn unchanged (changes.hushed deaf)
  · cases s with
    | none => exact .aside noTurn unchanged (change.hushed deaf)
    | some s => exact absurd act (assesses _ change.step.submits.1)

/-- **A move goes on with an announcement, puts a request to the registry or does neither.** -/
theorem informs_of_make {law : Law} (reached : Reachable law b) (made : b.make m = some c) :
    b.Informs m c := by
  -- a duty that is neither an announcement nor an assessment nor a request
  have still {duty : Duty} {ds : List Duty} (next : b.host.agenda = duty :: ds)
      (silent : duty.announcement? = none) (assesses : ∀ id, duty ≠ .reassess id)
      (requests : ∀ w q cs, duty ≠ .perform w (.request q :: cs)) (made : b.make .act = some c) :
      b.Informs .act c := by
    have asks : b.request? .act = none := by
      simp only [request?, next]
      split
      · next same => exact absurd (List.cons.inj same).1 (requests _ _ _)
      · rfl
    refine informs_of_still reached ?_ asks ((put?_of_head next assesses).trans asks) ?_ made
    · simp only [announcing?, next]
      cases duty <;> simp_all [Duty.announcement?]
    · rintro id head -
      rw [next] at head
      exact assesses id (Option.some.inj head)
  cases m with
  | poll | follow | report => exact informs_of_still reached rfl rfl rfl (by simp) made
  | step s =>
    by_cases asks : ∃ q, s = .command (.request q)
    · obtain ⟨q, rfl⟩ := asks
      obtain ⟨-, made⟩ := Option.ite_none_right_eq_some.1 made
      obtain rfl := Option.some.inj made
      exact informs_of_put rfl rfl rfl rfl rfl rfl rfl
    · have none : b.request? (.step s) = none := by
        rw [request?]
        rintro q rfl
        exact asks ⟨q, rfl⟩
      exact informs_of_still reached rfl none none (by simp) made
  | act =>
    cases next : b.host.agenda with
    | nil => exact absurd made (by simp [make, next])
    | cons duty ds =>
      obtain rfl : _ = c := Option.some.inj (by simpa only [make, next] using made)
      cases duty with
      | announce n ls => exact informs_of_announce next
      | reassess id => exact informs_of_reassess next
      | perform w cs =>
        by_cases requests : ∃ q cs', cs = .request q :: cs'
        · obtain ⟨q, cs', rfl⟩ := requests
          exact informs_of_perform next
        · refine still next rfl (by simp) ?_ made
          rintro w' q cs' same
          exact requests ⟨q, cs', (Duty.perform.inj same).2⟩
      | react | record | adopt | conclude | pursue =>
        exact still next rfl (by simp) (by simp) made

end Bench

end Piconet
