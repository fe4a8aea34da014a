import Piconet.Proofs.Provisioning
import Piconet.Proofs.Synchrony

/-!
# No profile is submitted in vain

A device submits a profile when it has no candidate, which may be in the middle of an announcement
that other devices have yet to hear. That nothing stored would do for it then is a matter of what
stands below its assessment on the agenda (`Before`). The change that it reacts to is still being
announced there, but not to it, since it is notified once of each change (`Core.Once`); and a
device that is assessed above the announcement of anything else has just taken up what was added,
so it submits nothing.
-/

namespace Piconet

open Function (update)
open Bench (free orderly)

variable {law : Core → Registry.Request → Prop} {c c' : Core} {s : Option (DeviceId × Profile)}
  {id : DeviceId} {p q : Profile}

/-! ## One notification for each change -/

/-- The identifier that a listener was given. -/
def Listener.number : Listener → Nat
  | .device id | .watcher id => id

namespace Core

/-- Nobody is notified twice of a change. -/
structure Once (c : Core) : Prop where
  distinct : (c.subscriptions.map (·.listener)).Nodup
  given : ∀ s ∈ c.subscriptions, s.listener.number < c.nextId
  heard : ∀ n ls, .announce n ls ∈ c.agenda → ls.Nodup

theorem once_opening (isLoaded : Bool) (naming : Naming) : (opening isLoaded naming).Once where
  distinct := List.nodup_nil
  given _ mem := absurd mem (by simp [opening])
  heard _ _ mem := absurd mem (by simp [opening])

namespace Once

variable (once : c.Once)

include once

/-- A listener under a new identifier is none of those that are there. -/
theorem distinct_append (l : Listener) (new : l.number = c.nextId) (i : Nat) :
    ((c.subscriptions ++ [({ id := i, listener := l } : Subscription)]).map (·.listener)).Nodup := by
  rw [List.map_append, List.nodup_append]
  refine ⟨once.distinct, List.nodup_singleton _, ?_⟩
  rintro x hx y hy rfl
  obtain ⟨s, mem, same⟩ := List.mem_map.1 hx
  have old := once.given s mem
  rw [same, List.mem_singleton.1 hy, new] at old
  exact absurd old (Nat.lt_irrefl _)

theorem distinct_filter (keep : Subscription → Bool) :
    ((c.subscriptions.filter keep).map (·.listener)).Nodup :=
  (List.filter_sublist.map _).nodup once.distinct

/-- Those that have not heard of a change yet are among those that it was announced to. -/
theorem nodup_of_head {n : Registry.Notice} {l : Listener} {ls : List Listener} {ds : List Duty}
    (next : c.agenda = .announce n (l :: ls) :: ds) : l ∉ ls ∧ ls.Nodup :=
  List.nodup_cons.1 (once.heard n _ (by rw [next]; exact List.mem_cons_self))

end Once

/-- A new device subscribes under a new number, and a watcher likewise, so no two subscriptions have one
listener. -/
theorem Step.distinct (step : Step law c s c') (once : c.Once) :
    (c'.subscriptions.map (·.listener)).Nodup := by
  cases step with
  | create => exact once.distinct_append _ rfl _
  | enlist => exact once.distinct_append _ rfl _
  | destroy | cancel | request | handedIn => exact once.distinct_filter _
  | _ => exact once.distinct

/-- Every number that is in use was given out. -/
theorem Step.given (step : Step law c s c') (once : c.Once) :
    ∀ s ∈ c'.subscriptions, s.listener.number < c'.nextId := by
  intro x mem
  cases step with
  | create | enlist =>
    rcases List.mem_append.1 mem with mem | new
    · exact Nat.lt_succ_of_lt (once.given x mem)
    · obtain rfl := List.mem_singleton.1 new
      exact Nat.lt_succ_self _
  | destroy | cancel | request | handedIn => exact once.given x (List.mem_filter.1 mem).1
  | startRun => exact Nat.lt_succ_of_lt (once.given x mem)
  | _ => exact once.given x mem

/-- An announcement is made for those who are subscribed, so nobody is to hear of it twice. -/
theorem Step.heardOnce (step : Step law c s c') (once : c.Once) {n : Registry.Notice}
    {ls : List Listener} (mem : .announce n ls ∈ c'.agenda) : ls.Nodup := by
  have rest {duty : Duty} {ds : List Duty} (next : c.agenda = duty :: ds)
      (mem : .announce n ls ∈ ds) : ls.Nodup :=
    once.heard n ls (by rw [next]; exact List.mem_cons_of_mem _ mem)
  -- the announcement that has its turn goes on with those that are left
  have goesOn {m : Registry.Notice} {l : Listener} {ls' : List Listener} {ds : List Duty}
      (next : c.agenda = .announce m (l :: ls') :: ds)
      (mem : .announce n ls ∈ Duty.announce m ls' :: ds) : ls.Nodup := by
    rcases List.mem_cons.1 mem with same | mem
    · obtain ⟨rfl, rfl⟩ := Duty.announce.inj same
      exact (once.nodup_of_head next).2
    · exact rest next mem
  have announced {m : Registry.Notice} {lives : Listener → Bool}
      (same : Duty.announce n ls = .announce m
        ((c.subscriptions.filter fun s => lives s.listener).map (·.listener))) : ls.Nodup := by
    rw [(Duty.announce.inj same).2]
    exact once.distinct_filter _
  have noWatch {ws : List Duty} (watch : ws.all Duty.isWatch) : .announce n ls ∉ ws := fun mem =>
    absurd (List.all_eq_true.1 watch _ mem) (by simp [Duty.isWatch])
  cases step with
  | defer ds quiet pursuits =>
    exact absurd (List.all_eq_true.1 pursuits _ mem) (by simp [Duty.isPursuit])
  | summon => exact once.heard n ls (by simpa using mem)
  | request =>
    rcases List.mem_cons.1 mem with same | mem
    · exact announced same
    · exact once.heard n ls mem
  | heardByAll n ds next | late duty j ds next | decide j d ds usable next | adopt j d uuid ds next
  | conclude j d ds next => exact rest next mem
  | watched m w ls' ds ws next watch =>
    exact goesOn next ((List.mem_append.1 mem).resolve_left (noWatch watch))
  | turn duty ds ws next isWatch watch =>
    exact rest next ((List.mem_append.1 mem).resolve_left (noWatch watch))
  | unmoved m j ls' ds next => exact goesOn next mem
  | moved m j ls' ds d e next => exact goesOn next (by simpa using mem)
  | concede j d ds next | turnedDown j d ds name why next => exact rest next (by simpa using mem)
  | handedIn j d ds name lives next =>
    rcases List.mem_cons.1 mem with same | mem
    · exact announced same
    · exact rest next (by simpa using mem)
  | _ => exact once.heard n ls mem

/-- **Every step keeps notifications single.** -/
theorem Step.once (step : Step law c s c') (once : c.Once) : c'.Once where
  distinct := step.distinct once
  given := step.given once
  heard _ _ mem := step.heardOnce once mem

end Core

/-! ## What stands below an assessment -/

/-- What may stand below a duty on the agenda while nobody else calls back. Nothing goes on while
anything but an addition is announced; and a device that is assessed above an announcement that it
is yet to hear has a candidate. -/
def Before (devices : DeviceId → Option Device) : Duty → Duty → Prop
  | .announce (.added _) _, _ => True
  | .announce _ _, b => b.isPursuit
  | .reassess id, .announce _ ls => .device id ∈ ls → ∀ d, devices id = some d → d.candidates ≠ []
  | _, _ => True

namespace Before

variable {devices devices' : DeviceId → Option Device} {a b : Duty} {n : Registry.Notice}
  {ls : List Listener}

/-- Below an announcement that adds nothing there is discovery only. -/
theorem of_announce (isPursuit : b.isPursuit) : Before devices (.announce n ls) b := by
  cases n with
  | added => trivial
  | removed | updated | loaded => exact isPursuit

/-- Nothing but an `Added` notification may stand above another duty. -/
theorem isPursuit (before : Before devices (.announce n ls) b) (other : ∀ p, n ≠ .added p) :
    b.isPursuit := by
  cases n with
  | added p => exact absurd rfl (other p)
  | removed | updated | loaded => exact before

/-- A device that is assessed above an announcement which is still to reach it has a candidate already. -/
theorem of_reassess (matched : ∀ n ls, b = .announce n ls → .device id ∈ ls →
    ∀ d, devices id = some d → d.candidates ≠ []) : Before devices (.reassess id) b := by
  cases b with
  | announce n ls => exact matched n ls rfl
  | _ => trivial

theorem of_isPursuit (isPursuit : a.isPursuit) : Before devices a b := by
  cases a with
  | pursue run => trivial
  | _ => exact absurd isPursuit (by simp [Duty.isPursuit])

theorem of_isWatch (isWatch : a.isWatch) : Before devices a b := by
  cases a with
  | react | perform | record => trivial
  | _ => exact absurd isWatch (by simp [Duty.isWatch])

/-- Devices may gain candidates. -/
theorem mono (before : Before devices a b) (keeps : ∀ id, a = .reassess id →
    (∀ d, devices id = some d → d.candidates ≠ []) → ∀ d, devices' id = some d → d.candidates ≠ []) :
    Before devices' a b := by
  cases a with
  | reassess id =>
    apply of_reassess
    rintro n ls rfl listens
    exact keeps id rfl (before listens)
  | announce n ls => cases n <;> exact before
  | _ => trivial

end Before

/-- Duties stand above each other as they may. -/
abbrev Nested (devices : DeviceId → Option Device) : List Duty → Prop :=
  List.Pairwise (Before devices)

namespace Nested

variable {devices devices' : DeviceId → Option Device} {ds ws : List Duty}

theorem mono (nested : Nested devices ds) (keeps : ∀ id, .reassess id ∈ ds →
    (∀ d, devices id = some d → d.candidates ≠ []) → ∀ d, devices' id = some d → d.candidates ≠ []) :
    Nested devices' ds := by
  apply List.Pairwise.imp_of_mem ?_ nested
  intro a b mem _ before
  apply before.mono
  rintro id rfl
  exact keeps id mem

theorem of_isPursuit (pursuits : ds.all Duty.isPursuit) : Nested devices ds :=
  List.pairwise_of_forall_mem_list fun a mem _ _ =>
    .of_isPursuit (List.all_eq_true.1 pursuits a mem)

/-- What watchers do is never in the way. -/
theorem append_watches (watch : ws.all Duty.isWatch) (nested : Nested devices ds) :
    Nested devices (ws ++ ds) := by
  have first {a b : Duty} (mem : a ∈ ws) : Before devices a b :=
    .of_isWatch (List.all_eq_true.1 watch a mem)
  exact List.pairwise_append.2
    ⟨List.pairwise_of_forall_mem_list fun a mem _ _ => first mem, nested, fun a mem _ _ => first mem⟩

/-- Nothing is below the announcement of anything but an addition. -/
theorem pursuits {n : Registry.Notice} {ls : List Listener}
    (nested : Nested devices (.announce n ls :: ds)) (other : ∀ p, n ≠ .added p) :
    ds.all Duty.isPursuit :=
  List.all_eq_true.2 fun _ mem => ((List.pairwise_cons.1 nested).1 _ mem).isPursuit other

/-- When some of the listeners have heard of a change, the agenda looks the same. -/
theorem of_announce {n : Registry.Notice} {ls : List Listener}
    (nested : Nested devices (.announce n ls :: ds)) (ls' : List Listener) :
    Nested devices (.announce n ls' :: ds) := by
  obtain ⟨below, rest⟩ := List.pairwise_cons.1 nested
  refine List.pairwise_cons.2 ⟨fun b mem => ?_, rest⟩
  cases n <;> exact below b mem

end Nested

namespace Core

/-- **Every step keeps the order of the agenda.** -/
theorem Step.nested (step : Step orderly c s c') (upkeep : c.Upkeep) (once : c.Once)
    (nested : Nested c.devices c.agenda) : Nested c'.devices c'.agenda := by
  have from_ {duty : Duty} {ds : List Duty} (next : c.agenda = duty :: ds) :
      Nested c.devices (duty :: ds) := by
    rw [← next]
    exact nested
  have rest {duty : Duty} {ds : List Duty} (next : c.agenda = duty :: ds) : Nested c.devices ds :=
    (from_ next).of_cons
  -- a device that is revised keeps its candidates
  have revised {j : DeviceId} {d e : Device} {ds : List Duty} (nested : Nested c.devices ds)
      (found : c.devices j = some d) (keeps : d.candidates ≠ [] → e.candidates ≠ []) :
      Nested (update c.devices j (some e)) ds :=
    nested.mono fun _ _ matched => matched_of_update found keeps matched
  cases step with
  | enlist | cancel | receivers | reported | endRuns | comeUp | requestUnheard => exact nested
  | create path g t =>
    apply nested.mono
    intro id mem matched d there
    rcases eq_of_update_some there with ⟨rfl, -⟩ | ⟨-, kept⟩
    · exact absurd rfl (upkeep.about_ne mem)
    · exact matched d kept
  | destroy j =>
    apply nested.mono
    intro id mem matched d there
    rcases eq_of_update there with ⟨-, hx⟩ | ⟨-, kept⟩
    · exact absurd hx (by simp)
    · exact matched d kept
  | startRun j d found | session j d s found | findPower run j d on quiet found =>
    exact revised nested found (·)
  | edit j d e es ds next quiet found edit =>
    refine revised nested found fun some => ?_
    obtain ⟨u, tracked⟩ := List.exists_mem_of_ne_nil _ some
    exact List.ne_nil_of_mem (edit.mono tracked)
  | defer ds quiet pursuits => exact .of_isPursuit pursuits
  | summon j d quiet found =>
    refine List.pairwise_cons.2 ⟨fun b mem => .of_reassess ?_, nested⟩
    rintro n ls rfl
    exact absurd (List.all_eq_true.1 quiet _ mem) (by simp [Duty.isPursuit])
  | request q r n lives isOpen lawful =>
    -- nobody is being notified when a request comes in
    exact List.pairwise_cons.2 ⟨fun b mem => .of_announce (List.all_eq_true.1 lawful.1 b mem), nested⟩
  | heardByAll n ds next => exact rest next
  | watched n w ls ds ws next watch => exact ((from_ next).of_announce ls).append_watches watch
  | turn duty ds ws next isWatch watch => exact (rest next).append_watches watch
  | unmoved n j ls ds next => exact (from_ next).of_announce ls
  | moved n j ls ds d e next found hears =>
    by_cases other : ∀ p, n ≠ .added p
    · -- nothing else is being announced, and the device has heard of this
      have pursuits := (from_ next).pursuits other
      refine List.pairwise_cons.2 ⟨fun b mem => .of_reassess ?_, List.pairwise_cons.2
        ⟨fun b mem => .of_announce (List.all_eq_true.1 pursuits b mem), Nested.of_isPursuit pursuits⟩⟩
      rintro m ls' rfl listens
      rcases List.mem_cons.1 mem with same | mem
      · obtain ⟨rfl, rfl⟩ := Duty.announce.inj same
        exact absurd listens (once.nodup_of_head next).1
      · exact absurd (List.all_eq_true.1 pursuits _ mem) (by simp [Duty.isPursuit])
    · obtain ⟨p, rfl⟩ : ∃ p, n = .added p := by simpa using other
      obtain ⟨q, -, -, -, rfl⟩ | ⟨q, about, -⟩ | ⟨about, -⟩ := Device.hear_cases hears
      · -- the device takes the added profile up, so it has a candidate when it is assessed
        have more : q.uuid :: d.candidates ≠ [] := List.cons_ne_nil _ _
        refine List.pairwise_cons.2 ⟨fun b mem => .of_reassess ?_,
          revised ((from_ next).of_announce ls) found fun _ => more⟩
        intro _ _ _ _ x there
        rcases eq_of_update_some there with ⟨-, rfl⟩ | ⟨other, -⟩
        · exact more
        · exact absurd rfl other
      · exact absurd about (by simp)
      · exact absurd about (by simp)
  | late duty j ds next => exact rest next
  | decide j d ds usable next found | conclude j d ds next found => exact revised (rest next) found (·)
  | concede j d ds next => exact List.pairwise_cons.2 ⟨fun _ _ => trivial, rest next⟩
  | turnedDown j d ds name why next found =>
    exact List.pairwise_cons.2 ⟨fun _ _ => trivial, revised (rest next) found (·)⟩
  | handedIn j d ds name lives next found =>
    exact List.pairwise_cons.2 ⟨fun _ _ => trivial, List.pairwise_cons.2 ⟨fun _ _ => trivial,
      List.pairwise_cons.2 ⟨fun _ _ => trivial, revised (rest next) found (·)⟩⟩⟩
  | adopt j d uuid ds next found =>
    exact revised (rest next) found fun _ => List.ne_nil_of_mem (Device.mem_track.2 (.inl rfl))

/-! ## Submissions -/

/-- **A device that submits a profile is owed none**, so no stored one would do. -/
theorem Step.stores_none (step : Step law c (some (id, p)) c') (tame : c.Tame) (synced : c.Synced)
    (nested : Nested c.devices c.agenda) {d : Device} (found : c.devices id = some d)
    (isStored : q ∈ c.registry.profiles) : d.accepts q = false := by
  obtain ⟨head, -, x, -, found', -, may, -⟩ := step.submits
  obtain rfl := Option.some.inj (found'.symm.trans found)
  obtain ⟨ds, next⟩ := List.head?_eq_some_iff.1 head
  have alone : x.candidates = [] := may.alone
  have layered := tame.layered
  rw [next] at layered nested
  apply Bool.eq_false_iff.2
  intro accepts
  rcases synced id x q found isStored accepts with tracked | owed
  · exact absurd tracked (by simp [alone])
  rw [next] at owed
  rcases owed with due | ⟨n, ls, due, listens, -⟩
  · have below := layered.plain_of_reassess found alone _ (by simpa using due)
    exact absurd below (by simp [Duty.adds])
  · have below := (List.pairwise_cons.1 nested).1 _ (by simpa using due)
    exact below listens x found alone

end Core

namespace Bench

variable {b b' : Bench} {d : Device}

/-- In every run each listener is subscribed once, and is notified once of each change. -/
theorem Reachable.once {law : Law} (reached : Reachable law b) : b.host.core.Once :=
  reached.core_induction Core.once_opening fun _ _ _ once step => step.once once

/-- The agenda of a bench is in order, as long as nobody but devices calls back. -/
theorem Reachable.nested (reached : Reachable orderly b) :
    Nested b.host.core.devices b.host.core.agenda := by
  suffices all : b.host.core.Upkeep ∧ b.host.core.Once ∧
      Nested b.host.core.devices b.host.core.agenda from all.2.2
  refine reached.core_induction (P := fun c => c.Upkeep ∧ c.Once ∧ Nested c.devices c.agenda) ?_ ?_
  · exact fun isLoaded naming => ⟨Core.upkeep_opening isLoaded naming, Core.once_opening isLoaded naming, .nil⟩
  · rintro c s c' ⟨upkeep, once, nested⟩ step
    exact ⟨step.upkeep upkeep, step.once once, step.nested upkeep once nested⟩

/-- **No redundant profile is ever submitted.** As long as only devices call back into the registry, what a move
adds to the submitted profiles is one profile of a device that is being assessed, and at that moment the
registry stores no profile that this device accepts. This holds in the middle of notifications as well: other
devices may still have to hear of the change that led to the submission, and other devices may go by the same
address. -/
theorem stores_none_of_submits {m : Move} (reached : Reachable orderly b) (made : b.make m = some b')
    (more : ¬ b'.host.submissions.Sublist b.host.submissions) :
    ∃ id d p, b.host.agenda.head? = some (.reassess id) ∧ b.host.device? id = some d ∧
      b'.host.submissions = b.host.submissions ++ [p] ∧ d.accepts p ∧
      ∀ q ∈ b.host.registry.profiles, d.accepts q = false := by
  rcases reached.steps_make made with steps | ⟨-, s, step⟩
  · exact absurd steps.submissions more
  cases s with
  | none => exact absurd step.submissions more
  | some s =>
    obtain ⟨id, p⟩ := s
    obtain ⟨head, noted, d, -, found, -, may, -⟩ := step.submits
    exact ⟨id, d, p, head, found, noted, may.accepted, fun q isStored =>
      step.stores_none reached.tame reached.synced reached.nested found isStored⟩

/-- A profile for the access point of the stub. -/
def forStub : Profile := .forAccessPoint "u" "n" ⟨1, 2, 3, 4, 5, 6⟩

/-- Two devices under one address that were brought up with a profile for it, which is then removed;
after as many duties as given. -/
def bereft (duties : Nat) : Bench :=
  (opening .bluez4 (.stub (offering "1116-0")) true none).makeAll
    (([.step (.command (.request (.insert forStub))), .act, .step (.newDevice "D" "/d" none {}),
      .step (.newDevice "E" "/d" none {}), .step (.run "D"), .poll 2] : List Move) ++
      List.replicate 8 Move.act ++ ([.step (.run "E"), .poll 3] : List Move) ++
      List.replicate 8 Move.act ++ ([.step (.command (.request (.remove "u")))] : List Move) ++
      List.replicate duties Move.act)

theorem reachable_bereft : Reachable orderly (bereft 1) := by
  refine ⟨_, _, _, _, _, reaches_makeAll _ _ ?_⟩
  intro x asked
  rcases List.mem_cons.1 asked with rfl | asked
  · refine ⟨by rfl, ?_⟩
    rintro p ⟨⟩
    exact Core.old_of_head? rfl (by decide)
  · obtain rfl := List.mem_singleton.1 asked
    exact ⟨by rfl, fun p brings => absurd brings (by simp [Registry.Request.brings?])⟩

/-- The first device submits a profile while the second one has yet to hear of the removal. -/
theorem stores_none_bereft :
    (bereft 1).host.agenda = [.reassess 0, .announce (.removed forStub) [.device 1]] ∧
      ∃ id d p, (bereft 1).host.agenda.head? = some (.reassess id) ∧
        (bereft 1).host.device? id = some d ∧
        (bereft 2).host.submissions = (bereft 1).host.submissions ++ [p] ∧ d.accepts p ∧
        ∀ q ∈ (bereft 1).host.registry.profiles, d.accepts q = false := by
  have made : (bereft 1).make .act = some (bereft 2) := by rfl
  have more : ¬ (bereft 2).host.submissions.Sublist (bereft 1).host.submissions := by
    intro fewer
    exact absurd fewer.length_le (by decide +kernel)
  exact ⟨by rfl, stores_none_of_submits reachable_bereft made more⟩

end Bench

end Piconet
