import Piconet.Proofs.Provisioning
import Piconet.Proofs.Synchrony

/-!
# When candidates go stale

A device knows its candidates by their UUIDs only, so it has to hear of every change of a
stored profile. Whoever removes or updates a profile has it announced as that, and the device takes
it off when it has to: until then the candidate is in doubt (`Doubted`). Whoever adds a profile under
a UUID that is in use has it announced as an addition only, and a device that has the
UUID as a candidate and does not accept the new profile leaves its list as it is.

So candidates always name stored profiles; the device accepts these as long as no addition displaces
a candidate so (`Bench.sparing`); and one that does leaves a stale candidate, for as long as nobody
updates, removes or displaces the new profile in turn (`Bench.keeping`).
-/

namespace Piconet

open Registry (Notice Request)
open Bench (Law orderly)

variable {c c' : Core} {s : Option (DeviceId × Profile)} {id : DeviceId} {d e : Device}
  {p q : Profile} {u : String} {n : Notice} {strict : Prop} {law : Law}

/-- The UUID names a stored profile that the device accepts. -/
def Registry.Serves (r : Registry) (d : Device) (u : String) : Prop :=
  ∃ p ∈ r.profiles, p.uuid = u ∧ d.accepts p

/-- No addition displaces a profile that is a candidate of a device by one that the device does not
accept. -/
def Core.Spares (c : Core) (q : Request) : Prop :=
  ∀ r p, c.registry.handle q = (r, some (.added p)) →
    ∀ id d, c.devices id = some d → p.uuid ∈ d.candidates → d.accepts p

/-- Nobody but devices calls back into the registry, and no addition displaces a candidate. -/
def Bench.sparing : Law := fun c q => orderly c q ∧ c.Spares q

/-- Nobody but devices calls back into the registry, and whoever asks for anything under the
UUID of a profile asks to have that profile stored. -/
def Bench.keeping (p : Profile) : Law := fun c q =>
  orderly c q ∧ (q.uuid? = some p.uuid → q.brings? = some p)

open Bench (sparing keeping)

/-- A device is yet to hear that a profile is removed or updated. -/
def Doubted (ds : List Duty) (id : DeviceId) (u : String) : Prop :=
  ∃ n ls q, .announce n ls ∈ ds ∧ .device id ∈ ls ∧ (n = .removed q ∨ n = .updated q) ∧ q.uuid = u

namespace Core

/-- Nothing is in doubt when nobody is being notified. -/
theorem not_doubted_of_quiet (quiet : c.isQuiet) : ¬ Doubted c.agenda id u := by
  rintro ⟨n, ls, q, due, -⟩
  have pursuit : (Duty.announce n ls).isPursuit := List.all_eq_true.1 quiet _ due
  exact absurd pursuit (by simp [Duty.isPursuit])

/-- What candidates stand for. -/
structure Backed (strict : Prop) (c : Core) : Prop where
  /-- a candidate names a stored profile, or is in doubt -/
  names : ∀ id d u, c.devices id = some d → u ∈ d.candidates →
    (∃ p ∈ c.registry.profiles, p.uuid = u ∧ (strict → d.accepts p)) ∨ Doubted c.agenda id u
  /-- what a device is to take as its own is stored, and the device accepts it -/
  own : ∀ id u d, .adopt id u ∈ c.agenda → c.devices id = some d →
    ∃ p ∈ c.registry.profiles, p.uuid = u ∧ d.accepts p
  /-- a device that has candidates is known well enough to tell what it accepts -/
  identified : ∀ id d, c.devices id = some d → d.candidates ≠ [] →
    d.address.isSome ∧ d.capabilities.isEmpty = false
  /-- no candidate is listed twice -/
  distinct : ∀ id d, c.devices id = some d → d.candidates.Nodup

theorem backed_opening (isLoaded : Bool) (naming : Naming) : Backed strict (opening isLoaded naming) where
  names _ _ _ found := absurd found (by simp [opening])
  own _ _ _ _ found := absurd found (by simp [opening])
  identified _ _ found := absurd found (by simp [opening])
  distinct _ _ found := absurd found (by simp [opening])

/-- **A doubt is settled when the device hears of the change**: it takes the candidate off, or the
updated profile is one that it accepts. -/
theorem Step.doubted (step : Step law c s c') (tame : c.Tame)
    (distinct : d.candidates.Nodup) (found : c.devices id = some d) (there : c'.devices id = some e)
    (tracked : u ∈ e.candidates) (doubted : Doubted c.agenda id u) :
    (∃ p ∈ c.registry.profiles, p.uuid = u ∧ d.accepts p) ∨ Doubted c'.agenda id u := by
  obtain ⟨n, ls, q, due, listens, about, rfl⟩ := doubted
  rcases step.hears due listens found there with ⟨ls', still, listens⟩ | ⟨rfl, -⟩
  · exact .inr ⟨n, ls', q, still, listens, about, rfl⟩
  · rcases about with rfl | rfl
    · exact absurd tracked (Device.not_mem_of_hear distinct (.inl rfl))
    · cases accepts : d.accepts q with
      | true => exact .inl ⟨q, tame.coherent.agrees _ ls due, rfl, accepts⟩
      | false => exact absurd tracked (Device.not_mem_of_hear distinct (.inr ⟨rfl, accepts⟩))

/-- A change of the registry leaves a candidate what it stands for, or puts it in doubt. -/
theorem Announces.names (announces : Announces law c c' n)
    (spares : strict → ∀ c q, law c q → c.Spares q) (tame : c.Tame) (backed : c.Backed strict)
    (there : c'.devices id = some e) (tracked : u ∈ e.candidates) :
    (∃ p ∈ c'.registry.profiles, p.uuid = u ∧ (strict → e.accepts p)) ∨ Doubted c'.agenda id u := by
  obtain ⟨d, found, candidates, address, capabilities⟩ := announces.kept id e there
  have same (p : Profile) : e.accepts p = d.accepts p := Device.accepts_congr address capabilities p
  rw [candidates] at tracked
  simp only [same]
  rcases backed.names id d u found tracked with ⟨p, isStored, rfl, accepts⟩ | ⟨m, ls, q, due, rest⟩
  · by_cases other : ∀ q, n.profile? = some q → p.uuid ≠ q.uuid
    · exact .inl ⟨p, announces.effect.kept isStored other, rfl, accepts⟩
    · -- the change is about the candidate
      simp only [not_forall, not_not] at other
      obtain ⟨q, about, uuid⟩ := other
      obtain ⟨ls, due, heard⟩ := announces.heard
      have heard := heard id d found (tame.listening.listens id d found)
      have agrees := announces.effect.agrees
      cases n with
      | removed x =>
        obtain rfl := Option.some.inj about
        exact .inr ⟨_, ls, x, due, heard, .inl rfl, uuid.symm⟩
      | updated x =>
        obtain rfl := Option.some.inj about
        exact .inr ⟨_, ls, x, due, heard, .inr rfl, uuid.symm⟩
      | loaded => exact absurd about (by simp [Notice.profile?])
      | added x =>
        obtain rfl := Option.some.inj about
        refine .inl ⟨x, agrees, uuid.symm, ?_⟩
        intro hs
        rcases announces.cause with ⟨-, -, r, r', lawful, handled⟩ | ⟨y, name, new, -⟩
        · -- only a request can bring a UUID in again; a device submits under a new one
          exact spares hs c r lawful r' x handled id d found (uuid ▸ tracked)
        · obtain rfl := Notice.added.inj new
          exact absurd uuid ((tame.coherent.old p isStored).ne y name)
  · refine .inr ⟨m, ls, q, ?_, rest⟩
    exact (announces.due _ due).resolve_right (by simp)

theorem Step.names (step : Step law c s c') (spares : strict → ∀ c q, law c q → c.Spares q)
    (tame : c.Tame) (backed : c.Backed strict) :
    ∀ id d u, c'.devices id = some d → u ∈ d.candidates →
      (∃ p ∈ c'.registry.profiles, p.uuid = u ∧ (strict → d.accepts p)) ∨
        Doubted c'.agenda id u := by
  intro id e u there tracked
  rcases step.arises.1 with same | ⟨n, announces⟩
  · rw [same]
    rcases step.origin there with ⟨d, found, revises⟩ | ⟨-, -, -, path, g, t, rfl⟩
    · rcases revises.gains tracked with before | ⟨p, known, accepts, uuid⟩ | due
      · rcases backed.names id d u found before with ⟨p, isStored, uuid, accepts⟩ | doubted
        · exact .inl ⟨p, isStored, uuid, fun hs => revises.accepts (accepts hs)⟩
        · apply (step.doubted tame (backed.distinct id d found) found there tracked doubted).imp_left
          rintro ⟨p, isStored, uuid, accepts⟩
          exact ⟨p, isStored, uuid, fun _ => revises.accepts accepts⟩
      · have isStored : p ∈ c.registry.profiles := by
          rcases known with isStored | ⟨n, ls, due, about⟩
          · exact isStored
          · have agrees := tame.coherent.agrees n ls due
            rcases about with rfl | rfl
            · exact agrees
            · exact agrees
        exact .inl ⟨p, isStored, uuid, fun _ => accepts⟩
      · obtain ⟨p, isStored, uuid, accepts⟩ := backed.own id u d due found
        exact .inl ⟨p, isStored, uuid, fun _ => revises.accepts accepts⟩
    · exact absurd tracked (by simp [Device.fresh])
  · exact announces.names spares tame backed there tracked

/-- What a device is to take as its own stays stored: meanwhile only other profiles are added. -/
theorem Step.own_stored (step : Step orderly c s c') (tame : c.Tame)
    (own : ∀ id u d, .adopt id u ∈ c.agenda → c.devices id = some d →
      ∃ p ∈ c.registry.profiles, p.uuid = u ∧ d.accepts p) :
    ∀ id u d, .adopt id u ∈ c'.agenda → c'.devices id = some d →
      ∃ p ∈ c'.registry.profiles, p.uuid = u ∧ d.accepts p := by
  intro id u e due there
  obtain ⟨registry, arises⟩ := step.arises
  cases arises _ due with
  | kept due =>
    rcases step.origin there with ⟨d, found, revises⟩ | ⟨rfl, -⟩
    · obtain ⟨p, isStored, uuid, accepts⟩ := own id u d due found
      refine ⟨p, ?_, uuid, revises.accepts accepts⟩
      rcases registry with same | ⟨n, announces⟩
      · rw [same]
        exact isStored
      · obtain ⟨x, name, rfl⟩ := announces.submission due rfl
        apply announces.effect.kept isStored
        rintro _ ⟨⟩
        exact (tame.coherent.old p isStored).ne x name
    · exact absurd (tame.upkeep.due _ due _ rfl) (Nat.lt_irrefl _)
  | adopt _ found lacks named announces =>
    rcases step.origin there with ⟨d, found', revises⟩ | ⟨rfl, -⟩
    · obtain rfl := Option.some.inj (found.symm.trans found')
      exact ⟨_, announces.effect.agrees, rfl, revises.accepts (maySubmit lacks named).2.accepted⟩
    · exact absurd (tame.upkeep.known _ _ found) (Nat.lt_irrefl _)
  | pursuit isPursuit => exact absurd isPursuit (by simp [Duty.isPursuit])
  | watch isWatch => exact absurd isWatch (by simp [Duty.isWatch])

/-- **Every step keeps the candidates backed**, while nobody but devices calls back. -/
theorem Step.backed (step : Step law c s c') (weaker : ∀ c q, law c q → orderly c q)
    (spares : strict → ∀ c q, law c q → c.Spares q) (tame : c.Tame) (backed : c.Backed strict) :
    c'.Backed strict where
  names := step.names spares tame backed
  own := (step.weaken weaker).own_stored tame backed.own
  identified := by
    intro id e there some_
    rcases step.origin there with ⟨d, found, revises⟩ | ⟨-, -, -, path, g, t, rfl⟩
    · have keeps (known : d.address.isSome ∧ d.capabilities.isEmpty = false) :
          e.address.isSome ∧ e.capabilities.isEmpty = false := by
        obtain ⟨address, capabilities⟩ := revises.identity known.1 known.2
        rw [address, capabilities]
        exact known
      obtain ⟨u, tracked⟩ := List.exists_mem_of_ne_nil _ some_
      rcases revises.gains tracked with before | ⟨p, -, accepts, -⟩ | due
      · exact keeps (backed.identified id d found (List.ne_nil_of_mem before))
      · exact Device.identified_of_accepts accepts
      · obtain ⟨p, -, -, accepts⟩ := backed.own id u d due found
        exact keeps (Device.identified_of_accepts accepts)
    · exact absurd rfl some_
  distinct := by
    intro id e there
    rcases step.origin there with ⟨d, found, revises⟩ | ⟨-, -, -, path, g, t, rfl⟩
    · exact revises.nodup (backed.distinct id d found)
    · exact List.nodup_nil

/-! ## Candidates that stay -/

/-- A device has a profile's UUID as a candidate, and nothing that it is to hear of will take
it off. -/
structure Keeps (id : DeviceId) (d : Device) (u : String) (c : Core) : Prop where
  known : id < c.nextId
  /-- the device is as it was, as far as profiles go, unless it is gone -/
  tracked : ∀ e, c.devices id = some e →
    u ∈ e.candidates ∧ e.address = d.address ∧ e.capabilities = d.capabilities
  calm : ∀ n ls q, .announce n ls ∈ c.agenda → (n = .removed q ∨ n = .updated q) → q.uuid ≠ u

/-- **A device keeps a candidate that nobody updates or removes.** -/
theorem Step.keeps (step : Step (keeping p) c s c') (address : d.address.isSome)
    (capabilities : d.capabilities.isEmpty = false) (keeps : c.Keeps id d p.uuid) :
    c'.Keeps id d p.uuid where
  known := Nat.lt_of_lt_of_le keeps.known step.nextId_le
  tracked := by
    intro e there
    rcases step.origin there with ⟨x, found, revises⟩ | ⟨rfl, -⟩
    · obtain ⟨tracked, sameAddress, sameCapabilities⟩ := keeps.tracked x found
      obtain ⟨hA, hC⟩ := revises.identity (sameAddress ▸ address) (sameCapabilities ▸ capabilities)
      refine ⟨?_, hA.trans sameAddress, hC.trans sameCapabilities⟩
      rcases revises.loses tracked with kept | ⟨n, ls, q, due, about, same⟩
      · exact kept
      · exact absurd same (keeps.calm n ls q due (about.imp_right And.left))
    · exact absurd keeps.known (Nat.lt_irrefl _)
  calm := by
    intro n ls q due about
    cases step.arises.2 _ due with
    | kept due => exact keeps.calm n ls q due about
    | heard ls' due => exact keeps.calm n _ q due about
    | pursuit isPursuit => exact absurd isPursuit (by simp [Duty.isPursuit])
    | watch isWatch => exact absurd isWatch (by simp [Duty.isWatch])
    | announced announces =>
      have known : n.profile? = some q := by rcases about with rfl | rfl <;> rfl
      intro same
      have added : ∃ x, n = .added x := by
        rcases announces.cause with ⟨-, -, r, r', lawful, handled⟩ | ⟨x, name, new, -⟩
        · -- whoever asks for anything under the UUID stores the profile
          have brings := lawful.2 (by rw [Registry.uuid?_of_heard handled known, same])
          exact ⟨p, Registry.added_of_brings handled brings⟩
        · exact ⟨_, new⟩
      obtain ⟨x, rfl⟩ := added
      exact absurd about (by simp)

end Core

namespace Bench

variable {b b' : Bench}

/-! ## Staleness in all runs -/

/-- Candidates are backed in everything that can become of a bench, in the strict sense if no
addition displaces a candidate. -/
theorem Reachable.backed (weaker : ∀ c q, law c q → orderly c q)
    (spares : strict → ∀ c q, law c q → c.Spares q) (reached : Reachable law b) :
    b.host.core.Backed strict := by
  suffices all : b.host.core.Tame ∧ b.host.core.Backed strict from all.2
  refine reached.core_induction (P := fun c => c.Tame ∧ c.Backed strict) ?_ ?_
  · intro isLoaded naming
    exact ⟨Core.tame_opening isLoaded naming, Core.backed_opening isLoaded naming⟩
  · rintro c s c' ⟨tame, backed⟩ step
    exact ⟨(step.weaken weaker).tame tame, step.backed weaker spares tame backed⟩

/-- What a candidate names when nobody is being notified. -/
theorem Reachable.named (weaker : ∀ c q, law c q → orderly c q)
    (spares : strict → ∀ c q, law c q → c.Spares q) (reached : Reachable law b)
    (quiet : b.host.core.isQuiet) (there : b.host.device? id = some d) (tracked : u ∈ d.candidates) :
    ∃ p ∈ b.host.registry.profiles, p.uuid = u ∧ (strict → d.accepts p) :=
  ((reached.backed weaker spares).names id d u there tracked).resolve_right
    (Core.not_doubted_of_quiet quiet)

/-- A candidate is kept for as long as nobody updates or removes what it names. -/
theorem Reaches.keeps (reached : Reachable orderly b) (quiet : b.host.core.isQuiet)
    (there : b.host.device? id = some d) (tracked : p.uuid ∈ d.candidates)
    (run : Reaches (keeping p) b b') : b'.host.core.Keeps id d p.uuid := by
  have backed : b.host.core.Backed False := reached.backed (fun _ _ lawful => lawful) False.elim
  obtain ⟨address, capabilities⟩ := backed.identified id d there (List.ne_nil_of_mem tracked)
  have start : b.host.core.Keeps id d p.uuid := by
    refine ⟨reached.tame.upkeep.known id d there, ?_, ?_⟩
    · rintro e found
      obtain rfl := Option.some.inj (there.symm.trans found)
      exact ⟨tracked, rfl, rfl⟩
    · intro n ls q due
      exact absurd (List.all_eq_true.1 quiet _ due) (by simp [Duty.isPursuit])
  refine (run.runs reached.pursuitsLast).preserves (P := Core.Keeps id d p.uuid) ?_ start
  intro c s c' keeps step
  exact step.keeps address capabilities keeps

/-- A candidate that names a profile is up to date if and only if the device accepted that profile
when it came. -/
theorem Reaches.serves_iff (reached : Reachable orderly b) (quiet : b.host.core.isQuiet)
    (there : b.host.device? id = some d) (tracked : p.uuid ∈ d.candidates)
    (run : Reaches (keeping p) b b') (isStored : p ∈ b'.host.registry.profiles)
    (after : b'.host.device? id = some e) :
    p.uuid ∈ e.candidates ∧ (b'.host.registry.Serves e p.uuid ↔ d.accepts p) := by
  obtain ⟨kept, address, capabilities⟩ := (run.keeps reached quiet there tracked).tracked e after
  have distinct : (b'.host.registry.profiles.map (·.uuid)).Nodup :=
    (reached.trans (run.weaken fun _ _ lawful => lawful.1)).tame.coherent.distinct
  rw [← Device.accepts_congr address capabilities]
  refine ⟨kept, ?_, fun accepts => ⟨p, isStored, rfl, accepts⟩⟩
  rintro ⟨q, mem, uuid, accepts⟩
  obtain rfl := List.inj_on_of_nodup_map distinct mem isStored uuid
  exact accepts

/-- **When candidates are up to date.** As long as only devices call back into the registry, in every state in
which nobody is being notified a candidate is the UUID of a stored profile, and the device accepts that profile
if no insertion took the place of a stored profile under the UUID of a candidate (`sparing`). An insertion that
did is announced by an `Added` notification alone, and a device takes no candidate off for that: the candidate
remains, and while the new profile stays as it is (`keeping`) the candidate is up to date if and only if the
device accepts that profile. -/
theorem serves_of_mem_candidates (reached : Reachable orderly b) (quiet : b.host.core.isQuiet)
    (there : b.host.device? id = some d) (tracked : u ∈ d.candidates) :
    (∃ p ∈ b.host.registry.profiles, p.uuid = u) ∧
    (Reachable sparing b → b.host.registry.Serves d u) ∧
    ∀ p, p.uuid = u → ∀ b' e, Reaches (keeping p) b b' → p ∈ b'.host.registry.profiles →
      b'.host.device? id = some e →
      u ∈ e.candidates ∧ (b'.host.registry.Serves e u ↔ d.accepts p) := by
  refine ⟨?_, ?_, ?_⟩
  · obtain ⟨p, isStored, uuid, -⟩ :=
      reached.named (fun _ _ lawful => lawful) False.elim quiet there tracked
    exact ⟨p, isStored, uuid⟩
  · intro spared
    obtain ⟨p, isStored, uuid, accepts⟩ :=
      spared.named (fun _ _ lawful => lawful.1) (fun _ _ _ lawful => lawful.2) quiet there tracked
    exact ⟨p, isStored, uuid, accepts trivial⟩
  · rintro p rfl b' e run isStored after
    exact run.serves_iff reached quiet there tracked isStored after

/-- The profile of another device. -/
def misfit : Profile := dialUp .zero

/-- A bench where the profile of another device takes the place of the only candidate. -/
def displaced : Bench := matched.makeAll [.step (.command (.request (.insert misfit))), .act, .act]

theorem reaches_displaced {law : Law} (lawful : law matched.host.core (.insert misfit)) :
    Reaches law matched displaced := by
  apply reaches_makeAll
  intro x asked
  obtain rfl := List.mem_singleton.1 asked
  exact lawful

theorem orderly_insert_misfit : orderly matched.host.core (.insert misfit) := by
  refine ⟨rfl, ?_⟩
  rintro p ⟨⟩
  exact Core.old_of_head? rfl (by decide)

/-- A profile of another device is inserted under the UUID of the only candidate: the device keeps the
candidate, does not accept the profile, and passes for usable. -/
theorem stale_displaced :
    Reachable orderly displaced ∧ displaced.host.core.isQuiet ∧
      ∃ d, displaced.host.device? 0 = some d ∧ d.candidates = ["u"] ∧ d.usable = true ∧
        ¬ displaced.host.registry.Serves d "u" := by
  have reached : Reachable orderly displaced :=
    (reachable_matched orderly_insert_fitting).trans (reaches_displaced orderly_insert_misfit)
  refine ⟨reached, by rfl, _, (Option.some_get (by rfl)).symm, by rfl, by rfl, ?_⟩
  rintro ⟨p, isStored, -, accepts⟩
  obtain rfl : p = misfit := List.mem_singleton.1 isStored
  exact absurd accepts (by decide)

/-- A candidate is up to date on a bench where nothing was displaced, and is not where a profile of another
device took its place. -/
theorem serves_matched :
    ∃ d e, matched.host.device? 0 = some d ∧ matched.host.registry.Serves d "u" ∧
      displaced.host.device? 0 = some e ∧ "u" ∈ e.candidates ∧
      (displaced.host.registry.Serves e "u" ↔ d.accepts misfit) := by
  have there : matched.host.device? 0 = some ((matched.host.device? 0).get (by rfl)) :=
    (Option.some_get _).symm
  have after : displaced.host.device? 0 = some ((displaced.host.device? 0).get (by rfl)) :=
    (Option.some_get _).symm
  have tracked : "u" ∈ ((matched.host.device? 0).get (by rfl)).candidates := List.mem_singleton.2 rfl
  obtain ⟨-, serves, stays⟩ :=
    serves_of_mem_candidates (reachable_matched orderly_insert_fitting) (by rfl) there tracked
  refine ⟨_, _, there, serves (reachable_matched ⟨orderly_insert_fitting, ?_⟩), after, ?_⟩
  · -- no device is there yet whose candidate the profile could displace
    intro r p handled id d found
    rw [core_opening] at found
    exact absurd found (by simp [Core.opening])
  · have run : Reaches (keeping misfit) matched displaced :=
      reaches_displaced ⟨orderly_insert_misfit, fun _ => rfl⟩
    exact stays misfit rfl displaced _ run (List.mem_singleton.2 rfl) after

end Bench

end Piconet
