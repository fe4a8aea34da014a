import Piconet.Proofs.Listening
import Piconet.Proofs.AddressSlice

/-!
# What of a registry concerns one address

Of all that a registry stores only some concerns the devices that go by one address: the profiles that
are bound to it, and whatever else is stored under their UUIDs. `AddressScope` draws the line.
`AddressScope.Shows` says what of a core is inside, as a slice.

Nothing crosses the line as long as all that is for the address goes by UUIDs of the address scope
(`AddressScope.Sealed`), which every step keeps (`AddressScope.Sealed.step`). Devices make the same of a registry
and of a request whether they see all of it or only what is inside (`Device.survey_filter`,
`Registry.handle_among`), and nothing of the rest (`Device.hear_foreign`, `Registry.handle_foreign`).
-/

namespace Piconet

open Function (update)
open Bench (shut)

/-! ## Profiles that concern an address -/

/-- A profile is bound to the device with an address. -/
def Profile.isFor (p : Profile) (a : HwAddress) : Bool := p.bluetooth.any (·.bdaddr = a.toList)

/-- A profile that was submitted for one address is for no other. -/
theorem Profile.isFor_forAccessPoint {u name : String} {a b : HwAddress}
    (bound : (Profile.forAccessPoint u name a).isFor b = true) : a = b :=
  HwAddress.toList_injective (by simpa [isFor, forAccessPoint] using bound)

/-- The profile that a request is about, if it names one. -/
def Registry.Request.profile? : Registry.Request → Option Profile
  | .insert p | .update p | .submit p => some p
  | .remove _ | .markLoaded | .reject _ => none

/-- A change is about none but some UUIDs. -/
def Registry.Notice.concerns (n : Registry.Notice) (ours : String → Bool) : Bool :=
  n.profile?.all fun p => ours p.uuid

/-- A request is about none but some UUIDs. -/
def Registry.Request.concerns (q : Registry.Request) (ours : String → Bool) : Bool := q.uuid?.all ours

/-- What of a registry goes by some UUIDs. -/
def Registry.among (r : Registry) (ours : String → Bool) : Registry :=
  { r with profiles := r.profiles.filter fun p => ours p.uuid, submissions := 0 }

namespace Registry

variable {r r' : Registry} {q : Request} {n : Notice} {p : Profile} {ours : String → Bool}

/-- What is announced is about the profile of the request, or about one that is stored. -/
theorem profile_of_heard (handled : r.handle q = (r', some n)) (about : n.profile? = some p) :
    q.profile? = some p ∨ p ∈ r.profiles := by
  cases q with
  | insert x =>
    obtain rfl := Option.some.inj (congrArg Prod.snd handled :)
    exact .inl about
  | update x =>
    simp only [handle] at handled
    split at handled
    · obtain rfl := Option.some.inj (congrArg Prod.snd handled :)
      exact .inl about
    · exact absurd handled (by simp)
  | remove u =>
    simp only [handle] at handled
    split at handled
    · next x found =>
      obtain rfl := Option.some.inj (congrArg Prod.snd handled :)
      obtain rfl := Option.some.inj about
      exact .inr (mem_of_get? found).1
    · exact absurd handled (by simp)
  | submit x =>
    simp only [handle] at handled
    split at handled
    · exact absurd handled (by simp)
    · obtain rfl := Option.some.inj (congrArg Prod.snd handled :)
      exact .inl about
  | markLoaded =>
    simp only [handle] at handled
    split at handled
    · exact absurd handled (by simp)
    · obtain rfl := Option.some.inj (congrArg Prod.snd handled :)
      exact absurd about (by simp [Notice.profile?])
  | reject why => exact absurd (congrArg Prod.snd handled) (by simp [handle])

/-- What is announced is about the UUID that the request names. -/
theorem concerns_notice (handled : (r.handle q).2 = some n) : n.concerns ours = q.concerns ours := by
  cases q with
  | insert p =>
    obtain rfl := Option.some.inj handled
    rfl
  | update p =>
    simp only [handle] at handled
    split at handled
    · obtain rfl := Option.some.inj handled
      rfl
    · exact absurd handled (by simp)
  | remove u =>
    simp only [handle] at handled
    split at handled
    · next p found =>
      obtain rfl := Option.some.inj handled
      exact congrArg ours (mem_of_get? found).2
    · exact absurd handled (by simp)
  | submit p =>
    simp only [handle] at handled
    split at handled
    · exact absurd handled (by simp)
    · obtain rfl := Option.some.inj handled
      rfl
  | markLoaded =>
    simp only [handle] at handled
    split at handled
    · exact absurd handled (by simp)
    · obtain rfl := Option.some.inj handled
      rfl
  | reject why => exact absurd handled (by simp [handle])

/-- What the registry has under a UUID of the scope is inside. -/
theorem get?_among {u : String} (mine : ours u = true) : (r.among ours).get? u = r.get? u := by
  rw [get?, get?, among, List.find?_filter]
  congr 1
  funext p
  by_cases same : p.uuid = u
  · simp [same, mine]
  · simp [same]

/-- To insert a profile of the scope does the same inside. -/
theorem insert_among (mine : ours p.uuid = true) :
    ((r.among ours).insert p).profiles = ((r.insert p).among ours).profiles := by
  simp only [insert, among, List.filter_append, List.filter_filter]
  congr 1
  · exact List.filter_congr fun x _ => Bool.and_comm _ _
  · simp [mine]

/-- **A request is handled in the same way by what goes by its UUID.** -/
theorem handle_among (mine : q.concerns ours = true) :
    ((r.among ours).handle q).2 = (r.handle q).2 ∧
      { ((r.among ours).handle q).1 with submissions := 0 } = (r.handle q).1.among ours := by
  cases q with
  | insert p => exact ⟨rfl, congrArg (fun ps => { r with profiles := ps, submissions := 0 }) (insert_among mine)⟩
  | update p =>
    have same : (r.among ours).contains p.uuid = r.contains p.uuid := congrArg Option.isSome (get?_among mine)
    simp only [handle, same]
    split
    · refine ⟨rfl, congrArg (fun ps => { r with profiles := ps, submissions := 0 }) ?_⟩
      simp only [replace, among, List.filter_map]
      congr 1
      refine List.filter_congr fun x _ => ?_
      simp only [Function.comp_apply]
      split
      · next same => rw [same]
      · rfl
    · exact ⟨rfl, rfl⟩
  | remove u =>
    simp only [handle, get?_among (r := r) mine]
    split
    · refine ⟨rfl, congrArg (fun ps => { r with profiles := ps, submissions := 0 }) ?_⟩
      simp only [erase, among, List.filter_filter]
      exact List.filter_congr fun x _ => Bool.and_comm _ _
    · exact ⟨rfl, rfl⟩
  | submit p =>
    simp only [handle]
    have same : (r.among ours).rejection = r.rejection := rfl
    rw [same]
    split
    · exact ⟨rfl, rfl⟩
    · exact ⟨rfl, congrArg (fun ps => { r with profiles := ps, submissions := 0 }) (insert_among mine)⟩
  | markLoaded =>
    simp only [handle]
    have same : (r.among ours).loaded = r.loaded := rfl
    rw [same]
    split
    · exact ⟨rfl, rfl⟩
    · exact ⟨rfl, rfl⟩
  | reject why => exact ⟨rfl, rfl⟩

/-- A profile outside may be left out before or after. -/
theorem among_spare {u : String} (foreign : ours u = false) (ps : List Profile) :
    (ps.filter (·.uuid ≠ u)).filter (fun p => ours p.uuid) = ps.filter fun p => ours p.uuid := by
  rw [List.filter_filter]
  refine List.filter_congr fun x _ => ?_
  by_cases same : x.uuid = u
  · simp [same, foreign]
  · simp [same]

/-- To insert any other profile is not seen inside. -/
theorem among_insert (foreign : ours p.uuid = false) : (r.insert p).among ours = r.among ours := by
  refine congrArg (fun ps => { r with profiles := ps, submissions := 0 }) ?_
  simp only [insert, List.filter_append, among_spare foreign]
  simp [foreign]

/-- **A request about another UUID** shows nowhere. -/
theorem handle_foreign (foreign : q.concerns ours = false) : (r.handle q).1.among ours = r.among ours := by
  cases q with
  | insert p => exact among_insert foreign
  | update p =>
    simp only [handle]
    split
    · refine congrArg (fun ps => { r with profiles := ps, submissions := 0 }) ?_
      have outside : ours p.uuid = false := foreign
      have kept (x : Profile) : ours (if x.uuid = p.uuid then p else x).uuid = ours x.uuid := by
        split
        · next same => rw [same]
        · rfl
      simp only [replace, List.filter_map, Function.comp_def, kept]
      refine (List.map_congr_left fun x mem => ?_).trans (List.map_id _)
      have mine : ours x.uuid = true := (List.mem_filter.1 mem).2
      refine if_neg fun same => ?_
      rw [same, outside] at mine
      exact absurd mine (by simp)
    · rfl
  | remove u =>
    simp only [handle]
    split
    · exact congrArg (fun ps => { r with profiles := ps, submissions := 0 }) (among_spare foreign _)
    · rfl
  | submit p =>
    simp only [handle]
    split
    · rfl
    · exact among_insert (r := r.countSubmission) foreign
  | markLoaded | reject => exact absurd foreign (by simp [Request.concerns, Request.uuid?])

end Registry

/-! ## What devices make of others' profiles -/

namespace Device

variable {d : Device} {stored : List Profile} {ours : String → Bool} {n : Registry.Notice}

/-- A device overlooks what it does not accept. -/
theorem survey_filter (mine : ∀ p ∈ stored, d.accepts p → ours p.uuid) :
    d.survey (stored.filter fun p => ours p.uuid) = d.survey stored := by
  rw [survey, survey]
  induction stored generalizing d with
  | nil => rfl
  | cons p ps ih =>
    have later {e : Device} (same : ∀ q, e.accepts q = d.accepts q) :
        ∀ q ∈ ps, e.accepts q → ours q.uuid := by
      intro q mem accepts
      rw [same] at accepts
      exact mine q (List.mem_cons_of_mem _ mem) accepts
    rw [List.filter_cons, List.foldl_cons, ← ih]
    · split
      · rfl
      · next foreign =>
        have rejects : ¬ d.accepts p := fun accepts => foreign (mine p List.mem_cons_self accepts)
        rw [getD_adopt?, if_neg rejects]
    · refine later fun q => ?_
      rw [getD_adopt?]
      split
      · rw [track_eq]
        exact accepts_congr rfl rfl q
      · rfl

/-- A device that only accepts profiles of the scope makes the same of a notification. -/
theorem hear_among (mine : ∀ p ∈ stored, d.accepts p → ours p.uuid) :
    d.hear (stored.filter fun p => ours p.uuid) n = d.hear stored n := by
  cases n with
  | loaded => exact congrArg some (survey_filter mine)
  | added | removed | updated => rfl

/-- It makes the same of what discovery tells it. -/
theorem learn_among (t : Tiding)
    (mine : ∀ p ∈ stored, (d.learn stored t).1.accepts p → ours p.uuid) :
    d.learn (stored.filter fun p => ours p.uuid) t = d.learn stored t := by
  have surveyed (b : PropertyBatch) (same : ∀ p, (d.learn stored t).1.accepts p = (d.merge b).accepts p) :
      (d.merge b).survey (stored.filter fun p => ours p.uuid) = (d.merge b).survey stored := by
    refine survey_filter fun p mem accepts => mine p mem ?_
    rwa [same]
  cases t with
  | bus | power | report => rfl
  | batch b =>
    rw [learn, learn]
    split
    · next changed =>
      rw [surveyed b fun p => ?_]
      rw [learn, if_pos changed, survey_eq]
      exact accepts_congr rfl rfl p
    · rfl
  | fetch b =>
    rw [learn, learn, surveyed b fun p => ?_]
    rw [learn, survey_eq]
    exact accepts_congr rfl rfl p

/-- A device is deaf to what is neither for it nor one of its candidates. -/
theorem hear_foreign (foreign : n.concerns ours = false)
    (mine : ∀ p, n.profile? = some p → d.accepts p → ours p.uuid)
    (tracked : ∀ u ∈ d.candidates, ours u) : d.hear stored n = none := by
  have outside {p : Profile} (about : n.profile? = some p) : ours p.uuid = false := by
    simpa [Registry.Notice.concerns, about] using foreign
  have rejects {p : Profile} (about : n.profile? = some p) : d.accepts p = false := by
    refine Bool.eq_false_iff.2 fun accepts => ?_
    exact absurd (mine p about accepts) (by simp [outside about])
  have forgets {p : Profile} (about : n.profile? = some p) : d.forget? p = none := by
    refine forget?_eq_none.2 fun mem => ?_
    exact absurd (tracked p.uuid mem) (by simp [outside about])
  cases n with
  | added p => simp [hear, adopt?, rejects rfl]
  | removed p => exact forgets rfl
  | updated p => simp [hear, rejects rfl, forgets rfl]
  | loaded => exact absurd foreign (by simp [Registry.Notice.concerns, Registry.Notice.profile?])

end Device

/-! ## Address scopes -/

/-- An address, the devices that have it, each under a number of its own, and the UUIDs of the profiles that
are for them. -/
structure AddressScope where
  address : HwAddress
  /-- where the UUIDs of submitted profiles come from -/
  naming : Naming
  inside : DeviceId → Bool
  name : DeviceId → DeviceId
  ours : String → Bool
  distinct : ∀ i j, inside i → inside j → name i = name j → i = j

variable {c c' : Core} {s : Option (DeviceId × Profile)} {i : DeviceId} {d : Device} {p : Profile}
  {n : Registry.Notice}

namespace AddressScope

variable (S : AddressScope)

/-! ### What is inside -/

/-- A listener, if it is inside. -/
def listener? : Listener → Option Listener
  | .device i => if S.inside i then some (.device (S.name i)) else none
  | .watcher _ => none

/-- What of a duty is inside. -/
def duty? : Duty → Option Duty
  | .announce n ls => if n.concerns S.ours then some (.announce n (ls.filterMap S.listener?)) else none
  | .reassess i => if S.inside i then some (.reassess (S.name i)) else none
  | .adopt i uuid => if S.inside i then some (.adopt (S.name i) uuid) else none
  | .conclude i => if S.inside i then some (.conclude (S.name i)) else none
  | .react .. | .perform .. | .record .. | .pursue _ => none

/-- A deed is done inside: it is about a device there, or the registry is asked for something that is
about none but its profiles. -/
def keeps (deed : Deed) : Bool := deed.device?.all S.inside && deed.request?.all (·.concerns S.ours)

theorem keeps_of_device? {deed : Deed} (about : deed.device? = some i) : S.keeps deed = S.inside i := by
  cases deed with
  | request => exact absurd about (by simp [Deed.device?])
  | _ =>
    obtain rfl := Option.some.inj about
    exact Bool.and_true _

/-- The deeds that are done inside, told by the names there. -/
def told (ds : List Deed) : List Deed := (ds.filter S.keeps).map (Deed.rename S.name)

/-- The listeners that are inside. -/
def listeners (c : Core) : List Listener := (c.subscriptions.map (·.listener)).filterMap S.listener?

/-- What of a core is inside. -/
structure Shows (c : Core) (o : AddressSlice) : Prop where
  devices : ∀ i, S.inside i → o.devices (S.name i) = c.devices i
  listeners : o.listeners = S.listeners c
  naming : o.naming = c.naming
  registry : o.registry = c.registry.among S.ours
  submitted : o.submitted = c.submitted.count S.address
  agenda : o.agenda = c.agenda.filterMap S.duty?

/-- Somebody inside was told something. -/
def Summons (c : Core) : Prop := ∃ i, S.inside i ∧ c.Summoned i

/-- What of a core is inside, and whether somebody there was told something. -/
structure Mirrors (c : Core) (o : AddressSlice) : Prop extends S.Shows c o where
  summoned : o.summoned = true ↔ S.Summons c

/-! ### What holds of it -/

/-- Whoever has the address is inside, and no one else. -/
def Fits (c : Core) : Prop :=
  ∀ i d k, c.devices i = some d → d.address = some k → (k.bytes = S.address ↔ S.inside i)

/-- Profiles for the address go by the UUIDs of the address scope. -/
def Owns (p : Profile) : Prop := p.isFor S.address → S.ours p.uuid

/-- Requests are about profiles that do. -/
def law : Core → Registry.Request → Prop := fun _ q => ∀ p, q.profile? = some p → S.Owns p

/-- Profiles that were submitted for the address go by UUIDs of the address scope. -/
def Covers (n : Nat) : Prop := ∀ m < n, S.ours (S.naming.uuid S.address (m + 1))

/-- Nothing that is for the address goes by a UUID of others. -/
structure Sealed (c : Core) : Prop where
  naming : c.naming = S.naming
  stored : ∀ p ∈ c.registry.profiles, S.Owns p
  announced : ∀ n ls, .announce n ls ∈ c.agenda → ∀ p, n.profile? = some p → S.Owns p
  owed : ∀ i u, .adopt i u ∈ c.agenda → S.inside i → S.ours u
  tracked : ∀ i d, c.devices i = some d → S.inside i → ∀ u ∈ d.candidates, S.ours u

theorem sealed_opening (isLoaded : Bool) : S.Sealed (.opening isLoaded S.naming) where
  naming := rfl
  stored _ mem := absurd mem (by simp [Core.opening])
  announced _ _ mem := absurd mem (by simp [Core.opening])
  owed _ _ mem := absurd mem (by simp [Core.opening])
  tracked _ _ found := absurd found (by simp [Core.opening])

variable {S}

theorem Covers.mono {m n : Nat} (covers : S.Covers n) (fewer : m ≤ n) : S.Covers m :=
  fun k below => covers k (Nat.lt_of_lt_of_le below fewer)

namespace Fits

variable (fits : S.Fits c) (found : c.devices i = some d)

include fits found

/-- The devices of the scope go by its address. -/
theorem binAddress_of_inside (mine : S.inside i) (addressed : d.address.isSome) : d.binAddress = S.address := by
  obtain ⟨k, known⟩ := Option.isSome_iff_exists.1 addressed
  rw [Device.binAddress, known]
  exact (fits i d k found known).2 mine

/-- Those that go by its address are of the scope. -/
theorem inside_of_binAddress (addressed : d.address.isSome) (same : d.binAddress = S.address) : S.inside i := by
  obtain ⟨k, known⟩ := Option.isSome_iff_exists.1 addressed
  rw [Device.binAddress, known] at same
  exact (fits i d k found known).1 same

/-- What a device inside accepts is for the address. -/
theorem isFor (mine : S.inside i) (accepts : d.accepts p) : p.isFor S.address := by
  obtain ⟨-, addressed, b, bound, same, -⟩ := Device.accepts_iff.1 accepts
  rw [fits.binAddress_of_inside found mine addressed] at same
  simp [Profile.isFor, bound, same]

end Fits

/-- What a device submits inside goes by a UUID of the address scope. -/
theorem Covers.owns (covers : S.Covers (c.submitted.count S.address + 1)) (source : c.naming = S.naming)
    (d : Device) (name : String) :
    S.Owns (c.profileFor d name) := by
  intro bound
  have same : d.binAddress = S.address := Profile.isFor_forAccessPoint bound
  change S.ours (c.naming.uuid d.binAddress (c.submitted.count d.binAddress + 1))
  rw [same, source]
  exact covers _ (Nat.lt_succ_self _)

/-- Whatever is announced goes by a UUID of the address scope if it is for the address. -/
theorem Sealed.announces (sealed : S.Sealed c) (announces : Core.Announces S.law c c' n)
    (covers : S.Covers (c'.submitted.count S.address)) (about : n.profile? = some p) : S.Owns p := by
  rcases announces.cause with ⟨-, -, q, r, lawful, handled⟩ | ⟨d, name, rfl, more⟩
  · rcases Registry.profile_of_heard handled about with named | mem
    · exact lawful p named
    · exact sealed.stored p mem
  · obtain rfl := Option.some.inj about
    intro bound
    have same : d.binAddress = S.address := Profile.isFor_forAccessPoint bound
    refine Covers.owns (covers.mono (Nat.le_of_eq ?_)) sealed.naming d name bound
    rw [more, same, List.count_append, List.count_singleton_self]

/-- **Every step keeps the address scope sealed.** -/
theorem Sealed.step (sealed : S.Sealed c) (step : Core.Step S.law c s c') (fits : S.Fits c) (fits' : S.Fits c')
    (covers : S.Covers (c'.submitted.count S.address)) : S.Sealed c' := by
  obtain ⟨registry, arises⟩ := step.arises
  refine ⟨step.naming.trans sealed.naming, ?_, ?_, ?_, ?_⟩
  · intro p mem
    rcases registry with same | ⟨n, announces⟩
    · exact sealed.stored p (same ▸ mem)
    · rcases announces.effect.mem mem with new | ⟨before, -⟩
      · refine sealed.announces announces covers (p := p) ?_
        rcases new with rfl | rfl <;> rfl
      · exact sealed.stored p before
  · intro n ls mem p about
    cases arises _ mem with
    | kept due => exact sealed.announced n ls due p about
    | heard _ due => exact sealed.announced n _ due p about
    | announced announces => exact sealed.announces announces covers about
    | pursuit isPursuit => exact absurd isPursuit (by simp [Duty.isPursuit])
    | watch isWatch => exact absurd isWatch (by simp [Duty.isWatch])
  · intro i u mem mine
    cases arises _ mem with
    | kept due => exact sealed.owed i u due mine
    | @adopt _ d name _ found lacks due announces =>
      refine sealed.announces announces covers rfl ?_
      exact fits.isFor found mine (Core.maySubmit lacks due).2.accepted
    | pursuit isPursuit => exact absurd isPursuit (by simp [Duty.isPursuit])
    | watch isWatch => exact absurd isWatch (by simp [Duty.isWatch])
  · intro i e there mine u tracked
    rcases step.origin there with ⟨d, found, revises⟩ | ⟨-, -, -, path, g, t, rfl⟩
    · rcases revises.gains tracked with before | ⟨p, source, accepts, rfl⟩ | owed
      · exact sealed.tracked i d found mine u before
      · have owns : S.Owns p := by
          rcases source with isStored | ⟨n, ls, due, about⟩
          · exact sealed.stored p isStored
          · refine sealed.announced n ls due p ?_
            rcases about with rfl | rfl <;> rfl
        exact owns (fits'.isFor there mine accepts)
      · exact sealed.owed i u owed mine
    · exact absurd tracked List.not_mem_nil

end AddressScope

/-! ## What holds at all times -/

namespace Core

variable {law : Core → Registry.Request → Prop}

/-- A device is assessed at once. -/
def Prompt (c : Core) : Prop := ∀ i, .reassess i ∉ c.agenda.tail

theorem prompt_opening (isLoaded : Bool) (naming : Naming) : (opening isLoaded naming).Prompt :=
  fun _ => List.not_mem_nil

theorem not_mem_of_isPursuit {ds : List Duty} (pursuits : ds.all Duty.isPursuit) : .reassess i ∉ ds :=
  fun mem => absurd (List.all_eq_true.1 pursuits _ mem) (by simp [Duty.isPursuit])

theorem not_mem_of_isWatch {ds : List Duty} (watch : ds.all Duty.isWatch) : .reassess i ∉ ds :=
  fun mem => absurd (List.all_eq_true.1 watch _ mem) (by simp [Duty.isWatch])

/-- When something comes in from outside no device is being assessed. -/
theorem Prompt.not_mem_of_isOpen (prompt : c.Prompt) (isOpen : c.isOpen) : .reassess i ∉ c.agenda := by
  rcases (Bool.or_eq_true _ _).mp isOpen with quiet | watch
  · exact not_mem_of_isPursuit quiet
  · cases next : c.agenda with
    | nil => exact List.not_mem_nil
    | cons duty ds =>
      have after := prompt i
      rw [next] at after watch
      rintro (_ | ⟨_, mem⟩)
      · exact absurd watch (by simp [Duty.isWatch])
      · exact after mem

/-- Whoever is to be assessed is assessed next. -/
theorem Step.prompt (step : Step law c s c') (prompt : c.Prompt) : c'.Prompt := by
  intro i
  have rest {duty : Duty} {ds : List Duty} (next : c.agenda = duty :: ds) : .reassess i ∉ ds := by
    have after := prompt i
    rwa [next] at after
  have tail {ds : List Duty} (none : .reassess i ∉ ds) : .reassess i ∉ ds.tail :=
    fun mem => none (List.mem_of_mem_tail mem)
  cases step with
  | create | destroy | enlist | cancel | receivers | reported | startRun | endRuns | comeUp | session
  | edit | findPower | requestUnheard => exact prompt i
  | defer ds quiet pursuits => exact tail (not_mem_of_isPursuit pursuits)
  | summon j d quiet => exact not_mem_of_isPursuit quiet
  | request q r n lives isOpen => exact prompt.not_mem_of_isOpen isOpen
  | heardByAll _ _ next | late _ _ _ next | decide _ _ _ _ next | adopt _ _ _ _ next
  | conclude _ _ _ next => exact tail (rest next)
  | watched n w ls ds ws next watch =>
    exact tail (by simp [not_mem_of_isWatch watch, rest next])
  | turn duty ds ws next isWatch watch =>
    exact tail (by simp [not_mem_of_isWatch watch, rest next])
  | unmoved _ _ _ _ next | concede _ _ _ next | turnedDown _ _ _ _ _ next => exact rest next
  | moved _ _ _ _ _ _ next | handedIn _ _ _ _ _ next => simp [rest next]

/-- What holds of a core at all times. -/
structure Regular (c : Core) : Prop where
  upkeep : c.Upkeep
  listening : c.Listening
  subscribed : c.Subscribed
  prompt : c.Prompt

theorem regular_opening (isLoaded : Bool) (naming : Naming) : (opening isLoaded naming).Regular :=
  ⟨upkeep_opening isLoaded naming, listening_opening isLoaded naming, subscribed_opening isLoaded naming,
    prompt_opening isLoaded naming⟩

/-- What the comparison needs of a core is kept by every step. -/
theorem Step.regular (step : Step law c s c') (regular : c.Regular) : c'.Regular where
  upkeep := step.upkeep regular.upkeep
  listening := step.listening regular.upkeep regular.listening
  subscribed := step.subscribed regular.subscribed
  prompt := step.prompt regular.prompt

end Core

end Piconet
