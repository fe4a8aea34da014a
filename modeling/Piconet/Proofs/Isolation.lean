import Piconet.Proofs.DeedsOfMoves

/-!
# Devices are isolated from each other

All devices share one registry, but a profile is bound to an address, and a device tracks only profiles
for its own. So whatever a run does to devices with other addresses, and to profiles whose UUIDs are never
used for this address, can be left out: a device comes to the same candidates, the same provisioned profile
and the same usability, and publishes the same events (`Bench.isolated`).

A run is told by its deeds. What of a run concerns one address is a path of the slice there
(`AddressScope.leads`), and a path is settled by its deeds. Two runs with the same deeds for the address, as
one that does everything and one that does nothing else, come to the same.
-/

namespace Piconet

open Function (update)
open AddressSlice (Path)

variable {S : AddressScope} {c c' : Core} {s : Option (DeviceId × Profile)} {i id : DeviceId} {d e : Device}
  {o o' : AddressSlice} {deed : Deed} {ds ds' : List Deed} {es : List Event} {roster : String → Prop}
  {law : Core → Registry.Request → Prop}

/-! ## What devices know of their addresses -/

namespace Core

/-- What goes on is a step of the core. -/
theorem Proceeds.step (proceeds : Proceeds roster c s c') : Step law c s c' :=
  proceeds.change.mono (fun _ _ none => none.elim) (Scope.within_wide _)

/-- It is a step whatever the callers ask of the registry. -/
theorem Proceeds.free (proceeds : Proceeds roster c s c') : Step Bench.free c s c' := proceeds.step

/-- A history is a run of the core. -/
theorem Unfolds.runs (run : Unfolds roster id c ds es c') : Runs Bench.free c c' := by
  induction run with
  | refl => exact .refl
  | deed deed _ does ih => exact ih.tail ⟨_, does.free⟩
  | assess j _ _ proceeds _ ih => exact ih.tail ⟨_, proceeds.free⟩
  | proceed _ proceeds _ ih => exact ih.tail ⟨_, proceeds.free⟩

/-- Nothing is done and nothing is said when no device changes and none waits. -/
theorem Proceeds.unfolds (proceeds : Proceeds roster c s c') (same : c'.devices = c.devices)
    (waits : ∀ j, ¬ c.Summoned j) (id : DeviceId) : Unfolds roster id c [] [] c' := by
  have run : Unfolds roster id c [] _ c' :=
    Unfolds.refl.proceed proceeds fun j summoned => absurd summoned (waits j)
  rwa [remarked_of_devices same] at run

/-- Regularity is kept in it, as in any run. -/
theorem Unfolds.regular (run : Unfolds roster id c ds es c') (regular : c.Regular) : c'.Regular :=
  run.runs.preserves (fun _ _ _ regular step => step.regular regular) regular

/-- Devices know the first address that they were told. -/
structure Addressed (c : Core) (ds : List Deed) : Prop where
  known : ∀ i d, c.devices i = some d → d.address = ds.findSome? (Deed.address? i)
  /-- nobody has told anything to a device that is still to come -/
  new : ∀ i, c.nextId ≤ i → ds.findSome? (Deed.address? i) = none

/-- Before anything is done no device is there. -/
theorem addressed_opening (isLoaded : Bool) (naming : Naming) : (opening isLoaded naming).Addressed [] where
  known _ _ found := absurd found (by simp [opening])
  new _ _ := rfl

/-- What follows by itself tells nobody an address. -/
theorem Proceeds.address (proceeds : Proceeds roster c s c') (there : c'.devices i = some e) :
    ∃ d, c.devices i = some d ∧ e.address = d.address := by
  have revised {j : DeviceId} {d x : Device} (found : c.devices j = some d)
      (there : update c.devices j (some x) i = some e) (same : x.address = d.address) :
      ∃ d, c.devices i = some d ∧ e.address = d.address := by
    rcases eq_of_update_some there with ⟨rfl, rfl⟩ | ⟨-, kept⟩
    · exact ⟨d, found, same⟩
    · exact ⟨e, kept, rfl⟩
  obtain ⟨change, -, known⟩ := proceeds
  cases change with
  | enlist | cancel | receivers | reported | endRuns | comeUp | defer | heardByAll | watched | turn | unmoved
  | late | concede => exact ⟨e, there, rfl⟩
  | create path g t =>
    rcases known with known | same
    · exact absurd known (Nat.succ_ne_self _)
    · exact ⟨e, (congrFun same i).symm.trans there, rfl⟩
  | destroy j =>
    rcases eq_of_update there with ⟨-, none⟩ | ⟨-, kept⟩
    · exact absurd none (by simp)
    · exact ⟨e, kept, rfl⟩
  | startRun j d found => exact revised found there rfl
  | session _ _ _ _ allowed | summon _ _ _ _ allowed | edit _ _ _ _ _ _ _ _ _ _ allowed
  | findPower _ _ _ _ _ _ _ allowed => exact allowed.elim
  | requestUnheard _ _ _ lawful | request _ _ _ _ _ lawful => exact lawful.elim
  | moved n j ls ds d x next found hears => exact revised found there (by rw [Device.hear_eq hears])
  | decide j d ds usable next found => exact revised found there rfl
  | turnedDown j d ds name why next found => exact revised found there rfl
  | handedIn j d ds name lives next found => exact revised found there rfl
  | adopt j d uuid ds next found => exact revised found there (by rw [Device.track_eq])
  | conclude j d ds next found => exact revised found there rfl

/-- **Deeds tell devices their addresses**, and nothing else does. -/
theorem Does.addressed (does : c.Does deed c') (upkeep : c.Upkeep) (addressed : c.Addressed ds) :
    c'.Addressed (ds ++ [deed]) := by
  -- a deed that tells nobody an address
  have mute (silent : ∀ i, deed.address? i = none) (ids : c.nextId ≤ c'.nextId)
      (devices : ∀ i e, c'.devices i = some e →
        (∃ d, c.devices i = some d ∧ e.address = d.address) ∨ c.nextId ≤ i ∧ e.address = none) :
      c'.Addressed (ds ++ [deed]) := by
    have same (i : DeviceId) : (ds ++ [deed]).findSome? (Deed.address? i) = ds.findSome? (Deed.address? i) := by
      simp [List.findSome?_append, silent]
    refine ⟨fun i e there => ?_, fun i new => ?_⟩
    · rw [same]
      rcases devices i e there with ⟨d, found, kept⟩ | ⟨new, none⟩
      · rw [kept, addressed.known i d found]
      · rw [none, addressed.new i new]
    · rw [same]
      exact addressed.new i (Nat.le_trans ids new)
  have revised {j : DeviceId} {d x : Device} (found : c.devices j = some d) (same : x.address = d.address)
      (i : DeviceId) (e : Device) (there : update c.devices j (some x) i = some e) :
      (∃ d, c.devices i = some d ∧ e.address = d.address) ∨ c.nextId ≤ i ∧ e.address = none := by
    rcases eq_of_update_some there with ⟨rfl, rfl⟩ | ⟨-, kept⟩
    · exact .inl ⟨d, found, same⟩
    · exact .inl ⟨e, kept, rfl⟩
  cases does with
  | create path g t =>
    refine mute (fun _ => rfl) (Nat.le_succ _) fun i e there => ?_
    rcases eq_of_update_some there with ⟨rfl, rfl⟩ | ⟨-, kept⟩
    · exact .inr ⟨Nat.le_refl _, rfl⟩
    · exact .inl ⟨e, kept, rfl⟩
  | destroy j =>
    refine mute (fun _ => rfl) (Nat.le_refl _) fun i e there => ?_
    rcases eq_of_update there with ⟨-, none⟩ | ⟨-, kept⟩
    · exact absurd none (by simp)
    · exact .inl ⟨e, kept, rfl⟩
  | start j d _ found => exact mute (fun _ => rfl) (Nat.le_succ _) (revised found rfl)
  | session j d s _ found => exact mute (fun _ => rfl) (Nat.le_refl _) (revised found rfl)
  | power run j d on _ found => exact mute (fun _ => rfl) (Nat.le_refl _) (revised found rfl)
  | summon | requestUnheard | request =>
    exact mute (fun _ => rfl) (Nat.le_refl _) fun i e there => .inl ⟨e, there, rfl⟩
  | tell j d e es ds' t next quiet found edit learns =>
    have old : j < c.nextId := upkeep.known j d found
    refine ⟨fun i x there => ?_, fun i new => ?_⟩
    · rw [List.findSome?_append]
      rcases eq_of_update_some there with ⟨rfl, rfl⟩ | ⟨other, kept⟩
      · have told := d.address_learn c.registry.profiles t
        rw [learns] at told
        rw [told, addressed.known i d found]
        simp [Deed.address?]
      · rw [addressed.known i x kept]
        simp [Deed.address?, Ne.symm other]
    · have other : j ≠ i := fun same => absurd old (Nat.not_lt.2 (same ▸ new))
      rw [List.findSome?_append, addressed.new i new]
      simp [Deed.address?, other]

/-- In every history a device has the address that its identity gave it last. -/
theorem Unfolds.addressed (run : Unfolds roster id c ds' es c') (regular : c.Regular)
    (addressed : c.Addressed ds) : c'.Addressed (ds ++ ds') := by
  have follows {c₁ c₂ : Core} {s : Option (DeviceId × Profile)} {ds : List Deed}
      (proceeds : Proceeds roster c₁ s c₂) (addressed : c₁.Addressed ds) : c₂.Addressed ds := by
    refine ⟨fun i e there => ?_, fun i new => ?_⟩
    · obtain ⟨d, found, same⟩ := proceeds.address there
      rw [same, addressed.known i d found]
    · exact addressed.new i (Nat.le_trans proceeds.free.nextId_le new)
  induction run with
  | refl => rwa [List.append_nil]
  | deed deed run does ih =>
    rw [← List.append_assoc]
    exact does.addressed (run.regular regular).upkeep ih
  | @assess ds' _ _ _ _ j run summoned proceeds _ ih =>
    have after := follows proceeds ih
    refine ⟨fun i e there => ?_, fun i new => ?_⟩
    · rw [after.known i e there]
      simp [List.findSome?_append, Deed.address?]
    · have none := after.new i new
      simpa [List.findSome?_append, Deed.address?] using none
  | proceed _ proceeds _ ih => exact follows proceeds ih

end Core

/-! ## What a run leads to inside -/

/-- What is inside before anything is done. -/
def AddressSlice.opening (isLoaded : Bool) (naming : Naming) : AddressSlice where
  devices _ := none
  listeners := []
  naming
  registry := { loaded := isLoaded }
  submitted := 0
  agenda := []
  summoned := false
  said := []

namespace AddressScope

/-- The line is drawn where deeds have it: who is told the address is inside and no one else, and so is
every profile that is for the address. -/
structure Suits (S : AddressScope) (ds : List Deed) : Prop where
  lawful : ∀ q, .request q ∈ ds → ∀ p, q.profile? = some p → S.Owns p
  fits : ∀ i k, ds.findSome? (Deed.address? i) = some k → (k.bytes = S.address ↔ S.inside i)

/-- What suits a history suited its beginning. -/
theorem Suits.of_append (suits : S.Suits (ds ++ ds')) : S.Suits ds where
  lawful q mem := suits.lawful q (List.mem_append_left _ mem)
  fits i k told := suits.fits i k (by rw [List.findSome?_append, told]; rfl)

/-- A scope that suits the deeds so far fits the core they led to: it has the devices of its address. -/
theorem Suits.of_addressed (suits : S.Suits ds) (addressed : c.Addressed ds) : S.Fits c := by
  intro i d k found known
  exact suits.fits i k ((addressed.known i d found).symm.trans known)

/-- Fewer submissions are as clear. -/
theorem Clear.mono {as as' : List HwAddress} (clear : S.Clear as') (fewer : as <+: as') : S.Clear as :=
  fun j foreign a other n below =>
    clear j foreign a other n (Nat.lt_of_lt_of_le below (fewer.sublist.count_le a))

/-- What a scope is told of one history after the other is told piece by piece. -/
theorem told_append (S : AddressScope) (ds ds' : List Deed) : S.told (ds ++ ds') = S.told ds ++ S.told ds' := by
  rw [told, told, told, List.filter_append, List.map_append]

/-- A deed that it keeps is told under the device's number there. -/
theorem told_of_kept (kept : S.keeps deed) (ds : List Deed) :
    S.told (ds ++ [deed]) = S.told ds ++ [deed.rename S.name] := by
  rw [told_append]
  simp [told, kept]

/-- A deed about another address is not told at all. -/
theorem told_of_dropped (dropped : S.keeps deed = false) (ds : List Deed) :
    S.told (ds ++ [deed]) = S.told ds := by
  rw [told_append]
  simp [told, dropped]

/-- A scope mirrors the core at the start, where nothing is stored and nobody is there. -/
theorem mirrors_opening (S : AddressScope) (isLoaded : Bool) :
    S.Mirrors (.opening isLoaded S.naming) (.opening isLoaded S.naming) where
  devices _ _ := rfl
  listeners := rfl
  naming := rfl
  registry := rfl
  submitted := rfl
  agenda := rfl
  summoned := by
    refine ⟨fun summoned => absurd summoned (by simp [AddressSlice.opening]), ?_⟩
    rintro ⟨i, -, ds, next, -⟩
    exact absurd next (by simp [Core.opening])

/-- Deeds lead inside to what a core shows, and what a device has said of itself was said there. -/
structure Leads (S : AddressScope) (id : DeviceId) (isLoaded : Bool) (ds : List Deed) (es : List Event) (c : Core)
    (o : AddressSlice) : Prop where
  path : Path S.address (S.name id) (.opening isLoaded S.naming) (S.told ds) o
  mirrors : S.Mirrors c o
  said : o.said = es
  sealed : S.Sealed c

/-- Profiles that were submitted for the address go by UUIDs of the address scope wherever deeds lead to
as many as in a core. -/
def Reserves (S : AddressScope) (id : DeviceId) (isLoaded : Bool) (ds : List Deed) (c : Core) : Prop :=
  ∀ ds₁ o, ds₁ <+: ds → Path S.address (S.name id) (.opening isLoaded S.naming) (S.told ds₁) o →
    o.submitted ≤ c.submitted.count S.address → S.Covers o.submitted

/-- What is reserved for a whole history is reserved for its beginning. -/
theorem Reserves.mono {isLoaded : Bool} (reserves : S.Reserves id isLoaded ds' c') (first : ds <+: ds')
    (fewer : c.submitted <+: c'.submitted) : S.Reserves id isLoaded ds c := fun ds₁ o first' path le =>
  reserves ds₁ o (first'.trans first) path (Nat.le_trans le (fewer.sublist.count_le _))

/-- The two runs start in step. -/
theorem leads_opening (S : AddressScope) (id : DeviceId) (isLoaded : Bool) :
    S.Leads id isLoaded [] [] (.opening isLoaded S.naming) (.opening isLoaded S.naming) :=
  ⟨.refl _, S.mirrors_opening isLoaded, rfl, S.sealed_opening isLoaded⟩

section Lead

variable {isLoaded : Bool} (leads : S.Leads id isLoaded ds es c o) (mine : S.inside id) (regular : c.Regular)
  (fits : S.Fits c) (fits' : S.Fits c')

include leads fits fits'

/-- Where deeds lead to in a step. -/
theorem Leads.extend {es' : List Event} (step : Core.Step S.law c s c')
    (reserves : S.Reserves id isLoaded ds' c')
    (path : Path S.address (S.name id) (.opening isLoaded S.naming) (S.told ds') o')
    (submitted : o'.submitted = c'.submitted.count S.address) (said : o'.said = es')
    (mirrors : S.Covers o'.submitted → S.Mirrors c' o') : S.Leads id isLoaded ds' es' c' o' := by
  have covers := reserves _ o' (List.prefix_refl _) path (Nat.le_of_eq submitted)
  exact ⟨path, mirrors covers, said, leads.sealed.step step fits fits' (submitted ▸ covers)⟩

include mine regular

/-- A deed is done inside, or nothing is seen of it. -/
theorem Leads.does (does : c.Does deed c')
    (lawful : ∀ q, deed = .request q → ∀ p, q.profile? = some p → S.Owns p)
    (reserves : S.Reserves id isLoaded (ds ++ [deed]) c') :
    ∃ o', S.Leads id isLoaded (ds ++ [deed]) (es ++ c.told id deed) c' o' := by
  have step : Core.Step S.law c none c' := does.step lawful
  cases kept : S.keeps deed with
  | true =>
    obtain ⟨left, summoned, mirrors, said⟩ := leads.mirrors.does mine regular fits' leads.sealed does kept
    have said' := said.trans (by rw [leads.said])
    refine ⟨_, leads.extend fits fits' step reserves ?_ mirrors.submitted said' fun _ => mirrors⟩
    rw [told_of_kept kept]
    exact leads.path.trans (.deed _ left summoned (.refl _))
  | false =>
    obtain ⟨mirrors, silent⟩ := leads.mirrors.unseen mine regular does kept
    refine ⟨o, leads.extend fits fits' step reserves ?_ mirrors.submitted ?_ fun _ => mirrors⟩
    · rw [told_of_dropped kept]
      exact leads.path
    · rw [leads.said, silent, List.append_nil]

/-- Something follows by itself. -/
theorem Leads.proceed (proceeds : Core.Proceeds roster c s c') (clear : S.Clear c'.submitted)
    (waits : ∀ j, c.Summoned j → c'.agenda = c.agenda) (reserves : S.Reserves id isLoaded ds c') :
    ∃ o', S.Leads id isLoaded ds (es ++ c.remarked c' id) c' o' := by
  cases leads.mirrors.seen mine regular fits leads.sealed clear proceeds with
  | aside mirrors silent =>
    refine ⟨o, leads.extend fits fits' proceeds.step reserves leads.path mirrors.submitted ?_ fun _ => mirrors⟩
    rw [leads.said, silent, List.append_nil]
  | turn o' turned next submitted said mirrors =>
    have free : o.summoned = false := by
      refine Bool.eq_false_iff.2 fun summoned => ?_
      obtain ⟨i, -, summoned⟩ := leads.mirrors.summoned.1 summoned
      exact turned (waits i summoned)
    refine ⟨o', leads.extend fits fits' proceeds.step reserves ?_ submitted (by rw [said, leads.said]) mirrors⟩
    simpa using leads.path.trans (.turn free next (.refl _))

/-- A device is assessed that was told something. -/
theorem Leads.assess {j : DeviceId} (proceeds : Core.Proceeds roster c s c') (clear : S.Clear c'.submitted)
    (summoned : c.Summoned j) (turned : c'.agenda ≠ c.agenda)
    (reserves : S.Reserves id isLoaded (ds ++ [.assess j]) c') :
    ∃ o', S.Leads id isLoaded (ds ++ [.assess j]) (es ++ c.remarked c' id) c' o' := by
  have kept : S.keeps (.assess j) = S.inside j := S.keeps_of_device? rfl
  -- no one else waits to be assessed
  have free (foreign : S.inside j = false) : o.summoned = false := by
    refine Bool.eq_false_iff.2 fun waits => ?_
    obtain ⟨i, there, ds₁, next, -⟩ := leads.mirrors.summoned.1 waits
    obtain ⟨ds₂, next', -⟩ := summoned
    obtain ⟨⟨rfl⟩, -⟩ := List.cons.inj (next.symm.trans next')
    exact absurd there (by simp [foreign])
  cases leads.mirrors.seen mine regular fits leads.sealed clear proceeds with
  | aside mirrors silent idle =>
    have foreign : S.inside j = false := by
      refine Bool.eq_false_iff.2 fun there => ?_
      have waits := leads.mirrors.summoned.2 ⟨j, there, summoned⟩
      exact absurd waits (by simp [idle.resolve_left turned])
    refine ⟨o, leads.extend fits fits' proceeds.step reserves ?_ mirrors.submitted ?_ fun _ => mirrors⟩
    · rw [told_of_dropped (kept.trans foreign)]
      exact leads.path
    · rw [leads.said, silent, List.append_nil]
  | turn o' turned next submitted said mirrors =>
    refine ⟨o', leads.extend fits fits' proceeds.step reserves ?_ submitted (by rw [said, leads.said]) mirrors⟩
    cases there : S.inside j with
    | true =>
      have waits := leads.mirrors.summoned.2 ⟨j, there, summoned⟩
      obtain ⟨ds₁, first, quiet⟩ := summoned
      have left : o.agenda = [.reassess (S.name j)] := by
        rw [leads.mirrors.agenda, first]
        simp [duty?, there, duty?_of_isPursuit quiet]
      have done : o.after S.address (S.name id) (.assess (S.name j)) = o' := by
        rw [AddressSlice.after, next, Option.getD_some]
      rw [told_of_kept (kept.trans there)]
      exact leads.path.trans (.deed _ left (fun _ => waits) (done ▸ .refl _))
    | false =>
      rw [told_of_dropped (kept.trans there)]
      simpa using leads.path.trans (.turn (free there) next (.refl _))

end Lead

/-- **What of a run is inside an address scope is a path there.** -/
theorem leads {isLoaded : Bool} (run : Core.Unfolds roster id (.opening isLoaded S.naming) ds es c)
    (mine : S.inside id)
    (suits : S.Suits ds) (clear : S.Clear c.submitted) (reserves : S.Reserves id isLoaded ds c) :
    ∃ o, S.Leads id isLoaded ds es c o := by
  have regular {ds : List Deed} {es : List Event} {c : Core}
      (run : Core.Unfolds roster id (.opening isLoaded S.naming) ds es c) : c.Regular :=
    run.regular (Core.regular_opening isLoaded S.naming)
  have fits {ds : List Deed} {es : List Event} {c : Core}
      (run : Core.Unfolds roster id (.opening isLoaded S.naming) ds es c) (suits : S.Suits ds) : S.Fits c :=
    suits.of_addressed
      (run.addressed (Core.regular_opening isLoaded S.naming) (Core.addressed_opening isLoaded S.naming))
  induction run with
  | refl => exact ⟨_, S.leads_opening id isLoaded⟩
  | @deed ds es c₁ c₂ deed run does ih =>
    have fewer := does.free.submitted
    obtain ⟨o, leads⟩ := ih suits.of_append (clear.mono fewer) (reserves.mono (List.prefix_append _ _) fewer)
    refine leads.does mine (regular run) (fits run suits.of_append) (fits (run.deed deed does) suits) does ?_
      reserves
    exact fun q same => suits.lawful q (List.mem_append_right _ (List.mem_singleton.2 same.symm))
  | @assess ds es c₁ c₂ s j run summoned proceeds turned ih =>
    have fewer := proceeds.free.submitted
    obtain ⟨o, leads⟩ := ih suits.of_append (clear.mono fewer) (reserves.mono (List.prefix_append _ _) fewer)
    exact leads.assess mine (regular run) (fits run suits.of_append)
      (fits (run.assess j summoned proceeds turned) suits) proceeds clear summoned turned reserves
  | @proceed ds es c₁ c₂ s run proceeds waits ih =>
    have fewer := proceeds.free.submitted
    obtain ⟨o, leads⟩ := ih suits (clear.mono fewer) (reserves.mono (List.prefix_refl _) fewer)
    exact leads.proceed mine (regular run) (fits run suits) (fits (run.proceed proceeds waits) suits) proceeds
      clear waits reserves

end AddressScope

/-! ## Isolation -/

namespace Deed

/-- A deed whose device keeps its number stays the same. -/
theorem rename_self (deed : Deed) : deed.rename (fun i => i) = deed := by cases deed <;> rfl

/-- A request is about a profile, and so does not depend on numbers of devices. -/
theorem request?_rename (deed : Deed) (f : DeviceId → DeviceId) : (deed.rename f).request? = deed.request? := by
  cases deed <;> rfl

/-- An identity goes to the same device, under its other number. -/
theorem address?_rename (deed : Deed) {f : DeviceId → DeviceId} (apart : Function.Injective f) (i : DeviceId) :
    (deed.rename f).address? (f i) = deed.address? i := by
  cases deed with
  | tell j t => simp [rename, address?, apart.eq_iff]
  | _ => rfl

/-- Who is told an address is the one that the deed is about. -/
theorem device?_of_address? {k : KnownAddress} (told : deed.address? i = some k) :
    deed.device? = some i ∧ deed.request? = none := by
  cases deed with
  | tell j t => exact ⟨congrArg some (Option.ite_none_right_eq_some.1 told).1, rfl⟩
  | _ => exact absurd told (by simp [address?])

/-- What a device is told is not forgotten when only other deeds are left out. -/
theorem findSome?_filter {keep : Deed → Bool}
    (kept : ∀ deed k, deed.address? i = some k → keep deed) (ds : List Deed) :
    (ds.filter keep).findSome? (address? i) = ds.findSome? (address? i) := by
  induction ds with
  | nil => rfl
  | cons deed ds ih =>
    cases told : deed.address? i with
    | none =>
      rw [List.filter_cons]
      split
      · rw [List.findSome?_cons, List.findSome?_cons, ih]
      · rw [List.findSome?_cons, told, ih]
    | some k => simp [kept deed k told, told]

end Deed

/-- The bytes of the address that a device has when all is done; zeros if it has none. -/
def addressAfter (ds : List Deed) (i : DeviceId) : HwAddress :=
  match ds.findSome? (Deed.address? i) with
  | some k => k.bytes
  | none => .zero

/-- The address of a device is the last one that discovery found out. -/
theorem Core.Addressed.binAddress (addressed : c.Addressed ds) (found : c.devices i = some d) :
    d.binAddress = addressAfter ds i := by
  cases known : d.address <;>
    simp [Device.binAddress, addressAfter, ← addressed.known i d found, known]

/-- A UUID is used at some time by a profile that is bound to an address: somebody asks the
registry for something for such a profile, or a device with the address hands it in. -/
def usedFor (naming : Naming) (a : HwAddress) (ds : List Deed) (submitted : List HwAddress) (uuid : String) :
    Bool :=
  (ds.any fun deed => (deed.request?.bind (·.profile?)).any fun p => p.isFor a && p.uuid = uuid) ||
    (List.range (submitted.count a)).any fun n => uuid = naming.uuid a (n + 1)

/-- A deed matters to an address: it is not about a device with another one, and not about a profile
whose UUID is never used for it. -/
def Deed.mattersTo (naming : Naming) (a : HwAddress) (ds : List Deed) (submitted : List HwAddress) (deed : Deed) :
    Bool :=
  deed.device?.all (fun i => addressAfter ds i = a) &&
    deed.request?.all (·.concerns (usedFor naming a ds submitted))

namespace AddressScope

variable (naming : Naming) (a : HwAddress) (ds : List Deed) (submitted : List HwAddress)

/-- The address scope of an address in a run, each device under its own name. -/
def around : AddressScope where
  address := a
  naming
  inside i := addressAfter ds i = a
  name i := i
  ours := usedFor naming a ds submitted
  distinct _ _ _ _ same := same

/-- The address scope of an address in a run in which no device has another one. -/
def among (who : DeviceId → DeviceId) (apart : Function.Injective who) : AddressScope where
  address := a
  naming
  inside _ := true
  name := who
  ours := usedFor naming a ds submitted
  distinct _ _ _ _ same := apart same

/-- The scope of an address covers as many submissions as were made for it. -/
theorem covers_around : (around naming a ds submitted).Covers (submitted.count a) := by
  intro n below
  refine Bool.or_eq_true_iff.2 (.inr (List.any_eq_true.2 ⟨n, List.mem_range.2 below, ?_⟩))
  exact decide_eq_true rfl

variable {naming a ds submitted}

/-- The scope of an address owns the profiles that callers asked for under UUIDs of their own. -/
theorem owns_around {q : Registry.Request} {p : Profile} (asked : .request q ∈ ds) (about : q.profile? = some p) :
    (around naming a ds submitted).Owns p := by
  intro bound
  refine Bool.or_eq_true_iff.2 (.inl (List.any_eq_true.2 ⟨_, asked, ?_⟩))
  have bound' : p.isFor a := bound
  simp [Deed.request?, about, bound']

/-- The scope of an address suits the history that it was made from. -/
theorem suits_around : (around naming a ds submitted).Suits ds where
  lawful _ asked _ about := owns_around asked about
  fits i k told := by simp [around, addressAfter, told]

/-- It is told the deeds that matter to its address, under the numbers they have. -/
theorem told_around (ds₁ : List Deed) :
    (around naming a ds submitted).told ds₁ = ds₁.filter (Deed.mattersTo naming a ds submitted) := by
  have same : Deed.rename (around naming a ds submitted).name = fun deed => deed := funext Deed.rename_self
  rw [told, same, List.map_id']
  rfl

section Among

variable {who : DeviceId → DeviceId} (apart : Function.Injective who) {ds₁ : List Deed}
  (left : ds'.map (Deed.rename who) = ds₁.filter (Deed.mattersTo naming a ds submitted))

include left

/-- It is told them in a run where the devices of that address have other numbers. -/
theorem told_among :
    (among naming a ds submitted who apart).told ds' = ds₁.filter (Deed.mattersTo naming a ds submitted) := by
  have all : ds'.filter (among naming a ds submitted who apart).keeps = ds' := by
    refine List.filter_eq_self.2 fun deed mem => ?_
    have about : (deed.rename who).mattersTo naming a ds submitted := by
      have kept := List.mem_map_of_mem (f := Deed.rename who) mem
      rw [left] at kept
      exact (List.mem_filter.1 kept).2
    simp only [Deed.mattersTo, Bool.and_eq_true, Deed.request?_rename] at about
    simp only [keeps, among, Bool.and_eq_true]
    refine ⟨?_, about.2⟩
    cases deed.device? <;> rfl
  rw [told, all]
  exact left

/-- Such a run suits the scope. -/
theorem suits_among (part : ds₁ <+: ds) : (among naming a ds submitted who apart).Suits ds' where
  lawful q asked p about := by
    have mem : Deed.request q ∈ ds'.map (Deed.rename who) := List.mem_map.2 ⟨_, asked, rfl⟩
    rw [left] at mem
    exact owns_around (part.subset (List.mem_filter.1 mem).1) about
  fits i k told := by
    have renamed : (ds₁.filter (Deed.mattersTo naming a ds submitted)).findSome? (Deed.address? (who i)) = some k := by
      rw [← left, List.findSome?_map, ← told]
      exact congrArg (ds'.findSome? ·) (funext fun deed => deed.address?_rename apart i)
    -- the device is one of those that are left, so all that it was told is left
    obtain ⟨deed, mem, tells⟩ := List.exists_of_findSome?_eq_some renamed
    have about := (List.mem_filter.1 mem).2
    have there : addressAfter ds (who i) = a := by
      rw [Deed.mattersTo, (Deed.device?_of_address? tells).1] at about
      simpa using (Bool.and_eq_true_iff.1 about).1
    rw [Deed.findSome?_filter fun deed k tells => ?_] at renamed
    · obtain ⟨ds₂, rfl⟩ := part
      have first : (ds₁ ++ ds₂).findSome? (Deed.address? (who i)) = some k := by
        rw [List.findSome?_append, renamed]
        rfl
      rw [addressAfter, first] at there
      exact ⟨fun _ => rfl, fun _ => there⟩
    · obtain ⟨device, request⟩ := Deed.device?_of_address? tells
      simp [Deed.mattersTo, device, request, there]

end Among

end AddressScope

namespace Bench

variable {g g' : Generation} {t t' : Transport} {isLoaded : Bool} {m m' : Option Timeouts} {naming : Naming}
  {b b' c : Bench} {ds₁ : List Deed} {es₁ es' : List Event} {id' : DeviceId} {names names₁ names' : String → Prop}

/-- Let one run do some deeds, and then possibly more, and let another one do those of them only that are
about devices with one address, whatever their numbers there, about profiles whose UUIDs are used for this
address, or about no profile. Then a device with this address becomes the same in both and publishes the
same events. -/
theorem Unfolds.alike (run : (opening g t isLoaded m naming).Unfolds names id ds es b)
    (quiet : b.host.core.isQuiet)
    (rest : b.Unfolds names₁ id ds₁ es₁ c) (run' : (opening g' t' isLoaded m' naming).Unfolds names' id' ds' es' b')
    (quiet' : b'.host.core.isQuiet) (who : DeviceId → DeviceId) (apart : Function.Injective who)
    (same : who id' = id)
    (left : ds'.map (Deed.rename who) =
      ds.filter (Deed.mattersTo naming (addressAfter (ds ++ ds₁) id) (ds ++ ds₁) c.host.submitted))
    (others : ∀ a, a ≠ addressAfter (ds ++ ds₁) id → ∀ n < c.host.submitted.count a,
      usedFor naming (addressAfter (ds ++ ds₁) id) (ds ++ ds₁) c.host.submitted (naming.uuid a (n + 1)) = false) :
    b'.host.device? id' = b.host.device? id ∧ es' = es := by
  subst same
  generalize addr : addressAfter (ds ++ ds₁) (who id') = a at left others
  have more : b.host.submitted <+: c.host.submitted :=
    rest.core.runs.preserves (P := fun x => b.host.submitted <+: x.submitted)
      (fun _ _ _ before step => before.trans step.submitted) (List.prefix_refl _)
  have covers {n : Nat} (fewer : n ≤ b.host.submitted.count a) :
      (AddressScope.around naming a (ds ++ ds₁) c.host.submitted).Covers n :=
    AddressScope.covers_around naming a (ds ++ ds₁) c.host.submitted |>.mono
      (Nat.le_trans fewer (more.sublist.count_le a))
  have mine : (AddressScope.around naming a (ds ++ ds₁) c.host.submitted).inside (who id') := decide_eq_true addr
  obtain ⟨o, leads⟩ := AddressScope.leads (S := .around naming a (ds ++ ds₁) c.host.submitted) run.core mine
    AddressScope.suits_around.of_append (AddressScope.Clear.mono (fun _ _ => others) more)
    fun _ _ _ _ fewer => covers fewer
  have empty : o.agenda = [] := (leads.mirrors.idle quiet).1
  have path := leads.path
  rw [AddressScope.told_around] at path
  -- as long as the other run goes on no more is submitted in it than in this one
  have reserves : (AddressScope.among naming a (ds ++ ds₁) c.host.submitted who apart).Reserves id' isLoaded ds'
      b'.host.core := by
    rintro ds₂ o₂ ⟨ds₃, rfl⟩ path₂ -
    have whole : Path a (who id') (.opening isLoaded naming)
        ((AddressScope.among naming a (ds ++ ds₁) c.host.submitted who apart).told ds₂ ++
          (AddressScope.among naming a (ds ++ ds₁) c.host.submitted who apart).told ds₃) o := by
      rw [← AddressScope.told_append, AddressScope.told_among apart left]
      exact path
    refine covers (n := o₂.submitted) ?_
    have fewer : o₂.submitted ≤ o.submitted := (Path.rest path₂ whole empty).submitted_le
    rwa [leads.mirrors.submitted] at fewer
  obtain ⟨o', leads'⟩ := AddressScope.leads (S := .among naming a (ds ++ ds₁) c.host.submitted who apart) run'.core rfl
    (AddressScope.suits_among apart left (List.prefix_append _ _))
    (fun j foreign => absurd foreign (by simp [AddressScope.among])) reserves
  have path' := leads'.path
  rw [AddressScope.told_among apart left] at path'
  have one : o' = o :=
    (Path.rest path' (by rwa [List.append_nil]) empty).eq_of_nil (leads'.mirrors.idle quiet').1
  subst one
  exact ⟨(leads'.mirrors.devices id' rfl).symm.trans (leads.mirrors.devices _ mine),
    leads'.said.symm.trans leads.said⟩

/-- A run of its own, over any transport, that comes to do only the deeds that are kept of another run.
Devices may go by other names in it; given are the name `id'` of the device that is `id` in the other run,
what this device says of itself, and where the run comes to, which is when nobody is being notified. -/
inductive Redoes (isLoaded : Bool) (naming : Naming) (id : DeviceId) (kept : List Deed) :
    DeviceId → List Event → Bench → Prop
  | intro {g : Generation} {t : Transport} {m : Option Timeouts} {names : String → Prop} {id' : DeviceId}
      {ds' : List Deed} {es' : List Event} {b' : Bench}
      (run : (opening g t isLoaded m naming).Unfolds names id' ds' es' b') (quiet : b'.host.core.isQuiet)
      (who : DeviceId → DeviceId) (apart : Function.Injective who) (same : who id' = id)
      (does : ds'.map (Deed.rename who) = kept) : Redoes isLoaded naming id kept id' es' b'

/-- The UUIDs of the profiles that devices with other addresses have submitted are used neither in a
request for a profile of this address nor by a profile that is submitted for it. -/
def FreshBeside (naming : Naming) (a : HwAddress) (ds : List Deed) (submitted : List HwAddress) : Prop :=
  ∀ a', a' ≠ a → ∀ n < submitted.count a', usedFor naming a ds submitted (naming.uuid a' (n + 1)) = false

/-- **Devices are isolated from each other**, though they share a registry. Let a run in which no listener
calls back when it is notified come to a point at which nobody is being notified, and possibly go on. It
is told by its deeds: devices are created and destroyed, discovery delivers properties, somebody asks the
registry to insert, update or remove a profile. Let another run do less: of the deeds up to that point
those only that are about devices with the address that a device has when all is done, and about profiles
whose UUIDs are used for this address, or that are bound to no device. Then the device has become the same
in both runs, with the same candidates in the same order, the same provisioned profile and the same
usability, and it has published the same events, which its receivers get as long as they stay. All this
takes is that the UUIDs of what devices with other addresses submit are fresh. -/
theorem isolated (id : DeviceId) (run : (opening g t isLoaded m naming).Aloof names b) (quiet : b.host.core.isQuiet)
    (rest : b.Aloof names₁ c) :
    (∃ ds es ds₁ es₁, (opening g t isLoaded m naming).Unfolds names id ds es b ∧ b.Unfolds names₁ id ds₁ es₁ c) ∧
      ∀ ds es ds₁ es₁, (opening g t isLoaded m naming).Unfolds names id ds es b → b.Unfolds names₁ id ds₁ es₁ c →
        (∀ i d, c.host.device? i = some d → d.binAddress = addressAfter (ds ++ ds₁) i) ∧
        (∀ name r, ¬ names₁ name → b.host.receivers.find? (·.name = name) = some r → r.device = id →
          c.host.receivers.find? (·.name = name) = some (r.append es₁)) ∧
        (FreshBeside naming (addressAfter (ds ++ ds₁) id) (ds ++ ds₁) c.host.submitted →
          ∀ id' es' b', Redoes isLoaded naming id
              (ds.filter (Deed.mattersTo naming (addressAfter (ds ++ ds₁) id) (ds ++ ds₁) c.host.submitted))
              id' es' b' →
            b'.host.device? id' = b.host.device? id ∧ es' = es) := by
  have reached : Reachable free (opening g t isLoaded m naming) := ⟨g, t, isLoaded, m, naming, .refl⟩
  obtain ⟨ds, es, told⟩ := run.unfolds reached id
  obtain ⟨ds₁, es₁, told₁⟩ := rest.unfolds (reached.trans run.reaches) id
  refine ⟨⟨ds, es, ds₁, es₁, told, told₁⟩, ?_⟩
  clear told told₁
  intro ds es ds₁ es₁ told told₁
  have addressed : c.host.core.Addressed (ds ++ ds₁) := by
    -- the receivers of both parts do not matter here
    have first : Core.Unfolds (fun _ => True) id _ ds es b.host.core := told.core.mono fun _ _ => trivial
    have whole := first.trans (told₁.core.mono fun _ _ => trivial)
    exact whole.addressed (Core.regular_opening isLoaded naming) (Core.addressed_opening isLoaded naming)
  refine ⟨fun i d found => addressed.binAddress found, fun name r off found mine => ?_, ?_⟩
  · exact told₁.core.heard off found mine
  · rintro fresh id' es' b' ⟨told', quiet', who, apart, same, left⟩
    exact told.alike quiet told₁ told' quiet' who apart same left fresh

/-- A bench with no devices yet, to which a dial-up device and an access point can be added. -/
def vacant : Bench := opening .bluez4 (.stub {
  devices := ⟨[
    ("/d", some { address := some "1:2:3:4:5:6", name := some "n", uuids := some ["1103-0"] }),
    ("/e", some { address := some "6:5:4:3:2:1", name := some "m", uuids := some ["1116-0"] })]⟩ }) true none

/-- A device is created and its discovery run, with as many duties as given. -/
def bringUpMoves (handle path : String) (run : RunId) (duties : Nat) : List Move :=
  [.step (.newDevice handle path none {}), .step (.run handle), .poll run] ++ List.replicate duties .act

/-- The access point comes up and submits its profile; then a profile is stored for the dial-up device,
which comes up last. -/
def accompanied : Bench :=
  vacant.makeAll (bringUpMoves "E" "/e" 1 12 ++ [.step (.command (.request (.insert fitting))), .act, .act] ++
    bringUpMoves "D" "/d" 3 8)

/-- The profile for the dial-up device is stored, and this device comes up alone. -/
def alone : Bench :=
  vacant.makeAll ([.step (.command (.request (.insert fitting))), .act] ++ bringUpMoves "D" "/d" 1 8)

/-- What is done to a device while it comes up. -/
def bringUpDeeds (id : DeviceId) (path : String) (properties : PropertyBatch) : List Deed :=
  [.create id path .bluez4 {}, .start id, .summon id, .tell id .bus, .assess id, .summon id,
    .tell id (.fetch properties), .assess id, .summon id, .tell id (.report true), .assess id]

/-- The deeds of a dial-up device that comes up on its own, with a profile stored for it. -/
def deedsAlone : List Deed := .request (.insert fitting) ::
  bringUpDeeds 0 "/d" { address := some "1:2:3:4:5:6", name := some "n", uuids := some ["1103-0"] }

/-- The deeds of the same device beside an access point, which comes up first and submits. -/
def deedsAccompanied : List Deed :=
  bringUpDeeds 0 "/e" { address := some "6:5:4:3:2:1", name := some "m", uuids := some ["1116-0"] } ++
    deedsAlone.map (Deed.rename (· + 2))

/-- The deeds told of the run with both devices are its history. -/
theorem told_accompanied (id : DeviceId) : vacant.Aloof (fun _ => True) accompanied ∧
    ∃ es, vacant.Unfolds (fun _ => True) id deedsAccompanied es accompanied :=
  unfolds_tell? rfl id

/-- The deeds told of the run with one device are its history. -/
theorem told_alone (id : DeviceId) : vacant.Aloof (fun _ => True) alone ∧
    ∃ es, vacant.Unfolds (fun _ => True) id deedsAlone es alone :=
  unfolds_tell? rfl id

/-- The access point submits a profile under its own address. -/
theorem submitted_accompanied : accompanied.host.submitted = [⟨6, 5, 4, 3, 2, 1⟩] := by
  decide +kernel

/-- The device of `deedsAlone` has the deeds there that matter to its address here. -/
theorem kept_accompanied : deedsAlone.map (Deed.rename (· + 2)) = deedsAccompanied.filter
    (Deed.mattersTo .byAddress ⟨1, 2, 3, 4, 5, 6⟩ deedsAccompanied [⟨6, 5, 4, 3, 2, 1⟩]) := rfl

/-- The UUID of the submission is none that anybody else uses. -/
theorem freshBeside_accompanied :
    FreshBeside .byAddress ⟨1, 2, 3, 4, 5, 6⟩ deedsAccompanied [⟨6, 5, 4, 3, 2, 1⟩] := by
  intro a other n below
  obtain rfl : a = ⟨6, 5, 4, 3, 2, 1⟩ :=
    List.mem_singleton.1 (List.count_pos_iff.1 (Nat.lt_of_le_of_lt (Nat.zero_le n) below))
  obtain rfl : n = 0 := Nat.lt_one_iff.1 below
  decide +kernel

/-- A dial-up device comes up beside a profile for it, alone in one run and in the other after an access point
with another address, which submits a profile of its own: the device is the same in both. -/
theorem isolated_accompanied :
    (accompanied.host.device? 2).map (·.candidates) = some ["u"] ∧
      accompanied.host.submitted = [⟨6, 5, 4, 3, 2, 1⟩] ∧
      alone.host.device? 0 = accompanied.host.device? 2 := by
  obtain ⟨aloof, es, told⟩ := told_accompanied 2
  obtain ⟨-, es', told'⟩ := told_alone 0
  have still : accompanied.Aloof (fun _ => True) accompanied := .refl
  have quiet : accompanied.host.core.isQuiet := by decide +kernel
  have same := ((isolated 2 aloof quiet still).2 _ _ _ _ told .refl).2.2
  rw [List.append_nil, submitted_accompanied,
    show addressAfter deedsAccompanied 2 = ⟨1, 2, 3, 4, 5, 6⟩ by decide +kernel] at same
  have quiet' : alone.host.core.isQuiet := by decide +kernel
  have redoes : Redoes true .byAddress 2 _ 0 es' alone :=
    .intro told' quiet' (· + 2) (fun _ _ same => Nat.add_right_cancel same) rfl kept_accompanied
  exact ⟨by decide +kernel, submitted_accompanied, (same freshBeside_accompanied 0 es' alone redoes).1⟩

end Bench

end Piconet
