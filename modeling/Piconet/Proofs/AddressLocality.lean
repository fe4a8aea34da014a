import Piconet.Proofs.AddressScope

/-!
# What of a step shows inside an address scope

Whatever happens outside an address scope shows nowhere inside: it is filtered out by what devices accept. So
each thing that follows by itself leaves the slice inside as it is, or is what follows there
(`AddressScope.Mirrors.seen`); and a deed is done inside, or nothing is seen of it (`AddressScope.Mirrors.does`,
`AddressScope.Mirrors.unseen`).
-/

namespace Piconet

open Function (update)
open Bench (shut)

variable {S : AddressScope} {c c' : Core} {s : Option (DeviceId × Profile)} {i j id : DeviceId} {d e : Device}
  {p : Profile} {n : Registry.Notice} {o x : AddressSlice} {duty : Duty} {ds : List Duty} {ls : List Listener}
  {roster : String → Prop}

/-! ## Assessments -/

namespace Core

/-- Only the duty that is next may be an assessment. -/
theorem Prompt.rest (prompt : c.Prompt) (next : c.agenda = duty :: ds) : .reassess i ∉ ds := by
  have after := prompt i
  rwa [next] at after

/-- Nobody is summoned while something else is next. -/
theorem not_summoned (next : c.agenda = duty :: ds) (other : duty ≠ .reassess i) : ¬ c.Summoned i := by
  rintro ⟨ds', next', -⟩
  exact other (List.cons.inj (next.symm.trans next')).1

theorem not_summoned_of_quiet (quiet : c.isQuiet) : ¬ c.Summoned i := by
  rintro ⟨ds, next, -⟩
  rw [isQuiet, next] at quiet
  exact absurd quiet (by simp [Duty.isPursuit])

/-- What heads the agenda is no assessment. -/
theorem unsummoned (next : c.agenda = duty :: ds) (other : ∀ i, duty ≠ .reassess i) (i : DeviceId) :
    ¬ c.Summoned i :=
  not_summoned next (other i)

theorem not_summoned_of_not_mem (none : .reassess i ∉ c.agenda) : ¬ c.Summoned i := by
  rintro ⟨ds, next, -⟩
  exact none (by rw [next]; exact List.mem_cons_self)

/-- Once a duty is done no device is to be assessed any longer. -/
theorem Prompt.unsummoned (prompt : c.Prompt) (next : c.agenda = duty :: ds) (done : c'.agenda = ds)
    (i : DeviceId) : ¬ c'.Summoned i := by
  refine not_summoned_of_not_mem ?_
  rw [done]
  exact prompt.rest next

end Core

namespace AddressScope

/-! ## What shows -/

/-- A device inside is updated under its name there. -/
theorem update_inside {f g : DeviceId → Option Device} (same : ∀ i, S.inside i → f (S.name i) = g i)
    (mine : S.inside j) (x : Option Device) :
    ∀ i, S.inside i → update f (S.name j) x (S.name i) = update g j x i := by
  intro i there
  rw [Function.update_apply, Function.update_apply]
  by_cases here : i = j
  · rw [if_pos here, if_pos (congrArg S.name here)]
  · rw [if_neg here, if_neg fun named => here (S.distinct i j there mine named), same i there]

/-- Nobody inside sees a device change that is not. -/
theorem update_outside (foreign : S.inside j = false) (f : DeviceId → Option Device) (x : Option Device) :
    ∀ i, S.inside i → update f j x i = f i := by
  intro i there
  refine Function.update_of_ne ?_ _ _
  rintro rfl
  exact absurd there (by simp [foreign])

/-- Subscriptions may be cancelled whose listeners are not inside. -/
theorem listeners_filter {keep : Subscription → Bool}
    (gone : ∀ x ∈ c.subscriptions, ∀ i, x.listener = .device i → S.inside i → keep x) :
    ((c.subscriptions.filter keep).map (·.listener)).filterMap S.listener? = S.listeners c := by
  rw [listeners, List.filterMap_map, List.filterMap_map, List.filterMap_filter]
  refine List.filterMap_congr fun x mem => ?_
  cases stays : keep x with
  | true => rfl
  | false =>
    cases named : x.listener with
    | watcher w => simp [named, listener?]
    | device i =>
      have foreign : ¬ S.inside i := fun there => absurd (gone x mem i named there) (by simp [stays])
      simp [named, listener?, foreign]

/-- So may those whose listeners are gone. -/
theorem listeners_living (subscribed : c.Subscribed) {lives : Listener → Bool}
    (living : ∀ i, lives (.device i) = (c.devices i).isSome) :
    ((c.subscriptions.filter fun x => lives x.listener).map (·.listener)).filterMap S.listener? =
      S.listeners c := by
  refine listeners_filter fun x mem i named _ => ?_
  rw [named, living]
  exact subscribed x mem i named

/-- Nothing of an agenda without announcements and without devices is inside. -/
theorem duty?_of_isPursuit (pursuits : ds.all Duty.isPursuit) : ds.filterMap S.duty? = [] := by
  refine List.filterMap_eq_nil_iff.2 fun duty mem => ?_
  obtain ⟨run, rfl⟩ := Duty.eq_of_isPursuit (List.all_eq_true.1 pursuits duty mem)
  rfl

/-- What watchers have to do is outside of every scope. -/
theorem duty?_of_isWatch (watch : ds.all Duty.isWatch) : ds.filterMap S.duty? = [] := by
  refine List.filterMap_eq_nil_iff.2 fun duty mem => ?_
  obtain ⟨_, _, _, rfl⟩ | ⟨_, _, rfl⟩ | ⟨_, _, rfl⟩ := Duty.eq_of_isWatch (List.all_eq_true.1 watch duty mem) <;> rfl

/-! ## What follows -/

/-- The first duty is the first inside, if it is inside. -/
theorem Mirrors.left (mirrors : S.Mirrors c o) (next : c.agenda = duty :: ds) {duty' : Duty}
    (inside : S.duty? duty = some duty') : o.agenda = duty' :: ds.filterMap S.duty? := by
  rw [mirrors.agenda, next, List.filterMap_cons_some inside]

/-- What is seen inside of what follows by itself: nothing at all, or what follows there. -/
inductive Seen (S : AddressScope) (id : DeviceId) (c : Core) (o : AddressSlice) (c' : Core) : Prop
  | aside (mirrors : S.Mirrors c' o) (silent : c.remarked c' id = [])
      (kept : c'.agenda = c.agenda ∨ o.summoned = false)
  | turn (o' : AddressSlice) (turned : c'.agenda ≠ c.agenda) (next : o.turn S.address (S.name id) = some o')
      (submitted : o'.submitted = c'.submitted.count S.address) (said : o'.said = o.said ++ c.remarked c' id)
      (mirrors : S.Covers o'.submitted → S.Mirrors c' o')

namespace Seen

/-- Nothing is seen of a change that leaves the agenda alone. -/
theorem of_same (mirrors : S.Mirrors c o) (mine : S.inside id) (same : c'.agenda = c.agenda)
    (shows : S.Shows c' o) (devices : ∀ i, S.inside i → c'.devices i = c.devices i) : S.Seen id c o c' := by
  refine .aside ⟨shows, mirrors.summoned.trans ?_⟩ (Core.remarked_of_device (devices id mine)) (.inl same)
  rw [Summons, Summons]
  simp only [Core.Summoned, same]

/-- Nothing is seen of a change of the agenda outside. -/
theorem of_aside (mirrors : S.Mirrors c o) (mine : S.inside id) (before : ∀ i, S.inside i → ¬ c.Summoned i)
    (after : ∀ i, ¬ c'.Summoned i) (shows : S.Shows c' o)
    (devices : ∀ i, S.inside i → c'.devices i = c.devices i) : S.Seen id c o c' := by
  have waits : o.summoned = false := by
    refine Bool.eq_false_iff.2 fun summoned => ?_
    obtain ⟨i, there, summoned⟩ := mirrors.summoned.1 summoned
    exact before i there summoned
  refine .aside ⟨shows, ?_⟩ (Core.remarked_of_device (devices id mine)) (.inr waits)
  rw [waits]
  refine ⟨fun none => absurd none (by simp), ?_⟩
  rintro ⟨i, -, summoned⟩
  exact absurd summoned (after i)

/-- The first duty inside is done. -/
theorem of_first (next : o.first S.address (S.name id) = some x) (turned : c'.agenda ≠ c.agenda)
    (after : ∀ i, ¬ c'.Summoned i) (submitted : x.submitted = c'.submitted.count S.address)
    (said : x.said = o.said ++ c.remarked c' id) (shows : S.Covers x.submitted → S.Shows c' x) :
    S.Seen id c o c' := by
  refine .turn { x with summoned := false } turned (by rw [AddressSlice.turn, next]; rfl) submitted said ?_
  intro covers
  refine ⟨{ shows covers with }, ?_⟩
  refine ⟨fun none => absurd none (by simp), ?_⟩
  rintro ⟨i, -, summoned⟩
  exact absurd summoned (after i)

end Seen

/-! ### Hearing -/

section Hearing

variable (shows : S.Shows c o) (sealed : S.Sealed c) (fits : S.Fits c)

include sealed fits

/-- A device inside accepts nothing that is stored under a UUID of others. -/
theorem ours_of_accepts (found : c.devices j = some d) (there : S.inside j) :
    ∀ p ∈ c.registry.profiles, d.accepts p → S.ours p.uuid :=
  fun p mem accepts => sealed.stored p mem (fits.isFor found there accepts)

include shows in
/-- A device inside hears the same there. -/
theorem hear_inside (there : S.inside j) (n : Registry.Notice) :
    (o.devices (S.name j)).bind (·.hear o.registry.profiles n) =
      (c.devices j).bind (·.hear c.registry.profiles n) := by
  rw [shows.devices j there, shows.registry]
  cases found : c.devices j with
  | none => rfl
  | some d => exact Device.hear_among (ours_of_accepts sealed fits found there)

/-- A device inside is deaf to what is about the profiles of others. -/
theorem deaf_inside (there : S.inside j) (due : .announce n ls ∈ c.agenda)
    (foreign : n.concerns S.ours = false) :
    (c.devices j).bind (·.hear c.registry.profiles n) = none := by
  cases found : c.devices j with
  | none => rfl
  | some d =>
    refine Device.hear_foreign foreign (fun p about accepts => ?_) (sealed.tracked j d found there)
    exact sealed.announced n ls due p about (fits.isFor found there accepts)

end Hearing

section Follows

variable (mirrors : S.Mirrors c o) (mine : S.inside id)

include mirrors mine

/-- A change that everybody was notified of is off both agendas, if it was on both. -/
theorem Mirrors.seen_heardByAll (prompt : c.Prompt) (next : c.agenda = .announce n [] :: ds) :
    S.Seen id c o { c with agenda := ds } := by
  by_cases concerned : n.concerns S.ours
  · have left : o.agenda = .announce n [] :: ds.filterMap S.duty? := by
      rw [mirrors.agenda, next]
      simp [duty?, concerned]
    refine .of_first (x := { o with agenda := ds.filterMap S.duty? }) ?_ ?_ (prompt.unsummoned next rfl)
      mirrors.submitted ?_ ?_
    · simp [AddressSlice.first, left]
    · simp [next]
    · simp [Core.remarked_of_devices]
    · exact fun _ => { mirrors.toShows with agenda := rfl }
  · refine .of_aside mirrors mine (fun i _ => Core.not_summoned next (by simp)) (prompt.unsummoned next rfl)
      ?_ fun i _ => rfl
    refine { mirrors.toShows with agenda := ?_ }
    rw [mirrors.agenda, next]
    simp [duty?, concerned]

/-- A device that makes nothing of a notification makes nothing of it inside either. -/
theorem Mirrors.seen_unmoved (sealed : S.Sealed c) (fits : S.Fits c)
    (next : c.agenda = .announce n (.device j :: ls) :: ds)
    (deaf : (c.devices j).bind (·.hear c.registry.profiles n) = none) :
    S.Seen id c o { c with agenda := .announce n ls :: ds } := by
  by_cases concerned : n.concerns S.ours ∧ S.inside j
  · obtain ⟨concerned, there⟩ := concerned
    have left : o.agenda =
        .announce n (.device (S.name j) :: ls.filterMap S.listener?) :: ds.filterMap S.duty? := by
      rw [mirrors.agenda, next]
      simp [duty?, concerned, listener?, there]
    refine .of_first (x := { o with agenda := .announce n (ls.filterMap S.listener?) :: ds.filterMap S.duty? })
      ?_ ?_ (Core.unsummoned rfl (by simp)) mirrors.submitted ?_ ?_
    · simp [AddressSlice.first, left, AddressSlice.hear, hear_inside mirrors.toShows sealed fits there, deaf]
    · simp [next]
    · simp [Core.remarked_of_devices]
    · refine fun _ => { mirrors.toShows with agenda := ?_ }
      simp [duty?, concerned]
  · refine .of_aside mirrors mine (fun i _ => Core.not_summoned next (by simp))
      (Core.unsummoned rfl (by simp)) ?_ fun i _ => rfl
    refine { mirrors.toShows with agenda := ?_ }
    rw [mirrors.agenda, next]
    by_cases heeded : n.concerns S.ours
    · have foreign : ¬ S.inside j := fun there => concerned ⟨heeded, there⟩
      simp [duty?, heeded, listener?, foreign]
    · simp [duty?, heeded]

/-- **A device of the address makes the same of a notification inside**, as the profiles that it accepts are all
there; and of a device with another address nothing is seen. -/
theorem Mirrors.seen_moved (sealed : S.Sealed c) (fits : S.Fits c)
    (next : c.agenda = .announce n (.device j :: ls) :: ds)
    (found : c.devices j = some d) (hears : d.hear c.registry.profiles n = some e) :
    S.Seen id c o { c with
      devices := update c.devices j (some e)
      agenda := .reassess j :: .announce n ls :: ds } := by
  have after (i : DeviceId) : ¬ ({ c with
      devices := update c.devices j (some e)
      agenda := .reassess j :: .announce n ls :: ds } : Core).Summoned i := by
    rintro ⟨ds', next, pursuits⟩
    obtain ⟨-, rfl⟩ := List.cons.inj next
    exact absurd pursuits (by simp [Duty.isPursuit])
  have heard : (c.devices j).bind (·.hear c.registry.profiles n) = some e := by rw [found]; exact hears
  have first : .announce n (.device j :: ls) ∈ c.agenda := by rw [next]; exact List.mem_cons_self
  cases there : S.inside j with
  | true =>
    have concerned : n.concerns S.ours := by
      by_contra foreign
      have deaf := deaf_inside sealed fits there first (Bool.eq_false_iff.2 foreign)
      exact absurd (heard.symm.trans deaf) (by simp)
    have left : o.agenda =
        .announce n (.device (S.name j) :: ls.filterMap S.listener?) :: ds.filterMap S.duty? := by
      rw [mirrors.agenda, next]
      simp [duty?, concerned, listener?, there]
    refine .of_first (x := { o with
        devices := update o.devices (S.name j) (some e)
        agenda := .reassess (S.name j) :: .announce n (ls.filterMap S.listener?) :: ds.filterMap S.duty? })
      ?_ ?_ after mirrors.submitted ?_ ?_
    · simp [AddressSlice.first, left, AddressSlice.hear, hear_inside mirrors.toShows sealed fits there, heard]
    · simp [next]
    · rw [Core.remarked_of_update found rfl (by rw [Device.hear_eq hears]), List.append_nil]
    · refine fun _ => { mirrors.toShows with devices := update_inside mirrors.devices there _, agenda := ?_ }
      simp [duty?, concerned, there]
  | false =>
    refine .of_aside mirrors mine (fun i _ => Core.not_summoned next (by simp)) after ?_
      (update_outside there _ _)
    refine { mirrors.toShows with devices := fun i inside => ?_, agenda := ?_ }
    · exact (mirrors.devices i inside).trans (update_outside there _ _ i inside).symm
    · rw [mirrors.agenda, next]
      simp [List.filterMap_cons, duty?, listener?, there]

/-! ### Assessments -/

omit mirrors mine in
/-- What is due to a device with another address is outside. -/
theorem duty?_outside (foreign : S.inside j = false) (about : duty.about? = some j) : S.duty? duty = none := by
  cases duty <;> simp_all [Duty.about?, duty?]

/-- Nothing is seen of what becomes of a device outside. -/
theorem Mirrors.seen_outside (foreign : S.inside j = false) (next : c.agenda = duty :: ds)
    (about : duty.about? = some j) (naming : c'.naming = c.naming) (after : ∀ i, ¬ c'.Summoned i)
    (devices : ∀ i, S.inside i → c'.devices i = c.devices i) (listeners : S.listeners c' = S.listeners c)
    (registry : c'.registry.among S.ours = c.registry.among S.ours)
    (submitted : c'.submitted.count S.address = c.submitted.count S.address)
    (agenda : c'.agenda.filterMap S.duty? = ds.filterMap S.duty?) : S.Seen id c o c' := by
  refine .of_aside mirrors mine (fun i there => Core.not_summoned next ?_) after ?_ devices
  · rintro rfl
    obtain rfl := Option.some.inj about
    exact absurd there (by simp [foreign])
  · exact {
      devices := fun i there => (mirrors.devices i there).trans (devices i there).symm
      listeners := mirrors.listeners.trans listeners.symm
      naming := mirrors.naming.trans naming.symm
      registry := mirrors.registry.trans registry.symm
      submitted := mirrors.submitted.trans submitted.symm
      agenda := by rw [mirrors.agenda, next, List.filterMap_cons_none (duty?_outside foreign about), agenda] }

/-- Whether a device is usable is settled. -/
theorem Mirrors.seen_settled (prompt : c.Prompt) (next : c.agenda = duty :: ds) (about : duty.about? = some j)
    (found : c.devices j = some d) (usable : Bool) (rs : List Receiver)
    (first : S.inside j → o.first S.address (S.name id) =
      some (o.settle (S.name id) (S.name j) d usable (ds.filterMap S.duty?))) :
    S.Seen id c o { c with
      devices := update c.devices j (some { d with usable }), receivers := rs, agenda := ds } := by
  cases there : S.inside j with
  | true =>
    refine .of_first (first there) (by simp [next]) (prompt.unsummoned next rfl) mirrors.submitted ?_ ?_
    · rw [Core.remarked_of_settled found rfl, AddressSlice.settle]
      have same : S.name j = S.name id ↔ j = id := ⟨S.distinct j id there mine, congrArg S.name⟩
      simp only [same]
    · exact fun _ => { mirrors.toShows with devices := update_inside mirrors.devices there _, agenda := rfl }
  | false =>
    exact mirrors.seen_outside mine there next about rfl (prompt.unsummoned next rfl) (update_outside there _ _)
      rfl rfl rfl rfl

/-- A device that is assessed decides on its usability inside as it does outside. -/
theorem Mirrors.seen_decide (prompt : c.Prompt) (next : c.agenda = .reassess j :: ds)
    (found : c.devices j = some d) {usable : Bool} (decided : d.gate.decision = .decided usable)
    (rs : List Receiver) :
    S.Seen id c o { c with
      devices := update c.devices j (some { d with usable }), receivers := rs, agenda := ds } := by
  refine mirrors.seen_settled mine prompt next rfl found usable rs fun there => ?_
  have left : o.agenda = .reassess (S.name j) :: ds.filterMap S.duty? := mirrors.left next (if_pos there)
  simp [AddressSlice.first, left, AddressSlice.assess, mirrors.devices j there, found, decided]

/-- After its own submission a device settles its usability inside as it does outside. -/
theorem Mirrors.seen_conclude (prompt : c.Prompt) (next : c.agenda = .conclude j :: ds)
    (found : c.devices j = some d) (rs : List Receiver) :
    S.Seen id c o { c with
      devices := update c.devices j (some { d with usable := d.provisioned.isSome })
      receivers := rs
      agenda := ds } := by
  refine mirrors.seen_settled mine prompt next rfl found _ rs fun there => ?_
  have left : o.agenda = .conclude (S.name j) :: ds.filterMap S.duty? := mirrors.left next (if_pos there)
  simp [AddressSlice.first, left, AddressSlice.conclude, mirrors.devices j there, found]

/-- A duty is about a device that is gone. -/
theorem Mirrors.seen_late (prompt : c.Prompt) (next : c.agenda = duty :: ds)
    (about : duty = .reassess j ∨ (∃ uuid, duty = .adopt j uuid) ∨ duty = .conclude j)
    (gone : c.devices j = none) : S.Seen id c o { c with agenda := ds } := by
  have concerns : duty.about? = some j := by rcases about with rfl | ⟨u, rfl⟩ | rfl <;> rfl
  cases there : S.inside j with
  | true =>
    have absent : o.devices (S.name j) = none := (mirrors.devices j there).trans gone
    have done : o.first S.address (S.name id) = some { o with agenda := ds.filterMap S.duty? } := by
      rcases about with rfl | ⟨u, rfl⟩ | rfl
      · have left : o.agenda = .reassess (S.name j) :: ds.filterMap S.duty? :=
          mirrors.left next (if_pos there)
        simp [AddressSlice.first, left, AddressSlice.assess, absent]
      · have left : o.agenda = .adopt (S.name j) u :: ds.filterMap S.duty? :=
          mirrors.left next (if_pos there)
        have same : update o.devices (S.name j) none = o.devices := by rw [← absent, Function.update_eq_self]
        simp [AddressSlice.first, left, AddressSlice.adopt, absent, same]
      · have left : o.agenda = .conclude (S.name j) :: ds.filterMap S.duty? :=
          mirrors.left next (if_pos there)
        simp [AddressSlice.first, left, AddressSlice.conclude, absent]
    refine .of_first done (by simp [next]) (prompt.unsummoned next rfl) mirrors.submitted
      (by simp [Core.remarked_of_devices]) ?_
    exact fun _ => { mirrors.toShows with agenda := rfl }
  | false =>
    exact mirrors.seen_outside mine there next concerns rfl (prompt.unsummoned next rfl) (fun _ _ => rfl)
      rfl rfl rfl rfl

/-- The submitted profile is accepted inside if and only if it is outside. -/
theorem Mirrors.seen_adopt {uuid : String} (prompt : c.Prompt) (next : c.agenda = .adopt j uuid :: ds)
    (found : c.devices j = some d) :
    S.Seen id c o { c with
      devices := update c.devices j
        (some { d.track uuid with submitting := false, provisioned := some uuid })
      agenda := ds } := by
  cases there : S.inside j with
  | true =>
    have left : o.agenda = .adopt (S.name j) uuid :: ds.filterMap S.duty? :=
      mirrors.left next (if_pos there)
    refine .of_first (x := o.adopt (S.name j) uuid (ds.filterMap S.duty?)) (by simp [AddressSlice.first, left])
      (by simp [next]) (prompt.unsummoned next rfl) mirrors.submitted ?_ ?_
    · rw [Core.remarked_of_update found rfl (by rw [Device.track_eq]), List.append_nil]
      rfl
    · refine fun _ => { mirrors.toShows with devices := fun i inside => ?_, agenda := rfl }
      rw [AddressSlice.adopt, mirrors.devices j there, found]
      exact update_inside mirrors.devices there _ i inside
  | false =>
    exact mirrors.seen_outside mine there next rfl rfl (prompt.unsummoned next rfl) (update_outside there _ _)
      rfl rfl rfl rfl

/-- A device that has made its attempt, or waits for the registry to be loaded, submits nothing inside either.
-/
theorem Mirrors.seen_concede (next : c.agenda = .reassess j :: ds) (found : c.devices j = some d)
    (lacks : d.gate.decision = .provision) (due : d.dueProfileName? c.registry.loaded = none) :
    S.Seen id c o { c with agenda := .conclude j :: ds } := by
  cases there : S.inside j with
  | true =>
    have left : o.agenda = .reassess (S.name j) :: ds.filterMap S.duty? :=
      mirrors.left next (if_pos there)
    have due' : d.dueProfileName? o.registry.loaded = none := by rw [mirrors.registry]; exact due
    refine .of_first (x := { o with agenda := .conclude (S.name j) :: ds.filterMap S.duty? }) ?_
      (by simp [next]) (Core.unsummoned rfl (by simp)) mirrors.submitted (by simp [Core.remarked_of_devices]) ?_
    · simp [AddressSlice.first, left, AddressSlice.assess, mirrors.devices j there, found, lacks, due']
    · refine fun _ => { mirrors.toShows with agenda := ?_ }
      simp [duty?, there]
  | false =>
    refine mirrors.seen_outside mine there next rfl rfl (Core.unsummoned rfl (by simp)) (fun _ _ => rfl) rfl rfl
      rfl ?_
    simp [duty?, there]

end Follows

/-! ### Submissions -/

section Submissions

variable {name : String} (mirrors : S.Mirrors c o) (mine : S.inside id) (fits : S.Fits c)
  (next : c.agenda = .reassess j :: ds) (found : c.devices j = some d) (lacks : d.gate.decision = .provision)
  (due : d.dueProfileName? c.registry.loaded = some name)

/-- Submissions of other devices outside go by UUIDs of others. -/
def Clear (S : AddressScope) (submitted : List HwAddress) : Prop :=
  ∀ j, S.inside j = false → ∀ a, a ≠ S.address → ∀ n < submitted.count a,
    S.ours (S.naming.uuid a (n + 1)) = false

include fits found lacks due in
/-- A device submits profiles for its own address. -/
theorem inside_iff_of_due : S.inside j ↔ d.binAddress = S.address := by
  obtain ⟨k, known, -⟩ := (Core.maySubmit lacks due).2.address
  have addressed : d.address.isSome := by rw [known]; rfl
  exact ⟨fun there => fits.binAddress_of_inside found there addressed,
    fits.inside_of_binAddress found addressed⟩

include mirrors mine fits next found lacks due

/-- A submission that is turned down uses up the attempt and changes nothing else. -/
theorem Mirrors.seen_turnedDown {why : String} (refused : c.registry.rejection = some why) :
    S.Seen id c o { c with
      devices := update c.devices j (some { d with attempted := true })
      registry := c.registry.countSubmission
      submitted := c.submitted ++ [d.binAddress]
      submissions := c.submissions ++ [c.profileFor d name]
      agenda := .conclude j :: ds } := by
  have own := inside_iff_of_due fits found lacks due
  cases there : S.inside j with
  | true =>
    have left : o.agenda = .reassess (S.name j) :: ds.filterMap S.duty? :=
      mirrors.left next (if_pos there)
    have due' : d.dueProfileName? o.registry.loaded = some name := by rw [mirrors.registry]; exact due
    have refused' : o.registry.rejection = some why := by rw [mirrors.registry]; exact refused
    have submitted : o.submitted + 1 = (c.submitted ++ [d.binAddress]).count S.address := by
      rw [mirrors.submitted, own.1 there, List.count_append, List.count_singleton_self]
    refine .of_first (x := { o with
        devices := update o.devices (S.name j) (some { d with attempted := true })
        submitted := o.submitted + 1
        agenda := .conclude (S.name j) :: ds.filterMap S.duty? })
      ?_ (by simp [next]) (Core.unsummoned rfl (by simp)) submitted ?_ ?_
    · simp [AddressSlice.first, left, AddressSlice.assess, mirrors.devices j there, found, lacks, due',
        AddressSlice.provision, refused']
    · rw [Core.remarked_of_update (e := { d with attempted := true }) found rfl rfl, List.append_nil]
    · refine fun _ => {
        devices := update_inside mirrors.devices there _
        listeners := mirrors.listeners
        naming := mirrors.naming
        registry := mirrors.registry
        submitted
        agenda := ?_ }
      simp [duty?, there]
  | false =>
    have other : d.binAddress ≠ S.address := fun same => absurd (own.2 same) (by simp [there])
    refine mirrors.seen_outside mine there next rfl rfl (Core.unsummoned rfl (by simp))
      (update_outside there _ _) rfl rfl ?_ ?_
    · simp [List.count_append, other]
    · simp [duty?, there]

/-- **A submission for the address is made inside under the same UUID**, as the number of submissions before it
is the same; one for another address is foreign to all that is inside. -/
theorem Mirrors.seen_handedIn {lives : Listener → Bool} (subscribed : c.Subscribed)
    (naming : c.naming = S.naming)
    (clear : S.Clear (c.submitted ++ [d.binAddress])) (accepted : c.registry.rejection = none)
    (living : ∀ i, lives (.device i) = (c.devices i).isSome) :
    S.Seen id c o { c with
      devices := update c.devices j (some { d with attempted := true, submitting := true })
      registry := c.registry.countSubmission.insert (c.profileFor d name)
      subscriptions := c.subscriptions.filter fun x => lives x.listener
      submitted := c.submitted ++ [d.binAddress]
      submissions := c.submissions ++ [c.profileFor d name]
      agenda :=
        .announce (.added (c.profileFor d name))
            ((c.subscriptions.filter fun x => lives x.listener).map (·.listener))
          :: .adopt j (c.profileFor d name).uuid :: .conclude j :: ds } := by
  have own := inside_iff_of_due fits found lacks due
  have listeners := listeners_living (S := S) subscribed living
  cases there : S.inside j with
  | true =>
    have left : o.agenda = .reassess (S.name j) :: ds.filterMap S.duty? :=
      mirrors.left next (if_pos there)
    have due' : d.dueProfileName? o.registry.loaded = some name := by rw [mirrors.registry]; exact due
    have accepted' : o.registry.rejection = none := by rw [mirrors.registry]; exact accepted
    have submitted : o.submitted + 1 = (c.submitted ++ [d.binAddress]).count S.address := by
      rw [mirrors.submitted, own.1 there, List.count_append, List.count_singleton_self]
    have profile : Profile.forAccessPoint (o.naming.uuid S.address (o.submitted + 1)) name S.address =
        c.profileFor d name := by
      rw [Core.profileFor, own.1 there, mirrors.submitted, mirrors.naming]
    refine .of_first (x := { o with
        devices := update o.devices (S.name j) (some { d with attempted := true, submitting := true })
        registry := o.registry.insert (c.profileFor d name)
        submitted := o.submitted + 1
        agenda := .announce (.added (c.profileFor d name)) o.listeners ::
          .adopt (S.name j) (c.profileFor d name).uuid :: .conclude (S.name j) :: ds.filterMap S.duty? })
      ?_ (by simp [next]) (Core.unsummoned rfl (by simp)) submitted ?_ ?_
    · simp [AddressSlice.first, left, AddressSlice.assess, mirrors.devices j there, found, lacks, due',
        AddressSlice.provision, accepted', profile]
    · rw [Core.remarked_of_update (e := { d with attempted := true, submitting := true }) found rfl rfl,
        List.append_nil]
    · intro covers
      have ours : S.ours (c.profileFor d name).uuid := by
        refine Covers.owns (mirrors.submitted ▸ covers) naming d name ?_
        rw [← own.1 there, Core.profileFor]
        simp [Profile.isFor, Profile.forAccessPoint]
      refine {
        devices := update_inside mirrors.devices there _
        listeners := mirrors.listeners.trans listeners.symm
        naming := mirrors.naming
        registry := ?_
        submitted
        agenda := ?_ }
      · rw [mirrors.registry]
        exact congrArg (fun ps => { c.registry with profiles := ps, submissions := 0 })
          (Registry.insert_among ours)
      · have concerned : (Registry.Notice.added (c.profileFor d name)).concerns S.ours := ours
        simp [duty?, there, concerned, listeners, mirrors.listeners]
  | false =>
    have other : d.binAddress ≠ S.address := fun same => absurd (own.2 same) (by simp [there])
    have foreign : S.ours (c.profileFor d name).uuid = false := by
      rw [Core.profileFor, naming]
      refine clear j there d.binAddress other _ ?_
      simp [List.count_append]
    refine mirrors.seen_outside mine there next rfl rfl (Core.unsummoned rfl (by simp))
      (update_outside there _ _) listeners ?_ ?_ ?_
    · exact Registry.among_insert (r := c.registry.countSubmission) foreign
    · simp [List.count_append, other]
    · have overlooked : (Registry.Notice.added (c.profileFor d name)).concerns S.ours = false := foreign
      simp [duty?, there, overlooked]

end Submissions

/-! ### All that follows -/

/-- **What follows by itself follows inside, or nothing is seen of it.** -/
theorem Mirrors.seen (mirrors : S.Mirrors c o) (mine : S.inside id) (regular : c.Regular) (fits : S.Fits c)
    (sealed : S.Sealed c) (clear : S.Clear c'.submitted) (proceeds : Core.Proceeds roster c s c') :
    S.Seen id c o c' := by
  obtain ⟨change, there, known⟩ := proceeds
  have prompt := regular.prompt
  -- who is not there does not listen
  have absent {j : DeviceId} (gone : c.devices j = none) {x : Subscription} (mem : x ∈ c.subscriptions) :
      x.listener ≠ .device j := by
    intro named
    exact absurd (regular.subscribed x mem j named) (by simp [gone])
  cases change with
  | create path g t =>
    have new := there c.nextId
    simp [regular.upkeep.devices_nextId] at new
  | destroy j =>
    have gone : c.devices j = none := by
      have same := there j
      simpa using same.symm
    have same : update c.devices j none = c.devices := by rw [← gone, Function.update_eq_self]
    refine .of_same mirrors mine rfl ?_ fun i _ => congrFun same i
    refine { mirrors.toShows with
      devices := fun i inside => (mirrors.devices i inside).trans (congrFun same i).symm
      listeners := mirrors.listeners.trans (listeners_filter fun x mem i _ _ => ?_).symm }
    simpa using absent gone mem
  | enlist name =>
    refine .of_same mirrors mine rfl ?_ fun i _ => rfl
    refine { mirrors.toShows with listeners := mirrors.listeners.trans ?_ }
    simp [listeners, listener?]
  | cancel name k found =>
    refine .of_same mirrors mine rfl ?_ fun i _ => rfl
    refine { mirrors.toShows with
      listeners := mirrors.listeners.trans (listeners_filter fun x mem i named _ => ?_).symm }
    have gone := (regular.listening.named name k found).2
    have other : x.id ≠ k := by
      rintro rfl
      rw [regular.listening.own x mem i named] at gone
      exact absent gone mem named
    simpa using other
  | receivers | reported | endRuns | comeUp =>
    exact .of_same mirrors mine rfl { mirrors.toShows with } fun i _ => rfl
  | startRun j d found first =>
    rcases known with known | same
    · exact absurd known (Nat.succ_ne_self _)
    · have started := congrFun same j
      simp only [Function.update_self, found, Option.some.injEq] at started
      exact absurd (congrArg Device.started started) (by simp [first])
  | session _ _ _ _ allowed | summon _ _ _ _ allowed | edit _ _ _ _ _ _ _ _ _ _ allowed
  | findPower _ _ _ _ _ _ _ allowed => exact allowed.elim
  | requestUnheard _ _ _ lawful | request _ _ _ _ _ lawful => exact lawful.elim
  | defer ds quiet pursuits =>
    refine .of_aside mirrors mine (fun i _ => Core.not_summoned_of_quiet quiet)
      (fun i => Core.not_summoned_of_quiet pursuits) ?_ fun i _ => rfl
    refine { mirrors.toShows with agenda := ?_ }
    rw [mirrors.agenda, duty?_of_isPursuit quiet, duty?_of_isPursuit pursuits]
  | heardByAll n ds next => exact mirrors.seen_heardByAll mine prompt next
  | watched n w ls ds ws next watch =>
    refine .of_aside mirrors mine (fun i _ => Core.not_summoned next (by simp)) (fun i => ?_) ?_ fun i _ => rfl
    · refine Core.not_summoned_of_not_mem ?_
      simp [Core.not_mem_of_isWatch watch, prompt.rest next]
    · refine { mirrors.toShows with agenda := ?_ }
      rw [mirrors.agenda, next, List.filterMap_append, duty?_of_isWatch watch]
      simp [List.filterMap_cons, duty?, listener?]
  | turn duty ds ws next isWatch watch =>
    have other (i : DeviceId) : duty ≠ .reassess i := by
      rintro rfl
      exact absurd isWatch (by simp [Duty.isWatch])
    refine .of_aside mirrors mine (fun i _ => Core.not_summoned next (other i)) (fun i => ?_) ?_ fun i _ => rfl
    · refine Core.not_summoned_of_not_mem ?_
      simp [Core.not_mem_of_isWatch watch, prompt.rest next]
    · refine { mirrors.toShows with agenda := ?_ }
      have first : [duty].filterMap S.duty? = [] := duty?_of_isWatch (by simpa using isWatch)
      rw [mirrors.agenda, next, List.filterMap_append, duty?_of_isWatch watch, ← List.singleton_append,
        List.filterMap_append, first]
  | unmoved n j ls ds next deaf =>
    refine mirrors.seen_unmoved mine sealed fits next ?_
    cases found : c.devices j with
    | none => rfl
    | some d => exact deaf d found
  | moved n j ls ds d e next found hears => exact mirrors.seen_moved mine sealed fits next found hears
  | late duty j ds next about gone => exact mirrors.seen_late mine prompt next about gone
  | decide j d ds usable next found decided => exact mirrors.seen_decide mine prompt next found decided _
  | concede j d ds next found lacks due => exact mirrors.seen_concede mine next found lacks due
  | turnedDown j d ds name why next found lacks due refused =>
    exact mirrors.seen_turnedDown mine fits next found lacks due refused
  | handedIn j d ds name lives next found lacks due accepted living =>
    exact mirrors.seen_handedIn mine fits next found lacks due regular.subscribed sealed.naming clear accepted living
  | adopt j d uuid ds next found => exact mirrors.seen_adopt mine prompt next found
  | conclude j d ds next found => exact mirrors.seen_conclude mine prompt next found _

/-! ## What is done -/

section Done

variable {deed : Deed} (mirrors : S.Mirrors c o)

/-- The device that goes listens no longer. -/
theorem listeners_destroy (there : S.inside j) :
    (S.listeners c).filter (· ≠ .device (S.name j)) =
      ((c.subscriptions.filter (·.listener ≠ .device j)).map (·.listener)).filterMap S.listener? := by
  rw [listeners, List.filter_filterMap, List.filterMap_map, List.filterMap_map, List.filterMap_filter]
  refine List.filterMap_congr fun x _ => ?_
  cases named : x.listener with
  | watcher w => simp [named, listener?]
  | device i =>
    cases inside : S.inside i with
    | false => simp [named, listener?, inside]
    | true =>
      have same : S.name i = S.name j ↔ i = j := ⟨S.distinct i j inside there, congrArg S.name⟩
      by_cases here : i = j <;> simp [named, listener?, inside, same, here]

include mirrors

/-- When nobody is being notified nothing is left to do inside. -/
theorem Mirrors.idle (quiet : c.isQuiet) : o.agenda = [] ∧ o.summoned = false := by
  refine ⟨mirrors.agenda.trans (duty?_of_isPursuit quiet), Bool.eq_false_iff.2 fun summoned => ?_⟩
  obtain ⟨i, -, summoned⟩ := mirrors.summoned.1 summoned
  exact Core.not_summoned_of_quiet quiet summoned

/-- A request about the profiles of an address scope is handled there. -/
theorem Mirrors.request_inside {q : Registry.Request} {r : Registry} {m : Option Registry.Notice}
    (concerned : q.concerns S.ours) (handled : c.registry.handle q = (r, m)) :
    o.request q = { o with
      registry := r.among S.ours
      agenda := m.elim o.agenda fun n => [.announce n o.listeners] } := by
  obtain ⟨same, registry⟩ := Registry.handle_among (r := c.registry) concerned
  rw [handled, ← mirrors.registry] at same registry
  obtain rfl : (o.registry.handle q).2 = m := same
  rw [AddressSlice.request, ← show _ = r.among S.ours from registry]
  rcases o.registry.handle q with ⟨r', _ | n⟩ <;> rfl

/-- **A deed that is done inside is done there**, when it is its turn. -/
theorem Mirrors.does (mine : S.inside id) (regular : c.Regular) (fits' : S.Fits c') (sealed : S.Sealed c)
    (does : c.Does deed c') (kept : S.keeps deed) :
    o.agenda = (deed.rename S.name).after ∧ ((deed.rename S.name).tells = true → o.summoned = true) ∧
      S.Mirrors c' (o.after S.address (S.name id) (deed.rename S.name)) ∧
      (o.after S.address (S.name id) (deed.rename S.name)).said = o.said ++ c.told id deed := by
  -- a deed that is done when nobody is being notified, after which nobody is either
  have plain {deed : Deed} {o' : AddressSlice} (quiet : c.isQuiet) (left : deed.after = [])
    (tells : deed.tells = false)
      (same : c'.agenda = c.agenda) (waits : o'.summoned = o.summoned) (shows : S.Shows c' o')
      (said : o'.said = o.said ++ c.told id deed) :
      o.agenda = deed.after ∧ (deed.tells = true → o.summoned = true) ∧ S.Mirrors c' o' ∧
        o'.said = o.said ++ c.told id deed := by
    obtain ⟨empty, idle⟩ := mirrors.idle quiet
    refine ⟨empty.trans left.symm, fun tells' => absurd tells' (by simp [tells]), ⟨shows, ?_⟩, said⟩
    rw [waits, mirrors.summoned, Summons, Summons]
    simp only [Core.Summoned, same]
  have revised {j : DeviceId} {d : Device} {f : Device → Device} (there : S.inside j)
    (found : c.devices j = some d) :
      ∀ i, S.inside i → (o.revise (S.name j) f).devices (S.name i) = update c.devices j (some (f d)) i := by
    intro i inside
    rw [AddressSlice.revise, mirrors.devices j there, found]
    exact update_inside mirrors.devices there _ i inside
  cases does with
  | create path g t quiet =>
    have there : S.inside c.nextId := (S.keeps_of_device? rfl).symm.trans kept
    refine plain quiet rfl rfl rfl rfl ?_ (List.append_nil _).symm
    refine { mirrors.toShows with devices := update_inside mirrors.devices there _, listeners := ?_ }
    simp [AddressSlice.after, Deed.rename, listeners, listener?, there, mirrors.listeners]
  | destroy j quiet =>
    have there : S.inside j := (S.keeps_of_device? rfl).symm.trans kept
    refine plain quiet rfl rfl rfl rfl ?_ (List.append_nil _).symm
    refine { mirrors.toShows with devices := update_inside mirrors.devices there _, listeners := ?_ }
    change o.listeners.filter _ = _
    rw [mirrors.listeners]
    exact listeners_destroy there
  | start j d quiet found first =>
    have there : S.inside j := (S.keeps_of_device? rfl).symm.trans kept
    refine plain quiet rfl rfl rfl rfl ?_ (List.append_nil _).symm
    exact { mirrors.toShows with devices := revised there found }
  | session j d s quiet found =>
    have there : S.inside j := (S.keeps_of_device? rfl).symm.trans kept
    refine plain quiet rfl rfl rfl rfl ?_ (List.append_nil _).symm
    exact { mirrors.toShows with devices := revised there found }
  | power run j d on quiet found rising =>
    have there : S.inside j := (S.keeps_of_device? rfl).symm.trans kept
    refine plain quiet rfl rfl rfl rfl ?_ (List.append_nil _).symm
    exact { mirrors.toShows with devices := revised there found }
  | summon j d quiet found =>
    have there : S.inside j := (S.keeps_of_device? rfl).symm.trans kept
    obtain ⟨empty, idle⟩ := mirrors.idle quiet
    refine ⟨empty, fun tells => absurd tells (by simp [Deed.tells, Deed.rename]), ⟨?_, ?_⟩,
      (List.append_nil _).symm⟩
    · refine { mirrors.toShows with agenda := ?_ }
      simp [AddressSlice.after, Deed.rename, duty?, there, duty?_of_isPursuit quiet]
    · exact ⟨fun _ => ⟨j, there, c.agenda, rfl, quiet⟩, fun _ => rfl⟩
  | tell j d e es ds t next quiet found edit learns up =>
    have there : S.inside j := (S.keeps_of_device? rfl).symm.trans kept
    have left : o.agenda = [.reassess (S.name j)] := by
      rw [mirrors.agenda, next]
      simp [duty?, there, duty?_of_isPursuit quiet]
    have summoned : o.summoned = true := mirrors.summoned.2 ⟨j, there, ds, next, quiet⟩
    have found' : o.devices (S.name j) = some d := (mirrors.devices j there).trans found
    -- the device overlooks what it does not accept
    have learns' : d.learn o.registry.profiles t = (e, es) := by
      rw [mirrors.registry, ← learns]
      refine Device.learn_among t fun p mem accepts => ?_
      rw [learns] at accepts
      exact sealed.stored p mem (fits'.isFor (Function.update_self ..) there accepts)
    have told : (o.after S.address (S.name id) (.tell (S.name j) t)) =
        { o with devices := update o.devices (S.name j) (some e)
                 said := o.said ++ if S.name j = S.name id then es else [] } := by
      simp only [AddressSlice.after, AddressSlice.tell, found', learns']
    have same : S.name j = S.name id ↔ j = id := ⟨S.distinct j id there mine, congrArg S.name⟩
    refine ⟨left, fun _ => summoned, ?_, ?_⟩
    · rw [Deed.rename, told]
      refine ⟨{ mirrors.toShows with devices := update_inside mirrors.devices there _ }, ?_⟩
      exact ⟨fun _ => ⟨j, there, ds, next, quiet⟩, fun _ => summoned⟩
    · rw [Deed.rename, told, Core.told]
      simp only [same]
      by_cases here : j = id
      · subst here
        simp [found, learns]
      · simp [here]
  | requestUnheard q r quiet handled =>
    have concerned : q.concerns S.ours := kept
    have done : o.after S.address (S.name id) (.request q) = { o with registry := r.among S.ours } :=
      mirrors.request_inside concerned handled
    refine plain quiet rfl rfl rfl ?_ ?_ ?_
    · rw [Deed.rename, done]
    · rw [Deed.rename, done]
      exact { mirrors.toShows with registry := rfl }
    · rw [Deed.rename, done]
      exact (List.append_nil _).symm
  | request q r n lives quiet handled living =>
    have concerned : q.concerns S.ours := kept
    have heeded : n.concerns S.ours :=
      (Registry.concerns_notice (congrArg Prod.snd handled)).trans concerned
    have done : o.after S.address (S.name id) (.request q) =
        { o with registry := r.among S.ours, agenda := [.announce n o.listeners] } :=
      mirrors.request_inside concerned handled
    obtain ⟨empty, idle⟩ := mirrors.idle quiet
    have listeners := listeners_living (S := S) regular.subscribed living
    refine ⟨empty, fun tells => absurd tells (by simp [Deed.tells, Deed.rename]), ?_, ?_⟩
    · rw [Deed.rename, done]
      refine ⟨{ mirrors.toShows with
        listeners := mirrors.listeners.trans listeners.symm, registry := rfl, agenda := ?_ }, ?_⟩
      · simp [duty?, heeded, listeners, mirrors.listeners, duty?_of_isPursuit quiet]
      · refine ⟨fun summoned => absurd summoned (by simp [idle]), ?_⟩
        rintro ⟨i, -, summoned⟩
        exact absurd summoned (Core.unsummoned rfl (by simp) i)
    · rw [Deed.rename, done]
      exact (List.append_nil _).symm

/-- **Nothing is seen of a deed that is done outside.** -/
theorem Mirrors.unseen (mine : S.inside id) (regular : c.Regular) (does : c.Does deed c')
    (dropped : S.keeps deed = false) : S.Mirrors c' o ∧ c.told id deed = [] := by
  -- a deed that is about a device outside and leaves the agenda alone
  have plain {j : DeviceId} (foreign : S.inside j = false) (same : c'.agenda = c.agenda)
      (registry : c'.registry = c.registry) (submitted : c'.submitted = c.submitted) {x : Option Device}
      (devices : c'.devices = update c.devices j x) (listeners : S.listeners c' = S.listeners c) :
      S.Mirrors c' o := by
    refine ⟨⟨fun i there => ?_, mirrors.listeners.trans listeners.symm,
      mirrors.naming.trans does.free.naming.symm, ?_, ?_, ?_⟩, ?_⟩
    · rw [devices, update_outside foreign _ _ i there]
      exact mirrors.devices i there
    · rw [registry, mirrors.registry]
    · rw [submitted, mirrors.submitted]
    · rw [same, mirrors.agenda]
    · rw [mirrors.summoned, Summons, Summons]
      simp only [Core.Summoned, same]
  cases does with
  | create path g t quiet =>
    have foreign : S.inside c.nextId = false := (S.keeps_of_device? rfl).symm.trans dropped
    exact ⟨plain foreign rfl rfl rfl rfl (by simp [listeners, listener?, foreign]), rfl⟩
  | destroy j quiet =>
    have foreign : S.inside j = false := (S.keeps_of_device? rfl).symm.trans dropped
    refine ⟨plain foreign rfl rfl rfl rfl (listeners_filter fun x mem i named there => ?_), rfl⟩
    have other : i ≠ j := by
      rintro rfl
      exact absurd there (by simp [foreign])
    simpa [named] using other
  | start j d quiet found first =>
    have foreign : S.inside j = false := (S.keeps_of_device? rfl).symm.trans dropped
    exact ⟨plain foreign rfl rfl rfl rfl rfl, rfl⟩
  | session j d s quiet found =>
    have foreign : S.inside j = false := (S.keeps_of_device? rfl).symm.trans dropped
    exact ⟨plain foreign rfl rfl rfl rfl rfl, rfl⟩
  | power run j d on quiet found rising =>
    have foreign : S.inside j = false := (S.keeps_of_device? rfl).symm.trans dropped
    exact ⟨plain foreign rfl rfl rfl rfl rfl, rfl⟩
  | summon j d quiet found =>
    have foreign : S.inside j = false := (S.keeps_of_device? rfl).symm.trans dropped
    obtain ⟨empty, idle⟩ := mirrors.idle quiet
    refine ⟨⟨{ mirrors.toShows with agenda := ?_ }, ?_⟩, rfl⟩
    · rw [mirrors.agenda]
      simp [duty?, foreign]
    · refine ⟨fun summoned => absurd summoned (by simp [idle]), ?_⟩
      rintro ⟨i, there, ds, next, -⟩
      obtain ⟨⟨rfl⟩, -⟩ := List.cons.inj next
      exact absurd there (by simp [foreign])
  | tell j d e es ds t next quiet found edit learns up =>
    have foreign : S.inside j = false := (S.keeps_of_device? rfl).symm.trans dropped
    refine ⟨plain foreign rfl rfl rfl rfl rfl, if_neg ?_⟩
    rintro rfl
    exact absurd mine (by simp [foreign])
  | requestUnheard q r quiet handled =>
    have foreign : q.concerns S.ours = false := dropped
    have same := Registry.handle_foreign (r := c.registry) foreign
    rw [handled] at same
    exact ⟨⟨{ mirrors.toShows with registry := mirrors.registry.trans same.symm }, mirrors.summoned⟩, rfl⟩
  | request q r n lives quiet handled living =>
    have foreign : q.concerns S.ours = false := dropped
    have same := Registry.handle_foreign (r := c.registry) foreign
    rw [handled] at same
    have overlooked : n.concerns S.ours = false :=
      (Registry.concerns_notice (congrArg Prod.snd handled)).trans foreign
    obtain ⟨empty, idle⟩ := mirrors.idle quiet
    refine ⟨⟨{ mirrors.toShows with
      listeners := mirrors.listeners.trans (listeners_living regular.subscribed living).symm
      registry := mirrors.registry.trans same.symm
      agenda := ?_ }, ?_⟩, rfl⟩
    · rw [mirrors.agenda]
      simp [duty?, overlooked]
    · refine ⟨fun summoned => absurd summoned (by simp [idle]), ?_⟩
      rintro ⟨i, -, summoned⟩
      exact absurd summoned (Core.unsummoned rfl (by simp) i)

end Done

end AddressScope

end Piconet
