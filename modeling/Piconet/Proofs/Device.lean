import Piconet.Proofs.Core

/-!
# How a device keeps its candidates

Candidates are added one by one or in a survey of all that is stored, and are taken off one by one.
For each of these: which candidates there are afterwards, and that nothing else changes. An edit by
a run of discovery never takes a candidate off, and what a device accepts it accepts for good.
-/

namespace Piconet.Device

variable {d e : Device} {p : Profile} {u v : String} {stored : List Profile}

/-! ## Compatibility -/

/-- Whether a device accepts a profile is a matter of its address and its capabilities. -/
theorem accepts_congr (address : e.address = d.address) (capabilities : e.capabilities = d.capabilities)
    (p : Profile) : e.accepts p = d.accepts p := by
  have bytes : e.binAddress = d.binAddress := by rw [binAddress, binAddress, address]
  rw [accepts, accepts, address, capabilities, bytes]

/-- A device accepts a Bluetooth profile for its own address and for a role that its capabilities serve. -/
theorem accepts_iff : d.accepts p = true ↔ p.connectionType = Profile.bluetoothType ∧
    d.address.isSome ∧ ∃ b, p.bluetooth = some b ∧ b.bdaddr = d.binAddress.toList ∧
      ∃ r, Role.ofSettingType? b.deviceType = some r ∧ d.capabilities.serves r := by
  simp only [accepts, Bool.and_eq_true, decide_eq_true_eq, Option.any_eq_true, and_assoc]

/-- Whoever serves a role has a capability. -/
theorem isEmpty_of_serves {c : Capabilities} {r : Role} (serves : c.serves r) : c.isEmpty = false := by
  cases r <;> simp_all [Capabilities.serves, Capabilities.isEmpty]

/-- A device that accepts some profile has an address and a capability. -/
theorem identified_of_accepts (accepts : d.accepts p) :
    d.address.isSome ∧ d.capabilities.isEmpty = false := by
  obtain ⟨-, address, b, -, -, r, -, serves⟩ := accepts_iff.1 accepts
  exact ⟨address, isEmpty_of_serves serves⟩

/-! ## The gate -/

/-- The gate leaves it to a provisioned profile only when nothing else is missing. -/
theorem of_provision (lacks : d.gate.decision = .provision) :
    d.gate.ready ∧ d.candidates = [] ∧ d.capabilities.nap := by
  rw [Gate.decision] at lacks
  split at lacks
  · exact absurd lacks (by simp)
  · next ready =>
    rw [Bool.not_eq_true', Bool.not_eq_false] at ready
    split at lacks
    · exact absurd lacks (by simp)
    · next none =>
      split at lacks
      · next nap => exact ⟨ready, List.length_eq_zero_iff.1 (Nat.le_zero.1 (Nat.not_lt.1 none)), nap⟩
      · exact absurd lacks (by simp)

/-- Where the gate finds a device usable everything but a profile is there. -/
theorem ready_of_decided (decided : d.gate.decision = .decided true) : d.gate.ready := by
  rw [Gate.decision] at decided
  split at decided
  · exact absurd decided (by simp)
  · next ready => simpa using ready

/-! ## One candidate -/

theorem tracks_iff : d.tracks u = true ↔ u ∈ d.candidates := List.contains_iff_mem

/-- To track a UUID changes the list of candidates only. -/
theorem track_eq (d : Device) (u : String) :
    d.track u = { d with candidates := (d.track u).candidates } := by
  rw [track]
  split <;> rfl

/-- It is a candidate then, beside those before it. -/
theorem mem_track : v ∈ (d.track u).candidates ↔ v = u ∨ v ∈ d.candidates := by
  rw [track]
  split
  · next tracked =>
    constructor
    · exact .inr
    · rintro (rfl | kept)
      · exact tracks_iff.1 tracked
      · exact kept
  · exact List.mem_cons

/-- A candidate is not listed again. -/
theorem nodup_track (distinct : d.candidates.Nodup) : (d.track u).candidates.Nodup := by
  rw [track]
  split
  · exact distinct
  · next new => exact List.nodup_cons.2 ⟨fun tracked => new (tracks_iff.2 tracked), distinct⟩

/-- A device takes an accepted profile up that it does not track yet, as its first candidate. -/
theorem adopt?_eq_some : d.adopt? p = some e ↔
    d.accepts p = true ∧ p.uuid ∉ d.candidates ∧ e = { d with candidates := p.uuid :: d.candidates } := by
  simp only [adopt?, track, Option.ite_none_right_eq_some, Bool.and_eq_true, Bool.not_eq_true',
    Bool.eq_false_iff, ne_eq, tracks_iff, Option.some.injEq, and_assoc]
  refine and_congr_right fun _ => and_congr_right fun new => ?_
  rw [if_neg new, eq_comm]

/-- A device drops the UUID of a profile that it tracks, and `provisioned` with it if that is the one. -/
theorem forget?_eq_some : d.forget? p = some e ↔ p.uuid ∈ d.candidates ∧ e = { d with
    candidates := d.candidates.erase p.uuid
    provisioned := if d.provisioned = some p.uuid then none else d.provisioned } := by
  simp only [forget?, untrack, Option.ite_none_right_eq_some, tracks_iff, Option.some.injEq]
  apply and_congr_right
  intro tracked
  rw [if_pos tracked, eq_comm]

/-- It has nothing to drop if it does not track the profile. -/
theorem forget?_eq_none : d.forget? p = none ↔ p.uuid ∉ d.candidates := by
  rw [forget?, ite_eq_right_iff, tracks_iff]
  exact imp_congr_right fun _ => by simp

/-! ## Surveys -/

/-- To look at one more stored profile. -/
theorem getD_adopt? (d : Device) (p : Profile) :
    (d.adopt? p).getD d = if d.accepts p then d.track p.uuid else d := by
  by_cases accepts : d.accepts p <;> by_cases tracked : d.tracks p.uuid <;>
    simp [adopt?, track, accepts, tracked]

/-- To look through the registry changes the list of candidates only. -/
theorem survey_eq (d : Device) (stored : List Profile) :
    d.survey stored = { d with candidates := (d.survey stored).candidates } := by
  rw [survey]
  induction stored generalizing d with
  | nil => rfl
  | cons p ps ih =>
    rw [List.foldl_cons, ih, getD_adopt?]
    split
    · rw [track_eq]
    · rfl

/-- **A survey adds what the device accepts**, and nothing else. -/
theorem mem_survey : v ∈ (d.survey stored).candidates ↔
    v ∈ d.candidates ∨ ∃ p ∈ stored, d.accepts p = true ∧ p.uuid = v := by
  rw [survey]
  induction stored generalizing d with
  | nil => simp
  | cons p ps ih =>
    rw [List.foldl_cons, ih, getD_adopt?]
    split
    · next accepts =>
      have same : ∀ q, (d.track p.uuid).accepts q = d.accepts q := by
        rw [track_eq]
        exact accepts_congr rfl rfl
      simp only [mem_track, same, List.mem_cons, exists_eq_or_imp, accepts, true_and, or_assoc]
      rw [or_left_comm, @eq_comm _ v]
    · next rejects => simp [rejects]

/-- No candidate is listed twice after a survey. -/
theorem nodup_survey (distinct : d.candidates.Nodup) : (d.survey stored).candidates.Nodup := by
  rw [survey]
  induction stored generalizing d with
  | nil => exact distinct
  | cons p ps ih =>
    rw [List.foldl_cons, getD_adopt?]
    split
    · exact ih (nodup_track distinct)
    · exact ih distinct

/-! ## Hearing of a change -/

variable {n : Registry.Notice}

/-- **What a device that follows a change does**: it adds a candidate, takes one off or surveys all
that is stored. -/
theorem hear_cases (hears : d.hear stored n = some e) :
    (∃ p, (n = .added p ∧ d.submitting = false ∨ n = .updated p) ∧ d.accepts p ∧
      p.uuid ∉ d.candidates ∧ e = { d with candidates := p.uuid :: d.candidates }) ∨
    (∃ p, (n = .removed p ∨ n = .updated p ∧ d.accepts p = false) ∧ p.uuid ∈ d.candidates ∧
      e = { d with
        candidates := d.candidates.erase p.uuid
        provisioned := if d.provisioned = some p.uuid then none else d.provisioned }) ∨
    n = .loaded ∧ e = d.survey stored := by
  cases n with
  | added p =>
    rw [hear] at hears
    split at hears
    · exact absurd hears (by simp)
    · next idle =>
      exact .inl ⟨p, .inl ⟨rfl, Bool.eq_false_iff.2 idle⟩, adopt?_eq_some.1 hears⟩
  | removed p => exact .inr (.inl ⟨p, .inl rfl, forget?_eq_some.1 hears⟩)
  | updated p =>
    rw [hear] at hears
    split at hears
    · exact .inl ⟨p, .inr rfl, adopt?_eq_some.1 hears⟩
    · next rejects =>
      exact .inr (.inl ⟨p, .inr ⟨rfl, Bool.eq_false_iff.2 rejects⟩, forget?_eq_some.1 hears⟩)
  | loaded => exact .inr (.inr ⟨rfl, (Option.some.inj hears).symm⟩)

/-- A device that follows a change revises its candidates, and maybe forgets the profile it
submitted. -/
theorem hear_eq (hears : d.hear stored n = some e) :
    e = { d with candidates := e.candidates, provisioned := e.provisioned } := by
  rcases hear_cases hears with ⟨p, -, -, -, rfl⟩ | ⟨p, -, -, rfl⟩ | ⟨-, rfl⟩
  · rfl
  · rfl
  · rw [survey_eq]

/-- A device that follows an addition takes the profile up. -/
theorem candidates_ne_nil_of_hears_added (hears : d.hear stored (.added p) = some e) : e.candidates ≠ [] := by
  obtain ⟨-, adopts⟩ := Option.ite_none_left_eq_some.1 hears
  obtain ⟨-, -, rfl⟩ := adopt?_eq_some.1 adopts
  exact List.cons_ne_nil _ _

/-- A device that hears of a profile that it accepts has it as a candidate then, unless it is deaf to
it for submitting one. -/
theorem mem_of_hear (accepts : d.accepts p)
    (about : n = .added p ∧ d.submitting = false ∨ n = .updated p) :
    p.uuid ∈ ((d.hear stored n).getD d).candidates := by
  have adopts : (d.hear stored n) = d.adopt? p := by
    rcases about with ⟨rfl, idle⟩ | rfl
    · simp [hear, idle]
    · simp [hear, accepts]
  rw [adopts, getD_adopt?, if_pos accepts]
  exact mem_track.2 (.inl rfl)

/-- A device that hears that a profile is no longer for it has no candidate of that name then. -/
theorem not_mem_of_hear (distinct : d.candidates.Nodup)
    (about : n = .removed p ∨ n = .updated p ∧ d.accepts p = false) :
    p.uuid ∉ ((d.hear stored n).getD d).candidates := by
  have forgets : (d.hear stored n) = d.forget? p := by
    rcases about with rfl | ⟨rfl, rejects⟩
    · rfl
    · simp [hear, rejects]
  rw [forgets]
  cases forgotten : d.forget? p with
  | none => exact forget?_eq_none.1 forgotten
  | some e =>
    obtain ⟨-, rfl⟩ := forget?_eq_some.1 forgotten
    exact distinct.not_mem_erase

/-! ## Edits -/

/-- An address that is known is kept. -/
theorem address_merge {a : KnownAddress} (known : d.address = some a) (b : PropertyBatch) :
    (d.merge b).address = some a := by
  simp [merge, offerAddress, known]

/-- Capabilities that are known are kept. -/
theorem capabilities_merge (known : d.capabilities.isEmpty = false) (b : PropertyBatch) :
    (d.merge b).capabilities = d.capabilities := by
  rw [merge]
  cases b.uuids with
  | none => rfl
  | some uuids => simp [offerServices, known]

/-- **What is accepted once is accepted for good**: address and capabilities are kept once known. -/
theorem accepts_merge (accepts : d.accepts p) (b : PropertyBatch) : (d.merge b).accepts p := by
  obtain ⟨address, capabilities⟩ := identified_of_accepts accepts
  obtain ⟨a, known⟩ := Option.isSome_iff_exists.1 address
  rwa [accepts_congr ((address_merge known b).trans known.symm) (capabilities_merge capabilities b)]

/-- A batch that does not touch the identity of a device leaves what it accepts as it is. -/
theorem accepts_eq_of_identity (kept : (d.changes e).identity = false) (p : Profile) :
    e.accepts p = d.accepts p := by
  simp only [changes, Changes.identity, Bool.or_eq_false_iff, decide_eq_false_iff_not,
    not_not] at kept
  exact accepts_congr kept.1.symm kept.2.symm p

namespace Edit

variable {es : List Event}

/-- What no edit touches. -/
theorem kept (edit : d.Edit stored e es) :
    e.started = d.started ∧ e.attempted = d.attempted ∧ e.submitting = d.submitting ∧
      e.provisioned = d.provisioned ∧ e.usable = d.usable := by
  cases edit with
  | bus | power | report => exact ⟨rfl, rfl, rfl, rfl, rfl⟩
  | batch b =>
    split
    · rw [survey_eq]
      exact ⟨rfl, rfl, rfl, rfl, rfl⟩
    · exact ⟨rfl, rfl, rfl, rfl, rfl⟩
  | fetch b =>
    rw [survey_eq]
    exact ⟨rfl, rfl, rfl, rfl, rfl⟩

/-- An edit of discovery takes nothing away from what a device accepts. -/
theorem accepts (edit : d.Edit stored e es) (accepted : d.accepts p) : e.accepts p := by
  cases edit with
  | bus | power | report => exact accepted
  | batch b =>
    split
    · rw [survey_eq]
      exact accepts_merge accepted b
    · exact accepts_merge accepted b
  | fetch b =>
    rw [survey_eq]
    exact accepts_merge accepted b

/-- Address and capabilities are kept once known. -/
theorem identity (edit : d.Edit stored e es) (address : d.address.isSome)
    (capabilities : d.capabilities.isEmpty = false) :
    e.address = d.address ∧ e.capabilities = d.capabilities := by
  obtain ⟨a, known⟩ := Option.isSome_iff_exists.1 address
  have merged (b : PropertyBatch) :
      (d.merge b).address = d.address ∧ (d.merge b).capabilities = d.capabilities :=
    ⟨(address_merge known b).trans known.symm, capabilities_merge capabilities b⟩
  cases edit with
  | bus | power | report => exact ⟨rfl, rfl⟩
  | batch b =>
    split
    · rw [survey_eq]
      exact merged b
    · exact merged b
  | fetch b =>
    rw [survey_eq]
    exact merged b

/-- An edit takes no candidate off. -/
theorem mono (edit : d.Edit stored e es) (tracked : v ∈ d.candidates) : v ∈ e.candidates := by
  cases edit with
  | bus | power | report => exact tracked
  | batch b =>
    split
    · exact mem_survey.2 (.inl tracked)
    · exact tracked
  | fetch b => exact mem_survey.2 (.inl tracked)

/-- A candidate that an edit adds names a stored profile that the device accepts from then on. -/
theorem new (edit : d.Edit stored e es) (tracked : v ∈ e.candidates) :
    v ∈ d.candidates ∨ ∃ p ∈ stored, e.accepts p ∧ p.uuid = v := by
  cases edit with
  | bus | power | report => exact .inl tracked
  | batch b =>
    split at tracked
    · next identity =>
      rw [if_pos identity, survey_eq]
      exact mem_survey.1 tracked
    · exact .inl tracked
  | fetch b =>
    rw [survey_eq]
    exact mem_survey.1 tracked

/-- What the device comes to accept by an edit is a candidate after it, if it is stored. -/
theorem gained (edit : d.Edit stored e es) (isStored : p ∈ stored) (accepted : e.accepts p)
    (gain : ¬ d.accepts p) : p.uuid ∈ e.candidates := by
  cases edit with
  | bus | power | report => exact absurd accepted gain
  | batch b =>
    split
    · next identity =>
      rw [if_pos identity, survey_eq] at accepted
      exact mem_survey.2 (.inr ⟨p, isStored, accepted, rfl⟩)
    · next identity =>
      rw [if_neg identity, accepts_eq_of_identity (Bool.eq_false_iff.2 identity)] at accepted
      exact absurd accepted gain
  | fetch b =>
    rw [survey_eq] at accepted
    exact mem_survey.2 (.inr ⟨p, isStored, accepted, rfl⟩)

/-- No candidate is listed twice after an edit. -/
theorem nodup (edit : d.Edit stored e es) (distinct : d.candidates.Nodup) : e.candidates.Nodup := by
  cases edit with
  | bus | power | report => exact distinct
  | batch b =>
    split
    · exact nodup_survey distinct
    · exact distinct
  | fetch b => exact nodup_survey distinct

end Edit

end Piconet.Device
