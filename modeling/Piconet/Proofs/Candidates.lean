import Piconet.Proofs.Attempts
import Piconet.Proofs.Compatibility
import Piconet.Proofs.SuppressedAdditions
import Piconet.Proofs.Storage

/-!
# How candidates are kept

A candidate is taken up at the front of the list, by a device that hears of a profile, looks through the
registry or adopts the profile that it submitted, and it keeps its place until it is taken off. So
candidates are told apart, and they come in the order in which they were last taken up
(`Bench.candidates_in_order`). `Bench.tracked` notes for a whole run what a device takes up.

In most moves a device takes nothing up (`Core.Changes.candidates_sublist`). In one that goes on with its run
of discovery it may look through the registry, and if it finds anything then its identity is known and no
further look in this move brings anything more (`Device.Gathers.edit`). What a device submitted it adopts
right after the announcement, and nothing else comes in between (`Capped`).
-/

namespace Piconet

open Function (update)

variable {law : Core → Registry.Request → Prop} {scope : Core.Scope} {c c' : Core}
  {s : Option (DeviceId × Profile)} {id : DeviceId} {d e : Device}

/-! ## What is to be adopted -/

/-- Whether a device is to take its submitted profile as its own. -/
def Duty.isAdoption : Duty → Bool
  | .adopt .. => true
  | _ => false

/-- What is to be adopted stands right under an announcement. -/
inductive Capped : List Duty → Prop
  | nil : Capped []
  | other {duty : Duty} {ds : List Duty} (plain : duty.isAdoption = false) (capped : Capped ds) :
      Capped (duty :: ds)
  | cap (n : Registry.Notice) (ls : List Listener) (id : DeviceId) (uuid : String) {ds : List Duty}
      (capped : Capped ds) : Capped (.announce n ls :: .adopt id uuid :: ds)

/-- The same, but for a first duty that has its turn. -/
inductive Poised : List Duty → Prop
  | capped {ds : List Duty} (capped : Capped ds) : Poised ds
  | adopting (id : DeviceId) (uuid : String) {ds : List Duty} (capped : Capped ds) :
      Poised (.adopt id uuid :: ds)

namespace Capped

variable {duty : Duty} {ds ws : List Duty}

/-- What adopts nothing may be put in front. -/
theorem append (plain : ∀ w ∈ ws, w.isAdoption = false) (capped : Capped ds) : Capped (ws ++ ds) := by
  induction ws with
  | nil => exact capped
  | cons w ws ih =>
    exact .other (plain w List.mem_cons_self) (ih fun d hd => plain d (List.mem_cons_of_mem _ hd))

theorem of_plain (plain : ∀ duty ∈ ds, duty.isAdoption = false) : Capped ds := by
  have all := append plain .nil
  rwa [List.append_nil] at all

/-- Nothing to be adopted has its turn. -/
theorem not_adopt {uuid : String} (capped : Capped (.adopt id uuid :: ds)) : False := by
  cases capped with
  | other plain => exact absurd plain (by simp [Duty.isAdoption])

/-- Once a duty that announces nothing is done, nothing has lost its cap. -/
theorem rest (capped : Capped (duty :: ds)) (silent : ∀ n ls, duty ≠ .announce n ls) : Capped ds := by
  cases capped with
  | other _ capped => exact capped
  | cap n ls => exact absurd rfl (silent n ls)

/-- An announcement goes on. -/
theorem hear {n : Registry.Notice} {ls : List Listener} (capped : Capped (.announce n ls :: ds))
    (ls' : List Listener) : Capped (.announce n ls' :: ds) := by
  cases capped with
  | other plain capped => exact .other rfl capped
  | cap _ _ id uuid capped => exact .cap n ls' id uuid capped

/-- What comes under an announcement that is over. -/
theorem poised {n : Registry.Notice} {ls : List Listener} (capped : Capped (.announce n ls :: ds)) :
    Poised ds := by
  cases capped with
  | other _ capped => exact .capped capped
  | cap _ _ id uuid capped => exact .adopting id uuid capped

end Capped

/-- Unless an adoption is next, none is on its way uncovered. -/
theorem Poised.capped_of_head {ds : List Duty} (poised : Poised ds)
    (idle : ∀ id uuid, ds.head? ≠ some (.adopt id uuid)) : Capped ds := by
  cases poised with
  | capped capped => exact capped
  | adopting id uuid => exact absurd rfl (idle id uuid)

theorem isAdoption_of_isWatch {ws : List Duty} (watch : ws.all Duty.isWatch) :
    ∀ w ∈ ws, w.isAdoption = false := by
  intro w mem
  obtain ⟨_, _, _, rfl⟩ | ⟨_, _, rfl⟩ | ⟨_, _, rfl⟩ := Duty.eq_of_isWatch (List.all_eq_true.1 watch w mem) <;> rfl

theorem isAdoption_of_isPursuit {ws : List Duty} (pursuits : ws.all Duty.isPursuit) :
    ∀ w ∈ ws, w.isAdoption = false := by
  intro w mem
  obtain ⟨run, rfl⟩ := Duty.eq_of_isPursuit (List.all_eq_true.1 pursuits w mem)
  rfl

namespace Core

/-- **What is to be adopted keeps its cap**, unless an announcement goes on and is over. -/
theorem Change.capped_or (change : Change law scope c s c') (capped : Capped c.agenda) :
    Capped c'.agenda ∨ scope.hearing ∧ Poised c'.agenda := by
  have rest {duty : Duty} {ds : List Duty} (next : c.agenda = duty :: ds)
      (silent : ∀ n ls, duty ≠ .announce n ls) : Capped ds := by
    rw [next] at capped
    exact capped.rest silent
  cases change with
  | create | destroy | enlist | cancel | receivers | reported | startRun | endRuns | comeUp
  | session | edit | findPower | requestUnheard => exact .inl capped
  | defer ds quiet pursuits => exact .inl (.of_plain (isAdoption_of_isPursuit pursuits))
  | summon | request => exact .inl (.other rfl capped)
  | heardByAll n ds next allowed =>
    rw [next] at capped
    exact .inr ⟨allowed, capped.poised⟩
  | watched n w ls ds ws next watch =>
    rw [next] at capped
    exact .inl (.append (isAdoption_of_isWatch watch) (capped.hear ls))
  | unmoved n j ls ds next =>
    rw [next] at capped
    exact .inl (capped.hear ls)
  | moved n j ls ds d e next =>
    rw [next] at capped
    exact .inl (.other rfl (capped.hear ls))
  | turn duty ds ws next isWatch watch =>
    refine .inl (.append (isAdoption_of_isWatch watch) (rest next ?_))
    rintro n ls rfl
    exact absurd isWatch (by simp [Duty.isWatch])
  | late duty j ds next about =>
    refine .inl (rest next ?_)
    rintro n ls rfl
    exact absurd about (by simp)
  | concede j d ds next => exact .inl (.other rfl (rest next (by simp)))
  | turnedDown j d ds name why next => exact .inl (.other rfl (rest next (by simp)))
  | handedIn j d ds name lives next => exact .inl (.cap _ _ _ _ (.other rfl (rest next (by simp))))
  | decide _ _ _ _ next | adopt _ _ _ _ next | conclude _ _ _ next => exact .inl (rest next (by simp))

/-- An adoption that has its turn goes first. -/
theorem Step.poised_of_adopting (step : Step law c s c') {uuid : String} {ds : List Duty}
    (next : c.agenda = .adopt id uuid :: ds) (capped : Capped ds) : Poised c'.agenda := by
  have turn {duty : Duty} {ds' : List Duty} (next' : c.agenda = duty :: ds') :
      duty = .adopt id uuid ∧ ds' = ds := List.cons.inj (next'.symm.trans next)
  have shut : c.isOpen = false := by simp [isOpen, isQuiet, next, Duty.isPursuit, Duty.isWatch]
  have loud : c.isQuiet = false := by simp [isQuiet, next, Duty.isPursuit]
  cases step with
  | defer ds' quiet | summon _ _ quiet => exact absurd quiet (by simp [loud])
  | request q r n lives isOpen => exact absurd isOpen (by simp [shut])
  | turn duty ds' ws next' isWatch =>
    rw [(turn next').1] at isWatch
    exact absurd isWatch (by simp [Duty.isWatch])
  | late duty j ds' next' => exact .capped ((turn next').2 ▸ capped)
  | adopt j d u ds' next' => exact .capped ((turn next').2 ▸ capped)
  | heardByAll _ _ next' | watched _ _ _ _ _ next' | unmoved _ _ _ _ next' | moved _ _ _ _ _ _ next'
  | decide _ _ _ _ next' | concede _ _ _ next' | turnedDown _ _ _ _ _ next'
  | handedIn _ _ _ _ _ next' | conclude _ _ _ next' => exact absurd (turn next').1 (by simp)
  | _ =>
    change Poised c.agenda
    rw [next]
    exact .adopting id uuid capped

/-- **An adoption comes right after the announcement it belongs to**, after every step. -/
theorem Step.poised (step : Step law c s c') (poised : Poised c.agenda) : Poised c'.agenda := by
  generalize agenda : c.agenda = ds at poised
  cases poised with
  | capped capped => exact (step.capped_or (agenda ▸ capped)).elim .capped And.right
  | adopting id uuid capped => exact step.poised_of_adopting agenda capped

end Core

/-! ## What a look through the registry adds -/

namespace Device

variable {stored : List Profile} {before : List String} {es : List Event} {b : PropertyBatch} {p : Profile}

/-- **A survey puts what it adds in front**, the later stored the further in front. -/
theorem candidates_survey (d : Device) (stored : List Profile) :
    ∃ new, new.Sublist (stored.map (·.uuid)).reverse ∧ (∀ u ∈ new, u ∉ d.candidates) ∧
      (d.survey stored).candidates = new ++ d.candidates := by
  rw [survey]
  induction stored generalizing d with
  | nil => exact ⟨[], .refl _, by simp, rfl⟩
  | cons p stored ih =>
    obtain ⟨new, sub, apart, all⟩ := ih ((d.adopt? p).getD d)
    rw [List.foldl_cons, List.map_cons, List.reverse_cons]
    cases taken : d.adopt? p with
    | none =>
      rw [taken] at apart all
      exact ⟨new, sub.trans (List.sublist_append_left _ _), apart, all⟩
    | some e =>
      obtain ⟨-, fresh, rfl⟩ := adopt?_eq_some.1 taken
      rw [taken] at apart all
      refine ⟨new ++ [p.uuid], sub.append (.refl _), ?_, by rw [all]; simp⟩
      intro u mem
      rcases List.mem_append.1 mem with mem | mem
      · exact fun old => apart u mem (List.mem_cons_of_mem _ old)
      · rwa [List.mem_singleton.1 mem]

/-- What an edit does to candidates: nothing, or as much as a look through the registry. -/
theorem Edit.candidates_or (edit : d.Edit stored e es) : e.candidates = d.candidates ∨
    ∃ b, e.candidates = ((d.merge b).survey stored).candidates ∧ ∀ p, e.accepts p = (d.merge b).accepts p := by
  have surveyed (b : PropertyBatch) (p : Profile) :
      ((d.merge b).survey stored).accepts p = (d.merge b).accepts p := by
    rw [survey_eq]
    rfl
  cases edit with
  | bus | power | report => exact .inl rfl
  | batch b =>
    split
    · exact .inr ⟨b, rfl, surveyed b⟩
    · exact .inl rfl
  | fetch b => exact .inr ⟨b, rfl, surveyed b⟩

/-- A device that accepts some profile accepts the same after every batch. -/
theorem accepts_eq_of_accepts {q : Profile} (accepts : d.accepts q) (b : PropertyBatch) (p : Profile) :
    (d.merge b).accepts p = d.accepts p := by
  obtain ⟨address, capabilities⟩ := identified_of_accepts accepts
  obtain ⟨a, known⟩ := Option.isSome_iff_exists.1 address
  exact accepts_congr ((address_merge known b).trans known.symm) (capabilities_merge capabilities b) p

/-- The candidates of a device are those that it had before and, in front of them, stored ones that it
found. If it found any, it has found all that is for it. -/
def Gathers (stored : List Profile) (before : List String) (e : Device) : Prop :=
  ∃ new, new.Sublist (stored.map (·.uuid)).reverse ∧ (∀ u ∈ new, u ∉ before) ∧
    e.candidates = new ++ before ∧ (new = [] ∨ e.Covers stored ∧ ∃ p ∈ stored, e.accepts p)

theorem Gathers.refl (stored : List Profile) (d : Device) : Gathers stored d.candidates d :=
  ⟨[], List.nil_sublist _, by simp, rfl, .inl rfl⟩

/-- A device looks through the registry for the first time. -/
theorem gathers_survey (surveyed : e.candidates = ((d.merge b).survey stored).candidates)
    (accepts : ∀ p, e.accepts p = (d.merge b).accepts p) : Gathers stored d.candidates e := by
  obtain ⟨new, sub, apart, added⟩ := candidates_survey (d.merge b) stored
  refine ⟨new, sub, apart, surveyed.trans added, ?_⟩
  cases new with
  | nil => exact .inl rfl
  | cons u us =>
    have covers : e.Covers stored := fun q isStored accepted =>
      surveyed ▸ mem_survey.2 (.inr ⟨q, isStored, accepts q ▸ accepted, rfl⟩)
    have tracked : u ∈ ((d.merge b).survey stored).candidates := added ▸ List.mem_cons_self
    rcases mem_survey.1 tracked with old | ⟨q, isStored, accepted, -⟩
    · exact absurd old (apart u List.mem_cons_self)
    · exact .inr ⟨covers, q, isStored, (accepts q).trans accepted⟩

/-- A device that has found all that is for it, and has found something, finds nothing more: what it
accepts is settled. -/
theorem survey_again (covers : d.Covers stored) (accepted : d.accepts p) (b : PropertyBatch) :
    ((d.merge b).survey stored).candidates = d.candidates := by
  have still : (d.merge b).Covers stored := fun q isStored accepts =>
    covers q isStored (accepts_eq_of_accepts accepted b q ▸ accepts)
  rw [survey_of_covers still]
  rfl

/-- As long as the candidates stay, all that was found stays found. -/
theorem Gathers.kept (gathers : Gathers stored before d) (same : e.candidates = d.candidates)
    (accepts : ∀ p, d.accepts p → e.accepts p)
    (gained : ∀ p ∈ stored, e.accepts p → d.accepts p ∨ p.uuid ∈ e.candidates) : Gathers stored before e := by
  obtain ⟨new, sub, apart, all, found⟩ := gathers
  refine ⟨new, sub, apart, same.trans all, found.imp_right ?_⟩
  rintro ⟨covers, p, isStored, accepted⟩
  refine ⟨fun q isStored now => ?_, p, isStored, accepts p accepted⟩
  rcases gained q isStored now with was | tracked
  · exact same ▸ covers q isStored was
  · exact tracked

/-- **To look through the registry once more brings nothing more.** -/
theorem Gathers.edit (gathers : Gathers stored before d) (edit : d.Edit stored e es) :
    Gathers stored before e := by
  have kept (same : e.candidates = d.candidates) : Gathers stored before e :=
    gathers.kept same (fun p => edit.accepts) fun p isStored accepts =>
      or_iff_not_imp_left.2 fun new => edit.gained isStored accepts new
  rcases edit.candidates_or with same | ⟨b, surveyed, accepts⟩
  · exact kept same
  · obtain ⟨new, -, -, all, found⟩ := gathers
    rcases found with rfl | ⟨covers, p, -, accepted⟩
    · obtain rfl : d.candidates = before := all
      exact gathers_survey surveyed accepts
    · exact kept (surveyed.trans (survey_again covers accepted b))

end Device

namespace Core

/-! ## Moves in which nobody hears of anything -/

/-- The candidates of a device, none if it is not there. -/
def candidates (c : Core) (id : DeviceId) : List String := ((c.devices id).map (·.candidates)).getD []

theorem candidates_eq (found : c.devices id = some d) : c.candidates id = d.candidates := by
  rw [candidates, found]
  rfl

theorem candidates_of_none (gone : c.devices id = none) : c.candidates id = [] := by
  rw [candidates, gone]
  rfl

/-- **What becomes of the candidates of a device** while it hears of nothing and adopts nothing: they
stay, unless its run of discovery edits it. -/
theorem Change.candidates_or (change : Change law scope c s c') (upkeep : c.Upkeep)
    (capped : Capped c.agenda) (unheard : ¬ scope.hearing) (there : c'.devices id = some e) :
    e.candidates = c.candidates id ∨
      scope.discovery id ∧ ∃ d es, c.devices id = some d ∧ d.Edit c.registry.profiles e es := by
  have same {d : Device} (found : c.devices id = some d) (kept : e.candidates = d.candidates) :
      e.candidates = c.candidates id := kept.trans (candidates_eq found).symm
  -- one device is put back with the candidates that it had
  have put {j : DeviceId} {d x : Device} (found : c.devices j = some d)
      (there : update c.devices j (some x) id = some e) (kept : x.candidates = d.candidates) :
      e.candidates = c.candidates id := by
    rcases eq_of_update_some there with ⟨rfl, rfl⟩ | ⟨-, other⟩
    · exact same found kept
    · exact same other rfl
  cases change with
  | create path g t =>
    rcases eq_of_update_some there with ⟨rfl, rfl⟩ | ⟨-, other⟩
    · exact .inl (candidates_of_none upkeep.devices_nextId).symm
    · exact .inl (same other rfl)
  | destroy j =>
    rcases eq_of_update there with ⟨-, gone⟩ | ⟨-, other⟩
    · exact absurd gone (by simp)
    · exact .inl (same other rfl)
  | startRun j d found | session j d s found | findPower run j d on quiet found
  | decide j d ds usable next found | turnedDown j d ds name why next found
  | handedIn j d ds name lives next found | conclude j d ds next found => exact .inl (put found there rfl)
  | edit j d x es ds next quiet found edit up allowed =>
    rcases eq_of_update_some there with ⟨rfl, rfl⟩ | ⟨-, other⟩
    · exact .inr ⟨allowed, d, es, found, edit⟩
    · exact .inl (same other rfl)
  | moved _ _ _ _ _ _ _ _ _ allowed => exact absurd allowed unheard
  | adopt j d uuid ds next =>
    rw [next] at capped
    exact capped.not_adopt.elim
  | _ => exact .inl (same there rfl)

/-- No other change uncovers an adoption. -/
theorem Change.capped (change : Change law scope c s c') (capped : Capped c.agenda)
    (unheard : ¬ scope.hearing) : Capped c'.agenda :=
  (change.capped_or capped).resolve_right fun heard => unheard heard.1

/-- **Outside of its run of discovery a device takes nothing up** while it hears of nothing. -/
theorem Changes.candidates_sublist (changes : Changes law scope c c') (upkeep : c.Upkeep)
    (capped : Capped c.agenda) (unheard : ¬ scope.hearing) (aside : ∀ id, ¬ scope.discovery id) :
    Capped c'.agenda ∧ ∀ id, (c'.candidates id).Sublist (c.candidates id) := by
  induction changes with
  | refl => exact ⟨capped, fun id => .refl _⟩
  | @tail c₁ c₂ changes change ih =>
    obtain ⟨capped, kept⟩ := ih
    refine ⟨change.capped capped unheard, fun id => ?_⟩
    cases there : c₂.devices id with
    | none =>
      rw [candidates_of_none there]
      exact List.nil_sublist _
    | some e =>
      have now : c₁.Upkeep := (Changes.steps changes).upkeep upkeep
      have same := (change.candidates_or now capped unheard there).resolve_right fun edited => aside id edited.1
      rw [candidates_eq there, same]
      exact kept id

/-- **In the turn of its run a device gathers what it finds stored.** -/
theorem Changes.gathers_stored (changes : Changes Bench.shut scope c c') (upkeep : c.Upkeep)
    (capped : Capped c.agenda) (unheard : ¬ scope.hearing) :
    Capped c'.agenda ∧ c.nextId ≤ c'.nextId ∧
      ∀ e, c'.devices id = some e → e.Gathers c.registry.profiles (c.candidates id) := by
  induction changes with
  | refl =>
    refine ⟨capped, Nat.le_refl _, fun e there => ?_⟩
    rw [candidates_eq there]
    exact .refl _ _
  | @tail c₁ c₂ changes change ih =>
    obtain ⟨capped, le, gathers⟩ := ih
    refine ⟨change.capped capped unheard, Nat.le_trans le change.step.nextId_le, fun e there => ?_⟩
    rcases change.step.origin there with ⟨x, before, revises⟩ | ⟨rfl, -, -, path, g, t, rfl⟩
    · have registry : c₁.registry = c.registry := Changes.registry_eq changes
      rw [← registry] at gathers ⊢
      rcases change.candidates_or ((Changes.steps changes).upkeep upkeep) capped unheard there with
        same | ⟨-, x', es, before', edit⟩
      · exact (gathers x before).kept (same.trans (candidates_eq before)) (fun p => revises.accepts)
          fun p isStored => revises.gained isStored
      · obtain rfl := Option.some.inj (before.symm.trans before')
        exact (gathers x before).edit edit
    · -- the device is new
      have unknown : c.devices c₁.nextId = none := by
        rw [Option.eq_none_iff_forall_ne_some]
        exact fun d found => absurd (upkeep.known _ d found) (Nat.not_lt.2 le)
      rw [candidates_of_none unknown]
      exact .refl _ (.fresh path g t)

end Core

theorem Bench.Reachable.poised {b : Bench} (reached : Reachable law b) : Poised b.host.agenda :=
  reached.core_induction (P := fun c => Poised c.agenda) (fun _ _ => .capped .nil) fun _ _ _ poised step =>
    step.poised poised

/-! ## One move -/

/-- From one list to the other some members go and others are put in front: a single one, or some of
the given ones in their order, the last of them first. -/
def Fronts (stored before after : List String) : Prop :=
  ∃ new kept, kept.Sublist before ∧ after = new ++ kept ∧ (∀ u ∈ new, u ∉ before) ∧
    (new.length ≤ 1 ∨ new.Sublist stored.reverse)

/-- Candidates may be dropped. -/
theorem Fronts.of_sublist {stored before after : List String} (fewer : after.Sublist before) :
    Fronts stored before after :=
  ⟨[], after, fewer, rfl, by simp, .inl (Nat.zero_le 1)⟩

/-- A survey puts stored profiles in front. -/
theorem Device.Gathers.fronts {stored : List Profile} {before : List String}
    (gathers : Gathers stored before e) : Fronts (stored.map (·.uuid)) before e.candidates := by
  obtain ⟨new, sub, apart, all, -⟩ := gathers
  exact ⟨new, before, .refl _, all, apart, .inr sub⟩

/-- To track a UUID puts it in front. -/
theorem Device.fronts_track (d : Device) (u : String) (stored : List String) :
    Fronts stored d.candidates (d.track u).candidates := by
  rw [track]
  split
  · exact .of_sublist (.refl _)
  · next fresh =>
    refine ⟨[u], d.candidates, .refl _, rfl, ?_, .inl (Nat.le_refl 1)⟩
    rintro v mem tracked
    exact fresh (tracks_iff.2 (List.mem_singleton.1 mem ▸ tracked))

/-- A device that hears of a change takes up one candidate, gives one up or looks through the
registry. -/
theorem Device.fronts_hear {stored : List Profile} {n : Registry.Notice} (hears : d.hear stored n = some e) :
    Fronts (stored.map (·.uuid)) d.candidates e.candidates := by
  rcases hear_cases hears with ⟨p, -, -, fresh, rfl⟩ | ⟨p, -, -, rfl⟩ | ⟨-, rfl⟩
  · refine ⟨[p.uuid], d.candidates, .refl _, rfl, ?_, .inl (Nat.le_refl 1)⟩
    rintro v mem
    rwa [List.mem_singleton.1 mem]
  · exact .of_sublist List.erase_sublist
  · obtain ⟨new, sub, apart, all⟩ := d.candidates_survey stored
    exact ⟨new, d.candidates, .refl _, all, apart, .inr sub⟩

namespace Host

variable {h : Host}

theorem core_candidates {h : Host} (found : h.device? id = some d) : h.core.candidates id = d.candidates :=
  Core.candidates_eq found

/-- A device is put back. -/
theorem fronts_setDevice {j : DeviceId} {d x : Device} (found : h.device? j = some d)
    (there : (h.setDevice j x).device? id = some e) {stored : List String}
    (fronts : Fronts stored d.candidates x.candidates) : Fronts stored (h.core.candidates id) e.candidates := by
  rw [device?_setDevice found] at there
  rcases Core.eq_of_update_some there with ⟨rfl, rfl⟩ | ⟨-, other⟩
  · rwa [core_candidates found]
  · rw [core_candidates other]
    exact .of_sublist (.refl _)

/-- A device that adopts its own profile puts it in front. -/
theorem fronts_adopt (h : Host) (j : DeviceId) (u : String) (stored : List String)
    (there : (h.adopt j u).device? id = some e) : Fronts stored (h.core.candidates id) e.candidates := by
  rw [adopt] at there
  split at there
  · next d found => exact fronts_setDevice found there (d.fronts_track u stored)
  · rw [core_candidates there]
    exact .of_sublist (.refl _)

/-- A device that hears of a profile puts it in front, or drops it, or leaves it where it is. -/
theorem fronts_hear (h : Host) (n : Registry.Notice) (l : Listener)
    (there : (h.hear n l).device? id = some e) :
    Fronts h.registry.uuids (h.core.candidates id) e.candidates := by
  have same (there : h.device? id = some e) : Fronts h.registry.uuids (h.core.candidates id) e.candidates := by
    rw [core_candidates there]
    exact .of_sublist (.refl _)
  cases l with
  | device j =>
    simp only [hear] at there
    split at there
    · next x heard =>
      obtain ⟨d, found, hears⟩ := Option.bind_eq_some_iff.1 heard
      exact fronts_setDevice found there (Device.fronts_hear hears)
    · exact same there
  | watcher w =>
    simp only [hear] at there
    split at there <;> exact same there

end Host

namespace Bench

variable {b b' : Bench} {m : Move}

/-- A device hears of a change, or adopts what it submitted. -/
theorem fronts_act {duty : Duty} {ds : List Duty} (next : b.host.agenda = duty :: ds)
    (turn : (∃ n ls, duty = .announce n ls) ∨ ∃ j u, duty = .adopt j u) (made : b.make .act = some b')
    (there : b'.host.device? id = some e) :
    Fronts b.host.registry.uuids (b.host.core.candidates id) e.candidates := by
  rw [make, next] at made
  obtain rfl := Option.some.inj made
  rcases turn with ⟨n, ls, rfl⟩ | ⟨j, u, rfl⟩
  · cases ls with
    | nil =>
      have same : b.host.device? id = some e := there
      rw [Host.core_candidates same]
      exact .of_sublist (.refl _)
    | cons l ls => exact ((b.host.withAgenda ds).urge [.announce n ls]).fronts_hear n l there
  · exact (b.host.withAgenda ds).fronts_adopt j u _ there

/-- A run of discovery asks the registry for nothing. -/
theorem unasked_of_pursued {run : RunId} (pursued : b.pursued? m = some run) : b.request? m = none := by
  cases m with
  | act =>
    rw [pursued?] at pursued
    split at pursued
    · next next => rw [request?, next]
    · exact absurd pursued (by simp)
  | poll run => rfl
  | step | follow | report => exact absurd pursued (by simp [pursued?])

/-- **What a device takes up in a move goes in front**, and the others keep their order. -/
theorem fronts_make (reached : Reachable free b) (made : b.make m = some b')
    (there : b'.host.device? id = some e) :
    Fronts b.host.registry.uuids (b.host.core.candidates id) e.candidates := by
  by_cases turn : m = .act ∧ ∃ duty ds, b.host.agenda = duty :: ds ∧
      ((∃ n ls, duty = .announce n ls) ∨ ∃ j u, duty = .adopt j u)
  · obtain ⟨rfl, duty, ds, next, turn⟩ := turn
    exact fronts_act next turn made there
  have upkeep := reached.upkeep
  have unheard : ¬ (b.scopeOf m).hearing := by
    intro heard
    obtain ⟨⟨n, ls⟩, going⟩ := Option.isSome_iff_exists.1 heard
    cases m with
    | act =>
      rw [announcing?] at going
      split at going
      · next n ls ds next => exact turn ⟨rfl, _, ds, next, .inl ⟨n, ls, rfl⟩⟩
      · exact absurd going (by simp)
    | step | poll | follow | report => exact absurd going (by simp [announcing?])
  have capped : Capped b.host.core.agenda := by
    refine reached.poised.capped_of_head fun j u head => ?_
    obtain ⟨ds, next⟩ := List.head?_eq_some_iff.1 head
    exact turn ⟨eq_act_of_busy next rfl rfl made, _, ds, next, .inr ⟨j, u, rfl⟩⟩
  -- a single change
  have single {law : Law} {s : Option (DeviceId × Profile)}
      (change : Core.Change law (b.scopeOf m) b.host.core s b'.host.core) :
      Fronts b.host.registry.uuids (b.host.core.candidates id) e.candidates := by
    rcases change.candidates_or upkeep capped unheard there with same | ⟨-, d, es, found, edit⟩
    · rw [same]
      exact .of_sublist (.refl _)
    · rw [Core.candidates_eq found]
      exact ((Device.Gathers.refl _ d).edit edit).fronts
  cases pursued : b.pursued? m with
  | none =>
    rcases reached.changes_make made with changes | ⟨-, s, change⟩
    · have aside (j : DeviceId) : ¬ (b.scopeOf m).discovery j := by
        rintro ⟨run, r, taken, -⟩
        exact absurd (pursued.symm.trans taken) (by simp)
      have fewer := (Core.Changes.candidates_sublist changes upkeep capped unheard aside).2 id
      rw [Core.candidates_eq there] at fewer
      exact .of_sublist fewer
    · exact single change
  | some run =>
    rcases reached.changes_unasked (unasked_of_pursued pursued) made with changes | ⟨-, s, change⟩
    · exact ((Core.Changes.gathers_stored changes upkeep capped unheard).2.2 e there).fronts
    · exact single change

end Bench

/-! ## Own profiles -/

namespace Core

variable {u : String}

/-- A device has a profile of its own only if it was to adopt it. -/
theorem Revises.provisioned (revises : c.Revises c' id d e) (own : e.provisioned.isSome) :
    d.provisioned.isSome ∨ ∃ u, .adopt id u ∈ c.agenda := by
  cases revises with
  | same | start | session | power | decide | turnedDown | handedIn | conclude => exact .inl own
  | edit _ _ edit => exact .inl (edit.kept.2.2.2.1 ▸ own)
  | hear _ hears =>
    rcases Device.hear_cases hears with ⟨p, -, -, -, rfl⟩ | ⟨p, -, -, rfl⟩ | ⟨-, rfl⟩
    · exact .inl own
    · dsimp only at own
      split at own
      · exact absurd own (by simp)
      · exact .inl own
    · rw [Device.survey_eq] at own
      exact .inl own
  | @adopt u ds next => exact .inr ⟨u, next ▸ List.mem_cons_self⟩

/-- What is to be adopted was to be adopted before, or is submitted just now. -/
theorem Step.adoption (step : Step law c s c') (due : .adopt id u ∈ c'.agenda) :
    .adopt id u ∈ c.agenda ∨ ∃ p, s = some (id, p) := by
  -- duties that adopt nothing come in the place of others
  have old (ws : List Duty) {ds : List Duty} (fewer : ds ⊆ c.agenda) (plain : ∀ w ∈ ws, w.isAdoption = false)
      (due : .adopt id u ∈ ws ++ ds) : .adopt id u ∈ c.agenda := by
    rcases List.mem_append.1 due with new | mem
    · exact absurd (plain _ new) (by simp [Duty.isAdoption])
    · exact fewer mem
  have popped {duty : Duty} {ds : List Duty} (next : c.agenda = duty :: ds) : ds ⊆ c.agenda :=
    next ▸ List.subset_cons_self _ _
  cases step with
  | create | destroy | enlist | cancel | receivers | reported | startRun | endRuns | comeUp
  | session | edit | findPower | requestUnheard => exact .inl due
  | defer ds quiet pursuits =>
    exact absurd (isAdoption_of_isPursuit pursuits _ due) (by simp [Duty.isAdoption])
  | summon j => exact .inl (old [.reassess j] (List.Subset.refl _) (by simp [Duty.isAdoption]) due)
  | request q r n lives =>
    exact .inl (old [.announce n _] (List.Subset.refl _) (by simp [Duty.isAdoption]) due)
  | heardByAll n ds next | late duty j ds next | decide j d ds usable next | adopt j d u' ds next
  | conclude j d ds next => exact .inl (popped next due)
  | watched n w ls ds ws next watch =>
    refine .inl (old (ws ++ [.announce n ls]) (popped next) ?_ (by simpa using due))
    exact List.forall_mem_append.2 ⟨isAdoption_of_isWatch watch, by simp [Duty.isAdoption]⟩
  | turn duty ds ws next isWatch watch => exact .inl (old ws (popped next) (isAdoption_of_isWatch watch) due)
  | unmoved n j ls ds next =>
    exact .inl (old [.announce n ls] (popped next) (by simp [Duty.isAdoption]) due)
  | moved n j ls ds d e next =>
    exact .inl (old [.reassess j, .announce n ls] (popped next) (by simp [Duty.isAdoption]) due)
  | concede j d ds next | turnedDown j d ds name why next =>
    exact .inl (old [.conclude j] (popped next) (by simp [Duty.isAdoption]) due)
  | handedIn j d ds name lives next =>
    rcases List.mem_cons.1 due with same | mem
    · exact absurd same (by simp)
    · rcases List.mem_cons.1 mem with same | mem
      · obtain ⟨rfl, -⟩ := Duty.adopt.inj same
        exact .inr ⟨_, rfl⟩
      · exact .inl (old [.conclude j] (popped next) (by simp [Duty.isAdoption]) mem)

/-- A device that has a profile of its own, or is to adopt one, made its attempt. -/
def Earned (c : Core) : Prop :=
  ∀ id d, c.devices id = some d → (d.provisioned.isSome ∨ ∃ u, .adopt id u ∈ c.agenda) → d.attempted

/-- A device with a provisioned profile has made its attempt, after every step. -/
theorem Step.earned (step : Step law c s c') (upkeep : c.Upkeep) (earned : c.Earned) : c'.Earned := by
  intro id e there owns
  rcases step.origin there with ⟨d, found, revises⟩ | ⟨rfl, -, -, path, g, t, rfl⟩
  · have before (was : d.provisioned.isSome ∨ ∃ u, .adopt id u ∈ c.agenda) : e.attempted :=
      revises.attempted (earned id d found was)
    rcases owns with own | ⟨u, due⟩
    · exact before (revises.provisioned own)
    · rcases step.adoption due with was | ⟨p, rfl⟩
      · exact before (.inr ⟨u, was⟩)
      · exact (step.spent_of_submits upkeep).2 e there
  · -- nothing is due for a device that is new
    rcases owns with own | ⟨u, due⟩
    · exact absurd own (by simp [Device.fresh])
    · rcases step.adoption due with was | ⟨p, rfl⟩
      · exact absurd (upkeep.due _ was c.nextId rfl) (Nat.lt_irrefl _)
      · exact (step.spent_of_submits upkeep).2 _ there

end Core

/-! ## All runs -/

namespace Bench

/-- In every run the provisioned profile of a device is one that it submitted. -/
theorem Reachable.earned (reached : Reachable law b) : b.host.core.Earned := by
  suffices all : b.host.core.Upkeep ∧ b.host.core.Earned from all.2
  refine reached.core_induction (P := fun c => c.Upkeep ∧ c.Earned) (fun isLoaded naming => ?_) ?_
  · exact ⟨Core.upkeep_opening isLoaded naming, fun id d found => absurd found (by simp [Core.opening])⟩
  · rintro c s c' ⟨upkeep, earned⟩ step
    exact ⟨step.upkeep upkeep, step.earned upkeep earned⟩

/-- Candidates are told apart. -/
theorem Reachable.nodup_candidates (reached : Reachable law b) (there : b.host.device? id = some d) :
    d.candidates.Nodup := by
  refine reached.core_induction (P := fun c => ∀ id d, c.devices id = some d → d.candidates.Nodup)
    (fun _ _ id d found => absurd found (by simp [Core.opening])) ?_ id d there
  intro c s c' distinct step id e there
  rcases step.origin there with ⟨d, found, revises⟩ | ⟨-, -, -, path, g, t, rfl⟩
  · exact revises.nodup (distinct id d found)
  · exact List.nodup_nil

/-- In every run the stored profiles have different UUIDs. -/
theorem Reachable.nodup_stored (reached : Reachable law b) : b.host.registry.uuids.Nodup := by
  refine reached.core_induction (P := fun c => c.registry.uuids.Nodup) (fun isLoaded naming => List.nodup_nil) ?_
  intro c s c' distinct step
  rcases step.arises.1 with same | ⟨n, announces⟩
  · rwa [Registry.uuids, same]
  · exact announces.effect.nodup distinct

end Bench

/-- The new members of a list, the latest first. If there are several then they came in the order of the
given ones. -/
def entering (stored before after : List String) : List String :=
  let new := after.filter (· ∉ before)
  if new.length ≤ 1 then new else stored.reverse.filter (· ∈ new)

namespace Bench

/-- What a device takes up in a move, the latest first: what is a candidate after the move and was none
before. If that is more than one then the device has looked through the registry, which it does in the
order in which profiles are stored. -/
def takes (b c : Bench) (id : DeviceId) : List String :=
  entering b.host.registry.uuids (b.host.core.candidates id) (c.host.core.candidates id)

/-- The UUIDs that a device tracks anew in the course of some moves, the latest first. -/
def tracked (id : DeviceId) : Bench → List Move → List String
  | _, [] => []
  | b, m :: ms => match b.make m with
    | some c => tracked id c ms ++ b.takes c id
    | none => []

end Bench

/-! ## The order of candidates -/

/-- A list is in the order of a record: what stands first was recorded last. -/
structure InOrder (record l : List String) : Prop where
  recorded : ∀ u ∈ l, u ∈ record
  later : l.Pairwise fun u v => record.idxOf u < record.idxOf v

namespace InOrder

variable {record before kept new : List String}

/-- In a list without repetitions elements come in the order of their indices. -/
theorem idxOf_lt_of_sublist {l : List String} (distinct : l.Nodup) :
    l.Pairwise fun u v => l.idxOf u < l.idxOf v := by
  refine List.pairwise_iff_getElem.2 fun i j hi hj lt => ?_
  rwa [distinct.idxOf_getElem i hi, distinct.idxOf_getElem j hj]

/-- What is recorded now goes in front. -/
theorem append (ordered : InOrder record before) (fewer : kept.Sublist before) (distinct : new.Nodup)
    (apart : ∀ u ∈ new, u ∉ before) : InOrder (new ++ record) (new ++ kept) where
  recorded u mem := by
    rcases List.mem_append.1 mem with mem | mem
    · exact List.mem_append_left _ mem
    · exact List.mem_append_right _ (ordered.recorded u (fewer.subset mem))
  later := by
    have front {u : String} (mem : u ∈ new) : (new ++ record).idxOf u = new.idxOf u :=
      List.idxOf_append_of_mem mem
    have back {u : String} (mem : u ∈ kept) : (new ++ record).idxOf u = new.length + record.idxOf u :=
      List.idxOf_append_of_notMem fun new => apart u new (fewer.subset mem)
    refine List.pairwise_append.2 ⟨?_, ?_, fun u hu v hv => ?_⟩
    · refine (idxOf_lt_of_sublist distinct).imp_of_mem fun hu hv lt => ?_
      rwa [front hu, front hv]
    · refine (ordered.later.sublist fewer).imp_of_mem fun hu hv lt => ?_
      rw [back hu, back hv]
      exact Nat.add_lt_add_left lt _
    · rw [front hu, back hv]
      exact Nat.lt_add_right _ (List.idxOf_lt_length_of_mem hu)

end InOrder

/-- A part of a list without repetition is what its members leave of the list. -/
theorem filter_mem_of_sublist {l l' : List String} (part : l'.Sublist l) (distinct : l.Nodup) :
    l.filter (· ∈ l') = l' := by
  have left : l'.Sublist (l.filter (· ∈ l')) := by
    have kept := part.filter (· ∈ l')
    rwa [List.filter_eq_self.2 (by simp)] at kept
  have members : l.filter (· ∈ l') ⊆ l' := fun u mem => by simpa using (List.mem_filter.1 mem).2
  exact (left.eq_of_length_le ((distinct.filter _).subperm members).length_le).symm

/-- What is new in front is told by what was there before. -/
theorem Fronts.entering {stored before after : List String} (fronts : Fronts stored before after)
    (distinct : after.Nodup) (listed : stored.Nodup) : ∃ kept, kept.Sublist before ∧
      after = entering stored before after ++ kept ∧ (entering stored before after).Nodup ∧
        ∀ u ∈ entering stored before after, u ∉ before := by
  obtain ⟨new, kept, fewer, rfl, apart, order⟩ := fronts
  have none : kept.filter (· ∉ before) = [] :=
    List.filter_eq_nil_iff.2 fun u mem => by simpa using fewer.subset mem
  have all : new.filter (· ∉ before) = new := List.filter_eq_self.2 fun u mem => by simpa using apart u mem
  have same : Piconet.entering stored before (new ++ kept) = new := by
    rw [Piconet.entering, List.filter_append, all, none, List.append_nil]
    split
    · rfl
    · next several => exact filter_mem_of_sublist (order.resolve_left several) (List.nodup_reverse.2 listed)
  rw [same]
  exact ⟨kept, fewer, rfl, (List.nodup_append.1 distinct).1, apart⟩

namespace Bench

variable {b b' : Bench} {ms : List Move} {m : Move}

/-- One more move is made, or nothing more can be done. -/
theorem tracked_concat (id : DeviceId) (b : Bench) (ms : List Move) (m : Move) :
    (b.makeAll (ms ++ [m]) = b.makeAll ms ∧ tracked id b (ms ++ [m]) = tracked id b ms) ∨
      (b.makeAll ms).make m = some (b.makeAll (ms ++ [m])) ∧
        tracked id b (ms ++ [m]) = (b.makeAll ms).takes (b.makeAll (ms ++ [m])) id ++ tracked id b ms := by
  induction ms generalizing b with
  | nil =>
    simp only [List.nil_append, makeAll, tracked]
    cases b.make m with
    | none => exact .inl ⟨rfl, rfl⟩
    | some c => exact .inr ⟨rfl, by simp⟩
  | cons first ms ih =>
    simp only [List.cons_append, makeAll, tracked]
    cases b.make first with
    | none => exact .inl ⟨rfl, rfl⟩
    | some c =>
      rcases ih c with ⟨same, none⟩ | ⟨made, more⟩
      · exact .inl ⟨same, by simp only [none]⟩
      · exact .inr ⟨made, by simp only [more, List.append_assoc]⟩

/-- A move puts what a device takes up in front of its candidates and of the record. -/
theorem inOrder_make (reached : Reachable free b) (made : b.make m = some b') {record : List String}
    (ordered : InOrder record (b.host.core.candidates id)) :
    InOrder (b.takes b' id ++ record) (b'.host.core.candidates id) := by
  cases there : b'.host.device? id with
  | none =>
    rw [Core.candidates_of_none there]
    exact ⟨by simp, .nil⟩
  | some e =>
    have reached' : Reachable free b' := reached.trans (Reaches.refl.move m (fun _ _ _ => trivial) made)
    obtain ⟨kept, fewer, all, distinct, apart⟩ := (fronts_make reached made there).entering
      (reached'.nodup_candidates there) reached.nodup_stored
    rw [takes, Host.core_candidates there]
    have ordered := ordered.append fewer distinct apart
    rwa [← all] at ordered

/-- In the order of the record of a whole run. -/
theorem inOrder_makeAll (reached : Reachable free b) (ms : List Move)
    (none : b.host.core.candidates id = []) :
    InOrder (tracked id b ms) ((b.makeAll ms).host.core.candidates id) := by
  induction ms using List.reverseRecOn with
  | nil =>
    rw [makeAll, none]
    exact ⟨by simp, .nil⟩
  | append_singleton ms m ih =>
    rcases tracked_concat id b ms m with ⟨same, record⟩ | ⟨made, record⟩
    · rwa [same, record]
    · rw [record]
      exact inOrder_make (reached.trans (reaches_makeAll b ms fun _ _ => trivial)) made ih

/-- **What holds of candidates** in every state of every run in which nobody is being notified, whatever
listeners did when they were. The list of candidates has no UUID twice. The UUID of the provisioned profile is
one of them, `attempted` is set, and the device did submit in the run. `submitting` is not set. And candidates
come in the order in which the device last tracked them, the latest first, going by the record `tracked` of the
run. -/
theorem candidates_in_order {g : Generation} {t : Transport} {isLoaded : Bool} {manager : Option Timeouts}
    {naming : Naming}
    (run : (opening g t isLoaded manager naming).makeAll ms = b) (quiet : b.host.core.isQuiet)
    (there : b.host.device? id = some d) :
    d.candidates.Nodup ∧
      (∀ u, d.provisioned = some u →
        u ∈ d.candidates ∧ d.attempted = true ∧ (opening g t isLoaded manager naming).Attempts ms id) ∧
      d.submitting = false ∧
      (∀ u ∈ d.candidates, u ∈ tracked id (opening g t isLoaded manager naming) ms) ∧
      d.candidates.Pairwise fun u v =>
        (tracked id (opening g t isLoaded manager naming) ms).idxOf u
          < (tracked id (opening g t isLoaded manager naming) ms).idxOf v := by
  have start : Reachable free (opening g t isLoaded manager naming) := ⟨g, t, isLoaded, manager, naming, .refl⟩
  have reached : Reachable free b := run ▸ start.trans (reaches_makeAll _ _ fun _ _ => trivial)
  have ordered : InOrder (tracked id _ ms)
      (((opening g t isLoaded manager naming).makeAll ms).host.core.candidates id) :=
    inOrder_makeAll start ms rfl
  rw [run, Host.core_candidates there] at ordered
  refine ⟨reached.nodup_candidates there, fun u own => ?_, ?_, ordered.recorded, ordered.later⟩
  · have attempted : d.attempted = true := reached.earned id d there (.inl (by rw [own]; rfl))
    refine ⟨reached.settled.own id d there u own, attempted, ?_⟩
    refine attempts_of_attempted start (fun e found => ?_) (run ▸ there) attempted
    exact absurd found (by simp [opening, Host.device?, Table.get?])
  · rw [← Bool.not_eq_true]
    intro busy
    obtain ⟨u, due⟩ := reached.submitting id d there busy
    exact absurd (Core.about_of_quiet quiet due) (by simp [Duty.about?])

/-- Someone puts a request to the registry, and so many duties follow. -/
def putting (q : Registry.Request) (duties : Nat) : List Move :=
  .step (.command (.request q)) :: List.replicate duties .act

/-- A profile of the access point under some UUID. -/
def accessThrough (uuid : String) : Profile := .forAccessPoint uuid "n" ⟨1, 2, 3, 4, 5, 6⟩

/-- A run in which an access point has submitted its own profile, then two more are stored for it, and the
first of these is removed and stored anew. -/
def retaking : List Move :=
  [[.step (.newDevice "D" "/d" none {}), .step (.run "D"), .poll 1], List.replicate 12 .act,
    putting (.insert (accessThrough "u")) 3, putting (.insert (accessThrough "v")) 3, putting (.remove "u") 3,
    putting (.insert (accessThrough "u")) 3].flatten

/-- An access point has provisioned itself, and then two more profiles are stored for it, the first of which is
removed and inserted anew: its own profile is its oldest candidate, and the one that was inserted anew is the
latest. -/
theorem candidates_retaking :
    ∃ d, ((opening .bluez4 (.stub (offering "1116-0")) true none).makeAll retaking).host.device? 0 = some d ∧
      d.candidates = ["u", "v", "prov:010203040506:1"] ∧ d.candidates.Nodup ∧ d.submitting = false ∧
      d.provisioned = some "prov:010203040506:1" ∧ d.attempted = true ∧
      (opening .bluez4 (.stub (offering "1116-0")) true none).Attempts retaking 0 ∧
      tracked 0 (opening .bluez4 (.stub (offering "1116-0")) true none) retaking =
        ["u", "v", "u", "prov:010203040506:1"] ∧
      d.candidates.Pairwise fun u v =>
        (tracked 0 (opening .bluez4 (.stub (offering "1116-0")) true none) retaking).idxOf u
          < (tracked 0 (opening .bluez4 (.stub (offering "1116-0")) true none) retaking).idxOf v := by
  generalize same : (opening .bluez4 (.stub (offering "1116-0")) true none).makeAll retaking = b
  have quiet : b.host.core.isQuiet := by rw [← same]; rfl
  have there : b.host.device? 0 = some ((b.host.device? 0).get (by rw [← same]; rfl)) :=
    (Option.some_get _).symm
  have listed : ((b.host.device? 0).get (by rw [← same]; rfl)).candidates = ["u", "v", "prov:010203040506:1"] := by
    subst same
    rfl
  have own : ((b.host.device? 0).get (by rw [← same]; rfl)).provisioned = some "prov:010203040506:1" := by
    subst same
    rfl
  obtain ⟨distinct, provisioned, idle, -, later⟩ := candidates_in_order same quiet there
  obtain ⟨-, attempted, attempts⟩ := provisioned _ own
  exact ⟨_, there, listed, distinct, idle, own, attempted, attempts, by rfl, later⟩

end Bench

end Piconet
