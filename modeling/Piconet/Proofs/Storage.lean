import Mathlib.Data.List.Dedup
import Mathlib.Data.Set.Card
import Piconet.Proofs.DeliveryLedger

/-!
# The registry is a map

What a registry stores is told by the requests that were put to it (`Registry.after`): a map, which has
under each UUID what was stored there last or came in its place, unless it was removed since
(`Registry.kept`), and lists it in the order in which the UUIDs were last stored under
(`Registry.storings`). That UUIDs are told apart is what makes the first match the only one, so that
it does not matter if a profile is replaced or removed wherever its UUID is found, or just where it
is found first. Whoever puts requests to the registry of a host, be it a user, a watcher that is being
notified or a device that submits a profile, they come one after the other (`Bench.Requested`), and the
registry is what they make of it.
-/

namespace Piconet

open Bench (shut)
open Function (update)

namespace Registry

variable {isLoaded : Bool} {q : Request} {past : List Request} {r : Registry} {p : Profile} {u : String}

/-! ## What requests make of a registry

A history of requests has the latest first. -/

/-- What becomes of an empty registry. -/
def after (isLoaded : Bool) : List Request → Registry
  | [] => { loaded := isLoaded }
  | q :: past => ((after isLoaded past).handle q).1

/-- Why profiles that are handed in are turned down, while they are. -/
def refusal : List Request → Option String
  | [] => none
  | .reject reason :: _ => reason
  | _ :: past => refusal past

/-- The profile that is kept under each UUID. -/
def kept : List Request → String → Option Profile
  | [] => fun _ => none
  | .insert p :: past => update (kept past) p.uuid (some p)
  | .submit p :: past =>
    if refusal past = none then update (kept past) p.uuid (some p) else kept past
  | .update p :: past => update (kept past) p.uuid ((kept past p.uuid).map fun _ => p)
  | .remove u :: past => update (kept past) u none
  | .markLoaded :: past | .reject _ :: past => kept past

/-- The UUIDs of the profiles that were stored, from the first to the last. One that comes again is
in the list again, and `List.dedup` leaves the last. -/
def storings : List Request → List String
  | [] => []
  | .insert p :: past => storings past ++ [p.uuid]
  | .submit p :: past => if refusal past = none then storings past ++ [p.uuid] else storings past
  | .update _ :: past | .remove _ :: past | .markLoaded :: past | .reject _ :: past => storings past

/-- Whether a profile is handed in. -/
def Request.isSubmission : Request → Bool
  | .submit _ => true
  | _ => false

/-! ## Profiles in the order of their UUIDs -/

/-- Profiles are found under their own UUIDs. -/
def Keyed (f : String → Option Profile) : Prop := ∀ u p, f u = some p → p.uuid = u

section Listed

variable {f : String → Option Profile} (keyed : Keyed f) (us : List String)

include keyed

/-- A profile may be put under its own UUID. -/
theorem Keyed.update {x : Option Profile} (own : ∀ p, x = some p → p.uuid = u) :
    Keyed (update f u x) := by
  intro v p found
  by_cases same : v = u
  · subst same
    rw [Function.update_self] at found
    exact own p found
  · rw [Function.update_of_ne same] at found
    exact keyed v p found

/-- Profiles that are listed by UUID have these UUIDs. -/
theorem uuids_listed : (us.filterMap f).map (·.uuid) = us.filter fun u => (f u).isSome := by
  induction us with
  | nil => rfl
  | cons v us ih =>
    cases found : f v with
    | none => simp [found, ih]
    | some p => simp [found, ih, keyed v p found]

/-- A profile is found under its own UUID and nowhere else. -/
theorem find?_listed (u : String) :
    (us.filterMap f).find? (·.uuid = u) = if u ∈ us then f u else none := by
  induction us with
  | nil => rfl
  | cons v us ih =>
    by_cases same : u = v
    · subst same
      cases found : f u with
      | none => simp [found, ih]
      | some p => simp [found, keyed u p found]
    · cases found : f v with
      | none => simp [found, ih, same]
      | some p => simp [found, ih, same, keyed v p found, Ne.symm same]

/-- What is listed without the profile of a UUID. -/
theorem filter_listed (u : String) :
    (us.filterMap f).filter (·.uuid ≠ u) = us.filterMap (update f u none) := by
  rw [List.filter_filterMap]
  refine List.filterMap_congr fun v _ => ?_
  by_cases same : v = u
  · subst same
    rw [Function.update_self, Option.filter_eq_none_iff]
    intro p found
    simpa using keyed v p found
  · rw [Function.update_of_ne same]
    cases found : f v with
    | none => rfl
    | some p => simp [keyed v p found, same]

/-- What is listed with another profile in the place of the one with its UUID. -/
theorem map_listed (p : Profile) :
    ((us.filterMap f).map fun x => if x.uuid = p.uuid then p else x) =
      us.filterMap (update f p.uuid ((f p.uuid).map fun _ => p)) := by
  rw [List.map_filterMap]
  refine List.filterMap_congr fun v _ => ?_
  by_cases same : v = p.uuid
  · subst same
    rw [Function.update_self]
    exact Option.map_congr fun x found => if_pos (keyed _ x found)
  · rw [Function.update_of_ne same]
    cases found : f v with
    | none => rfl
    | some x => simp [keyed v x found, same]

omit keyed in
/-- What is listed with a profile at the end, wherever its UUID was before. -/
theorem listed_concat (p : Profile) :
    (us.filter (· ≠ p.uuid) ++ [p.uuid]).filterMap (update f p.uuid (some p)) =
      us.filterMap (update f p.uuid none) ++ [p] := by
  rw [List.filterMap_append, List.filterMap_filter]
  congr 1
  · refine List.filterMap_congr fun v _ => ?_
    by_cases same : v = p.uuid
    · simp [same]
    · simp [same, Function.update_of_ne]
  · simp

end Listed

/-! ## Where UUIDs come first -/

section First

variable {ps : List Profile} (distinct : (ps.map (·.uuid)).Nodup)

include distinct

/-- Where UUIDs are told apart, a profile is replaced where its UUID comes first, -/
theorem map_eq_set (p : Profile) : (ps.map fun x => if x.uuid = p.uuid then p else x) =
    ps.set (ps.findIdx (·.uuid = p.uuid)) p := by
  induction ps with
  | nil => rfl
  | cons x ps ih =>
    obtain ⟨new, distinct⟩ := List.nodup_cons.1 distinct
    by_cases here : x.uuid = p.uuid
    · have others : (ps.map fun x => if x.uuid = p.uuid then p else x) = ps := by
        refine (List.map_congr_left fun y mem => if_neg fun same => ?_).trans (List.map_id' ps)
        exact new (List.mem_map.2 ⟨y, mem, same.trans here.symm⟩)
      simp [List.findIdx_cons, here, others]
    · simp [List.findIdx_cons, here, ih distinct]

/-- Where UUIDs are told apart, to remove all matches is to remove the first one. -/
theorem filter_eq_eraseP (u : String) : ps.filter (·.uuid ≠ u) = ps.eraseP (·.uuid = u) := by
  induction ps with
  | nil => rfl
  | cons x ps ih =>
    obtain ⟨new, distinct⟩ := List.nodup_cons.1 distinct
    by_cases here : x.uuid = u
    · have others : ps.filter (·.uuid ≠ u) = ps := by
        refine List.filter_eq_self.2 fun y mem => decide_eq_true fun same => ?_
        exact new (List.mem_map.2 ⟨y, mem, same.trans here.symm⟩)
      rw [List.filter_cons_of_neg (by simp [here]), List.eraseP_cons_of_pos (by simp [here]), others]
    · rw [List.filter_cons_of_pos (by simp [here]), List.eraseP_cons_of_neg (by simp [here]), ih distinct]

end First

/-- A text that comes again comes last. -/
theorem dedup_concat (us : List String) (u : String) :
    (us ++ [u]).dedup = us.dedup.filter (· ≠ u) ++ [u] := by
  induction us with
  | nil => rfl
  | cons v us ih =>
    by_cases again : v ∈ us
    · rw [List.cons_append, List.dedup_cons_of_mem (List.mem_append_left _ again), ih,
        List.dedup_cons_of_mem again]
    · rw [List.cons_append, List.dedup_cons_of_notMem again]
      by_cases same : v = u
      · rw [List.dedup_cons_of_mem (by simp [same]), ih, List.filter_cons_of_neg (by simp [same])]
      · rw [List.dedup_cons_of_notMem (by simp [same, again]), ih,
          List.filter_cons_of_pos (by simp [same]), List.cons_append]

/-! ## What is kept -/

/-- What is kept under a UUID is a profile with that UUID. -/
theorem keyed_kept (past : List Request) : Keyed (kept past) := by
  induction past with
  | nil => exact fun _ _ found => absurd found (by simp [kept])
  | cons q past ih =>
    have own {p : Profile} : ∀ x, some p = some x → x.uuid = p.uuid := fun x same =>
      congrArg (·.uuid) (Option.some.inj same).symm
    cases q with
    | insert p => exact ih.update own
    | update p =>
      refine ih.update fun x found => ?_
      obtain ⟨-, -, rfl⟩ := Option.map_eq_some_iff.1 found
      rfl
    | remove u => exact ih.update fun x none => absurd none (by simp)
    | submit p =>
      rw [kept]
      split
      · exact ih.update own
      · exact ih
    | markLoaded | reject => exact ih

/-- What is kept was stored. -/
theorem mem_storings (found : kept past u = some p) : u ∈ storings past := by
  induction past generalizing p with
  | nil => exact absurd found (by simp [kept])
  | cons q past ih =>
    have stored {x : Profile} (found : update (kept past) x.uuid (some x) u = some p) :
        u ∈ storings past ++ [x.uuid] := by
      by_cases same : u = x.uuid
      · exact List.mem_append_right _ (List.mem_singleton.2 same)
      · rw [Function.update_of_ne same] at found
        exact List.mem_append_left _ (ih found)
    cases q with
    | insert x => exact stored found
    | update x =>
      by_cases same : u = x.uuid
      · subst same
        rw [kept, Function.update_self] at found
        obtain ⟨old, found, -⟩ := Option.map_eq_some_iff.1 found
        exact ih found
      · rw [kept, Function.update_of_ne same] at found
        exact ih found
    | remove v =>
      by_cases same : u = v
      · simp [kept, same] at found
      · rw [kept, Function.update_of_ne same] at found
        exact ih found
    | submit x =>
      rw [kept] at found
      rw [storings]
      split at found
      · next accepted =>
        rw [if_pos accepted]
        exact stored found
      · next refused =>
        rw [if_neg refused]
        exact ih found
    | markLoaded | reject => exact ih found

/-! ## What is stored -/

/-- Only `reject` changes whether submissions are turned down. -/
theorem rejection_handle (r : Registry) (q : Request) :
    (r.handle q).1.rejection = match q with
      | .reject reason => reason
      | _ => r.rejection := by
  cases q with
  | insert | reject => rfl
  | update | remove | submit | markLoaded =>
    rw [handle]
    split <;> rfl

/-- Every submission is counted, also one that is turned down. -/
theorem submissions_handle (r : Registry) (q : Request) :
    (r.handle q).1.submissions = r.submissions + if q.isSubmission then 1 else 0 := by
  cases q with
  | insert | reject => rfl
  | update | remove | submit | markLoaded =>
    rw [handle]
    split <;> rfl

/-- A registry is loaded for good. -/
theorem loaded_handle (r : Registry) (q : Request) :
    (r.handle q).1.loaded = true ↔ .markLoaded = q ∨ r.loaded = true := by
  cases q with
  | insert | reject => simp [handle, insert, reject]
  | update | remove | submit =>
    rw [handle]
    split <;> simp [replace, erase, insert, countSubmission]
  | markLoaded =>
    rw [handle]
    split <;> simp_all [markLoaded]

/-- A registry is what its history makes of it. -/
structure Keeps (isLoaded : Bool) (past : List Request) (r : Registry) : Prop where
  profiles : r.profiles = (storings past).dedup.filterMap (kept past)
  loaded : r.loaded = true ↔ isLoaded ∨ .markLoaded ∈ past
  rejection : r.rejection = refusal past
  submissions : r.submissions = past.countP Request.isSubmission

namespace Keeps

variable (keeps : Keeps isLoaded past r)

include keeps

/-- A lookup gives what is kept. -/
theorem get? (u : String) : r.get? u = kept past u := by
  rw [Registry.get?, keeps.profiles, find?_listed (keyed_kept past)]
  split
  · rfl
  · next unstored =>
    refine (Option.eq_none_iff_forall_ne_some.2 fun p found => unstored ?_).symm
    exact List.mem_dedup.2 (mem_storings found)

/-- The registry contains what is kept. -/
theorem contains (u : String) : r.contains u = (kept past u).isSome := by
  rw [Registry.contains, keeps.get?]

/-- The UUIDs of the registry come in the order of their last insertions. -/
theorem uuids : r.uuids = (storings past).dedup.filter fun u => (kept past u).isSome := by
  rw [Registry.uuids, keeps.profiles, uuids_listed (keyed_kept past)]

/-- **UUIDs are told apart.** -/
theorem nodup : r.uuids.Nodup := by
  rw [keeps.uuids]
  exact (List.nodup_dedup _).filter _

/-- A UUID is stored just when something is kept under it. -/
theorem mem_uuids : u ∈ r.uuids ↔ (kept past u).isSome := by
  rw [← contains_iff, keeps.contains]

/-- What is stored comes last. -/
theorem profiles_insert (p : Profile) : (r.insert p).profiles =
    (storings past ++ [p.uuid]).dedup.filterMap (update (kept past) p.uuid (some p)) := by
  rw [dedup_concat, listed_concat, ← filter_listed (keyed_kept past), ← keeps.profiles]
  rfl

/-- What is removed leaves its place. -/
theorem profiles_erase (u : String) : (r.erase u).profiles =
    (storings past).dedup.filterMap (update (kept past) u none) := by
  rw [← filter_listed (keyed_kept past), ← keeps.profiles]
  rfl

/-- What is replaced keeps its place. -/
theorem profiles_replace (p : Profile) : (r.replace p).profiles =
    (storings past).dedup.filterMap (update (kept past) p.uuid ((kept past p.uuid).map fun _ => p)) := by
  rw [← map_listed (keyed_kept past), ← keeps.profiles]
  rfl

/-- One request more leads to what is kept after one request more. -/
theorem profiles_handle (q : Request) :
    (r.handle q).1.profiles = (storings (q :: past)).dedup.filterMap (kept (q :: past)) := by
  have same {f g : String → Option Profile} (alike : f = g) :
      (storings past).dedup.filterMap f = (storings past).dedup.filterMap g := by rw [alike]
  cases q with
  | insert p => exact keeps.profiles_insert p
  | submit p =>
    rw [handle, storings, kept, ← keeps.rejection]
    cases r.rejection with
    | some why => exact keeps.profiles
    | none => exact keeps.profiles_insert p
  | update p =>
    rw [handle, keeps.contains]
    split
    · exact keeps.profiles_replace p
    · next missing =>
      rw [Bool.not_eq_true, Option.isSome_eq_false_iff, Option.isNone_iff_eq_none] at missing
      refine keeps.profiles.trans (same ?_)
      rw [kept, missing, Option.map_none, ← missing, Function.update_eq_self]
  | remove u =>
    rw [handle, keeps.get?]
    split
    · exact keeps.profiles_erase u
    · next missing =>
      refine keeps.profiles.trans (same ?_)
      rw [kept, ← missing, Function.update_eq_self]
  | markLoaded =>
    rw [handle]
    split <;> exact keeps.profiles
  | reject reason => exact keeps.profiles

/-- **A request does to the registry what it adds to the history.** -/
theorem handle (q : Request) : Keeps isLoaded (q :: past) (r.handle q).1 where
  profiles := keeps.profiles_handle q
  loaded := by
    rw [loaded_handle, keeps.loaded, List.mem_cons, or_left_comm]
  rejection := by
    rw [rejection_handle, keeps.rejection]
    cases q <;> rfl
  submissions := by
    rw [submissions_handle, keeps.submissions, List.countP_cons]

end Keeps

/-- **What requests make of a registry is what they keep.** -/
theorem keeps_after (isLoaded : Bool) (past : List Request) :
    Keeps isLoaded past (after isLoaded past) := by
  induction past with
  | nil => exact ⟨rfl, by simp [after], rfl, rfl⟩
  | cons q past ih => exact ih.handle q

/-- **What a registry stores, told by the requests that were put to it.** -/
structure Stores (isLoaded : Bool) (past : List Request) (r : Registry) : Prop where
  /-- no two profiles have the same UUID -/
  distinct : r.uuids.Nodup
  /-- what is found under a UUID is what is kept there -/
  found : ∀ u, r.get? u = kept past u
  /-- what is kept is stored, and nothing else is -/
  stored : ∀ p, p ∈ r.profiles ↔ kept past p.uuid = some p
  length : r.profiles.length = {u | (kept past u).isSome}.ncard
  /-- profiles come in the order in which they were stored last -/
  inOrder : r.profiles = (storings past).dedup.filterMap (kept past)
  /-- a profile comes in the place of the one that it replaces -/
  inPlace : ∀ p, (r.handle (.update p)).1.uuids = r.uuids
  /-- a profile is replaced where its UUID comes first -/
  replaced : ∀ p, (r.replace p).profiles = r.profiles.set (r.profiles.findIdx (·.uuid = p.uuid)) p
  /-- a profile is removed where its UUID comes first -/
  erased : ∀ u, (r.erase u).profiles = r.profiles.eraseP (·.uuid = u)
  /-- a profile that is turned down is counted, and that is all -/
  turnedDown : ∀ p why, refusal past = some why →
    r.handle (.submit p) = (r.countSubmission, none)
  /-- a profile that replaces none is ignored -/
  unreplaced : ∀ p, kept past p.uuid = none → r.handle (.update p) = (r, none)
  /-- nothing is removed where nothing is kept -/
  unremoved : ∀ u, kept past u = none → r.handle (.remove u) = (r, none)
  loaded : r.loaded = true ↔ isLoaded ∨ .markLoaded ∈ past
  /-- a registry that is complete is not completed again -/
  loadedOnce : isLoaded ∨ .markLoaded ∈ past → r.handle .markLoaded = (r, none)
  /-- profiles that are handed in are counted, accepted or not -/
  submissions : r.submissions = past.countP Request.isSubmission

/-- A registry that keeps what requests say is the map that they make. -/
theorem Keeps.stores (keeps : Keeps isLoaded past r) : Stores isLoaded past r where
  distinct := keeps.nodup
  found := keeps.get?
  stored p := by
    rw [keeps.profiles, List.mem_filterMap]
    constructor
    · rintro ⟨u, -, found⟩
      rwa [keyed_kept past u p found]
    · exact fun found => ⟨p.uuid, List.mem_dedup.2 (mem_storings found), found⟩
  length := by
    have all : {u | (kept past u).isSome} = ↑r.uuids.toFinset := by
      ext u
      simp [keeps.mem_uuids]
    rw [all, Set.ncard_coe_finset, List.toFinset_card_of_nodup keeps.nodup, Registry.uuids, List.length_map]
  inOrder := keeps.profiles
  inPlace p := by
    rw [(keeps.handle (.update p)).uuids, keeps.uuids]
    refine List.filter_congr fun u _ => ?_
    by_cases same : u = p.uuid
    · rw [kept, same, Function.update_self, Option.isSome_map]
    · rw [kept, Function.update_of_ne same]
  replaced p := map_eq_set keeps.nodup p
  erased u := filter_eq_eraseP keeps.nodup u
  turnedDown p why refused := by
    rw [Registry.handle, keeps.rejection, refused]
  unreplaced p missing := by
    rw [Registry.handle, keeps.contains, missing]
    rfl
  unremoved u missing := by
    rw [Registry.handle, keeps.get?, missing]
  loaded := keeps.loaded
  loadedOnce already := by
    rw [Registry.handle, if_pos (keeps.loaded.2 already)]
  submissions := keeps.submissions

end Registry

/-! ## Requests to a host -/

namespace Core

variable {scope : Scope} {c c' : Core}

/-- Nothing but requests and submissions is any concern of the registry. -/
theorem Change.registry_eq (change : Change shut scope c none c') : c'.registry = c.registry := by
  cases change with
  | requestUnheard _ _ _ lawful | request _ _ _ _ _ lawful => exact lawful.elim
  | _ => rfl

/-- Without requests the registry stays as it is. -/
theorem Changes.registry_eq (changes : Changes shut scope c c') : c'.registry = c.registry := by
  induction changes with
  | refl => rfl
  | tail _ change ih => exact change.registry_eq.trans ih

end Core

/-- The registry handles a request, and the host does the rest. -/
theorem Host.registry_request (h : Host) (q : Registry.Request) :
    (h.request q).registry = (h.registry.handle q).1 := by
  rw [request]
  split
  · next r n handled =>
    rw [handled]
    rfl
  · next r handled => rw [handled]

namespace Bench

variable {law : Law} {isLoaded : Bool} {past : List Registry.Request} {b c : Bench} {m : Move} {h : Host}
  {q : Registry.Request}

/-- A request is put to the registry that is there, and that is all that the move does. -/
theorem host_of_put (put : b.put? m = some (h, q)) (made : b.make m = some c) :
    h.registry = b.host.registry ∧ c.host = h.request q := by
  cases m with
  | poll | follow | report => exact absurd put (by simp [put?, request?])
  | step s =>
    by_cases asks : ∃ q, s = .command (.request q)
    · obtain ⟨q, rfl⟩ := asks
      obtain ⟨rfl, rfl⟩ := Prod.mk.inj (Option.some.inj put)
      obtain ⟨-, made⟩ := Option.ite_none_right_eq_some.1 made
      obtain rfl := Option.some.inj made
      exact ⟨rfl, rfl⟩
    · have none : b.put? (.step s) = none := by
        show b.request? (.step s) = none
        rw [request?]
        rintro q rfl
        exact asks ⟨q, rfl⟩
      exact absurd (none.symm.trans put) (by simp)
  | act =>
    cases next : b.host.agenda with
    | nil => exact absurd made (by simp [make, next])
    | cons duty ds =>
      obtain rfl : _ = c := Option.some.inj (by simpa only [make, next] using made)
      by_cases assesses : ∃ id, duty = .reassess id
      · obtain ⟨id, rfl⟩ := assesses
        simp only [put?, next] at put
        obtain ⟨⟨d, name⟩, due, same⟩ := Option.map_eq_some_iff.1 put
        obtain ⟨rfl, rfl⟩ := Prod.mk.inj same
        exact ⟨((b.host.withAgenda ds).core_submitting id d _).1, Host.reassess_of_due due⟩
      · rw [put?_of_head next fun id same => assesses ⟨id, same⟩] at put
        simp only [request?, next] at put
        split at put
        · next w q' cs ds' same =>
          obtain ⟨rfl, rfl⟩ := List.cons.inj same
          obtain ⟨rfl, rfl⟩ := Prod.mk.inj (Option.some.inj put)
          exact ⟨rfl, rfl⟩
        · exact absurd put (by simp)

/-- Where nothing is put to the registry nobody asks for anything. -/
theorem request?_of_unput (unput : b.put? m = none) : b.request? m = none := by
  cases m with
  | act =>
    cases next : b.host.agenda with
    | nil => simp only [request?, next]
    | cons duty ds =>
      cases duty with
      | reassess id => simp only [request?, next]
      | _ => exact (put?_of_head next (by simp)).symm.trans unput
  | _ => exact unput

/-- **The registry is left to requests.** -/
theorem registry_of_make (reached : Reachable law b) (made : b.make m = some c) : c.host.registry =
    (b.put? m).elim b.host.registry fun put => (b.host.registry.handle put.2).1 := by
  cases put : b.put? m with
  | some put' =>
    obtain ⟨registry, host⟩ := host_of_put put made
    rw [host, Host.registry_request, registry]
    rfl
  | none =>
    rcases reached.changes_unasked (request?_of_unput put) made with changes | ⟨rfl, s, change⟩
    · exact changes.registry_eq
    · cases s with
      | none => exact change.registry_eq
      | some s =>
        obtain ⟨ds, next⟩ : ∃ ds, b.host.agenda = .reassess s.1 :: ds :=
          List.head?_eq_some_iff.1 change.step.submits.1
        have idle : (b.host.withAgenda ds).due? s.1 = none := by
          simpa only [put?, next, Option.map_eq_none_iff] using put
        exact absurd (unsubmitted_of_idle next idle change) (by simp)

/-- All runs from an opening bench, with the requests that were put to the registry, the latest first, whoever
put them. -/
inductive Requested (isLoaded : Bool) : List Registry.Request → Bench → Prop
  | opening (g : Generation) (t : Transport) (manager : Option Timeouts) (naming : Naming) :
      Requested isLoaded [] (opening g t isLoaded manager naming)
  | move {past : List Registry.Request} {b c : Bench} (m : Move) (requested : Requested isLoaded past b)
      (made : b.make m = some c) :
      Requested isLoaded ((b.put? m).toList.map Prod.snd ++ past) c

/-- The history of requests can be taken along every run. -/
theorem Requested.reachable (requested : Requested isLoaded past b) : Reachable free b := by
  induction requested with
  | opening g t manager naming => exact ⟨g, t, isLoaded, manager, naming, .refl⟩
  | move m _ made ih => exact ih.trans (Reaches.refl.move m (fun _ _ _ => trivial) made)

/-- Whatever comes of a bench that starts with nothing has a history of requests. -/
theorem Reachable.requested (reached : Reachable law b) :
    ∃ isLoaded past, Requested isLoaded past b := by
  obtain ⟨g, t, isLoaded, manager, naming, run⟩ := reached
  induction run with
  | refl => exact ⟨_, _, .opening g t manager naming⟩
  | move m _ _ made ih =>
    obtain ⟨isLoaded, past, requested⟩ := ih
    exact ⟨_, _, requested.move m made⟩

/-- **The registry of a host is what its history of requests makes of it.** -/
theorem Requested.registry_eq (requested : Requested isLoaded past b) :
    b.host.registry = Registry.after isLoaded past := by
  induction requested with
  | opening g t manager naming => rfl
  | @move past b c m requested made ih =>
    rw [registry_of_make requested.reachable made, ih]
    cases b.put? m <;> rfl

/-- The requests that are put to the registry when moves are made one after the other. -/
def putAll (past : List Registry.Request) : Bench → List Move → List Registry.Request
  | _, [] => past
  | b, m :: ms =>
    match b.make m with
    | some c => c.putAll ((b.put? m).toList.map Prod.snd ++ past) ms
    | none => past

/-- The history may be read off the moves. -/
theorem Requested.makeAll (requested : Requested isLoaded past b) (ms : List Move) :
    Requested isLoaded (b.putAll past ms) (b.makeAll ms) := by
  induction ms generalizing past b with
  | nil => exact requested
  | cons m ms ih =>
    simp only [putAll, Bench.makeAll]
    cases made : b.make m with
    | some c => exact ih (requested.move m made)
    | none => exact requested

/-- **The registry is a map.** After any history of requests it has under each UUID the profile that was last
inserted there, submitted and accepted, or put in its place by an update, unless it was removed since. It lists
these profiles, each once, in the order in which their UUIDs were last inserted; an update keeps the place. A
submission that is turned down is only counted, and an update or removal of an unknown UUID, or loading the
registry again, changes nothing. All of that goes for the registry of every host in every run, whoever puts
requests to it and whenever, also in the middle of a notification. -/
theorem stores_as_map :
    (∀ isLoaded past, Registry.Stores isLoaded past (.after isLoaded past))
    ∧ (∀ isLoaded past b, Requested isLoaded past b → Registry.Stores isLoaded past b.host.registry)
    ∧ ∀ law b, Reachable law b → ∃ isLoaded past, Requested isLoaded past b := by
  refine ⟨fun isLoaded past => (Registry.keeps_after isLoaded past).stores, ?_,
    fun law b reached => reached.requested⟩
  intro isLoaded past b requested
  rw [requested.registry_eq]
  exact (Registry.keeps_after isLoaded past).stores

/-- Moves with which a profile is stored, removed by a watcher that hears of it, and stored again. -/
def restoring : List Move := removing ++ storing

/-- The history of these moves has the removal between the two, and the profile is the only one. A registry
that turns profiles down only counts one that is handed in, and does nothing about a UUID under
which nothing is kept. -/
theorem stores_as_map_restoring :
    let past := (opening .bluez4 .unreachable false none).putAll [] restoring
    let b := (opening .bluez4 .unreachable false none).makeAll restoring
    let full := Registry.after true [.reject (some "full"), .insert fitting]
    past = [.insert fitting, .remove "u", .insert fitting] ∧ b.host.registry.get? "u" = some fitting ∧
      b.host.registry.profiles = [fitting] ∧ full.handle (.submit fitting) = (full.countSubmission, none) ∧
      full.handle (.remove "v") = (full, none) ∧ full.handle .markLoaded = (full, none) := by
  obtain ⟨stores, hosts, -⟩ := stores_as_map
  have past : (opening .bluez4 .unreachable false none).putAll [] restoring =
      [.insert fitting, .remove "u", .insert fitting] := by decide
  have hosts := hosts false _ _ ((Requested.opening .bluez4 .unreachable none .byAddress).makeAll restoring)
  have full := stores true [.reject (some "full"), .insert fitting]
  refine ⟨past, (hosts.found "u").trans ?_, hosts.inOrder.trans ?_, full.turnedDown fitting "full" rfl,
    full.unremoved "v" (by decide), full.loadedOnce (.inl rfl)⟩ <;> rw [past] <;> decide

end Bench

end Piconet
