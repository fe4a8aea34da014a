import Mathlib.Logic.Function.Basic
import Piconet.Proofs.Deeds

/-!
# What becomes of devices that go by one address

`AddressSlice` is what decides what becomes of all devices that go by one address, as `DeviceSlice` is for one
device: the devices, the profiles that matter to them, and what they still have to do with a change.
What follows by itself is a function of it (`AddressSlice.turn`), and so is what a deed does to it
(`AddressSlice.after`). Deeds are done when nothing follows any longer, so where a list of deeds leads
to is settled (`AddressSlice.Path.rest`).
-/

namespace Piconet

open Function (update)

/-- What decides what becomes of the devices that go by one address. -/
structure AddressSlice where
  devices : DeviceId → Option Device
  listeners : List Listener
  naming : Naming
  registry : Registry
  /-- how many profiles were submitted for the address -/
  submitted : Nat
  agenda : List Duty
  /-- discovery has something to tell the device that will be assessed -/
  summoned : Bool
  /-- what one of the devices has said of itself -/
  said : List Event

/-- What has to be left to do when a deed is done. -/
def Deed.after : Deed → List Duty
  | .tell id _ | .assess id => [.reassess id]
  | _ => []

/-- A deed belongs to what discovery tells a device. -/
def Deed.tells : Deed → Bool
  | .tell .. | .assess _ => true
  | _ => false

namespace AddressSlice

variable (a : HwAddress) (id : DeviceId)

/-! ## What follows -/

/-- Whether a device is usable is settled. -/
def settle (o : AddressSlice) (j : DeviceId) (d : Device) (usable : Bool) (ds : List Duty) : AddressSlice :=
  { o with
    devices := update o.devices j (some { d with usable })
    agenda := ds
    said := o.said ++ if j = id then d.remark usable else [] }

/-- A device has submitted its profile. -/
def provision (o : AddressSlice) (j : DeviceId) (d : Device) (name : String) (ds : List Duty) : AddressSlice :=
  let p := Profile.forAccessPoint (o.naming.uuid a (o.submitted + 1)) name a
  match o.registry.rejection with
  | some _ =>
    { o with
      devices := update o.devices j (some { d with attempted := true })
      submitted := o.submitted + 1
      agenda := .conclude j :: ds }
  | none =>
    { o with
      devices := update o.devices j (some { d with attempted := true, submitting := true })
      registry := o.registry.insert p
      submitted := o.submitted + 1
      agenda := .announce (.added p) o.listeners :: .adopt j p.uuid :: .conclude j :: ds }

/-- A device is assessed. -/
def assess (o : AddressSlice) (j : DeviceId) (ds : List Duty) : AddressSlice :=
  match o.devices j with
  | some d =>
    match d.gate.decision with
    | .decided usable => o.settle id j d usable ds
    | .provision =>
      match d.dueProfileName? o.registry.loaded with
      | some name => o.provision a j d name ds
      | none => { o with agenda := .conclude j :: ds }
  | none => { o with agenda := ds }

/-- A listener hears of a change. -/
def hear (o : AddressSlice) (n : Registry.Notice) (l : Listener) (ds : List Duty) : AddressSlice :=
  match l with
  | .device j =>
    match (o.devices j).bind (·.hear o.registry.profiles n) with
    | some e => { o with devices := update o.devices j (some e), agenda := .reassess j :: ds }
    | none => { o with agenda := ds }
  | .watcher _ => { o with agenda := ds }

/-- A device takes an accepted profile as its own. -/
def adopt (o : AddressSlice) (j : DeviceId) (uuid : String) (ds : List Duty) : AddressSlice :=
  { o with
    devices := update o.devices j ((o.devices j).map fun d =>
      { d.track uuid with submitting := false, provisioned := some uuid })
    agenda := ds }

/-- An attempt to have a profile settles whether a device is usable. -/
def conclude (o : AddressSlice) (j : DeviceId) (ds : List Duty) : AddressSlice :=
  match o.devices j with
  | some d => o.settle id j d d.provisioned.isSome ds
  | none => { o with agenda := ds }

/-- The first duty is done. -/
def first (o : AddressSlice) : Option AddressSlice :=
  match o.agenda with
  | .announce _ [] :: ds => some { o with agenda := ds }
  | .announce n (l :: ls) :: ds => some (o.hear n l (.announce n ls :: ds))
  | .reassess j :: ds => some (o.assess a id j ds)
  | .adopt j uuid :: ds => some (o.adopt j uuid ds)
  | .conclude j :: ds => some (o.conclude id j ds)
  | _ => none

/-- What follows next, if anything does. -/
def turn (o : AddressSlice) : Option AddressSlice := (o.first a id).map ({ · with summoned := false })

/-! ## What deeds do -/

/-- A device is revised, if it is there. -/
def revise (o : AddressSlice) (j : DeviceId) (f : Device → Device) : AddressSlice :=
  { o with devices := update o.devices j ((o.devices j).map f) }

/-- A device is told something. -/
def tell (o : AddressSlice) (j : DeviceId) (t : Tiding) : AddressSlice :=
  match o.devices j with
  | some d =>
    { o with
      devices := update o.devices j (some (d.learn o.registry.profiles t).1)
      said := o.said ++ if j = id then (d.learn o.registry.profiles t).2 else [] }
  | none => o

/-- The registry handles a request. -/
def request (o : AddressSlice) (q : Registry.Request) : AddressSlice :=
  match o.registry.handle q with
  | (r, some n) => { o with registry := { r with submissions := 0 }, agenda := [.announce n o.listeners] }
  | (r, none) => { o with registry := { r with submissions := 0 } }

/-- What a deed does. -/
def after (o : AddressSlice) : Deed → AddressSlice
  | .create j path g t =>
    { o with
      devices := update o.devices j (some (.fresh path g t))
      listeners := o.listeners ++ [.device j] }
  | .destroy j =>
    { o with
      devices := update o.devices j none
      listeners := o.listeners.filter (· ≠ .device j) }
  | .start j => o.revise j fun d => { d with started := true }
  | .session j s => o.revise j fun d => { d with session := s }
  | .power j on => o.revise j fun d => { d with adapter := .resolved on }
  | .summon j => { o with agenda := [.reassess j], summoned := true }
  | .tell j t => o.tell id j t
  | .assess _ => (o.turn a id).getD o
  | .request q => o.request q

/-! ## Paths -/

/-- Where deeds that are done one after the other lead to. Each is done when nothing follows of those
before it any longer. -/
inductive Path : AddressSlice → List Deed → AddressSlice → Prop
  | refl (o : AddressSlice) : Path o [] o
  | turn {o o' o'' : AddressSlice} {ds : List Deed} (free : o.summoned = false)
      (next : o.turn a id = some o') (path : Path o' ds o'') : Path o ds o''
  | deed {o o'' : AddressSlice} {ds : List Deed} (deed : Deed) (left : o.agenda = deed.after)
      (summoned : deed.tells = true → o.summoned = true) (path : Path (o.after a id deed) ds o'') :
      Path o (deed :: ds) o''

variable {a id} {o o' o'' : AddressSlice} {ds ds' : List Deed}

namespace Path

theorem trans (first : Path a id o ds o') (second : Path a id o' ds' o'') :
    Path a id o (ds ++ ds') o'' := by
  induction first with
  | refl => exact second
  | turn free next _ ih => exact .turn free next (ih second)
  | deed deed left summoned _ ih => exact .deed deed left summoned (ih second)

/-- What follows is not in doubt where something does. -/
theorem of_turn (path : Path a id o ds o'') (end_ : o''.agenda = []) (free : o.summoned = false)
    (next : o.turn a id = some o') : Path a id o' ds o'' := by
  have stuck (empty : o.agenda = []) : False := by
    simp [AddressSlice.turn, AddressSlice.first, empty] at next
  cases path with
  | refl => exact (stuck end_).elim
  | turn _ next' path =>
    obtain rfl := Option.some.inj (next.symm.trans next')
    exact path
  | deed deed left summoned path =>
    cases tells : deed.tells with
    | true => exact absurd (summoned tells) (by simp [free])
    | false =>
      refine (stuck ?_).elim
      rw [left]
      cases deed with
      | tell | assess => exact absurd tells (by simp [Deed.tells])
      | _ => rfl

/-- A deed comes when nothing follows. -/
theorem of_deed {deed : Deed} (path : Path a id o (deed :: ds) o'') (left : o.agenda = deed.after)
    (summoned : deed.tells = true → o.summoned = true) : Path a id (o.after a id deed) ds o'' := by
  cases path with
  | turn free next path =>
    -- nothing follows of what is left
    exfalso
    cases tells : deed.tells with
    | true => exact absurd (summoned tells) (by simp [free])
    | false =>
      have empty : o.agenda = [] := by
        rw [left]
        cases deed with
        | tell | assess => exact absurd tells (by simp [Deed.tells])
        | _ => rfl
      simp [AddressSlice.turn, AddressSlice.first, empty] at next
  | deed _ _ _ path => exact path

/-- **Where deeds lead to is settled**: whatever leads on from some deeds to an end leads to it from
wherever these deeds have led to. -/
theorem rest (first : Path a id o ds o') (whole : Path a id o (ds ++ ds') o'') (end_ : o''.agenda = []) :
    Path a id o' ds' o'' := by
  induction first with
  | refl => exact whole
  | turn free next _ ih => exact ih (whole.of_turn end_ free next)
  | deed deed left summoned _ ih => exact ih (whole.of_deed left summoned)

/-- There is one end only. -/
theorem eq_of_nil (path : Path a id o [] o'') (empty : o.agenda = []) : o = o'' := by
  cases path with
  | refl => rfl
  | turn free next => simp [AddressSlice.turn, AddressSlice.first, empty] at next

end Path

/-! ## Submissions -/

theorem submitted_assess (o : AddressSlice) (j : DeviceId) (ds : List Duty) :
    o.submitted ≤ (o.assess a id j ds).submitted := by
  rw [assess]
  split
  · split
    · exact Nat.le_refl _
    · split
      · rw [provision]
        split <;> exact Nat.le_succ _
      · exact Nat.le_refl _
  · exact Nat.le_refl _

theorem submitted_turn (next : o.turn a id = some o') : o.submitted ≤ o'.submitted := by
  rw [turn] at next
  obtain ⟨x, done, rfl⟩ := Option.map_eq_some_iff.1 next
  change o.submitted ≤ x.submitted
  rw [first] at done
  split at done
  · obtain rfl := Option.some.inj done
    exact Nat.le_refl _
  · next n l ls ds left =>
    obtain rfl := Option.some.inj done
    cases l with
    | watcher w => exact Nat.le_refl _
    | device j =>
      simp only [hear]
      split <;> exact Nat.le_refl _
  · obtain rfl := Option.some.inj done
    exact submitted_assess o _ _
  · obtain rfl := Option.some.inj done
    exact Nat.le_refl _
  · obtain rfl := Option.some.inj done
    rw [conclude]
    split <;> exact Nat.le_refl _
  · exact absurd done (by simp)

theorem submitted_after (o : AddressSlice) (deed : Deed) : o.submitted ≤ (o.after a id deed).submitted := by
  cases deed with
  | assess j =>
    rw [after]
    cases next : o.turn a id with
    | none => exact Nat.le_refl _
    | some o' => exact submitted_turn next
  | tell j t =>
    rw [after, tell]
    split <;> exact Nat.le_refl _
  | request q =>
    rw [after, request]
    split <;> exact Nat.le_refl _
  | _ => exact Nat.le_refl _

/-- Submissions are never taken back. -/
theorem Path.submitted_le (path : Path a id o ds o') : o.submitted ≤ o'.submitted := by
  induction path with
  | refl => exact Nat.le_refl _
  | turn _ next _ ih => exact Nat.le_trans (submitted_turn next) ih
  | deed deed _ _ _ ih => exact Nat.le_trans (submitted_after _ deed) ih

end AddressSlice

end Piconet
