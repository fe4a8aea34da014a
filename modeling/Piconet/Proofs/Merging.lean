import Mathlib.Data.List.Induction
import Piconet.Proofs.Device

/-!
# What a device makes of a sequence of batches

`Device.merge` takes in one batch. Here any number of them is taken in one after another
(`Device.mergeAll`), and what comes of it is read off the batches: an address is kept from the first
batch that has one, capabilities from the first list of services that amounts to any, and the other
properties are what was said of them last. `Device.brings` says of one batch, property by property,
whether it is news to the device.
-/

namespace Piconet

theorem KnownAddress.ofText?_eq_some_iff {text : String} {a : KnownAddress} :
    ofText? text = some a ↔ a.text = text := by
  constructor
  · exact text_of_ofText?
  · rintro rfl
    obtain ⟨text, bytes, parsed⟩ := a
    unfold ofText?
    split
    · next parsed' =>
      obtain rfl : _ = bytes := Option.some.inj (parsed'.symm.trans parsed)
      rfl
    · next unread => exact absurd (parsed.symm.trans unread) (by simp)

theorem KnownAddress.text_injective : Function.Injective KnownAddress.text := fun _ _ same =>
  Option.some.inj ((ofText?_eq_some_iff.mpr same).symm.trans (ofText?_eq_some_iff.mpr rfl))

/-- The first address among texts is written as the first text that is one. -/
theorem KnownAddress.map_text_first (texts : List String) :
    (texts.findSome? ofText?).map text = texts.find? fun t => (HwAddress.parse? t).isSome := by
  induction texts with
  | nil => rfl
  | cons t texts ih =>
    rw [List.findSome?_cons, List.find?_cons, ← ofText?_isSome]
    cases known : ofText? t with
    | none => exact ih
    | some a => exact congrArg some (text_of_ofText? known)

/-- The bytes of the first address among texts are the first that are read from any. -/
theorem KnownAddress.map_bytes_first (texts : List String) :
    (texts.findSome? ofText?).map bytes = texts.findSome? HwAddress.parse? := by
  have read : Option.map bytes ∘ ofText? = HwAddress.parse? := by
    funext t
    simp only [Function.comp_apply, ofText?]
    split
    · next parsed => exact parsed.symm
    · next unread => exact unread.symm
  rw [List.map_findSome?, read]

theorem Capabilities.isEmpty_iff (c : Capabilities) : c.isEmpty = true ↔ c = .empty := by
  rcases c with ⟨_ | _, _ | _, r⟩ <;> simp [isEmpty, empty]

/-- The capabilities that a list of services amounts to, if it amounts to any. -/
def Generation.offered? (g : Generation) (uuids : List String) : Option Capabilities :=
  if (g.capabilitiesOf uuids).isEmpty then none else some (g.capabilitiesOf uuids)

namespace PropertyBatch

variable {α β : Type} (said : PropertyBatch → Option α) (read : α → Option β)

/-- The first thing said that can be read, as it is read. -/
def first? (bs : List PropertyBatch) : Option β := (bs.filterMap said).findSome? read

/-- The last thing said. -/
def last? (bs : List PropertyBatch) : Option α := (bs.filterMap said).getLast?

theorem first?_concat (bs : List PropertyBatch) (b : PropertyBatch) :
    first? said read (bs ++ [b]) = (first? said read bs).or ((said b).bind read) := by
  cases said_b : said b <;> simp [first?, said_b]

theorem last?_concat (bs : List PropertyBatch) (b : PropertyBatch) :
    last? said (bs ++ [b]) = (said b).or (last? said bs) := by
  cases said_b : said b <;> simp [last?, said_b]

end PropertyBatch

namespace Device

open PropertyBatch (first? last? first?_concat last?_concat)

/-- Takes in one batch after another. -/
def mergeAll (d : Device) (bs : List PropertyBatch) : Device := bs.foldl merge d

theorem mergeAll_concat (d : Device) (bs : List PropertyBatch) (b : PropertyBatch) :
    d.mergeAll (bs ++ [b]) = (d.mergeAll bs).merge b := by
  rw [mergeAll, List.foldl_append]
  rfl

/-- What a batch says that is news to a device, property by property: a text that is an address
where none is known, services that amount to some capabilities where there are none, and any other
value that differs from the present one. -/
def brings (d : Device) (b : PropertyBatch) : Changes where
  address := d.address.isNone && b.address.any fun text => (HwAddress.parse? text).isSome
  name := b.name.any fun name => d.name ≠ some name
  rssi := b.rssi.any fun level => d.rssi ≠ level
  capabilities := d.capabilities.isEmpty && b.uuids.any fun uuids => (d.generation.offered? uuids).isSome
  connected := b.connected.any fun up => d.connected ≠ up
  usable := false

/-- The capabilities offered are not none at all. -/
theorem isEmpty_of_offered? {g : Generation} {uuids : List String} {c : Capabilities}
    (offered : g.offered? uuids = some c) : c.isEmpty = false := by
  obtain ⟨something, equal⟩ := Option.ite_none_left_eq_some.mp offered
  obtain rfl : _ = c := Option.some.inj equal
  exact Bool.eq_false_iff.mpr something

/-- One batch, with the capabilities it offers set apart from those the device has. -/
theorem merge_eq (d : Device) (b : PropertyBatch) : d.merge b =
    { d with
      address := d.address.or (b.address.bind KnownAddress.ofText?)
      name := b.name.or d.name
      rssi := b.rssi.getD d.rssi
      capabilities :=
        if d.capabilities.isEmpty then (b.uuids.bind d.generation.offered?).getD .empty
        else d.capabilities
      connected := b.connected.getD d.connected } := by
  have capabilities : (b.uuids.elim d d.offerServices).capabilities =
      if d.capabilities.isEmpty then (b.uuids.bind d.generation.offered?).getD .empty
      else d.capabilities := by
    split
    · next bare =>
      cases b.uuids with
      | none => exact (Capabilities.isEmpty_iff _).mp bare
      | some uuids =>
        rw [Option.bind_some, Generation.offered?, Option.elim_some, offerServices, if_pos bare]
        split
        · next nothing => exact (Capabilities.isEmpty_iff _).mp nothing
        · rfl
    · next some =>
      cases b.uuids with
      | none => rfl
      | some uuids => exact if_neg some
  simp only [merge, capabilities, offerAddress, Option.orElse_eq_orElse, Option.orElse_eq_or]

/-! ## All batches -/

/-- What comes of a sequence of batches, for any device that takes them in. -/
theorem mergeAll_eq (d : Device) (bs : List PropertyBatch) : d.mergeAll bs =
    { d with
      address := d.address.or (first? (·.address) KnownAddress.ofText? bs)
      name := (last? (·.name) bs).or d.name
      rssi := (last? (·.rssi) bs).getD d.rssi
      capabilities :=
        if d.capabilities.isEmpty then (first? (·.uuids) d.generation.offered? bs).getD .empty
        else d.capabilities
      connected := (last? (·.connected) bs).getD d.connected } := by
  induction bs using List.reverseRecOn with
  | nil =>
    by_cases bare : d.capabilities.isEmpty
    · obtain bare' := (Capabilities.isEmpty_iff _).mp bare
      simp [mergeAll, first?, last?, bare, ← bare']
    · simp [mergeAll, first?, last?, bare]
  | append_singleton bs b ih =>
    simp only [first?_concat, last?_concat]
    rw [mergeAll_concat, merge_eq, ih]
    congr 1
    · exact Option.or_assoc
    · exact Option.or_assoc.symm
    · cases b.rssi <;> rfl
    · by_cases bare : d.capabilities.isEmpty
      · simp only [bare, if_true]
        cases first : first? (·.uuids) d.generation.offered? bs with
        | none => rfl
        | some c =>
          -- what an earlier batch told is kept
          obtain ⟨uuids, -, offered⟩ := List.exists_of_findSome?_eq_some first
          simp [isEmpty_of_offered? offered]
      · simp [bare]
    · cases b.connected <;> rfl

/-- To take in the same batch once more changes nothing. -/
theorem merge_merge (d : Device) (b : PropertyBatch) : (d.merge b).merge b = d.merge b := by
  change d.mergeAll ([] ++ [b] ++ [b]) = d.mergeAll ([] ++ [b])
  rw [mergeAll_eq, mergeAll_eq]
  simp only [first?_concat, last?_concat, Option.or_assoc, Option.or_self]
  congr 1
  · cases b.name <;> rfl
  · cases b.rssi <;> rfl
  · cases b.connected <;> rfl

/-! ## One batch -/

/-- A batch changes what it brings news of, and no other property. -/
theorem changes_merge (d : Device) (b : PropertyBatch) : d.changes (d.merge b) = d.brings b := by
  rw [merge_eq, changes, brings, Changes.mk.injEq]
  refine ⟨?_, ?_, ?_, ?_, ?_, decide_eq_false (not_not_intro rfl)⟩
  · cases d.address with
    | some a => simp
    | none =>
      cases b.address with
      | none => simp
      | some text => cases h : KnownAddress.ofText? text <;> simp [← KnownAddress.ofText?_isSome, h]
  · cases b.name with
    | none => simp
    | some name => exact decide_not.trans (decide_not (p := d.name = some name)).symm
  · cases b.rssi <;> simp
  · by_cases bare : d.capabilities.isEmpty
    · cases b.uuids with
      | none => simp [(Capabilities.isEmpty_iff _).mp bare]
      | some uuids =>
        cases offered : d.generation.offered? uuids with
        | none => simp [offered, (Capabilities.isEmpty_iff _).mp bare]
        | some c =>
          have differs : d.capabilities ≠ c := fun equal =>
            absurd (equal ▸ bare) (by simp [isEmpty_of_offered? offered])
          simp [bare, offered, differs]
    · simp [bare]
  · cases b.connected <;> simp

/-- The properties in which two states differ are those whose events differ. -/
theorem has_changes (d e : Device) (p : Property) :
    (d.changes e).has p = true ↔ d.event? p ≠ e.event? p := by
  cases p with
  | address =>
    have told : Function.Injective fun a : KnownAddress => Event.address a.text :=
      fun _ _ same => KnownAddress.text_injective (Event.address.inj same)
    have events : d.event? .address = e.event? .address ↔ d.address = e.address :=
      (Option.map_injective told).eq_iff
    simp only [changes, Changes.has, decide_eq_true_eq, ne_eq, events]
  | name | rssi | capabilities | connected | usable => simp [changes, Changes.has, event?]

/-- **What a device makes of any list of batches.** A new device that merges batches takes its address from the
first text that parses as one, its capabilities from the first list of UUIDs that amounts to any, and its name,
signal strength and link state from whatever was said last; nothing else about it changes. The change set of a
batch has exactly the properties that now differ, so the same batch again has an empty one. -/
theorem takes_all_in :
    (∀ (path : String) (g : Generation) (t : Timeouts) (bs : List PropertyBatch),
      (fresh path g t).mergeAll bs =
        { fresh path g t with
          address := first? (·.address) KnownAddress.ofText? bs
          name := last? (·.name) bs
          rssi := (last? (·.rssi) bs).getD 0
          capabilities := (first? (·.uuids) g.offered? bs).getD .empty
          connected := (last? (·.connected) bs).getD false }
      ∧ ((fresh path g t).mergeAll bs).address.map (·.text)
          = (bs.filterMap (·.address)).find? (fun text => (HwAddress.parse? text).isSome)
      ∧ ((fresh path g t).mergeAll bs).binAddress
          = (first? (·.address) HwAddress.parse? bs).getD .zero)
    ∧ ∀ (d : Device) (b : PropertyBatch),
      d.changes (d.merge b) = d.brings b
      ∧ (∀ p, (d.brings b).has p = true ↔ d.event? p ≠ (d.merge b).event? p)
      ∧ (d.merge b).merge b = d.merge b ∧ (d.merge b).brings b = {} := by
  refine ⟨fun path g t bs => ?_, fun d b => ⟨changes_merge d b, fun p => ?_, merge_merge d b, ?_⟩⟩
  · have all : (fresh path g t).mergeAll bs = _ := mergeAll_eq _ bs
    rw [all, binAddress]
    refine ⟨?_, ?_, ?_⟩
    · simp [fresh, Capabilities.isEmpty, Capabilities.empty]
    · exact KnownAddress.map_text_first _
    · simp only [fresh, Option.none_or]
      rw [first?, first?, ← KnownAddress.map_bytes_first]
      cases List.findSome? KnownAddress.ofText? _ <;> rfl
  · rw [← changes_merge, has_changes]
  · rw [← changes_merge, merge_merge]
    simp [changes]

end Device

end Piconet
