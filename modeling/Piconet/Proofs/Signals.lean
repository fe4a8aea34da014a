import Piconet.Proofs.Entries
import Piconet.Proofs.Merging

/-!
# Two ways to announce changes

One generation announces all changed properties at once, the other one by one. Batches that are about
different properties can be merged one after the other or in one (`Device.merge_atop`), with the same
changes in the end (`Device.brings_atop`); so a device that follows either kind of signals comes to the
same state, however the properties are ordered and however many variants are around their values
(`Device.same_of_signals`).
-/

namespace Piconet

open Bus (Value)
open PropertyBatch (Apart ofEntries)

namespace Bus.Value

/-- A value that is wrapped in variants or taken out of them, any number of times. -/
inductive Rewrapped (v : Value) : Value → Prop
  | refl : Rewrapped v v
  | wrap {w : Value} (rewrapped : Rewrapped v w) : Rewrapped v (.variant w)
  | unwrap {w : Value} (rewrapped : Rewrapped v (.variant w)) : Rewrapped v w

theorem Rewrapped.unwrap_eq {v w : Value} (rewrapped : v.Rewrapped w) : v.unwrap = w.unwrap := by
  induction rewrapped with
  | refl => rfl
  | wrap _ ih => rw [unwrap_variant, ih]
  | unwrap _ ih => rw [ih, unwrap_variant]

end Bus.Value

/-! ## Changes -/

namespace Changes

instance : Union Changes where
  union a b :=
    { address := a.address || b.address
      name := a.name || b.name
      rssi := a.rssi || b.rssi
      capabilities := a.capabilities || b.capabilities
      connected := a.connected || b.connected
      usable := a.usable || b.usable }

theorem empty_union (c : Changes) : {} ∪ c = c := by
  cases c
  rfl

theorem union_empty (c : Changes) : c ∪ {} = c := by
  cases c
  simp [Union.union]

end Changes

namespace Device

variable {d : Device} {a b : PropertyBatch} {e : String × Value} {es es₁ es₂ : List (String × Value)}

/-- Capabilities are those there are, or none. -/
theorem ite_isEmpty (c : Capabilities) : (if c.isEmpty then Capabilities.empty else c) = c := by
  split
  · next bare => exact ((Capabilities.isEmpty_iff c).1 bare).symm
  · rfl

theorem merge_empty (d : Device) : d.merge .empty = d := by
  rw [merge_eq]
  simp [PropertyBatch.empty, ite_isEmpty]

/-- **Batches about different properties can be merged in one.** -/
theorem merge_atop (apart : a.Apart b) (d : Device) : d.merge (b.atop a) = (d.merge a).merge b := by
  rw [merge_eq, merge_eq (d.merge a), merge_eq d a, PropertyBatch.atop]
  congr 1
  · rcases apart.address with none | none <;> simp [none]
  · exact Option.or_assoc
  · cases b.rssi <;> rfl
  · rcases apart.uuids with none | none <;> simp [none, ite_isEmpty]
  · cases b.connected <;> rfl

/-- **What such batches bring in one is what they bring one after the other.** -/
theorem brings_atop (apart : a.Apart b) (d : Device) :
    d.brings (b.atop a) = d.brings a ∪ (d.merge a).brings b := by
  rw [merge_eq]
  refine (Changes.mk.injEq ..).mpr ⟨?_, ?_, ?_, ?_, ?_, rfl⟩
  · rcases apart.address with none | none <;> simp [brings, PropertyBatch.atop, none]
  · rcases apart.name with none | none <;> simp [brings, PropertyBatch.atop, none]
  · rcases apart.rssi with none | none <;> simp [brings, PropertyBatch.atop, none]
  · rcases apart.uuids with none | none <;> simp [brings, PropertyBatch.atop, none, ite_isEmpty]
  · rcases apart.connected with none | none <;> simp [brings, PropertyBatch.atop, none]

/-! ## One value at a time -/

/-- All the changes that batches make which are merged one after another. -/
def gathered : Device → List PropertyBatch → Changes
  | _, [] => {}
  | d, b :: bs => d.changes (d.merge b) ∪ (d.merge b).gathered bs

/-- Batches that say nothing make no difference. -/
theorem mergeAll_filter (d : Device) (bs : List PropertyBatch) :
    d.mergeAll (bs.filter fun b => !b.isEmpty) = d.mergeAll bs ∧
      d.gathered (bs.filter fun b => !b.isEmpty) = d.gathered bs := by
  induction bs generalizing d with
  | nil => exact ⟨rfl, rfl⟩
  | cons b bs ih =>
    cases silent : b.isEmpty with
    | true =>
      obtain rfl := (PropertyBatch.isEmpty_iff b).1 silent
      have unchanged : d.changes d = {} := by simp [changes]
      have merged : d.mergeAll (.empty :: bs) = d.mergeAll bs :=
        congrArg (fun e => mergeAll e bs) (merge_empty d)
      rw [List.filter_cons_of_neg (by simp [silent]), gathered, merge_empty, unchanged,
        Changes.empty_union, merged]
      exact ih d
    | false =>
      rw [List.filter_cons_of_pos (by simp [silent])]
      obtain ⟨merged, changed⟩ := ih (d.merge b)
      exact ⟨merged, congrArg (d.changes (d.merge b) ∪ ·) changed⟩

/-- **Values of different names may as well be merged one by one.** -/
theorem mergeAll_singles (d : Device) (distinct : (es.map Prod.fst).Nodup) :
    d.mergeAll (es.map fun e => ofEntries [e]) = d.merge (ofEntries es) ∧
      d.gathered (es.map fun e => ofEntries [e]) = d.changes (d.merge (ofEntries es)) := by
  induction es generalizing d with
  | nil =>
    rw [PropertyBatch.ofEntries_nil, merge_empty]
    exact ⟨rfl, by simp [gathered, changes]⟩
  | cons e es ih =>
    obtain ⟨new, distinct⟩ := List.nodup_cons.1 distinct
    have apart := PropertyBatch.apart_of_notMem new
    obtain ⟨merged, changed⟩ := ih (d.merge (ofEntries [e])) distinct
    rw [PropertyBatch.ofEntries_cons e es, changes_merge, merge_atop apart, brings_atop apart]
    refine ⟨merged, ?_⟩
    rw [List.map_cons, gathered, changed, changes_merge, changes_merge]

end Device

/-! ## Signals -/

namespace Signal

/-- What those who follow a device hear of signals from it. -/
def batches (g : Generation) (ss : List Signal) : List PropertyBatch :=
  ss.filterMap fun s => (s.batch? g).map Prod.snd

/-- The signal that announces all changed properties of a device. -/
def atOnce (path : String) (es : List (String × Value)) (invalidated : List String) : List Signal :=
  [.changed path Generation.bluez5.deviceInterface es invalidated]

/-- The signals that announce changed properties one by one. -/
def oneByOne (path : String) (es : List (String × Value)) : List Signal :=
  es.map fun e => .property path e.1 e.2

theorem batches_atOnce (path : String) (es : List (String × Value)) (invalidated : List String) :
    batches .bluez5 (atOnce path es invalidated) = [ofEntries es].filter fun b => !b.isEmpty := by
  cases silent : (ofEntries es).isEmpty <;>
    simp [batches, atOnce, batch?, Generation.requiresAdapter, silent]

theorem batches_oneByOne (path : String) (es : List (String × Value)) :
    batches .bluez4 (oneByOne path es) =
      (es.map fun e => ofEntries [e]).filter fun b => !b.isEmpty := by
  induction es with
  | nil => rfl
  | cons e es ih =>
    have first : ((Signal.property path e.1 e.2).batch? .bluez4).map Prod.snd =
        if (ofEntries [e]).isEmpty then none else some (ofEntries [e]) := by
      cases silent : (ofEntries [e]).isEmpty <;>
        simp [batch?, Generation.requiresAdapter, silent]
    rw [batches, oneByOne, List.map_cons, List.filterMap_cons, first, List.map_cons,
      List.filter_cons, ← ih]
    cases (ofEntries [e]).isEmpty <;> rfl

end Signal

namespace Device

open Signal (atOnce batches oneByOne)

variable {es es₁ es₂ fs gs : List (String × Value)}

/-- Variants around values are of no concern to those who hear of them one by one. -/
theorem singles_congr (same : List.Forall₂ (fun f g => f.1 = g.1 ∧ f.2.unwrap = g.2.unwrap) fs gs) :
    (fs.map fun e => ofEntries [e]) = gs.map fun e => ofEntries [e] := by
  induction same with
  | nil => rfl
  | cons head _ ih =>
    rw [List.map_cons, List.map_cons, ih, PropertyBatch.ofEntries_congr (.cons head .nil)]

/-- **All at once or one by one.** Changed properties with different names may be announced in one
`PropertiesChanged` signal, as by BlueZ 5, or in one `PropertyChanged` signal each, as by BlueZ 4, in any order;
signals without a known property make no batch. A device that merges the batches of either kind comes to the
same state, with the same changes in all, namely to what it makes of all properties in one batch. And it makes
no difference how often the values are wrapped in variants. -/
theorem same_of_signals (d : Device) (path : String) (invalidated : List String)
    (distinct : (es.map Prod.fst).Nodup) (order₁ : es.Perm es₁) (order₂ : es.Perm es₂) :
    batches .bluez5 (atOnce path es₁ invalidated) = [ofEntries es₁].filter (fun b => !b.isEmpty)
    ∧ batches .bluez4 (oneByOne path es₂) =
        (es₂.map fun e => ofEntries [e]).filter (fun b => !b.isEmpty)
    ∧ d.mergeAll (batches .bluez5 (atOnce path es₁ invalidated)) = d.merge (ofEntries es₁)
    ∧ d.mergeAll (batches .bluez4 (oneByOne path es₂)) = d.merge (ofEntries es₁)
    ∧ d.gathered (batches .bluez5 (atOnce path es₁ invalidated)) = d.changes (d.merge (ofEntries es₁))
    ∧ d.gathered (batches .bluez4 (oneByOne path es₂)) = d.changes (d.merge (ofEntries es₁))
    ∧ ∀ fs gs : List (String × Value),
        List.Forall₂ (fun f g => f.1 = g.1 ∧ f.2.Rewrapped g.2) fs gs →
          ofEntries fs = ofEntries gs
          ∧ batches .bluez5 (atOnce path fs invalidated) = batches .bluez5 (atOnce path gs invalidated)
          ∧ batches .bluez4 (oneByOne path fs) = batches .bluez4 (oneByOne path gs) := by
  have same : ofEntries es₂ = ofEntries es₁ :=
    (PropertyBatch.ofEntries_perm order₂ distinct).symm.trans
      (PropertyBatch.ofEntries_perm order₁ distinct)
  have distinct₂ : (es₂.map Prod.fst).Nodup := (order₂.map Prod.fst).nodup_iff.1 distinct
  obtain ⟨merged, changed⟩ := d.mergeAll_singles distinct₂
  obtain ⟨kept₁, gathers₁⟩ := d.mergeAll_filter [ofEntries es₁]
  obtain ⟨kept₂, gathers₂⟩ := d.mergeAll_filter (es₂.map fun e => ofEntries [e])
  rw [Signal.batches_atOnce, Signal.batches_oneByOne]
  refine ⟨rfl, rfl, kept₁, ?_, ?_, ?_, fun fs gs rewrapped => ?_⟩
  · rw [kept₂, merged, same]
  · rw [gathers₁, gathered, gathered, Changes.union_empty]
  · rw [gathers₂, changed, same]
  · have same : List.Forall₂ (fun f g : String × Value => f.1 = g.1 ∧ f.2.unwrap = g.2.unwrap) fs gs :=
      rewrapped.imp fun f g related => ⟨related.1, related.2.unwrap_eq⟩
    have whole := PropertyBatch.ofEntries_congr same
    simp only [Signal.batches_atOnce, Signal.batches_oneByOne, whole, singles_congr same, and_self]

/-- Three properties that change, one of them with a value of the wrong type. -/
def announced : List (String × Value) :=
  [("Name", .variant (.string "phone")), ("RSSI", .string "far"), ("Address", .string "1:2:3:4:5:6")]

/-- A new device hears of its name and its address, from first to last or from last to first. -/
theorem same_of_signals_announced :
    (fresh "/d" .bluez4 {}).gathered (batches .bluez5 (atOnce "/d" announced [])) =
        { address := true, name := true }
      ∧ (fresh "/d" .bluez4 {}).gathered (batches .bluez4 (oneByOne "/d" announced.reverse)) =
        { address := true, name := true } := by
  have distinct : (announced.map Prod.fst).Nodup := by decide
  obtain ⟨-, -, -, -, all, each, -⟩ := same_of_signals (fresh "/d" .bluez4 {}) "/d" [] distinct
    (List.Perm.refl _) (List.reverse_perm announced).symm
  rw [all, each]
  decide

end Device

end Piconet
