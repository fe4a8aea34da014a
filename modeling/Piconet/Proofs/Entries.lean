import Mathlib.Data.List.Induction
import Mathlib.Data.List.Nodup
import Mathlib.Data.List.Perm.Basic
import Piconet.Host.Signal

/-!
# What named values make up

A batch is read from named values one after another. So it is what each of them says on its own, the
later ones over the earlier ones (`PropertyBatch.ofEntries_append`), and when no name comes twice the
order is of no concern (`PropertyBatch.ofEntries_perm`). Values of the wrong type and unknown names are
to add nothing (`PropertyBatch.IsProper`). That is so for all properties but one: an array of any type is
taken for a list of services, the strings that are in it, and an array of something else for an empty
list (`PropertyBatch.services?`).
-/

namespace Piconet

namespace PropertyBatch

open Bus (Value Ty)

variable {a b c : PropertyBatch} {e f : String × Value} {es fs : List (String × Value)}

/-! ## One over the other -/

theorem record_eq_atop (b : PropertyBatch) (name : String) (v : Value) :
    b.record name v = (empty.record name v).atop b := by
  cases v <;> simp only [record, empty_atop] <;> split <;> try split
  all_goals simp [atop, empty]

theorem ofEntries_singleton (e : String × Value) :
    ofEntries [e] = empty.record e.1 e.2.unwrap := rfl

theorem ofEntries_concat (es : List (String × Value)) (e : String × Value) :
    ofEntries (es ++ [e]) = (ofEntries [e]).atop (ofEntries es) := by
  rw [ofEntries_append_singleton, add, record_eq_atop, ofEntries_singleton]

/-- **What some values say lies over what was said before them.** -/
theorem ofEntries_append (es fs : List (String × Value)) :
    ofEntries (es ++ fs) = (ofEntries fs).atop (ofEntries es) := by
  induction fs using List.reverseRecOn with
  | nil => rw [List.append_nil, ofEntries_nil, empty_atop]
  | append_singleton fs f ih =>
    rw [← List.append_assoc, ofEntries_concat, ih, ofEntries_concat, atop_assoc]

theorem ofEntries_cons (e : String × Value) (es : List (String × Value)) :
    ofEntries (e :: es) = (ofEntries es).atop (ofEntries [e]) := ofEntries_append [e] es

/-- Variants around a value are of no concern. -/
theorem ofEntries_congr (same : List.Forall₂ (fun e f => e.1 = f.1 ∧ e.2.unwrap = f.2.unwrap) es fs) :
    ofEntries es = ofEntries fs := by
  induction same with
  | nil => rfl
  | @cons e f es fs head _ ih =>
    rw [ofEntries_cons e es, ofEntries_cons f fs, ih, ofEntries_singleton, ofEntries_singleton,
      head.1, head.2]

/-! ## Different properties -/

/-- No property is in both batches. -/
structure Apart (a b : PropertyBatch) : Prop where
  address : a.address = none ∨ b.address = none
  name : a.name = none ∨ b.name = none
  rssi : a.rssi = none ∨ b.rssi = none
  uuids : a.uuids = none ∨ b.uuids = none
  connected : a.connected = none ∨ b.connected = none
  adapter : a.adapter = none ∨ b.adapter = none

/-- What one value says is said under the name of the property. -/
theorem named (e : String × Value) :
    ((ofEntries [e]).address = none ∨ e.1 = "Address") ∧ ((ofEntries [e]).name = none ∨ e.1 = "Name") ∧
    ((ofEntries [e]).rssi = none ∨ e.1 = "RSSI") ∧ ((ofEntries [e]).uuids = none ∨ e.1 = "UUIDs") ∧
    ((ofEntries [e]).connected = none ∨ e.1 = "Connected") ∧
    ((ofEntries [e]).adapter = none ∨ e.1 = "Adapter") := by
  rw [ofEntries_singleton]
  cases e.2.unwrap <;> simp only [record] <;> (repeat' split) <;> simp_all [empty]

/-- Values of different names say different things. -/
theorem apart_of_ne (other : e.1 ≠ f.1) : Apart (ofEntries [e]) (ofEntries [f]) := by
  have one {α : Type} {x y : Option α} {key : String} (first : x = none ∨ e.1 = key)
      (second : y = none ∨ f.1 = key) : x = none ∨ y = none :=
    first.imp_right fun here => second.resolve_right fun there => other (here.trans there.symm)
  obtain ⟨a₁, a₂, a₃, a₄, a₅, a₆⟩ := named e
  obtain ⟨b₁, b₂, b₃, b₄, b₅, b₆⟩ := named f
  exact ⟨one a₁ b₁, one a₂ b₂, one a₃ b₃, one a₄ b₄, one a₅ b₅, one a₆ b₆⟩

theorem Apart.atop (left : a.Apart b) (right : a.Apart c) : a.Apart (c.atop b) := by
  have both {α : Type} {x y z : Option α} (first : x = none ∨ y = none) (second : x = none ∨ z = none) :
      x = none ∨ z.or y = none := by
    rw [Option.or_eq_none_iff]
    tauto
  exact ⟨both left.address right.address, both left.name right.name, both left.rssi right.rssi,
    both left.uuids right.uuids, both left.connected right.connected, both left.adapter right.adapter⟩

/-- Batches that say different things may change places. -/
theorem Apart.atop_comm (apart : a.Apart b) : a.atop b = b.atop a := by
  have swap {α : Type} {x y : Option α} (one : x = none ∨ y = none) : x.or y = y.or x := by
    rcases one with rfl | rfl <;> simp
  rw [PropertyBatch.atop, PropertyBatch.atop, swap apart.address, swap apart.name, swap apart.rssi,
    swap apart.uuids, swap apart.connected, swap apart.adapter]

/-- What is said under other names says something else. -/
theorem apart_of_notMem (new : e.1 ∉ es.map Prod.fst) : Apart (ofEntries [e]) (ofEntries es) := by
  induction es with
  | nil => exact ⟨.inr rfl, .inr rfl, .inr rfl, .inr rfl, .inr rfl, .inr rfl⟩
  | cons f es ih =>
    obtain ⟨other, new⟩ := List.ne_and_not_mem_of_not_mem_cons new
    rw [ofEntries_cons f es]
    exact (apart_of_ne other).atop (ih new)

/-- **The order of values is of no concern when no name comes twice.** -/
theorem ofEntries_perm (order : es.Perm fs) (distinct : (es.map Prod.fst).Nodup) :
    ofEntries es = ofEntries fs := by
  refine order.foldl_eq' (fun e he f hf b => ?_) empty
  by_cases same : e.1 = f.1
  · rw [List.inj_on_of_nodup_map distinct he hf same]
  · have step (b : PropertyBatch) (e : String × Value) : b.add e.1 e.2 = (ofEntries [e]).atop b :=
      record_eq_atop b e.1 e.2.unwrap
    rw [step, step, step, step, ← atop_assoc, ← atop_assoc, (apart_of_ne same).atop_comm]

/-! ## Values of the right type -/

/-- The properties by name, with the types of their values. -/
def types : List (String × Ty) :=
  [("Address", .string), ("Name", .string), ("RSSI", .int16), ("UUIDs", .array .string),
    ("Connected", .bool), ("Adapter", .objectPath)]

/-- The name is that of a property, and inside of all variants the value has the type of the property. -/
def IsProper (e : String × Value) : Prop := ∃ ty ∈ e.2.unwrap.ty?, (e.1, ty) ∈ types

instance : DecidablePred IsProper := fun e =>
  inferInstanceAs (Decidable (∃ ty ∈ e.2.unwrap.ty?, (e.1, ty) ∈ types))

/-- What is to be a list of services is an array of something else than strings. -/
def IsStray (e : String × Value) : Prop :=
  e.1 = "UUIDs" ∧ e.2.unwrap.items?.isSome ∧ e.2.unwrap.ty? ≠ some (.array .string)

/-- The services that a value lists: the strings in an array, whatever it is an array of. -/
def services? (e : String × Value) : Option (List String) :=
  if e.1 = "UUIDs" then e.2.unwrap.items?.map (·.filterMap Value.text?) else none

/-- Lists of services are proper or stray. -/
theorem proper_or_stray {us : List String} (lists : services? e = some us) :
    e.1 = "UUIDs" ∧ IsProper e ∨ IsStray e := by
  obtain ⟨name, lists⟩ := Option.ite_none_right_eq_some.1 lists
  obtain ⟨items, array, -⟩ := Option.map_eq_some_iff.1 lists
  by_cases strings : e.2.unwrap.ty? = some (.array .string)
  · exact .inl ⟨name, .array .string, strings, by simp [types, name]⟩
  · exact .inr ⟨name, by simp [array], strings⟩

theorem isSome_services? (name : e.1 = "UUIDs") (proper : IsProper e) : (services? e).isSome := by
  obtain ⟨ty, typed, known⟩ := proper
  obtain rfl : ty = .array .string := by simpa [types, name] using known
  rw [services?, if_pos name, Option.isSome_map]
  cases h : e.2.unwrap <;> simp_all [Value.ty?, Value.items?]

theorem uuids_singleton (e : String × Value) : (ofEntries [e]).uuids = services? e := by
  rw [ofEntries_singleton, services?]
  cases e.2.unwrap <;> simp only [record] <;> (repeat' split) <;> simp_all [empty, Value.items?]

/-- A value of the wrong type, or of an unknown name, says nothing but the services it lists. -/
theorem ofEntries_of_improper (improper : ¬ IsProper e) :
    ofEntries [e] = { uuids := services? e } := by
  rw [← uuids_singleton, ofEntries_singleton]
  cases h : e.2.unwrap <;> simp only [record] <;> (repeat' split) <;>
    simp_all [empty, IsProper, types, Value.ty?]

/-- What stands under the name of the services says nothing but services. -/
theorem ofEntries_of_name (name : e.1 = "UUIDs") : ofEntries [e] = { uuids := services? e } := by
  rw [← uuids_singleton, ofEntries_singleton, name]
  cases e.2.unwrap <;> simp [record, empty]

/-- **Values of the right type make up the batch**, but for services: those are of the last array. -/
theorem ofEntries_eq (es : List (String × Value)) : ofEntries es =
    { ofEntries (es.filter IsProper) with uuids := (es.filterMap services?).getLast? } := by
  induction es using List.reverseRecOn with
  | nil => rfl
  | append_singleton es e ih =>
    have last : ((es ++ [e]).filterMap services?).getLast? =
        (services? e).or (es.filterMap services?).getLast? := by
      cases lists : services? e <;> simp [lists]
    rw [ofEntries_concat, ih, last, List.filter_append, List.filter_singleton]
    by_cases proper : IsProper e
    · rw [decide_eq_true proper, Bool.cond_true, ofEntries_concat, ← uuids_singleton]
      rfl
    · rw [decide_eq_false proper, Bool.cond_false, List.append_nil, ofEntries_of_improper proper]
      simp [atop]

/-- Behind every stray array there is a list of services. -/
def Mended : List (String × Value) → Prop
  | [] => True
  | e :: es => (IsStray e → ∃ f ∈ es, f.1 = "UUIDs" ∧ IsProper f) ∧ Mended es

theorem mended_of_clean (clean : ∀ e ∈ es, ¬ IsStray e) : Mended es := by
  induction es with
  | nil => trivial
  | cons e es ih =>
    obtain ⟨first, rest⟩ := List.forall_mem_cons.1 clean
    exact ⟨fun stray => absurd stray first, ih rest⟩

/-- A stray array is overwritten by the list of services behind it. -/
theorem Mended.services (mended : Mended es) : (es.filterMap services?).getLast? =
    ((es.filter IsProper).filterMap services?).getLast? := by
  induction es with
  | nil => rfl
  | cons e es ih =>
    obtain ⟨first, rest⟩ := mended
    have ih := ih rest
    by_cases proper : IsProper e
    · cases lists : services? e <;> simp [proper, lists, List.getLast?_cons, ih]
    · rw [List.filter_cons_of_neg (by simpa using proper), ← ih]
      cases lists : services? e with
      | none => rw [List.filterMap_cons_none lists]
      | some us =>
        have stray : IsStray e := (proper_or_stray lists).resolve_left fun good => proper good.2
        obtain ⟨f, mem, name, good⟩ := first stray
        obtain ⟨vs, lists'⟩ := Option.isSome_iff_exists.1 (isSome_services? name good)
        have behind : es.filterMap services? ≠ [] :=
          List.ne_nil_of_mem (List.mem_filterMap.2 ⟨f, mem, lists'⟩)
        rw [List.filterMap_cons_some lists, List.getLast?_cons_of_ne_nil behind]

/-- **Which values count.** A batch made of named values is the one made of those whose name is known and whose
value has the right type, except that `uuids` comes from the last array under `UUIDs`, whatever its elements
are. So nothing else counts if each array of something else is followed by an array of strings (`Mended`). Where
there is no such array, values that are all of the wrong type or of unknown names make an empty batch, and a
signal with them no batch at all. An array under `UUIDs` without any string sets `uuids` to the empty list. -/
theorem ofEntries_eq_proper (es : List (String × Value)) :
    (ofEntries es =
      { ofEntries (es.filter IsProper) with uuids := (es.filterMap services?).getLast? })
    ∧ (Mended es → ofEntries es = ofEntries (es.filter IsProper))
    ∧ ((∀ e ∈ es, ¬ IsProper e ∧ ¬ IsStray e) → ofEntries es = empty
        ∧ (∀ g path interface invalidated,
          (Signal.changed path interface es invalidated).batch? g = none)
        ∧ ∀ g path, ∀ e ∈ es, (Signal.property path e.1 e.2).batch? g = none)
    ∧ ∀ e items, e.1 = "UUIDs" → e.2.unwrap.items? = some items → (∀ v ∈ items, v.ty? ≠ some .string) →
        ofEntries (es ++ [e]) = { ofEntries es with uuids := some [] } := by
  have mended {es : List (String × Value)} (mended : Mended es) :
      ofEntries es = ofEntries (es.filter IsProper) := by
    rw [ofEntries_eq (es.filter IsProper), ofEntries_eq, mended.services, List.filter_filter]
    simp only [Bool.and_self]
  have nothing {es : List (String × Value)} (bad : ∀ e ∈ es, ¬ IsProper e ∧ ¬ IsStray e) :
      ofEntries es = empty := by
    have none : es.filter IsProper = [] :=
      List.filter_eq_nil_iff.2 fun e mem => by simpa using (bad e mem).1
    rw [mended (mended_of_clean fun e mem => (bad e mem).2), none, ofEntries_nil]
  have silent : empty.isEmpty = true := rfl
  refine ⟨ofEntries_eq es, mended, fun bad => ⟨nothing bad, fun g path interface invalidated => ?_,
    fun g path e mem => ?_⟩, fun e items name array textless => ?_⟩
  · simp [Signal.batch?, nothing bad, silent]
  · have single : ofEntries [(e.1, e.2)] = empty :=
      nothing fun f here => List.mem_singleton.1 here ▸ bad e mem
    simp [Signal.batch?, single, silent]
  · have none : items.filterMap Value.text? = [] := by
      refine List.filterMap_eq_nil_iff.2 fun v mem => ?_
      cases v with
      | string s => exact absurd rfl (textless _ mem)
      | _ => rfl
    rw [ofEntries_concat, ofEntries_of_name name, services?, if_pos name, array, Option.map_some, none]
    simp [atop]

/-- An array of numbers, where there should be a list of services. -/
def strayed : String × Value := ("UUIDs", .array .int32 [.int32 1])

/-- **An array of numbers under `UUIDs` is not ignored**: it makes a batch with an empty list of UUIDs, and a
signal with it is delivered to those who follow the device. -/
theorem ofEntries_strayed : ¬ IsProper strayed ∧ [strayed].filter IsProper = [] ∧
    ofEntries [strayed] ≠ ofEntries ([strayed].filter IsProper) ∧ ofEntries [strayed] ≠ empty ∧
    (Signal.changed "/d" Generation.bluez5.deviceInterface [strayed] []).batch? .bluez5 =
      some ("/d", { uuids := some [] }) := by
  decide

/-- The list of services behind an array of numbers counts, a text that should be a number does not, and
behind the text the array counts as an empty list. -/
theorem ofEntries_eq_proper_strayed :
    ofEntries [strayed, ("UUIDs", .variant (.array .string [.string "1116-0"]))] =
        { uuids := some ["1116-0"] }
      ∧ ofEntries [("RSSI", .string "-42")] = empty
      ∧ ofEntries ([("RSSI", .string "-42")] ++ [strayed]) = { uuids := some [] } := by
  obtain ⟨-, mended, -⟩ := ofEntries_eq_proper
    [strayed, ("UUIDs", .variant (.array .string [.string "1116-0"]))]
  obtain ⟨-, -, nothing, stray⟩ := ofEntries_eq_proper [("RSSI", .string "-42")]
  refine ⟨mended ⟨fun _ => ⟨_, List.mem_singleton_self _, rfl, by decide⟩, ?_, trivial⟩, ?_, ?_⟩
  · exact fun stray => absurd rfl stray.2.2
  · refine (nothing fun e mem => ?_).1
    rw [List.mem_singleton.1 mem]
    exact ⟨by decide, fun stray => absurd stray.1 (by decide)⟩
  · exact stray strayed [.int32 1] rfl rfl (by simp [Value.ty?])

end PropertyBatch

end Piconet
