import Mathlib.Data.List.Nodup
import Piconet.Proofs.Core

/-!
# What requests do to the registry

A change that is announced has one effect on the stored profiles for each kind of notice
(`Registry.Notice.Effect`), whichever request it comes from; a request that announces nothing
leaves them alone.
-/

namespace Piconet

/-- A UUID that starts otherwise is none that a device comes up with. -/
theorem Core.old_of_head? {c : Core} {u : String} (writes : c.naming = .byAddress)
    (foreign : u.toList.head? ≠ some 'p') : c.Old u := by
  rintro a n rfl
  rw [writes, Naming.head?_byAddress] at foreign
  exact absurd rfl foreign

/-! ## Requests -/

namespace Registry

variable {r r' : Registry} {q : Request} {n : Notice} {p x : Profile} {stored stored' : List Profile}

/-- The profile that a request brings in, when the registry takes it. -/
def Request.brings? : Request → Option Profile
  | .insert p | .submit p => some p
  | _ => none

/-- The UUID under which a request stores, changes or removes a profile. -/
def Request.uuid? : Request → Option String
  | .insert p | .update p | .submit p => some p.uuid
  | .remove uuid => some uuid
  | .markLoaded | .reject _ => none

/-- What an announced change does to the stored profiles. -/
inductive Notice.Effect (stored : List Profile) : Notice → List Profile → Prop
  | added (p : Profile) : Effect stored (.added p) (stored.filter (·.uuid ≠ p.uuid) ++ [p])
  | updated (p : Profile) (known : ∃ old ∈ stored, old.uuid = p.uuid) :
      Effect stored (.updated p) (stored.map fun x => if x.uuid = p.uuid then p else x)
  | removed (p : Profile) (mem : p ∈ stored) :
      Effect stored (.removed p) (stored.filter (·.uuid ≠ p.uuid))
  | loaded : Effect stored .loaded stored

/-- What a listener that hears of a change can count on, as long as it is announced. -/
def Notice.Agrees (stored : List Profile) : Notice → Prop
  | .added p | .updated p => p ∈ stored
  | .removed p => ∀ x ∈ stored, x.uuid ≠ p.uuid
  | .loaded => True

theorem mem_of_get? {uuid : String} (found : r.get? uuid = some p) :
    p ∈ r.profiles ∧ p.uuid = uuid :=
  ⟨List.mem_of_find?_eq_some found, by simpa using List.find?_some found⟩

theorem profiles_of_unheard (handled : r.handle q = (r', none)) : r'.profiles = r.profiles := by
  cases q with
  | insert p => exact absurd handled (by simp [handle])
  | update p =>
    simp only [handle] at handled
    split at handled
    · exact absurd handled (by simp)
    · rw [← (Prod.mk.inj handled).1]
  | remove uuid =>
    simp only [handle] at handled
    split at handled
    · exact absurd handled (by simp)
    · rw [← (Prod.mk.inj handled).1]
  | submit p =>
    simp only [handle] at handled
    split at handled
    · rw [← (Prod.mk.inj handled).1]
      rfl
    · exact absurd handled (by simp)
  | markLoaded =>
    simp only [handle] at handled
    split at handled
    · rw [← (Prod.mk.inj handled).1]
    · exact absurd handled (by simp)
  | reject reason =>
    rw [← (Prod.mk.inj handled).1]
    rfl

/-- **What is announced tells what was done.** -/
theorem effect_of_heard (handled : r.handle q = (r', some n)) :
    n.Effect r.profiles r'.profiles := by
  cases q with
  | insert p =>
    obtain ⟨rfl, hn⟩ := Prod.mk.inj handled
    obtain rfl := Option.some.inj hn
    exact .added p
  | update p =>
    simp only [handle] at handled
    split at handled
    · next known =>
      obtain ⟨rfl, hn⟩ := Prod.mk.inj handled
      obtain rfl := Option.some.inj hn
      obtain ⟨old, found⟩ := Option.isSome_iff_exists.1 known
      exact .updated p ⟨old, mem_of_get? found⟩
    · exact absurd handled (by simp)
  | remove uuid =>
    simp only [handle] at handled
    split at handled
    · next p found =>
      obtain ⟨rfl, hn⟩ := Prod.mk.inj handled
      obtain rfl := Option.some.inj hn
      obtain ⟨mem, rfl⟩ := mem_of_get? found
      exact .removed p mem
    · exact absurd handled (by simp)
  | submit p =>
    simp only [handle] at handled
    split at handled
    · exact absurd handled (by simp)
    · obtain ⟨rfl, hn⟩ := Prod.mk.inj handled
      obtain rfl := Option.some.inj hn
      exact .added p
  | markLoaded =>
    simp only [handle] at handled
    split at handled
    · exact absurd handled (by simp)
    · obtain ⟨rfl, hn⟩ := Prod.mk.inj handled
      obtain rfl := Option.some.inj hn
      exact .loaded
  | reject reason => exact absurd handled (by simp [handle])

/-- A profile that is announced as added was brought in by the request. -/
theorem brings_of_added (handled : r.handle q = (r', some (.added p))) : q.brings? = some p := by
  cases q with
  | insert x => simpa [handle, Request.brings?] using (Prod.mk.inj handled).2
  | submit x =>
    simp only [handle] at handled
    split at handled
    · exact absurd handled (by simp)
    · simpa [Request.brings?] using (Prod.mk.inj handled).2
  | update x =>
    simp only [handle] at handled
    split at handled <;> exact absurd handled (by simp)
  | remove uuid =>
    simp only [handle] at handled
    split at handled <;> exact absurd handled (by simp)
  | markLoaded =>
    simp only [handle] at handled
    split at handled <;> exact absurd handled (by simp)
  | reject reason => exact absurd handled (by simp [handle])

/-- What is announced is about the UUID of the request. -/
theorem uuid?_of_heard (handled : r.handle q = (r', some n)) (about : n.profile? = some p) :
    q.uuid? = some p.uuid := by
  cases q with
  | insert x =>
    obtain rfl : .added x = n := Option.some.inj (Prod.mk.inj handled).2
    exact congrArg (some ·.uuid) (Option.some.inj about)
  | update x =>
    simp only [handle] at handled
    split at handled
    · obtain rfl : .updated x = n := Option.some.inj (Prod.mk.inj handled).2
      exact congrArg (some ·.uuid) (Option.some.inj about)
    · exact absurd handled (by simp)
  | remove uuid =>
    simp only [handle] at handled
    split at handled
    · next x found =>
      obtain rfl : .removed x = n := Option.some.inj (Prod.mk.inj handled).2
      obtain rfl := Option.some.inj about
      exact congrArg some (mem_of_get? found).2.symm
    · exact absurd handled (by simp)
  | submit x =>
    simp only [handle] at handled
    split at handled
    · exact absurd handled (by simp)
    · obtain rfl : .added x = n := Option.some.inj (Prod.mk.inj handled).2
      exact congrArg (some ·.uuid) (Option.some.inj about)
  | markLoaded =>
    simp only [handle] at handled
    split at handled
    · exact absurd handled (by simp)
    · obtain rfl : .loaded = n := Option.some.inj (Prod.mk.inj handled).2
      exact absurd about (by simp [Notice.profile?])
  | reject reason => exact absurd handled (by simp [handle])

/-- A request that brings a profile in announces nothing but its addition. -/
theorem added_of_brings (handled : r.handle q = (r', some n)) (brings : q.brings? = some p) :
    n = .added p := by
  cases q with
  | insert x =>
    obtain rfl := Option.some.inj brings
    exact (Option.some.inj (Prod.mk.inj handled).2).symm
  | submit x =>
    obtain rfl := Option.some.inj brings
    simp only [handle] at handled
    split at handled
    · exact absurd handled (by simp)
    · exact (Option.some.inj (Prod.mk.inj handled).2).symm
  | update | remove | markLoaded | reject => exact absurd brings (by simp [Request.brings?])

namespace Notice.Effect

/-- UUIDs stay apart. -/
theorem nodup (effect : n.Effect stored stored') (distinct : (stored.map (·.uuid)).Nodup) :
    (stored'.map (·.uuid)).Nodup := by
  cases effect with
  | added p =>
    rw [List.map_append, List.nodup_append]
    refine ⟨(List.filter_sublist.map _).nodup distinct, List.nodup_singleton _, ?_⟩
    rintro u hu v hv rfl
    obtain ⟨x, mem, rfl⟩ := List.mem_map.1 hu
    exact absurd (List.mem_singleton.1 hv) (by simpa using (List.mem_filter.1 mem).2)
  | updated p known =>
    have same : (stored.map fun x => if x.uuid = p.uuid then p else x).map (·.uuid) =
        stored.map (·.uuid) := by
      rw [List.map_map]
      apply List.map_congr_left
      intro x _
      simp only [Function.comp_apply]
      split
      · next same => exact same.symm
      · rfl
    rw [same]
    exact distinct
  | removed p mem => exact (List.filter_sublist.map _).nodup distinct
  | loaded => exact distinct

/-- What is stored after a change is what the change is about, or was stored before. -/
theorem mem (effect : n.Effect stored stored') (after : x ∈ stored') :
    (n = .added x ∨ n = .updated x) ∨
      x ∈ stored ∧ ∀ p, n.profile? = some p → x.uuid ≠ p.uuid := by
  cases effect with
  | added p =>
    rcases List.mem_append.1 after with before | new
    · obtain ⟨before, other⟩ := List.mem_filter.1 before
      refine .inr ⟨before, ?_⟩
      rintro _ ⟨⟩
      simpa using other
    · obtain rfl := List.mem_singleton.1 new
      exact .inl (.inl rfl)
  | updated p known =>
    obtain ⟨y, before, rfl⟩ := List.mem_map.1 after
    by_cases same : y.uuid = p.uuid
    · rw [if_pos same]
      exact .inl (.inr rfl)
    · rw [if_neg same]
      refine .inr ⟨before, ?_⟩
      rintro _ ⟨⟩
      exact same
  | removed p mem =>
    obtain ⟨before, other⟩ := List.mem_filter.1 after
    refine .inr ⟨before, ?_⟩
    rintro _ ⟨⟩
    simpa using other
  | loaded => exact .inr ⟨after, fun p none => absurd none (by simp [profile?])⟩

/-- What a change is not about stays stored. -/
theorem kept (effect : n.Effect stored stored') (before : x ∈ stored)
    (other : ∀ p, n.profile? = some p → x.uuid ≠ p.uuid) : x ∈ stored' := by
  cases effect with
  | added p =>
    exact List.mem_append_left _ (List.mem_filter.2 ⟨before, by simpa using other p rfl⟩)
  | updated p known => exact List.mem_map.2 ⟨x, before, if_neg (other p rfl)⟩
  | removed p mem => exact List.mem_filter.2 ⟨before, by simpa using other p rfl⟩
  | loaded => exact before

theorem agrees (effect : n.Effect stored stored') : n.Agrees stored' := by
  cases effect with
  | added p => exact List.mem_append_right _ (List.mem_singleton.2 rfl)
  | updated p known =>
    obtain ⟨old, mem, same⟩ := known
    exact List.mem_map.2 ⟨old, mem, if_pos same⟩
  | removed p mem =>
    intro x after
    simpa using (List.mem_filter.1 after).2
  | loaded => trivial

/-- What was true of an earlier change stays true when the change is about another profile. -/
theorem still {m : Notice} (effect : n.Effect stored stored') (agrees : m.Agrees stored)
    (other : ∀ p q, m.profile? = some p → n.profile? = some q → p.uuid ≠ q.uuid) :
    m.Agrees stored' := by
  cases m with
  | added p => exact effect.kept agrees fun q about => other p q rfl about
  | updated p => exact effect.kept agrees fun q about => other p q rfl about
  | removed p =>
    intro x after
    rcases effect.mem after with new | ⟨before, -⟩
    · have about : n.profile? = some x := by rcases new with rfl | rfl <;> rfl
      exact (other p x rfl about).symm
    · exact agrees x before
  | loaded => trivial

/-- A change is about a profile whose UUID was stored, or that is added. -/
theorem known (effect : n.Effect stored stored') (about : n.profile? = some p) :
    n = .added p ∨ ∃ x ∈ stored, x.uuid = p.uuid := by
  cases effect with
  | added x =>
    obtain rfl := Option.some.inj about
    exact .inl rfl
  | updated x known =>
    obtain rfl := Option.some.inj about
    exact .inr known
  | removed x mem =>
    obtain rfl := Option.some.inj about
    exact .inr ⟨x, mem, rfl⟩
  | loaded => exact absurd about (by simp [profile?])

end Notice.Effect

end Registry

end Piconet
