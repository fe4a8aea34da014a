import Piconet.Table

/-!
# Looking things up in a table

What a lookup gives after a table was changed, key by key. A table may hold an entry of a key
behind another one of the same key, and a lookup gives the first; the lemmas hold for such tables
too, so no proof about a host has to show first that its tables have none.
-/

namespace Piconet.Table

variable {κ α β γ : Type}

theorem mapValues_mapValues (t : Table κ α) (f : α → β) (g : β → γ) :
    (t.mapValues f).mapValues g = t.mapValues (g ∘ f) := by
  simp [mapValues, Function.comp_def]

variable [DecidableEq κ]

/-- A value that is found stands in an entry. -/
theorem mem_entries_of_get? {t : Table κ α} {k : κ} {a : α} (h : t.get? k = some a) :
    (k, a) ∈ t.entries := by
  obtain ⟨es⟩ := t
  induction es with
  | nil => simp [get?] at h
  | cons e es ih =>
    rw [get?_mk_cons] at h
    split at h
    · next hk =>
      obtain rfl : e.2 = a := by simpa using h
      rw [hk]
      exact List.mem_cons_self
    · exact List.mem_cons_of_mem _ (ih h)

/-- **A change of one value** is seen at its key only. -/
theorem get?_modify (t : Table κ α) (k j : κ) (f : α → α) :
    (t.modify k f).get? j = if j = k then (t.get? k).map f else t.get? j := by
  obtain ⟨es⟩ := t
  induction es with
  | nil => by_cases hj : j = k <;> simp [modify, modifyEntries, get?, hj]
  | cons e es ih =>
    rw [modify_mk_cons]
    by_cases hk : k = e.1
    · rw [if_pos hk, get?_mk_cons, get?_mk_cons, get?_mk_cons, if_pos hk]
      by_cases hj : j = k
      · simp [hj, hk]
      · rw [if_neg (fun h => hj (h.trans hk.symm)), if_neg hj,
          if_neg (fun h => hj (h.trans hk.symm))]
    · simp only [modify] at ih
      rw [if_neg hk, get?_mk_cons, get?_mk_cons, ih]
      by_cases hj : j = k
      · subst hj
        rw [if_pos rfl, if_pos rfl, if_neg hk, if_neg hk]
      · rw [if_neg hj, if_neg hj, get?_mk_cons]

theorem get?_mk_append (es es' : List (κ × α)) (k : κ) :
    get? ⟨es ++ es'⟩ k = (get? ⟨es⟩ k <|> get? ⟨es'⟩ k) := by
  induction es with
  | nil => rfl
  | cons e es ih =>
    rw [List.cons_append, get?_mk_cons, get?_mk_cons, ih]
    split <;> rfl

/-- **Setting a value** is seen at its key only, whether the key was there or not. -/
theorem get?_set (t : Table κ α) (k j : κ) (a : α) :
    (t.set k a).get? j = if j = k then some a else t.get? j := by
  rw [set]
  split
  · next h =>
    obtain ⟨b, hb⟩ := Option.isSome_iff_exists.1 h
    rw [get?_modify, hb]
    rfl
  · next h =>
    replace h : t.get? k = none := by simpa [contains] using h
    rw [get?_mk_append]
    by_cases hj : j = k
    · subst hj
      rw [if_pos rfl, show get? ⟨t.entries⟩ j = none from h, get?_mk_cons, if_pos rfl]
      rfl
    · rw [if_neg hj, get?_mk_cons, if_neg hj, show get? ⟨t.entries⟩ j = t.get? j from rfl]
      cases t.get? j <;> rfl

/-- **Erasing a key** takes all of its entries. -/
theorem get?_erase (t : Table κ α) (k j : κ) :
    (t.erase k).get? j = if j = k then none else t.get? j := by
  obtain ⟨es⟩ := t
  induction es with
  | nil => simp [erase, get?]
  | cons e es ih =>
    simp only [erase, List.filter_cons] at ih ⊢
    by_cases he : e.1 = k
    · rw [if_neg (by simpa using he), ih, get?_mk_cons]
      by_cases hj : j = k
      · rw [if_pos hj, if_pos hj]
      · rw [if_neg hj, if_neg hj, if_neg (fun h => hj (h.trans he))]
    · rw [if_pos (by simpa using he), get?_mk_cons, get?_mk_cons, ih]
      by_cases hj : j = k
      · rw [if_pos hj, if_pos hj, if_neg (fun h => he (h.symm.trans hj))]
      · rw [if_neg hj, if_neg hj]

/-- A value that is erased may as well not have been set. -/
theorem erase_set (t : Table κ α) (k : κ) (a : α) : (t.set k a).erase k = t.erase k := by
  have modified (es : List (κ × α)) :
      (modifyEntries k (fun _ => a) es).filter (·.1 ≠ k) = es.filter (·.1 ≠ k) := by
    induction es with
    | nil => rfl
    | cons e es ih =>
      rw [modifyEntries]
      split
      · next same => simp [← same]
      · rw [List.filter_cons, List.filter_cons, ih]
  rw [set]
  split
  · exact congrArg Table.mk (modified t.entries)
  · simp [erase]

/-- What holds of a table's values after one of them was changed. -/
theorem forall_mem_modify {P : κ × α → Prop} {t : Table κ α} {k : κ} {f : α → α}
    (old : ∀ e ∈ t.entries, P e) (new : ∀ a, t.get? k = some a → P (k, f a)) :
    ∀ e ∈ (t.modify k f).entries, P e := by
  obtain ⟨es⟩ := t
  induction es with
  | nil => exact old
  | cons e es ih =>
    rw [modify_mk_cons]
    intro x hx
    by_cases hk : k = e.1
    · rw [if_pos hk] at hx
      rcases List.mem_cons.1 hx with rfl | hx
      · have := new e.2 (by rw [get?_mk_cons, if_pos hk])
        rwa [hk] at this
      · exact old x (List.mem_cons_of_mem _ hx)
    · rw [if_neg hk] at hx
      rcases List.mem_cons.1 hx with rfl | hx
      · exact old x List.mem_cons_self
      · refine ih (fun y hy => old y (List.mem_cons_of_mem _ hy)) (fun a ha => new a ?_) x hx
        rw [get?_mk_cons, if_neg hk, ha]

/-- What changes no `g` of the values changes no list of them. -/
theorem map_modify (g : κ × α → β) {t : Table κ α} {k : κ} {f : α → α}
    (same : ∀ a, t.get? k = some a → g (k, f a) = g (k, a)) :
    (t.modify k f).entries.map g = t.entries.map g := by
  obtain ⟨es⟩ := t
  induction es with
  | nil => rfl
  | cons e es ih =>
    rw [modify_mk_cons]
    by_cases hk : k = e.1
    · subst hk
      rw [if_pos rfl, List.map_cons, List.map_cons,
        same e.2 (by rw [get?_mk_cons, if_pos rfl])]
    · rw [if_neg hk, List.map_cons, List.map_cons]
      refine congrArg _ (ih fun a ha => same a ?_)
      rw [get?_mk_cons, if_neg hk, ha]

/-- A new key stands last. -/
theorem entries_set_of_get?_eq_none {t : Table κ α} {k : κ} (h : t.get? k = none) (a : α) :
    (t.set k a).entries = t.entries ++ [(k, a)] := by
  rw [set, if_neg (by simp [contains, h])]

/-- What is in a table after a value was set was in it before, or is that value. -/
theorem mem_entries_set {t : Table κ α} {k : κ} {a : α} {x : κ × α} (mem : x ∈ (t.set k a).entries) :
    x ∈ t.entries ∨ x = (k, a) := by
  rw [set] at mem
  split at mem
  · exact forall_mem_modify (P := fun x => x ∈ t.entries ∨ x = (k, a)) (fun _ mem => .inl mem)
      (fun _ _ => .inr rfl) x mem
  · exact (List.mem_append.1 mem).imp_right List.mem_singleton.1

/-! ## Tables of other values -/

theorem get?_mapValues (t : Table κ α) (f : α → β) (k : κ) :
    (t.mapValues f).get? k = (t.get? k).map f := by
  obtain ⟨es⟩ := t
  induction es with
  | nil => rfl
  | cons e es ih =>
    simp only [mapValues, List.map_cons] at ih ⊢
    rw [get?_mk_cons, get?_mk_cons, ih]
    split <;> rfl

theorem mapValues_modify (t : Table κ α) (k : κ) (f : α → α) (g : α → β) {f' : β → β}
    (same : ∀ a, t.get? k = some a → g (f a) = f' (g a)) :
    (t.modify k f).mapValues g = (t.mapValues g).modify k f' := by
  obtain ⟨es⟩ := t
  induction es with
  | nil => rfl
  | cons e es ih =>
    simp only [mapValues, List.map_cons] at ih ⊢
    rw [modify_mk_cons, modify_mk_cons]
    by_cases hk : k = e.1
    · rw [if_pos hk, if_pos hk, List.map_cons, same e.2 (by rw [get?_mk_cons, if_pos hk])]
    · rw [if_neg hk, if_neg hk, List.map_cons]
      have rest := ih fun a ha => same a (by rw [get?_mk_cons, if_neg hk, ha])
      simp only [modify, Table.mk.injEq] at rest
      rw [rest]

theorem mapValues_set (t : Table κ α) (k : κ) (a : α) (g : α → β) :
    (t.set k a).mapValues g = (t.mapValues g).set k (g a) := by
  have known : (t.mapValues g).contains k = t.contains k := by
    rw [contains, contains, get?_mapValues, Option.isSome_map]
  rw [set, set, known]
  split
  · exact mapValues_modify t k _ g fun _ _ => rfl
  · simp [mapValues]

/-- To set what stands there already changes nothing. -/
theorem modify_eq_self {t : Table κ α} {k : κ} {a : α} (h : t.get? k = some a) :
    (t.modify k fun _ => a) = t := by
  have same := map_modify (t := t) (k := k) (f := fun _ => a) id fun b hb => by
    rw [show b = a from Option.some.inj (hb.symm.trans h)]
  rw [List.map_id, List.map_id] at same
  exact congrArg Table.mk same

end Piconet.Table
