/-!
# Tables

A table keeps its entries in the order in which their keys first came. `Table.total` adds up a
measure over the values; the lemmas say how it moves when one value changes.
-/

namespace Piconet

/-- A measure of the members of a list, added up. -/
def addUp {α : Type} (f : α → Nat) : List α → Nat
  | [] => 0
  | a :: as => f a + addUp f as

@[simp]
theorem addUp_nil {α : Type} (f : α → Nat) : addUp f [] = 0 := rfl

@[simp]
theorem addUp_cons {α : Type} (f : α → Nat) (a : α) (as : List α) :
    addUp f (a :: as) = f a + addUp f as := rfl

@[simp]
theorem addUp_append {α : Type} (f : α → Nat) (as bs : List α) :
    addUp f (as ++ bs) = addUp f as + addUp f bs := by
  induction as with
  | nil => simp
  | cons a as ih => rw [List.cons_append, addUp_cons, addUp_cons, ih, Nat.add_assoc]

/-- Keys with their values, the older entries first. -/
structure Table (κ α : Type) where
  entries : List (κ × α) := []
  deriving DecidableEq, Repr

namespace Table

variable {κ α : Type}

instance : Inhabited (Table κ α) := ⟨{}⟩

/-- The keys in the order in which they were first set. -/
def keys (t : Table κ α) : List κ := t.entries.map (·.1)

/-- The values in the order of their keys. -/
def values (t : Table κ α) : List α := t.entries.map (·.2)

/-- Changes all values. -/
def mapValues {β : Type} (t : Table κ α) (f : α → β) : Table κ β :=
  ⟨t.entries.map fun e => (e.1, f e.2)⟩

/-- Keeps the entries whose values pass a test. -/
def filterValues (t : Table κ α) (p : α → Bool) : Table κ α := ⟨t.entries.filter (p ·.2)⟩

/-- A measure of the values, added up. -/
def total (f : α → Nat) (t : Table κ α) : Nat := addUp f t.values

section

variable [DecidableEq κ]

/-- The value of a key. -/
def get? (t : Table κ α) (k : κ) : Option α := t.entries.lookup k

/-- Whether a key has a value. -/
def contains (t : Table κ α) (k : κ) : Bool := (t.get? k).isSome

/-- Changes the value of a key among entries. -/
def modifyEntries (k : κ) (f : α → α) : List (κ × α) → List (κ × α)
  | [] => []
  | e :: es => if k = e.1 then (e.1, f e.2) :: es else e :: modifyEntries k f es

/-- Changes the value of a key that is there. -/
def modify (t : Table κ α) (k : κ) (f : α → α) : Table κ α := ⟨modifyEntries k f t.entries⟩

/-- Sets the value of a key, at its place if it has one and at the end if not. -/
def set (t : Table κ α) (k : κ) (a : α) : Table κ α :=
  if t.contains k then t.modify k fun _ => a else ⟨t.entries ++ [(k, a)]⟩

/-- The table without a key. -/
def erase (t : Table κ α) (k : κ) : Table κ α := ⟨t.entries.filter (·.1 ≠ k)⟩

end

/-! ## Totals -/

theorem total_mk_cons (f : α → Nat) (e : κ × α) (es : List (κ × α)) :
    total f ⟨e :: es⟩ = f e.2 + total f ⟨es⟩ := by
  simp [total, values]

theorem total_mk_append (f : α → Nat) (es es' : List (κ × α)) :
    total f ⟨es ++ es'⟩ = total f ⟨es⟩ + total f ⟨es'⟩ := by
  simp [total, values]

/-- A total does not grow when entries go. -/
theorem total_mk_filter_le (f : α → Nat) (p : κ × α → Bool) (es : List (κ × α)) :
    total f ⟨es.filter p⟩ ≤ total f ⟨es⟩ := by
  induction es with
  | nil => simp [total, values]
  | cons e es ih =>
    rw [List.filter_cons, total_mk_cons]
    split
    · rw [total_mk_cons]; omega
    · omega

/-- A total does not grow when no value counts for more. -/
theorem total_mapValues_le {f : α → Nat} {g : α → α} (h : ∀ a, f (g a) ≤ f a) (t : Table κ α) :
    total f (t.mapValues g) ≤ total f t := by
  obtain ⟨es⟩ := t
  induction es with
  | nil => simp [total, values, mapValues]
  | cons e es ih =>
    have := h e.2
    simp only [mapValues, List.map_cons, total_mk_cons] at ih ⊢
    omega

variable [DecidableEq κ]

/-- A key is looked for from the front. -/
theorem get?_mk_cons (k : κ) (e : κ × α) (es : List (κ × α)) :
    get? ⟨e :: es⟩ k = if k = e.1 then some e.2 else get? ⟨es⟩ k := by
  rw [get?, List.lookup_cons]
  split <;> simp_all [get?]

/-- The first entry of a key is the one that is changed. -/
theorem modify_mk_cons (k : κ) (g : α → α) (e : κ × α) (es : List (κ × α)) :
    modify ⟨e :: es⟩ k g =
      if k = e.1 then ⟨(e.1, g e.2) :: es⟩ else ⟨e :: modifyEntries k g es⟩ := by
  rw [modify, modifyEntries]
  split <;> rfl

/-- A value that is changed makes the difference in a total. -/
theorem total_modify {f : α → Nat} {t : Table κ α} {k : κ} {a : α} (h : t.get? k = some a)
    (g : α → α) : total f (t.modify k g) + f a = total f t + f (g a) := by
  obtain ⟨es⟩ := t
  induction es with
  | nil => simp [get?] at h
  | cons e es ih =>
    rw [get?_mk_cons] at h
    rw [modify_mk_cons]
    split at h
    · next hk =>
      obtain rfl : e.2 = a := by simpa using h
      simp only [if_pos hk, total_mk_cons]
      omega
    · next hk =>
      have := ih h
      simp only [if_neg hk, total_mk_cons, modify] at this ⊢
      omega

/-- A key that goes makes no total greater. -/
theorem total_erase_le (f : α → Nat) (t : Table κ α) (k : κ) : total f (t.erase k) ≤ total f t :=
  total_mk_filter_le f _ t.entries

/-- Its value is missing from the total. -/
theorem total_erase {f : α → Nat} {t : Table κ α} {k : κ} {a : α} (h : t.get? k = some a) :
    total f (t.erase k) + f a ≤ total f t := by
  obtain ⟨es⟩ := t
  induction es with
  | nil => simp [get?] at h
  | cons e es ih =>
    rw [get?_mk_cons] at h
    simp only [erase, List.filter_cons, total_mk_cons] at ih ⊢
    split at h
    · next hk =>
      obtain rfl : e.2 = a := by simpa using h
      have := total_mk_filter_le f (fun e : κ × α => decide (e.1 ≠ k)) es
      rw [if_neg (by simpa using hk.symm)]
      omega
    · next hk =>
      have := ih h
      rw [if_pos (by simpa using Ne.symm hk), total_mk_cons]
      omega

/-- A total grows by what is set, at most. -/
theorem total_set_le (f : α → Nat) (t : Table κ α) (k : κ) (a : α) :
    total f (t.set k a) ≤ total f t + f a := by
  rw [set]
  split
  · next h =>
    obtain ⟨b, hb⟩ := Option.isSome_iff_exists.1 h
    have := total_modify (f := f) hb fun _ => a
    omega
  · rw [total_mk_append, total_mk_cons]
    simp [total, values]

end Table

end Piconet
