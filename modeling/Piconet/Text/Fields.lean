/-!
# Fields of a separated text

`fields sep cs` cuts a text at every separator: a text with `n` separators has `n + 1` fields, some
of them possibly empty. `joinFields` is the inverse on texts (`joinFields_fields`), and no field
holds a separator (`sep_notMem_of_mem_fields`).
-/

namespace Piconet.Text

/-- The texts between the separators, in order. -/
def fields (sep : Char) : List Char → List (List Char)
  | [] => [[]]
  | c :: cs =>
    if c = sep then [] :: fields sep cs
    else match fields sep cs with
      | [] => [[c]]
      | f :: fs => (c :: f) :: fs

/-- The fields written one after another with a separator between neighbours. -/
def joinFields (sep : Char) : List (List Char) → List Char
  | [] => []
  | [f] => f
  | f :: g :: fs => f ++ sep :: joinFields sep (g :: fs)

theorem fields_ne_nil (sep : Char) (cs : List Char) : fields sep cs ≠ [] := by
  cases cs with
  | nil => simp [fields]
  | cons c cs =>
    by_cases h : c = sep
    · simp [fields, h]
    · simp only [fields, h, if_false]
      split <;> simp

theorem joinFields_cons_cons (sep c : Char) (f : List Char) (fs : List (List Char)) :
    joinFields sep ((c :: f) :: fs) = c :: joinFields sep (f :: fs) := by
  cases fs <;> simp [joinFields]

theorem joinFields_nil_cons (sep : Char) {fs : List (List Char)} (h : fs ≠ []) :
    joinFields sep ([] :: fs) = sep :: joinFields sep fs := by
  cases fs with
  | nil => exact absurd rfl h
  | cons g fs => simp [joinFields]

/-- Nothing is lost by cutting. -/
theorem joinFields_fields (sep : Char) (cs : List Char) : joinFields sep (fields sep cs) = cs := by
  induction cs with
  | nil => rfl
  | cons c cs ih =>
    by_cases h : c = sep
    · simp only [fields, h, if_true]
      rw [joinFields_nil_cons sep (fields_ne_nil sep cs), ih]
    · simp only [fields, h, if_false]
      split
      · next hf => exact absurd hf (fields_ne_nil sep cs)
      · next f fs hf => rw [joinFields_cons_cons, ← hf, ih]

/-- A field holds no separator. -/
theorem sep_notMem_of_mem_fields {sep : Char} {cs f : List Char} (h : f ∈ fields sep cs) :
    sep ∉ f := by
  induction cs generalizing f with
  | nil => simp_all [fields]
  | cons c cs ih =>
    by_cases hc : c = sep
    · simp only [fields, hc, if_true, List.mem_cons] at h
      rcases h with rfl | h
      · exact List.not_mem_nil
      · exact ih h
    · simp only [fields, hc, if_false] at h
      split at h
      · next hf => exact absurd hf (fields_ne_nil sep cs)
      · next g gs hg =>
        rcases List.mem_cons.mp h with rfl | h
        · intro hmem
          rcases List.mem_cons.mp hmem with rfl | hmem
          · exact hc rfl
          · exact ih (hg ▸ List.mem_cons_self) hmem
        · exact ih (hg ▸ List.mem_cons_of_mem _ h)

end Piconet.Text
