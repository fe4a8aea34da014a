import Mathlib.Data.List.Forall2
import Mathlib.Tactic.IntervalCases
import Piconet.Address

/-!
# The texts that are addresses

`HwAddress.parse?` cuts a text at its colons and reads the pieces one by one. Here the texts it
accepts are described from the other side, as a grammar: six groups with single colons between
them, each of them one or two digits of a byte (`Octet`). The grammar knows digits from the two
rows `digits`, so nothing of the reader is used to say what it should read.
-/

namespace Piconet

namespace Text

/-! ## Cutting what was joined -/

/-- A text without separators is one field. -/
theorem fields_of_notMem {sep : Char} {f : List Char} (h : sep ∉ f) : fields sep f = [f] := by
  induction f with
  | nil => rfl
  | cons c f ih =>
    obtain ⟨hc, hf⟩ : sep ≠ c ∧ sep ∉ f := by simpa using h
    simp [fields, Ne.symm hc, ih hf]

/-- The first separator ends the first field. -/
theorem fields_append_sep {sep : Char} {f : List Char} (h : sep ∉ f) (cs : List Char) :
    fields sep (f ++ sep :: cs) = f :: fields sep cs := by
  induction f with
  | nil => simp [fields]
  | cons c f ih =>
    obtain ⟨hc, hf⟩ : sep ≠ c ∧ sep ∉ f := by simpa using h
    simp [fields, Ne.symm hc, ih hf]

/-- Fields without separators are what the joined text is cut into. -/
theorem fields_joinFields {sep : Char} {fs : List (List Char)} (hne : fs ≠ [])
    (h : ∀ f ∈ fs, sep ∉ f) : fields sep (joinFields sep fs) = fs := by
  induction fs with
  | nil => exact absurd rfl hne
  | cons f fs ih =>
    have hf : sep ∉ f := h f List.mem_cons_self
    cases fs with
    | nil => exact fields_of_notMem hf
    | cons g fs =>
      rw [joinFields, fields_append_sep hf,
        ih (List.cons_ne_nil _ _) fun k hk => h k (List.mem_cons_of_mem _ hk)]

/-- What is in the joined text is a separator or is in one of the fields. -/
theorem mem_of_mem_joinFields {sep c : Char} {fs : List (List Char)} (h : c ∈ joinFields sep fs) :
    c = sep ∨ ∃ f ∈ fs, c ∈ f := by
  induction fs with
  | nil => exact absurd h List.not_mem_nil
  | cons f fs ih =>
    cases fs with
    | nil => exact .inr ⟨f, List.mem_cons_self, h⟩
    | cons g fs =>
      rw [joinFields, List.mem_append, List.mem_cons] at h
      rcases h with h | rfl | h
      · exact .inr ⟨f, List.mem_cons_self, h⟩
      · exact .inl rfl
      · rcases ih h with hsep | ⟨k, hk, hc⟩
        · exact .inl hsep
        · exact .inr ⟨k, List.mem_cons_of_mem _ hk, hc⟩

/-! ## Digits -/

/-- The sixteen digits in the order of their values. -/
def digits (upper : Bool) : List Char :=
  (if upper then "0123456789ABCDEF" else "0123456789abcdef").toList

/-- The character is the digit of the value, in one case or the other. -/
def IsDigit (c : Char) (v : Nat) : Prop := ∃ upper, (digits upper)[v]? = some c

theorem IsDigit.lt {c : Char} {v : Nat} (h : IsDigit c v) : v < 16 := by
  obtain ⟨upper, h⟩ := h
  have := (List.getElem?_eq_some_iff.mp h).1
  cases upper <;> exact this

theorem hexDigit?_of_isDigit {c : Char} {v : Nat} (h : IsDigit c v) : hexDigit? c = some v := by
  have hv := h.lt
  obtain ⟨upper, h⟩ := h
  cases upper <;> interval_cases v <;> cases h <;> rfl

/-- The ranges of the reader end below code 128, so the rows can be gone through one by one. -/
theorem isDigit_of_hexDigit? {c : Char} {v : Nat} (h : hexDigit? c = some v) : IsDigit c v := by
  have below : c.toNat < 128 := by
    have code (hi : Char) (hc : c ≤ hi) : c.toNat ≤ hi.toNat := hc
    unfold hexDigit? at h
    split at h
    · next hc => exact Nat.lt_of_le_of_lt (code '9' hc.2) (by decide)
    split at h
    · next hc => exact Nat.lt_of_le_of_lt (code 'f' hc.2) (by decide)
    split at h
    · next hc => exact Nat.lt_of_le_of_lt (code 'F' hc.2) (by decide)
    · cases h
  have row : ∀ n < 128, (hexDigit? (.ofNat n)).all fun v =>
      (digits false)[v]? = some (.ofNat n) ∨ (digits true)[v]? = some (.ofNat n) := by
    decide
  have hrow := row c.toNat below
  rw [Char.ofNat_toNat, h, Option.all_some, decide_eq_true_eq] at hrow
  exact hrow.elim (⟨false, ·⟩) (⟨true, ·⟩)

/-- The reader of digits knows just the two rows. -/
theorem hexDigit?_eq_some_iff (c : Char) (v : Nat) : hexDigit? c = some v ↔ IsDigit c v :=
  ⟨isDigit_of_hexDigit?, hexDigit?_of_isDigit⟩

/-- A digit is a letter or a figure, no blank, and within ASCII. -/
theorem IsDigit.isAlphanum {c : Char} {v : Nat} (h : IsDigit c v) :
    c.isAlphanum ∧ ¬ c.isWhitespace ∧ c.toNat < 128 := by
  have hv := h.lt
  obtain ⟨upper, h⟩ := h
  cases upper <;> interval_cases v <;> cases h <;> decide

end Text

namespace HwAddress

open Text (IsDigit digits fields joinFields)

/-- One or two digits that stand for a byte: its value, or its two halves. -/
inductive Octet : List Char → UInt8 → Prop
  | short {c : Char} {b : UInt8} : IsDigit c b.toNat → Octet [c] b
  | long {c d : Char} {b : UInt8} :
      IsDigit c (b.toNat / 16) → IsDigit d (b.toNat % 16) → Octet [c, d] b

/-- The text is six groups, one for each byte, with single colons between them. -/
def Spells (text : String) (a : HwAddress) : Prop :=
  ∃ groups, text.toList = joinFields ':' groups ∧ List.Forall₂ Octet groups a.toList

/-- How a byte is written: the case of its digits, and whether a byte below sixteen gets a leading
zero. -/
structure Style where
  upper : Bool
  padded : Bool

def Style.digit (s : Style) (v : Nat) : Char := (digits s.upper).getD v '0'

def Style.write (s : Style) (b : UInt8) : List Char :=
  if b.toNat < 16 ∧ s.padded = false then [s.digit b.toNat]
  else [s.digit (b.toNat / 16), s.digit (b.toNat % 16)]

/-- The address in writing, with a style for each of its bytes. -/
def write (a : HwAddress) (style : Nat → Style) : String :=
  String.ofList (joinFields ':' (a.toList.mapIdx fun i b => (style i).write b))

/-! ## Groups -/

theorem toNat_ofNat {n : Nat} (h : n < 256) : (UInt8.ofNat n).toNat = n := by
  rw [UInt8.toNat_ofNat', Nat.mod_eq_of_lt h]

theorem octet?_eq_some_iff (g : List Char) (b : UInt8) : octet? g = some b ↔ Octet g b := by
  constructor
  · intro h
    match g with
    | [] => cases h
    | [c] =>
      obtain ⟨v, hc, rfl⟩ := Option.map_eq_some_iff.mp h
      have hv := Text.hexDigit?_lt hc
      refine .short ?_
      rwa [toNat_ofNat (by omega), ← Text.hexDigit?_eq_some_iff]
    | [c, d] =>
      obtain ⟨hi, hc, h⟩ := Option.bind_eq_some_iff.mp h
      obtain ⟨lo, hd, rfl⟩ := Option.map_eq_some_iff.mp h
      have hhi := Text.hexDigit?_lt hc
      have hlo := Text.hexDigit?_lt hd
      have hbyte : (UInt8.ofNat (16 * hi + lo)).toNat = 16 * hi + lo :=
        toNat_ofNat (by omega)
      refine .long ?_ ?_
      · rwa [hbyte, show (16 * hi + lo) / 16 = hi by omega, ← Text.hexDigit?_eq_some_iff]
      · rwa [hbyte, show (16 * hi + lo) % 16 = lo by omega, ← Text.hexDigit?_eq_some_iff]
    | _ :: _ :: _ :: _ => cases h
  · rintro (hc | ⟨hc, hd⟩)
    · rw [octet?, Text.hexDigit?_of_isDigit hc]
      simp
    · rw [octet?, Text.hexDigit?_of_isDigit hc, Text.hexDigit?_of_isDigit hd]
      simp only [Option.bind_some, Option.map_some, Nat.div_add_mod, UInt8.ofNat_toNat]

theorem Octet.isDigit {g : List Char} {b : UInt8} (h : Octet g b) {c : Char} (hc : c ∈ g) :
    ∃ v, IsDigit c v := by
  cases h with
  | short hd =>
    obtain rfl := List.mem_singleton.mp hc
    exact ⟨_, hd⟩
  | long hd he =>
    rcases List.mem_pair.mp hc with rfl | rfl
    exacts [⟨_, hd⟩, ⟨_, he⟩]

theorem Octet.colon_notMem {g : List Char} {b : UInt8} (h : Octet g b) : ':' ∉ g := by
  intro hc
  obtain ⟨v, hv⟩ := h.isDigit hc
  exact absurd hv.isAlphanum.1 (by decide)

theorem Octet.ne_nil {g : List Char} {b : UInt8} (h : Octet g b) : g ≠ [] := by
  cases h <;> simp

theorem Style.isDigit_digit (s : Style) {v : Nat} (h : v < 16) : IsDigit (s.digit v) v := by
  refine ⟨s.upper, ?_⟩
  have hlen : v < (digits s.upper).length := by cases s.upper <;> exact h
  rw [Style.digit, List.getD_eq_getElem?_getD, List.getElem?_eq_getElem hlen, Option.getD_some]

/-- Every style writes a group that stands for the byte. -/
theorem Style.octet_write (s : Style) (b : UInt8) : Octet (s.write b) b := by
  have hb := b.toNat_lt
  unfold Style.write
  split
  · next h => exact .short (s.isDigit_digit h.1)
  · exact .long (s.isDigit_digit (by omega)) (s.isDigit_digit (by omega))

/-! ## Texts -/

/-- The reader takes a text for an address just when its fields are groups of the bytes. -/
theorem parse?_eq_some_iff_fields (text : String) (a : HwAddress) :
    parse? text = some a ↔ List.Forall₂ Octet (fields ':' text.toList) a.toList := by
  unfold parse?
  obtain ⟨b1, b2, b3, b4, b5, b6⟩ := a
  split
  · next h =>
    simp only [h, toList, List.forall₂_cons, List.forall₂_nil_left_iff, and_true,
      ← octet?_eq_some_iff, Option.bind_eq_bind, Option.bind_eq_some_iff]
    constructor
    · rintro ⟨_, h1, _, h2, _, h3, _, h4, _, h5, _, h6, hbytes⟩
      cases hbytes
      exact ⟨h1, h2, h3, h4, h5, h6⟩
    · rintro ⟨h1, h2, h3, h4, h5, h6⟩
      exact ⟨_, h1, _, h2, _, h3, _, h4, _, h5, _, h6, rfl⟩
  · next h =>
    constructor
    · intro hnone
      cases hnone
    · intro hall
      simp only [toList, List.forall₂_cons_right_iff, List.forall₂_nil_right_iff] at hall
      obtain ⟨g1, _, -, ⟨g2, _, -, ⟨g3, _, -, ⟨g4, _, -, ⟨g5, _, -, ⟨g6, _, -, rfl, rfl⟩, rfl⟩, rfl⟩,
        rfl⟩, rfl⟩, hg⟩ := hall
      exact absurd hg (h g1 g2 g3 g4 g5 g6)

/-- No group holds a colon, and none is empty. -/
theorem group_of_forall₂ {groups : List (List Char)} {bytes : List UInt8}
    (h : List.Forall₂ Octet groups bytes) : ∀ g ∈ groups, ':' ∉ g ∧ g ≠ [] :=
  ((List.forall₂_and_left _ _).mp (h.imp fun _ _ hg => ⟨⟨hg.colon_notMem, hg.ne_nil⟩, hg⟩)).1

/-- Every character of a group is a digit. -/
theorem digit_of_forall₂ {groups : List (List Char)} {bytes : List UInt8}
    (h : List.Forall₂ Octet groups bytes) : ∀ g ∈ groups, ∀ c ∈ g, ∃ v, IsDigit c v :=
  ((List.forall₂_and_left _ _).mp (h.imp fun _ _ hg => ⟨fun _ hc => hg.isDigit hc, hg⟩)).1

/-- The reader knows just the grammar. -/
theorem parse?_eq_some_iff (text : String) (a : HwAddress) :
    parse? text = some a ↔ Spells text a := by
  rw [parse?_eq_some_iff_fields]
  constructor
  · exact fun h => ⟨_, (Text.joinFields_fields ':' _).symm, h⟩
  · rintro ⟨groups, htext, hall⟩
    have hne : groups ≠ [] := by
      rintro rfl
      cases hall
    rwa [htext, Text.fields_joinFields hne fun g hg => (group_of_forall₂ hall g hg).1]

theorem spells_write (a : HwAddress) (style : Nat → Style) : Spells (a.write style) a := by
  refine ⟨_, String.toList_ofList, ?_⟩
  have hwrite (i : Nat) (b : UInt8) : Octet ((style i).write b) b := (style i).octet_write b
  exact .cons (hwrite 0 _) <| .cons (hwrite 1 _) <| .cons (hwrite 2 _) <| .cons (hwrite 3 _) <|
    .cons (hwrite 4 _) <| .cons (hwrite 5 _) .nil

/-- The groups of a text that is an address are six, and none of them is empty. -/
theorem groups_of_spells {groups : List (List Char)} {a : HwAddress}
    (hcolon : ∀ g ∈ groups, ':' ∉ g) (h : Spells (String.ofList (joinFields ':' groups)) a) :
    groups.length = 6 ∧ [] ∉ groups := by
  rw [← parse?_eq_some_iff, parse?_eq_some_iff_fields, String.toList_ofList] at h
  have hne : groups ≠ [] := by
    rintro rfl
    cases h with
    | cons _ h => cases h
  rw [Text.fields_joinFields hne hcolon] at h
  exact ⟨h.length_eq, fun hnil => (group_of_forall₂ h _ hnil).2 rfl⟩

/-- What is written in an address are digits and colons. -/
theorem digit_of_spells {text : String} {a : HwAddress} (h : Spells text a) {c : Char}
    (hc : c ∈ text.toList) : c = ':' ∨ ∃ v, IsDigit c v := by
  obtain ⟨groups, htext, hall⟩ := h
  rw [htext] at hc
  rcases Text.mem_of_mem_joinFields hc with hsep | ⟨g, hg, hcg⟩
  · exact .inl hsep
  · exact .inr (digit_of_forall₂ hall g hg c hcg)

/-- **A text parses as an address just when it is six groups of one or two hexadecimal digits with single colons
between them**, each group the value of its byte. So an address parses back from whatever style each of its
bytes is written in, in upper or lower case and with or without a leading zero. A text with more or fewer groups
does not parse, nor one with an empty group, nor one with a character that is neither a colon nor a digit, such
as a sign, a blank or any character beyond ASCII. -/
theorem reads_iff_spells :
    (∀ text a, parse? text = some a ↔ Spells text a)
    ∧ (∀ (a : HwAddress) (style : Nat → Style), parse? (a.write style) = some a)
    ∧ (∀ groups : List (List Char), (∀ g ∈ groups, ':' ∉ g) → groups.length ≠ 6 ∨ [] ∈ groups →
        parse? (String.ofList (joinFields ':' groups)) = none)
    ∧ (∀ text : String, ∀ c ∈ text.toList, c ≠ ':' → (∀ v, ¬ IsDigit c v) → parse? text = none)
    ∧ (∀ c : Char, c = '+' ∨ c = '-' ∨ c.isWhitespace ∨ 128 ≤ c.toNat →
        c ≠ ':' ∧ ∀ v, ¬ IsDigit c v) := by
  refine ⟨parse?_eq_some_iff, fun a style => ?_, fun groups hcolon hbad => ?_,
    fun text c hc hne hdigit => ?_, fun c hc => ?_⟩
  · exact (parse?_eq_some_iff _ _).mpr (spells_write a style)
  · refine Option.eq_none_iff_forall_ne_some.mpr fun a ha => ?_
    obtain ⟨hlen, hnil⟩ := groups_of_spells hcolon ((parse?_eq_some_iff _ _).mp ha)
    exact hbad.elim (· hlen) hnil
  · refine Option.eq_none_iff_forall_ne_some.mpr fun a ha => ?_
    rcases digit_of_spells ((parse?_eq_some_iff _ _).mp ha) hc with hc | ⟨v, hv⟩
    · exact hne hc
    · exact hdigit v hv
  · constructor
    · rintro rfl
      revert hc
      decide
    · intro v hv
      obtain ⟨halpha, hblank, hascii⟩ := hv.isAlphanum
      rcases hc with rfl | rfl | hc | hc
      · exact absurd halpha (by decide)
      · exact absurd halpha (by decide)
      · exact hblank hc
      · omega

/-- The theorem on a text that mixes cases and leading zeros, on one with an empty group, and on one
with a sign. -/
theorem reads_iff_spells_texts :
    parse? "0:1a:7D:da:71:03" = some ⟨0x00, 0x1a, 0x7d, 0xda, 0x71, 0x03⟩
    ∧ parse? "0:1a::da:71:03" = none ∧ parse? "0:1a:+7:da:71:03" = none := by
  refine ⟨?_, ?_, ?_⟩
  · exact reads_iff_spells.2.1 ⟨0x00, 0x1a, 0x7d, 0xda, 0x71, 0x03⟩ fun i => ⟨i = 2, i = 5⟩
  · exact reads_iff_spells.2.2.1 [['0'], ['1', 'a'], [], ['d', 'a'], ['7', '1'], ['0', '3']]
      (by decide) (.inr (by decide))
  · have hplus := reads_iff_spells.2.2.2.2 '+' (.inl rfl)
    exact reads_iff_spells.2.2.2.1 _ '+' (by decide) hplus.1 hplus.2

end HwAddress

end Piconet
