import Mathlib.Data.Nat.Digits.Defs
import Piconet.Proofs.Address
import Piconet.ServiceClass

/-!
# The services that count

A service counts by the number before its first dash. Here that number is described as a grammar
(`HasClass`): one plus sign at most and then a numeral, one or more digits whose value has no
bound. The reader takes the number if it is below the limit, which is what comes of adding digit after
digit to a word of 64 bits and giving up where it overflows (`Text.word?_eq`). What a list of
services amounts to is read off the numbers it announces (`Generation.capabilitiesOf_eq`).
-/

namespace Piconet

namespace Text

/-! ## Numerals -/

/-- The characters are one or more digits, and this is their value in base sixteen. -/
def Numeral (cs : List Char) (n : Nat) : Prop :=
  cs ≠ [] ∧ ∃ vs, List.Forall₂ IsDigit cs vs ∧ Nat.ofDigits 16 vs.reverse = n

/-- What becomes of a number when digits of the given values are written behind it. -/
def extend (acc : Nat) (vs : List Nat) : Nat := vs.foldl (fun n v => 16 * n + v) acc

theorem extend_cons (acc v : Nat) (vs : List Nat) :
    extend acc (v :: vs) = extend (16 * acc + v) vs := rfl

theorem extend_zero (vs : List Nat) : extend 0 vs = Nat.ofDigits 16 vs.reverse := by
  rw [Nat.ofDigits_eq_foldr, List.foldr_reverse, extend]
  congr
  funext n v
  exact Nat.add_comm _ _

/-- A number only grows. -/
theorem le_extend (acc : Nat) (vs : List Nat) : acc ≤ extend acc vs := by
  induction vs generalizing acc with
  | nil => exact Nat.le_refl _
  | cons v vs ih =>
    have further := ih (16 * acc + v)
    rw [extend_cons]
    omega

theorem hexFrom_eq_some_iff {acc n : Nat} {cs : List Char} :
    hexFrom acc cs = some n ↔ ∃ vs, List.Forall₂ IsDigit cs vs ∧ extend acc vs = n := by
  induction cs generalizing acc with
  | nil => simp [hexFrom, extend]
  | cons c cs ih =>
    simp only [hexFrom, Option.bind_eq_some_iff, hexDigit?_eq_some_iff, ih, List.forall₂_cons_left_iff]
    constructor
    · rintro ⟨v, digit, vs, digits, rfl⟩
      exact ⟨v :: vs, ⟨v, vs, digit, digits, rfl⟩, rfl⟩
    · rintro ⟨_, ⟨v, vs, digit, digits, rfl⟩, rfl⟩
      exact ⟨v, digit, vs, digits, rfl⟩

/-- The reader of numerals knows just the numerals. -/
theorem hexValue?_eq_some_iff {cs : List Char} {n : Nat} : hexValue? cs = some n ↔ Numeral cs n := by
  cases cs with
  | nil => simp [hexValue?, Numeral]
  | cons c cs =>
    rw [hexValue?, hexFrom_eq_some_iff, Numeral, and_iff_right (List.cons_ne_nil c cs)]
    simp only [extend_zero]
    exact fun nil => nomatch nil

/-- What is written in a numeral are digits. -/
theorem Numeral.isDigit {cs : List Char} {n : Nat} (numeral : Numeral cs n) {c : Char}
    (mem : c ∈ cs) : ∃ v, IsDigit c v := by
  obtain ⟨-, vs, digits, -⟩ := numeral
  have all : ∀ c ∈ cs, ∃ v, IsDigit c v := by
    clear mem
    induction digits with
    | nil => exact fun c mem => absurd mem List.not_mem_nil
    | cons digit _ ih => exact List.forall_mem_cons.2 ⟨⟨_, digit⟩, ih⟩
  exact all c mem

/-! ## Words -/

/-- One more digit behind a number in a word, if the word has room for it. -/
def pushDigit? (word : UInt64) (v : Nat) : Option UInt64 :=
  if 16 * word.toNat + v < UInt64.size then some (16 * word + .ofNat v) else none

/-- The number that digits behind one in a word make, if the word has room for each of them. -/
def wordFrom? (word : UInt64) : List Char → Option UInt64
  | [] => some word
  | c :: cs => (hexDigit? c).bind fun v => (pushDigit? word v).bind fun next => wordFrom? next cs

/-- The number of a numeral of one or more digits, read into a word. -/
def word? : List Char → Option UInt64
  | [] => none
  | cs => wordFrom? 0 cs

theorem pushDigit?_eq_some_iff {word next : UInt64} {v : Nat} (digit : v < 16) :
    pushDigit? word v = some next ↔ next.toNat = 16 * word.toNat + v := by
  have small : v < UInt64.size := Nat.lt_trans digit (by decide)
  rw [pushDigit?]
  split
  · next room =>
    have value : (16 * word + UInt64.ofNat v).toNat = 16 * word.toNat + v := by
      have sixteen : (16 : UInt64).toNat = 16 := rfl
      rw [UInt64.toNat_add, UInt64.toNat_mul, UInt64.toNat_ofNat_of_lt' small, sixteen]
      have : UInt64.size = 2 ^ 64 := rfl
      omega
    rw [Option.some_inj, ← UInt64.toNat_inj, value]
    exact eq_comm
  · next full =>
    have bound := next.toNat_lt
    have : UInt64.size = 2 ^ 64 := rfl
    constructor
    · exact fun none => nomatch none
    · intro value
      omega

/-- **Digit by digit a word takes just the numbers that fit in it**: a number that does not is given up
at the digit that is too much, and no later digit brings it back. -/
theorem wordFrom?_eq_some_iff {word result : UInt64} {cs : List Char} :
    wordFrom? word cs = some result ↔ hexFrom word.toNat cs = some result.toNat := by
  induction cs generalizing word with
  | nil => simp [wordFrom?, hexFrom, UInt64.toNat_inj]
  | cons c cs ih =>
    simp only [wordFrom?, hexFrom, Option.bind_eq_some_iff]
    refine exists_congr fun v => and_congr_right fun digit => ?_
    constructor
    · rintro ⟨next, pushed, rest⟩
      rw [← (pushDigit?_eq_some_iff (hexDigit?_lt digit)).1 pushed]
      exact ih.1 rest
    · intro rest
      -- what comes of all digits has room in a word, so what comes of the first ones has
      have room : 16 * word.toNat + v < UInt64.size := by
        obtain ⟨vs, -, value⟩ := hexFrom_eq_some_iff.1 rest
        exact Nat.lt_of_le_of_lt (value ▸ le_extend _ vs) result.toNat_lt
      have pushed : (UInt64.ofNat (16 * word.toNat + v)).toNat = 16 * word.toNat + v :=
        UInt64.toNat_ofNat_of_lt' room
      refine ⟨.ofNat (16 * word.toNat + v), (pushDigit?_eq_some_iff (hexDigit?_lt digit)).2 pushed, ?_⟩
      rw [ih, pushed]
      exact rest

/-- To read into a word is to read and to leave what is too large. -/
theorem word?_eq (cs : List Char) :
    (word? cs).map UInt64.toNat = (hexValue? cs).filter (· < serviceClassLimit) := by
  have limit : serviceClassLimit = 2 ^ 64 := rfl
  have read (result : UInt64) : word? cs = some result ↔ hexValue? cs = some result.toNat := by
    cases cs with
    | nil => simp [word?, hexValue?]
    | cons c cs => exact wordFrom?_eq_some_iff
  ext n
  simp only [Option.map_eq_some_iff, Option.filter_eq_some_iff, decide_eq_true_eq, read]
  constructor
  · rintro ⟨result, value, rfl⟩
    exact ⟨value, limit ▸ result.toNat_lt⟩
  · rintro ⟨value, below⟩
    have fits : (UInt64.ofNat n).toNat = n := UInt64.toNat_ofNat_of_lt' (Nat.lt_of_lt_of_eq below limit)
    exact ⟨.ofNat n, fits.symm ▸ value, fits⟩

end Text

open Text (Numeral)

/-! ## The class of a service -/

/-- Before the first dash of the text, or in all of it if there is none, stands a numeral of the given
value, behind one plus sign at most. -/
def HasClass (uuid : String) (n : Nat) : Prop :=
  ∃ sign cs rest, uuid.toList = sign ++ cs ++ rest ∧ (sign = [] ∨ sign = ['+']) ∧ Numeral cs n ∧
    ∀ c ∈ rest.head?, c = '-'

/-- A numeral has neither a dash nor a plus sign. -/
theorem Text.Numeral.unsigned {cs : List Char} {n : Nat} (numeral : Numeral cs n) :
    (∀ c ∈ cs, c ≠ '-') ∧ unsigned cs = cs := by
  constructor
  · rintro c mem rfl
    obtain ⟨v, digit⟩ := numeral.isDigit mem
    exact absurd digit.isAlphanum.1 (by decide)
  · unfold Piconet.unsigned
    split
    · obtain ⟨v, digit⟩ := numeral.isDigit (List.mem_cons_self (a := '+'))
      exact absurd digit.isAlphanum.1 (by decide)
    · rfl

/-- What is behind the sign of a text up to its first dash is a numeral just when the text has its value
for a class. -/
theorem hexValue?_unsigned_eq_some_iff {uuid : String} {n : Nat} :
    Text.hexValue? (unsigned (uuid.toList.takeWhile (· ≠ '-'))) = some n ↔ HasClass uuid n := by
  rw [Text.hexValue?_eq_some_iff]
  constructor
  · intro numeral
    have whole := List.takeWhile_append_dropWhile (p := fun c => decide (c ≠ '-')) (l := uuid.toList)
    have dash : ∀ c ∈ (uuid.toList.dropWhile fun c => decide (c ≠ '-')).head?, c = '-' := by
      intro c first
      have stops := List.head?_dropWhile_not (fun c => decide (c ≠ '-')) uuid.toList
      rw [Option.mem_def.1 first] at stops
      simpa using stops
    generalize uuid.toList.takeWhile (fun c => decide (c ≠ '-')) = front at numeral whole
    unfold unsigned at numeral
    split at numeral
    · exact ⟨['+'], _, _, whole.symm, .inr rfl, numeral, dash⟩
    · exact ⟨[], _, _, whole.symm, .inl rfl, numeral, dash⟩
  · rintro ⟨sign, cs, rest, whole, signed, numeral, dash⟩
    obtain ⟨dashless, plain⟩ := numeral.unsigned
    have none : rest.takeWhile (fun c => decide (c ≠ '-')) = [] := by
      cases rest with
      | nil => rfl
      | cons c rest => exact List.takeWhile_cons_of_neg (by simp [dash c rfl])
    have front : uuid.toList.takeWhile (fun c => decide (c ≠ '-')) = sign ++ cs := by
      rw [whole, List.takeWhile_append_of_pos, none, List.append_nil]
      intro c mem
      rcases List.mem_append.1 mem with mem | mem
      · rcases signed with rfl | rfl
        · exact absurd mem List.not_mem_nil
        · rw [List.mem_singleton.1 mem]
          decide
      · simpa using dashless c mem
    rw [front]
    rcases signed with rfl | rfl
    · rwa [List.nil_append, plain]
    · exact numeral

/-- **The class of a service is the number that it has for a class, if that is below the limit.** -/
theorem serviceClass?_eq_some_iff {uuid : String} {n : Nat} :
    serviceClass? uuid = some n ↔ HasClass uuid n ∧ n < serviceClassLimit := by
  rw [serviceClass?, Option.filter_eq_some_iff, hexValue?_unsigned_eq_some_iff, decide_eq_true_eq]

/-- A text has one number for a class at most. -/
theorem HasClass.unique {uuid : String} {m n : Nat} (first : HasClass uuid m)
    (second : HasClass uuid n) : m = n := by
  rw [← hexValue?_unsigned_eq_some_iff] at first second
  exact Option.some.inj (first.symm.trans second)

/-! ## What services amount to -/

namespace Generation

open Capabilities (union_dun union_nap union_reserved)

variable {g : Generation} {uuid : String} {us vs : List String}

/-- What one service adds, by its class. -/
theorem capabilitiesOfService_eq (g : Generation) (uuid : String) : g.capabilitiesOfService uuid =
    { dun := g = .bluez4 ∧ serviceClass? uuid = some dialUpClass
      nap := serviceClass? uuid = some accessPointClass } := by
  rw [capabilitiesOfService]
  cases serviceClass? uuid with
  | none => simp [Capabilities.empty]
  | some c =>
    have apart : dialUpClass ≠ accessPointClass := by decide
    by_cases nap : c = accessPointClass
    · simp [capabilitiesOfClass, nap, apart.symm, Capabilities.accessPoint]
    · by_cases dun : c = dialUpClass <;> cases g <;>
        simp [capabilitiesOfClass, nap, dun, apart, Capabilities.empty, Capabilities.dialUp]

/-- Whatever a union has if one of its sides has it, the capabilities of a list have if one service
has it. -/
theorem capabilitiesOf_of_union (has : Capabilities → Bool) (none : has .empty = false)
    (union : ∀ a b, has (a ∪ b) = (has a || has b)) (g : Generation) (us : List String) :
    has (g.capabilitiesOf us) = us.any fun uuid => has (g.capabilitiesOfService uuid) := by
  suffices collected : ∀ caps,
      has (us.foldl (fun caps uuid => caps ∪ g.capabilitiesOfService uuid) caps) =
        (has caps || us.any fun uuid => has (g.capabilitiesOfService uuid)) by
    rw [capabilitiesOf, collected, none, Bool.false_or]
  induction us with
  | nil => exact fun caps => (Bool.or_false _).symm
  | cons uuid us ih =>
    intro caps
    rw [List.foldl_cons, ih, union, List.any_cons, Bool.or_assoc]

/-- **What a list of services amounts to** is told by the classes in it. -/
theorem capabilitiesOf_eq (g : Generation) (us : List String) : g.capabilitiesOf us =
    { dun := g = .bluez4 ∧ some dialUpClass ∈ us.map serviceClass?
      nap := some accessPointClass ∈ us.map serviceClass? } := by
  have dun := capabilitiesOf_of_union (·.dun) rfl union_dun g us
  have nap := capabilitiesOf_of_union (·.nap) rfl union_nap g us
  have reserved := capabilitiesOf_of_union (fun c => decide (c.reserved ≠ 0)) rfl
    (fun a b => by simp [union_reserved, Nat.or_eq_zero_iff, imp_iff_not_or]) g us
  simp only [capabilitiesOfService_eq] at dun nap reserved
  generalize g.capabilitiesOf us = caps at dun nap reserved ⊢
  obtain ⟨d, n, r⟩ := caps
  have none : r = 0 := by
    by_contra some
    simp [some] at reserved
  rw [Capabilities.mk.injEq]
  refine ⟨dun.trans ?_, nap.trans ?_, none⟩
  · rw [Bool.eq_iff_iff]
    simp [and_left_comm]
  · rw [Bool.eq_iff_iff]
    simp

/-- A class is among those of a list when one of its texts has it, unless it is beyond the limit. -/
theorem mem_classes_iff {n : Nat} (known : n < serviceClassLimit) :
    some n ∈ us.map serviceClass? ↔ ∃ uuid ∈ us, HasClass uuid n := by
  simp only [List.mem_map, serviceClass?_eq_some_iff, and_iff_left known]

/-- **What service UUIDs amount to.** A list of service UUIDs offers an access point (NAP) just when one of them
has the class 0x1116, and dial-up networking (DUN) just when the generation is BlueZ 4 and one of them has the
class 0x1103; it offers nothing else. So repetitions and the order of UUIDs make no difference, lists put
together offer the union, and BlueZ 5 sees of what BlueZ 4 sees the access point. The class is the hexadecimal
number before the first dash, read into a word of 64 bits; a number that does not fit is no class at all and
adds nothing. -/
theorem capabilities_iff_hasClass :
    (∀ (g : Generation) (us : List String),
      ((g.capabilitiesOf us).nap = true ↔ ∃ uuid ∈ us, HasClass uuid 0x1116)
      ∧ ((g.capabilitiesOf us).dun = true ↔ g = .bluez4 ∧ ∃ uuid ∈ us, HasClass uuid 0x1103)
      ∧ (g.capabilitiesOf us).reserved = 0)
    ∧ (∀ (g : Generation) (us vs : List String), (∀ uuid, uuid ∈ us ↔ uuid ∈ vs) →
        g.capabilitiesOf us = g.capabilitiesOf vs)
    ∧ (∀ (g : Generation) (us vs : List String),
        g.capabilitiesOf (us ++ vs) = g.capabilitiesOf us ∪ g.capabilitiesOf vs)
    ∧ (∀ us, bluez5.capabilitiesOf us = { nap := (bluez4.capabilitiesOf us).nap })
    ∧ (∀ uuid, serviceClass? uuid =
        (Text.word? (unsigned (uuid.toList.takeWhile (· ≠ '-')))).map UInt64.toNat)
    ∧ ∀ (g : Generation) (uuid : String) (n : Nat), HasClass uuid n → 2 ^ 64 ≤ n →
        serviceClass? uuid = none ∧ ∀ us, g.capabilitiesOf (uuid :: us) = g.capabilitiesOf us := by
  refine ⟨fun g us => ⟨?_, ?_, ?_⟩, fun g us vs same => ?_, fun g us vs => ?_, fun us => ?_,
    fun uuid => (Text.word?_eq _).symm, fun g uuid n has large => ?_⟩
  · rw [capabilitiesOf_eq, decide_eq_true_eq, mem_classes_iff (by decide)]
    rfl
  · rw [capabilitiesOf_eq, decide_eq_true_eq, mem_classes_iff (by decide)]
    rfl
  · rw [capabilitiesOf_eq]
  · have classes (c : Option Nat) : c ∈ us.map serviceClass? ↔ c ∈ vs.map serviceClass? := by
      simp only [List.mem_map, same]
    simp only [capabilitiesOf_eq, classes]
  · simp only [capabilitiesOf_eq, List.map_append, List.mem_append, and_or_left, Bool.decide_or]
    exact (Capabilities.mk.injEq ..).mpr ⟨rfl, rfl, (Nat.or_self 0).symm⟩
  · simp [capabilitiesOf_eq]
  · have none : serviceClass? uuid = none := by
      refine Option.eq_none_iff_forall_ne_some.2 fun m taken => ?_
      obtain ⟨has', below⟩ := serviceClass?_eq_some_iff.1 taken
      exact absurd (has.unique has' ▸ below) (Nat.not_lt.2 large)
    refine ⟨none, fun us => ?_⟩
    simp [capabilitiesOf_eq, none]

/-- A class that is 0x1116 but for a digit that is too much is none, behind one with a sign and zeros. -/
theorem capabilities_iff_hasClass_texts :
    (bluez5.capabilitiesOf ["+0001116-0000", "1103"]).nap = true
    ∧ bluez5.capabilitiesOf ["1103", "+0001116-0000", "1103"] =
        bluez5.capabilitiesOf ["+0001116-0000", "1103"]
    ∧ serviceClass? "10000000000001116-0" = none
    ∧ bluez4.capabilitiesOf ["10000000000001116-0"] = bluez4.capabilitiesOf [] := by
  obtain ⟨offers, same, -, -, -, large⟩ := capabilities_iff_hasClass
  have has : HasClass "+0001116-0000" 0x1116 := hexValue?_unsigned_eq_some_iff.1 (by decide)
  have beyond : HasClass "10000000000001116-0" 0x10000000000001116 :=
    hexValue?_unsigned_eq_some_iff.1 (by decide)
  refine ⟨(offers _ _).1.2 ⟨_, List.mem_cons_self, has⟩, same _ _ _ fun uuid => ?_, ?_⟩
  · simp only [List.mem_cons, List.not_mem_nil]
    tauto
  · obtain ⟨none, nothing⟩ := large bluez4 _ _ beyond (by decide)
    exact ⟨none, nothing []⟩

end Generation

end Piconet
