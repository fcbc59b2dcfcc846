import Datapath.Immediate
import Datapath.Proofs.Shifting

/-!
# Sign extension is exact

A field of `bits` bits stands for the one integer in the range of two's complement numbers of
this width that has the residue of the field modulo `2 ^ bits`. Extension finds it in two
ways: an integer whose type has just this width is widened, and of any other the bits above
the field are set or cleared by a mask, as the top bit of the field demands.

Everything else follows from the residue. It decides which integers are extended alike, two
extensions in a row reduce modulo the smaller power of two, and a shift to the left with one
back to the right, which multiplies by a power of two and divides by it, reduces the product
modulo `2 ^ 64`.
-/

namespace Datapath

/-! ## Two's complement numbers -/

/-- The integer is a two's complement number of `bits` bits. -/
def FitsField (bits : Nat) (value : Int) : Prop :=
  -2 ^ (bits - 1) ≤ value ∧ value < 2 ^ (bits - 1)

instance (bits : Nat) (value : Int) : Decidable (FitsField bits value) :=
  inferInstanceAs (Decidable (_ ∧ _))

/-- The low `bits` bits of `value`, read as a two's complement number, are `reading`. -/
structure TwosComplement (value : Int) (bits : Nat) (reading : Int) : Prop where
  fits : FitsField bits reading
  congruent : (2 ^ bits : Int) ∣ reading - value

/-- The low bits of an integer have one reading, the residue that is nearest to zero. -/
theorem twosComplement_iff {bits : Nat} (positive : 0 < bits) {value reading : Int} :
    TwosComplement value bits reading ↔ reading = value.bmod (2 ^ bits) := by
  have double : (2 : Int) ^ bits = 2 * 2 ^ (bits - 1) := by
    rw [← pow_succ', Nat.sub_add_cancel positive]
  have lower : ((2 ^ bits : Nat) : Int) / 2 = 2 ^ (bits - 1) := by
    rw [Nat.cast_pow, Nat.cast_ofNat, double]
    omega
  have upper : (((2 ^ bits : Nat) : Int) + 1) / 2 = 2 ^ (bits - 1) := by
    rw [Nat.cast_pow, Nat.cast_ofNat, double]
    omega
  rw [eq_comm, Int.bmod_eq_iff (Nat.two_pow_pos bits), lower, upper, Nat.cast_pow,
    Nat.cast_ofNat]
  constructor
  · rintro ⟨⟨low, high⟩, congruent⟩
    exact ⟨low, high, congruent⟩
  · rintro ⟨low, high, congruent⟩
    exact ⟨⟨low, high⟩, congruent⟩

/-- The residue nearest to zero modulo a power of two fits the field of as many bits. -/
theorem fitsField_bmod {bits : Nat} (positive : 0 < bits) (value : Int) :
    FitsField bits (value.bmod (2 ^ bits)) :=
  ((twosComplement_iff positive).2 rfl).fits

/-- The range has one more number below zero than above it. -/
example : FitsField 4 (-8) ∧ FitsField 4 7 ∧ ¬ FitsField 4 8 := by decide

/-- The integers that a reading leaves alone are those that fit. -/
theorem bmod_eq_self_iff {bits : Nat} (positive : 0 < bits) {value : Int} :
    value.bmod (2 ^ bits) = value ↔ FitsField bits value := by
  rw [eq_comm, ← twosComplement_iff positive]
  constructor
  · intro reads
    exact reads.fits
  · intro fits
    exact ⟨fits, by rw [Int.sub_self]; exact Int.dvd_zero _⟩

/-- A wider field has room for the same integers. -/
theorem FitsField.widen {bits wider : Nat} {value : Int} (fits : FitsField bits value)
    (le : bits ≤ wider) : FitsField wider value := by
  have power : (2 : Int) ^ (bits - 1) ≤ 2 ^ (wider - 1) := by
    exact_mod_cast Nat.pow_le_pow_right (by decide) (by omega : bits - 1 ≤ wider - 1)
  obtain ⟨low, high⟩ := fits
  constructor <;> omega

/-- Two readings in a row are one reading of the narrower field. -/
theorem bmod_bmod_min {first second : Nat} (firstPositive : 0 < first)
    (secondPositive : 0 < second) (value : Int) :
    (value.bmod (2 ^ first)).bmod (2 ^ second) = value.bmod (2 ^ min first second) := by
  obtain wider | narrower := Nat.le_total first second
  · rw [Nat.min_eq_left wider, bmod_eq_self_iff secondPositive]
    exact (fitsField_bmod firstPositive value).widen wider
  · rw [Nat.min_eq_right narrower]
    exact Int.bmod_bmod_of_dvd (Nat.pow_dvd_pow 2 narrower)

/-- Integers with the same low bits have the same reading. -/
theorem bmod_eq_of_dvd {bits : Nat} {left right : Int}
    (same : (2 ^ bits : Int) ∣ left - right) :
    left.bmod (2 ^ bits) = right.bmod (2 ^ bits) := by
  rw [Int.bmod_eq_bmod_iff_bmod_sub_eq_zero, ← Int.dvd_iff_bmod_eq_zero]
  exact_mod_cast same

/-! ## Checked arithmetic -/

namespace Word

/-- A shift to the left by less than the size of the word. -/
def shiftLeft? (word : Word) (places : Nat) : Option Word :=
  if places < wordBits then some (word <<< places) else none

/-- A logical shift to the right by less than the size of the word. -/
def shiftRight? (word : Word) (places : Nat) : Option Word :=
  if places < wordBits then some (word >>> places) else none

/-- A difference of unsigned readings that is not below zero. -/
def sub? (a b : Word) : Option Word :=
  if b.toNat ≤ a.toNat then some (a - b) else none

end Word

/-! ## Pairs of shifts -/

namespace Alu

/-- A shift to the left and one back to the right with the sign, by the same amount. -/
def shiftPair (word : Word) (places : Nat) : Except Fault Word := do
  let left ← compute .lsl word (BitVec.ofNat 64 places)
  let right ← compute .asr left.result (BitVec.ofNat 64 places)
  return right.result

/-- The wrapped product by a power of two is a multiple of it, and the quotient is the residue of
the word modulo the power that is missing from the word size.

Proof: the two powers multiply to the word size, so the product wraps as the word does by itself
modulo the second one. -/
theorem exists_shiftPair (word : Word) {bits : Nat} (positive : 0 < bits) (narrow : bits ≤ 64) :
    ∃ result, shiftPair word (64 - bits) = .ok result ∧
      result.toInt = word.toInt.bmod (2 ^ bits) := by
  let amount : Word := BitVec.ofNat 64 (64 - bits)
  have places : shiftAmount amount = 64 - bits := shiftAmount_ofNat (by omega)
  have size : 2 ^ 64 = 2 ^ (64 - bits) * 2 ^ bits := by
    rw [← Nat.pow_add, Nat.sub_add_cancel narrow]
  have even : 2 ∣ 2 ^ bits := dvd_pow_self 2 (Nat.ne_of_gt positive)
  have wrapped : (word.toInt * 2 ^ (64 - bits)).bmod (2 ^ 64) =
      2 ^ (64 - bits) * word.toInt.bmod (2 ^ bits) := by
    rw [Int.mul_comm, size]
    exact_mod_cast Int.mod_bmod_mul_of_pos word.toInt _ (Nat.two_pow_pos (64 - bits)) even
  refine ⟨shift .asr (shift .lsl word amount) amount, rfl, ?_⟩
  rw [toInt_shift_asr, toInt_shift_lsl, places, wrapped]
  exact Int.mul_fdiv_cancel_left _ (Int.ne_of_gt (Int.pow_pos (by decide)))

end Alu

namespace Immediate

/-! ## The mask and the top bit -/

/-- The mask of a field has exactly the bits below its width, also if it is as wide as a word. -/
theorem getLsbD_fieldMask (bits : Nat) {place : Nat} (inside : place < 64) :
    (fieldMask bits).getLsbD place = decide (place < bits) := by
  have cleared : fieldMask bits = ~~~(BitVec.allOnes 64 <<< bits) := by
    rw [← BitVec.neg_one_eq_allOnes, BitVec.shiftLeft_neg, BitVec.not_neg]
    rfl
  rw [cleared, BitVec.getLsbD_not, BitVec.getLsbD_shiftLeft, BitVec.getLsbD_allOnes]
  by_cases below : place < bits
  · simp [inside, below]
  · have room : place - bits < 64 := by omega
    simp [inside, below, room]

/-- The test of the top bit takes out one bit of the word. -/
theorem and_one_eq_one_iff (raw : Word) (place : Nat) :
    (raw >>> place) &&& 1 = 1 ↔ raw.getLsbD place = true := by
  have single : (raw >>> place) &&& 1 =
      BitVec.setWidth 64 (BitVec.ofBool (raw.getLsbD place)) := by
    rw [← Nat.add_zero place, ← BitVec.getLsbD_ushiftRight]
    exact BitVec.and_one_eq_setWidth_ofBool_getLsbD
  rw [single]
  cases raw.getLsbD place <;> decide

/-- The mask makes every bit above the field a copy of its top bit.

Proof: bit by bit. Inside the field both sides have the raw bit, above it they have the top bit. -/
theorem extendField_eq {bits : Nat} (positive : 0 < bits) (raw : Word) :
    extendField raw bits = (raw.setWidth bits).signExtend 64 := by
  have sign : (raw.setWidth bits).msb = raw.getLsbD (bits - 1) := by
    rw [BitVec.msb_setWidth, decide_eq_true positive, Bool.true_and]
  apply BitVec.eq_of_getLsbD_eq
  intro place inside
  have mask := getLsbD_fieldMask bits inside
  rw [BitVec.getLsbD_signExtend, sign, BitVec.getLsbD_setWidth, extendField]
  simp only [and_one_eq_one_iff]
  split
  case isTrue set =>
    rw [BitVec.getLsbD_or, BitVec.getLsbD_not, mask, set]
    by_cases below : place < bits <;> simp [inside, below]
  case isFalse clear =>
    rw [BitVec.getLsbD_and, mask]
    by_cases below : place < bits <;> simp [inside, below, clear]

/-! ## Extension -/

/-- Widening a whole integer extends the field of all its bits. -/
theorem toWord_eq (immediate : Immediate) :
    immediate.toWord = (immediate.rawBits.setWidth immediate.width).signExtend 64 := by
  cases immediate <;> simp [toWord, rawBits, width]

/-- The raw bits and the integer agree in all bits of the type. -/
theorem dvd_rawBits_sub_value (immediate : Immediate) :
    (2 ^ immediate.width : Int) ∣ immediate.rawBits.toNat - immediate.value := by
  cases immediate with
  | int32 value =>
    change (2 ^ 32 : Int) ∣ (value.toBitVec.setWidth 64).toNat - value.toBitVec.toInt
    have reading := BitVec.toInt_eq_toNat_cond value.toBitVec
    rw [BitVec.toNat_setWidth_of_le (by decide)]
    split at reading <;> omega
  | int64 value =>
    change (2 ^ 64 : Int) ∣ value.toBitVec.toNat - value.toBitVec.toInt
    have reading := BitVec.toInt_eq_toNat_cond value.toBitVec
    split at reading <;> omega
  | uint32 value | uint64 value => simp [rawBits, Immediate.value]

/-- Up to the width of the type, the raw bits and the integer have the same reading. -/
theorem bmod_rawBits (immediate : Immediate) {bits : Nat} (fits : bits ≤ immediate.width) :
    (immediate.rawBits.toNat : Int).bmod (2 ^ bits) = immediate.value.bmod (2 ^ bits) := by
  have fewer : (2 ^ bits : Int) ∣ 2 ^ immediate.width := by
    exact_mod_cast Nat.pow_dvd_pow 2 fits
  exact bmod_eq_of_dvd (Int.dvd_trans fewer immediate.dvd_rawBits_sub_value)

/-- No type of immediates is wider than a word. -/
theorem width_le (immediate : Immediate) : immediate.width ≤ 64 := by
  cases immediate <;> simp [width]

/-- Extension of a field gives its reading, by the mask or for a whole integer at once. -/
theorem exists_extend (immediate : Immediate) {bits : Nat} (positive : 0 < bits)
    (fits : bits ≤ immediate.width) :
    ∃ word, immediate.extend bits = .ok word ∧
      word.toInt = immediate.value.bmod (2 ^ bits) := by
  refine ⟨(immediate.rawBits.setWidth bits).signExtend 64, ?_, ?_⟩
  · have accepted : ¬ (bits = 0 ∨ immediate.width < bits) := by omega
    rw [extend, if_neg accepted]
    split
    case isTrue whole => rw [whole, ← toWord_eq]
    case isFalse narrower => rw [extendField_eq positive]
  · have narrow : bits ≤ 64 := Nat.le_trans fits immediate.width_le
    rw [BitVec.toInt_signExtend_of_le narrow, BitVec.toInt_setWidth, bmod_rawBits _ fits]

/-- Extension is refused exactly for a field without bits or with more bits than the type has. -/
theorem extend_eq_error_iff {immediate : Immediate} {bits : Nat} {fault : Fault} :
    immediate.extend bits = .error fault ↔
      (bits = 0 ∨ immediate.width < bits) ∧ fault = .invalidBitWidth bits immediate.width := by
  by_cases refused : bits = 0 ∨ immediate.width < bits
  · rw [extend, if_pos refused]
    simp [refused, eq_comm]
  · have positive : 0 < bits := by omega
    obtain ⟨word, extended, _⟩ := immediate.exists_extend positive (by omega)
    rw [extended]
    simp [refused]

/-- A field that is accepted is extended to its reading and to nothing else. -/
theorem extend_eq_ok_iff {immediate : Immediate} {bits : Nat} {word : Word} :
    immediate.extend bits = .ok word ↔
      0 < bits ∧ bits ≤ immediate.width ∧ word.toInt = immediate.value.bmod (2 ^ bits) := by
  by_cases accepted : 0 < bits ∧ bits ≤ immediate.width
  · obtain ⟨positive, fits⟩ := accepted
    obtain ⟨other, extended, reading⟩ := immediate.exists_extend positive fits
    rw [extended, ← reading]
    simp [positive, fits, BitVec.toInt_inj, eq_comm]
  · have refused : immediate.extend bits = .error (.invalidBitWidth bits immediate.width) :=
      extend_eq_error_iff.2 ⟨by omega, rfl⟩
    rw [refused]
    constructor
    · intro same
      cases same
    · rintro ⟨positive, fits, _⟩
      exact absurd ⟨positive, fits⟩ accepted

/-- An extended field of `bits` bits has a signed reading of that many bits. -/
theorem toInt_bounds_of_extend {immediate : Immediate} {bits : Nat} {word : Word}
    (extended : immediate.extend bits = .ok word) : FitsField bits word.toInt := by
  obtain ⟨positive, _, reading⟩ := extend_eq_ok_iff.1 extended
  rw [reading]
  exact fitsField_bmod positive _

/-- Integers with the same field are extended alike, whatever their types. -/
theorem extend_congr {left right : Immediate} {bits : Nat} (leftFits : bits ≤ left.width)
    (rightFits : bits ≤ right.width) (same : (2 ^ bits : Int) ∣ left.value - right.value) :
    (left.extend bits).toOption = (right.extend bits).toOption := by
  obtain rfl | positive := Nat.eq_zero_or_pos bits
  · rfl
  · obtain ⟨word, extended, reading⟩ := left.exists_extend positive leftFits
    rw [bmod_eq_of_dvd same] at reading
    rw [extended, extend_eq_ok_iff.2 ⟨positive, rightFits, reading⟩]

/-! ## No shift and no mask leaves the word -/

/-- The place of the top bit, in a field that has one. -/
def topPlace? (bits : Nat) : Option Nat :=
  if 1 ≤ bits then some (bits - 1) else none

/-- The extension of a field with every shift and difference checked. -/
def extendField? (raw : Word) (bits : Nat) : Option Word := do
  let power ← Word.shiftLeft? 1 bits
  let mask ← Word.sub? power 1
  let place ← topPlace? bits
  let top ← Word.shiftRight? raw place
  return if top &&& 1 = 1 then raw ||| ~~~mask else raw &&& mask

/-- Extension with every shift and difference checked. -/
def extend? (immediate : Immediate) (bits : Nat) : Option (Except Fault Word) :=
  if bits = 0 ∨ immediate.width < bits then
    some (.error (.invalidBitWidth bits immediate.width))
  else if bits = immediate.width then
    some (.ok immediate.toWord)
  else
    (extendField? immediate.rawBits bits).map .ok

/-- A field of at least one bit that is narrower than the word passes every check. -/
theorem extendField?_eq {bits : Nat} (positive : 0 < bits) (narrow : bits < 64) (raw : Word) :
    extendField? raw bits = some (extendField raw bits) := by
  have power : ((1 : Word) <<< bits).toNat = 2 ^ bits := by
    change (1#64 <<< bits).toNat = _
    rw [← BitVec.twoPow_eq, BitVec.toNat_twoPow]
    exact Nat.mod_eq_of_lt (Nat.pow_lt_pow_right (by decide) narrow)
  have noBorrow : (1 : Word).toNat ≤ ((1 : Word) <<< bits).toNat := by
    rw [power]
    exact Nat.two_pow_pos bits
  have powered : Word.shiftLeft? 1 bits = some ((1 : Word) <<< bits) := if_pos narrow
  have masked : Word.sub? ((1 : Word) <<< bits) 1 = some (fieldMask bits) := if_pos noBorrow
  have placed : topPlace? bits = some (bits - 1) := if_pos positive
  have shifted : Word.shiftRight? raw (bits - 1) = some (raw >>> (bits - 1)) :=
    if_pos (Nat.lt_of_le_of_lt (Nat.sub_le bits 1) narrow)
  simp only [extendField?, powered, masked, placed, shifted, Option.bind_eq_bind,
    Option.bind_some]
  rfl

/-- The guards of extension let no check fail. -/
theorem extend?_eq (immediate : Immediate) (bits : Nat) :
    immediate.extend? bits = some (immediate.extend bits) := by
  unfold extend? extend
  split
  case isTrue refused => rfl
  case isFalse accepted =>
    split
    case isTrue whole => rfl
    case isFalse partly =>
      have narrow : bits < 64 := by
        have widest := immediate.width_le
        omega
      rw [extendField?_eq (by omega) narrow]
      rfl

/-! ## Types of the same bits -/

/-- The unsigned integer of the same bits. -/
def unsigned : Immediate → Immediate
  | int32 value => uint32 value.toUInt32
  | uint32 value => uint32 value
  | int64 value => uint64 value.toUInt64
  | uint64 value => uint64 value

/-- The same integer in a type of 64 bits. -/
def wide : Immediate → Immediate
  | int32 value => int64 value.toInt64
  | uint32 value => uint64 value.toUInt64
  | int64 value => int64 value
  | uint64 value => uint64 value

/-- Extension looks at the bits of an integer and not at its sign. -/
theorem extend_unsigned (immediate : Immediate) (bits : Nat) :
    immediate.unsigned.extend bits = immediate.extend bits := by
  cases immediate <;> rfl

/-- Widening an immediate to 64 bits keeps its integer. -/
theorem value_wide (immediate : Immediate) : immediate.wide.value = immediate.value := by
  cases immediate with
  | int32 value => exact Int32.toInt_toInt64 value
  | uint32 value => exact congrArg Nat.cast (UInt32.toNat_toUInt64 value)
  | int64 value | uint64 value => rfl

/-- The wide form of every immediate has 64 bits. -/
theorem width_wide (immediate : Immediate) : immediate.wide.width = 64 := by
  cases immediate <;> rfl

/-- Extension fails exactly for a field without bits or one wider than the type. Every other field
is extended to the one integer of its width that has the residue of the given one, so integers
with the same low bits are extended alike: in particular an integer and the unsigned one of
the same bits, and for at most 32 bits the narrow form and the wide one. No shift amount and no
difference on the way is out of range. -/
theorem extension_is_exact (immediate : Immediate) (bits : Nat) :
    (∀ fault, immediate.extend bits = .error fault ↔
      (bits = 0 ∨ immediate.width < bits) ∧ fault = .invalidBitWidth bits immediate.width) ∧
    (1 ≤ bits → bits ≤ immediate.width → ∃ word, immediate.extend bits = .ok word ∧
      ∀ reading, TwosComplement immediate.value bits reading ↔ reading = word.toInt) ∧
    (∀ other : Immediate, bits ≤ immediate.width → bits ≤ other.width →
      (2 ^ bits : Int) ∣ other.value - immediate.value →
      (other.extend bits).toOption = (immediate.extend bits).toOption) ∧
    immediate.unsigned.extend bits = immediate.extend bits ∧
    (bits ≤ 32 → (immediate.wide.extend bits).toOption = (immediate.extend bits).toOption) ∧
    immediate.extend? bits = some (immediate.extend bits) := by
  refine ⟨fun fault => extend_eq_error_iff, ?reading, ?lowBits, immediate.extend_unsigned bits,
    ?widths, immediate.extend?_eq bits⟩
  case reading =>
    intro positive fits
    obtain ⟨word, extended, nearest⟩ := immediate.exists_extend positive fits
    refine ⟨word, extended, ?_⟩
    intro reading
    rw [nearest]
    exact twosComplement_iff positive
  case lowBits =>
    intro other fits otherFits same
    exact extend_congr otherFits fits same
  case widths =>
    intro narrow
    have fits : bits ≤ immediate.width := by cases immediate <;> simp only [width] <;> omega
    have wideFits : bits ≤ immediate.wide.width := by rw [width_wide]; omega
    apply extend_congr wideFits fits
    rw [value_wide, Int.sub_self]
    exact Int.dvd_zero _

/-- The four low bits of `0xFFFFFFFA` are minus six, also in the signed integer 26 and in the
wide form. -/
theorem low_bits_are_minus_six :
    let nibble := uint32 0xFFFFFFFA
    ∃ word, nibble.extend 4 = .ok word ∧ word.toInt = -6 ∧
      TwosComplement nibble.value 4 (-6) ∧
      ((int64 26).extend 4).toOption = some word ∧
      (nibble.wide.extend 4).toOption = some word := by
  intro nibble
  obtain ⟨_, reading, lowBits, _, widths, _⟩ := extension_is_exact nibble 4
  obtain ⟨word, extended, unique⟩ := reading (by decide) (by decide)
  have same : (2 ^ 4 : Int) ∣ (int64 26).value - nibble.value := by decide
  have other := lowBits (int64 26) (by decide) (by decide) same
  have wider := widths (by decide)
  have six : word.toInt = -6 := by
    cases extended
    decide
  rw [extended] at other wider
  exact ⟨word, extended, six, (unique (-6)).2 six.symm, other, wider⟩

/-! ## Extensions in a row -/

/-- An extended field that is extended again, as a signed integer of 64 bits, gives what one
extension of the raw bits by the narrower width gives. So a second extension by the same width
or a wider one changes nothing. An integer equals its own extension exactly if it fits the
field. -/
theorem extensions_compose (immediate : Immediate) {first second : Nat}
    (firstPositive : 1 ≤ first) (firstFits : first ≤ immediate.width)
    (secondPositive : 1 ≤ second) (secondFits : second ≤ 64) :
    ∃ once twice : Word, immediate.extend first = .ok once ∧
      (int64 (.ofBitVec once)).extend second = .ok twice ∧
      (uint64 (.ofBitVec immediate.rawBits)).extend (min first second) = .ok twice ∧
      (int64 (.ofBitVec once)).extend first = .ok once ∧
      (first ≤ second → twice = once) ∧
      (once.toInt = immediate.value ↔ FitsField first immediate.value) := by
  obtain ⟨once, extended, reading⟩ := immediate.exists_extend firstPositive firstFits
  have firstNarrow : first ≤ 64 := Nat.le_trans firstFits immediate.width_le
  have again (bits : Nat) (positive : 1 ≤ bits) (narrow : bits ≤ 64) :
      ∃ twice : Word, (int64 (.ofBitVec once)).extend bits = .ok twice ∧
        twice.toInt = immediate.value.bmod (2 ^ min first bits) := by
    obtain ⟨twice, extendedAgain, rereading⟩ :=
      (int64 (.ofBitVec once)).exists_extend positive narrow
    refine ⟨twice, extendedAgain, ?_⟩
    rw [rereading]
    change once.toInt.bmod (2 ^ bits) = _
    rw [reading]
    exact bmod_bmod_min firstPositive positive immediate.value
  obtain ⟨twice, extendedAgain, rereading⟩ := again second secondPositive secondFits
  refine ⟨once, twice, extended, extendedAgain, ?atOnce, ?idempotent, ?wider, ?identity⟩
  case atOnce =>
    have narrower : min first second ≤ immediate.width :=
      Nat.le_trans (Nat.min_le_left ..) firstFits
    refine extend_eq_ok_iff.2 ⟨Nat.lt_min.2 ⟨firstPositive, secondPositive⟩,
      Nat.le_trans narrower immediate.width_le, ?_⟩
    rw [rereading]
    exact (immediate.bmod_rawBits narrower).symm
  case idempotent =>
    obtain ⟨same, extendedSame, unchanged⟩ := again first firstPositive firstNarrow
    rw [Nat.min_self, ← reading, BitVec.toInt_inj] at unchanged
    rw [extendedSame, unchanged]
  case wider =>
    intro le
    rw [Nat.min_eq_left le, ← reading, BitVec.toInt_inj] at rereading
    exact rereading
  case identity =>
    rw [reading]
    exact bmod_eq_self_iff firstPositive

/-- The eight low bits of 165 are minus 91, of which the four low ones are five. -/
theorem low_bits_of_minus_91_are_five :
    let byte := int32 165
    ∃ once twice : Word, byte.extend 8 = .ok once ∧ once.toInt = -91 ∧
      (int64 (.ofBitVec once)).extend 4 = .ok twice ∧ twice.toInt = 5 ∧
      (uint64 (.ofBitVec byte.rawBits)).extend 4 = .ok twice := by
  intro byte
  obtain ⟨once, twice, extended, extendedAgain, atOnce, _⟩ :=
    extensions_compose byte (by decide : 1 ≤ 8) (by decide) (by decide : 1 ≤ 4) (by decide)
  refine ⟨once, twice, extended, ?_, extendedAgain, ?_, atOnce⟩
  · cases extended
    decide
  · cases atOnce
    decide

/-! ## Extension as a pair of shifts -/

/-- Both readings of a word have the same low bits. -/
theorem bmod_toInt {bits : Nat} (narrow : bits ≤ 64) (word : Word) :
    word.toInt.bmod (2 ^ bits) = (word.toNat : Int).bmod (2 ^ bits) := by
  rw [BitVec.toInt_eq_toNat_bmod]
  exact Int.bmod_bmod_of_dvd (Nat.pow_dvd_pow 2 narrow)

/-- The signed reading of the widened immediate is the residue of its integer nearest to zero, of
the width of its type. -/
theorem toInt_toWord (immediate : Immediate) :
    immediate.toWord.toInt = immediate.value.bmod (2 ^ immediate.width) := by
  rw [toWord_eq, BitVec.toInt_signExtend_of_le immediate.width_le, BitVec.toInt_setWidth,
    bmod_rawBits _ (Nat.le_refl _)]

/-- Extending a field of `bits` bits is shifting it to the upper end of a word and back to the
lower one, whether the integer came to 64 bits with zeros or with its sign above it. -/
theorem extension_is_shift_pair (immediate : Immediate) {bits : Nat} (positive : 1 ≤ bits)
    (fits : bits ≤ immediate.width) :
    ∃ word, immediate.extend bits = .ok word ∧
      Alu.shiftPair immediate.rawBits (64 - bits) = .ok word ∧
      Alu.shiftPair immediate.toWord (64 - bits) = .ok word := by
  have narrow : bits ≤ 64 := Nat.le_trans fits immediate.width_le
  obtain ⟨word, extended, reading⟩ := immediate.exists_extend positive fits
  have zeros : immediate.rawBits.toInt.bmod (2 ^ bits) = word.toInt := by
    rw [bmod_toInt narrow, bmod_rawBits _ fits, reading]
  have signs : immediate.toWord.toInt.bmod (2 ^ bits) = word.toInt := by
    rw [toInt_toWord, Int.bmod_bmod_of_dvd (Nat.pow_dvd_pow 2 fits), reading]
  obtain ⟨fromZeros, shiftedZeros, zerosReading⟩ :=
    Alu.exists_shiftPair immediate.rawBits positive narrow
  obtain ⟨fromSigns, shiftedSigns, signsReading⟩ :=
    Alu.exists_shiftPair immediate.toWord positive narrow
  rw [zeros, BitVec.toInt_inj] at zerosReading
  rw [signs, BitVec.toInt_inj] at signsReading
  rw [zerosReading] at shiftedZeros
  rw [signsReading] at shiftedSigns
  exact ⟨word, extended, shiftedZeros, shiftedSigns⟩

/-- One is minus one in a field of one bit, whose shifts go by 63 places. -/
theorem one_bit_is_minus_one :
    (uint32 1).extend 1 = .ok (-1) ∧ Alu.shiftPair 1 63 = .ok (-1) := by
  obtain ⟨word, extended, shifted, _⟩ :=
    (uint32 1).extension_is_shift_pair (by decide : 1 ≤ 1) (by decide)
  have minus : word = -1 := by
    cases extended
    decide
  rw [minus] at extended shifted
  exact ⟨extended, shifted⟩

end Immediate
end Datapath
