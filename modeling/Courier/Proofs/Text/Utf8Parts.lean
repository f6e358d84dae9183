import Courier.Proofs.Text.Utf8

/-!
# Any bytes in parts

Any bytes are read part by part, `readAs_decode`: the encoding of a character as the character, and
a part that is broken as a mark. So the text takes up more than the bytes only where marks stand for
less than three bytes, and its ASCII characters are the ASCII bytes, `ascii_mem_decode`.
-/

namespace Courier.Text.Utf8

open String (utf8EncodeChar)

/-- A byte that no encoding begins with, or the beginning of an encoding without the rest. -/
inductive IsBroken : List UInt8 → Prop where
  | stray {b : UInt8} (none : ∀ c, (utf8EncodeChar c).head? ≠ some b) : IsBroken [b]
  | apart {part rest : List UInt8} (c : Char) (begun : part ≠ []) (missing : rest ≠ [])
      (spells : utf8EncodeChar c = part ++ rest) : IsBroken part

/-- Bytes are read as characters, of which the marks for broken parts take up so much more than the
parts. -/
inductive ReadAs : List UInt8 → List Char → Nat → Prop where
  | nothing : ReadAs [] [] 0
  | whole {bytes : List UInt8} {cs : List Char} {growth : Nat} (c : Char)
      (after : ReadAs bytes cs growth) : ReadAs (utf8EncodeChar c ++ bytes) (c :: cs) growth
  | broken {part bytes : List UInt8} {cs : List Char} {growth : Nat} (broken : IsBroken part)
      (after : ReadAs bytes cs growth) :
      ReadAs (part ++ bytes) (replacement :: cs) (3 - part.length + growth)

/-! ### What a pending sequence spells -/

theorem toNat_char {v : Nat} (valid : v.isValidChar) : (Char.ofNat v).toNat = v := by
  rw [Char.ofNat, dif_pos valid]
  rfl

/-- The values that a pending sequence can come to have, from `least` to `most`. -/
def Pending.least (p : Pending) : Nat := (p.bits * 64 + p.low % 64) * 64 ^ (p.missing - 1)

def Pending.most (p : Pending) : Nat := (p.bits * 64 + p.high % 64 + 1) * 64 ^ (p.missing - 1) - 1

/-- The last bytes of the encoding of a value. -/
def following (v : Nat) : Nat → List UInt8
  | 0 => []
  | n + 1 => UInt8.ofNat (v / 64 ^ n % 64 + 0x80) :: following v n

/-- A pending sequence is the beginning of the encodings of all values that it can come to have. -/
structure Pending.Spells (p : Pending) (seen : List UInt8) : Prop where
  begun : seen ≠ []
  missing : 0 < p.missing
  low : 0x80 ≤ p.low
  high : p.high ≤ 0xBF
  possible : p.least ≤ p.most
  scalar : p.most < 0xD800 ∨ 0xDFFF < p.least ∧ p.most < 0x110000
  encodes : ∀ v, p.least ≤ v → v ≤ p.most →
    utf8EncodeChar (Char.ofNat v) = seen ++ following v p.missing

section Lead

variable {b missing low high v : Nat} (lead : shape b = some (missing, low, high))
include lead

theorem bounds_of_shape : 0 < missing ∧ 0x80 ≤ low ∧ low ≤ high ∧ high ≤ 0xBF := by
  unfold shape at lead
  repeat' split at lead
  all_goals cases lead
  all_goals decide

/-- How many bytes follow a lead byte, and what bits it has; some bounds exclude what another
encoding is for. -/
theorem shape_cases :
    missing = 1 ∧ 0xC2 ≤ b ∧ b ≤ 0xDF ∧ leadBits b = b % 32 ∨
      missing = 2 ∧ 0xE0 ≤ b ∧ b ≤ 0xEF ∧ leadBits b = b % 16 ∧ (b = 0xE0 → 0xA0 ≤ low) ∧
        (b = 0xED → high ≤ 0x9F) ∨
      missing = 3 ∧ 0xF0 ≤ b ∧ b ≤ 0xF4 ∧ leadBits b = b % 8 ∧ (b = 0xF0 → 0x90 ≤ low) ∧
        (b = 0xF4 → high ≤ 0x8F) := by
  have bits := leadBits_cases b
  unfold shape at lead
  repeat' split at lead
  all_goals cases lead
  all_goals omega

theorem scalar_of_shape :
    Pending.most ⟨missing, low, high, leadBits b⟩ < 0xD800 ∨
      0xDFFF < Pending.least ⟨missing, low, high, leadBits b⟩ ∧
        Pending.most ⟨missing, low, high, leadBits b⟩ < 0x110000 := by
  obtain ⟨-, least, order, most⟩ := bounds_of_shape lead
  unfold Pending.least Pending.most
  obtain ⟨rfl, lower, upper, bits⟩ | ⟨rfl, lower, upper, bits, first, last⟩ |
    ⟨rfl, lower, upper, bits, first, last⟩ := shape_cases lead
  all_goals
    simp only [bits, Nat.reduceSub, Nat.reducePow]
    omega

theorem lead_of_shape (above : Pending.least ⟨missing, low, high, leadBits b⟩ ≤ v)
    (below : v ≤ Pending.most ⟨missing, low, high, leadBits b⟩) :
    missing = 1 ∧ 0x7F < v ∧ v ≤ 0x7FF ∧ b = v / 64 % 32 + 0xC0 ∨
      missing = 2 ∧ 0x7FF < v ∧ v ≤ 0xFFFF ∧ b = v / 4096 % 16 + 0xE0 ∨
      missing = 3 ∧ 0xFFFF < v ∧ b = v / 262144 % 8 + 0xF0 := by
  obtain ⟨-, least, order, most⟩ := bounds_of_shape lead
  unfold Pending.least at above
  unfold Pending.most at below
  obtain ⟨rfl, lower, upper, bits⟩ | ⟨rfl, lower, upper, bits, first, last⟩ |
    ⟨rfl, lower, upper, bits, first, last⟩ := shape_cases lead
  · simp only [bits, Nat.reduceSub, Nat.reducePow] at above below
    exact .inl ⟨rfl, by omega, by omega, by omega⟩
  · simp only [bits, Nat.reduceSub, Nat.reducePow] at above below
    exact .inr (.inl ⟨rfl, by omega, by omega, by omega⟩)
  · simp only [bits, Nat.reduceSub, Nat.reducePow] at above below
    exact .inr (.inr ⟨rfl, by omega, by omega⟩)

end Lead

theorem spells_lead {b : UInt8} {missing low high : Nat}
    (lead : shape b.toNat = some (missing, low, high)) :
    Pending.Spells ⟨missing, low, high, leadBits b.toNat⟩ [b] := by
  obtain ⟨some, least, order, most⟩ := bounds_of_shape lead
  refine ⟨List.cons_ne_nil _ _, some, least, most, ?_, scalar_of_shape lead,
    fun v above below => ?_⟩
  · refine Nat.le_sub_one_of_lt (Nat.mul_lt_mul_of_pos_right ?_ (Nat.pow_pos (by decide)))
    simp only
    omega
  · have scalar := scalar_of_shape lead
    have value : (Char.ofNat v).val.toNat = v := toNat_char (by unfold Nat.isValidChar; omega)
    have again : UInt8.ofNat b.toNat = b := UInt8.ofNat_toNat
    unfold utf8EncodeChar
    simp only [value]
    obtain ⟨rfl, more, two, first⟩ | ⟨rfl, more, three, first⟩ | ⟨rfl, more, first⟩ :=
      lead_of_shape lead above below
    · rw [if_neg (by omega), if_pos two, ← first, again]
      simp [following]
    · rw [if_neg (by omega), if_neg (by omega), if_pos three, ← first, again]
      simp [following]
    · rw [if_neg (by omega), if_neg (by omega), if_neg (by omega), ← first, again]
      simp [following]

namespace Pending.Spells

variable {p : Pending} {seen : List UInt8} {b : UInt8} (spells : p.Spells seen)
include spells

theorem isBroken : IsBroken seen := by
  have encodes := spells.encodes p.least (Nat.le_refl _) spells.possible
  refine .apart (Char.ofNat p.least) spells.begun ?_ encodes
  obtain ⟨n, more⟩ := Nat.exists_eq_succ_of_ne_zero (Nat.ne_of_gt spells.missing)
  rw [more]
  exact List.cons_ne_nil _ _

variable (continues : p.low ≤ b.toNat ∧ b.toNat ≤ p.high)
include continues

theorem within : p.low % 64 ≤ b.toNat % 64 ∧ b.toNat % 64 ≤ p.high % 64 := by
  have low := spells.low
  have high := spells.high
  omega

theorem byte_eq {v : Nat} (same : v % 64 = b.toNat % 64) : UInt8.ofNat (v % 64 + 0x80) = b := by
  have low := spells.low
  have high := spells.high
  rw [show v % 64 + 0x80 = b.toNat by omega, UInt8.ofNat_toNat]

theorem last (one : p.missing = 1) :
    utf8EncodeChar (Char.ofNat (p.bits * 64 + b.toNat % 64)) = seen ++ [b] := by
  obtain ⟨above, below⟩ := spells.within continues
  have encodes := spells.encodes (p.bits * 64 + b.toNat % 64)
  simp only [least, most, one, Nat.sub_self, Nat.pow_zero, Nat.mul_one] at encodes
  rw [encodes (by omega) (by omega), following, following, Nat.pow_zero, Nat.div_one,
    spells.byte_eq continues (by omega)]

theorem next (more : p.missing ≠ 1) :
    Pending.Spells ⟨p.missing - 1, 0x80, 0xBF, p.bits * 64 + b.toNat % 64⟩ (seen ++ [b]) := by
  obtain ⟨above, below⟩ := spells.within continues
  have some := spells.missing
  have scalar := spells.scalar
  obtain ⟨m, two⟩ : ∃ m, p.missing = m + 2 := ⟨p.missing - 2, by omega⟩
  rw [show p.missing - 1 = m + 1 by omega]
  generalize value : p.bits * 64 + b.toNat % 64 = k
  have positive : 0 < 64 ^ (m + 1) := Nat.pow_pos (by decide)
  -- The values that remain are those that have `k` before their last bytes.
  have least_eq : Pending.least ⟨m + 1, 0x80, 0xBF, k⟩ = k * 64 ^ (m + 1) := by
    simp [Pending.least, Nat.pow_succ', Nat.mul_assoc]
  have most_eq : Pending.most ⟨m + 1, 0x80, 0xBF, k⟩ = (k + 1) * 64 ^ (m + 1) - 1 := by
    rw [Nat.pow_succ', ← Nat.mul_assoc, Nat.succ_mul]
    simp [Pending.most]
  have notLess : p.least ≤ k * 64 ^ (m + 1) := by
    rw [least, two]
    exact Nat.mul_le_mul_right _ (by omega)
  have notMore : (k + 1) * 64 ^ (m + 1) - 1 ≤ p.most := by
    rw [most, two]
    exact Nat.sub_le_sub_right (Nat.mul_le_mul_right _ (by omega)) 1
  have below_next : k * 64 ^ (m + 1) < (k + 1) * 64 ^ (m + 1) :=
    Nat.mul_lt_mul_of_pos_right k.lt_succ_self positive
  refine ⟨by simp, m.succ_pos, Nat.le_refl _, Nat.le_refl _, ?_, ?_, fun v least most => ?_⟩
  · rw [least_eq, most_eq]
    exact Nat.le_sub_one_of_lt below_next
  · rw [least_eq, most_eq]
    omega
  · rw [least_eq] at least
    rw [most_eq] at most
    have lead : v / 64 ^ (m + 1) = k := by
      refine Nat.div_eq_of_lt_le least (Nat.lt_of_le_sub_one ?_ most)
      exact Nat.lt_of_le_of_lt (Nat.zero_le _) below_next
    have byte : UInt8.ofNat (k % 64 + 0x80) = b := spells.byte_eq continues (by omega)
    rw [spells.encodes v (by omega) (by omega), two, following, lead, byte,
      List.append_assoc, List.singleton_append]

end Pending.Spells

/-! ### The parts -/

theorem lead_of_encoding {c : Char} {b : UInt8} (first : (utf8EncodeChar c).head? = some b) :
    b.toNat < 0x80 ∨ 0xC2 ≤ b.toNat ∧ b.toNat ≤ 0xF4 := by
  have scalar := scalar c
  have value : c.val.toNat = c.toNat := rfl
  revert first
  unfold utf8EncodeChar
  simp only [value]
  repeat' split
  all_goals
    intro first
    obtain rfl := Option.some.inj first
    rw [toNat_byte (by omega)]
    omega

theorem no_lead_of_shape {b : Nat} (none : shape b = none) : b < 0xC2 ∨ 0xF4 < b := by
  unfold shape at none
  repeat' split at none
  all_goals first | omega | cases none

theorem toNat_ascii {n : Nat} (ascii : n < 0x80) : (Char.ofNat n).toNat = n :=
  toNat_char (.inl (by omega))

theorem encode_ascii {n : Nat} (ascii : n < 0x80) :
    utf8EncodeChar (Char.ofNat n) = [UInt8.ofNat n] := by
  have value : (Char.ofNat n).val.toNat = n := toNat_ascii ascii
  unfold utf8EncodeChar
  simp only [value]
  rw [if_pos (Nat.le_of_lt_succ ascii)]

/-- The bytes that a sequence consists of which is pending, if one is. -/
def Seen : Option Pending → List UInt8 → Prop
  | none, seen => seen = []
  | some p, seen => p.Spells seen

theorem begin_parts (b : UInt8) :
    ∃ seen growth, Seen (begin b.toNat).2 seen ∧
      ∀ {bytes cs after}, ReadAs (seen ++ bytes) cs after →
        ReadAs (b :: bytes) ((begin b.toNat).1 ++ cs) (growth + after) := by
  unfold begin
  by_cases ascii : b.toNat < 0x80
  · rw [if_pos ascii]
    refine ⟨[], 0, rfl, fun {bytes cs after} rest => ?_⟩
    have whole := ReadAs.whole (Char.ofNat b.toNat) rest
    rwa [encode_ascii ascii, UInt8.ofNat_toNat, ← Nat.zero_add after] at whole
  · rw [if_neg ascii]
    cases lead : shape b.toNat with
    | some bounds =>
      refine ⟨[b], 0, spells_lead lead, fun {bytes cs after} rest => ?_⟩
      rwa [Nat.zero_add]
    | none =>
      have stray : IsBroken [b] := by
        refine .stray fun c first => ?_
        have lead' := lead_of_encoding first
        have none := no_lead_of_shape lead
        omega
      exact ⟨[], 2, rfl, fun rest => .broken stray rest⟩

theorem step_parts {p : Option Pending} {seen : List UInt8} (pending : Seen p seen) (b : UInt8) :
    ∃ seen' growth, Seen (step p b.toNat).2 seen' ∧
      ∀ {bytes cs after}, ReadAs (seen' ++ bytes) cs after →
        ReadAs (seen ++ b :: bytes) ((step p b.toNat).1 ++ cs) (growth + after) := by
  cases p with
  | none =>
    obtain rfl : seen = [] := pending
    exact begin_parts b
  | some p =>
    have spells : p.Spells seen := pending
    simp only [step]
    by_cases continues : p.low ≤ b.toNat ∧ b.toNat ≤ p.high
    · rw [if_pos continues]
      by_cases one : p.missing = 1
      · rw [if_pos one]
        refine ⟨[], 0, rfl, fun {bytes cs after} rest => ?_⟩
        have whole := ReadAs.whole (Char.ofNat (p.bits * 64 + b.toNat % 64)) rest
        rwa [spells.last continues one, List.append_assoc, ← Nat.zero_add after] at whole
      · rw [if_neg one]
        refine ⟨seen ++ [b], 0, spells.next continues one, fun {bytes cs after} rest => ?_⟩
        rwa [List.append_assoc, ← Nat.zero_add after] at rest
    · -- The sequence is given up as a broken part, and the byte is read afresh.
      rw [if_neg continues]
      obtain ⟨seen', growth, begun, parts⟩ := begin_parts b
      refine ⟨seen', 3 - seen.length + growth, begun, fun {bytes cs after} rest => ?_⟩
      rw [Nat.add_assoc]
      exact .broken spells.isBroken (parts rest)

theorem readAs_decodeFrom {p : Option Pending} {seen : List UInt8} (pending : Seen p seen)
    (bytes : List UInt8) : ∃ growth, ReadAs (seen ++ bytes) (decodeFrom p bytes) growth := by
  -- The bytes of a pending sequence are no part yet, so they are carried along as `seen`.
  induction bytes generalizing p seen with
  | nil =>
    cases p with
    | none =>
      obtain rfl : seen = [] := pending
      exact ⟨0, .nothing⟩
    | some p => exact ⟨_, .broken (Pending.Spells.isBroken pending) .nothing⟩
  | cons b rest ih =>
    obtain ⟨seen', growth, pending', parts⟩ := step_parts pending b
    obtain ⟨after, read⟩ := ih pending'
    exact ⟨growth + after, parts read⟩

theorem readAs_decode (bytes : List UInt8) :
    ∃ growth, ReadAs bytes (decode bytes).toList growth := by
  rw [decode, String.toList_ofList]
  have fresh : Seen none [] := rfl
  exact readAs_decodeFrom fresh bytes

/-! ### What follows from the parts -/

theorem IsBroken.length {part : List UInt8} (broken : IsBroken part) :
    0 < part.length ∧ part.length ≤ 3 := by
  cases broken with
  | stray => exact ⟨Nat.one_pos, by simp⟩
  | @apart _ rest c begun missing spells =>
    have four := Char.utf8Size_le_four c
    rw [← String.length_utf8EncodeChar, spells, List.length_append] at four
    have some := List.length_pos_iff.mpr begun
    have more := List.length_pos_iff.mpr missing
    omega

@[simp] theorem utf8Size_replacement : replacement.utf8Size = 3 := rfl

theorem ReadAs.size {bytes : List UInt8} {cs : List Char} {growth : Nat}
    (read : ReadAs bytes cs growth) :
    Utf8.size cs = bytes.length + growth ∧ growth ≤ 2 * bytes.length := by
  induction read with
  | nothing => exact ⟨rfl, Nat.le_refl _⟩
  | whole c after ih =>
    rw [List.length_append, String.length_utf8EncodeChar, size_cons]
    omega
  | broken broken after ih =>
    have length := broken.length
    rw [List.length_append, size_cons, utf8Size_replacement]
    omega

theorem utf8ByteSize_decode (bytes : List UInt8) :
    (decode bytes).utf8ByteSize ≤ 3 * bytes.length := by
  obtain ⟨growth, read⟩ := readAs_decode bytes
  have size := read.size
  rw [utf8ByteSize_eq]
  omega

theorem high_of_mem_encoding {c : Char} (more : 0x80 ≤ c.toNat) :
    ∀ b ∈ utf8EncodeChar c, 0x80 ≤ b.toNat := by
  have value : c.val.toNat = c.toNat := rfl
  have scalar := scalar c
  unfold utf8EncodeChar
  simp only [value]
  repeat' split
  all_goals
    simp [UInt8.toNat_ofNat']
    omega

section Ascii

variable {n : Nat} (ascii : n < 0x80)
include ascii

theorem ascii_mem_encoding {c : Char} :
    UInt8.ofNat n ∈ utf8EncodeChar c ↔ Char.ofNat n = c := by
  constructor
  · intro mem
    by_cases single : c.toNat < 0x80
    · have encoded := encode_ascii single
      rw [Char.ofNat_toNat] at encoded
      rw [encoded, List.mem_singleton, ← UInt8.toNat_inj, toNat_byte (by omega),
        toNat_byte (by omega)] at mem
      rw [mem, Char.ofNat_toNat]
    · have high := high_of_mem_encoding (Nat.le_of_not_lt single) _ mem
      rw [toNat_byte (by omega)] at high
      omega
  · rintro rfl
    rw [encode_ascii ascii]
    exact List.mem_singleton_self _

theorem ascii_ne_replacement : Char.ofNat n ≠ replacement := by
  intro same
  have value := congrArg Char.toNat same
  rw [toNat_ascii ascii] at value
  have marked : replacement.toNat = 0xFFFD := rfl
  omega

theorem ascii_not_mem_broken {part : List UInt8} (broken : IsBroken part) :
    UInt8.ofNat n ∉ part := by
  have single := encode_ascii ascii
  intro mem
  cases broken with
  | @stray b none =>
    obtain rfl := List.mem_singleton.mp mem
    exact none _ (congrArg List.head? single)
  | @apart _ rest c begun missing spells =>
    have within : UInt8.ofNat n ∈ utf8EncodeChar c := spells ▸ List.mem_append_left rest mem
    obtain rfl := (ascii_mem_encoding ascii).mp within
    have length := congrArg List.length (single.symm.trans spells)
    rw [List.length_append] at length
    have some := List.length_pos_iff.mpr begun
    have more := List.length_pos_iff.mpr missing
    simp only [List.length_singleton] at length
    omega

theorem ReadAs.ascii_mem {bytes : List UInt8} {cs : List Char} {growth : Nat}
    (read : ReadAs bytes cs growth) : Char.ofNat n ∈ cs ↔ UInt8.ofNat n ∈ bytes := by
  induction read with
  | nothing => simp
  | whole c after ih => rw [List.mem_cons, List.mem_append, ih, ascii_mem_encoding ascii]
  | broken broken after ih =>
    rw [List.mem_cons, List.mem_append, ih]
    simp [ascii_ne_replacement ascii, ascii_not_mem_broken ascii broken]

theorem ascii_mem_decode (bytes : List UInt8) :
    Char.ofNat n ∈ (decode bytes).toList ↔ UInt8.ofNat n ∈ bytes := by
  obtain ⟨growth, read⟩ := readAs_decode bytes
  exact read.ascii_mem ascii

end Ascii

end Courier.Text.Utf8
