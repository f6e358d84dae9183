import Courier.Text.Utf8

/-!
# Texts read back from their bytes

Well-formed bytes are read as the text that they encode, `decode_encode`. Of a text that is cut
after some bytes the characters that are whole are kept, and one that is cut apart becomes a single
U+FFFD, `IsCut.decodeFrom`.
-/

namespace Courier.Text.Utf8

open String (utf8EncodeChar)

/-! ### Encoding -/

theorem toList_loop (bytes : ByteArray) (i : Nat) (read : List UInt8) :
    ByteArray.toList.loop bytes i read = read.reverse ++ bytes.data.toList.drop i := by
  fun_induction ByteArray.toList.loop bytes i read with
  | case1 i read within ih =>
    have bound : i < bytes.data.toList.length := within
    have first : bytes.get! i = bytes.data.toList[i] := by
      simp [ByteArray.get!, getElem!_pos bytes.data i bound]
    rw [ih, List.drop_eq_getElem_cons bound, List.reverse_cons, List.append_assoc, first]
    rfl
  | case2 i read beyond =>
    have behind : bytes.data.toList.length ≤ i := Nat.le_of_not_lt beyond
    rw [List.drop_eq_nil_of_le behind, List.append_nil]

theorem toList_eq (bytes : ByteArray) : bytes.toList = bytes.data.toList :=
  toList_loop bytes 0 []

theorem encode_eq (s : String) : encode s = s.toList.flatMap utf8EncodeChar := by
  unfold encode
  rw [String.toUTF8_eq_toByteArray, toList_eq]
  conv =>
    lhs
    rw [← String.ofList_toList (s := s), String.toByteArray_ofList]
  exact List.toList_data_toByteArray

theorem length_encode (s : String) : (encode s).length = s.utf8ByteSize := by
  unfold encode
  rw [toList_eq]
  rfl

def size : List Char → Nat
  | [] => 0
  | c :: cs => c.utf8Size + size cs

@[simp] theorem size_nil : size [] = 0 := rfl

@[simp] theorem size_cons (c : Char) (cs : List Char) : size (c :: cs) = c.utf8Size + size cs := rfl

@[simp] theorem size_append (cs ds : List Char) : size (cs ++ ds) = size cs + size ds := by
  induction cs with
  | nil => simp
  | cons c cs ih => rw [List.cons_append, size_cons, size_cons, ih, Nat.add_assoc]

theorem size_replicate (n : Nat) (c : Char) : size (List.replicate n c) = n * c.utf8Size := by
  induction n with
  | zero => simp
  | succ n ih => rw [List.replicate_succ, size_cons, ih, Nat.succ_mul, Nat.add_comm]

theorem length_flatMap_encode (cs : List Char) : (cs.flatMap utf8EncodeChar).length = size cs := by
  induction cs with
  | nil => rfl
  | cons c cs ih =>
    rw [List.flatMap_cons, List.length_append, String.length_utf8EncodeChar, ih, size_cons]

theorem utf8ByteSize_eq (s : String) : s.utf8ByteSize = size s.toList := by
  rw [← length_encode, encode_eq, length_flatMap_encode]

theorem utf8ByteSize_ofList (cs : List Char) : (String.ofList cs).utf8ByteSize = size cs := by
  rw [utf8ByteSize_eq, String.toList_ofList]

/-! ### Reading a character back -/

theorem leadBits_cases (b : Nat) :
    b < 0xE0 ∧ leadBits b = b % 32 ∨ 0xE0 ≤ b ∧ b < 0xF0 ∧ leadBits b = b % 16 ∨
      0xF0 ≤ b ∧ leadBits b = b % 8 := by
  unfold leadBits
  split
  · omega
  · split <;> omega

theorem toNat_byte {n : Nat} (small : n < 256) : (UInt8.ofNat n).toNat = n := by
  rw [UInt8.toNat_ofNat']
  exact Nat.mod_eq_of_lt small

section Sequences

variable {v : Nat}

/-- A lead byte begins a sequence of which so many bytes are missing, first `next`. -/
def Begins (lead missing bits next : Nat) : Prop :=
  ∃ low high, begin lead = ([], some ⟨missing, low, high, bits⟩) ∧ low ≤ next ∧ next ≤ high

theorem begins_two (least : 0x80 ≤ v) (most : v ≤ 0x7FF) :
    Begins (v / 64 % 32 + 0xC0) 1 (v / 64) (v % 64 + 0x80) := by
  have lead := leadBits_cases (v / 64 % 32 + 0xC0)
  have bits : leadBits (v / 64 % 32 + 0xC0) = v / 64 := by omega
  unfold Begins begin shape
  rw [if_neg (by omega), if_pos (by omega), bits]
  exact ⟨_, _, rfl, by omega, by omega⟩

theorem begins_three (least : 0x800 ≤ v) (most : v ≤ 0xFFFF) (scalar : v < 0xD800 ∨ 0xDFFF < v) :
    Begins (v / 4096 % 16 + 0xE0) 2 (v / 4096) (v / 64 % 64 + 0x80) := by
  have lead := leadBits_cases (v / 4096 % 16 + 0xE0)
  have bits : leadBits (v / 4096 % 16 + 0xE0) = v / 4096 := by omega
  unfold Begins begin shape
  rw [if_neg (by omega), if_neg (by omega), bits]
  by_cases first : v / 4096 % 16 + 0xE0 = 0xE0
  · rw [if_pos first]
    exact ⟨_, _, rfl, by omega, by omega⟩
  rw [if_neg first]
  by_cases below : v / 4096 % 16 + 0xE0 = 0xED
  · -- what would be above is no character
    rw [if_pos below]
    exact ⟨_, _, rfl, by omega, by omega⟩
  rw [if_neg below, if_pos (by omega)]
  exact ⟨_, _, rfl, by omega, by omega⟩

theorem begins_four (least : 0x10000 ≤ v) (most : v < 0x110000) :
    Begins (v / 262144 % 8 + 0xF0) 3 (v / 262144) (v / 4096 % 64 + 0x80) := by
  have lead := leadBits_cases (v / 262144 % 8 + 0xF0)
  have bits : leadBits (v / 262144 % 8 + 0xF0) = v / 262144 := by omega
  unfold Begins begin shape
  rw [if_neg (by omega), if_neg (by omega), if_neg (by omega), if_neg (by omega),
    if_neg (by omega), bits]
  by_cases first : v / 262144 % 8 + 0xF0 = 0xF0
  · rw [if_pos first]
    exact ⟨_, _, rfl, by omega, by omega⟩
  rw [if_neg first]
  by_cases between : 0xF1 ≤ v / 262144 % 8 + 0xF0 ∧ v / 262144 % 8 + 0xF0 ≤ 0xF3
  · rw [if_pos between]
    exact ⟨_, _, rfl, by omega, by omega⟩
  rw [if_neg between, if_pos (by omega)]
  exact ⟨_, _, rfl, by omega, by omega⟩

end Sequences

section Reading

variable {lead missing bits next : Nat} {rest : List UInt8}

theorem Begins.decodeFrom_lead (begins : Begins lead missing bits next) (byte : lead < 256) :
    decodeFrom none [UInt8.ofNat lead] = [replacement] := by
  obtain ⟨low, high, begun, _⟩ := begins
  simp only [decodeFrom, step, toNat_byte byte, begun]
  rfl

theorem Begins.decodeFrom_two (begins : Begins lead 1 bits next) (byte : lead < 256)
    (small : next < 256) :
    decodeFrom none (UInt8.ofNat lead :: UInt8.ofNat next :: rest) =
      Char.ofNat (bits * 64 + next % 64) :: decodeFrom none rest := by
  obtain ⟨low, high, begun, above, below⟩ := begins
  simp only [decodeFrom, step, toNat_byte byte, toNat_byte small, begun]
  rw [if_pos ⟨above, below⟩, if_pos trivial]
  rfl

theorem Begins.decodeFrom_more (begins : Begins lead (missing + 2) bits next) (byte : lead < 256)
    (small : next < 256) (rest : List UInt8) :
    decodeFrom none (UInt8.ofNat lead :: UInt8.ofNat next :: rest) =
      decodeFrom (some ⟨missing + 1, 0x80, 0xBF, bits * 64 + next % 64⟩) rest := by
  obtain ⟨low, high, begun, above, below⟩ := begins
  simp only [decodeFrom, step, toNat_byte byte, toNat_byte small, begun]
  rw [if_pos ⟨above, below⟩, if_neg (by omega)]
  rfl

theorem decodeFrom_last (v : Nat) :
    decodeFrom (some ⟨1, 0x80, 0xBF, bits⟩) (UInt8.ofNat (v % 64 + 0x80) :: rest) =
      Char.ofNat (bits * 64 + v % 64) :: decodeFrom none rest := by
  have within : 0x80 ≤ v % 64 + 0x80 ∧ v % 64 + 0x80 ≤ 0xBF := by omega
  simp only [decodeFrom, step, toNat_byte (show v % 64 + 0x80 < 256 by omega)]
  rw [if_pos within, if_pos trivial, show (v % 64 + 0x80) % 64 = v % 64 by omega]
  rfl

theorem decodeFrom_next (v : Nat) (rest : List UInt8) :
    decodeFrom (some ⟨missing + 2, 0x80, 0xBF, bits⟩) (UInt8.ofNat (v % 64 + 0x80) :: rest) =
      decodeFrom (some ⟨missing + 1, 0x80, 0xBF, bits * 64 + v % 64⟩) rest := by
  have within : 0x80 ≤ v % 64 + 0x80 ∧ v % 64 + 0x80 ≤ 0xBF := by omega
  simp only [decodeFrom, step, toNat_byte (show v % 64 + 0x80 < 256 by omega)]
  rw [if_pos within, if_neg (by omega), show (v % 64 + 0x80) % 64 = v % 64 by omega]
  rfl

end Reading

theorem scalar (c : Char) : c.toNat < 0xD800 ∨ 0xDFFF < c.toNat ∧ c.toNat < 0x110000 := c.valid

theorem decodeFrom_encodeChar (c : Char) (rest : List UInt8) :
    decodeFrom none (utf8EncodeChar c ++ rest) = c :: decodeFrom none rest := by
  have scalar := scalar c
  have again : ∀ {n}, n = c.toNat → Char.ofNat n = c := fun same => same ▸ Char.ofNat_toNat c
  fun_cases utf8EncodeChar c with
  | case1 v one =>
    change c.toNat ≤ 0x7f at one
    have ascii : c.toNat < 0x80 := by omega
    show decodeFrom none (UInt8.ofNat c.toNat :: rest) = _
    simp only [decodeFrom, step, begin, toNat_byte (show c.toNat < 256 by omega)]
    rw [if_pos ascii, again rfl]
    rfl
  | case2 v more two =>
    change ¬ c.toNat ≤ 0x7f at more
    change c.toNat ≤ 0x7ff at two
    exact ((begins_two (by omega) two).decodeFrom_two (by omega) (by omega)).trans
      (congrArg (· :: _) (again (by omega)))
  | case3 v _ more three =>
    change ¬ c.toNat ≤ 0x7ff at more
    change c.toNat ≤ 0xffff at three
    have begins := begins_three (v := c.toNat) (by omega) three (by omega)
    refine (begins.decodeFrom_more (by omega) (by omega) _).trans ?_
    exact (decodeFrom_last c.toNat).trans (congrArg (· :: _) (again (by omega)))
  | case4 v _ _ more =>
    change ¬ c.toNat ≤ 0xffff at more
    have begins := begins_four (v := c.toNat) (by omega) (by omega)
    refine (begins.decodeFrom_more (by omega) (by omega) _).trans ?_
    refine (decodeFrom_next (c.toNat / 64) _).trans ((decodeFrom_last c.toNat).trans ?_)
    exact congrArg (· :: _) (again (by omega))

theorem decodeFrom_cutChar (c : Char) {n : Nat} (some : 0 < n) (apart : n < c.utf8Size) :
    decodeFrom none ((utf8EncodeChar c).take n) = [replacement] := by
  have scalar := scalar c
  rw [← String.length_utf8EncodeChar] at apart
  revert apart
  fun_cases utf8EncodeChar c with
  | case1 v one =>
    intro apart
    exact absurd apart (Nat.not_lt.mpr some)
  | case2 v more two =>
    change ¬ c.toNat ≤ 0x7f at more
    change c.toNat ≤ 0x7ff at two
    intro apart
    obtain rfl : n = 1 := Nat.le_antisymm (Nat.le_of_lt_succ apart) some
    exact (begins_two (by omega) two).decodeFrom_lead (by omega)
  | case3 v _ more three =>
    change ¬ c.toNat ≤ 0x7ff at more
    change c.toNat ≤ 0xffff at three
    have begins := begins_three (v := c.toNat) (by omega) three (by omega)
    intro apart
    change n < 3 at apart
    obtain rfl | rfl : n = 1 ∨ n = 2 := by omega
    · exact begins.decodeFrom_lead (by omega)
    · exact (begins.decodeFrom_more (by omega) (by omega) []).trans rfl
  | case4 v _ _ more =>
    change ¬ c.toNat ≤ 0xffff at more
    have begins := begins_four (v := c.toNat) (by omega) (by omega)
    have two : decodeFrom none [_, _] = _ :=
      begins.decodeFrom_more (by omega) (by omega) []
    intro apart
    change n < 4 at apart
    obtain rfl | rfl | rfl : n = 1 ∨ n = 2 ∨ n = 3 := by omega
    · exact begins.decodeFrom_lead (by omega)
    · exact two
    · refine (begins.decodeFrom_more (by omega) (by omega) _).trans ?_
      exact decodeFrom_next (c.toNat / 64) []

/-! ### A text that is read back, whole or cut -/

theorem decodeFrom_flatMap (cs : List Char) (rest : List UInt8) :
    decodeFrom none (cs.flatMap utf8EncodeChar ++ rest) = cs ++ decodeFrom none rest := by
  induction cs with
  | nil => rfl
  | cons c cs ih =>
    rw [List.flatMap_cons, List.append_assoc, decodeFrom_encodeChar, ih, List.cons_append]

theorem decode_encode (s : String) : decode (encode s) = s := by
  have whole := decodeFrom_flatMap s.toList []
  rw [List.append_nil, show decodeFrom none [] = [] from rfl, List.append_nil] at whole
  rw [decode, encode_eq, whole, String.ofList_toList]

/-- A text is cut at a limit: the characters that are kept fit, and one more would not. -/
structure IsCut (limit : Nat) (kept rest : List Char) : Prop where
  fits : size kept ≤ limit
  fills : ∀ c ∈ rest.head?, limit < size kept + c.utf8Size

theorem IsCut.cons {limit : Nat} {c : Char} {kept rest : List Char} (enough : c.utf8Size ≤ limit)
    (cut : IsCut (limit - c.utf8Size) kept rest) : IsCut limit (c :: kept) rest where
  fits := by
    have fits := cut.fits
    rw [size_cons]
    omega
  fills d next := by
    have fills := cut.fills d next
    rw [size_cons]
    omega

theorem exists_cut (limit : Nat) (cs : List Char) :
    ∃ kept rest, cs = kept ++ rest ∧ IsCut limit kept rest := by
  induction cs generalizing limit with
  | nil => exact ⟨[], [], rfl, Nat.zero_le _, nofun⟩
  | cons c cs ih =>
    by_cases enough : c.utf8Size ≤ limit
    · obtain ⟨kept, rest, split, cut⟩ := ih (limit - c.utf8Size)
      exact ⟨c :: kept, rest, congrArg (c :: ·) split, cut.cons enough⟩
    · refine ⟨[], c :: cs, rfl, Nat.zero_le _, fun d next => ?_⟩
      obtain rfl := Option.some.inj next
      simpa using enough

/-- What is read of a text that is cut; the mark stands for a character that is cut apart. -/
def readOfCut (limit : Nat) (kept rest : List Char) : List Char :=
  if rest = [] ∨ size kept = limit then kept else kept ++ [replacement]

theorem IsCut.decodeFrom {limit : Nat} {kept rest : List Char} (cut : IsCut limit kept rest) :
    decodeFrom none (((kept ++ rest).flatMap utf8EncodeChar).take limit) =
      readOfCut limit kept rest := by
  have fits := cut.fits
  have whole : (kept.flatMap utf8EncodeChar).take limit = kept.flatMap utf8EncodeChar :=
    List.take_of_length_le (length_flatMap_encode kept ▸ fits)
  rw [List.flatMap_append, List.take_append, length_flatMap_encode, whole, decodeFrom_flatMap]
  unfold readOfCut
  cases rest with
  | nil => simp [Utf8.decodeFrom]
  | cons c rest =>
    have fills := cut.fills c rfl
    by_cases full : size kept = limit
    · simp [full, Utf8.decodeFrom]
    · have apart : limit - size kept < c.utf8Size := by omega
      rw [if_neg (by simpa using full), List.flatMap_cons, List.take_append,
        String.length_utf8EncodeChar, Nat.sub_eq_zero_of_le (Nat.le_of_lt apart), List.take_zero,
        List.append_nil, decodeFrom_cutChar c (by omega) apart]

end Courier.Text.Utf8
