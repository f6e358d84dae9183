import Courier.Proofs.Partition.Window

/-!
# The window counted in words

The days of the window are found by counting offsets from today in words of 64 bits, where the
numbers of days are given in words of 32 bits. `dates_eq_ofList_offsets` says that no step of the
count overflows, as the days are those that are found without words.
-/

namespace Courier

theorem toInt_succ {low high : Int64} (less : low < high) : (low + 1).toInt = low.toInt + 1 := by
  have below : low.toInt < high.toInt := Int64.lt_iff_toInt_lt.mp less
  have most := high.toInt_lt
  have least := low.le_toInt
  rw [Int64.toInt_add, Int64.toInt_one, Int.bmod_eq_of_le (by omega) (by omega)]

/-- The words from one up to, not including, another. -/
def countUp (low high : Int64) : List Int64 :=
  if low < high then low :: countUp (low + 1) high else []
termination_by (high.toInt - low.toInt).toNat
decreasing_by
  next less =>
  have below : low.toInt < high.toInt := Int64.lt_iff_toInt_lt.mp less
  rw [toInt_succ less]
  omega

theorem mem_countUp {low high w : Int64} :
    w ∈ countUp low high ↔ low.toInt ≤ w.toInt ∧ w.toInt < high.toInt := by
  fun_induction countUp low high with
  | case1 low less ih =>
    have below : low.toInt < high.toInt := Int64.lt_iff_toInt_lt.mp less
    rw [List.mem_cons, ih, toInt_succ less, ← Int64.toInt_inj]
    omega
  | case2 low done =>
    have above := mt Int64.lt_iff_toInt_lt.mpr done
    simp only [List.not_mem_nil, false_iff]
    omega

theorem toInt_toInt64 (n : UInt32) : n.toUInt64.toInt64.toInt = n.toNat := by
  have small := n.toNat_lt
  rw [Int64.toInt, UInt64.toBitVec_toInt64, BitVec.toInt_eq_toNat_of_lt]
  · simp
  · simp
    omega

instance : StrictOrder Date where
  irrefl d := Int.lt_irrefl d.dayNumber
  trans := Int.lt_trans
  connex d e := by
    rcases Int.lt_trichotomy d.dayNumber e.dayNumber with less | same | more
    · exact .inl less
    · exact .inr (.inl (Date.ext same))
    · exact .inr (.inr more)

namespace Window

variable {past future : UInt32} {w : Int64} {today d : Date}

def offsets (past future : UInt32) : List Int64 :=
  countUp (-(max past 2).toUInt64.toInt64) (max future 2).toUInt64.toInt64

theorem mem_offsets : w ∈ offsets past future ↔
    -((max past.toNat 2 : Nat) : Int) ≤ w.toInt ∧ w.toInt < (max future.toNat 2 : Nat) := by
  have small := (max past 2).toNat_lt
  rw [offsets, mem_countUp, Int64.toInt_neg, toInt_toInt64, toInt_toInt64,
    Int.bmod_eq_of_le (by omega) (by omega), UInt32.toNat_max, UInt32.toNat_max]
  exact Iff.rfl

theorem millis_of_mem_offsets (member : w ∈ offsets past future) :
    (w.toInt * 86400000).natAbs < 2 ^ 63 := by
  have past_lt := past.toNat_lt
  have future_lt := future.toNat_lt
  rw [mem_offsets] at member
  omega

theorem dates_eq_ofList_offsets (today : Date) (past future : UInt32) :
    dates today past.toNat future.toNat =
      .ofList ((offsets past future).filterMap fun w => today.shift? w.toInt) := by
  have past_lt := past.toNat_lt
  have future_lt := future.toNat_lt
  have clamp : minDays = 2 := rfl
  refine OrderedSet.eq_of_mem_iff fun d => ?_
  rw [mem_dates, OrderedSet.mem_ofList, List.mem_filterMap]
  constructor
  · intro within
    have offset : (Int64.ofInt (d.dayNumber - today.dayNumber)).toInt =
        d.dayNumber - today.dayNumber := Int64.toInt_ofInt_of_le (by omega) (by omega)
    refine ⟨.ofInt (d.dayNumber - today.dayNumber), mem_offsets.mpr (by omega), ?_⟩
    rw [offset, Date.shift?, show today.dayNumber + (d.dayNumber - today.dayNumber) = d.dayNumber by
      omega, Date.ofDayNumber?_dayNumber]
  · rintro ⟨w, member, found⟩
    rw [mem_offsets] at member
    rw [Date.dayNumber_of_ofDayNumber? found]
    omega

end Window

end Courier
