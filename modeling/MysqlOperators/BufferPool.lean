import MysqlOperators.MemoryProfile
import Mathlib.Algebra.Group.Int.Defs

/-!
The buffer pool as a function of the memory. Both formulas are rounded up to multiples of
128 MiB, and the second rounding, of the chunks, changes nothing: an eighth of such a
multiple is one of 16 MiB. At the size from which on three quarters of the memory are
1 GiB the function changes from half of the memory to what is left of that beyond 1 GiB.
-/
namespace MysqlOperators.BufferPool
open MysqlOperators.Config MysqlOperators.MemoryProfile

/-! ### The least multiple -/

section Rounding
variable {step : Int} (positive : 0 < step)
include positive

theorem roundTo_multiple (size : Int) : ∃ k, roundTo size step = k * step := by
  obtain ⟨_,_,whole⟩ := roundTo_bounds positive size
  exact ⟨_,(Int.ediv_mul_cancel (Int.dvd_of_emod_eq_zero whole)).symm⟩

theorem roundTo_le_iff (size k : Int) : roundTo size step ≤ k * step ↔ size ≤ k * step := by
  obtain ⟨low,high,_⟩ := roundTo_bounds positive size
  obtain ⟨j,same⟩ := roundTo_multiple positive size
  refine ⟨Int.le_trans low,fun covers => ?_⟩
  rw [same] at high ⊢
  have below : j * step < (k + 1) * step := by rw [Int.add_mul,Int.one_mul]; omega
  have least := Int.lt_of_mul_lt_mul_right below (Int.le_of_lt positive)
  exact Int.mul_le_mul_of_nonneg_right (Int.lt_add_one_iff.mp least) (Int.le_of_lt positive)

theorem roundTo_mono {size larger : Int} (order : size ≤ larger) : roundTo size step ≤ roundTo larger step := by
  obtain ⟨k,same⟩ := roundTo_multiple positive larger
  rw [same,roundTo_le_iff positive,← same]
  exact Int.le_trans order (roundTo_bounds positive larger).1

/-- A multiple stands between two sizes that are rounded in this order. -/
theorem roundTo_le_roundTo_iff (size other : Int) :
    roundTo size step ≤ roundTo other step ↔ ∃ k, size ≤ k * step ∧ (k - 1) * step < other := by
  constructor
  · intro order
    obtain ⟨k,same⟩ := roundTo_multiple positive other
    obtain ⟨_,high,_⟩ := roundTo_bounds positive other
    refine ⟨k,(roundTo_le_iff positive size k).mp (same ▸ order),?_⟩
    rw [Int.sub_mul,Int.one_mul]
    omega
  · rintro ⟨k,covers,reaches⟩
    obtain ⟨j,same⟩ := roundTo_multiple positive other
    refine Int.le_trans ((roundTo_le_iff positive size k).mpr covers) ?_
    have above : ¬ roundTo other step ≤ (k - 1) * step := by
      rw [roundTo_le_iff positive]
      exact Int.not_le.mpr reaches
    rw [same] at above ⊢
    have later := Int.lt_of_mul_lt_mul_right (Int.not_le.mp above) (Int.le_of_lt positive)
    exact Int.mul_le_mul_of_nonneg_right (by omega) (Int.le_of_lt positive)

end Rounding

theorem roundTo_self {step size : Int} (whole : size % step = 0) : roundTo size step = size := by
  simp [roundTo,whole]

/-! ### One rounding -/

/-- The sizes for which the products of floating-point numbers are exact. -/
structure InRange (memory : Int) : Prop where
  least : 200 * bytes1MiB ≤ memory
  most : memory ≤ 2 ^ 50

/-- The pool before it is rounded. -/
def unrounded (memory : Int) : Int := if cacheChosen memory then memory / 2 else memory * 3 / 4 - bytes1GiB

def poolSize (memory : Int) : Int := (calculateBufferPool memory).1

/-- The chunks of the pool, 128 MiB where none are chosen. -/
def chunkSize (memory : Int) : Int := (nonZero (calculateBufferPool memory).2.1).getD (128 * bytes1MiB)

/-- An eighth of the pool needs no rounding. -/
theorem eighth_whole {size : Int} (whole : size % (128 * bytes1MiB) = 0) :
    roundTo (size.tdiv 8) bytes1MiB * 8 = size ∧ roundTo (size.tdiv 8) bytes1MiB = size / 8 := by
  simp only [bytes1MiB] at whole ⊢
  have eighth : size.tdiv 8 = size / 8 := Int.tdiv_eq_ediv_of_dvd (Int.dvd_of_emod_eq_zero (by omega))
  rw [eighth,roundTo_self (by omega)]
  exact ⟨by omega,rfl⟩

/-- `calculate_buffer_pool` with one rounding, for sizes that are not negative. -/
theorem calculateBufferPool_eq {memory : Int} (nonneg : 0 ≤ memory) :
    calculateBufferPool memory =
      (roundTo (unrounded memory) (128 * bytes1MiB),
        if roundTo (unrounded memory) (128 * bytes1MiB) > bytes1GiB then
          some (roundTo (unrounded memory) (128 * bytes1MiB) / 8)
        else none,
        if cacheChosen memory then some (bytes1MiB * 128) else none) := by
  obtain ⟨_,high,whole⟩ := roundTo_bounds (show (0 : Int) < 128 * bytes1MiB by decide) (unrounded memory)
  obtain ⟨eight,eighth⟩ := eighth_whole whole
  have three : (memory * 3).tdiv 4 = memory * 3 / 4 := Int.tdiv_eq_ediv_of_nonneg (by omega)
  have half : memory.tdiv 2 = memory / 2 := Int.tdiv_eq_ediv_of_nonneg nonneg
  have chosen : (if memory * 3 / 4 - bytes1GiB < 0 ∨ memory - (memory * 3 / 4 - bytes1GiB) < bytes1GiB
      then (memory / 2,some (bytes1MiB * 128)) else (memory * 3 / 4 - bytes1GiB,none)) =
      (unrounded memory,if cacheChosen memory then some (bytes1MiB * 128) else none) := by
    by_cases small : cacheChosen memory = true
    · have few := (cacheChosen_iff memory).mp small
      rw [if_pos (.inl (by rw [bytes1GiB]; omega)),unrounded,if_pos small,if_pos small]
    · have many := (cacheChosen_false memory).mp (Bool.eq_false_iff.mpr small)
      -- What is left beside the pool is never below 1 GiB.
      have taken : ¬ (memory * 3 / 4 - bytes1GiB < 0 ∨ memory - (memory * 3 / 4 - bytes1GiB) < bytes1GiB) := by
        rw [bytes1GiB]
        omega
      rw [if_neg taken,unrounded,if_neg small,if_neg small]
  simp only [calculateBufferPool,three,half,chosen]
  rw [Int.mul_comm bytes1MiB 128]
  split
  · rw [eight,eighth]
  · rfl

theorem poolSize_eq {memory : Int} (nonneg : 0 ≤ memory) :
    poolSize memory = roundTo (unrounded memory) (128 * bytes1MiB) := by
  rw [poolSize,calculateBufferPool_eq nonneg]

theorem chunkSize_eq {memory : Int} (nonneg : 0 ≤ memory) :
    chunkSize memory = if poolSize memory > bytes1GiB then poolSize memory / 8 else 128 * bytes1MiB := by
  rw [chunkSize,calculateBufferPool_eq nonneg,← poolSize_eq nonneg]
  by_cases large : poolSize memory > bytes1GiB
  · have eighth : nonZero (some (poolSize memory / 8)) = some (poolSize memory / 8) := by
      rw [bytes1GiB] at large
      unfold nonZero
      split
      · rename_i zero
        have none := Option.some.inj zero
        omega
      · rfl
    simp [large,eighth]
  · simp [large,nonZero]

theorem InRange.nonneg {memory : Int} (range : InRange memory) : 0 ≤ memory := by
  have least := range.least
  rw [bytes1MiB] at least
  omega

/-! ### More memory -/

/-- Three quarters of the larger memory exceed 1 GiB by so many multiples of 128 MiB, but
    one, as half of the smaller one fills. -/
def Outgrows (smaller larger : Int) : Prop :=
  ∃ k : Int, smaller / 2 ≤ k * (128 * bytes1MiB) ∧ bytes1GiB + (k - 1) * (128 * bytes1MiB) < larger * 3 / 4

theorem cacheChosen_anti {smaller larger : Int} (order : smaller ≤ larger) (cached : cacheChosen larger = true) :
    cacheChosen smaller = true := by
  rw [cacheChosen_iff] at cached ⊢
  omega

/-- More memory gives no smaller pool, unless the size at which the function changes is
    between the two. -/
theorem poolSize_le_iff {smaller larger : Int} (first : InRange smaller) (second : InRange larger)
    (order : smaller ≤ larger) : poolSize smaller ≤ poolSize larger ↔
      (cacheChosen smaller = cacheChosen larger ∨ Outgrows smaller larger) := by
  rw [poolSize_eq first.nonneg,poolSize_eq second.nonneg]
  have positive : (0 : Int) < 128 * bytes1MiB := by decide
  cases before : cacheChosen smaller with
  | false =>
    have after : cacheChosen larger = false :=
      Bool.eq_false_iff.mpr fun cached => by rw [cacheChosen_anti order cached] at before; cases before
    refine iff_of_true (roundTo_mono positive ?_) (.inl after.symm)
    simp only [unrounded,before,after,Bool.false_eq_true,if_false]
    omega
  | true =>
    cases after : cacheChosen larger with
    | true =>
      refine iff_of_true (roundTo_mono positive ?_) (.inl rfl)
      simp only [unrounded,before,after,if_true]
      omega
    | false =>
      rw [roundTo_le_roundTo_iff positive]
      simp only [unrounded,before,after,if_true,Bool.false_eq_true,if_false,Bool.true_eq_false,false_or]
      refine exists_congr fun k => and_congr_right fun _ => ?_
      omega

theorem poolSize_le_iff_1GiB :
    (InRange bytes1GiB ∧ InRange (2 * bytes1GiB) ∧ bytes1GiB ≤ 2 * bytes1GiB) ∧
      (poolSize bytes1GiB ≤ poolSize (2 * bytes1GiB) ↔
        cacheChosen bytes1GiB = cacheChosen (2 * bytes1GiB) ∨ Outgrows bytes1GiB (2 * bytes1GiB)) :=
  ⟨⟨⟨by decide,by decide⟩,⟨by decide,by decide⟩,by decide⟩,
    poolSize_le_iff ⟨by decide,by decide⟩ ⟨by decide,by decide⟩ (by decide)⟩

/-- From 768 MiB to 128 MiB, with a mebibyte more. -/
theorem poolSize_drops : ¬ ∀ smaller larger : Int, InRange smaller → InRange larger → smaller ≤ larger →
    poolSize smaller ≤ poolSize larger := by
  intro monotone
  exact absurd (monotone (1365 * bytes1MiB) (1366 * bytes1MiB) ⟨by decide,by decide⟩ ⟨by decide,by decide⟩ (by decide))
    (by decide)

/-! ### Chunks -/

/-- The pool consists of at most eight chunks, of whole mebibytes, and leaves memory. -/
structure Aligned (memory : Int) : Prop where
  chunk : chunkSize memory % bytes1MiB = 0
  positive : 0 < poolSize memory
  whole : poolSize memory % chunkSize memory = 0
  atMost : poolSize memory ≤ 8 * chunkSize memory
  leaves : poolSize memory < memory

/-- The one size of which three quarters, cut, are 1 GiB. -/
def changeOver : Int := 1431655766

theorem unrounded_pos_iff {memory : Int} (range : InRange memory) : 0 < unrounded memory ↔ memory ≠ changeOver := by
  have least := range.least
  simp only [bytes1MiB] at least
  by_cases small : cacheChosen memory = true
  · have few := (cacheChosen_iff memory).mp small
    rw [unrounded,if_pos small,changeOver]
    omega
  · have many := (cacheChosen_false memory).mp (Bool.eq_false_iff.mpr small)
    rw [unrounded,if_neg small,changeOver,bytes1GiB]
    omega

/-- There is room for the rounding, unless the pool is a single chunk. -/
theorem unrounded_room {memory : Int} (range : InRange memory) :
    unrounded memory ≤ 128 * bytes1MiB ∨ unrounded memory + 128 * bytes1MiB ≤ memory := by
  have nonneg := range.nonneg
  by_cases small : cacheChosen memory = true
  · rw [unrounded,if_pos small,bytes1MiB]
    omega
  · rw [unrounded,if_neg small,bytes1GiB,bytes1MiB]
    omega

theorem poolSize_lt {memory : Int} (range : InRange memory) : poolSize memory < memory := by
  have positive : (0 : Int) < 128 * bytes1MiB := by decide
  rw [poolSize_eq range.nonneg]
  rcases unrounded_room range with single | room
  · have one := (roundTo_le_iff positive (unrounded memory) 1).mpr (by simpa using single)
    have least := range.least
    rw [bytes1MiB] at one least ⊢
    omega
  · exact Int.lt_of_lt_of_le (roundTo_bounds positive (unrounded memory)).2.1 room

theorem poolSize_pos_iff {memory : Int} (range : InRange memory) : 0 < poolSize memory ↔ memory ≠ changeOver := by
  have positive : (0 : Int) < 128 * bytes1MiB := by decide
  have none := roundTo_le_iff positive (unrounded memory) 0
  rw [Int.zero_mul] at none
  rw [poolSize_eq range.nonneg,← unrounded_pos_iff range,← Int.not_le,none,Int.not_le]

/-- Everything but the sign holds at every size. -/
theorem aligned_iff {memory : Int} (range : InRange memory) : Aligned memory ↔ memory ≠ changeOver := by
  refine ⟨fun aligned => (poolSize_pos_iff range).mp aligned.positive,fun other => ?_⟩
  obtain ⟨_,_,whole⟩ := roundTo_bounds (show (0 : Int) < 128 * bytes1MiB by decide) (unrounded memory)
  rw [← poolSize_eq range.nonneg,bytes1MiB] at whole
  have pool := (poolSize_pos_iff range).mpr other
  by_cases large : poolSize memory > bytes1GiB
  · have chunk : chunkSize memory = poolSize memory / 8 := by rw [chunkSize_eq range.nonneg,if_pos large]
    have eight : poolSize memory = poolSize memory / 8 * 8 := by omega
    refine ⟨?_,pool,?_,?_,poolSize_lt range⟩
    · rw [chunk,bytes1MiB]
      omega
    · rw [chunk]
      exact Int.emod_eq_zero_of_dvd ⟨8,eight⟩
    · rw [chunk]
      omega
  · have chunk : chunkSize memory = 128 * bytes1MiB := by rw [chunkSize_eq range.nonneg,if_neg large]
    refine ⟨by rw [chunk]; decide,pool,by rw [chunk]; exact whole,?_,poolSize_lt range⟩
    rw [chunk,bytes1MiB]
    rw [bytes1GiB] at large
    omega

theorem aligned_iff_2GiB : InRange (2 * bytes1GiB) ∧ (Aligned (2 * bytes1GiB) ↔ 2 * bytes1GiB ≠ changeOver) :=
  ⟨⟨by decide,by decide⟩,aligned_iff ⟨by decide,by decide⟩⟩

/-- A pool of nothing. -/
theorem changeOver_empty : InRange changeOver ∧ poolSize changeOver = 0 ∧ ¬ Aligned changeOver :=
  ⟨⟨by decide,by decide⟩,by decide,fun aligned => absurd aligned.positive (by decide)⟩

end MysqlOperators.BufferPool
