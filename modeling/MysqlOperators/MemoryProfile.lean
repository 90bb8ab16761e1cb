import MysqlOperators.Config

/-!
The memory of the production profile. Below 4/3 GiB half of the memory goes to the
pool and the message cache is set to 128 MiB; from there on three quarters, less
the default cache of 1 GiB, go to the pool. Sizes are rounded up to multiples of
their chunks.
-/
namespace MysqlOperators.MemoryProfile
open MysqlOperators.External MysqlOperators.Config

/-! ### Rounding -/

theorem roundTo_bounds {step : Int} (positive : 0 < step) (size : Int) :
    size ≤ roundTo size step ∧ roundTo size step < size + step ∧ roundTo size step % step = 0 := by
  have low := Int.emod_nonneg size (show step ≠ 0 by omega)
  have high := Int.emod_lt_of_pos size positive
  unfold roundTo
  split
  · rename_i rest
    refine ⟨by omega,by omega,?_⟩
    have whole : size + (step - size % step) = step * (size / step + 1) := by
      have parts := Int.mul_ediv_add_emod size step
      rw [Int.mul_add,Int.mul_one]
      omega
    rw [whole]
    exact Int.mul_emod_right step _
  · rename_i rest
    refine ⟨by omega,by omega,?_⟩
    simpa using rest

/-! ### The pool -/

/-- The message cache is set along with the pool. -/
def cacheChosen (memory : Int) : Bool := memory * 3 / 4 < bytes1GiB

theorem cacheChosen_iff (memory : Int) : cacheChosen memory = true ↔ memory * 3 / 4 < 1073741824 := decide_eq_true_iff

theorem cacheChosen_false (memory : Int) : cacheChosen memory = false ↔ 1073741824 ≤ memory * 3 / 4 := by
  rw [← Bool.not_eq_true,cacheChosen_iff,Int.not_lt]

theorem calculateBufferPool_small {memory : Int} (nonneg : 0 ≤ memory) (small : cacheChosen memory = true) :
    calculateBufferPool memory = (roundTo (memory / 2) (bytes1MiB * 128),none,some (bytes1MiB * 128)) := by
  rw [cacheChosen_iff] at small
  obtain ⟨_,high,_⟩ := roundTo_bounds (show (0 : Int) < 134217728 by omega) (memory / 2)
  have three : (memory * 3).tdiv 4 = memory * 3 / 4 := Int.tdiv_eq_ediv_of_nonneg (by omega)
  have half : memory.tdiv 2 = memory / 2 := Int.tdiv_eq_ediv_of_nonneg nonneg
  have first : memory * 3 / 4 - 1073741824 < 0 ∨ memory - (memory * 3 / 4 - 1073741824) < 1073741824 := .inl (by omega)
  have unchunked : ¬ roundTo (memory / 2) (1048576 * 128) > 1073741824 := by
    show ¬ roundTo (memory / 2) 134217728 > 1073741824
    omega
  simp only [calculateBufferPool,bytes1GiB,bytes1MiB,three,half,if_pos first,if_neg unchunked]

theorem calculateBufferPool_large {memory : Int} (large : cacheChosen memory = false) :
    ∃ poolSize poolChunkSize, calculateBufferPool memory = (poolSize,poolChunkSize,none) ∧
      memory * 3 / 4 - bytes1GiB ≤ poolSize ∧ poolSize < memory * 3 / 4 - bytes1GiB + 136 * bytes1MiB := by
  rw [cacheChosen_false] at large
  have three : (memory * 3).tdiv 4 = memory * 3 / 4 := Int.tdiv_eq_ediv_of_nonneg (by omega)
  have second : ¬ (memory * 3 / 4 - 1073741824 < 0 ∨ memory - (memory * 3 / 4 - 1073741824) < 1073741824) := by omega
  obtain ⟨low,high,_⟩ :=
    roundTo_bounds (show (0 : Int) < 1048576 * 128 by omega) (memory * 3 / 4 - 1073741824)
  generalize rounded : roundTo (memory * 3 / 4 - 1073741824) (1048576 * 128) = poolSize at low high
  simp only [calculateBufferPool,bytes1GiB,bytes1MiB,three,if_neg second,rounded]
  split
  · have eighth : poolSize.tdiv 8 = poolSize / 8 := Int.tdiv_eq_ediv_of_nonneg (by omega)
    obtain ⟨low',high',_⟩ := roundTo_bounds (show (0 : Int) < 1048576 by omega) (poolSize / 8)
    rw [eighth]
    exact ⟨_,_,rfl,by omega,by omega⟩
  · exact ⟨_,_,rfl,by omega,by omega⟩

theorem remainingMemory_small {memory : Int} (nonneg : 0 ≤ memory) (small : cacheChosen memory = true) :
    remainingMemory memory = memory - (roundTo (memory / 2) (bytes1MiB * 128) + bytes1MiB * 128) := by
  rw [remainingMemory,calculateBufferPool_small nonneg small]
  rfl

/-! ### The budget -/

/-- The pool, the cache and 12 MiB for each connection. -/
def granted (config : ServerConfig) : Int :=
  intAt config "innodb_buffer_pool_size" + intAt config "loose-group_replication_message_cache_size" +
    intAt config "max_connections" * (12 * bytes1MiB)

/-- The number of connections is computed, and was raised to its floor. -/
def raisedToFloor (maxConnections : Option Int) (memory : Int) : Bool :=
  maxConnections.isNone && decide (calculateMaxConnections (remainingMemory memory) < minConns)

/-- What is granted fits in the memory, unless the connections were raised. -/
def WithinBudget (s : Substrate) (maxConnections : Option Int) (memory : Int) : Prop :=
  raisedToFloor maxConnections memory = false → granted (getProductionConfig s maxConnections memory) ≤ memory

/-- The cache of a choice of `calculate_buffer_pool`. -/
def cacheOf (chosen : Int × Option Int × Option Int) : Int := (nonZero chosen.2.2).getD (1 * bytes1GiB)

theorem granted_sizes (s : Substrate) (maxConnections : Option Int) (memory : Int) :
    granted (getProductionConfig s maxConnections memory) =
      (productionSizes maxConnections memory).poolSize + (productionSizes maxConnections memory).messageCacheSize +
        (productionSizes maxConnections memory).maxConnections * (12 * bytes1MiB) := rfl

theorem granted_production (s : Substrate) (maxConnections : Option Int) (memory : Int) :
    granted (getProductionConfig s maxConnections memory) =
      (calculateBufferPool (availableMemory maxConnections memory)).1 +
        cacheOf (calculateBufferPool (availableMemory maxConnections memory)) +
        (nonZero maxConnections).getD
          (max (calculateMaxConnections (remainingMemory (availableMemory maxConnections memory))) minConns) *
          (12 * bytes1MiB) := by
  rw [granted_sizes]
  rfl

/-- Half of the memory and the small cache leave room for the rounding. -/
theorem pool_fits {memory : Int} (enough : 384 * bytes1MiB ≤ memory) :
    roundTo (memory / 2) (bytes1MiB * 128) + bytes1MiB * 128 ≤ memory := by
  simp only [bytes1MiB] at enough ⊢
  obtain ⟨_,high,whole⟩ := roundTo_bounds (show (0 : Int) < 1048576 * 128 by omega) (memory / 2)
  omega

theorem nonZero_accepted {n : Int} (accepted : 10 ≤ n) : nonZero (some n) = some n := by
  unfold nonZero
  split
  · rename_i same
    cases same
    omega
  · rfl

/-- A pool and a cache that are chosen within the memory that the connections leave. -/
theorem sizes_fit {memory : Int} (enough : 384 * bytes1MiB ≤ memory) :
    (calculateBufferPool memory).1 + cacheOf (calculateBufferPool memory) ≤ memory := by
  by_cases small : cacheChosen memory = true
  · have fits := pool_fits enough
    rw [calculateBufferPool_small (by simp only [bytes1MiB] at enough; omega) small]
    exact fits
  · obtain ⟨poolSize,poolChunkSize,same,_,high⟩ := calculateBufferPool_large (by simpa using small)
    rw [Bool.not_eq_true,cacheChosen_false] at small
    rw [same]
    simp only [cacheOf,nonZero,Option.getD_none,bytes1GiB,bytes1MiB] at high ⊢
    omega

theorem withinBudget_set (s : Substrate) {n memory : Int} (accepted : 10 ≤ n)
    (enough : 384 * bytes1MiB ≤ availableMemory (some n) memory) : WithinBudget s (some n) memory := by
  intro _
  have set := nonZero_accepted accepted
  have available : availableMemory (some n) memory = memory - n * 12 * bytes1MiB := by
    simp only [availableMemory,set,minMemory,bytes1MiB] at enough ⊢
    omega
  have fits := sizes_fit enough
  rw [granted_production,set,Option.getD_some]
  rw [available] at fits ⊢
  simp only [bytes1MiB] at fits ⊢
  omega

theorem withinBudget_small (s : Substrate) {memory : Int} (enough : 384 * bytes1MiB ≤ memory)
    (small : cacheChosen memory = true) : WithinBudget s none memory := by
  intro computed
  have nonneg : 0 ≤ memory := by simp only [bytes1MiB] at enough; omega
  have left := remainingMemory_small nonneg small
  simp only [raisedToFloor,Option.isNone_none,Bool.true_and,decide_eq_false_iff_not,Int.not_lt] at computed
  have cache : cacheOf (roundTo (memory / 2) (bytes1MiB * 128),none,some (bytes1MiB * 128)) = bytes1MiB * 128 := rfl
  rw [granted_production]
  simp only [availableMemory,nonZero,Option.getD_none,calculateBufferPool_small nonneg small,cache,
    Int.max_eq_left computed]
  simp only [calculateMaxConnections,left,bytes1MiB]
  omega

/-- The default cache is filled in after the connections have taken all the rest. -/
theorem exceeds_large (s : Substrate) {memory : Int} (large : cacheChosen memory = false) :
    ¬ WithinBudget s none memory := by
  obtain ⟨poolSize,poolChunkSize,same,low,high⟩ := calculateBufferPool_large large
  rw [cacheChosen_false] at large
  have left : remainingMemory memory = memory - poolSize := by
    rw [remainingMemory,same]
    simp [nonZero]
  have computed : minConns ≤ calculateMaxConnections (remainingMemory memory) := by
    simp only [bytes1GiB,bytes1MiB] at high
    simp only [calculateMaxConnections,left,bytes1MiB,minConns]
    omega
  intro within
  have fits := within (by simp [raisedToFloor,Int.not_lt.mpr computed])
  rw [granted_production] at fits
  simp only [availableMemory,cacheOf,nonZero,Option.getD_none,same,Int.max_eq_left computed] at fits
  simp only [calculateMaxConnections,left,bytes1MiB,bytes1GiB] at fits
  omega

/-- With 384 MiB or more to share, what is granted fits exactly when the number of
    connections is set or the memory is so small that the cache is set as well. -/
theorem withinBudget_iff (s : Substrate) (maxConnections : Option Int) (memory : Nat)
    (accepted : ∀ n, maxConnections = some n → 10 ≤ n)
    (enough : 384 * bytes1MiB ≤ availableMemory maxConnections memory) :
    WithinBudget s maxConnections memory ↔ maxConnections.isSome = true ∨ cacheChosen memory = true := by
  cases maxConnections with
  | some n => simpa using withinBudget_set s (accepted n rfl) enough
  | none =>
    have enough : 384 * bytes1MiB ≤ (memory : Int) := enough
    by_cases small : cacheChosen memory = true
    · simpa [small] using withinBudget_small s enough small
    · simpa [small] using exceeds_large s (by simpa using small)

theorem withinBudget_iff_8GiB :
    384 * bytes1MiB ≤ availableMemory (some 100) (8589934592 : Nat) ∧
      (WithinBudget .vm (some 100) (8589934592 : Nat) ↔
        (some (100 : Int)).isSome = true ∨ cacheChosen (8589934592 : Nat) = true) :=
  ⟨by decide,withinBudget_iff .vm (some 100) 8589934592 (by simp) (by decide)⟩

/-- Of 2 GiB, 512 MiB go to the pool, 1 GiB to the cache and 1536 MiB to 128
    connections. -/
theorem exceeds_2GiB :
    384 * bytes1MiB ≤ availableMemory none (2147483648 : Nat) ∧
      granted (getProductionConfig .vm none (2147483648 : Nat)) = 3072 * bytes1MiB ∧
      ¬ WithinBudget .vm none (2147483648 : Nat) :=
  ⟨by decide,by decide,exceeds_large .vm (by decide)⟩

/-! ### The limit -/

/-- The sizes of the smallest pool and cache. -/
def leastSizes (maxConnections : Option Int) : Sizes :=
  ⟨128 * bytes1MiB,128 * bytes1MiB,128 * bytes1MiB,(nonZero maxConnections).getD minConns⟩

theorem calculateBufferPool_least {memory : Int} (some_ : 2 ≤ memory) (least : memory ≤ 256 * bytes1MiB + 1) :
    calculateBufferPool memory = (128 * bytes1MiB,none,some (bytes1MiB * 128)) := by
  simp only [bytes1MiB] at least
  have small : cacheChosen memory = true := (cacheChosen_iff memory).mpr (by omega)
  have rounded : roundTo (memory / 2) (bytes1MiB * 128) = 128 * bytes1MiB := by
    obtain ⟨low,high,whole⟩ := roundTo_bounds (show (0 : Int) < bytes1MiB * 128 by decide) (memory / 2)
    simp only [bytes1MiB] at low high whole ⊢
    omega
  rw [calculateBufferPool_small (by omega) small,rounded]

theorem sizes_least_iff {maxConnections : Option Int} {memory : Int}
    (some_ : 2 ≤ availableMemory maxConnections memory) :
    productionSizes maxConnections memory = leastSizes maxConnections ↔
      availableMemory maxConnections memory ≤ 256 * bytes1MiB + 1 := by
  generalize available : availableMemory maxConnections memory = left at some_ ⊢
  constructor
  · intro same
    have pool : (calculateBufferPool left).1 = 128 * bytes1MiB := by
      rw [← available]
      exact congrArg Sizes.poolSize same
    have cache : cacheOf (calculateBufferPool left) = 128 * bytes1MiB := by
      rw [← available]
      exact congrArg Sizes.messageCacheSize same
    by_cases small : cacheChosen left = true
    · rw [calculateBufferPool_small (by omega) small] at pool
      obtain ⟨low,_,_⟩ := roundTo_bounds (show (0 : Int) < bytes1MiB * 128 by decide) (left / 2)
      simp only [bytes1MiB] at low pool ⊢
      omega
    · obtain ⟨_,_,chosen,_⟩ := calculateBufferPool_large (by simpa using small)
      rw [chosen] at cache
      exact absurd cache (by simp [cacheOf,nonZero,bytes1GiB,bytes1MiB])
  · intro least
    have chosen := calculateBufferPool_least some_ least
    have remaining : remainingMemory left = left - 256 * bytes1MiB := by
      rw [remainingMemory,chosen]
      rfl
    have computed : calculateMaxConnections (remainingMemory left) ≤ minConns := by
      simp only [calculateMaxConnections,remaining,bytes1MiB,minConns] at least ⊢
      omega
    simp only [productionSizes,available,chosen,leastSizes,Int.max_eq_right computed]
    rfl

theorem production_inj (s : Substrate) (maxConnections : Option Int) (memory memory' : Int) :
    getProductionConfig s maxConnections memory = getProductionConfig s maxConnections memory' ↔
      productionSizes maxConnections memory = productionSizes maxConnections memory' := by
  constructor
  · intro same
    simp only [getProductionConfig,List.cons.injEq,Prod.mk.injEq,Value.int.injEq,true_and,and_true] at same
    obtain ⟨pool,chunk,cache,connections⟩ := same
    cases h : productionSizes maxConnections memory
    cases h' : productionSizes maxConnections memory'
    simp_all
  · intro same
    rw [getProductionConfig,getProductionConfig,same]

theorem configFor_inj (s : Substrate) (c : CharmConfig) (production : c.profile = .prod) (address : String)
    (limit limit' : Option Int) (memory memory' : Int) :
    configFor s { c with profileLimitMemory := limit } address memory =
        configFor s { c with profileLimitMemory := limit' } address memory' ↔
      productionSizes c.maxConnections (limitedMemory limit memory) =
        productionSizes c.maxConnections (limitedMemory limit' memory') := by
  simp only [configFor,buildServerConfig,production,profileConfig,List.append_cancel_left_eq,
    List.append_cancel_right_eq]
  exact production_inj s _ _ _

section
variable {maxConnections : Option Int} (accepted : ∀ n, maxConnections = some n → 10 ≤ n)
include accepted

theorem availableMemory_enough {memory : Int} (some_ : 2 ≤ memory) : 2 ≤ availableMemory maxConnections memory := by
  cases maxConnections with
  | none => exact some_
  | some n =>
    simp only [availableMemory,nonZero_accepted (accepted n rfl),minMemory,bytes1MiB]
    omega

theorem availableMemory_least_iff (memory : Int) :
    availableMemory maxConnections memory ≤ 256 * bytes1MiB + 1 ↔
      memory ≤ 256 * bytes1MiB + 1 + maxConnections.getD 0 * 12 * bytes1MiB := by
  cases maxConnections with
  | none => simp [availableMemory,nonZero]
  | some n =>
    simp only [availableMemory,nonZero_accepted (accepted n rfl),minMemory,bytes1MiB,Option.getD_some]
    omega

end

/-- With settings that the charm accepts, the limit counts as megabytes exactly when
    these leave no more than the smallest sizes need. -/
theorem limit_megabytes_iff (s : Substrate) (c : CharmConfig) (address : String) (memory megabyte : Nat) (limit : Int)
    (accepted : c.Accepted) (production : c.profile = .prod) (limited : c.profileLimitMemory = some limit)
    (unit : 0 < megabyte) :
    configFor s c address memory =
        configFor s { c with profileLimitMemory := none } address (min (memory : Int) (limit * megabyte)) ↔
      min (memory : Int) (limit * megabyte) ≤ 256 * bytes1MiB + 1 + c.maxConnections.getD 0 * 12 * bytes1MiB := by
  obtain ⟨connections,limits,_⟩ := (CharmConfig.accepted_iff c).mp accepted
  obtain ⟨low,high⟩ := limits limit limited
  have more : limit ≤ limit * megabyte := by
    have grows := Int.mul_le_mul_of_nonneg_left (show (1 : Int) ≤ megabyte by omega) (show 0 ≤ limit by omega)
    omega
  have own : { c with profileLimitMemory := some limit } = c := by rw [← limited]
  have bytes : limitedMemory (some limit) memory = min (memory : Int) limit := by
    have set : nonZero (some limit) = some limit := nonZero_accepted (by omega)
    simp only [limitedMemory,set]
  have sizes := configFor_inj s c production address (some limit) none memory (min (memory : Int) (limit * megabyte))
  rw [own,bytes] at sizes
  rw [sizes,← availableMemory_least_iff connections]
  simp only [limitedMemory,nonZero]
  -- an accepted limit, which counts bytes, is less than what the smallest pool needs
  have small : limit ≤ 256 * bytes1MiB + 1 + c.maxConnections.getD 0 * 12 * bytes1MiB := by
    simp only [bytes1MiB]
    cases h : c.maxConnections with
    | none => simp; omega
    | some n =>
      have := connections n h
      simp only [Option.getD_some]
      omega
  by_cases within : (memory : Int) ≤ limit
  · rw [Int.min_eq_left within,Int.min_eq_left (by omega),availableMemory_least_iff connections]
    exact iff_of_true rfl (Int.le_trans within small)
  · have smallest : productionSizes c.maxConnections limit = leastSizes c.maxConnections := by
      refine (sizes_least_iff (availableMemory_enough connections (by omega))).mpr ?_
      exact (availableMemory_least_iff connections _).mpr small
    rw [Int.min_eq_right (show limit ≤ memory by omega),smallest,eq_comm]
    exact sizes_least_iff (availableMemory_enough connections (by omega))

def limitedConfig : CharmConfig := ⟨none,.prod,some 2000,7,.logins,true,.async⟩

theorem limit_megabytes_iff_small :
    limitedConfig.Accepted ∧
      (configFor .vm limitedConfig "10.0.0.1" (200000000 : Nat) =
          configFor .vm { limitedConfig with profileLimitMemory := none } "10.0.0.1"
            (min ((200000000 : Nat) : Int) (2000 * (1000000 : Nat))) ↔
        min ((200000000 : Nat) : Int) (2000 * (1000000 : Nat)) ≤
          256 * bytes1MiB + 1 + limitedConfig.maxConnections.getD 0 * 12 * bytes1MiB) :=
  ⟨by decide,limit_megabytes_iff .vm limitedConfig "10.0.0.1" 200000000 1000000 2000 (by decide) rfl rfl (by decide)⟩

/-- With 8 GiB of memory and a limit of 2000 megabytes, the pool is the one of 2000
    bytes, and not the one of 2000 megabytes in either meaning of the unit. -/
theorem limit_in_bytes :
    limitedConfig.Accepted ∧
      intAt (configFor .vm limitedConfig "10.0.0.1" (8589934592 : Nat)) "innodb_buffer_pool_size" = 128 * bytes1MiB ∧
      [1000000,1048576].all (fun megabyte =>
        intAt (configFor .vm { limitedConfig with profileLimitMemory := none } "10.0.0.1"
          (min ((8589934592 : Nat) : Int) (2000 * megabyte))) "innodb_buffer_pool_size" == 512 * bytes1MiB) = true ∧
      [1000000,1048576].all (fun megabyte => configFor .vm limitedConfig "10.0.0.1" (8589934592 : Nat) !=
        configFor .vm { limitedConfig with profileLimitMemory := none } "10.0.0.1"
          (min ((8589934592 : Nat) : Int) (2000 * megabyte))) = true :=
  ⟨by decide,by decide +kernel,by decide +kernel,by decide +kernel⟩

end MysqlOperators.MemoryProfile
