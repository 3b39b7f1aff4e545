import CloudTrail.Basic

/-! `chunkListOrigin` cuts the cursor list into chunks of `chunkSize` cursors, the last one possibly
shorter. -/

namespace CloudTrail

variable {α : Type}

/-- The `for prev < till` loop of `chunkListOrigin`. `fuel` bounds its iterations; the loop
stops before the fuel `len(orgList)` runs out (`chunkLoop_eq`). -/
def chunkLoop (orgList : List α) (chunkSize till : Int) :
    Nat → Int → Int → List (List α) → GoResult (Int × Int × List (List α))
  | 0, prev, i, divided => .ok (prev, i, divided)
  | fuel + 1, prev, i, divided =>
    if prev < till then do
      let next := prev + chunkSize
      let chunk ← goSlice orgList prev next
      let divided ← goSet divided i chunk
      chunkLoop orgList chunkSize till fuel next (i + 1) divided
    else .ok (prev, i, divided)

/-- `chunkListOrigin(orgList, chunkSize)`; `nil` is the empty list. -/
def chunkListOrigin (orgList : List α) (chunkSize : Int) : GoResult (List (List α)) :=
  if orgList.length = 0 ∨ chunkSize < 1 then .ok []
  else do
    let divided := List.replicate ((orgList.length + chunkSize - 1) / chunkSize).toNat []
    let (prev, i, divided) ←
      chunkLoop orgList chunkSize (orgList.length - chunkSize) orgList.length 0 0 divided
    let last ← goSlice orgList prev orgList.length
    goSet divided i last

/-- The first `k` chunks of size `c`: the `j`-th is `l[j*c : j*c+c]`. -/
def firstChunks (c : Nat) (l : List α) (k : Nat) : List (List α) :=
  (List.range k).map fun j => (l.drop (j * c)).take c

/-- The number of chunks, `⌈n / c⌉`, as `chunkListOrigin` allocates them. -/
def chunkCount (c n : Nat) : Nat := (n + c - 1) / c

/-- The partition of `l` into full chunks of size `c` and a last, shorter or full, one. -/
def chunkSpec (c : Nat) (l : List α) : List (List α) :=
  firstChunks c l (chunkCount c l.length - 1) ++ [l.drop ((chunkCount c l.length - 1) * c)]

theorem firstChunks_succ (c : Nat) (l : List α) (k : Nat) :
    firstChunks c l (k + 1) = firstChunks c l k ++ [(l.drop (k * c)).take c] := by
  simp [firstChunks, List.range_succ]

@[simp] theorem length_firstChunks (c : Nat) (l : List α) (k : Nat) :
    (firstChunks c l k).length = k := by
  simp [firstChunks]

theorem flatten_firstChunks (c : Nat) (l : List α) (k : Nat) :
    (firstChunks c l k).flatten = l.take (k * c) := by
  induction k with
  | zero => simp [firstChunks]
  | succ k ih => rw [firstChunks_succ, List.flatten_append, ih, Nat.succ_mul, List.take_add]; simp

theorem set_firstChunks (c : Nat) (l : List α) {k K : Nat} (h : k < K) :
    (firstChunks c l k ++ List.replicate (K - k) []).set k ((l.drop (k * c)).take c) =
      firstChunks c l (k + 1) ++ List.replicate (K - (k + 1)) [] := by
  obtain ⟨r, hr⟩ : ∃ r, K - k = r + 1 := ⟨K - k - 1, by omega⟩
  rw [hr, List.set_append_right _ _ (by simp), firstChunks_succ, show K - (k + 1) = r by omega]
  simp [List.replicate_succ]

theorem chunkCount_bounds {c n : Nat} (hc : 0 < c) (hn : 0 < n) :
    ∃ m, chunkCount c n = m + 1 ∧ m * c < n ∧ n ≤ m * c + c := by
  have h1 := Nat.div_add_mod (n + c - 1) c
  have h2 := Nat.mod_lt (n + c - 1) hc
  obtain ⟨m, hm⟩ : ∃ m, (n + c - 1) / c = m + 1 := ⟨(n + c - 1) / c - 1, by
    have : c ≤ n + c - 1 := by omega
    have := Nat.div_pos this hc; omega⟩
  refine ⟨m, hm, ?_, ?_⟩ <;> rw [hm, Nat.mul_succ, Nat.mul_comm] at h1 <;> omega

variable (l : List α) {c m : Nat}

theorem chunkLoop_eq (hm : m * c < l.length) (hm' : l.length ≤ m * c + c)
    {K : Nat} (hK : m < K) :
    ∀ fuel k, k ≤ m → m - k ≤ fuel →
      chunkLoop l c (l.length - c) fuel ((k * c : Nat) : Int) k
          (firstChunks c l k ++ List.replicate (K - k) []) =
        .ok (((m * c : Nat) : Int), m, firstChunks c l m ++ List.replicate (K - m) []) := by
  intro fuel
  induction fuel with
  | zero =>
    intro k hk h
    obtain rfl : k = m := by omega
    rfl
  | succ fuel ih =>
    intro k hk h
    by_cases hlt : k < m
    · have hkc : (k + 1) * c ≤ m * c := Nat.mul_le_mul_right c hlt
      rw [Nat.succ_mul] at hkc
      have hcont : ((k * c : Nat) : Int) < l.length - c := by omega
      simp only [chunkLoop, if_pos hcont]
      rw [goSlice_ok _ (by omega) (by omega) (by omega), GoResult.bind_ok,
        goSet_ok _ _ (by omega) (by simp; omega), GoResult.bind_ok]
      simp only [Int.toNat_natCast, add_sub_cancel_left]
      rw [set_firstChunks c l (by omega), show ((k * c : Nat) : Int) + c = (((k + 1) * c : Nat) : Int)
        by push_cast; ring, show (k : Int) + 1 = ((k + 1 : Nat) : Int) by push_cast; ring]
      exact ih (k + 1) (by omega) (by omega)
    · obtain rfl : k = m := by omega
      have : ¬((k * c : Nat) : Int) < l.length - c := by omega
      simp only [chunkLoop, if_neg this]

theorem chunkListOrigin_eq (hl : l ≠ []) (hc : 0 < c) :
    chunkListOrigin l c = .ok (chunkSpec c l) := by
  have hn : 0 < l.length := List.length_pos.mpr hl
  obtain ⟨m, hK, hm, hm'⟩ := chunkCount_bounds hc hn
  have hdiv : (((l.length : Int) + c - 1) / c).toNat = m + 1 := by
    rw [show (l.length : Int) + c - 1 = ((l.length + c - 1 : Nat) : Int) by omega]
    exact_mod_cast hK
  have hmc : m ≤ m * c := Nat.le_mul_of_pos_right m hc
  have hloop := chunkLoop_eq l hm hm' (K := m + 1) (by omega) l.length 0 (by omega) (by omega)
  simp only [Nat.zero_mul, Nat.cast_zero, firstChunks, List.range_zero, List.map_nil,
    List.nil_append, Nat.sub_zero] at hloop
  simp only [chunkListOrigin, List.length_eq_zero, hl, false_or, show ¬((c : Int) < 1) by omega,
    if_false, hdiv]
  rw [hloop, GoResult.bind_ok]
  simp only
  rw [goSlice_ok _ (by omega) (by omega) le_rfl, GoResult.bind_ok,
    goSet_ok _ _ (by omega) (by simp), Int.toNat_natCast, Int.toNat_natCast,
    List.take_of_length_le (by simp; omega)]
  simp [chunkSpec, hK, firstChunks, List.set_append_right]

theorem flatten_chunkSpec (c : Nat) : (chunkSpec c l).flatten = l := by
  simp [chunkSpec, flatten_firstChunks]

theorem length_le_of_mem_chunkSpec (hl : l ≠ []) (hc : 0 < c) {ch : List α}
    (h : ch ∈ chunkSpec c l) : ch.length ≤ c := by
  obtain ⟨m, hK, hm, hm'⟩ := chunkCount_bounds hc (List.length_pos.mpr hl)
  simp only [chunkSpec, hK, Nat.add_sub_cancel, List.mem_append, List.mem_singleton,
    firstChunks, List.mem_map] at h
  rcases h with ⟨j, -, rfl⟩ | rfl
  · simp
  · simp; omega

theorem ne_nil_of_mem_chunkSpec (hl : l ≠ []) (hc : 0 < c) {ch : List α}
    (h : ch ∈ chunkSpec c l) : ch ≠ [] := by
  obtain ⟨m, hK, hm, -⟩ := chunkCount_bounds hc (List.length_pos.mpr hl)
  simp only [chunkSpec, hK, Nat.add_sub_cancel, List.mem_append, List.mem_singleton,
    firstChunks, List.mem_map, List.mem_range] at h
  have hjm : ∀ j < m, j * c < l.length := fun j hj =>
    lt_of_le_of_lt (Nat.mul_le_mul_right c hj.le) hm
  rcases h with ⟨j, hj, rfl⟩ | rfl
  · simp only [ne_eq, List.take_eq_nil_iff, List.drop_eq_nil_iff, not_or]
    exact ⟨by omega, by have := hjm j hj; omega⟩
  · simp only [ne_eq, List.drop_eq_nil_iff]; omega

theorem length_of_mem_dropLast_chunkSpec (hl : l ≠ []) (hc : 0 < c) {ch : List α}
    (h : ch ∈ (chunkSpec c l).dropLast) : ch.length = c := by
  obtain ⟨m, hK, hm, -⟩ := chunkCount_bounds hc (List.length_pos.mpr hl)
  simp only [chunkSpec, hK, Nat.add_sub_cancel, List.dropLast_concat, firstChunks, List.mem_map,
    List.mem_range] at h
  obtain ⟨j, hj, rfl⟩ := h
  have : (j + 1) * c ≤ m * c := Nat.mul_le_mul_right c hj
  simp only [List.length_take, List.length_drop, Nat.succ_mul] at this ⊢
  omega

/-- `chunkListOrigin` on a list of length `n` and a chunk size `c`: `nil` when `n = 0` or
`c < 1`; otherwise, without an index panic, `⌈n / c⌉` non-empty chunks of at most `c` elements,
all but the last full, which read in order are the list. -/
theorem chunkListOrigin_partitions (c : Int) :
    (l = [] ∨ c < 1 → chunkListOrigin l c = .ok []) ∧
    (l ≠ [] → 1 ≤ c → ∃ chunks, chunkListOrigin l c = .ok chunks ∧
      ((chunks.length : Int) - 1) * c < l.length ∧ (l.length : Int) ≤ chunks.length * c ∧
      (∀ ch ∈ chunks, ch ≠ [] ∧ (ch.length : Int) ≤ c) ∧
      (∀ ch ∈ chunks.dropLast, (ch.length : Int) = c) ∧ chunks.flatten = l) := by
  refine ⟨fun h => ?_, fun hl hc => ?_⟩
  · simp only [chunkListOrigin]
    rw [if_pos (h.imp_left List.length_eq_zero.mpr)]
  obtain ⟨k, rfl⟩ := Int.eq_ofNat_of_zero_le (by omega : (0 : Int) ≤ c)
  have hk : 0 < k := by omega
  obtain ⟨m, hK, hm, hm'⟩ := chunkCount_bounds hk (List.length_pos.mpr hl)
  have hlen : (chunkSpec k l).length = m + 1 := by simp [chunkSpec, hK]
  refine ⟨chunkSpec k l, chunkListOrigin_eq l hl hk, ?_, ?_,
    fun ch h => ⟨ne_nil_of_mem_chunkSpec l hl hk h, by
      exact_mod_cast length_le_of_mem_chunkSpec l hl hk h⟩,
    fun ch h => by exact_mod_cast length_of_mem_dropLast_chunkSpec l hl hk h,
    flatten_chunkSpec l k⟩
  · rw [hlen, show ((m + 1 : Nat) : Int) - 1 = m by omega]; exact_mod_cast hm
  · rw [hlen]; exact_mod_cast (by rw [Nat.succ_mul]; exact hm' : l.length ≤ (m + 1) * k)

/-- Five cursors in chunks of two: `[1, 2]`, `[3, 4]`, `[5]`. -/
theorem chunkListOrigin_partitions_five :
    chunkListOrigin [1, 2, 3, 4, 5] 0 = .ok [] ∧
    ∃ chunks, chunkListOrigin [1, 2, 3, 4, 5] 2 = .ok chunks ∧
      ((chunks.length : Int) - 1) * 2 < [1, 2, 3, 4, 5].length ∧
      ([1, 2, 3, 4, 5].length : Int) ≤ chunks.length * 2 ∧
      (∀ ch ∈ chunks, ch ≠ [] ∧ (ch.length : Int) ≤ 2) ∧
      (∀ ch ∈ chunks.dropLast, (ch.length : Int) = 2) ∧ chunks.flatten = [1, 2, 3, 4, 5] :=
  ⟨(chunkListOrigin_partitions [1, 2, 3, 4, 5] 0).1 (.inr (by decide)),
    (chunkListOrigin_partitions [1, 2, 3, 4, 5] 2).2 (by decide) (by decide)⟩

end CloudTrail
