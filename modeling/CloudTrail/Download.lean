import CloudTrail.OpenS3

/-! `readNextFileS3` and the batch it downloads, whose outcome every interleaving of the batch's
goroutines agrees with. -/

namespace CloudTrail

/-- The accesses of `s3Download(downloader, name, dloadSlotNum)` in the `b`-th batch: the write
of its slot, or the send of its error. -/
def s3DownloadOps (env : Env) (b : Nat) (bucket name : String) (dloadSlotNum : Nat) : List Op :=
  match env.download b dloadSlotNum bucket name with
  | .ok bytes => [.put dloadSlotNum bytes]
  | .error e => [.send e]

/-- The goroutines of the `b`-th batch: the one of slot `j` downloads the batch's `j`-th file. -/
def downloadProgs (env : Env) (b : Nat) (bucket : String) (batch : List FileInfo) :
    List (List Op) :=
  batch.mapIdx fun j f => s3DownloadOps env b bucket f.name j

/-- Slot `j` after the batch: the downloaded bytes if its download succeeded, else `old`. -/
def slotAfter (env : Env) (b : Nat) (bucket : String) (batch : List FileInfo) (j : Nat)
    (old : Bytes) : Bytes :=
  match batch[j]? with
  | some f =>
    match env.download b j bucket f.name with
    | .ok bytes => bytes
    | .error _ => old
  | none => old

/-- The slots after the batch. -/
def filledBufs (env : Env) (b : Nat) (bucket : String) (batch : List FileInfo)
    (bufs : List Bytes) : List Bytes :=
  bufs.mapIdx (slotAfter env b bucket batch)

/-- The error of a failed download of the batch, the first in slot order. Which failed
download's error `select` receives depends on the interleaving, and slot order is one of them
(`downloadBatch_interleavings`); the state does not depend on it. -/
def firstError (env : Env) (b : Nat) (bucket : String) (batch : List FileInfo) :
    Option ApiErr :=
  (batch.mapIdx fun j f => (j, f)).findSome? fun (j, f) =>
    match env.download b j bucket f.name with
    | .ok _ => none
    | .error e => some e

/-- A successful download into a slot past `DownloadBufs` panics its goroutine. -/
def writesPastEnd (env : Env) (b : Nat) (bucket : String) (batch : List FileInfo)
    (bufs : List Bytes) : Bool :=
  (batch.mapIdx fun j f => (j, f)).any fun (j, f) =>
    bufs.length ≤ j && (env.download b j bucket f.name).isOk

/-- What the `b`-th batch leaves: its slots and the error the non-blocking receive gets. -/
def downloadBatch (env : Env) (b : Nat) (bucket : String) (batch : List FileInfo)
    (bufs : List Bytes) : GoResult (List Bytes × Option ApiErr) :=
  if writesPastEnd env b bucket batch bufs then .panic .index
  else .ok (filledBufs env b bucket batch bufs, firstError env b bucket batch)

/-! ## Every interleaving of a batch -/

theorem sendsIn_s3DownloadOps (env : Env) (b : Nat) (bucket name : String) (j : Nat) :
    sendsIn (s3DownloadOps env b bucket name j) =
      if (env.download b j bucket name).isOk then 0 else 1 := by
  unfold s3DownloadOps
  split <;> simp_all [Op.isSend, Except.isOk, Except.toBool]

/-- The slots a wave leaves agree with `target`: each slot holds its target value or still has a
write coming, and every write coming stores the target value. -/
structure SlotsInv (target : List Bytes) (w : Wave) : Prop where
  length_eq : w.bufs.length = target.length
  put_target : ∀ k ∈ w.workers, ∀ s x, Op.put s x ∈ k.ops → s < target.length →
    target[s]? = some x
  slot_eq : ∀ s, w.bufs[s]? = target[s]? ∨
    ∃ (i : Nat) (k : Worker) (x : Bytes), w.workers[i]? = some k ∧ Op.put s x ∈ k.ops

section
variable {target : List Bytes} {w w' : Wave}

theorem pending_put_keep {i : Nat} {op : Op} {ops : List Op} {reg reg' : List FileInfo}
    {d : Bool} (h : w.workers[i]? = some ⟨op :: ops, reg, false⟩) {s : Nat}
    (hop : ∀ x, op ≠ .put s x)
    (hp : ∃ (i : Nat) (k : Worker) (x : Bytes), w.workers[i]? = some k ∧ Op.put s x ∈ k.ops) :
    ∃ (i' : Nat) (k : Worker) (x : Bytes),
      (w.workers.set i ⟨ops, reg', d⟩)[i']? = some k ∧ Op.put s x ∈ k.ops := by
  obtain ⟨i', k, x, hk, hx⟩ := hp
  by_cases hii : i = i'
  · subst hii
    rw [h, Option.some.injEq] at hk
    subst hk
    rcases List.mem_cons.mp hx with hx | hx
    · exact absurd hx.symm (hop x)
    · exact ⟨i, ⟨ops, reg', d⟩, x, by simp [List.getElem?_set, (List.getElem?_eq_some_iff.mp h).1],
        hx⟩
  · exact ⟨i', k, x, by rw [List.getElem?_set_ne hii, hk], hx⟩

theorem SlotsInv.frame (hi : SlotsInv target w) {i : Nat} {op : Op} {ops : List Op}
    {reg reg' : List FileInfo} {d : Bool} (h : w.workers[i]? = some ⟨op :: ops, reg, false⟩)
    (hop : ∀ s x, op ≠ .put s x) (w' : Wave) (hb : w'.bufs = w.bufs)
    (hw : w'.workers = w.workers.set i ⟨ops, reg', d⟩) : SlotsInv target w' := by
  refine ⟨hb ▸ hi.length_eq, ?_, fun s => ?_⟩
  · intro k hk s x hx
    rw [hw] at hk
    rcases List.mem_or_eq_of_mem_set hk with hk | rfl
    · exact hi.put_target k hk s x hx
    · exact hi.put_target _ (List.getElem?_mem h) s x (.tail _ hx)
  · rw [hb, hw]
    exact (hi.slot_eq s).imp_right (pending_put_keep h (hop s))

theorem SlotsInv.step (hi : SlotsInv target w) (h : Step w w') : SlotsInv target w' := by
  cases h with
  | load h => exact hi.frame h (fun _ _ => nofun) _ rfl rfl
  | store h => exact hi.frame h (fun _ _ => nofun) _ rfl rfl
  | send h _ => exact hi.frame h (fun _ _ => nofun) _ rfl rfl
  | @put i slot b ops reg h =>
    refine ⟨by simp [hi.length_eq], ?_, fun s => ?_⟩
    · intro k hk s x hx
      rcases List.mem_or_eq_of_mem_set hk with hk | rfl
      · exact hi.put_target k hk s x hx
      · exact hi.put_target _ (List.getElem?_mem h) s x (.tail _ hx)
    · by_cases hs : slot = s
      · subst hs
        left
        have ht := hi.put_target _ (List.getElem?_mem h) slot b (.head _)
        rw [List.getElem?_set]
        by_cases hl : slot < target.length
        · simp [hi.length_eq, hl, ht hl]
        · simp [hi.length_eq, hl, List.getElem?_eq_none (Nat.le_of_not_lt hl)]
      · simp only [List.getElem?_set_ne hs]
        exact (hi.slot_eq s).imp_right (pending_put_keep h (fun x he => hs (Op.put.inj he).1))
  | @done i reg h =>
    refine ⟨hi.length_eq, ?_, fun s => (hi.slot_eq s).imp_right ?_⟩
    · intro k hk s x hx
      rcases List.mem_or_eq_of_mem_set hk with hk | rfl
      exacts [hi.put_target k hk s x hx, absurd hx (List.not_mem_nil _)]
    · rintro ⟨i', k, x, hk, hx⟩
      by_cases hii : i = i'
      · subst hii
        rw [h, Option.some.injEq] at hk
        subst hk
        exact absurd hx (List.not_mem_nil _)
      · exact ⟨i', k, x, by rw [List.getElem?_set_ne hii, hk], hx⟩

theorem SlotsInv.reach (hi : SlotsInv target w) (h : Relation.ReflTransGen Step w w') :
    SlotsInv target w' := by
  induction h with
  | refl => exact hi
  | tail _ hs ih => exact ih.step hs

end

variable (env : Env) (b : Nat) (bucket : String) (batch : List FileInfo) (bufs : List Bytes)

theorem getElem?_filledBufs (s : Nat) :
    (filledBufs env b bucket batch bufs)[s]? = bufs[s]?.map (slotAfter env b bucket batch s) := by
  simp [filledBufs, List.getElem?_mapIdx]

@[simp] theorem length_filledBufs :
    (filledBufs env b bucket batch bufs).length = bufs.length := by
  simp [filledBufs]

theorem slotsInv_start (files : List FileInfo) (cap : Nat) :
    SlotsInv (filledBufs env b bucket batch bufs)
      (Wave.start files bufs cap (downloadProgs env b bucket batch)) := by
  refine ⟨by simp [Wave.start, filledBufs], ?_, fun s => ?_⟩
  · simp only [Wave.start, downloadProgs, List.mem_map, List.mem_mapIdx]
    rintro _ ⟨_, ⟨j, hj, rfl⟩, rfl⟩ s x hx hs
    unfold s3DownloadOps at hx
    split at hx <;> simp only [List.mem_singleton, Op.put.injEq, reduceCtorEq] at hx
    obtain ⟨rfl, rfl⟩ := hx
    rw [getElem?_filledBufs, List.getElem?_eq_getElem (by simpa [filledBufs] using hs)]
    simp [slotAfter, List.getElem?_eq_getElem hj, *]
  · rcases hb : bufs[s]? with _ | old
    · left; simp [Wave.start, getElem?_filledBufs, hb]
    rcases hf : batch[s]? with _ | f
    · left; simp [Wave.start, getElem?_filledBufs, hb, slotAfter, hf]
    rcases hd : env.download b s bucket f.name with e | bytes
    · left; simp [Wave.start, getElem?_filledBufs, hb, slotAfter, hf, hd]
    · right
      exact ⟨s, ⟨[.put s bytes], [], false⟩, bytes,
        by simp [Wave.start, downloadProgs, List.getElem?_mapIdx, hf, s3DownloadOps, hd], .head _⟩

theorem sendsIn_s3DownloadOps_eq_zero (env : Env) (b : Nat) (bucket name : String) (j : Nat) :
    sendsIn (s3DownloadOps env b bucket name j) = 0 ↔
      (match env.download b j bucket name with
        | .ok _ => none
        | .error e => some e : Option ApiErr) = none := by
  unfold s3DownloadOps
  split <;> simp [Op.isSend]

theorem sum_sendsIn_downloadProgs :
    ((downloadProgs env b bucket batch).map sendsIn).sum = 0 ↔
      firstError env b bucket batch = none := by
  simp only [List.sum_eq_zero_iff, List.mem_map, downloadProgs, List.mem_mapIdx, firstError,
    List.findSome?_eq_none_iff]
  constructor
  · rintro h _ ⟨j, hj, rfl⟩
    exact (sendsIn_s3DownloadOps_eq_zero ..).mp (h _ ⟨_, ⟨j, hj, rfl⟩, rfl⟩)
  · rintro h _ ⟨_, ⟨j, hj, rfl⟩, rfl⟩
    exact (sendsIn_s3DownloadOps_eq_zero ..).mpr (h _ ⟨j, hj, rfl⟩)

theorem sendsFrom_downloadProgs (files : List FileInfo) (cap : Nat) :
    SendsFrom (fun e => ∃ j f, batch[j]? = some f ∧ env.download b j bucket f.name = .error e)
      (Wave.start files bufs cap (downloadProgs env b bucket batch)) := by
  refine sendsFrom_start fun p hp e he => ?_
  obtain ⟨j, hj, rfl⟩ := List.mem_mapIdx.mp hp
  refine ⟨j, batch[j], List.getElem?_eq_getElem hj, ?_⟩
  unfold s3DownloadOps at he
  split at he <;> simp_all

theorem downloadWave_joined (files : List FileInfo) (cap : Nat) {w : Wave}
    (hw : Relation.ReflTransGen Step (Wave.start files bufs cap (downloadProgs env b bucket batch)) w)
    (hj : w.Joined) :
    w.bufs = filledBufs env b bucket batch bufs ∧
      (w.chan = [] ↔ firstError env b bucket batch = none) ∧
      ∀ e ∈ w.chan, ∃ j f, batch[j]? = some f ∧ env.download b j bucket f.name = .error e := by
  have hi := (Wave.inv_start files bufs cap _).reach hw
  have hs := (slotsInv_start env b bucket batch bufs files cap).reach hw
  have hdone := all_done_of_joined hi hj
  refine ⟨List.ext_getElem? fun s => (hs.slot_eq s).resolve_right ?_, ?_,
    ((sendsFrom_downloadProgs env b bucket batch bufs files cap).reach hw).1⟩
  · rintro ⟨i, k, x, hk, hx⟩
    rw [(hdone k (List.getElem?_mem hk)).2] at hx
    exact List.not_mem_nil _ hx
  · rw [← List.length_eq_zero, chan_length_of_joined hi hj, sum_sendsIn_downloadProgs]

/-! ## The goroutines in slot order -/

theorem getElem?_filledBufs_take (m s : Nat) :
    (filledBufs env b bucket (batch.take m) bufs)[s]? =
      if s < m then (filledBufs env b bucket batch bufs)[s]? else bufs[s]? := by
  rw [getElem?_filledBufs, getElem?_filledBufs]
  split_ifs with h <;> cases bufs[s]? <;> simp [slotAfter, List.getElem?_take, h]

theorem firstError_take_succ {m : Nat} (hm : m < batch.length) :
    firstError env b bucket (batch.take (m + 1)) = (firstError env b bucket (batch.take m)).or
      (match env.download b m bucket batch[m].name with
        | .ok _ => none
        | .error e => some e) := by
  rw [List.take_succ, List.getElem?_eq_getElem hm, Option.toList_some, firstError, firstError,
    List.mapIdx_concat, List.findSome?_append, List.length_take, min_eq_left hm.le]
  congr 1
  rcases hd : env.download b m bucket batch[m].name with e | bytes <;> simp [hd]

/-- Running the goroutines one after the other in slot order, each to its `Done`, keeps the
channel from blocking and sends the errors in slot order. -/
theorem reach_slotOrder (files : List FileInfo) {cap : Nat} (hcap : batch.length ≤ cap) :
    ∀ m ≤ batch.length, ∃ w,
      Relation.ReflTransGen Step (Wave.start files bufs cap (downloadProgs env b bucket batch)) w ∧
      w.bufs = filledBufs env b bucket (batch.take m) bufs ∧
      w.chan.head? = firstError env b bucket (batch.take m) ∧ w.chan.length ≤ m ∧ w.cap = cap ∧
      w.counter = batch.length - m ∧
      w.workers = List.replicate m ⟨[], [], true⟩ ++
        ((downloadProgs env b bucket batch).drop m).map fun p => ⟨p, [], false⟩
  | 0, _ => ⟨_, .refl, List.ext_getElem? fun s => by
        show bufs[s]? = _
        rw [getElem?_filledBufs]
        cases bufs[s]? <;> rfl,
      rfl, le_refl _, rfl, by simp [Wave.start, downloadProgs], rfl⟩
  | m + 1, hm => by
    obtain ⟨w, hw, hb, hc, hl, hcw, hn, hws⟩ := reach_slotOrder files hcap m (by omega)
    have hm' : m < batch.length := by omega
    have hlen : m < (downloadProgs env b bucket batch).length := by simpa [downloadProgs] using hm'
    have hk : w.workers[m]? = some ⟨s3DownloadOps env b bucket batch[m].name m, [], false⟩ := by
      rw [hws, List.getElem?_append_right (by simp), List.length_replicate, Nat.sub_self,
        List.drop_eq_getElem_cons hlen]
      simp [downloadProgs]
    have hset : w.workers.set m ⟨[], [], true⟩ = List.replicate (m + 1) ⟨[], [], true⟩ ++
        ((downloadProgs env b bucket batch).drop (m + 1)).map fun p => ⟨p, [], false⟩ := by
      rw [hws, List.set_append_right _ _ (by simp), List.length_replicate, Nat.sub_self,
        List.drop_eq_getElem_cons hlen, List.map_cons, List.set_cons_zero, List.replicate_succ',
        List.append_assoc, List.singleton_append]
    have hbufs : ∀ s, s ≠ m → (filledBufs env b bucket (batch.take (m + 1)) bufs)[s]? =
        w.bufs[s]? := fun s hs => by
      rw [hb, getElem?_filledBufs_take, getElem?_filledBufs_take]
      simp only [Nat.lt_succ_iff_lt_or_eq, hs, or_false]
    have he := firstError_take_succ env b bucket batch hm'
    rcases hd : env.download b m bucket batch[m].name with e | bytes
    · rw [s3DownloadOps, hd] at hk
      refine ⟨_, hw.trans (reach_send_done hk (by omega)), ?_, ?_, by simp; omega, hcw,
        by simp; omega, hset⟩
      · refine List.ext_getElem? fun s => ?_
        rcases eq_or_ne s m with rfl | hs
        · rw [hb, getElem?_filledBufs_take, getElem?_filledBufs_take, getElem?_filledBufs]
          cases bufs[s]? <;> simp [slotAfter, List.getElem?_eq_getElem hm', hd]
        · exact (hbufs s hs).symm
      · simp only [List.head?_append, hc, he, hd, Option.or_some]
        cases firstError env b bucket (batch.take m) <;> rfl
    · rw [s3DownloadOps, hd] at hk
      refine ⟨_, hw.trans (reach_put_done hk), ?_, by simp [hc, he, hd], by simpa using by omega,
        hcw, by simp; omega, hset⟩
      refine List.ext_getElem? fun s => ?_
      rcases eq_or_ne s m with rfl | hs
      · show (w.bufs.set s bytes)[s]? = _
        rw [getElem?_filledBufs_take, if_pos (Nat.lt_succ_self s), getElem?_filledBufs, hb,
          List.getElem?_set, if_pos rfl, length_filledBufs]
        by_cases hl : s < bufs.length
        · simp [hl, slotAfter, List.getElem?_eq_getElem hm', hd]
        · simp [hl, List.getElem?_eq_none (Nat.le_of_not_lt hl)]
      · rw [hbufs s hs, List.getElem?_set_ne hs.symm]

/-- `downloadBatch` is what the goroutines of the batch leave. Every interleaving that gets past
`Wait` leaves its slots, finds an error in the channel exactly when it reports one, and receives
there the error of a failed download; running the goroutines in slot order receives the error
it reports. -/
theorem downloadBatch_interleavings (files : List FileInfo) {cap : Nat}
    (hcap : batch.length ≤ cap) {bufs' : List Bytes} {err : Option ApiErr}
    (hd : downloadBatch env b bucket batch bufs = .ok (bufs', err)) :
    (∀ w, Relation.ReflTransGen Step (Wave.start files bufs cap (downloadProgs env b bucket batch)) w →
      w.Joined → w.bufs = bufs' ∧ (w.chan.head? = none ↔ err = none) ∧
        ∀ e, w.chan.head? = some e →
          ∃ j f, batch[j]? = some f ∧ env.download b j bucket f.name = .error e) ∧
    ∃ w, Relation.ReflTransGen Step (Wave.start files bufs cap (downloadProgs env b bucket batch)) w ∧
      w.Joined ∧ w.bufs = bufs' ∧ w.chan.head? = err := by
  unfold downloadBatch at hd
  split_ifs at hd
  obtain ⟨rfl, rfl⟩ := Prod.mk.inj (GoResult.ok.inj hd)
  refine ⟨fun w hw hj => ?_, ?_⟩
  · obtain ⟨hb, hc, hf⟩ := downloadWave_joined env b bucket batch bufs files cap hw hj
    exact ⟨hb, List.head?_eq_none_iff.trans hc, fun e he => hf e (List.mem_of_mem_head? he)⟩
  · obtain ⟨w, hw, hb, hc, -, -, hn, -⟩ := reach_slotOrder env b bucket batch bufs files hcap _ le_rfl
    rw [List.take_length] at hb hc
    exact ⟨w, hw, by simp [Wave.Joined, hn], hb, hc⟩

/-- Slot 0 of a two-key batch times out, slot 1 downloads. -/
def timeoutEnv : Env :=
  { listingEnv (fun _ => []) from2021 with
    download := fun _ j _ _ => if j = 0 then .error ⟨"RequestTimeout"⟩ else .ok [7] }

theorem downloadBatch_interleavings_timeout :
    [fileInfoOf "k0", fileInfoOf "k1"].length ≤ 2 ∧
    downloadBatch timeoutEnv 0 "b" [fileInfoOf "k0", fileInfoOf "k1"] [[], []] =
      .ok ([[], [7]], some ⟨"RequestTimeout"⟩) ∧
    (∀ w, Relation.ReflTransGen Step (Wave.start [] [[], []] 2
        (downloadProgs timeoutEnv 0 "b" [fileInfoOf "k0", fileInfoOf "k1"])) w →
      w.Joined → w.bufs = [[], [7]] ∧ (w.chan.head? = none ↔ some (⟨"RequestTimeout"⟩ : ApiErr) = none) ∧
        ∀ e, w.chan.head? = some e → ∃ j f, [fileInfoOf "k0", fileInfoOf "k1"][j]? = some f ∧
          timeoutEnv.download 0 j "b" f.name = .error e) ∧
    ∃ w, Relation.ReflTransGen Step (Wave.start [] [[], []] 2
        (downloadProgs timeoutEnv 0 "b" [fileInfoOf "k0", fileInfoOf "k1"])) w ∧
      w.Joined ∧ w.bufs = [[], [7]] ∧ w.chan.head? = some ⟨"RequestTimeout"⟩ :=
  have hd : downloadBatch timeoutEnv 0 "b" [fileInfoOf "k0", fileInfoOf "k1"] [[], []] =
      .ok ([[], [7]], some ⟨"RequestTimeout"⟩) := rfl
  ⟨by decide, hd, downloadBatch_interleavings timeoutEnv 0 "b" _ _ [] (by decide) hd⟩

/-! ## `readNextFileS3` -/

/-- `nFilledBufs` of the next batch: `min(S3DownloadConcurrency, len(files) - k)`. -/
def batchSize (p : PluginInstance) : Int :=
  min p.config.S3DownloadConcurrency (p.files.length - p.s3.lastDownloadedFileNum)

/-- `readNextFileS3()`. The batch's goroutines are `downloadBatch` (`downloadBatch_interleavings`). -/
def readNextFileS3 (env : Env) : GoM Session Bytes := do
  let s ← GoM.get
  let st := s.inst.s3
  if st.curBuf < st.nFilledBufs then
    GoM.modify (·.withS3 fun st => { st with curBuf := st.curBuf + 1 })
    GoM.lift (goIndex st.DownloadBufs st.curBuf)
  else
    GoM.lift (makeChan s.inst.config.S3DownloadConcurrency)
    let k := st.lastDownloadedFileNum
    let n := batchSize s.inst
    GoM.modify (·.withS3 fun st => { st with nFilledBufs := n })
    let batch ← GoM.lift (goSlice s.inst.files k (k + n))
    let (bufs, err) ← GoM.lift (downloadBatch env s.batches st.bucket batch st.DownloadBufs)
    GoM.modify fun s => { s.withS3 fun st => { st with DownloadBufs := bufs } with
      batches := s.batches + 1 }
    match err with
    | some e => GoM.throw (.api e)
    | none =>
      GoM.modify (·.withS3 fun st => { st with lastDownloadedFileNum := k + n, curBuf := 1 })
      GoM.lift (goIndex bufs 0)

/-! ## Every wave is safe -/

theorem listKeysOps_sends (startTS endTS : String) (pages : List (Except ApiErr ListPage)) :
    sendsIn (listKeysOps startTS endTS pages) ≤ 1 ∧
      (sendsIn (listKeysOps startTS endTS pages) ≠ 0 ↔ ∃ e, .error e ∈ pages) := by
  induction pages with
  | nil => simp [listKeysOps]
  | cons p pages ih =>
    rcases p with e | page
    · simp [listKeysOps, Op.isSend]
    · have h0 : sendsIn ((page.contents.filter (keyAccepted startTS endTS)).flatMap
          fun key => [Op.load, .store (fileInfoOf key)]) = 0 :=
        List.countP_eq_zero.mpr fun a ha => by
          obtain ⟨x, -, ha⟩ := List.mem_flatMap.mp ha
          rcases List.mem_pair.mp ha with rfl | rfl <;> simp [Op.isSend]
      simpa [listKeysOps, h0] using ih

theorem sendsIn_downloadProgs_ne_zero (env : Env) (b : Nat) (bucket : String)
    (batch : List FileInfo) :
    (∃ p ∈ downloadProgs env b bucket batch, sendsIn p ≠ 0) ↔
      ∃ j f e, batch[j]? = some f ∧ env.download b j bucket f.name = .error e := by
  simp only [downloadProgs, List.mem_mapIdx]
  constructor
  · rintro ⟨_, ⟨j, hj, rfl⟩, hs⟩
    rcases hd : env.download b j bucket batch[j].name with e | bytes
    · exact ⟨j, _, e, List.getElem?_eq_getElem hj, hd⟩
    · simp [sendsIn_s3DownloadOps, hd, Except.isOk, Except.toBool] at hs
  · rintro ⟨j, f, e, hf, hd⟩
    obtain ⟨hj, rfl⟩ := List.getElem?_eq_some_iff.mp hf
    exact ⟨_, ⟨j, hj, rfl⟩, by simp [sendsIn_s3DownloadOps, hd, Except.isOk, Except.toBool]⟩

/-- The waves of `openS3` (one per chunk of cursors) and of `readNextFileS3` (one per batch):
each goroutine sends at most one error, no send blocks, `Wait` returns only once every send
has completed, and the receive after it finds an error exactly when a goroutine of the wave
failed. -/
theorem waves_safe (env : Env) {D : Int} (hD : 1 ≤ D) :
    (∀ (bucket startTS endTS : String) (params : List ListOrigin)
        (chunks : List (List ListOrigin)),
      chunkListOrigin params D = .ok chunks → ∀ chunk ∈ chunks,
        (∀ o ∈ chunk, sendsIn (listKeys env bucket startTS endTS o) ≤ 1) ∧
        WaveSafe D.toNat (chunk.map (listKeys env bucket startTS endTS))
          (∃ o ∈ chunk, ∃ e, .error e ∈ env.listPages ⟨bucket, o.pfx, o.startAfter, none⟩)) ∧
    (∀ (s : Session) (batch : List FileInfo), s.inst.config.S3DownloadConcurrency = D →
      goSlice s.inst.files s.inst.s3.lastDownloadedFileNum
          (s.inst.s3.lastDownloadedFileNum + batchSize s.inst) = .ok batch →
        (∀ p ∈ downloadProgs env s.batches s.inst.s3.bucket batch, sendsIn p ≤ 1) ∧
        WaveSafe D.toNat (downloadProgs env s.batches s.inst.s3.bucket batch)
          (∃ j f e, batch[j]? = some f ∧
            env.download s.batches j s.inst.s3.bucket f.name = .error e)) := by
  obtain ⟨c, rfl⟩ : ∃ c : Nat, D = c := ⟨D.toNat, by omega⟩
  have hc : 0 < c := by omega
  refine ⟨fun bucket startTS endTS params chunks hch chunk hchunk => ?_, fun s batch hD hb => ?_⟩
  · have hlen : chunk.length ≤ c := by
      rcases eq_or_ne params [] with rfl | hne
      · simp [chunkListOrigin] at hch; subst hch; simp at hchunk
      · rw [chunkListOrigin_eq params hne hc, GoResult.ok.injEq] at hch
        exact length_le_of_mem_chunkSpec params hne hc (hch ▸ hchunk)
    have hsend := fun o : ListOrigin => listKeysOps_sends startTS endTS
      (env.listPages ⟨bucket, o.pfx, o.startAfter, none⟩)
    refine ⟨fun o _ => (hsend o).1, waveSafe_of ?_ (by simpa using hlen) ?_⟩
    · simp only [List.mem_map]
      rintro _ ⟨o, -, rfl⟩
      exact (hsend o).1
    · simp only [List.mem_map, listKeys]
      exact ⟨fun ⟨_, ⟨o, ho, rfl⟩, h⟩ => ⟨o, ho, (hsend o).2.mp h⟩,
        fun ⟨o, ho, h⟩ => ⟨_, ⟨o, ho, rfl⟩, (hsend o).2.mpr h⟩⟩
  · have hsend : ∀ p ∈ downloadProgs env s.batches s.inst.s3.bucket batch, sendsIn p ≤ 1 := by
      simp only [downloadProgs, List.mem_mapIdx]
      rintro _ ⟨j, -, rfl⟩
      rw [sendsIn_s3DownloadOps]
      split <;> omega
    have hlen : batch.length ≤ c := by
      unfold goSlice at hb
      split at hb
      · rw [GoResult.ok.injEq] at hb
        subst hb
        have := min_le_left s.inst.config.S3DownloadConcurrency
          (s.inst.files.length - s.inst.s3.lastDownloadedFileNum)
        simp only [List.length_take, List.length_drop, batchSize] at *
        omega
      · cases hb
    exact ⟨hsend, waveSafe_of hsend (by simpa [downloadProgs] using hlen)
      (sendsIn_downloadProgs_ne_zero env s.batches s.inst.s3.bucket batch)⟩

theorem waves_safe_two_slots :
    1 ≤ (2 : Int) ∧
    (∀ (bucket startTS endTS : String) (params : List ListOrigin)
        (chunks : List (List ListOrigin)),
      chunkListOrigin params 2 = .ok chunks → ∀ chunk ∈ chunks,
        (∀ o ∈ chunk, sendsIn (listKeys (listingEnv regionPages from2021) bucket startTS endTS o) ≤ 1) ∧
        WaveSafe (2 : Int).toNat (chunk.map (listKeys (listingEnv regionPages from2021) bucket startTS endTS))
          (∃ o ∈ chunk, ∃ e, .error e ∈
            (listingEnv regionPages from2021).listPages ⟨bucket, o.pfx, o.startAfter, none⟩)) ∧
    (∀ (s : Session) (batch : List FileInfo), s.inst.config.S3DownloadConcurrency = 2 →
      goSlice s.inst.files s.inst.s3.lastDownloadedFileNum
          (s.inst.s3.lastDownloadedFileNum + batchSize s.inst) = .ok batch →
        (∀ p ∈ downloadProgs (listingEnv regionPages from2021) s.batches s.inst.s3.bucket batch,
          sendsIn p ≤ 1) ∧
        WaveSafe (2 : Int).toNat (downloadProgs (listingEnv regionPages from2021) s.batches
            s.inst.s3.bucket batch)
          (∃ j f e, batch[j]? = some f ∧
            (listingEnv regionPages from2021).download s.batches j s.inst.s3.bucket f.name =
              .error e)) :=
  ⟨by decide, waves_safe _ (by decide)⟩

end CloudTrail
