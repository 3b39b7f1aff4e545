import CloudTrail.NextEvent

/-! What a session has still to emit, and what one call of `nextEvent` in which nothing fails emits
of it. -/

namespace CloudTrail

/-- A result that is an event, a skip (`ErrTimeout`) or the end (`ErrEOF`): no fetch, poll or
write failed and nothing panicked. -/
def Benign {α : Type} : GoResult α → Prop
  | .ok _ => True
  | .error .timeout => True
  | .error .eof => True
  | _ => False

@[simp] theorem benign_ok {α : Type} (a : α) : Benign (.ok a) := trivial

@[simp] theorem benign_error {α : Type} (e : Err) :
    Benign (.error e : GoResult α) ↔ e = .timeout ∨ e = .eof := by
  cases e <;> simp [Benign]

@[simp] theorem benign_panic {α : Type} (p : Panic) : ¬Benign (.panic p : GoResult α) := id

/-- The event a call emits. -/
def emitted : GoResult Event → List Event
  | .ok e => [e]
  | _ => []

/-! ## Download cursors -/

/-- The download cursors of `p` agree with the file cursor `c`: `c` is
`lastDownloadedFileNum - nFilledBufs + curBuf`, and the slots from `curBuf` to `nFilledBufs`
hold, in order, the objects of the files from `c` on. -/
structure Cursors (obj : String → String → Bytes) (c : Nat) (p : PluginInstance) : Prop where
  conc_pos : 1 ≤ p.config.S3DownloadConcurrency
  bufs_len : p.s3.clientSet = true →
    p.s3.DownloadBufs.length = p.config.S3DownloadConcurrency.toNat
  client : p.files ≠ [] → p.s3.clientSet = true
  agree : (c : Int) = p.s3.lastDownloadedFileNum - p.s3.nFilledBufs + p.s3.curBuf
  curBuf_nonneg : 0 ≤ p.s3.curBuf
  curBuf_le : p.s3.curBuf ≤ p.s3.nFilledBufs
  filled_le : p.s3.nFilledBufs ≤ p.config.S3DownloadConcurrency
  last_le : p.s3.lastDownloadedFileNum ≤ p.files.length
  slots : ∀ j : Nat, p.s3.curBuf ≤ j → j < p.s3.nFilledBufs →
    p.s3.DownloadBufs[j]? = p.files[(p.s3.lastDownloadedFileNum - p.s3.nFilledBufs + j).toNat]?.map
      fun f => obj p.s3.bucket f.name

section
variable (env : Env) (b : Nat) (bucket : String) (batch : List FileInfo) (bufs : List Bytes)

theorem download_ok_of_firstError (h : firstError env b bucket batch = none) {j : Nat}
    {f : FileInfo} (hf : batch[j]? = some f) :
    ∃ bytes, env.download b j bucket f.name = .ok bytes := by
  obtain ⟨hj, rfl⟩ := List.getElem?_eq_some_iff.mp hf
  have := List.findSome?_eq_none_iff.mp h (j, batch[j]) (List.mem_mapIdx.mpr ⟨j, hj, rfl⟩)
  cases hd : env.download b j bucket batch[j].name with
  | error e => simp [hd] at this
  | ok bytes => exact ⟨bytes, rfl⟩

theorem writesPastEnd_eq_false (h : batch.length ≤ bufs.length) :
    writesPastEnd env b bucket batch bufs = false := by
  simp only [writesPastEnd, List.any_eq_false, List.mem_mapIdx]
  rintro _ ⟨j, hj, rfl⟩
  simp; omega

theorem getElem?_filledBufs_of_ok {j : Nat} {f : FileInfo} (hf : batch[j]? = some f)
    (hj : j < bufs.length) {bytes : Bytes} (hd : env.download b j bucket f.name = .ok bytes) :
    (filledBufs env b bucket batch bufs)[j]? = some bytes := by
  simp [getElem?_filledBufs, List.getElem?_eq_getElem hj, slotAfter, hf, hd]

end

section
variable (env : Env) {s : Session}

theorem readNextFileS3_prefetch (h : s.inst.s3.curBuf < s.inst.s3.nFilledBufs) :
    readNextFileS3 env s = (s.withS3 fun st => { st with curBuf := st.curBuf + 1 },
      goIndex s.inst.s3.DownloadBufs s.inst.s3.curBuf) := by
  simp only [readNextFileS3, GoM.get_bind, h, ↓reduceIte, GoM.modify_bind, GoM.lift_apply]

/-- The session once the goroutines of a batch of `n` files have filled the slots `bufs`. -/
def Session.afterBatch (s : Session) (n : Int) (bufs : List Bytes) : Session :=
  { s.withS3 (fun st => { st with nFilledBufs := n, DownloadBufs := bufs }) with
    batches := s.batches + 1 }

theorem readNextFileS3_batch (h : ¬s.inst.s3.curBuf < s.inst.s3.nFilledBufs)
    (hD : 0 ≤ s.inst.config.S3DownloadConcurrency) {batch : List FileInfo}
    (hb : goSlice s.inst.files s.inst.s3.lastDownloadedFileNum
      (s.inst.s3.lastDownloadedFileNum + batchSize s.inst) = .ok batch)
    {bufs : List Bytes}
    (hd : downloadBatch env s.batches s.inst.s3.bucket batch s.inst.s3.DownloadBufs =
      .ok (bufs, none)) :
    readNextFileS3 env s = ((s.afterBatch (batchSize s.inst) bufs).withS3 fun st => { st with
      lastDownloadedFileNum := s.inst.s3.lastDownloadedFileNum + batchSize s.inst, curBuf := 1 },
      goIndex bufs 0) := by
  simp only [readNextFileS3, makeChan, GoM.get_bind, h, ↓reduceIte, hD, hb, GoM.lift_ok_bind,
    GoM.modify_bind, hd, GoM.lift_apply, Prod.mk.injEq, and_true]
  rfl

theorem readNextFileS3_batch_error (h : ¬s.inst.s3.curBuf < s.inst.s3.nFilledBufs)
    (hD : 0 ≤ s.inst.config.S3DownloadConcurrency) {batch : List FileInfo}
    (hb : goSlice s.inst.files s.inst.s3.lastDownloadedFileNum
      (s.inst.s3.lastDownloadedFileNum + batchSize s.inst) = .ok batch)
    {bufs : List Bytes} {e : ApiErr}
    (hd : downloadBatch env s.batches s.inst.s3.bucket batch s.inst.s3.DownloadBufs =
      .ok (bufs, some e)) :
    readNextFileS3 env s = (s.afterBatch (batchSize s.inst) bufs, .error (.api e)) := by
  simp only [readNextFileS3, makeChan, GoM.get_bind, h, ↓reduceIte, hD, hb, GoM.lift_ok_bind,
    GoM.modify_bind, hd, GoM.throw_apply, Prod.mk.injEq, and_true]
  rfl

theorem readNextFileS3_files : (readNextFileS3 env s).1.inst.files = s.inst.files := by
  simp only [readNextFileS3, GoM.get_bind]
  split_ifs
  · rfl
  rcases makeChan s.inst.config.S3DownloadConcurrency with _ | e | p <;>
    simp only [GoM.lift_ok_bind, GoM.lift_error_bind, GoM.lift_panic_bind, GoM.modify_bind]
  rcases goSlice s.inst.files s.inst.s3.lastDownloadedFileNum
    (s.inst.s3.lastDownloadedFileNum + batchSize s.inst) with _ | e | p <;>
    simp only [GoM.lift_ok_bind, GoM.lift_error_bind, GoM.lift_panic_bind]
  all_goals try rfl
  rename_i batch
  rcases downloadBatch env s.batches s.inst.s3.bucket batch s.inst.s3.DownloadBufs with
    ⟨bufs, _ | e⟩ | e | p <;>
    simp only [GoM.lift_ok_bind, GoM.lift_error_bind, GoM.lift_panic_bind, GoM.modify_bind] <;> rfl

theorem readNextFileS3_refill (obj : String → String → Bytes) {c : Nat} (hc : Cursors obj c s.inst)
    (hlt : c < s.inst.files.length) (hpre : ¬s.inst.s3.curBuf < s.inst.s3.nFilledBufs) :
    1 ≤ batchSize s.inst ∧ batchSize s.inst ≤ s.inst.config.S3DownloadConcurrency ∧
    (c : Int) = s.inst.s3.lastDownloadedFileNum ∧
    s.inst.s3.lastDownloadedFileNum + batchSize s.inst ≤ s.inst.files.length ∧
    readNextFileS3 env s =
      match firstError env s.batches s.inst.s3.bucket ((s.inst.files.drop
          s.inst.s3.lastDownloadedFileNum.toNat).take (batchSize s.inst).toNat) with
      | none => ((s.afterBatch (batchSize s.inst) (filledBufs env s.batches s.inst.s3.bucket
            ((s.inst.files.drop s.inst.s3.lastDownloadedFileNum.toNat).take (batchSize s.inst).toNat)
            s.inst.s3.DownloadBufs)).withS3 fun st => { st with
            lastDownloadedFileNum := s.inst.s3.lastDownloadedFileNum + batchSize s.inst,
            curBuf := 1 },
          goIndex (filledBufs env s.batches s.inst.s3.bucket ((s.inst.files.drop
            s.inst.s3.lastDownloadedFileNum.toNat).take (batchSize s.inst).toNat)
            s.inst.s3.DownloadBufs) 0)
      | some e => (s.afterBatch (batchSize s.inst) (filledBufs env s.batches s.inst.s3.bucket
            ((s.inst.files.drop s.inst.s3.lastDownloadedFileNum.toNat).take (batchSize s.inst).toNat)
            s.inst.s3.DownloadBufs), .error (.api e)) := by
  obtain ⟨hD, hlen, hcl, hag, h0, hle, hfD, hlast, -⟩ := hc
  set D := s.inst.config.S3DownloadConcurrency
  set last := s.inst.s3.lastDownloadedFileNum
  set n := batchSize s.inst
  have hn1 : 1 ≤ n ∧ n ≤ D ∧ last + n ≤ s.inst.files.length := by
    have : n = min D (s.inst.files.length - last) := rfl
    rcases min_eq_or D (s.inst.files.length - last) with h | h <;>
      have := min_le_left D (s.inst.files.length - last) <;>
      have := min_le_right D (s.inst.files.length - last) <;> omega
  set batch := (s.inst.files.drop last.toNat).take n.toNat
  have hb : goSlice s.inst.files last (last + n) = .ok batch := by
    rw [goSlice_ok s.inst.files (by omega) (by omega) (by omega), add_sub_cancel_left]
  have hbl : batch.length ≤ s.inst.s3.DownloadBufs.length := by
    rw [hlen (hcl (List.ne_nil_of_length_pos (by omega)))]
    simp only [batch, List.length_take, List.length_drop]; omega
  refine ⟨hn1.1, hn1.2.1, by omega, hn1.2.2, ?_⟩
  rcases he : firstError env s.batches s.inst.s3.bucket batch with _ | e
  · exact readNextFileS3_batch env hpre (by omega) hb
      (by simp [downloadBatch, writesPastEnd_eq_false _ _ _ _ _ hbl, he])
  · exact readNextFileS3_batch_error env hpre (by omega) hb
      (by simp [downloadBatch, writesPastEnd_eq_false _ _ _ _ _ hbl, he])

theorem readNextFileS3_cursors (obj : String → String → Bytes)
    (hobj : ∀ b j bk key bytes, env.download b j bk key = .ok bytes → bytes = obj bk key)
    {c : Nat} (hc : Cursors obj c s.inst) (hlt : c < s.inst.files.length)
    (hr : Benign (readNextFileS3 env s).2) :
    (readNextFileS3 env s).2 = .ok (obj s.inst.s3.bucket s.inst.files[c].name) ∧
    Cursors obj (c + 1) (readNextFileS3 env s).1.inst ∧
    ∃ st b', (readNextFileS3 env s).1 = { s with inst := { s.inst with s3 := st }, batches := b' } ∧
      st.bucket = s.inst.s3.bucket ∧ st.clientSet = s.inst.s3.clientSet := by
  by_cases hpre : s.inst.s3.curBuf < s.inst.s3.nFilledBufs
  · obtain ⟨hD, hlen, hcl, hag, h0, hle, hfD, hlast, hslots⟩ := hc
    rw [readNextFileS3_prefetch env hpre]
    have hslot := hslots s.inst.s3.curBuf.toNat (by omega) (by omega)
    rw [show (s.inst.s3.lastDownloadedFileNum - s.inst.s3.nFilledBufs +
        (s.inst.s3.curBuf.toNat : Int)).toNat = c by omega, List.getElem?_eq_getElem hlt] at hslot
    refine ⟨?_, ⟨hD, hlen, hcl, by simp [Session.withS3, Session.withInst]; omega, by
      simp [Session.withS3, Session.withInst]; omega, by simp [Session.withS3, Session.withInst]; omega,
      hfD, hlast, fun j h1 h2 => hslots j (by simp [Session.withS3, Session.withInst] at h1; omega) h2⟩,
      _, _, rfl, rfl, rfl⟩
    simp only [goIndex, show (s.inst.s3.curBuf.toNat : Int) = s.inst.s3.curBuf by omega] at hslot ⊢
    simp [hslot, h0]
  obtain ⟨hn1, hnD, hcl', hend, hrefill⟩ := readNextFileS3_refill env obj hc hlt hpre
  obtain ⟨hD, hlen, hcl, -, -, -, hfD, -, -⟩ := hc
  set last := s.inst.s3.lastDownloadedFileNum
  set n := batchSize s.inst
  set batch := (s.inst.files.drop last.toNat).take n.toNat
  rcases he : firstError env s.batches s.inst.s3.bucket batch with _ | e
  swap
  · rw [hrefill, he] at hr
    exact absurd hr id
  rw [hrefill, he]
  have hbatch : batch.length = n.toNat := by
    simp only [batch, List.length_take, List.length_drop]; omega
  -- slot `j` of the batch holds the object of `files[last + j]`
  have hfill : ∀ j : Nat, j < n.toNat → ∀ f, s.inst.files[last.toNat + j]? = some f →
      (filledBufs env s.batches s.inst.s3.bucket batch s.inst.s3.DownloadBufs)[j]? =
        some (obj s.inst.s3.bucket f.name) := by
    intro j hj f hf
    have hbf : batch[j]? = some f := by
      rw [List.getElem?_take_of_lt hj, List.getElem?_drop, hf]
    obtain ⟨bytes, hdl⟩ := download_ok_of_firstError env _ _ _ he hbf
    have hbl : j < s.inst.s3.DownloadBufs.length := by
      rw [hlen (hcl (List.ne_nil_of_length_pos (by omega)))]; omega
    rw [getElem?_filledBufs_of_ok env _ _ _ _ hbf hbl hdl, hobj _ _ _ _ _ hdl]
  have hc0 := hfill 0 (by omega) s.inst.files[c] (by
    rw [show last.toNat + 0 = c by omega, List.getElem?_eq_getElem hlt])
  refine ⟨?_, ⟨hD, ?_, hcl, ?_, ?_, ?_, ?_, ?_, ?_⟩, _, _, rfl, rfl, rfl⟩
  · simp [goIndex, hc0]
  all_goals simp only [Session.afterBatch, Session.withS3, Session.withInst]
  · simpa using hlen
  · omega
  · omega
  · omega
  · omega
  · omega
  · intro j h1 h2
    rw [show (last + n - n + j).toNat = last.toNat + j by omega]
    rcases hf : s.inst.files[last.toNat + j]? with _ | f
    · exact absurd (List.getElem?_eq_none_iff.mp hf) (by omega)
    · rw [hfill j (by omega) f hf]; rfl

end

theorem Cursors.frame {obj : String → String → Bytes} {c : Nat} {p q : PluginInstance}
    (h : Cursors obj c p) (hcfg : q.config = p.config) (hs3 : q.s3 = p.s3)
    (hfiles : q.files = p.files) : Cursors obj c q := by
  obtain ⟨h1, h2, h3, h4, h5, h6, h7, h8, h9⟩ := h
  rw [← hcfg, ← hs3] at *
  rw [← hfiles] at *
  exact ⟨h1, h2, h3, h4, h5, h6, h7, h8, h9⟩

theorem Cursors.polled {obj : String → String → Bytes} {p : PluginInstance} {new : List FileInfo}
    {st : S3State} (h : Cursors obj p.files.length p)
    (hsz : SlotsSized p.config.S3DownloadConcurrency st)
    (hcl : p.s3.clientSet = true → st.clientSet = true) (hnew : new ≠ [] → st.clientSet = true) :
    Cursors obj p.files.length (p.polled new st) := by
  obtain ⟨h1, -, h3, h4, h5, h6, h7, h8, -⟩ := h
  refine ⟨h1, hsz, fun hne => ?_, h4, h5, h6, h7, ?_, fun j hj1 hj2 => ?_⟩
  · by_cases hp : p.files = []
    · exact hnew (by simpa [PluginInstance.polled, hp] using hne)
    · exact hcl (h3 hp)
  · simp only [PluginInstance.polled, List.length_append, Nat.cast_add]; omega
  · simp only [PluginInstance.polled] at hj1 hj2; omega

/-! ## What a session has still to emit -/

/-- The records of `file` fetched as `bytes`: those of its gunzipped content; none when the
gunzip fails. -/
def fileRecords (env : Env) (file : FileInfo) (bytes : Bytes) : List Bytes :=
  match unzipFile env file bytes with
  | .ok zdata => extractRecordStrings zdata []
  | _ => []

/-- The events of `file` in a session of mode `mode` on bucket `bucket`: those of the object
`obj bucket file.name` in S3 and queue mode, of the file on disk in file mode (none when that
read fails). -/
def fileEvents (env : Env) (obj : String → String → Bytes) (mode : OpenMode) (bucket : String)
    (file : FileInfo) : List Event :=
  match mode, env.readFile file.name with
  | .fileMode, .ok bytes => (fileRecords env file bytes).filterMap (recordEvent env)
  | .fileMode, .error _ => []
  | _, _ => (fileRecords env file (obj bucket file.name)).filterMap (recordEvent env)

/-- What the session has still to emit: the events of the open file's records from
`evtJSONListPos` on, then those of the files not yet opened. -/
def pending (env : Env) (obj : String → String → Bytes) (s : Session) : List Event :=
  (s.inst.evtJSONStrings.drop s.inst.evtJSONListPos).filterMap (recordEvent env) ++
    (s.inst.files.drop s.inst.curFileNum.toNat).flatMap
      (fileEvents env obj s.inst.openMode s.inst.s3.bucket)

/-- The events of the files a call appended to the list, fetched from the bucket it left. -/
def arrived (env : Env) (obj : String → String → Bytes) (s s' : Session) : List Event :=
  (s'.inst.files.drop s.inst.files.length).flatMap
    (fileEvents env obj s'.inst.openMode s'.inst.s3.bucket)

/-- What the polls of a run of `k` calls delivered. -/
def runArrivals (env : Env) (obj : String → String → Bytes) : Nat → Session → List Event
  | 0, _ => []
  | k + 1, s => arrived env obj s (nextEvent env s).1 ++ runArrivals env obj k (nextEvent env s).1

/-- The invariant of a session along a run: the record cursor is within the records, the file
cursor within the list, and in S3 and queue mode the download cursors agree with it. -/
structure Inv (obj : String → String → Bytes) (s : Session) : Prop where
  pos_le : s.inst.evtJSONListPos ≤ s.inst.evtJSONStrings.length
  cur_le : s.inst.curFileNum.toNat ≤ s.inst.files.length
  cursors : s.inst.openMode ≠ .fileMode → Cursors obj s.inst.curFileNum.toNat s.inst

/-- A session as an open function leaves it: no file opened and no record read; in S3 and queue
mode at least one download slot, the slots sized once the client is set, the client set once
there are files, and no slot filled. -/
structure Fresh (s : Session) : Prop where
  cur : s.inst.curFileNum = 0
  strings : s.inst.evtJSONStrings = []
  pos : s.inst.evtJSONListPos = 0
  downloads : s.inst.openMode ≠ .fileMode →
    1 ≤ s.inst.config.S3DownloadConcurrency ∧
    SlotsSized s.inst.config.S3DownloadConcurrency s.inst.s3 ∧
    (s.inst.files ≠ [] → s.inst.s3.clientSet = true) ∧
    s.inst.s3.lastDownloadedFileNum = 0 ∧ s.inst.s3.nFilledBufs = 0 ∧ s.inst.s3.curBuf = 0

theorem Fresh.inv {obj : String → String → Bytes} {s : Session} (h : Fresh s) : Inv obj s := by
  refine ⟨by simp [h.pos], by simp [h.cur], fun hm => ?_⟩
  obtain ⟨hD, hsz, hcl, hl, hn, hc⟩ := h.downloads hm
  exact ⟨hD, hsz, hcl, by simp [h.cur, hl, hn, hc], by omega, by omega, by omega, by omega,
    fun j h1 h2 => by omega⟩

theorem Fresh.pending_eq (env : Env) (obj : String → String → Bytes) {s : Session} (h : Fresh s) :
    pending env obj s = s.inst.files.flatMap (fileEvents env obj s.inst.openMode s.inst.s3.bucket) := by
  simp [pending, h.cur, h.strings]

/-! ## One call -/

theorem benign_of_bind {σ α β : Type} {x : GoM σ α} {f : α → GoM σ β} {s : σ}
    (h : Benign ((x >>= f) s).2) : Benign (x s).2 := by
  rcases hx : x s with ⟨s', a | e | p⟩
  · trivial
  · rw [GoM.bind_of_error hx] at h; simpa using h
  · rw [GoM.bind_of_panic hx] at h; simp at h

section
variable (env : Env) {s : Session}

theorem nextRecord_empty (h : s.inst.evtJSONStrings.length = 0) :
    nextRecord env s = (s, .error .timeout) := by
  simp [nextRecord, List.length_eq_zero.mp h]

theorem nextRecord_emits (h : s.inst.evtJSONListPos < s.inst.evtJSONStrings.length) :
    (nextRecord env s).1 = s.withInst (fun p => { p with evtJSONListPos := p.evtJSONListPos + 1 }) ∧
    (Benign (nextRecord env s).2 → (nextRecord env s).2 =
      (recordEvent env s.inst.evtJSONStrings[s.inst.evtJSONListPos]).elim (.error .timeout) .ok) := by
  have hne : s.inst.evtJSONStrings.length ≠ 0 := by omega
  have hidx : goIndex s.inst.evtJSONStrings s.inst.evtJSONListPos =
      .ok s.inst.evtJSONStrings[s.inst.evtJSONListPos] := by
    rw [goIndex_of_lt _ (by omega) (by omega)]; rfl
  simp only [nextRecord, GoM.get_bind, hne, ne_eq, not_false_eq_true, if_true, hidx,
    GoM.lift_ok_bind, GoM.modify_bind]
  generalize s.inst.evtJSONStrings[s.inst.evtJSONListPos] = r
  generalize s.withInst (fun p => { p with evtJSONListPos := p.evtJSONListPos + 1 }) = s'
  simp only [recordEvent, Option.bind_eq_bind]
  rcases env.parseRecord r with _ | cr
  · simp only [Option.none_bind, Option.elim_none, GoM.throw_apply, implies_true, and_self]
  simp only [Option.some_bind]
  rcases cr "eventTime" with _ | timeVal
  · simp only [Option.none_bind, Option.elim_none, GoM.throw_apply, implies_true, and_self]
  simp only [Option.some_bind]
  rcases env.rfc3339 timeVal with _ | t1
  · simp only [Option.none_bind, Option.elim_none, GoM.throw_apply, implies_true, and_self]
  simp only [Option.some_bind]
  rcases cr "eventType" with _ | typeVal
  · simp only [Option.none_bind, Option.elim_none, GoM.throw_apply, implies_true, and_self]
  simp only [Option.some_bind]
  split_ifs with hin
  · simp only [Option.elim_none, GoM.throw_apply, implies_true, and_self]
  rcases env.write r with ⟨n, _ | e⟩
  · by_cases hn : n < r.length
    · simp [hn]
    · simp [hn]
  · simp

theorem nextRecord_files : (nextRecord env s).1.inst.files = s.inst.files := by
  by_cases h : s.inst.evtJSONListPos < s.inst.evtJSONStrings.length
  · rw [(nextRecord_emits env h).1]; rfl
  by_cases h0 : s.inst.evtJSONStrings.length = 0
  · rw [nextRecord_empty env h0]
  · simp only [nextRecord, GoM.get_bind, ne_eq, h0, not_false_eq_true, if_true, GoM.lift_panic_bind,
      goIndex_panic _ (show (s.inst.evtJSONStrings.length : Int) ≤ s.inst.evtJSONListPos by omega)]

theorem loadNextFile_files : (loadNextFile env s).1.inst.files = s.inst.files := by
  simp only [loadNextFile, GoM.get_bind]
  rcases goIndex s.inst.files s.inst.curFileNum.toNat with file | e | p <;>
    simp only [GoM.lift_ok_bind, GoM.lift_error_bind, GoM.lift_panic_bind, GoM.modify_bind]
  rw [GoM.bind_apply, GoM.bind]
  generalize hs₁ : s.withInst (fun p => { p with curFileNum := p.curFileNum + 1 }) = s₁
  have hf : (fetchFile env s.inst.openMode file s₁).1.inst.files = s.inst.files := by
    subst hs₁; cases s.inst.openMode <;> simp [fetchFile, readNextFileS3_files, Session.withInst]
  rcases hfe : fetchFile env s.inst.openMode file s₁ with ⟨s₂, b | e | p⟩ <;> rw [hfe] at hf <;>
    simp only at hf ⊢
  all_goals try exact hf
  rcases unzipFile env file b with _ | e | p <;> exact hf

theorem unzipFile_error {file : FileInfo} {b : Bytes} {e : Err}
    (h : unzipFile env file b = .error e) : e = .timeout := by
  unfold unzipFile at h
  split at h
  · split at h <;> cases h; rfl
  · cases h

variable (obj : String → String → Bytes)

theorem nextRecord_step (hpos : s.inst.evtJSONListPos < s.inst.evtJSONStrings.length)
    (hr : Benign (nextRecord env s).2) :
    emitted (nextRecord env s).2 ++ pending env obj (nextRecord env s).1 = pending env obj s := by
  obtain ⟨hs', hres⟩ := nextRecord_emits env hpos
  rw [hres hr, hs', pending, pending, List.drop_eq_getElem_cons hpos, List.filterMap_cons]
  cases recordEvent env s.inst.evtJSONStrings[s.inst.evtJSONListPos] <;>
    simp [emitted, Session.withInst]

theorem Inv.advance (hi : Inv obj s) (hpos : s.inst.evtJSONListPos < s.inst.evtJSONStrings.length) :
    Inv obj (s.withInst fun p => { p with evtJSONListPos := p.evtJSONListPos + 1 }) :=
  ⟨hpos, hi.cur_le, fun hm => (hi.cursors hm).frame rfl rfl rfl⟩

theorem pending_polled {k : Nat} {new : List FileInfo} {st : S3State}
    (hc : s.inst.curFileNum.toNat = s.inst.files.length) :
    pending env obj { s with polls := k, inst := s.inst.polled new st } =
      pending env obj s ++ arrived env obj s { s with polls := k, inst := s.inst.polled new st } := by
  simp [pending, arrived, PluginInstance.polled, hc]

theorem Inv.polled {k : Nat} {new : List FileInfo} {st : S3State} (hi : Inv obj s)
    (hc : s.inst.curFileNum.toNat = s.inst.files.length)
    (hsz : SlotsSized s.inst.config.S3DownloadConcurrency st)
    (hcl : s.inst.s3.clientSet = true → st.clientSet = true)
    (hnew : new ≠ [] → st.clientSet = true) :
    Inv obj { s with polls := k, inst := s.inst.polled new st } := by
  refine ⟨hi.pos_le, by simp [PluginInstance.polled]; omega, fun hm => ?_⟩
  have hcur := hi.cursors hm
  show Cursors obj s.inst.curFileNum.toNat _
  rw [hc] at hcur ⊢
  exact hcur.polled hsz hcl hnew

theorem ensureFile_spec {s' : Session} {r : GoResult Unit} (h : ensureFile env s = (s', r))
    (hr : Benign r) (hi : Inv obj s) (hsmall : s'.inst.files.length < 2 ^ 32) :
    Inv obj s' ∧ (∃ k new st, s' = { s with polls := k, inst := s.inst.polled new st }) ∧
      pending env obj s' = pending env obj s ++ arrived env obj s s' ∧
      (r = .ok () → s.inst.curFileNum.toNat < s'.inst.files.length) ∧
      (r = .error .eof → s' = s ∧ s.inst.files.length ≤ s.inst.curFileNum.toNat) := by
  have hnone : pending env obj s = pending env obj s ++ arrived env obj s s := by simp [arrived]
  have hself : s = { s with polls := s.polls, inst := s.inst.polled [] s.inst.s3 } := by simp
  simp only [ensureFile, GoM.get_bind] at h
  by_cases hge : s.inst.files.length.toUInt32 ≤ s.inst.curFileNum
  case neg =>
    simp only [ge_iff_le, hge, if_false, GoM.pure_apply, Prod.mk.injEq] at h
    obtain ⟨rfl, rfl⟩ := h
    have := (toUInt32_le_iff hsmall).not.mp hge
    exact ⟨hi, ⟨_, _, _, hself⟩, hnone, fun _ => by omega, nofun⟩
  by_cases hsqs : s.inst.openMode = .sqsMode
  case neg =>
    simp only [ge_iff_le, hge, hsqs, if_true, if_false, GoM.throw_apply, Prod.mk.injEq] at h
    obtain ⟨rfl, rfl⟩ := h
    exact ⟨hi, ⟨_, _, _, hself⟩, hnone, nofun, fun _ => ⟨rfl, (toUInt32_le_iff hsmall).mp hge⟩⟩
  simp only [ge_iff_le, hge, hsqs, if_true] at h
  have hcur : Cursors obj s.inst.curFileNum.toNat s.inst := hi.cursors (by rw [hsqs]; decide)
  rcases getMoreSQSFiles_cases env s with ⟨e, he, h1, h2⟩ | ⟨p, hp⟩ |
    ⟨hok, new, st, hst, hcl, hnew, hsz⟩
  · rw [GoM.bind_of_error (show getMoreSQSFiles env s = (_, .error e) from Prod.ext rfl he)] at h
    cases h; simp [h1, h2] at hr
  · rw [GoM.bind_of_panic (show getMoreSQSFiles env s = (_, .panic p) from Prod.ext rfl hp)] at h
    cases h; simp at hr
  rw [GoM.bind_of_ok (show getMoreSQSFiles env s = (_, .ok ()) from Prod.ext hst hok),
    GoM.get_bind] at h
  have hs' : s' = { s with polls := s.polls + 1, inst := s.inst.polled new st } := by
    split_ifs at h <;> simp only [GoM.throw_apply, GoM.pure_apply, Prod.mk.injEq] at h <;>
      exact h.1.symm
  subst hs'
  replace hsmall : (s.inst.files ++ new).length < 2 ^ 32 := hsmall
  have hc : s.inst.curFileNum.toNat = s.inst.files.length :=
    le_antisymm hi.cur_le ((toUInt32_le_iff (by simp at hsmall; omega)).mp hge)
  refine ⟨hi.polled obj hc (hsz hcur.bufs_len) hcl hnew, ⟨_, _, _, rfl⟩, pending_polled env obj hc, ?_⟩
  split_ifs at h with hge' <;> simp only [GoM.throw_apply, GoM.pure_apply, Prod.mk.injEq] at h <;>
    rw [← h.2]
  · simp
  · exact ⟨fun _ => Nat.lt_of_not_le ((toUInt32_le_iff hsmall).not.mp hge'), nofun⟩

variable (hobj : ∀ b j bk key bytes, env.download b j bk key = .ok bytes → bytes = obj bk key)
include hobj

theorem fetchFile_spec {c : Nat} (hlt : c < s.inst.files.length)
    (hc : s.inst.openMode ≠ .fileMode → Cursors obj c s.inst)
    {s' : Session} {r : GoResult Bytes}
    (h : fetchFile env s.inst.openMode s.inst.files[c] s = (s', r)) (hr : Benign r) :
    ∃ bytes, r = .ok bytes ∧
      fileEvents env obj s.inst.openMode s.inst.s3.bucket s.inst.files[c] =
        (fileRecords env s.inst.files[c] bytes).filterMap (recordEvent env) ∧
      ∃ st b', s' = { s with inst := { s.inst with s3 := st }, batches := b' } ∧
        st.bucket = s.inst.s3.bucket ∧ (s.inst.openMode ≠ .fileMode → Cursors obj (c + 1) s'.inst) := by
  rcases hm : s.inst.openMode with _ | _ | _
  case fileMode =>
    simp only [hm, fetchFile, GoM.lift_apply, Prod.mk.injEq] at h
    obtain ⟨rfl, rfl⟩ := h
    rcases hf : env.readFile s.inst.files[c].name with e | bytes
    · simp [hf] at hr
    · exact ⟨bytes, by simp [hf], by simp [fileEvents, hf], s.inst.s3, s.batches, rfl, rfl, nofun⟩
  all_goals
    have hc := hc (by simp [hm])
    simp only [hm, fetchFile] at h
    obtain ⟨hb, hc', st, b', heq, hbk, -⟩ := readNextFileS3_cursors env obj hobj hc hlt (by rw [h]; exact hr)
    rw [h] at hb hc' heq
    subst hb heq
    exact ⟨_, rfl, by simp [fileEvents], st, b', rfl, hbk, fun _ => hc'⟩

theorem loadNextFile_spec {s' : Session} {r : GoResult Unit} (h : loadNextFile env s = (s', r))
    (hr : Benign r) (hi : Inv obj s) (hlt : s.inst.curFileNum.toNat < s.inst.files.length)
    (hpos : s.inst.evtJSONStrings.length ≤ s.inst.evtJSONListPos)
    (hsmall : s.inst.files.length < 2 ^ 32) :
    Inv obj s' ∧ pending env obj s' = pending env obj s ∧ s'.inst.files = s.inst.files ∧
      s'.inst.openMode = s.inst.openMode ∧ s'.inst.s3.bucket = s.inst.s3.bucket ∧
      (r = .ok () → s'.inst.evtJSONListPos < s'.inst.evtJSONStrings.length ∨
        s'.inst.evtJSONStrings.length = 0) ∧ r ≠ .error .eof := by
  set c := s.inst.curFileNum.toNat
  have hc1 : (s.inst.curFileNum + 1).toNat = c + 1 := UInt32.toNat_add_one (by omega)
  have hidx : goIndex s.inst.files c = .ok s.inst.files[c] := by
    rw [goIndex_of_lt _ (by omega) (by omega)]; rfl
  simp only [loadNextFile, GoM.get_bind, hidx, GoM.lift_ok_bind, GoM.modify_bind] at h
  rcases hf : fetchFile env s.inst.openMode s.inst.files[c]
    (s.withInst fun p => { p with curFileNum := p.curFileNum + 1 }) with ⟨s₂, rf⟩
  rw [GoM.bind_apply, GoM.bind, hf] at h
  have hrf : Benign rf := by
    rcases rf with _ | e | p
    · trivial
    · simp only [Prod.mk.injEq] at h; rw [← h.2] at hr; simpa using hr
    · simp only [Prod.mk.injEq] at h; rw [← h.2] at hr; simp at hr
  obtain ⟨bytes, rfl, hev, st, b', rfl, hbk, hcur⟩ := fetchFile_spec env obj hobj
    (s := s.withInst fun p => { p with curFileNum := p.curFileNum + 1 }) hlt (fun hm => (hi.cursors hm).frame rfl rfl rfl) hf hrf
  replace hbk : st.bucket = s.inst.s3.bucket := hbk
  replace hev : fileEvents env obj s.inst.openMode s.inst.s3.bucket s.inst.files[c] =
      (fileRecords env s.inst.files[c] bytes).filterMap (recordEvent env) := hev
  have hpend : pending env obj s =
      (fileRecords env s.inst.files[c] bytes).filterMap (recordEvent env) ++
        (s.inst.files.drop (c + 1)).flatMap (fileEvents env obj s.inst.openMode st.bucket) := by
    rw [pending, List.drop_eq_nil_of_le hpos, List.filterMap_nil, List.nil_append,
      List.drop_eq_getElem_cons hlt, List.flatMap_cons, ← hev, hbk]
  simp only at h
  rcases hz : unzipFile env s.inst.files[c] bytes with zdata | e | p
  · simp only [hz, GoM.lift_ok_bind, GoM.modify_apply, Prod.mk.injEq] at h
    obtain ⟨rfl, rfl⟩ := h
    have hrec : fileRecords env s.inst.files[c] bytes = extractRecordStrings zdata [] := by
      simp [fileRecords, hz]
    have hcur_le : (s.inst.curFileNum + 1).toNat ≤ s.inst.files.length := by omega
    refine ⟨⟨Nat.zero_le _, hcur_le, fun hm => ?_⟩, ?_, rfl, rfl, hbk, fun _ => (Nat.eq_zero_or_pos _).symm, nofun⟩
    · show Cursors obj (s.inst.curFileNum + 1).toNat _
      rw [hc1]
      exact (hcur hm).frame rfl rfl rfl
    · rw [hpend, ← hrec, pending]
      simp only [Session.withInst, List.drop_zero, hc1]
  · simp only [hz, GoM.lift_error_bind, Prod.mk.injEq] at h
    obtain ⟨rfl, rfl⟩ := h
    have hrec : fileRecords env s.inst.files[c] bytes = [] := by simp [fileRecords, hz]
    have hcur_le : (s.inst.curFileNum + 1).toNat ≤ s.inst.files.length := by omega
    refine ⟨⟨hi.pos_le, hcur_le, fun hm => ?_⟩, ?_, rfl, rfl, hbk, nofun,
      by rw [unzipFile_error env hz]; decide⟩
    · show Cursors obj (s.inst.curFileNum + 1).toNat _
      rw [hc1]
      exact hcur hm
    · rw [hpend, hrec, pending]
      simp only [Session.withInst, hc1, List.drop_eq_nil_of_le hpos, List.filterMap_nil]
  · simp [hz] at h; simp [← h.2] at hr

theorem openIfConsumed_spec {s' : Session} {r : GoResult Unit} (h : openIfConsumed env s = (s', r))
    (hr : Benign r) (hi : Inv obj s) (hsmall : s'.inst.files.length < 2 ^ 32) :
    Inv obj s' ∧ pending env obj s' = pending env obj s ++ arrived env obj s s' ∧
      (r = .ok () → s'.inst.evtJSONListPos < s'.inst.evtJSONStrings.length ∨
        s'.inst.evtJSONStrings.length = 0) ∧
      (r = .error .eof → s' = s ∧ pending env obj s = []) := by
  simp only [openIfConsumed, GoM.get_bind, ge_iff_le] at h
  split_ifs at h with hpos
  case neg =>
    simp only [GoM.pure_apply, Prod.mk.injEq] at h
    obtain ⟨rfl, rfl⟩ := h
    exact ⟨hi, by simp [arrived], fun _ => .inl (by omega), nofun⟩
  simp only [openNextFile] at h
  rcases he : ensureFile env s with ⟨s₁, _ | e | p⟩
  · rw [GoM.bind_of_ok he] at h
    have hfiles : s'.inst.files = s₁.inst.files := by rw [← loadNextFile_files env (s := s₁), h]
    rw [hfiles] at hsmall
    obtain ⟨hi₁, ⟨k, new, st, rfl⟩, hpend₁, hlt, -⟩ := ensureFile_spec env obj he trivial hi hsmall
    obtain ⟨hi₂, hpend₂, hf₂, hmode, hbk, hok, hne⟩ :=
      loadNextFile_spec env obj hobj h hr hi₁ (hlt rfl) hpos hsmall
    refine ⟨hi₂, ?_, hok, fun h => absurd h hne⟩
    rw [hpend₂, hpend₁]
    simp only [arrived, hf₂, hmode, hbk]
  · rw [GoM.bind_of_error he] at h
    cases h
    obtain ⟨hi₁, ⟨k, new, st, rfl⟩, hpend, -, heof⟩ := ensureFile_spec env obj he hr hi hsmall
    refine ⟨hi₁, hpend, nofun, fun h => ?_⟩
    obtain ⟨hs, hlen⟩ := heof h
    refine ⟨hs, ?_⟩
    simp [pending, List.drop_eq_nil_of_le hpos, List.drop_eq_nil_of_le hlen]
  · rw [GoM.bind_of_panic he] at h; cases h; simp at hr

end

/-! ## Whole runs -/

theorem runCalls_fixed (env : Env) {s : Session} {r : GoResult Event} (h : nextEvent env s = (s, r)) :
    ∀ k, runCalls env k s = (s, List.replicate k r)
  | 0 => rfl
  | k + 1 => by simp only [runCalls, h, runCalls_fixed env h k, List.replicate_succ]

/-! ## Runs on a sample bucket -/

/-- A file of one record. -/
def oneRecordFile : Bytes := ascii "\x7b\"Records\":[\x7b\"eventTime\":\"t\"\x7d]\x7d"

/-- Every read succeeds with `oneRecordFile`, and every record is accepted. -/
def oneRecordEnv : Env where
  listPages _ := []
  download _ _ _ _ := .ok oneRecordFile
  parseInterval _ := .ok (⟨1, 1, 1, 0, 0, 0, 0⟩, ⟨1, 1, 1, 0, 0, 0, 0⟩)
  getQueueUrl _ _ := .ok ""
  receive _ := .ok []
  delete _ := .ok ()
  unmarshalJson _ := .ok .null
  unmarshalS3Event _ := .ok []
  unmarshalSns _ := .ok ⟨"", []⟩
  readFile _ := .ok oneRecordFile
  dirExists _ := false
  walk _ := []
  gunzip _ := none
  parseRecord _ := some fun k =>
    if k = "eventTime" then some (ascii "t") else if k = "eventType" then some (ascii "AwsApiCall")
    else none
  rfc3339 _ := some 0
  write d := (d.length, none)

/-- An S3 session over two objects with one download slot, as `openS3` leaves it. -/
def twoFileSession : Session :=
  ⟨{ PluginInstance.fresh .s3Mode ⟨1, "", "", false, false, ""⟩ with
    files := [fileInfoOf "a.json", fileInfoOf "b.json"]
    s3 := ⟨"b", true, [[]], 0, 0, 0⟩ }, 0, 0⟩

end CloudTrail
