import CloudTrail.Progress

/-! The download cursors of an S3 session over a run: in bounds while no download fails, full
batches while nothing fails. -/

namespace CloudTrail

/-- What the downloads read and write of a session: the file cursor, the count of batches, the
configuration, the files and the download state. -/
def dlView (s : Session) : UInt32 × Nat × PluginConfig × List FileInfo × S3State :=
  (s.inst.curFileNum, s.batches, s.inst.config, s.inst.files, s.inst.s3)

theorem dlView_frame {s t : Session} (h : dlView t = dlView s) :
    (t.batches, t.inst.config, t.inst.files, t.inst.s3) =
      (s.batches, s.inst.config, s.inst.files, s.inst.s3) := by
  simp only [dlView, Prod.mk.injEq] at h ⊢
  exact h.2

section
variable (env : Env) {s : Session}

theorem loadNextFile_downloads (hm : s.inst.openMode ≠ .fileMode)
    (hlt : s.inst.curFileNum.toNat < s.inst.files.length) :
    dlView (loadNextFile env s).1 = dlView (readNextFileS3 env (s.withInst fun p => { p with curFileNum := p.curFileNum + 1 })).1 ∧
      (Benign (loadNextFile env s).2 → Benign (readNextFileS3 env (s.withInst fun p => { p with curFileNum := p.curFileNum + 1 })).2) := by
  obtain ⟨file, hidx⟩ : ∃ file, goIndex s.inst.files s.inst.curFileNum.toNat = .ok file :=
    ⟨_, goIndex_of_lt _ (by omega) (by omega)⟩
  have hfetch : fetchFile env s.inst.openMode file = readNextFileS3 env := by
    cases hmode : s.inst.openMode
    exacts [absurd hmode hm, rfl, rfl]
  simp only [loadNextFile, GoM.get_bind, hidx, GoM.lift_ok_bind, GoM.modify_bind, hfetch]
  -- gunzipping and splitting leave the downloads alone
  exact ⟨GoM.bind_keeps dlView (fun a t => by rcases unzipFile env file a with _ | _ | _ <;> rfl) _,
    benign_of_bind⟩

theorem openIfConsumed_downloads (hm : s.inst.openMode = .s3Mode) :
    dlView (openIfConsumed env s).1 = dlView s ∨
      s.inst.curFileNum.toNat < s.inst.files.length % 2 ^ 32 ∧
      dlView (openIfConsumed env s).1 = dlView (readNextFileS3 env (s.withInst fun p => { p with curFileNum := p.curFileNum + 1 })).1 ∧
      (Benign (openIfConsumed env s).2 → Benign (readNextFileS3 env (s.withInst fun p => { p with curFileNum := p.curFileNum + 1 })).2) := by
  simp only [openIfConsumed, GoM.get_bind]
  split_ifs with hpos
  swap; · exact .inl rfl
  have he := ensureFile_of_ne_sqs env s (by rw [hm]; decide)
  split_ifs at he with hf
  · rw [openNextFile, GoM.bind_of_error he]; exact .inl rfl
  rw [openNextFile, GoM.bind_of_ok he]
  exact .inr ⟨Nat.lt_of_not_le hf, loadNextFile_downloads env (by rw [hm]; decide)
    (Nat.lt_of_lt_of_le (Nat.lt_of_not_le hf) (Nat.mod_le _ _))⟩

theorem nextEvent_downloads (hm : s.inst.openMode = .s3Mode) :
    dlView (nextEvent env s).1 = dlView s ∨
      s.inst.curFileNum.toNat < s.inst.files.length % 2 ^ 32 ∧
      dlView (nextEvent env s).1 = dlView (readNextFileS3 env (s.withInst fun p => { p with curFileNum := p.curFileNum + 1 })).1 ∧
      (Benign (nextEvent env s).2 → Benign (readNextFileS3 env (s.withInst fun p => { p with curFileNum := p.curFileNum + 1 })).2) := by
  have hrec : ∀ (a : Unit) (t : Session), dlView (nextRecord env t).1 = dlView t :=
    fun _ t => by rw [nextRecord_state]; split_ifs <;> rfl
  rw [show dlView (nextEvent env s).1 = dlView (openIfConsumed env s).1 from
    GoM.bind_keeps dlView hrec s]
  exact (openIfConsumed_downloads env hm).imp_right fun ⟨h1, h2, h3⟩ =>
    ⟨h1, h2, h3 ∘ benign_of_bind⟩

theorem readNextFileS3_curFileNum : (readNextFileS3 env s).1.inst.curFileNum = s.inst.curFileNum := by
  obtain ⟨⟨st, b, h⟩, -⟩ := readNextFileS3_state env s
  rw [h]

end

/-! ## While no download fails, nothing panics -/

/-- The download state as `readNextFileS3` needs it to stay in bounds, with the file cursor at
`c`: at least one slot, the slot slice sized to `D` once the client is set, the client set once
there are files, and the download cursors agreeing with `c`. -/
structure SlotsReady (c : Nat) (s : Session) : Prop where
  conc_pos : 1 ≤ s.inst.config.S3DownloadConcurrency
  bufs_len : s.inst.s3.clientSet = true →
    s.inst.s3.DownloadBufs.length = s.inst.config.S3DownloadConcurrency.toNat
  client : s.inst.files ≠ [] → s.inst.s3.clientSet = true
  agree : (c : Int) = s.inst.s3.lastDownloadedFileNum - s.inst.s3.nFilledBufs + s.inst.s3.curBuf
  curBuf_nonneg : 0 ≤ s.inst.s3.curBuf
  curBuf_le : s.inst.s3.curBuf ≤ s.inst.s3.nFilledBufs
  filled_le : s.inst.s3.nFilledBufs ≤ s.inst.config.S3DownloadConcurrency
  last_le : s.inst.s3.lastDownloadedFileNum ≤ s.inst.files.length

theorem SlotsReady.frame {c : Nat} {s t : Session} (h : SlotsReady c s)
    (hv : (t.batches, t.inst.config, t.inst.files, t.inst.s3) =
      (s.batches, s.inst.config, s.inst.files, s.inst.s3)) : SlotsReady c t := by
  simp only [Prod.mk.injEq] at hv
  obtain ⟨-, hcfg, hf, hs3⟩ := hv
  obtain ⟨h1, h2, h3, h4, h5, h6, h7, h8⟩ := h
  rw [← hcfg, ← hf, ← hs3] at *
  exact ⟨h1, h2, h3, h4, h5, h6, h7, h8⟩

theorem firstError_eq_none {env : Env} {b : Nat} {bucket : String} {batch : List FileInfo}
    (hdl : ∀ b j bucket key, ∃ bytes, env.download b j bucket key = .ok bytes) :
    firstError env b bucket batch = none := by
  unfold firstError
  rw [List.findSome?_eq_none_iff]
  rintro ⟨j, f⟩ -
  obtain ⟨bytes, h⟩ := hdl b j bucket f.name
  simp [h]

theorem Fresh.slotsReady {s : Session} (hs : Fresh s) (hm : s.inst.openMode ≠ .fileMode) :
    SlotsReady s.inst.curFileNum.toNat s := by
  obtain ⟨hD, hsz, hcl, hl, hn, hc⟩ := hs.downloads hm
  exact ⟨hD, hsz, hcl, by simp [hs.cur, hl, hn, hc], by omega, by omega, by omega, by omega⟩

section
variable (env : Env) {s : Session}
  (hdl : ∀ b j bucket key, ∃ bytes, env.download b j bucket key = .ok bytes)
include hdl

theorem readNextFileS3_ready {c : Nat} (h : SlotsReady c s) (hlt : c < s.inst.files.length) :
    (∃ bytes, (readNextFileS3 env s).2 = .ok bytes) ∧ SlotsReady (c + 1) (readNextFileS3 env s).1 := by
  obtain ⟨hD, hlen, hcl, hag, h0, hle, hfD, hlast⟩ := h
  have hbl : s.inst.s3.DownloadBufs.length = s.inst.config.S3DownloadConcurrency.toNat :=
    hlen (hcl (List.ne_nil_of_length_pos (by omega)))
  by_cases hpre : s.inst.s3.curBuf < s.inst.s3.nFilledBufs
  · rw [readNextFileS3_prefetch env hpre]
    refine ⟨⟨_, goIndex_of_lt _ h0 (by omega)⟩, hD, hlen, hcl, ?_, ?_, ?_, hfD, hlast⟩ <;>
      simp only [Session.withS3, Session.withInst] <;> omega
  -- the filled slots are used up: a batch of `batchSize` files from `c` on
  have hn : 1 ≤ batchSize s.inst ∧ batchSize s.inst ≤ s.inst.config.S3DownloadConcurrency ∧
      s.inst.s3.lastDownloadedFileNum + batchSize s.inst ≤ s.inst.files.length := by
    unfold batchSize min; split_ifs <;> omega
  have hb : goSlice s.inst.files s.inst.s3.lastDownloadedFileNum
      (s.inst.s3.lastDownloadedFileNum + batchSize s.inst) = .ok ((s.inst.files.drop
        s.inst.s3.lastDownloadedFileNum.toNat).take (batchSize s.inst).toNat) := by
    rw [goSlice_ok _ (by omega) (by omega) hn.2.2, add_sub_cancel_left]
  have hd : downloadBatch env s.batches s.inst.s3.bucket ((s.inst.files.drop
      s.inst.s3.lastDownloadedFileNum.toNat).take (batchSize s.inst).toNat) s.inst.s3.DownloadBufs =
      .ok (filledBufs env s.batches s.inst.s3.bucket ((s.inst.files.drop
        s.inst.s3.lastDownloadedFileNum.toNat).take (batchSize s.inst).toNat) s.inst.s3.DownloadBufs,
        none) := by
    rw [downloadBatch, writesPastEnd_eq_false _ _ _ _ _ (by simp only [List.length_take]; omega),
      firstError_eq_none hdl]
    rfl
  rw [readNextFileS3_batch env hpre (by omega) hb hd]
  refine ⟨⟨_, goIndex_of_lt _ le_rfl (by simp only [length_filledBufs]; omega)⟩, hD,
    fun _ => by simpa only [Session.afterBatch, Session.withS3, Session.withInst,
      length_filledBufs] using hbl, hcl, ?_, ?_, ?_, ?_, ?_⟩ <;>
    simp only [Session.afterBatch, Session.withS3, Session.withInst] <;> omega

theorem nextEvent_ready (hm : s.inst.openMode = .s3Mode) (h : SlotsReady s.inst.curFileNum.toNat s) :
    (∀ p, (nextEvent env s).2 ≠ .panic p) ∧
      SlotsReady (nextEvent env s).1.inst.curFileNum.toNat (nextEvent env s).1 := by
  refine ⟨nextEvent_ne_panic_of_fetch env s (by rw [hm]; decide) fun hlt file p => ?_, ?_⟩
  · obtain ⟨⟨bytes, hb⟩, -⟩ := readNextFileS3_ready env hdl (s := (s.withInst fun p => { p with curFileNum := p.curFileNum + 1 })) (h.frame rfl) hlt
    rw [hm, fetchFile, hb]
    nofun
  rcases nextEvent_downloads env hm with hv | ⟨hlt, hv, -⟩
  · rw [show (nextEvent env s).1.inst.curFileNum = s.inst.curFileNum from congrArg Prod.fst hv]
    exact h.frame (dlView_frame hv)
  · rw [show (nextEvent env s).1.inst.curFileNum = s.inst.curFileNum + 1 from
      (congrArg Prod.fst hv).trans (readNextFileS3_curFileNum env), UInt32.toNat_add_one (by omega)]
    exact (readNextFileS3_ready env hdl (s := (s.withInst fun p => { p with curFileNum := p.curFileNum + 1 })) (h.frame rfl)
      (Nat.lt_of_lt_of_le hlt (Nat.mod_le _ _))).2.frame (dlView_frame hv)

theorem runCalls_ready : ∀ (k : Nat) (s : Session), s.inst.openMode = .s3Mode →
    SlotsReady s.inst.curFileNum.toNat s → ∀ p, .panic p ∉ (runCalls env k s).2
  | 0, _, _, _, _ => List.not_mem_nil _
  | k + 1, s, hm, h, p => by
    obtain ⟨hp, h₁⟩ := nextEvent_ready env hdl hm h
    simp only [runCalls, List.mem_cons, not_or]
    exact ⟨fun he => hp p he.symm,
      runCalls_ready k _ ((nextEvent_frame env s).mode.trans hm) h₁ p⟩

end

/-- An S3 session never panics while no download fails: over every run of `nextEvent` calls from
the state `openS3` leaves, whatever each parse, gunzip and write returns, every call returns an
event or an error. -/
theorem runCalls_s3_no_panic (env : Env)
    (hdl : ∀ b j bucket key, ∃ bytes, env.download b j bucket key = .ok bytes) {s : Session}
    (hs : Fresh s) (hm : s.inst.openMode = .s3Mode) (k : Nat) :
    ∀ p, .panic p ∉ (runCalls env k s).2 :=
  runCalls_ready env hdl k s hm (hs.slotsReady (by rw [hm]; decide))

theorem twoFileSession_fresh : Fresh twoFileSession :=
  ⟨rfl, rfl, rfl, fun _ => ⟨by decide, fun _ => rfl, fun _ => rfl, rfl, rfl, rfl⟩⟩

/-- The two sample objects, every download succeeding. -/
theorem runCalls_s3_no_panic_two_files :
    (∀ b j bucket key, ∃ bytes, oneRecordEnv.download b j bucket key = .ok bytes) ∧
    Fresh twoFileSession ∧ twoFileSession.inst.openMode = .s3Mode ∧
    ∀ p, .panic p ∉ (runCalls oneRecordEnv 4 twoFileSession).2 := by
  have hdl : ∀ b j bucket key, ∃ bytes, oneRecordEnv.download b j bucket key = .ok bytes :=
    fun _ _ _ _ => ⟨_, rfl⟩
  exact ⟨hdl, twoFileSession_fresh, rfl,
    runCalls_s3_no_panic oneRecordEnv hdl twoFileSession_fresh rfl 4⟩

/-! ## Over a run in which nothing fails, batches are full -/

/-- The download counters of a session that had made `b₀` batches, with its file cursor at `c`:
the cursors agree as `nextEvent` moves them, `lastDownloadedFileNum` is `min(m·D, len(files))`
after `m` more batches, and every batch but the last was full. -/
structure Batched (b₀ c : Nat) (s : Session) : Prop where
  conc_pos : 1 ≤ s.inst.config.S3DownloadConcurrency
  agree : (c : Int) = s.inst.s3.lastDownloadedFileNum - s.inst.s3.nFilledBufs + s.inst.s3.curBuf
  curBuf_nonneg : 0 ≤ s.inst.s3.curBuf
  curBuf_le : s.inst.s3.curBuf ≤ s.inst.s3.nFilledBufs
  count : s.inst.s3.lastDownloadedFileNum =
    min (((s.batches : Int) - b₀) * s.inst.config.S3DownloadConcurrency) s.inst.files.length
  full : ((s.batches : Int) - b₀ - 1) * s.inst.config.S3DownloadConcurrency <
    s.inst.s3.lastDownloadedFileNum

theorem Batched.frame {b₀ c : Nat} {s t : Session} (h : Batched b₀ c s)
    (hv : (t.batches, t.inst.config, t.inst.files, t.inst.s3) =
      (s.batches, s.inst.config, s.inst.files, s.inst.s3)) : Batched b₀ c t := by
  simp only [Prod.mk.injEq] at hv
  obtain ⟨hb, hcfg, hf, hs3⟩ := hv
  obtain ⟨h1, h2, h3, h4, h5, h6⟩ := h
  rw [← hb, ← hcfg, ← hf, ← hs3] at *
  exact ⟨h1, h2, h3, h4, h5, h6⟩

theorem batch_count_step {b b₀ : Nat} {D len last : Int} (hD : 1 ≤ D)
    (hc : last = min (((b : Int) - b₀) * D) len) (hlt : last < len) :
    last + min D (len - last) = min ((((b + 1 : Nat) : Int) - b₀) * D) len ∧
      (((b + 1 : Nat) : Int) - b₀ - 1) * D < last + min D (len - last) := by
  have h1 : (((b + 1 : Nat) : Int) - b₀) * D = ((b : Int) - b₀) * D + D := by push_cast; ring
  have h2 : (((b + 1 : Nat) : Int) - b₀ - 1) * D = ((b : Int) - b₀) * D := by push_cast; ring
  rw [h1, h2]
  subst hc
  generalize ((b : Int) - b₀) * D = X at *
  unfold min at *
  split_ifs at * <;> omega

section
variable (env : Env) {s : Session}

theorem readNextFileS3_batched {b₀ c : Nat} (h : Batched b₀ c s) (hlt : c < s.inst.files.length)
    (hr : Benign (readNextFileS3 env s).2) : Batched b₀ (c + 1) (readNextFileS3 env s).1 := by
  obtain ⟨hD, hag, h0, hle, hcount, hfull⟩ := h
  by_cases hpre : s.inst.s3.curBuf < s.inst.s3.nFilledBufs
  · rw [readNextFileS3_prefetch env hpre]
    exact ⟨hD, by simp only [Session.withS3, Session.withInst]; push_cast; omega,
      by simp only [Session.withS3, Session.withInst]; omega,
      by simp only [Session.withS3, Session.withInst]; omega, hcount, hfull⟩
  -- the filled slots are used up: a batch of `batchSize` files from `c` on
  have hlast : s.inst.s3.lastDownloadedFileNum = c := by omega
  have hlen : s.inst.s3.lastDownloadedFileNum < s.inst.files.length := by omega
  obtain ⟨hnext, hfull'⟩ := batch_count_step hD hcount hlen
  have hn : 1 ≤ batchSize s.inst ∧ s.inst.s3.lastDownloadedFileNum + batchSize s.inst ≤
      s.inst.files.length := by
    unfold batchSize min; split_ifs <;> omega
  have hb : goSlice s.inst.files s.inst.s3.lastDownloadedFileNum
      (s.inst.s3.lastDownloadedFileNum + batchSize s.inst) = .ok ((s.inst.files.drop
        s.inst.s3.lastDownloadedFileNum.toNat).take (batchSize s.inst).toNat) := by
    rw [goSlice_ok _ (by omega) (by omega) hn.2, add_sub_cancel_left]
  rcases hd : downloadBatch env s.batches s.inst.s3.bucket _ s.inst.s3.DownloadBufs with
    ⟨bufs, _ | e⟩ | e | p
  · rw [readNextFileS3_batch env hpre (by omega) hb hd]
    refine ⟨hD, ?_, ?_, ?_, hnext, hfull'⟩ <;>
      simp only [Session.afterBatch, Session.withS3, Session.withInst] <;> push_cast <;> omega
  · rw [readNextFileS3_batch_error env hpre (by omega) hb hd] at hr
    simp at hr
  · unfold downloadBatch at hd; split_ifs at hd
  · simp only [readNextFileS3, makeChan, GoM.get_bind, hpre, ↓reduceIte,
      show 0 ≤ s.inst.config.S3DownloadConcurrency by omega, hb, GoM.lift_ok_bind, GoM.modify_bind,
      hd, GoM.lift_panic_bind] at hr
    exact absurd hr (benign_panic p)

theorem nextEvent_batched (hm : s.inst.openMode = .s3Mode) {b₀ : Nat}
    (h : Batched b₀ s.inst.curFileNum.toNat s) (hr : Benign (nextEvent env s).2) :
    Batched b₀ (nextEvent env s).1.inst.curFileNum.toNat (nextEvent env s).1 := by
  rcases nextEvent_downloads env hm with hv | ⟨hlt, hv, hb⟩
  · rw [show (nextEvent env s).1.inst.curFileNum = s.inst.curFileNum from congrArg Prod.fst hv]
    exact h.frame (dlView_frame hv)
  · rw [show (nextEvent env s).1.inst.curFileNum = s.inst.curFileNum + 1 from
      (congrArg Prod.fst hv).trans (readNextFileS3_curFileNum env), UInt32.toNat_add_one (by omega)]
    exact (readNextFileS3_batched env (s := (s.withInst fun p => { p with curFileNum := p.curFileNum + 1 })) (h.frame rfl)
      (Nat.lt_of_lt_of_le hlt (Nat.mod_le _ _)) (hb hr)).frame (dlView_frame hv)

end

theorem Fresh.batched {s : Session} (hs : Fresh s) (hm : s.inst.openMode ≠ .fileMode) :
    Batched s.batches s.inst.curFileNum.toNat s := by
  obtain ⟨hD, -, -, hl, hn, hc⟩ := hs.downloads hm
  refine ⟨hD, by simp [hs.cur, hl, hn, hc], by omega, by omega, ?_, ?_⟩
  · rw [hl, sub_self, zero_mul]; unfold min; split_ifs <;> omega
  · rw [hl, sub_self, zero_sub, neg_one_mul]; omega

theorem runCalls_batched (env : Env) {b₀ : Nat} : ∀ (k : Nat) (s : Session),
    s.inst.openMode = .s3Mode → Batched b₀ s.inst.curFileNum.toNat s →
    (∀ r ∈ (runCalls env k s).2, Benign r) →
    Batched b₀ (runCalls env k s).1.inst.curFileNum.toNat (runCalls env k s).1
  | 0, _, _, h, _ => h
  | k + 1, s, hm, h, hb => by
    simp only [runCalls, List.mem_cons, forall_eq_or_imp] at hb ⊢
    exact runCalls_batched env k _ ((nextEvent_frame env s).mode.trans hm)
      (nextEvent_batched env hm h hb.1) hb.2

theorem runCalls_at_end_of_eof (env : Env) : ∀ (k : Nat) (s : Session),
    .error .eof ∈ (runCalls env k s).2 → AtEnd (runCalls env k s).1.inst
  | 0, _, h => absurd h (List.not_mem_nil _)
  | k + 1, s, h => by
    simp only [runCalls, List.mem_cons] at h ⊢
    rcases h with he | he
    · obtain ⟨hq, hend⟩ := at_end_of_eof env s he.symm
      rw [nextEvent_at_end env s hq hend, runCalls_fixed env (nextEvent_at_end env s hq hend)]
      exact hend
    · exact runCalls_at_end_of_eof env k _ he

/-- An S3 session downloads its files in full batches. Over every run from the state `openS3`
leaves in which no call fails or panics, after `m` batches `lastDownloadedFileNum` is
`min(m·D, len(files))` and every batch but the last took `D` files; a stream that has ended
made exactly `⌈len(files) / D⌉` batches, unless its list wraps the 32-bit file counter. -/
theorem runCalls_batches (env : Env) {s : Session} (hs : Fresh s) (hm : s.inst.openMode = .s3Mode)
    (k : Nat) (hb : ∀ r ∈ (runCalls env k s).2, Benign r) :
    Batched s.batches (runCalls env k s).1.inst.curFileNum.toNat (runCalls env k s).1 ∧
    (s.inst.files.length < 2 ^ 32 → .error .eof ∈ (runCalls env k s).2 →
      (((runCalls env k s).1.batches : Int) - s.batches - 1) * s.inst.config.S3DownloadConcurrency <
        s.inst.files.length ∧
      (s.inst.files.length : Int) ≤
        (((runCalls env k s).1.batches : Int) - s.batches) * s.inst.config.S3DownloadConcurrency) := by
  have hB := runCalls_batched env k s hm (hs.batched (by rw [hm]; decide)) hb
  refine ⟨hB, fun hsmall heof => ?_⟩
  obtain ⟨-, hcfg, hfiles⟩ := runCalls_keeps env k s (by rw [hm]; decide)
  have hend := (toUInt32_le_iff (by rwa [hfiles])).mp (runCalls_at_end_of_eof env k s heof).2
  obtain ⟨-, hag, -, hle, hcount, hfull⟩ := hB
  rw [hfiles, hcfg] at *
  -- the file cursor is at the end, so every file was downloaded
  have hlast : (runCalls env k s).1.inst.s3.lastDownloadedFileNum = s.inst.files.length := by
    have := min_le_right (((((runCalls env k s).1.batches : Int) - s.batches) *
      s.inst.config.S3DownloadConcurrency)) s.inst.files.length
    omega
  rw [hlast] at hcount hfull
  refine ⟨hfull, ?_⟩
  unfold min at hcount
  split_ifs at hcount <;> omega

/-- The two sample objects with one download slot: two batches of one file. -/
theorem runCalls_batches_two_files : Fresh twoFileSession ∧ twoFileSession.inst.openMode = .s3Mode ∧
    (∀ r ∈ (runCalls oneRecordEnv 3 twoFileSession).2, Benign r) ∧
    Batched twoFileSession.batches (runCalls oneRecordEnv 3 twoFileSession).1.inst.curFileNum.toNat
      (runCalls oneRecordEnv 3 twoFileSession).1 ∧
    (twoFileSession.inst.files.length < 2 ^ 32 → .error .eof ∈ (runCalls oneRecordEnv 3 twoFileSession).2 →
      (((runCalls oneRecordEnv 3 twoFileSession).1.batches : Int) - twoFileSession.batches - 1) *
          twoFileSession.inst.config.S3DownloadConcurrency < twoFileSession.inst.files.length ∧
      (twoFileSession.inst.files.length : Int) ≤
        (((runCalls oneRecordEnv 3 twoFileSession).1.batches : Int) - twoFileSession.batches) *
          twoFileSession.inst.config.S3DownloadConcurrency) := by
  have hb : ∀ r ∈ (runCalls oneRecordEnv 3 twoFileSession).2, Benign r := by
    rw [show (runCalls oneRecordEnv 3 twoFileSession).2 =
      [.ok ⟨ascii "\x7b\"eventTime\":\"t\"\x7d", 0⟩, .ok ⟨ascii "\x7b\"eventTime\":\"t\"\x7d", 0⟩,
        .error .eof] by decide]
    simp
  exact ⟨twoFileSession_fresh, rfl, hb, runCalls_batches oneRecordEnv twoFileSession_fresh rfl 3 hb⟩

/-! ## A failed download -/

/-- The object of key `key`: one record naming it. -/
def objOf (key : String) : Bytes :=
  ascii ("\x7b\"Records\":[\x7b\"k\":\"" ++ key ++ "\"\x7d]\x7d")

/-- The event of the record of `objOf key`. -/
def keyEvent (key : String) : Event := ⟨ascii ("\x7b\"k\":\"" ++ key ++ "\"\x7d"), 0⟩

/-- A bucket of `objOf` objects whose first download, slot 0 of batch 0, times out; every record
is accepted. -/
def flakyEnv : Env where
  listPages _ := []
  download b j _ key := if b = 0 ∧ j = 0 then .error ⟨"RequestTimeout"⟩ else .ok (objOf key)
  parseInterval _ := .ok (⟨1, 1, 1, 0, 0, 0, 0⟩, ⟨1, 1, 1, 0, 0, 0, 0⟩)
  getQueueUrl _ _ := .ok ""
  receive _ := .ok []
  delete _ := .ok ()
  unmarshalJson _ := .ok .null
  unmarshalS3Event _ := .ok []
  unmarshalSns _ := .ok ⟨"", []⟩
  readFile _ := .error ⟨"ENOENT"⟩
  dirExists _ := false
  walk _ := []
  gunzip _ := none
  parseRecord _ := some fun k =>
    if k = "eventTime" then some (ascii "t") else if k = "eventType" then some (ascii "AwsApiCall")
    else none
  rfc3339 _ := some 0
  write d := (d.length, none)

/-- An S3 session over the keys `k0` to `k5` with two download slots, as `openS3` leaves it. -/
def flakySession : Session :=
  ⟨{ PluginInstance.fresh .s3Mode (s3Config 2 "") with
    files := ["k0", "k1", "k2", "k3", "k4", "k5"].map fileInfoOf
    s3 := ⟨"b", true, [[], []], 0, 0, 0⟩ }, 0, 0⟩

/-- A refill whose download fails leaves `curBuf` and `lastDownloadedFileNum` where they were and
sets `nFilledBufs` to the size of the failed batch, though `nextEvent` has already moved the file
cursor to `c + 1`: the cursors then agree with `c + 1` only when the previous batch filled
exactly one slot more than the failed one. -/
theorem readNextFileS3_error_cursors (env : Env) {s : Session} (obj : String → String → Bytes)
    {c : Nat} (hc : Cursors obj c s.inst) (hlt : c < s.inst.files.length) {e : Err}
    (hr : (readNextFileS3 env s).2 = .error e) :
    (readNextFileS3 env s).1.inst.s3.curBuf = s.inst.s3.curBuf ∧
    (readNextFileS3 env s).1.inst.s3.lastDownloadedFileNum = s.inst.s3.lastDownloadedFileNum ∧
    (readNextFileS3 env s).1.inst.s3.nFilledBufs = batchSize s.inst ∧
    (((c + 1 : Nat) : Int) = (readNextFileS3 env s).1.inst.s3.lastDownloadedFileNum -
        (readNextFileS3 env s).1.inst.s3.nFilledBufs + (readNextFileS3 env s).1.inst.s3.curBuf ↔
      s.inst.s3.nFilledBufs = batchSize s.inst + 1) := by
  by_cases hpre : s.inst.s3.curBuf < s.inst.s3.nFilledBufs
  · rw [readNextFileS3_prefetch env hpre] at hr
    simp only [goIndex] at hr
    split_ifs at hr <;> (try split at hr) <;> cases hr
  obtain ⟨-, -, -, -, hrefill⟩ := readNextFileS3_refill env obj hc hlt hpre
  have hag := hc.agree
  rcases he : firstError env s.batches s.inst.s3.bucket ((s.inst.files.drop
      s.inst.s3.lastDownloadedFileNum.toNat).take (batchSize s.inst).toNat) with _ | e'
  · rw [hrefill, he] at hr
    simp only [goIndex] at hr
    split_ifs at hr <;> (try split at hr) <;> cases hr
  · rw [hrefill, he]
    simp only [Session.afterBatch, Session.withS3, Session.withInst]
    exact ⟨trivial, trivial, trivial, by omega⟩

/-- The first refill of `flakySession` fails with the file cursor at 0 and no slot filled: it
fills two slots' worth of `nFilledBufs`, and the cursors then disagree with the file cursor `1`. -/
theorem readNextFileS3_error_cursors_flaky :
    Cursors (fun _ k => objOf k) 0 flakySession.inst ∧ 0 < flakySession.inst.files.length ∧
    (readNextFileS3 flakyEnv flakySession).2 = .error (.api ⟨"RequestTimeout"⟩) ∧
    (readNextFileS3 flakyEnv flakySession).1.inst.s3.curBuf = flakySession.inst.s3.curBuf ∧
    (readNextFileS3 flakyEnv flakySession).1.inst.s3.lastDownloadedFileNum =
      flakySession.inst.s3.lastDownloadedFileNum ∧
    (readNextFileS3 flakyEnv flakySession).1.inst.s3.nFilledBufs = batchSize flakySession.inst ∧
    ((((0 + 1 : Nat) : Int) = (readNextFileS3 flakyEnv flakySession).1.inst.s3.lastDownloadedFileNum -
        (readNextFileS3 flakyEnv flakySession).1.inst.s3.nFilledBufs +
        (readNextFileS3 flakyEnv flakySession).1.inst.s3.curBuf) ↔
      flakySession.inst.s3.nFilledBufs = batchSize flakySession.inst + 1) :=
  have hc : Cursors (fun _ k => objOf k) 0 flakySession.inst :=
    ⟨by decide, fun _ => rfl, fun _ => rfl, rfl, by decide, by decide, by decide, by decide,
      fun _ _ h => by simp [flakySession] at h; omega⟩
  have hr : (readNextFileS3 flakyEnv flakySession).2 = .error (.api ⟨"RequestTimeout"⟩) := by
    decide
  ⟨hc, by decide, hr, readNextFileS3_error_cursors flakyEnv _ hc (by decide) hr⟩

/-- After the failed first batch the file cursor is at `k1` while the slot cursor still points
at slot 0, which the failed download never filled: `k1` is opened as an empty file, `k2` with the
bytes of `k1`, `k3` and `k4` with a fresh download of `k0` and `k1`, `k5` with those of `k2`;
the stream then ends without the records of `k3`, `k4` and `k5`, and with that of `k1` twice. -/
theorem nextEvent_after_download_error :
    Fresh flakySession ∧
    ((runCalls flakyEnv 1 flakySession).1.inst.curFileNum,
      (runCalls flakyEnv 1 flakySession).1.inst.s3.lastDownloadedFileNum,
      (runCalls flakyEnv 1 flakySession).1.inst.s3.nFilledBufs,
      (runCalls flakyEnv 1 flakySession).1.inst.s3.curBuf) = (1, 0, 2, 0) ∧
    (runCalls flakyEnv 7 flakySession).2 = [.error (.api ⟨"RequestTimeout"⟩), .error .timeout,
      .ok (keyEvent "k1"), .ok (keyEvent "k0"), .ok (keyEvent "k1"), .ok (keyEvent "k2"),
      .error .eof] :=
  ⟨⟨rfl, rfl, rfl, fun _ => ⟨by decide, fun _ => rfl, fun _ => rfl, rfl, rfl, rfl⟩⟩, by decide,
    by decide⟩

end CloudTrail
