import CloudTrail.Stream

/-! What every call of `nextEvent` leaves whatever it returns: the frame, the end of the stream,
progress towards it, no panic. -/

namespace CloudTrail

/-! ## What each call leaves, whatever it returns -/

theorem goIndex_ne_error {α : Type} (xs : List α) (i : Int) (e : Err) : goIndex xs i ≠ .error e := by
  unfold goIndex; split
  · split <;> nofun
  · nofun

theorem goSlice_ne_error {α : Type} (xs : List α) (lo hi : Int) (e : Err) :
    goSlice xs lo hi ≠ .error e := by
  unfold goSlice; split <;> nofun

theorem recordEvent_data {env : Env} {r : Bytes} {ev : Event} (h : recordEvent env r = some ev) :
    ev.data = r := by
  simp only [recordEvent, Option.bind_eq_bind, Option.bind_eq_some] at h
  obtain ⟨cr, -, tv, -, t1, -, ty, -, h⟩ := h
  split_ifs at h
  cases h
  rfl

/-- What `nextRecord` returns for the record `r` at the cursor (lines 708–768): its event, unless
the record is skipped, or the write fails or is short. -/
def writeResult (env : Env) (r : Bytes) : GoResult Event :=
  (recordEvent env r).elim (.error .timeout) fun ev =>
    match env.write r with
    | (_, some e) => .error (.api e)
    | (n, none) => if n < r.length then .error (.tooLong r.length n) else .ok ev

theorem writeResult_cases (env : Env) (r : Bytes) :
    (∃ ev, recordEvent env r = some ev ∧ writeResult env r = .ok ev) ∨
    ∃ e, writeResult env r = .error e ∧ (e = .timeout ∨
      (∃ a, (env.write r).2 = some a ∧ e = .api a) ∨
      ∃ n, env.write r = (n, none) ∧ n < r.length ∧ e = .tooLong r.length n) := by
  unfold writeResult
  cases hre : recordEvent env r with
  | none => exact .inr ⟨_, rfl, .inl rfl⟩
  | some ev =>
    simp only [Option.elim]
    rcases hw : env.write r with ⟨n, _ | a⟩
    · by_cases hn : n < r.length
      · exact .inr ⟨_, by simp [hn], .inr (.inr ⟨n, rfl, hn, rfl⟩)⟩
      · exact .inl ⟨ev, rfl, by simp [hn]⟩
    · exact .inr ⟨_, rfl, .inr (.inl ⟨a, rfl, rfl⟩)⟩

theorem writeResult_ne_eof (env : Env) (r : Bytes) : writeResult env r ≠ .error .eof := by
  rcases writeResult_cases env r with ⟨ev, -, h⟩ | ⟨e, h, he⟩ <;> rw [h]
  · nofun
  · rcases he with rfl | ⟨a, -, rfl⟩ | ⟨n, -, -, rfl⟩ <;> nofun

theorem writeResult_ne_panic (env : Env) (r : Bytes) (p : Panic) : writeResult env r ≠ .panic p := by
  rcases writeResult_cases env r with ⟨ev, -, h⟩ | ⟨e, h, -⟩ <;> rw [h] <;> nofun

section
variable (env : Env) (s : Session)

theorem readNextFileS3_state :
    (∃ st b, (readNextFileS3 env s).1 = { s with inst := { s.inst with s3 := st }, batches := b }) ∧
      ∀ e, (readNextFileS3 env s).2 = .error e → ∃ a, e = .api a := by
  simp only [readNextFileS3, GoM.get_bind]
  split_ifs
  · exact ⟨⟨_, _, rfl⟩, fun e h => absurd h (goIndex_ne_error _ _ e)⟩
  unfold makeChan
  split_ifs
  swap; · exact ⟨⟨_, _, rfl⟩, nofun⟩
  simp only [GoM.lift_ok_bind, GoM.modify_bind]
  rcases hb : goSlice s.inst.files s.inst.s3.lastDownloadedFileNum
    (s.inst.s3.lastDownloadedFileNum + batchSize s.inst) with batch | e | p
  rotate_left
  · exact absurd hb (goSlice_ne_error _ _ _ e)
  · exact ⟨⟨_, _, rfl⟩, nofun⟩
  simp only [GoM.lift_ok_bind]
  unfold downloadBatch
  split_ifs
  · exact ⟨⟨_, _, rfl⟩, nofun⟩
  simp only [GoM.lift_ok_bind, GoM.modify_bind]
  cases firstError env s.batches s.inst.s3.bucket batch
  · exact ⟨⟨_, _, rfl⟩, fun e h => absurd h (goIndex_ne_error _ _ e)⟩
  · exact ⟨⟨_, _, rfl⟩, fun e h => ⟨_, (GoResult.error.inj h).symm⟩⟩

theorem nextRecord_of_ge (h : s.inst.evtJSONStrings.length ≤ s.inst.evtJSONListPos) :
    nextRecord env s =
      (s, if s.inst.evtJSONStrings.length = 0 then .error .timeout else .panic .index) := by
  by_cases h0 : s.inst.evtJSONStrings.length = 0
  · rw [nextRecord_empty env h0, if_pos h0]
  · simp only [nextRecord, GoM.get_bind, ne_eq, h0, not_false_eq_true, if_true, if_false,
      GoM.lift_panic_bind, goIndex_panic _ (show (s.inst.evtJSONStrings.length : Int) ≤
        s.inst.evtJSONListPos by omega)]

theorem nextRecord_of_lt (hlt : s.inst.evtJSONListPos < s.inst.evtJSONStrings.length) :
    nextRecord env s = (s.withInst fun p => { p with evtJSONListPos := p.evtJSONListPos + 1 },
      writeResult env s.inst.evtJSONStrings[s.inst.evtJSONListPos]) := by
  have hidx : goIndex s.inst.evtJSONStrings s.inst.evtJSONListPos =
      .ok s.inst.evtJSONStrings[s.inst.evtJSONListPos] := by
    rw [goIndex_of_lt _ (by omega) (by omega)]; rfl
  simp only [nextRecord, GoM.get_bind, show s.inst.evtJSONStrings.length ≠ 0 by omega, ne_eq,
    not_false_eq_true, if_true, hidx, GoM.lift_ok_bind, GoM.modify_bind]
  generalize s.inst.evtJSONStrings[s.inst.evtJSONListPos] = r
  generalize s.withInst _ = s'
  simp only [writeResult, recordEvent, Option.bind_eq_bind]
  rcases env.parseRecord r with _ | cr
  · rfl
  simp only [Option.some_bind]
  rcases cr "eventTime" with _ | timeVal
  · rfl
  simp only [Option.some_bind]
  rcases env.rfc3339 timeVal with _ | t1
  · rfl
  simp only [Option.some_bind]
  rcases cr "eventType" with _ | typeVal
  · rfl
  simp only [Option.some_bind]
  split_ifs
  · rfl
  rcases env.write r with ⟨n, _ | e⟩
  · by_cases hn : n < r.length <;> simp [hn]
  · rfl

theorem nextRecord_state : (nextRecord env s).1 =
    if s.inst.evtJSONListPos < s.inst.evtJSONStrings.length then
      s.withInst fun p => { p with evtJSONListPos := p.evtJSONListPos + 1 } else s := by
  split_ifs with h
  · rw [nextRecord_of_lt env s h]
  · rw [nextRecord_of_ge env s (not_lt.mp h)]

theorem nextRecord_ok {ev : Event} (h : (nextRecord env s).2 = .ok ev) :
    ∃ hlt : s.inst.evtJSONListPos < s.inst.evtJSONStrings.length,
      recordEvent env s.inst.evtJSONStrings[s.inst.evtJSONListPos] = some ev := by
  by_cases hlt : s.inst.evtJSONListPos < s.inst.evtJSONStrings.length
  · rw [nextRecord_of_lt env s hlt] at h
    refine ⟨hlt, ?_⟩
    rcases writeResult_cases env s.inst.evtJSONStrings[s.inst.evtJSONListPos] with
      ⟨ev', hre, hw⟩ | ⟨e, hw, -⟩ <;> rw [hw] at h <;> cases h
    exact hre
  · rw [nextRecord_of_ge env s (not_lt.mp hlt)] at h
    split_ifs at h

theorem nextRecord_ne_eof : (nextRecord env s).2 ≠ .error .eof := by
  by_cases hlt : s.inst.evtJSONListPos < s.inst.evtJSONStrings.length
  · rw [nextRecord_of_lt env s hlt]; exact writeResult_ne_eof env _
  · rw [nextRecord_of_ge env s (not_lt.mp hlt)]; split_ifs <;> nofun

theorem loadNextFile_state :
    (s.inst.files.length ≤ s.inst.curFileNum.toNat ∧ (loadNextFile env s).1 = s) ∨
    (s.inst.curFileNum.toNat < s.inst.files.length ∧ ∃ st b,
      ((loadNextFile env s).1 = { s with
        inst := { s.inst with curFileNum := s.inst.curFileNum + 1, s3 := st }
        batches := b } ∨
      ∃ zdata, (loadNextFile env s).1 = { s with
        inst := { s.inst with
          curFileNum := s.inst.curFileNum + 1, s3 := st,
          evtJSONStrings := extractRecordStrings zdata [], evtJSONListPos := 0 }
        batches := b })) := by
  by_cases hlt : s.inst.curFileNum.toNat < s.inst.files.length
  swap
  · refine .inl ⟨by omega, ?_⟩
    simp only [loadNextFile, GoM.get_bind, goIndex_panic _ (show (s.inst.files.length : Int) ≤
      (s.inst.curFileNum.toNat : Int) by omega), GoM.lift_panic_bind]
  refine .inr ⟨hlt, ?_⟩
  obtain ⟨file, hidx⟩ : ∃ file, goIndex s.inst.files s.inst.curFileNum.toNat = .ok file :=
    ⟨_, goIndex_of_lt _ (by omega) (by omega)⟩
  simp only [loadNextFile, GoM.get_bind, hidx, GoM.lift_ok_bind, GoM.modify_bind]
  generalize hs₁ : s.withInst (fun p => { p with curFileNum := p.curFileNum + 1 }) = s₁
  obtain ⟨st, b, hst⟩ : ∃ st b, (fetchFile env s.inst.openMode file s₁).1 =
      { s₁ with inst := { s₁.inst with s3 := st }, batches := b } := by
    cases s.inst.openMode
    · exact ⟨_, _, rfl⟩
    · exact (readNextFileS3_state env s₁).1
    · exact (readNextFileS3_state env s₁).1
  subst hs₁
  rw [GoM.bind_apply, GoM.bind]
  rcases hf : fetchFile env s.inst.openMode file _ with ⟨s₂, bytes | e | p⟩ <;> rw [hf] at hst <;>
    subst hst <;> dsimp only
  · rcases unzipFile env file bytes with zdata | e | p
    exacts [⟨st, b, .inr ⟨zdata, rfl⟩⟩, ⟨st, b, .inl rfl⟩, ⟨st, b, .inl rfl⟩]
  all_goals exact ⟨st, b, .inl rfl⟩

theorem loadNextFile_ne_eof : (loadNextFile env s).2 ≠ .error .eof := by
  simp only [loadNextFile, GoM.get_bind]
  rcases hi : goIndex s.inst.files s.inst.curFileNum.toNat with file | e | p
  rotate_left
  · exact absurd hi (goIndex_ne_error _ _ e)
  · nofun
  simp only [GoM.lift_ok_bind, GoM.modify_bind]
  rw [GoM.bind_apply, GoM.bind]
  generalize s.withInst (fun p => { p with curFileNum := p.curFileNum + 1 }) = s₁
  have hfetch : (fetchFile env s.inst.openMode file s₁).2 ≠ .error .eof := by
    cases s.inst.openMode
    · simp only [fetchFile, GoM.lift_apply]
      cases env.readFile file.name <;> nofun
    all_goals intro h; obtain ⟨a, ha⟩ := (readNextFileS3_state env s₁).2 _ h; cases ha
  rcases hf : fetchFile env s.inst.openMode file s₁ with ⟨s₂, bytes | e | p⟩ <;>
    rw [hf] at hfetch <;> dsimp only
  · rcases hz : unzipFile env file bytes with zdata | e | p
    · simp only [GoM.lift_ok_bind, GoM.modify_apply]; nofun
    · rw [unzipFile_error env hz, GoM.lift_error_bind]; nofun
    · simp only [GoM.lift_panic_bind]; nofun
  · exact fun h => hfetch (by cases h; rfl)
  · nofun

theorem getMoreSQSFiles_state : ∃ (keys : List String) (st : S3State),
    (getMoreSQSFiles env s).1 =
      { s with polls := s.polls + 1, inst := s.inst.polled (keys.map fileInfoOf) st } ∧
    ∀ e, (getMoreSQSFiles env s).2 = .error e → keys = [] ∧ st = s.inst.s3 := by
  have hnone : { s with polls := s.polls + 1 } = { s with
      polls := s.polls + 1, inst := s.inst.polled (([] : List String).map fileInfoOf) s.inst.s3 } := by
    simp
  simp only [getMoreSQSFiles, GoM.get_bind, GoM.modify_bind]
  rcases env.receive s.polls with e | _ | ⟨msg, _⟩
  · exact ⟨[], _, hnone, fun _ _ => ⟨rfl, rfl⟩⟩
  · exact ⟨[], _, hnone, fun _ _ => ⟨rfl, rfl⟩⟩
  simp only [ofExcept_ok, GoM.lift_ok_bind]
  generalize (if s.inst.config.SQSDelete = true then ofExcept (env.delete s.polls) else .ok ()) = d
  rcases d with _ | e | p
  rotate_left
  · exact ⟨[], _, hnone, fun _ _ => ⟨rfl, rfl⟩⟩
  · exact ⟨[], _, hnone, fun _ _ => ⟨rfl, rfl⟩⟩
  simp only [GoM.lift_ok_bind]
  rcases env.unmarshalJson msg.body >>= asMap with e | kvs
  · exact ⟨[], _, hnone, fun _ _ => ⟨rfl, rfl⟩⟩
  simp only [ofExcept_ok, GoM.lift_ok_bind]
  rcases mapLookup kvs "Type" with _ | v
  · exact ⟨[], _, hnone, fun _ _ => ⟨rfl, rfl⟩⟩
  simp only
  rcases assertString (some v) with t | e | p
  rotate_left
  · exact ⟨[], _, hnone, fun _ _ => ⟨rfl, rfl⟩⟩
  · exact ⟨[], _, hnone, fun _ _ => ⟨rfl, rfl⟩⟩
  simp only [GoM.lift_ok_bind]
  split_ifs
  · exact ⟨[], _, hnone, fun _ _ => ⟨rfl, rfl⟩⟩
  · rcases assertString (mapLookup kvs "Message") with m | e | p
    rotate_left
    · exact ⟨[], _, hnone, fun _ _ => ⟨rfl, rfl⟩⟩
    · exact ⟨[], _, hnone, fun _ _ => ⟨rfl, rfl⟩⟩
    simp only [GoM.lift_ok_bind]
    rcases env.unmarshalS3Event m with e | records
    · exact ⟨[], _, hnone, fun _ _ => ⟨rfl, rfl⟩⟩
    simp only [ofExcept_ok, GoM.lift_ok_bind, GoM.get_bind]
    rcases hf : s3EventFiles records false "" s.inst with p | e | p
    · obtain ⟨st, rfl, -⟩ := s3EventFiles_ok hf nofun
      exact ⟨records.map (·.objectKey), st, by simp [List.map_map, Function.comp_def]; rfl, nofun⟩
    · exact ⟨[], _, hnone, fun _ _ => ⟨rfl, rfl⟩⟩
    · exact ⟨[], _, hnone, fun _ _ => ⟨rfl, rfl⟩⟩
  · rcases assertString (mapLookup kvs "Message") with m | e | p
    rotate_left
    · exact ⟨[], _, hnone, fun _ _ => ⟨rfl, rfl⟩⟩
    · exact ⟨[], _, hnone, fun _ _ => ⟨rfl, rfl⟩⟩
    simp only [GoM.lift_ok_bind]
    rcases env.unmarshalSns m with e | sns
    · exact ⟨[], _, hnone, fun _ _ => ⟨rfl, rfl⟩⟩
    simp only [ofExcept_ok, GoM.lift_ok_bind, GoM.modify_bind, GoM.get_bind, Session.withS3,
      Session.withInst]
    rcases hi : initS3 { s.inst with s3 := { s.inst.s3 with bucket := sns.Bucket } } with q | e | q
    · rcases initS3_eq hi with rfl | ⟨-, -, rfl⟩
      · exact ⟨sns.Keys, { s.inst.s3 with bucket := sns.Bucket }, by simp [PluginInstance.polled],
          nofun⟩
      · exact ⟨sns.Keys, { s.inst.s3 with
          bucket := sns.Bucket, clientSet := true,
          DownloadBufs := List.replicate s.inst.config.S3DownloadConcurrency.toNat [] },
          by simp [PluginInstance.polled], nofun⟩
    · exact absurd hi initS3_ne_error
    · exact ⟨[], { s.inst.s3 with bucket := sns.Bucket }, by simp [PluginInstance.polled], nofun⟩

theorem ensureFile_of_ne_sqs (h : s.inst.openMode ≠ .sqsMode) :
    ensureFile env s = (s, if s.inst.files.length.toUInt32 ≤ s.inst.curFileNum then .error .eof
      else .ok ()) := by
  simp only [ensureFile, GoM.get_bind, ge_iff_le, h, if_false]
  split_ifs <;> rfl

theorem ensureFile_of_sqs (h : s.inst.openMode = .sqsMode) :
    (ensureFile env s).1 = (if s.inst.files.length.toUInt32 ≤ s.inst.curFileNum then
      (getMoreSQSFiles env s).1 else s) ∧ (ensureFile env s).2 ≠ .error .eof := by
  simp only [ensureFile, GoM.get_bind, ge_iff_le, h, if_true]
  split_ifs
  swap; · exact ⟨rfl, nofun⟩
  rcases GoM.bind_cases (getMoreSQSFiles env) (fun _ => GoM.get >>= fun s =>
      if s.inst.curFileNum ≥ s.inst.files.length.toUInt32 then GoM.throw .timeout else pure ()) s with
    ⟨s', a, hg, h'⟩ | ⟨s', e, hg, h'⟩ | ⟨s', p, hg, h'⟩ <;> rw [h', hg]
  · simp only [GoM.get_bind]
    split_ifs <;> exact ⟨rfl, nofun⟩
  · refine ⟨rfl, fun he => ?_⟩
    rcases getMoreSQSFiles_cases env s with ⟨e', he', -, h2⟩ | ⟨p, hp⟩ | ⟨hok, -⟩ <;>
      rw [hg] at * <;> simp_all
  · exact ⟨rfl, nofun⟩

theorem ensureFile_state : (ensureFile env s).1 = s ∨ s.inst.openMode = .sqsMode ∧
    ∃ (keys : List String) (st : S3State), (ensureFile env s).1 =
      { s with polls := s.polls + 1, inst := s.inst.polled (keys.map fileInfoOf) st } := by
  by_cases h : s.inst.openMode = .sqsMode
  · rw [(ensureFile_of_sqs env s h).1]
    split_ifs
    exacts [.inr ⟨h, let ⟨keys, st, hs, _⟩ := getMoreSQSFiles_state env s; ⟨keys, st, hs⟩⟩, .inl rfl]
  · exact .inl (by rw [ensureFile_of_ne_sqs env s h])

end

theorem GoM.bind_keeps {σ α β γ : Type} (Q : σ → γ) {x : GoM σ α} {f : α → GoM σ β}
    (hf : ∀ a t, Q (f a t).1 = Q t) (s : σ) : Q ((x >>= f) s).1 = Q (x s).1 := by
  rcases GoM.bind_cases x f s with ⟨s', a, h, h'⟩ | ⟨s', e, h, h'⟩ | ⟨s', p, h, h'⟩ <;>
    rw [h', h]
  exact hf a s'

theorem GoM.bind_eq_error {σ α β : Type} {x : GoM σ α} {f : α → GoM σ β} {s : σ} {e : Err}
    (h : ((x >>= f) s).2 = .error e) :
    (x s).2 = .error e ∨ ∃ s' a, x s = (s', .ok a) ∧ (f a s').2 = .error e := by
  rcases GoM.bind_cases x f s with ⟨s', a, hx, h'⟩ | ⟨s', e', hx, h'⟩ | ⟨s', p, hx, h'⟩ <;>
    rw [h'] at h
  · exact .inr ⟨s', a, hx, h⟩
  · exact .inl (by rw [hx]; cases h; rfl)
  · cases h

/-- `x` keeps the invariant `I` of the state whatever it returns, and every value it returns
satisfies `Q`. -/
def GoM.Keeps {σ α : Type} (I : σ → Prop) (Q : α → Prop) (x : GoM σ α) : Prop :=
  ∀ s, I s → I (x s).1 ∧ ∀ a, (x s).2 = .ok a → Q a

theorem GoM.Keeps.bind {σ α β : Type} {I : σ → Prop} {Q : α → Prop} {R : β → Prop}
    {x : GoM σ α} {f : α → GoM σ β} (hx : GoM.Keeps I Q x) (hf : ∀ a, Q a → GoM.Keeps I R (f a)) :
    GoM.Keeps I R (x >>= f) := by
  intro s hs
  obtain ⟨hI, hQ⟩ := hx s hs
  rcases GoM.bind_cases x f s with ⟨s', a, h, h'⟩ | ⟨s', e, h, h'⟩ | ⟨s', p, h, h'⟩ <;>
    rw [h'] <;> rw [h] at hI hQ
  · exact hf a (hQ a rfl) s' hI
  all_goals exact ⟨hI, nofun⟩

/-! ## What no call changes -/

/-- What a call of `nextEvent` leaves alone: the origin, the configuration and the queue URL,
and the files already listed, after which only a queue session appends entries, each the
`fileInfoOf` of its key. -/
structure Frame (s s' : Session) : Prop where
  mode : s'.inst.openMode = s.inst.openMode
  config : s'.inst.config = s.inst.config
  queueURL : s'.inst.queueURL = s.inst.queueURL
  appended : ∃ keys : List String, s'.inst.files = s.inst.files ++ keys.map fileInfoOf
  fixed : s.inst.openMode ≠ .sqsMode → s'.inst.files = s.inst.files

theorem Frame.refl (s : Session) : Frame s s := ⟨rfl, rfl, rfl, ⟨[], by simp⟩, fun _ => rfl⟩

theorem Frame.trans {s t u : Session} (h₁ : Frame s t) (h₂ : Frame t u) : Frame s u := by
  obtain ⟨k₁, hk₁⟩ := h₁.appended
  obtain ⟨k₂, hk₂⟩ := h₂.appended
  exact ⟨h₂.mode.trans h₁.mode, h₂.config.trans h₁.config, h₂.queueURL.trans h₁.queueURL,
    ⟨k₁ ++ k₂, by rw [hk₂, hk₁, List.map_append, List.append_assoc]⟩,
    fun h => (h₂.fixed (h₁.mode ▸ h)).trans (h₁.fixed h)⟩

theorem Frame.of_inst {s s' : Session} (hm : s'.inst.openMode = s.inst.openMode)
    (hc : s'.inst.config = s.inst.config) (hq : s'.inst.queueURL = s.inst.queueURL)
    (hf : s'.inst.files = s.inst.files) : Frame s s' :=
  ⟨hm, hc, hq, ⟨[], by simp [hf]⟩, fun _ => hf⟩

theorem Frame.bind {α β : Type} {x : GoM Session α} {f : α → GoM Session β}
    (hx : ∀ t, Frame t (x t).1) (hf : ∀ a t, Frame t (f a t).1) (s : Session) :
    Frame s ((x >>= f) s).1 := by
  rcases GoM.bind_cases x f s with ⟨s', a, h, h'⟩ | ⟨s', e, h, h'⟩ | ⟨s', p, h, h'⟩ <;>
    rw [h'] <;> have := hx s <;> rw [h] at this
  exacts [this.trans (hf a s'), this, this]

section
variable (env : Env) (s : Session)

theorem nextRecord_frame : Frame s (nextRecord env s).1 := by
  rw [nextRecord_state]
  split_ifs
  exacts [.of_inst rfl rfl rfl rfl, .refl s]

theorem loadNextFile_frame : Frame s (loadNextFile env s).1 := by
  rcases loadNextFile_state env s with ⟨-, h⟩ | ⟨-, st, b, h | ⟨zdata, h⟩⟩ <;> rw [h]
  exacts [.refl s, .of_inst rfl rfl rfl rfl, .of_inst rfl rfl rfl rfl]

theorem ensureFile_frame : Frame s (ensureFile env s).1 := by
  rcases ensureFile_state env s with h | ⟨hq, keys, st, h⟩ <;> rw [h]
  exacts [.refl s, ⟨rfl, rfl, rfl, ⟨keys, rfl⟩, fun h' => absurd hq h'⟩]

theorem openIfConsumed_frame : Frame s (openIfConsumed env s).1 := by
  simp only [openIfConsumed, GoM.get_bind]
  split_ifs
  · exact Frame.bind (ensureFile_frame env) (fun _ => loadNextFile_frame env) s
  · exact .refl s

theorem nextEvent_frame : Frame s (nextEvent env s).1 :=
  Frame.bind (openIfConsumed_frame env) (fun _ => nextRecord_frame env) s

end

theorem runCalls_keeps (env : Env) : ∀ (k : Nat) (s : Session), s.inst.openMode ≠ .sqsMode →
    (runCalls env k s).1.inst.openMode = s.inst.openMode ∧
      (runCalls env k s).1.inst.config = s.inst.config ∧
      (runCalls env k s).1.inst.files = s.inst.files
  | 0, _, _ => ⟨rfl, rfl, rfl⟩
  | k + 1, s, h => by
    have hfr := nextEvent_frame env s
    obtain ⟨hm, hc, hf⟩ := runCalls_keeps env k _ (hfr.mode ▸ h)
    exact ⟨hm.trans hfr.mode, hc.trans hfr.config, hf.trans (hfr.fixed h)⟩

/-! ## The end of the stream -/

/-- Every record of the open file handed out and every file opened, as `nextEvent` tests it:
`curFileNum >= uint32(len(files))`. -/
def AtEnd (p : PluginInstance) : Prop :=
  p.evtJSONStrings.length ≤ p.evtJSONListPos ∧ p.files.length.toUInt32 ≤ p.curFileNum

instance (p : PluginInstance) : Decidable (AtEnd p) := inferInstanceAs (Decidable (_ ∧ _))

section
variable (env : Env) (s : Session)

theorem openIfConsumed_of_lt (h : s.inst.evtJSONListPos < s.inst.evtJSONStrings.length) :
    openIfConsumed env s = (s, .ok ()) := by
  simp only [openIfConsumed, GoM.get_bind, ge_iff_le, not_le.mpr h, if_false, GoM.pure_apply]

theorem nextEvent_at_end (h : s.inst.openMode ≠ .sqsMode) (he : AtEnd s.inst) :
    nextEvent env s = (s, .error .eof) := by
  have hf : ensureFile env s = (s, .error .eof) := by rw [ensureFile_of_ne_sqs env s h, if_pos he.2]
  have ho : openIfConsumed env s = (s, .error .eof) := by
    rw [openIfConsumed, GoM.get_bind, if_pos (show s.inst.evtJSONListPos ≥ _ from he.1), openNextFile,
      GoM.bind_of_error hf]
  rw [nextEvent, GoM.bind_of_error ho]

theorem at_end_of_eof (h : (nextEvent env s).2 = .error .eof) :
    s.inst.openMode ≠ .sqsMode ∧ AtEnd s.inst := by
  rcases GoM.bind_eq_error h with h | ⟨s₁, -, -, h⟩
  swap; · exact absurd h (nextRecord_ne_eof env s₁)
  simp only [openIfConsumed, GoM.get_bind, ge_iff_le] at h
  split_ifs at h with hpos
  rcases GoM.bind_eq_error h with h | ⟨s₁, -, -, h⟩
  swap; · exact absurd h (loadNextFile_ne_eof env s₁)
  by_cases hq : s.inst.openMode = .sqsMode
  · exact absurd h (ensureFile_of_sqs env s hq).2
  rw [ensureFile_of_ne_sqs env s hq] at h
  split_ifs at h with hf
  exact ⟨hq, hpos, hf⟩

theorem nextEvent_polls : (nextEvent env s).1.polls =
    s.polls + if s.inst.openMode = .sqsMode ∧ AtEnd s.inst then 1 else 0 := by
  have hrec : ∀ (a : Unit) (t : Session), (nextRecord env t).1.polls = t.polls := fun _ t => by
    rw [nextRecord_state]; split_ifs <;> rfl
  have hload : ∀ (a : Unit) (t : Session), (loadNextFile env t).1.polls = t.polls := fun _ t => by
    rcases loadNextFile_state env t with ⟨-, h⟩ | ⟨-, st, b, h | ⟨zdata, h⟩⟩ <;> rw [h]
  rw [nextEvent, GoM.bind_keeps Session.polls hrec]
  by_cases hpos : s.inst.evtJSONListPos < s.inst.evtJSONStrings.length
  · rw [openIfConsumed_of_lt env s hpos, if_neg fun h => absurd h.2.1 (not_le.mpr hpos)]
    rfl
  rw [show openIfConsumed env s = openNextFile env s by
      simp only [openIfConsumed, GoM.get_bind, ge_iff_le, not_lt.mp hpos, if_true],
    openNextFile, GoM.bind_keeps Session.polls hload]
  by_cases hq : s.inst.openMode = .sqsMode
  · rw [(ensureFile_of_sqs env s hq).1]
    by_cases hf : s.inst.files.length.toUInt32 ≤ s.inst.curFileNum
    · obtain ⟨keys, st, hs, -⟩ := getMoreSQSFiles_state env s
      rw [if_pos hf, hs, if_pos ⟨hq, not_lt.mp hpos, hf⟩]
    · rw [if_neg hf, if_neg fun h => hf h.2.2]
      rfl
  · rw [if_neg fun h => hq h.1, ensureFile_of_ne_sqs env s hq]
    rfl

end

/-- `ErrEOF` comes exactly from a file or S3 session at its end, whatever state a run has left:
there a call changes nothing, so every later call returns `ErrEOF` too. -/
theorem nextEvent_eof_iff (env : Env) (s : Session) :
    ((nextEvent env s).2 = .error .eof ↔ s.inst.openMode ≠ .sqsMode ∧ AtEnd s.inst) ∧
      (s.inst.openMode ≠ .sqsMode → AtEnd s.inst →
        ∀ k, runCalls env k s = (s, List.replicate k (.error .eof))) :=
  ⟨⟨at_end_of_eof env s, fun ⟨h, he⟩ => by rw [nextEvent_at_end env s h he]⟩,
    fun h he => runCalls_fixed env (nextEvent_at_end env s h he)⟩

/-- A queue session never ends its stream, over any run; a call polls the queue exactly when
every file is opened and every record handed out, and then once. -/
theorem nextEvent_queue (env : Env) (s : Session) (h : s.inst.openMode = .sqsMode) :
    (∀ k, .error .eof ∉ (runCalls env k s).2) ∧
      (nextEvent env s).1.polls = s.polls + if AtEnd s.inst then 1 else 0 := by
  refine ⟨fun k => ?_, by simp only [nextEvent_polls, h, true_and]⟩
  induction k generalizing s with
  | zero => exact List.not_mem_nil _
  | succ k ih =>
    simp only [runCalls, List.mem_cons, not_or]
    exact ⟨fun he => (at_end_of_eof env s he.symm).1 h,
      ih _ ((nextEvent_frame env s).mode.trans h)⟩

/-- A queue session before its first poll, on a queue whose one message is not JSON. -/
theorem nextEvent_queue_fresh :
    (PluginInstance.fresh .sqsMode (sqsConfig 1 false)).openMode = .sqsMode ∧
      (∀ k, .error .eof ∉ (runCalls (queueEnv "m" .null ⟨"b", []⟩) k
        ⟨.fresh .sqsMode (sqsConfig 1 false), 0, 0⟩).2) ∧
      (nextEvent (queueEnv "m" .null ⟨"b", []⟩) ⟨.fresh .sqsMode (sqsConfig 1 false), 0, 0⟩).1.polls =
        0 + if AtEnd (PluginInstance.fresh .sqsMode (sqsConfig 1 false)) then 1 else 0 :=
  ⟨rfl, nextEvent_queue _ ⟨.fresh .sqsMode (sqsConfig 1 false), 0, 0⟩ rfl⟩

/-! ## Every file and S3 stream ends -/

/-- The files a file or S3 session has still to open: it opens them while
`curFileNum < uint32(len(files))`. -/
def filesLeft (p : PluginInstance) : Nat := p.files.length.toUInt32.toNat - p.curFileNum.toNat

/-- The records of the open file not yet handed out. -/
def recordsLeft (p : PluginInstance) : Nat := p.evtJSONStrings.length - p.evtJSONListPos

section
variable (env : Env) (s : Session)

theorem ensureFile_of_lt (h : ¬s.inst.files.length.toUInt32 ≤ s.inst.curFileNum) :
    ensureFile env s = (s, .ok ()) := by
  simp only [ensureFile, GoM.get_bind, ge_iff_le, h, if_false, GoM.pure_apply]

theorem nextEvent_progress (hend : ¬AtEnd s.inst) :
    (nextEvent env s).1.inst.files = s.inst.files ∧ Prod.Lex (· < ·) (· < ·)
      (filesLeft (nextEvent env s).1.inst, recordsLeft (nextEvent env s).1.inst)
      (filesLeft s.inst, recordsLeft s.inst) := by
  by_cases hpos : s.inst.evtJSONListPos < s.inst.evtJSONStrings.length
  · rw [nextEvent, GoM.bind_of_ok (openIfConsumed_of_lt env s hpos), nextRecord_state, if_pos hpos]
    exact ⟨rfl, .right _ (by simp only [recordsLeft, Session.withInst]; omega)⟩
  have hlt : s.inst.curFileNum.toNat < s.inst.files.length % 2 ^ 32 :=
    Nat.lt_of_not_le fun hf => hend ⟨not_lt.mp hpos, hf⟩
  -- the call takes `files[curFileNum]`; what follows keeps the list and the file cursor
  have hrec : ∀ (a : Unit) (t : Session), ((nextRecord env t).1.inst.files,
      (nextRecord env t).1.inst.curFileNum) = (t.inst.files, t.inst.curFileNum) := fun _ t => by
    rw [nextRecord_state]; split_ifs <;> rfl
  have hload : ((loadNextFile env s).1.inst.files, (loadNextFile env s).1.inst.curFileNum) =
      (s.inst.files, s.inst.curFileNum + 1) := by
    obtain ⟨-, st, b, hl | ⟨zdata, hl⟩⟩ := (loadNextFile_state env s).resolve_left (fun h => by omega) <;>
      rw [hl]
  have hnext : ((nextEvent env s).1.inst.files, (nextEvent env s).1.inst.curFileNum) =
      (s.inst.files, s.inst.curFileNum + 1) := by
    rw [nextEvent, GoM.bind_keeps (fun t : Session => (t.inst.files, t.inst.curFileNum)) hrec,
      openIfConsumed, GoM.get_bind, if_pos (show _ ≥ _ from not_lt.mp hpos), openNextFile,
      GoM.bind_of_ok (ensureFile_of_lt env s (Nat.not_le_of_lt hlt)), hload]
  rw [Prod.mk.injEq] at hnext
  have hc : (s.inst.curFileNum + 1).toNat = s.inst.curFileNum.toNat + 1 :=
    UInt32.toNat_add_one (by omega)
  refine ⟨hnext.1, .left _ _ ?_⟩
  simp only [filesLeft, hnext.1, hnext.2, hc]
  show s.inst.files.length % 2 ^ 32 - (s.inst.curFileNum.toNat + 1) <
    s.inst.files.length % 2 ^ 32 - s.inst.curFileNum.toNat
  omega

end

theorem exists_runCalls_at_end (env : Env) (s : Session) :
    ∃ k, AtEnd (runCalls env k s).1.inst ∧ .error .eof ∉ (runCalls env k s).2 ∧
      (runCalls env k s).1.inst.files = s.inst.files := by
  by_cases hend : AtEnd s.inst
  · exact ⟨0, hend, List.not_mem_nil _, rfl⟩
  obtain ⟨k, hk, hne, hf⟩ := exists_runCalls_at_end env (nextEvent env s).1
  refine ⟨k + 1, hk, ?_, hf.trans (nextEvent_progress env s hend).1⟩
  simp only [runCalls, List.mem_cons, not_or]
  exact ⟨fun he => hend (at_end_of_eof env s he.symm).2, hne⟩
termination_by (filesLeft s.inst, recordsLeft s.inst)
decreasing_by exact (nextEvent_progress env s hend).2

theorem runCalls_add (env : Env) : ∀ (k j : Nat) (s : Session), runCalls env (k + j) s =
    ((runCalls env j (runCalls env k s).1).1,
      (runCalls env k s).2 ++ (runCalls env j (runCalls env k s).1).2)
  | 0, j, s => by simp [runCalls]
  | k + 1, j, s => by
    rw [Nat.add_right_comm]
    simp only [runCalls, runCalls_add env k j, List.cons_append]

theorem runCalls_succ_at_end (env : Env) {k : Nat} {s : Session}
    (hq : (runCalls env k s).1.inst.openMode ≠ .sqsMode) (hat : AtEnd (runCalls env k s).1.inst) :
    runCalls env (k + 1) s = ((runCalls env k s).1, (runCalls env k s).2 ++ [.error .eof]) := by
  rw [runCalls_add]
  simp only [runCalls, nextEvent_at_end env _ hq hat]

/-- A file or S3 stream ends, whatever each call returns: after some number `k` of calls, none
of which returned `ErrEOF`, every call returns `ErrEOF` and changes nothing. -/
theorem runCalls_ends (env : Env) (s : Session) (h : s.inst.openMode ≠ .sqsMode) :
    ∃ k, .error .eof ∉ (runCalls env k s).2 ∧ ∀ j, runCalls env (k + j) s =
      ((runCalls env k s).1, (runCalls env k s).2 ++ List.replicate j (.error .eof)) := by
  obtain ⟨k, hk, hne, -⟩ := exists_runCalls_at_end env s
  refine ⟨k, hne, fun j => ?_⟩
  have hm : (runCalls env k s).1.inst.openMode ≠ .sqsMode := by
    rw [(runCalls_keeps env k s h).1]; exact h
  rw [runCalls_add, runCalls_fixed env (nextEvent_at_end env _ hm hk)]

/-- The stream of the two-file sample session ends. -/
theorem runCalls_ends_two_files : twoFileSession.inst.openMode ≠ .sqsMode ∧
    ∃ k, .error .eof ∉ (runCalls oneRecordEnv k twoFileSession).2 ∧
      ∀ j, runCalls oneRecordEnv (k + j) twoFileSession = ((runCalls oneRecordEnv k twoFileSession).1,
        (runCalls oneRecordEnv k twoFileSession).2 ++ List.replicate j (.error .eof)) :=
  ⟨by decide, runCalls_ends oneRecordEnv twoFileSession (by decide)⟩

/-! ## Every event is a `{ … }` -/

/-- Every record of the open file is a `{ … }` whose braces balance. -/
def BraceRecords (s : Session) : Prop := ∀ r ∈ s.inst.evtJSONStrings, BraceObject r

section
variable (env : Env)

theorem ensureFile_keeps : GoM.Keeps BraceRecords (fun _ => True) (ensureFile env) := fun s hs => by
  refine ⟨?_, fun _ _ => trivial⟩
  rcases ensureFile_state env s with h | ⟨-, keys, st, h⟩ <;> rw [h] <;> exact hs

theorem loadNextFile_keeps : GoM.Keeps BraceRecords (fun _ => True) (loadNextFile env) :=
  fun s hs => by
  refine ⟨?_, fun _ _ => trivial⟩
  rcases loadNextFile_state env s with ⟨-, h⟩ | ⟨-, st, b, h | ⟨zdata, h⟩⟩ <;> rw [h]
  exacts [hs, hs, fun r hr => mem_extractRecordStrings hr]

theorem openIfConsumed_keeps : GoM.Keeps BraceRecords (fun _ => True) (openIfConsumed env) :=
  fun s hs => by
  simp only [openIfConsumed, GoM.get_bind]
  split_ifs
  · exact (ensureFile_keeps env).bind (fun _ _ => loadNextFile_keeps env) s hs
  · exact ⟨hs, fun _ _ => trivial⟩

theorem nextRecord_keeps :
    GoM.Keeps BraceRecords (fun ev => BraceObject ev.data) (nextRecord env) := fun s hs => by
  refine ⟨?_, fun ev h => ?_⟩
  · rw [nextRecord_state]
    split_ifs <;> exact hs
  · obtain ⟨hlt, hre⟩ := nextRecord_ok env s h
    rw [recordEvent_data hre]
    exact hs _ (List.getElem_mem _)

theorem nextEvent_keeps :
    GoM.Keeps BraceRecords (fun ev => BraceObject ev.data) (nextEvent env) :=
  (openIfConsumed_keeps env).bind fun _ _ => nextRecord_keeps env

end

/-- Whatever the files hold and whatever each call returns, every event a run of `nextEvent`
writes is a `{ … }` whose braces balance, from every session whose open records are such, as
those the open functions leave, with none. -/
theorem runCalls_events_balanced (env : Env) : ∀ (k : Nat) (s : Session), BraceRecords s →
    BraceRecords (runCalls env k s).1 ∧ ∀ ev, .ok ev ∈ (runCalls env k s).2 → BraceObject ev.data
  | 0, s, h => ⟨h, by simp [runCalls]⟩
  | k + 1, s, h => by
    obtain ⟨h₁, hev⟩ := nextEvent_keeps env s h
    obtain ⟨hk, hevs⟩ := runCalls_events_balanced env k _ h₁
    refine ⟨hk, fun ev hm => ?_⟩
    rcases List.mem_cons.mp hm with he | he
    exacts [hev ev he.symm, hevs ev he]

/-- Four calls on the two-file sample session. -/
theorem runCalls_events_balanced_two_files : BraceRecords twoFileSession ∧
    BraceRecords (runCalls oneRecordEnv 4 twoFileSession).1 ∧
    ∀ ev, .ok ev ∈ (runCalls oneRecordEnv 4 twoFileSession).2 → BraceObject ev.data :=
  ⟨nofun, runCalls_events_balanced oneRecordEnv 4 twoFileSession nofun⟩

/-! ## Calls that cannot panic -/

theorem unzipFile_ne_panic (env : Env) (file : FileInfo) (b : Bytes) (p : Panic) :
    unzipFile env file b ≠ .panic p := by
  unfold unzipFile
  split_ifs
  · cases env.gunzip b <;> nofun
  · nofun

section
variable (env : Env) (s : Session)

theorem nextRecord_ne_panic (h : s.inst.evtJSONListPos < s.inst.evtJSONStrings.length ∨
    s.inst.evtJSONStrings.length = 0) (p : Panic) : (nextRecord env s).2 ≠ .panic p := by
  rcases h with hlt | h0
  · rw [nextRecord_of_lt env s hlt]; exact writeResult_ne_panic env _ p
  · rw [nextRecord_empty env h0]; nofun

theorem loadNextFile_of_fetch (hlt : s.inst.curFileNum.toNat < s.inst.files.length)
    (hf : ∀ file p, (fetchFile env s.inst.openMode file
      (s.withInst fun p => { p with curFileNum := p.curFileNum + 1 })).2 ≠ .panic p) :
    (∀ p, (loadNextFile env s).2 ≠ .panic p) ∧
      ((loadNextFile env s).2 = .ok () → (loadNextFile env s).1.inst.evtJSONListPos = 0) := by
  obtain ⟨file, hidx⟩ : ∃ file, goIndex s.inst.files s.inst.curFileNum.toNat = .ok file :=
    ⟨_, goIndex_of_lt _ (by omega) (by omega)⟩
  simp only [loadNextFile, GoM.get_bind, hidx, GoM.lift_ok_bind, GoM.modify_bind]
  rcases GoM.bind_cases (fetchFile env s.inst.openMode file) (fun tmpStr => GoM.lift
      (unzipFile env file tmpStr) >>= fun tmpStr => GoM.modify (·.withInst fun p =>
        { p with evtJSONStrings := extractRecordStrings tmpStr [], evtJSONListPos := 0 }))
      (s.withInst fun p => { p with curFileNum := p.curFileNum + 1 }) with
    ⟨s', bytes, h, h'⟩ | ⟨s', e, h, h'⟩ | ⟨s', q, h, h'⟩ <;> rw [h']
  · rcases hz : unzipFile env file bytes with z | e | q
    · exact ⟨nofun, fun _ => rfl⟩
    · simp
    · exact absurd hz (unzipFile_ne_panic env file bytes q)
  · exact ⟨nofun, nofun⟩
  · exact absurd h (fun h' => hf file q (by rw [h']))

theorem openIfConsumed_of_fetch (h : s.inst.openMode ≠ .sqsMode)
    (hf : s.inst.curFileNum.toNat < s.inst.files.length → ∀ file p, (fetchFile env
      s.inst.openMode file (s.withInst fun p => { p with curFileNum := p.curFileNum + 1 })).2 ≠
        .panic p) :
    (∀ p, (openIfConsumed env s).2 ≠ .panic p) ∧ ((openIfConsumed env s).2 = .ok () →
      (openIfConsumed env s).1.inst.evtJSONListPos < (openIfConsumed env s).1.inst.evtJSONStrings.length ∨
        (openIfConsumed env s).1.inst.evtJSONStrings.length = 0) := by
  simp only [openIfConsumed, GoM.get_bind]
  split_ifs with hpos
  swap; · simp only [GoM.pure_apply]; exact ⟨nofun, fun _ => .inl (by omega)⟩
  have he := ensureFile_of_ne_sqs env s h
  split_ifs at he with hfl
  · rw [openNextFile, GoM.bind_of_error he]; exact ⟨nofun, nofun⟩
  have hlt : s.inst.curFileNum.toNat < s.inst.files.length :=
    Nat.lt_of_lt_of_le (Nat.lt_of_not_le hfl) (Nat.mod_le _ _)
  obtain ⟨hp, hok⟩ := loadNextFile_of_fetch env s hlt (hf hlt)
  rw [openNextFile, GoM.bind_of_ok he]
  exact ⟨hp, fun h => by rw [hok h]; omega⟩

theorem nextEvent_ne_panic_of_fetch (h : s.inst.openMode ≠ .sqsMode)
    (hf : s.inst.curFileNum.toNat < s.inst.files.length → ∀ file p, (fetchFile env
      s.inst.openMode file (s.withInst fun p => { p with curFileNum := p.curFileNum + 1 })).2 ≠
        .panic p) (p : Panic) :
    (nextEvent env s).2 ≠ .panic p := by
  obtain ⟨hp, hok⟩ := openIfConsumed_of_fetch env s h hf
  rw [nextEvent]
  rcases GoM.bind_cases (openIfConsumed env) (fun _ => nextRecord env) s with
    ⟨s', a, hx, h'⟩ | ⟨s', e, hx, h'⟩ | ⟨s', q, hx, h'⟩ <;> rw [h'] <;> rw [hx] at hp hok
  · exact nextRecord_ne_panic env s' (hok rfl) p
  · nofun
  · exact absurd rfl (hp q)

theorem nextEvent_ne_panic_of_fileMode (h : s.inst.openMode = .fileMode) (p : Panic) :
    (nextEvent env s).2 ≠ .panic p :=
  nextEvent_ne_panic_of_fetch env s (by rw [h]; decide) (fun _ file q => by
    rw [h, fetchFile, GoM.lift_apply]; cases env.readFile file.name <;> nofun) p

end

/-- A file session never panics: over every run of `nextEvent` calls from any state, whatever
each read, gunzip, parse and write returns, every call returns an event or an error. -/
theorem runCalls_file_no_panic (env : Env) : ∀ (k : Nat) (s : Session),
    s.inst.openMode = .fileMode → ∀ p, .panic p ∉ (runCalls env k s).2
  | 0, _, _, _ => List.not_mem_nil _
  | k + 1, s, h, p => by
    simp only [runCalls, List.mem_cons, not_or]
    exact ⟨fun he => nextEvent_ne_panic_of_fileMode env s h p he.symm,
      runCalls_file_no_panic env k _ ((nextEvent_frame env s).mode.trans h) p⟩

/-- The two sample files read from disk. -/
theorem runCalls_file_no_panic_two_files :
    ({ twoFileSession with inst := { twoFileSession.inst with openMode := .fileMode } } :
      Session).inst.openMode = .fileMode ∧
    ∀ p, .panic p ∉ (runCalls oneRecordEnv 4
      { twoFileSession with inst := { twoFileSession.inst with openMode := .fileMode } }).2 :=
  ⟨rfl, runCalls_file_no_panic oneRecordEnv 4 _ rfl⟩

end CloudTrail
