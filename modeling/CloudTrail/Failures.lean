import CloudTrail.Open

/-! Runs of file and S3 sessions whose reads, gunzips, parses and writes may fail: no record is
emitted twice or out of order. -/

namespace CloudTrail

open scoped List

/-! ## The record part -/

/-- Every write of an event is whole and succeeds. -/
def WritesOk (env : Env) : Prop := ∀ d : Bytes, ∃ n, env.write d = (n, none) ∧ d.length ≤ n

theorem nextRecord_error_of_writesOk {env : Env} (hw : WritesOk env) (s : Session) {e : Err}
    (h : (nextRecord env s).2 = .error e) : e = .timeout := by
  by_cases hlt : s.inst.evtJSONListPos < s.inst.evtJSONStrings.length
  · rw [nextRecord_of_lt env s hlt] at h
    obtain ⟨n, hn, hle⟩ := hw s.inst.evtJSONStrings[s.inst.evtJSONListPos]
    rcases writeResult_cases env s.inst.evtJSONStrings[s.inst.evtJSONListPos] with
      ⟨ev, -, hok⟩ | ⟨e', he', rfl | ⟨a, ha, -⟩ | ⟨n', hn', hlt', -⟩⟩
    · rw [hok] at h; cases h
    · rw [he'] at h; cases h; rfl
    · rw [hn] at ha; cases ha
    · rw [hn] at hn'; cases hn'; omega
  · rw [nextRecord_of_ge env s (by omega)] at h
    split_ifs at h
    cases h
    rfl

theorem nextRecord_sublist (env : Env) {obj : String → String → Bytes} {s s' : Session}
    {r : GoResult Event} (h : nextRecord env s = (s', r)) (hi : Inv obj s) :
    Inv obj s' ∧ emitted r ++ pending env obj s' <+ pending env obj s := by
  by_cases hlt : s.inst.evtJSONListPos < s.inst.evtJSONStrings.length
  case neg =>
    rw [nextRecord_of_ge env s (by omega)] at h
    cases h
    refine ⟨hi, ?_⟩
    split_ifs <;> exact List.Sublist.refl _
  rw [nextRecord_of_lt env s hlt] at h
  cases h
  refine ⟨Inv.advance obj hi hlt, ?_⟩
  rw [pending, pending, List.drop_eq_getElem_cons hlt, List.filterMap_cons]
  rcases writeResult_cases env s.inst.evtJSONStrings[s.inst.evtJSONListPos] with
    ⟨ev, hev, hok⟩ | ⟨e, he, -⟩
  · simp [hok, hev, emitted, Session.withInst]
  · rw [he]
    cases recordEvent env s.inst.evtJSONStrings[s.inst.evtJSONListPos] <;>
      simp [emitted, Session.withInst]

theorem nextRecord_benign {env : Env} (hw : WritesOk env) {s : Session}
    (h : s.inst.evtJSONListPos < s.inst.evtJSONStrings.length ∨ s.inst.evtJSONStrings.length = 0) :
    Benign (nextRecord env s).2 := by
  rcases hr : (nextRecord env s).2 with ev | e | p
  · trivial
  · rw [nextRecord_error_of_writesOk hw s hr]; trivial
  · exact nextRecord_ne_panic env s h p hr

theorem nextRecord_writesOk (env : Env) (hw : WritesOk env) (obj : String → String → Bytes)
    {s : Session} (h : s.inst.evtJSONListPos < s.inst.evtJSONStrings.length ∨
      s.inst.evtJSONStrings.length = 0) :
    emitted (nextRecord env s).2 ++ pending env obj (nextRecord env s).1 = pending env obj s := by
  rcases h with hlt | h0
  · exact nextRecord_step env obj hlt (nextRecord_benign hw (.inl hlt))
  · rw [nextRecord_empty env h0]
    rfl

/-! ## A call, from what opening does -/

/-- What the opening part of a call did, from `s` to `s₁` returning `r`, when it loses no
pending record: it kept the invariant and what is pending, left a record at the cursor or a file
without records when it succeeded, and ended the stream only once nothing was pending. -/
structure Opens (env : Env) (obj : String → String → Bytes) (s s₁ : Session) (r : GoResult Unit) :
    Prop where
  inv : Inv obj s₁
  pending_eq : pending env obj s₁ = pending env obj s
  ready : r = .ok () → s₁.inst.evtJSONListPos < s₁.inst.evtJSONStrings.length ∨
    s₁.inst.evtJSONStrings.length = 0
  eof : r = .error .eof → pending env obj s = []

theorem nextEvent_sublist_of_open (env : Env) {obj : String → String → Bytes} {s s' : Session}
    {r : GoResult Event}
    (hopen : ∀ s₁ r₁, openIfConsumed env s = (s₁, r₁) → Opens env obj s s₁ r₁)
    (h : nextEvent env s = (s', r)) :
    Inv obj s' ∧ emitted r ++ pending env obj s' <+ pending env obj s ∧
      (r = .error .eof → pending env obj s = []) := by
  rw [nextEvent] at h
  rcases GoM.bind_cases (openIfConsumed env) (fun _ => nextRecord env) s with
    ⟨s₁, u, ho, h'⟩ | ⟨s₁, e, ho, h'⟩ | ⟨s₁, p, ho, h'⟩ <;> rw [h'] at h <;>
    have hop := hopen _ _ ho
  · obtain ⟨hi', hsub⟩ := nextRecord_sublist env h hop.inv
    exact ⟨hi', hop.pending_eq ▸ hsub, fun he => absurd (by rw [h, he]) (nextRecord_ne_eof env s₁)⟩
  all_goals
    cases h
    exact ⟨hop.inv, hop.pending_eq ▸ List.Sublist.refl _, fun he => hop.eof (by cases he <;> rfl)⟩

theorem nextEvent_exact_of_open (env : Env) (hw : WritesOk env) {obj : String → String → Bytes}
    {s s' : Session} {r : GoResult Event}
    (hopen : ∀ s₁ r₁, openIfConsumed env s = (s₁, r₁) → Opens env obj s s₁ r₁)
    (h : nextEvent env s = (s', r)) :
    Inv obj s' ∧ emitted r ++ pending env obj s' = pending env obj s ∧
      (r = .error .eof → pending env obj s = []) := by
  rw [nextEvent] at h
  rcases GoM.bind_cases (openIfConsumed env) (fun _ => nextRecord env) s with
    ⟨s₁, u, ho, h'⟩ | ⟨s₁, e, ho, h'⟩ | ⟨s₁, p, ho, h'⟩ <;> rw [h'] at h <;>
    have hop := hopen _ _ ho
  · have hstep := nextRecord_writesOk env hw obj (hop.ready rfl)
    rw [h] at hstep
    exact ⟨(nextRecord_sublist env h hop.inv).1, hstep.trans hop.pending_eq,
      fun he => absurd (by rw [h, he]) (nextRecord_ne_eof env s₁)⟩
  all_goals
    cases h
    exact ⟨hop.inv, hop.pending_eq, fun he => hop.eof (by cases he <;> rfl)⟩

theorem run_sublist (env : Env) (obj : String → String → Bytes) (P : Session → Prop)
    (hstep : ∀ {s s' : Session} {r : GoResult Event}, P s → nextEvent env s = (s', r) →
      P s' ∧ emitted r ++ pending env obj s' <+ pending env obj s ∧
        (r = .error .eof → pending env obj s = [])) :
    ∀ (k : Nat) (s : Session), P s → P (runCalls env k s).1 ∧
      (runCalls env k s).2.flatMap emitted ++ pending env obj (runCalls env k s).1 <+
        pending env obj s ∧
      (.error .eof ∈ (runCalls env k s).2 → pending env obj (runCalls env k s).1 = [])
  | 0, s, hs => ⟨hs, by simp [runCalls], by simp [runCalls]⟩
  | k + 1, s, hs => by
    rcases hn : nextEvent env s with ⟨s₁, r₁⟩
    obtain ⟨hs₁, hsub, heof⟩ := hstep hs hn
    obtain ⟨hP, hrun, hend⟩ := run_sublist env obj P hstep k s₁ hs₁
    simp only [runCalls, hn]
    refine ⟨hP, by rw [List.flatMap_cons, List.append_assoc]; exact (hrun.append_left _).trans hsub,
      fun hmem => ?_⟩
    rcases List.mem_cons.mp hmem with he | he
    · have h₁ : pending env obj s₁ = [] :=
        List.eq_nil_of_sublist_nil (heof he.symm ▸ (List.sublist_append_right _ _).trans hsub)
      exact List.eq_nil_of_sublist_nil (h₁ ▸ (List.sublist_append_right _ _).trans hrun)
    · exact hend he

theorem run_exact (env : Env) (obj : String → String → Bytes) (P : Session → Prop)
    (hstep : ∀ {s s' : Session} {r : GoResult Event}, P s → nextEvent env s = (s', r) →
      P s' ∧ emitted r ++ pending env obj s' = pending env obj s ∧
        (r = .error .eof → pending env obj s = [])) :
    ∀ (k : Nat) (s : Session), P s →
      (runCalls env k s).2.flatMap emitted ++ pending env obj (runCalls env k s).1 =
        pending env obj s ∧
      (.error .eof ∈ (runCalls env k s).2 → pending env obj (runCalls env k s).1 = [])
  | 0, s, _ => ⟨by simp [runCalls], by simp [runCalls]⟩
  | k + 1, s, hs => by
    rcases hn : nextEvent env s with ⟨s₁, r₁⟩
    obtain ⟨hs₁, hstep₁, heof⟩ := hstep hs hn
    obtain ⟨hrun, hend⟩ := run_exact env obj P hstep k s₁ hs₁
    simp only [runCalls, hn]
    refine ⟨by rw [List.flatMap_cons, List.append_assoc, hrun, hstep₁], fun hmem => ?_⟩
    rcases List.mem_cons.mp hmem with he | he
    · have h₁ : pending env obj s₁ = [] := by rw [← heof he.symm, ← hstep₁, ← he]; rfl
      exact (List.append_eq_nil.mp (hrun.trans h₁)).2
    · exact hend he

/-- A file or S3 session of mode `m` with the invariant and fewer than `2^32` files. -/
structure Steady (obj : String → String → Bytes) (m : OpenMode) (s : Session) : Prop where
  mode : s.inst.openMode = m
  inv : Inv obj s
  small : s.inst.files.length < 2 ^ 32

theorem Steady.next {env : Env} {obj : String → String → Bytes} {m : OpenMode} {s s' : Session}
    {r : GoResult Event} (h : Steady obj m s) (hq : m ≠ .sqsMode) (hn : nextEvent env s = (s', r))
    (hi : Inv obj s') : Steady obj m s' := by
  have hfr := nextEvent_frame env s
  rw [hn] at hfr
  exact ⟨hfr.mode.trans h.mode, hi, hfr.fixed (by rw [h.mode]; exact hq) ▸ h.small⟩

/-! ## File mode -/

/-- `env` with every download returning no bytes. -/
def Env.withoutDownloads (env : Env) : Env := { env with download := fun _ _ _ _ => .ok [] }

/-- The events of a file read from disk: the accepted records of its bytes, none when the read
fails. -/
def localEvents (env : Env) (file : FileInfo) : List Event :=
  match env.readFile file.name with
  | .ok bytes => (fileRecords env file bytes).filterMap (recordEvent env)
  | .error _ => []

theorem fileEvents_fileMode (env : Env) (obj : String → String → Bytes) (bucket : String) :
    fileEvents env obj .fileMode bucket = localEvents env := by
  funext file
  unfold fileEvents localEvents
  cases env.readFile file.name <;> rfl

theorem withoutDownloads_download (env : Env) {b j : Nat} {bk key : String} {bytes : Bytes}
    (h : env.withoutDownloads.download b j bk key = .ok bytes) :
    bytes = (fun _ _ => ([] : Bytes)) bk key :=
  (Except.ok.inj h).symm

section
variable (env : Env) {s : Session} (hm : s.inst.openMode = .fileMode)
include hm

theorem loadNextFile_withoutDownloads : loadNextFile env.withoutDownloads s = loadNextFile env s := by
  simp only [loadNextFile, GoM.get_bind, hm]
  rfl

theorem openIfConsumed_withoutDownloads :
    openIfConsumed env.withoutDownloads s = openIfConsumed env s := by
  simp only [openIfConsumed, GoM.get_bind, openNextFile,
    show ensureFile env.withoutDownloads = ensureFile env from rfl]
  split_ifs
  · have he := ensureFile_of_ne_sqs env s (by rw [hm]; decide)
    split_ifs at he
    · rw [GoM.bind_of_error he, GoM.bind_of_error he]
    · rw [GoM.bind_of_ok he, GoM.bind_of_ok he, loadNextFile_withoutDownloads env hm]
  · rfl

theorem loadNextFile_read_error {e : Err} (h : (loadNextFile env s).2 = .error e)
    (he : e ≠ .timeout) :
    ∃ (hlt : s.inst.curFileNum.toNat < s.inst.files.length) (a : ApiErr), e = .api a ∧
      env.readFile s.inst.files[s.inst.curFileNum.toNat].name = .error a ∧
      (loadNextFile env s).1 = s.withInst fun p => { p with curFileNum := p.curFileNum + 1 } := by
  by_cases hlt : s.inst.curFileNum.toNat < s.inst.files.length
  swap
  · simp only [loadNextFile, GoM.get_bind, goIndex_panic _ (show (s.inst.files.length : Int) ≤
      (s.inst.curFileNum.toNat : Int) by omega), GoM.lift_panic_bind] at h
    cases h
  have hidx : goIndex s.inst.files s.inst.curFileNum.toNat = .ok s.inst.files[s.inst.curFileNum.toNat] := by
    rw [goIndex_of_lt _ (by omega) (by omega)]; rfl
  simp only [loadNextFile, GoM.get_bind, hidx, GoM.lift_ok_bind, GoM.modify_bind, hm,
    fetchFile] at h ⊢
  cases hr : env.readFile s.inst.files[s.inst.curFileNum.toNat].name with
  | error a =>
    simp only [hr, ofExcept_error, GoM.lift_error_bind] at h ⊢
    cases h
    exact ⟨hlt, a, rfl, rfl, trivial⟩
  | ok bytes =>
    simp only [hr, ofExcept_ok, GoM.lift_ok_bind] at h
    rcases hz : unzipFile env s.inst.files[s.inst.curFileNum.toNat] bytes with z | e' | q <;>
      simp only [hz, GoM.lift_ok_bind, GoM.lift_error_bind, GoM.lift_panic_bind,
        GoM.modify_apply] at h
    · cases h
    · cases h; exact absurd (unzipFile_error env hz) he
    · cases h

theorem Inv.of_fileMode {obj obj' : String → String → Bytes} (hi : Inv obj s) : Inv obj' s :=
  ⟨hi.pos_le, hi.cur_le, fun h => absurd hm h⟩

theorem pending_of_fileMode (obj obj' : String → String → Bytes) :
    pending env obj s = pending env obj' s := by
  simp only [pending, hm, fileEvents_fileMode]

theorem openIfConsumed_file {obj : String → String → Bytes} {s₁ : Session} {r : GoResult Unit}
    (h : openIfConsumed env s = (s₁, r)) (hi : Inv obj s) (hsmall : s.inst.files.length < 2 ^ 32) :
    Opens env obj s s₁ r := by
  have hfr := openIfConsumed_frame env s
  rw [h] at hfr
  have hm₁ : s₁.inst.openMode = .fileMode := hfr.mode.trans hm
  have hf : s₁.inst.files = s.inst.files := hfr.fixed (by rw [hm]; decide)
  by_cases hb : Benign r
  case pos =>
    -- the stream layer's step, run where every download returns no bytes
    obtain ⟨hi₁, hp, hready, heof⟩ := openIfConsumed_spec env.withoutDownloads (fun _ _ => [])
      (fun _ _ _ _ _ => withoutDownloads_download env)
      (by rw [openIfConsumed_withoutDownloads env hm, h]) hb (hi.of_fileMode hm) (hf ▸ hsmall)
    simp only [arrived, hf, List.drop_length, List.flatMap_nil, List.append_nil] at hp
    refine ⟨hi₁.of_fileMode hm₁, ?_, hready, fun he => ?_⟩
    · rw [pending_of_fileMode env hm obj (fun _ _ => []),
        pending_of_fileMode env hm₁ obj (fun _ _ => [])]
      exact hp
    · rw [pending_of_fileMode env hm obj (fun _ _ => [])]
      exact (heof he).2
  case neg =>
    rcases r with u | e | p
    · exact absurd trivial hb
    swap
    · exact (nextEvent_ne_panic_of_fileMode env s hm p (by rw [nextEvent, GoM.bind_of_panic h])).elim
    -- an error other than `ErrTimeout` and `ErrEOF`: a read that failed
    have he : e ≠ .timeout := by rintro rfl; exact hb trivial
    simp only [openIfConsumed, GoM.get_bind] at h
    split_ifs at h with hpos
    swap; · rw [GoM.pure_apply] at h; cases h
    have hef := ensureFile_of_ne_sqs env s (by rw [hm]; decide)
    split_ifs at hef
    · rw [openNextFile, GoM.bind_of_error hef] at h
      cases h
      exact absurd trivial hb
    rw [openNextFile, GoM.bind_of_ok hef] at h
    obtain ⟨hlt, a, rfl, hread, hst⟩ := loadNextFile_read_error env hm (by rw [h]) he
    rw [h] at hst
    subst hst
    have hc : (s.inst.curFileNum + 1).toNat = s.inst.curFileNum.toNat + 1 :=
      UInt32.toNat_add_one (by omega)
    refine ⟨⟨hi.pos_le, by simp only [Session.withInst, hc]; omega, fun h => absurd hm h⟩, ?_,
      nofun, nofun⟩
    simp only [pending, Session.withInst, hc, List.drop_eq_getElem_cons hlt, List.flatMap_cons,
      fileEvents, hm, hread, List.nil_append]

theorem nextEvent_file_sublist {obj : String → String → Bytes} {s' : Session}
    {r : GoResult Event} (h : nextEvent env s = (s', r)) (hi : Inv obj s)
    (hsmall : s.inst.files.length < 2 ^ 32) :
    Inv obj s' ∧ emitted r ++ pending env obj s' <+ pending env obj s ∧
      (r = .error .eof → pending env obj s = []) :=
  nextEvent_sublist_of_open env (fun _ _ ho => openIfConsumed_file env hm ho hi hsmall) h

theorem nextEvent_file_step (hw : WritesOk env) {obj : String → String → Bytes} {s' : Session}
    {r : GoResult Event} (h : nextEvent env s = (s', r)) (hi : Inv obj s)
    (hsmall : s.inst.files.length < 2 ^ 32) :
    Inv obj s' ∧ emitted r ++ pending env obj s' = pending env obj s ∧
      (r = .error .eof → pending env obj s = []) :=
  nextEvent_exact_of_open env hw (fun _ _ ho => openIfConsumed_file env hm ho hi hsmall) h

end

theorem Steady.file_step (env : Env) (hw : WritesOk env) {obj : String → String → Bytes}
    {t t' : Session} {r : GoResult Event} (ht : Steady obj .fileMode t)
    (hn : nextEvent env t = (t', r)) :
    Steady obj .fileMode t' ∧ emitted r ++ pending env obj t' = pending env obj t ∧
      (r = .error .eof → pending env obj t = []) :=
  let ⟨hi', hp, heof⟩ := nextEvent_file_step env ht.mode hw hn ht.inv ht.small
  ⟨ht.next (by decide) hn hi', hp, heof⟩

/-- Every read succeeds but that of `a.json`. -/
def missingFirstEnv : Env := { oneRecordEnv with
  readFile := fun name => if name = "a.json" then .error ⟨"ENOENT"⟩ else .ok oneRecordFile }

/-- The two sample files read from disk. -/
def twoLocalFiles : Session :=
  { twoFileSession with inst := { twoFileSession.inst with openMode := .fileMode } }

/-- The first call returns the error of reading `a.json`, the second the record of `b.json`, the
third `ErrEOF`. -/
example : (runCalls missingFirstEnv 3 twoLocalFiles).2 = .error (.api ⟨"ENOENT"⟩) ::
    (fileEvents missingFirstEnv (fun _ _ => []) .fileMode "" (fileInfoOf "b.json")).map .ok ++
      [.error .eof] := by
  decide

/-- No record is emitted twice or out of order: over every run of `nextEvent` calls of a file
session as `openLocal` leaves it, with fewer than `2^32` files, whatever each read, gunzip, parse
and write returns, the events emitted followed by what is still pending are a sublist of the
accepted records of the files whose read succeeds, in file order, and once a call returns
`ErrEOF` nothing is pending. -/
theorem runCalls_file_in_order (env : Env) (obj : String → String → Bytes) {s : Session}
    (hs : Fresh s) (hm : s.inst.openMode = .fileMode) (hsmall : s.inst.files.length < 2 ^ 32)
    (k : Nat) :
    (runCalls env k s).2.flatMap emitted ++ pending env obj (runCalls env k s).1 <+
      s.inst.files.flatMap (fileEvents env obj .fileMode s.inst.s3.bucket) ∧
    (.error .eof ∈ (runCalls env k s).2 → pending env obj (runCalls env k s).1 = []) := by
  obtain ⟨-, hrun, hend⟩ := run_sublist env obj (Steady obj .fileMode)
    (fun ht hn => let ⟨hi', hsub, heof⟩ := nextEvent_file_sublist env ht.mode hn ht.inv ht.small
      ⟨ht.next (by decide) hn hi', hsub, heof⟩) k s ⟨hm, hs.inv, hsmall⟩
  exact ⟨by rwa [hs.pending_eq, hm] at hrun, hend⟩

/-- As `missingFirstEnv`, with every write cut to nothing. -/
def shortWritesEnv : Env := { missingFirstEnv with write := fun _ => (0, none) }

theorem runCalls_file_in_order_short_writes : Fresh twoLocalFiles ∧
    twoLocalFiles.inst.openMode = .fileMode ∧ twoLocalFiles.inst.files.length < 2 ^ 32 ∧
    ((runCalls shortWritesEnv 3 twoLocalFiles).2.flatMap emitted ++
        pending shortWritesEnv (fun _ _ => []) (runCalls shortWritesEnv 3 twoLocalFiles).1 <+
      twoLocalFiles.inst.files.flatMap
        (fileEvents shortWritesEnv (fun _ _ => []) .fileMode twoLocalFiles.inst.s3.bucket)) ∧
    (.error .eof ∈ (runCalls shortWritesEnv 3 twoLocalFiles).2 →
      pending shortWritesEnv (fun _ _ => []) (runCalls shortWritesEnv 3 twoLocalFiles).1 = []) :=
  have hs : Fresh twoLocalFiles := ⟨rfl, rfl, rfl, fun h => absurd rfl h⟩
  ⟨hs, rfl, by decide, runCalls_file_in_order shortWritesEnv (fun _ _ => []) hs rfl (by decide) 3⟩

/-- The record of `b.json` is lost to the short write, and nothing is emitted. -/
example : (runCalls shortWritesEnv 3 twoLocalFiles).2 =
    [.error (.api ⟨"ENOENT"⟩), .error (.tooLong 17 0), .error .eof] := by
  decide

/-! ## S3 mode while every download returns its object -/

/-- The events of an object of a bucket: the accepted records of its bytes. -/
def objectEvents (env : Env) (obj : String → String → Bytes) (bucket : String) (file : FileInfo) :
    List Event :=
  (fileRecords env file (obj bucket file.name)).filterMap (recordEvent env)

theorem fileEvents_s3Mode (env : Env) (obj : String → String → Bytes) (bucket : String) :
    fileEvents env obj .s3Mode bucket = objectEvents env obj bucket := rfl

theorem Cursors.slotsReady {obj : String → String → Bytes} {c : Nat} {s : Session}
    (h : Cursors obj c s.inst) : SlotsReady c s :=
  ⟨h.conc_pos, h.bufs_len, h.client, h.agree, h.curBuf_nonneg, h.curBuf_le, h.filled_le,
    h.last_le⟩

section
variable (env : Env) {s : Session} {obj : String → String → Bytes}
  (hdl : ∀ b j bk key, env.download b j bk key = .ok (obj bk key))
include hdl

theorem download_eq_obj : ∀ b j bk key bytes, env.download b j bk key = .ok bytes → bytes = obj bk key :=
  fun b j bk key _ h => (Except.ok.inj ((hdl b j bk key).symm.trans h)).symm

theorem loadNextFile_benign (hm : s.inst.openMode ≠ .fileMode)
    (hc : Cursors obj s.inst.curFileNum.toNat s.inst)
    (hlt : s.inst.curFileNum.toNat < s.inst.files.length) : Benign (loadNextFile env s).2 := by
  obtain ⟨⟨bytes, hb⟩, -⟩ := readNextFileS3_ready env (fun b j bk key => ⟨_, hdl b j bk key⟩)
    (s := s.withInst fun p => { p with curFileNum := p.curFileNum + 1 }) (hc.slotsReady.frame rfl) hlt
  have hidx : goIndex s.inst.files s.inst.curFileNum.toNat =
      .ok s.inst.files[s.inst.curFileNum.toNat] := by
    rw [goIndex_of_lt _ (by omega) (by omega)]; rfl
  have hf : fetchFile env s.inst.openMode s.inst.files[s.inst.curFileNum.toNat] =
      readNextFileS3 env := by
    revert hm; cases s.inst.openMode <;> first | exact fun h => absurd rfl h | exact fun _ => rfl
  simp only [loadNextFile, GoM.get_bind, hidx, GoM.lift_ok_bind, GoM.modify_bind, hf]
  rcases hr : readNextFileS3 env (s.withInst fun p => { p with curFileNum := p.curFileNum + 1 })
    with ⟨s₂, r₂⟩
  rw [hr] at hb
  subst hb
  rw [GoM.bind_of_ok hr]
  rcases hz : unzipFile env s.inst.files[s.inst.curFileNum.toNat] bytes with z | e | q
  · trivial
  · simp only [GoM.lift_apply, hz, GoM.lift_error_bind, unzipFile_error env hz]; trivial
  · exact absurd hz (unzipFile_ne_panic env _ bytes q)

theorem openIfConsumed_s3_benign (hm : s.inst.openMode = .s3Mode) (hi : Inv obj s) :
    Benign (openIfConsumed env s).2 := by
  simp only [openIfConsumed, GoM.get_bind]
  split_ifs with hpos
  swap; · trivial
  have he := ensureFile_of_ne_sqs env s (by rw [hm]; decide)
  split_ifs at he with hfl
  · rw [openNextFile, GoM.bind_of_error he]; trivial
  rw [openNextFile, GoM.bind_of_ok he]
  exact loadNextFile_benign env hdl (by rw [hm]; decide) (hi.cursors (by rw [hm]; decide))
    (Nat.lt_of_lt_of_le (Nat.lt_of_not_le hfl) (Nat.mod_le _ _))

theorem openIfConsumed_s3 (hm : s.inst.openMode = .s3Mode) {s₁ : Session} {r : GoResult Unit}
    (h : openIfConsumed env s = (s₁, r)) (hi : Inv obj s) (hsmall : s.inst.files.length < 2 ^ 32) :
    Opens env obj s s₁ r := by
  have hf : s₁.inst.files = s.inst.files := by
    rw [← (openIfConsumed_frame env s).fixed (by rw [hm]; decide), h]
  have hb := openIfConsumed_s3_benign env hdl hm hi
  rw [h] at hb
  obtain ⟨hi₁, hp, hready, heof⟩ :=
    openIfConsumed_spec env obj (download_eq_obj env hdl) h hb hi (hf ▸ hsmall)
  simp only [arrived, hf, List.drop_length, List.flatMap_nil, List.append_nil] at hp
  exact ⟨hi₁, hp, hready, fun he => (heof he).2⟩

theorem nextEvent_s3_sublist (hm : s.inst.openMode = .s3Mode) {s' : Session}
    {r : GoResult Event} (h : nextEvent env s = (s', r)) (hi : Inv obj s)
    (hsmall : s.inst.files.length < 2 ^ 32) :
    Inv obj s' ∧ emitted r ++ pending env obj s' <+ pending env obj s ∧
      (r = .error .eof → pending env obj s = []) :=
  nextEvent_sublist_of_open env (fun _ _ ho => openIfConsumed_s3 env hdl hm ho hi hsmall) h

theorem nextEvent_s3_step (hw : WritesOk env) (hm : s.inst.openMode = .s3Mode) {s' : Session}
    {r : GoResult Event} (h : nextEvent env s = (s', r)) (hi : Inv obj s)
    (hsmall : s.inst.files.length < 2 ^ 32) :
    Inv obj s' ∧ emitted r ++ pending env obj s' = pending env obj s ∧
      (r = .error .eof → pending env obj s = []) :=
  nextEvent_exact_of_open env hw (fun _ _ ho => openIfConsumed_s3 env hdl hm ho hi hsmall) h

end

/-- No record is emitted twice or out of order while every download returns its object: over
every run of `nextEvent` calls of an S3 session as `openS3` leaves it, with fewer than `2^32`
files, whatever each gunzip, parse and write returns, the events emitted followed by what is
still pending are a sublist of the accepted records of the objects, in file order, and once a
call returns `ErrEOF` nothing is pending; every call's opening of the next file returns, fails
with `ErrEOF` or fails with `ErrTimeout`. -/
theorem runCalls_s3_in_order (env : Env) (obj : String → String → Bytes)
    (hdl : ∀ b j bk key, env.download b j bk key = .ok (obj bk key)) {s : Session}
    (hs : Fresh s) (hm : s.inst.openMode = .s3Mode) (hsmall : s.inst.files.length < 2 ^ 32)
    (k : Nat) :
    (runCalls env k s).2.flatMap emitted ++ pending env obj (runCalls env k s).1 <+
      s.inst.files.flatMap (fileEvents env obj .s3Mode s.inst.s3.bucket) ∧
    (.error .eof ∈ (runCalls env k s).2 → pending env obj (runCalls env k s).1 = []) ∧
    ∀ j, Benign (openIfConsumed env (runCalls env j s).1).2 := by
  have hrun := run_sublist env obj (Steady obj .s3Mode)
    (fun ht hn => let ⟨hi', hsub, heof⟩ := nextEvent_s3_sublist env hdl ht.mode hn ht.inv ht.small
      ⟨ht.next (by decide) hn hi', hsub, heof⟩)
  obtain ⟨-, hsub, hend⟩ := hrun k s ⟨hm, hs.inv, hsmall⟩
  refine ⟨by rwa [hs.pending_eq, hm] at hsub, hend, fun j => ?_⟩
  have ht := (hrun j s ⟨hm, hs.inv, hsmall⟩).1
  exact openIfConsumed_s3_benign env hdl ht.mode ht.inv

/-- As `oneRecordEnv`, with every write cut to nothing. -/
def shortWritesS3Env : Env := { oneRecordEnv with write := fun _ => (0, none) }

theorem runCalls_s3_in_order_short_writes :
    (∀ b j bk key, shortWritesS3Env.download b j bk key = .ok ((fun _ _ => oneRecordFile) bk key)) ∧
    Fresh twoFileSession ∧ twoFileSession.inst.openMode = .s3Mode ∧
    twoFileSession.inst.files.length < 2 ^ 32 ∧
    ((runCalls shortWritesS3Env 4 twoFileSession).2.flatMap emitted ++
        pending shortWritesS3Env (fun _ _ => oneRecordFile) (runCalls shortWritesS3Env 4 twoFileSession).1 <+
      twoFileSession.inst.files.flatMap
        (fileEvents shortWritesS3Env (fun _ _ => oneRecordFile) .s3Mode twoFileSession.inst.s3.bucket)) ∧
    (.error .eof ∈ (runCalls shortWritesS3Env 4 twoFileSession).2 →
      pending shortWritesS3Env (fun _ _ => oneRecordFile) (runCalls shortWritesS3Env 4 twoFileSession).1 = []) ∧
    ∀ j, Benign (openIfConsumed shortWritesS3Env (runCalls shortWritesS3Env j twoFileSession).1).2 :=
  ⟨fun _ _ _ _ => rfl, twoFileSession_fresh, rfl, by decide,
    runCalls_s3_in_order shortWritesS3Env (fun _ _ => oneRecordFile) (fun _ _ _ _ => rfl)
      twoFileSession_fresh rfl (by decide) 4⟩

/-! ## Every record, exactly once -/

theorem run_exact_ends (env : Env) (obj : String → String → Bytes) (P : Session → Prop)
    (hstep : ∀ {s s' : Session} {r : GoResult Event}, P s → nextEvent env s = (s', r) →
      P s' ∧ emitted r ++ pending env obj s' = pending env obj s ∧
        (r = .error .eof → pending env obj s = []))
    {s : Session} (hs : P s) (hm : s.inst.openMode ≠ .sqsMode) :
    ∃ k, .error .eof ∈ (runCalls env k s).2 ∧
      (runCalls env k s).2.flatMap emitted = pending env obj s := by
  -- the calls until the end, then one that returns `ErrEOF`
  obtain ⟨k, hk, -⟩ := exists_runCalls_at_end env s
  have hq : (runCalls env k s).1.inst.openMode ≠ .sqsMode := by
    rw [(runCalls_keeps env k s hm).1]; exact hm
  have heof : .error .eof ∈ (runCalls env (k + 1) s).2 := by
    simp [runCalls_succ_at_end env hq hk]
  obtain ⟨hall, hend⟩ := run_exact env obj P hstep (k + 1) s hs
  rw [hend heof, List.append_nil] at hall
  exact ⟨k + 1, heof, hall⟩

theorem Steady.stream_step (env : Env) {obj : String → String → Bytes}
    (hdl : ∀ b j bk key, env.download b j bk key = .ok (obj bk key)) (hw : WritesOk env)
    {m : OpenMode} (hm : m ≠ .sqsMode) {t t' : Session} {r : GoResult Event}
    (ht : Steady obj m t) (hn : nextEvent env t = (t', r)) :
    Steady obj m t' ∧ emitted r ++ pending env obj t' = pending env obj t ∧
      (r = .error .eof → pending env obj t = []) := by
  obtain ⟨hi', hp, heof⟩ : Inv obj t' ∧ emitted r ++ pending env obj t' = pending env obj t ∧
      (r = .error .eof → pending env obj t = []) := by
    cases m with
    | fileMode => exact nextEvent_file_step env ht.mode hw hn ht.inv ht.small
    | s3Mode => exact nextEvent_s3_step env hdl hw ht.mode hn ht.inv ht.small
    | sqsMode => exact absurd rfl hm
  exact ⟨ht.next hm hn hi', hp, heof⟩

/-- A file or S3 stream delivers every record exactly once and ends, while every download returns
its object and every write succeeds: from the state `openLocal` or `openS3` leaves, with fewer
than `2^32` files, whatever each read, gunzip and parse returns, some number of calls ends with
`ErrEOF`, and the events they emitted are the accepted records of every file, in file order
(none for a file whose read fails). -/
theorem runCalls_delivers_all (env : Env) (obj : String → String → Bytes)
    (hdl : ∀ b j bk key, env.download b j bk key = .ok (obj bk key)) (hw : WritesOk env)
    {s : Session} (hs : Fresh s) (hm : s.inst.openMode ≠ .sqsMode)
    (hsmall : s.inst.files.length < 2 ^ 32) :
    ∃ k, .error .eof ∈ (runCalls env k s).2 ∧ (runCalls env k s).2.flatMap emitted =
      s.inst.files.flatMap (fileEvents env obj s.inst.openMode s.inst.s3.bucket) := by
  obtain ⟨k, heof, hall⟩ :=
    run_exact_ends env obj _ (Steady.stream_step env hdl hw hm) ⟨rfl, hs.inv, hsmall⟩ hm
  exact ⟨k, heof, hall.trans (hs.pending_eq env obj)⟩

theorem runCalls_delivers_all_two_files :
    (∀ b j bk key, oneRecordEnv.download b j bk key = .ok ((fun _ _ => oneRecordFile) bk key)) ∧
    WritesOk oneRecordEnv ∧ Fresh twoFileSession ∧ twoFileSession.inst.openMode ≠ .sqsMode ∧
    twoFileSession.inst.files.length < 2 ^ 32 ∧
    ∃ k, .error .eof ∈ (runCalls oneRecordEnv k twoFileSession).2 ∧
      (runCalls oneRecordEnv k twoFileSession).2.flatMap emitted =
        twoFileSession.inst.files.flatMap (fileEvents oneRecordEnv (fun _ _ => oneRecordFile)
          twoFileSession.inst.openMode twoFileSession.inst.s3.bucket) :=
  have hw : WritesOk oneRecordEnv := fun d => ⟨d.length, rfl, le_rfl⟩
  ⟨fun _ _ _ _ => rfl, hw, twoFileSession_fresh, by decide, by decide,
    runCalls_delivers_all oneRecordEnv (fun _ _ => oneRecordFile) (fun _ _ _ _ => rfl) hw
      twoFileSession_fresh (by decide) (by decide)⟩

/-- A local directory from open to end of stream, when every write succeeds: after an
`openLocal` that succeeds from the framework's fresh instance, with fewer than `2^32` files kept
by the walk, whatever each read, gunzip and parse returns, some number of `nextEvent` calls ends
with `ErrEOF`, and the events they emitted are the accepted records of the `.json` and `.json.gz`
files the walk meets, in walk order, none for a file whose read fails. -/
theorem openLocal_delivers_all (env : Env) (hw : WritesOk env) (mode : OpenMode)
    (config : PluginConfig) (params : String) (n b : Nat)
    (hok : (openLocal env params ⟨.fresh mode config, n, b⟩).2 = .ok ())
    (hsmall : (localFiles env params).length < 2 ^ 32) :
    ∃ k, .error .eof ∈ (runCalls env k (openLocal env params ⟨.fresh mode config, n, b⟩).1).2 ∧
      (runCalls env k (openLocal env params ⟨.fresh mode config, n, b⟩).1).2.flatMap emitted =
        (localFiles env params).flatMap (localEvents env) := by
  rw [openLocal_eq] at hok ⊢
  split_ifs at hok ⊢
  have hs : Fresh ⟨{ PluginInstance.fresh .fileMode config with files := localFiles env params }, n, b⟩ :=
    ⟨rfl, rfl, rfl, fun h => absurd rfl h⟩
  obtain ⟨k, heof, hall⟩ := run_exact_ends env (fun _ _ => []) (Steady _ .fileMode)
    (Steady.file_step env hw) ⟨rfl, hs.inv, hsmall⟩ (show OpenMode.fileMode ≠ .sqsMode by decide)
  exact ⟨k, heof, by rw [hall, hs.pending_eq]; exact congrArg _ (fileEvents_fileMode env _ _)⟩

/-- Every read succeeds and the walk keeps `logs/a.json` only. -/
def oneLocalFileEnv : Env :=
  { oneRecordEnv with dirExists := fun _ => true, walk := fun _ => [("logs/a.json", some false)] }

theorem openLocal_delivers_all_logs : WritesOk oneLocalFileEnv ∧
    (openLocal oneLocalFileEnv "logs" ⟨.fresh .fileMode (s3Config 1 ""), 0, 0⟩).2 = .ok () ∧
    (localFiles oneLocalFileEnv "logs").length < 2 ^ 32 ∧
    ∃ k, .error .eof ∈ (runCalls oneLocalFileEnv k
        (openLocal oneLocalFileEnv "logs" ⟨.fresh .fileMode (s3Config 1 ""), 0, 0⟩).1).2 ∧
      (runCalls oneLocalFileEnv k
        (openLocal oneLocalFileEnv "logs" ⟨.fresh .fileMode (s3Config 1 ""), 0, 0⟩).1).2.flatMap
          emitted = (localFiles oneLocalFileEnv "logs").flatMap (localEvents oneLocalFileEnv) :=
  have hw : WritesOk oneLocalFileEnv := fun d => ⟨d.length, rfl, le_rfl⟩
  have hok : (openLocal oneLocalFileEnv "logs" ⟨.fresh .fileMode (s3Config 1 ""), 0, 0⟩).2 =
      .ok () := by decide
  ⟨hw, hok, by decide,
    openLocal_delivers_all oneLocalFileEnv hw .fileMode (s3Config 1 "") "logs" 0 0 hok (by decide)⟩

/-- An S3 bucket from open to end of stream, while every download returns its object and every
write succeeds: after an `openS3` that succeeds from the framework's fresh instance, however its
listing goroutines interleave, with fewer than `2^32` keys listed and whatever each gunzip and
parse returns, some number of `nextEvent` calls ends with `ErrEOF`, and the events they emitted
are the accepted records of the listed objects of the bucket the locator names, in listing
order. -/
theorem openS3_delivers_all (env : Env) (obj : String → String → Bytes)
    (hdl : ∀ b j bk key, env.download b j bk key = .ok (obj bk key)) (hw : WritesOk env)
    {mode : OpenMode} {config : PluginConfig} {input : String} {p : PluginInstance}
    (h : OpenS3 env (.fresh mode config) input (.ok p)) (n b : Nat)
    (hsmall : p.files.length < 2 ^ 32) :
    ∃ k, .error .eof ∈ (runCalls env k ⟨p, n, b⟩).2 ∧ (runCalls env k ⟨p, n, b⟩).2.flatMap emitted =
      p.files.flatMap (objectEvents env obj (splitBucket (input.drop 5)).1) := by
  obtain ⟨hm, -, -, -, hs⟩ := openS3_session h n b
  have hq : p.openMode ≠ .sqsMode := by rw [hm]; decide
  obtain ⟨k, heof, hall⟩ :=
    run_exact_ends env obj _ (Steady.stream_step env hdl hw hq) ⟨rfl, hs.inv, hsmall⟩ hq
  refine ⟨k, heof, hall.trans ?_⟩
  rw [hs.pending_eq env obj]
  simp only [hm, openS3_bucket h, fileEvents_s3Mode]

/-- `fooPages` listed from 2021 on, and every download returns `oneRecordFile`. -/
def fooObjectsEnv : Env :=
  { oneRecordEnv with listPages := fooPages, parseInterval := fun _ => .ok from2021 }

theorem openS3_delivers_all_foo :
    (∀ b j bk key, fooObjectsEnv.download b j bk key = .ok ((fun _ _ => oneRecordFile) bk key)) ∧
    WritesOk fooObjectsEnv ∧
    OpenS3 fooObjectsEnv (.fresh .s3Mode (s3Config 1 "")) "s3://b/foo"
      (.ok { PluginInstance.fresh .s3Mode (s3Config 1 "") with
        files := [fileInfoOf "foo/1_CloudTrail_us-east-1_20200101T0000Z_x.json"],
        s3 := ⟨"b", true, [[]], 0, 0, 0⟩ }) ∧
    [fileInfoOf "foo/1_CloudTrail_us-east-1_20200101T0000Z_x.json"].length < 2 ^ 32 ∧
    ∃ k, .error .eof ∈ (runCalls fooObjectsEnv k ⟨{ PluginInstance.fresh .s3Mode (s3Config 1 "") with
        files := [fileInfoOf "foo/1_CloudTrail_us-east-1_20200101T0000Z_x.json"],
        s3 := ⟨"b", true, [[]], 0, 0, 0⟩ }, 0, 0⟩).2 ∧
      (runCalls fooObjectsEnv k ⟨{ PluginInstance.fresh .s3Mode (s3Config 1 "") with
        files := [fileInfoOf "foo/1_CloudTrail_us-east-1_20200101T0000Z_x.json"],
        s3 := ⟨"b", true, [[]], 0, 0, 0⟩ }, 0, 0⟩).2.flatMap emitted =
        [fileInfoOf "foo/1_CloudTrail_us-east-1_20200101T0000Z_x.json"].flatMap
          (objectEvents fooObjectsEnv (fun _ _ => oneRecordFile) (splitBucket ("s3://b/foo".drop 5)).1) :=
  have hw : WritesOk fooObjectsEnv := fun d => ⟨d.length, rfl, le_rfl⟩
  have hopen :=
    @OpenS3.of_listing (listingEnv fooPages from2021) fooObjectsEnv _ _ _ rfl rfl openS3_fooPages
  ⟨fun _ _ _ _ => rfl, hw, hopen, by decide,
    openS3_delivers_all fooObjectsEnv (fun _ _ => oneRecordFile) (fun _ _ _ _ => rfl) hw hopen 0 0
      (by decide)⟩

end CloudTrail
