import CloudTrail.Failures

/-! Runs of queue sessions whose polls, gunzips, parses and writes may fail: no record is emitted
twice or out of order. -/

namespace CloudTrail

open scoped List

theorem getMoreSQSFiles_error (env : Env) (s : Session) {e : Err}
    (h : (getMoreSQSFiles env s).2 = .error e) :
    (getMoreSQSFiles env s).1 = { s with polls := s.polls + 1 } := by
  obtain ⟨keys, st, hs, herr⟩ := getMoreSQSFiles_state env s
  obtain ⟨rfl, rfl⟩ := herr e h
  rw [hs, List.map_nil, polled_nil_self]

theorem arrived_nextRecord (env : Env) (obj : String → String → Bytes) (s s₁ : Session) :
    arrived env obj s (nextRecord env s₁).1 = arrived env obj s s₁ := by
  rw [nextRecord_state]
  split_ifs <;> rfl

section
variable (env : Env) {s : Session} (hm : s.inst.openMode = .sqsMode)
include hm

theorem ensureFile_poll_error {e : Err} (h : (ensureFile env s).2 = .error e)
    (he : e ≠ .timeout) : (ensureFile env s).1 = { s with polls := s.polls + 1 } := by
  simp only [ensureFile, GoM.get_bind, ge_iff_le, hm, if_true] at h ⊢
  split_ifs at h ⊢
  rcases GoM.bind_eq_error h with hg | ⟨s', a, hg, h'⟩
  · rw [GoM.bind_of_error (Prod.ext rfl hg : getMoreSQSFiles env s = (_, .error e))]
    exact getMoreSQSFiles_error env s hg
  · simp only [GoM.get_bind] at h'
    split_ifs at h'
    simp only [GoM.throw_apply, GoResult.error.injEq] at h'
    exact absurd h'.symm he

variable {obj : String → String → Bytes}
  (hdl : ∀ b j bk key, env.download b j bk key = .ok (obj bk key))
include hdl

theorem loadNextFile_benign_of_poll {s₂ : Session} {u : Unit} (hf : ensureFile env s = (s₂, .ok u))
    (hi : Inv obj s) (hsmall : (loadNextFile env s₂).1.inst.files.length < 2 ^ 32) :
    Benign (loadNextFile env s₂).2 := by
  obtain ⟨hi₂, ⟨k, new, st, rfl⟩, -, hlt, -⟩ :=
    ensureFile_spec env obj hf trivial hi (loadNextFile_files env ▸ hsmall)
  have hne : s.inst.openMode ≠ .fileMode := by rw [hm]; decide
  exact loadNextFile_benign env hdl hne (hi₂.cursors hne) (hlt rfl)

theorem openIfConsumed_sqs_error {s₁ : Session} {e : Err} (h : openIfConsumed env s = (s₁, .error e))
    (he : e ≠ .timeout) (hi : Inv obj s) (hsmall : s₁.inst.files.length < 2 ^ 32) :
    s₁ = { s with polls := s.polls + 1 } := by
  simp only [openIfConsumed, GoM.get_bind] at h
  split_ifs at h with hpos
  swap; · rw [GoM.pure_apply] at h; cases h
  rw [openNextFile] at h
  rcases GoM.bind_cases (ensureFile env) (fun _ => loadNextFile env) s with
    ⟨s₂, u, hf, h'⟩ | ⟨s₂, e', hf, h'⟩ | ⟨s₂, p, hf, h'⟩ <;> rw [h'] at h
  rotate_right
  · cases h
  · -- a poll that succeeds leaves a file to load, and loading fails only by `ErrTimeout`
    have hb₂ := loadNextFile_benign_of_poll env hm hdl hf hi (by rwa [h])
    rw [h] at hb₂
    rcases (benign_error e).mp hb₂ with rfl | rfl
    · exact absurd rfl he
    · exact absurd (by rw [h]) (loadNextFile_ne_eof env _)
  · -- the poll failed
    cases h
    have hs₁ := ensureFile_poll_error env hm (by rw [hf]) he
    rwa [hf] at hs₁

theorem openIfConsumed_sqs {s₁ : Session} {r : GoResult Unit} (h : openIfConsumed env s = (s₁, r))
    (hr : ∀ p, r ≠ .panic p) (hi : Inv obj s) (hsmall : s₁.inst.files.length < 2 ^ 32) :
    Inv obj s₁ ∧ pending env obj s₁ = pending env obj s ++ arrived env obj s s₁ ∧
      (r = .ok () → s₁.inst.evtJSONListPos < s₁.inst.evtJSONStrings.length ∨
        s₁.inst.evtJSONStrings.length = 0) := by
  by_cases hb : Benign r
  case pos =>
    obtain ⟨hi₁, hp, hready, -⟩ :=
      openIfConsumed_spec env obj (download_eq_obj env hdl) h hb hi hsmall
    exact ⟨hi₁, hp, hready⟩
  obtain ⟨e, rfl, he⟩ : ∃ e, r = .error e ∧ e ≠ .timeout := by
    rcases r with u | e | p
    · exact absurd trivial hb
    · exact ⟨e, rfl, by rintro rfl; exact hb trivial⟩
    · exact absurd rfl (hr p)
  obtain rfl := openIfConsumed_sqs_error env hm hdl h he hi hsmall
  exact ⟨⟨hi.pos_le, hi.cur_le, hi.cursors⟩, by simp [arrived]; rfl, nofun⟩

theorem nextEvent_sqs_sublist {s' : Session} {r : GoResult Event} (h : nextEvent env s = (s', r))
    (hr : ∀ p, r ≠ .panic p) (hi : Inv obj s) (hsmall : s'.inst.files.length < 2 ^ 32) :
    Inv obj s' ∧ emitted r ++ pending env obj s' <+ pending env obj s ++ arrived env obj s s' := by
  rw [nextEvent] at h
  rcases GoM.bind_cases (openIfConsumed env) (fun _ => nextRecord env) s with
    ⟨s₁, u, ho, h'⟩ | ⟨s₁, e, ho, h'⟩ | ⟨s₁, p, ho, h'⟩ <;> rw [h'] at h
  · have hf : s'.inst.files = s₁.inst.files := by rw [← nextRecord_files env (s := s₁), h]
    obtain ⟨hi₁, hp, -⟩ := openIfConsumed_sqs env hm hdl ho nofun hi (hf ▸ hsmall)
    obtain ⟨hi', hsub⟩ := nextRecord_sublist env h hi₁
    have ha : arrived env obj s s' = arrived env obj s s₁ := by
      rw [← arrived_nextRecord env obj s s₁, h]
    exact ⟨hi', by rw [ha, ← hp]; exact hsub⟩
  · cases h
    obtain ⟨hi₁, hp, -⟩ := openIfConsumed_sqs env hm hdl ho nofun hi hsmall
    exact ⟨hi₁, hp ▸ List.Sublist.refl _⟩
  · cases h
    exact absurd rfl (hr p)

end

theorem files_length_le_runCalls (env : Env) :
    ∀ (k : Nat) (s : Session), s.inst.files.length ≤ (runCalls env k s).1.inst.files.length
  | 0, _ => le_rfl
  | k + 1, s => by
    obtain ⟨keys, hk⟩ := (nextEvent_frame env s).appended
    have h₁ : s.inst.files.length ≤ (nextEvent env s).1.inst.files.length := by
      rw [hk, List.length_append]; omega
    exact h₁.trans (files_length_le_runCalls env k _)

theorem runCalls_openMode (env : Env) :
    ∀ (k : Nat) (s : Session), (runCalls env k s).1.inst.openMode = s.inst.openMode
  | 0, _ => rfl
  | k + 1, s => (runCalls_openMode env k _).trans (nextEvent_frame env s).mode

theorem run_sqs_sublist (env : Env) (obj : String → String → Bytes)
    (hdl : ∀ b j bk key, env.download b j bk key = .ok (obj bk key)) :
    ∀ (k : Nat) (s : Session), s.inst.openMode = .sqsMode → Inv obj s →
      (∀ p, .panic p ∉ (runCalls env k s).2) → (runCalls env k s).1.inst.files.length < 2 ^ 32 →
      Inv obj (runCalls env k s).1 ∧
      (runCalls env k s).2.flatMap emitted ++ pending env obj (runCalls env k s).1 <+
        pending env obj s ++ runArrivals env obj k s
  | 0, s, _, hi, _, _ => ⟨hi, by simp [runCalls, runArrivals]⟩
  | k + 1, s, hm, hi, hp, hsmall => by
    rcases hn : nextEvent env s with ⟨s₁, r₁⟩
    simp only [runCalls, runArrivals, hn, List.mem_cons, not_or] at hp hsmall ⊢
    have hfr := nextEvent_frame env s
    rw [hn] at hfr
    obtain ⟨hi₁, hstep⟩ := nextEvent_sqs_sublist env hm hdl hn (fun p he => (hp p).1 he.symm) hi
      (lt_of_le_of_lt (files_length_le_runCalls env k s₁) hsmall)
    obtain ⟨hik, hrun⟩ :=
      run_sqs_sublist env obj hdl k s₁ (hfr.mode.trans hm) hi₁ (fun p => (hp p).2) hsmall
    refine ⟨hik, ?_⟩
    calc emitted r₁ ++ (runCalls env k s₁).2.flatMap emitted ++ pending env obj (runCalls env k s₁).1
        = emitted r₁ ++ ((runCalls env k s₁).2.flatMap emitted ++ pending env obj (runCalls env k s₁).1) :=
          List.append_assoc _ _ _
      _ <+ emitted r₁ ++ (pending env obj s₁ ++ runArrivals env obj k s₁) := hrun.append_left _
      _ = (emitted r₁ ++ pending env obj s₁) ++ runArrivals env obj k s₁ := (List.append_assoc _ _ _).symm
      _ <+ (pending env obj s ++ arrived env obj s s₁) ++ runArrivals env obj k s₁ := hstep.append_right _
      _ = pending env obj s ++ (arrived env obj s s₁ ++ runArrivals env obj k s₁) := List.append_assoc _ _ _

/-- No record is emitted twice or out of order in a queue session while every download returns
its object: over every run of `nextEvent` calls from the state `openSQS` leaves in which no call
panics and the list ends below `2^32` files, whatever each poll, gunzip, parse and write returns,
the events emitted followed by what is still pending are a sublist of the accepted records of
the files listed at the start followed by those of the files the polls appended, in order; and
every call of the run whose opening of the next file fails other than by `ErrTimeout` is a
failed poll, which changed nothing but the count of polls. -/
theorem runCalls_sqs_in_order (env : Env) (obj : String → String → Bytes)
    (hdl : ∀ b j bk key, env.download b j bk key = .ok (obj bk key)) {s : Session}
    (hs : Fresh s) (hm : s.inst.openMode = .sqsMode) (k : Nat)
    (hp : ∀ p, .panic p ∉ (runCalls env k s).2)
    (hsmall : (runCalls env k s).1.inst.files.length < 2 ^ 32) :
    (runCalls env k s).2.flatMap emitted ++ pending env obj (runCalls env k s).1 <+
      s.inst.files.flatMap (fileEvents env obj .sqsMode s.inst.s3.bucket) ++
        runArrivals env obj k s ∧
    ∀ j < k, ∀ e, (openIfConsumed env (runCalls env j s).1).2 = .error e → e = .timeout ∨
      (openIfConsumed env (runCalls env j s).1).1 =
        { (runCalls env j s).1 with polls := (runCalls env j s).1.polls + 1 } := by
  refine ⟨?_, fun j hj e he => ?_⟩
  · have hrun := (run_sqs_sublist env obj hdl k s hm hs.inv hp hsmall).2
    rwa [hs.pending_eq, hm] at hrun
  -- the run is the `j` calls before the call, that call, and the rest
  obtain ⟨m, rfl⟩ : ∃ m, k = j + (m + 1) := ⟨k - j - 1, by omega⟩
  rw [runCalls_add] at hp hsmall
  have hi := (run_sqs_sublist env obj hdl j s hm hs.inv (fun p h => hp p (List.mem_append_left _ h))
    (lt_of_le_of_lt (files_length_le_runCalls env _ _) hsmall)).1
  have hof : (openIfConsumed env (runCalls env j s).1).1.inst.files.length < 2 ^ 32 := by
    rw [← GoM.bind_keeps (fun t : Session => t.inst.files) (fun _ t => nextRecord_files env (s := t))]
    exact lt_of_le_of_lt (files_length_le_runCalls env m _) hsmall
  by_cases het : e = .timeout
  · exact .inl het
  · exact .inr (openIfConsumed_sqs_error env ((runCalls_openMode env j s).trans hm) hdl
      (Prod.ext rfl he) het hi hof)

/-- Every poll of the queue fails. -/
def pollFailsEnv : Env := { oneRecordEnv with receive := fun _ => .error ⟨"AccessDenied"⟩ }

/-- The two sample objects in a queue session. -/
def twoQueuedFiles : Session :=
  { twoFileSession with inst := { twoFileSession.inst with openMode := .sqsMode } }

theorem runCalls_sqs_in_order_failed_polls :
    (∀ b j bk key, pollFailsEnv.download b j bk key = .ok ((fun _ _ => oneRecordFile) bk key)) ∧
    Fresh twoQueuedFiles ∧ twoQueuedFiles.inst.openMode = .sqsMode ∧
    (∀ p, .panic p ∉ (runCalls pollFailsEnv 4 twoQueuedFiles).2) ∧
    (runCalls pollFailsEnv 4 twoQueuedFiles).1.inst.files.length < 2 ^ 32 ∧
    (runCalls pollFailsEnv 4 twoQueuedFiles).2.flatMap emitted ++
        pending pollFailsEnv (fun _ _ => oneRecordFile) (runCalls pollFailsEnv 4 twoQueuedFiles).1 <+
      twoQueuedFiles.inst.files.flatMap
          (fileEvents pollFailsEnv (fun _ _ => oneRecordFile) .sqsMode twoQueuedFiles.inst.s3.bucket) ++
        runArrivals pollFailsEnv (fun _ _ => oneRecordFile) 4 twoQueuedFiles ∧
    ∀ j < 4, ∀ e, (openIfConsumed pollFailsEnv (runCalls pollFailsEnv j twoQueuedFiles).1).2 =
      .error e → e = .timeout ∨ (openIfConsumed pollFailsEnv (runCalls pollFailsEnv j twoQueuedFiles).1).1 =
        { (runCalls pollFailsEnv j twoQueuedFiles).1 with
          polls := (runCalls pollFailsEnv j twoQueuedFiles).1.polls + 1 } := by
  have hs : Fresh twoQueuedFiles :=
    ⟨rfl, rfl, rfl, fun _ => ⟨by decide, fun _ => rfl, fun _ => rfl, rfl, rfl, rfl⟩⟩
  have hrun : (runCalls pollFailsEnv 4 twoQueuedFiles).2 =
      [.ok ⟨ascii "\x7b\"eventTime\":\"t\"\x7d", 0⟩, .ok ⟨ascii "\x7b\"eventTime\":\"t\"\x7d", 0⟩,
        .error (.api ⟨"AccessDenied"⟩), .error (.api ⟨"AccessDenied"⟩)] := by decide
  have hp : ∀ p, .panic p ∉ (runCalls pollFailsEnv 4 twoQueuedFiles).2 := by rw [hrun]; simp
  have hsmall : (runCalls pollFailsEnv 4 twoQueuedFiles).1.inst.files.length < 2 ^ 32 := by decide
  exact ⟨fun _ _ _ _ => rfl, hs, rfl, hp, hsmall,
    runCalls_sqs_in_order pollFailsEnv (fun _ _ => oneRecordFile) (fun _ _ _ _ => rfl) hs rfl 4 hp
      hsmall⟩

end CloudTrail
