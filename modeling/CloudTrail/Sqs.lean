import CloudTrail.Download

/-! `getMoreSQSFiles`, one poll of the queue, and the unchecked type assertions that make it panic.
-/

namespace CloudTrail

/-- `json.Unmarshal` into a `map[string]interface{}`: an object gives its members, `null`
leaves the map `nil`, and any other value is an `UnmarshalTypeError`. -/
def asMap : GoJson → Except ApiErr (List (String × GoJson))
  | .object kvs => .ok kvs
  | .null => .ok []
  | _ => .error ⟨"UnmarshalTypeError"⟩

/-- `m[key]` with its comma-ok: of equal keys the decoder keeps the last. -/
def mapLookup (m : List (String × GoJson)) (key : String) : Option GoJson :=
  (m.reverse.find? (·.1 = key)).map (·.2)

/-- `v.(string)` on a map value, `none` standing for a missing member: panics unless the value
is a string. -/
def assertString : Option GoJson → GoResult String
  | some (.string s) => .ok s
  | _ => .panic .typeAssertion

theorem assertString_ne_error (o : Option GoJson) (e : Err) : assertString o ≠ .error e := by
  unfold assertString
  split <;> nofun

/-- The loop over `s3Event.Records` (lines 496–517): the bucket follows the records, `initS3`
runs before the first, and each record's key is appended. -/
def s3EventFiles : List S3EventRecord → Bool → String → PluginInstance → GoResult PluginInstance
  | [], _, _, p => .ok p
  | r :: rs, s3Init, lastBucket, p => do
    let p ← if !s3Init || r.bucketName ≠ lastBucket then
        let p := { p with s3 := { p.s3 with bucket := r.bucketName } }
        if !s3Init then initS3 p else pure p
      else pure p
    s3EventFiles rs true r.bucketName { p with files := p.files ++ [fileInfoOf r.objectKey] }

/-- `getMoreSQSFiles()` -/
def getMoreSQSFiles (env : Env) : GoM Session Unit := do
  let s ← GoM.get
  GoM.modify fun s => { s with polls := s.polls + 1 }
  let msgs ← GoM.lift (ofExcept (env.receive s.polls))
  match msgs with
  | [] => pure ()
  | msg :: _ =>
    GoM.lift (if s.inst.config.SQSDelete then ofExcept (env.delete s.polls) else .ok ())
    let sqsMsg ← GoM.lift (ofExcept (env.unmarshalJson msg.body >>= asMap))
    match mapLookup sqsMsg "Type" with
    | none => GoM.throw .noTypeProperty
    | some messageType =>
      let t ← GoM.lift (assertString (some messageType))
      if t ≠ "Notification" then GoM.throw .notNotification
      else if s.inst.config.UseS3SNS then
        let m ← GoM.lift (assertString (mapLookup sqsMsg "Message"))
        let records ← GoM.lift (ofExcept (env.unmarshalS3Event m))
        let s ← GoM.get
        let p ← GoM.lift (s3EventFiles records false "" s.inst)
        GoM.modify (·.withInst fun _ => p)
      else
        let m ← GoM.lift (assertString (mapLookup sqsMsg "Message"))
        let notification ← GoM.lift (ofExcept (env.unmarshalSns m))
        GoM.modify (·.withS3 fun st => { st with bucket := notification.Bucket })
        let s ← GoM.get
        let p ← GoM.lift (initS3 s.inst)
        GoM.modify (·.withInst fun _ => { p with files := p.files ++ notification.Keys.map fileInfoOf })

/-- `openSQS(input)`; the locator starts with `sqs://`, so its first 6 bytes are 6 runes. -/
def openSQS (env : Env) (input : String) : GoM Session Unit := do
  GoM.modify (·.withInst fun p => { p with openMode := .sqsMode })
  GoM.lift (if input.length < 6 then .panic .sliceBounds else .ok ())
  let s ← GoM.get
  let owner := if s.inst.config.SQSOwnerAccount ≠ "" then some s.inst.config.SQSOwnerAccount
    else none
  let url ← GoM.lift (ofExcept (env.getQueueUrl (input.drop 6) owner))
  GoM.modify (·.withInst fun p => { p with queueURL := url })
  getMoreSQSFiles env

/-! ## What a poll changes -/

/-- `p` after a poll: the files `new` appended, and the bucket, the client and the download
slots taken from `st`. -/
def PluginInstance.polled (p : PluginInstance) (new : List FileInfo) (st : S3State) :
    PluginInstance :=
  { p with
    files := p.files ++ new
    s3 := { p.s3 with
      bucket := st.bucket
      clientSet := st.clientSet
      DownloadBufs := st.DownloadBufs } }

@[simp] theorem polled_nil_self (p : PluginInstance) : p.polled [] p.s3 = p := by
  simp [PluginInstance.polled]

theorem polled_polled (p : PluginInstance) (new new' : List FileInfo) (st st' : S3State) :
    (p.polled new st).polled new' st' = p.polled (new ++ new') st' := by
  simp [PluginInstance.polled]

/-- Once the client is set, there are `d` download slots. -/
def SlotsSized (d : Int) (st : S3State) : Prop :=
  st.clientSet = true → st.DownloadBufs.length = d.toNat

theorem initS3_sized {p q : PluginInstance} (h : initS3 p = .ok q) :
    q = p.polled [] q.s3 ∧ q.s3.bucket = p.s3.bucket ∧ q.s3.clientSet = true ∧
      (SlotsSized p.config.S3DownloadConcurrency p.s3 →
        SlotsSized p.config.S3DownloadConcurrency q.s3) := by
  unfold initS3 makeBufs at h
  split at h
  · cases h; exact ⟨by simp, rfl, ‹_›, id⟩
  · split at h <;> cases h
    exact ⟨by simp [PluginInstance.polled], rfl, rfl, fun _ _ => by simp⟩

theorem s3EventFiles_ok : ∀ {rs : List S3EventRecord} {s3Init : Bool} {lb : String}
    {p p' : PluginInstance}, s3EventFiles rs s3Init lb p = .ok p' →
    (s3Init = true → p.s3.clientSet = true) →
    ∃ st, p' = p.polled (rs.map fun r => fileInfoOf r.objectKey) st ∧
      (p.s3.clientSet = true → st.clientSet = true) ∧ (rs ≠ [] → st.clientSet = true) ∧
      (SlotsSized p.config.S3DownloadConcurrency p.s3 →
        SlotsSized p.config.S3DownloadConcurrency st)
  | [], _, _, p, p', h, _ => by
    cases h; exact ⟨p.s3, by simp, id, nofun, id⟩
  | r :: rs, s3Init, lb, p, p', h, hinit => by
    simp only [s3EventFiles] at h
    -- the instance after the bucket switch and the first `initS3`
    obtain ⟨st1, hc1, hs1, h⟩ : ∃ st1 : S3State, st1.clientSet = true ∧
        (SlotsSized p.config.S3DownloadConcurrency p.s3 →
          SlotsSized p.config.S3DownloadConcurrency st1) ∧
        s3EventFiles rs true r.bucketName (p.polled [fileInfoOf r.objectKey] st1) = .ok p' := by
      split at h
      · split at h
        · rcases hq : initS3 { p with s3 := { p.s3 with bucket := r.bucketName } } with q | e | q <;>
            rw [hq] at h <;> simp only [GoResult.bind_ok, GoResult.bind_error,
              GoResult.bind_panic, reduceCtorEq] at h
          obtain ⟨he, -, hc, hs'⟩ := initS3_sized hq
          refine ⟨q.s3, hc, hs', ?_⟩
          rw [he] at h
          simpa [PluginInstance.polled] using h
        · rename_i hinit'
          simp only [GoResult.pure_eq, GoResult.bind_ok] at h
          refine ⟨{ p.s3 with bucket := r.bucketName }, hinit (by simpa using hinit'), id, ?_⟩
          simpa [PluginInstance.polled] using h
      · rename_i hsame
        simp only [GoResult.pure_eq, GoResult.bind_ok] at h
        refine ⟨p.s3, hinit (by revert hsame; cases s3Init <;> simp), id, ?_⟩
        simpa [PluginInstance.polled] using h
    obtain ⟨st, rfl, hst1, -, hst⟩ := s3EventFiles_ok h (fun _ => hc1)
    have hc : st.clientSet = true := hst1 hc1
    exact ⟨st, by simp [polled_polled], fun _ => hc, fun _ => hc, hst ∘ hs1⟩

theorem initS3_ne_error {p : PluginInstance} {e : Err} : initS3 p ≠ .error e := by
  unfold initS3 makeBufs
  split
  · simp
  · split <;> simp

theorem s3EventFiles_ne_error : ∀ {rs : List S3EventRecord} {s3Init : Bool} {lb : String}
    {p : PluginInstance} {e : Err}, s3EventFiles rs s3Init lb p ≠ .error e
  | [], _, _, _, _ => nofun
  | r :: rs, s3Init, lb, p, e => by
    simp only [s3EventFiles]
    split
    · split
      · rcases hq : initS3 { p with s3 := { p.s3 with bucket := r.bucketName } } with q | e' | q
        · exact s3EventFiles_ne_error
        · exact absurd hq initS3_ne_error
        · simp
      · exact s3EventFiles_ne_error
    · exact s3EventFiles_ne_error

/-- The records of an S3 event notification leave the bucket of the last record in
`oCtx.s3.bucket`: the keys are appended without their buckets. -/
theorem s3EventFiles_bucket : ∀ {rs : List S3EventRecord} {s3Init : Bool} {lb : String}
    {p p' : PluginInstance}, s3EventFiles rs s3Init lb p = .ok p' →
    (s3Init = true → p.s3.bucket = lb) →
    p'.s3.bucket = (rs.getLast?.map (·.bucketName)).getD p.s3.bucket
  | [], _, _, p, p', h, _ => by cases h; rfl
  | r :: rs, s3Init, lb, p, p', h, hlb => by
    simp only [s3EventFiles] at h
    -- the instance the rest of the records start from holds the bucket of `r`
    obtain ⟨q, hq, h⟩ : ∃ q : PluginInstance, q.s3.bucket = r.bucketName ∧
        s3EventFiles rs true r.bucketName { q with files := q.files ++ [fileInfoOf r.objectKey] } =
          .ok p' := by
      split at h
      · split at h
        · rcases hi : initS3 { p with s3 := { p.s3 with bucket := r.bucketName } } with q | e | q <;>
            rw [hi] at h <;> simp only [GoResult.bind_ok, GoResult.bind_error,
              GoResult.bind_panic, reduceCtorEq] at h
          exact ⟨q, (initS3_sized hi).2.1, h⟩
        · exact ⟨{ p with s3 := { p.s3 with bucket := r.bucketName } }, rfl, by simpa using h⟩
      · rename_i hsame
        simp only [Bool.or_eq_true, Bool.not_eq_true', decide_eq_true_eq, not_or,
          Bool.not_eq_false, not_not] at hsame
        exact ⟨p, by rw [hlb hsame.1, hsame.2], by simpa using h⟩
    rw [s3EventFiles_bucket h (fun _ => hq)]
    cases rs with
    | nil => exact hq
    | cons r' rs =>
      rw [List.getLast?_cons_cons, List.getLast?_eq_getLast (r' :: rs) (List.cons_ne_nil _ _)]
      rfl

/-- Two records in two buckets leave the second bucket. -/
theorem s3EventFiles_bucket_two :
    s3EventFiles [⟨"b1", "k1.json"⟩, ⟨"b2", "k2.json"⟩] false ""
        (.fresh .sqsMode ⟨2, "", "", false, true, ""⟩) =
      .ok { PluginInstance.fresh .sqsMode ⟨2, "", "", false, true, ""⟩ with
        files := [fileInfoOf "k1.json", fileInfoOf "k2.json"], s3 := ⟨"b2", true, [[], []], 0, 0, 0⟩ } ∧
    (false = true → (PluginInstance.fresh .sqsMode ⟨2, "", "", false, true, ""⟩).s3.bucket = "") ∧
    (⟨"b2", true, [[], []], 0, 0, 0⟩ : S3State).bucket =
      (([⟨"b1", "k1.json"⟩, ⟨"b2", "k2.json"⟩] : List S3EventRecord).getLast?.map (·.bucketName)).getD
        (PluginInstance.fresh .sqsMode ⟨2, "", "", false, true, ""⟩).s3.bucket :=
  have h : s3EventFiles [⟨"b1", "k1.json"⟩, ⟨"b2", "k2.json"⟩] false ""
      (.fresh .sqsMode ⟨2, "", "", false, true, ""⟩) =
        .ok { PluginInstance.fresh .sqsMode ⟨2, "", "", false, true, ""⟩ with
          files := [fileInfoOf "k1.json", fileInfoOf "k2.json"],
          s3 := ⟨"b2", true, [[], []], 0, 0, 0⟩ } := by decide
  ⟨h, nofun, s3EventFiles_bucket h nofun⟩

theorem getMoreSQSFiles_cases (env : Env) (s : Session) :
    (∃ e, (getMoreSQSFiles env s).2 = .error e ∧ e ≠ .timeout ∧ e ≠ .eof) ∨
    (∃ p, (getMoreSQSFiles env s).2 = .panic p) ∨
    ((getMoreSQSFiles env s).2 = .ok () ∧ ∃ new st,
      (getMoreSQSFiles env s).1 = { s with polls := s.polls + 1, inst := s.inst.polled new st } ∧
      (s.inst.s3.clientSet = true → st.clientSet = true) ∧ (new ≠ [] → st.clientSet = true) ∧
      (SlotsSized s.inst.config.S3DownloadConcurrency s.inst.s3 →
        SlotsSized s.inst.config.S3DownloadConcurrency st)) := by
  have hskip : ∀ a : ApiErr, Err.api a ≠ .timeout ∧ Err.api a ≠ .eof := fun _ => ⟨nofun, nofun⟩
  simp only [getMoreSQSFiles, GoM.get_bind, GoM.modify_bind]
  rcases env.receive s.polls with e | _ | ⟨msg, _⟩
  · exact .inl ⟨_, rfl, hskip e⟩
  · exact .inr (.inr ⟨rfl, [], s.inst.s3, by rw [polled_nil_self]; rfl, id, nofun, id⟩)
  simp only [ofExcept_ok, GoM.lift_ok_bind]
  obtain hdel | ⟨a, hdel⟩ : (if s.inst.config.SQSDelete = true then ofExcept (env.delete s.polls)
      else .ok ()) = .ok () ∨ ∃ a, (if s.inst.config.SQSDelete = true then
        ofExcept (env.delete s.polls) else .ok ()) = .error (.api a) := by
    split
    · rcases env.delete s.polls with a | _
      exacts [.inr ⟨a, rfl⟩, .inl rfl]
    · exact .inl rfl
  swap; · rw [hdel, GoM.lift_error_bind]; exact .inl ⟨_, rfl, hskip a⟩
  rw [hdel, GoM.lift_ok_bind]
  rcases env.unmarshalJson msg.body >>= asMap with a | kvs
  · exact .inl ⟨_, rfl, hskip a⟩
  simp only [ofExcept_ok, GoM.lift_ok_bind]
  rcases mapLookup kvs "Type" with _ | v
  · exact .inl ⟨.noTypeProperty, rfl, by decide, by decide⟩
  simp only
  rcases hv : assertString (some v) with t | e | p
  rotate_left
  · exact absurd hv (assertString_ne_error _ _)
  · exact .inr (.inl ⟨p, rfl⟩)
  simp only [GoM.lift_ok_bind]
  by_cases hn : t = "Notification"
  swap; · simp only [hn, ne_eq, not_false_eq_true, if_true, GoM.throw_apply]
          exact .inl ⟨.notNotification, rfl, by decide, by decide⟩
  simp only [hn, ne_eq, not_true_eq_false, if_false]
  rcases hm : assertString (mapLookup kvs "Message") with m | e | p
  rotate_left
  · exact absurd hm (assertString_ne_error _ _)
  · split <;> exact .inr (.inl ⟨p, rfl⟩)
  by_cases hu : s.inst.config.UseS3SNS = true
  · simp only [hu, if_true, GoM.lift_ok_bind]
    rcases env.unmarshalS3Event m with a | records
    · exact .inl ⟨_, rfl, hskip a⟩
    simp only [ofExcept_ok, GoM.lift_ok_bind, GoM.get_bind]
    rcases hf : s3EventFiles records false "" s.inst with p | e | p
    · obtain ⟨st, rfl, h1, h2, h3⟩ := s3EventFiles_ok hf nofun
      exact .inr (.inr ⟨rfl, _, st, rfl, h1,
        fun hne => h2 (by rintro rfl; simp at hne), h3⟩)
    · exact absurd hf s3EventFiles_ne_error
    · exact .inr (.inl ⟨p, rfl⟩)
  · simp only [hu, Bool.false_eq_true, if_false, GoM.lift_ok_bind]
    rcases env.unmarshalSns m with a | sns
    · exact .inl ⟨_, rfl, hskip a⟩
    simp only [ofExcept_ok, GoM.lift_ok_bind, GoM.modify_bind, GoM.get_bind, Session.withS3,
      Session.withInst]
    rcases hi : initS3 { s.inst with s3 := { s.inst.s3 with bucket := sns.Bucket } } with p | e | p
    · obtain ⟨hp, -, hc, hsz⟩ := initS3_sized hi
      refine .inr (.inr ⟨rfl, sns.Keys.map fileInfoOf, p.s3, ?_, fun _ => hc, fun _ => hc, hsz⟩)
      rw [GoM.lift_ok_bind, GoM.modify_apply, hp]
      simp [PluginInstance.polled]
    · exact absurd hi initS3_ne_error
    · exact .inr (.inl ⟨p, rfl⟩)

/-! ## Unchecked type assertions -/

/-- A received notification whose `Type` is not a string, or whose `Type` is
`"Notification"` and whose `Message` is missing or not a string, panics
`getMoreSQSFiles`, for either value of `UseS3SNS` and `SQSDelete`. -/
theorem getMoreSQSFiles_panics (env : Env) (s : Session) (msg : SqsMessage)
    (kvs : List (String × GoJson)) (hr : env.receive s.polls = .ok [msg])
    (hd : s.inst.config.SQSDelete = true → env.delete s.polls = .ok ())
    (hj : env.unmarshalJson msg.body = .ok (.object kvs))
    (hbad : (∃ v, mapLookup kvs "Type" = some v ∧ ∀ t, v ≠ .string t) ∨
      (mapLookup kvs "Type" = some (.string "Notification") ∧
        ∀ t, mapLookup kvs "Message" ≠ some (.string t))) :
    (getMoreSQSFiles env s).2 = .panic .typeAssertion := by
  have hdel : (if s.inst.config.SQSDelete then ofExcept (env.delete s.polls) else .ok ()) =
      .ok () := by
    split
    · rw [hd ‹_›]; rfl
    · rfl
  have hmap : (env.unmarshalJson msg.body >>= asMap) = .ok kvs := by rw [hj]; rfl
  simp only [getMoreSQSFiles, GoM.get_bind, GoM.modify_bind, hr, ofExcept_ok, GoM.lift_ok_bind,
    hdel, hmap]
  rcases hbad with ⟨v, hv, hvs⟩ | ⟨ht, hm⟩
  · have : assertString (some v) = .panic .typeAssertion := by
      rcases v with _ | _ | _ | t | _ | _ <;> first | rfl | exact absurd rfl (hvs t)
    simp only [hv, this, ne_eq, ite_not, GoM.lift_panic_bind]
  · simp only [ht, hm, assertString, GoM.lift_ok_bind, ne_eq, not_true_eq_false, if_false]
    split <;> rfl

/-- A queue whose first message has body `body`, read by the decoder as `json`, and whose SNS
notifications announce `sns`; the downloads fail and every write succeeds. -/
def queueEnv (body : String) (json : GoJson) (sns : SnsMessage) : Env where
  listPages _ := []
  download _ _ _ _ := .error ⟨"NoSuchKey"⟩
  parseInterval _ := .ok (.zero, .zero)
  getQueueUrl _ _ := .ok "queue"
  receive n := .ok (if n = 0 then [⟨"h", body⟩] else [])
  delete _ := .ok ()
  unmarshalJson t := if t = body then .ok json else .error ⟨"SyntaxError"⟩
  unmarshalS3Event _ := .error ⟨"SyntaxError"⟩
  unmarshalSns _ := .ok sns
  readFile _ := .error ⟨"ENOENT"⟩
  dirExists _ := false
  walk _ := []
  gunzip _ := none
  parseRecord _ := none
  rfc3339 _ := none
  write d := (d.length, none)

/-- A queue-mode configuration with `S3DownloadConcurrency` `d`. -/
def sqsConfig (d : Int) (useS3SNS : Bool) : PluginConfig := ⟨d, "", "", false, useS3SNS, ""⟩

/-- The body `{"Type":"Notification"}`, with no `Message`. -/
theorem getMoreSQSFiles_panics_without_message :
    (queueEnv "\x7b\"Type\":\"Notification\"\x7d" (.object [("Type", .string "Notification")])
      ⟨"", []⟩).receive 0 = .ok [⟨"h", "\x7b\"Type\":\"Notification\"\x7d"⟩] ∧
    (queueEnv "\x7b\"Type\":\"Notification\"\x7d" (.object [("Type", .string "Notification")])
      ⟨"", []⟩).unmarshalJson "\x7b\"Type\":\"Notification\"\x7d" =
        .ok (.object [("Type", .string "Notification")]) ∧
    mapLookup [("Type", .string "Notification")] "Type" = some (.string "Notification") ∧
    (∀ t, mapLookup [("Type", .string "Notification")] "Message" ≠ some (.string t)) ∧
    (getMoreSQSFiles (queueEnv "\x7b\"Type\":\"Notification\"\x7d"
      (.object [("Type", .string "Notification")]) ⟨"", []⟩)
        ⟨.fresh .sqsMode (sqsConfig 1 false), 0, 0⟩).2 = .panic .typeAssertion := by
  have hm : ∀ t, mapLookup [("Type", .string "Notification")] "Message" ≠ some (.string t) := by
    simp [mapLookup]
  exact ⟨rfl, by simp [queueEnv], rfl, hm, getMoreSQSFiles_panics _ _ _ [("Type", .string "Notification")] rfl (fun _ => rfl)
    (by simp [queueEnv]) (.inr ⟨rfl, hm⟩)⟩

/-- A queue whose first message is an S3 event of two records, `k1.json` created in bucket `b1`
and then `k2.json` in bucket `b2`; each bucket holds only its own key. -/
def twoBucketEnv : Env where
  listPages _ := []
  download _ _ bk key :=
    if (bk, key) = ("b1", "k1.json") ∨ (bk, key) = ("b2", "k2.json") then .ok (ascii key)
    else .error ⟨"NoSuchKey"⟩
  parseInterval _ := .ok (.zero, .zero)
  getQueueUrl _ _ := .ok "queue"
  receive n := .ok (if n = 0 then [⟨"h", "event"⟩] else [])
  delete _ := .ok ()
  unmarshalJson _ := .ok (.object [("Type", .string "Notification"), ("Message", .string "m")])
  unmarshalS3Event _ := .ok [⟨"b1", "k1.json"⟩, ⟨"b2", "k2.json"⟩]
  unmarshalSns _ := .error ⟨"SyntaxError"⟩
  readFile _ := .error ⟨"ENOENT"⟩
  dirExists _ := false
  walk _ := []
  gunzip _ := none
  parseRecord _ := none
  rfc3339 _ := none
  write d := (d.length, none)

/-- The two keys of the event are listed without their buckets, and the session keeps `b2`: the
first refill asks `b2` for `k1.json`, which lives in `b1`, and fails. -/
theorem readNextFileS3_last_event_bucket :
    (openSQS twoBucketEnv "sqs://q" ⟨.fresh .fileMode (sqsConfig 2 true), 0, 0⟩).2 = .ok () ∧
    (openSQS twoBucketEnv "sqs://q" ⟨.fresh .fileMode (sqsConfig 2 true), 0, 0⟩).1.inst.files =
      [fileInfoOf "k1.json", fileInfoOf "k2.json"] ∧
    (openSQS twoBucketEnv "sqs://q" ⟨.fresh .fileMode (sqsConfig 2 true), 0, 0⟩).1.inst.s3.bucket =
      "b2" ∧
    twoBucketEnv.download 0 0 "b1" "k1.json" = .ok (ascii "k1.json") ∧
    (readNextFileS3 twoBucketEnv
      (openSQS twoBucketEnv "sqs://q" ⟨.fresh .fileMode (sqsConfig 2 true), 0, 0⟩).1).2 =
        .error (.api ⟨"NoSuchKey"⟩) :=
  ⟨by decide, by decide, by decide, rfl, by decide⟩

end CloudTrail
