import CloudTrail.Downloads

/-! What `openLocal`, `openS3` and `openSQS` leave behind: a session that has opened no file. -/
namespace CloudTrail

/-! ## `openLocal` -/

/-- The callback `openLocal` hands to `filepath.Walk`, for one visited path and, when `Lstat`
succeeded, whether it is a directory. -/
def walkFile (files : List FileInfo) : String × Option Bool → List FileInfo
  | (_, some true) => files
  | (path, _) =>
    let isCompressed := hasSuffix path ".json.gz"
    if ext path != ".json" && !isCompressed then files
    else files ++ [⟨path, isCompressed⟩]

/-- `openLocal(params)`. The callback never returns an error, so neither does the walk; the
directory name goes to a field no other function reads. -/
def openLocal (env : Env) (params : String) : GoM Session Unit := do
  GoM.modify (·.withInst fun p => { p with openMode := .fileMode })
  if params.length = 0 then GoM.throw .missingInputDir
  else if !env.dirExists params then GoM.throw (.cannotOpen params)
  else
    GoM.modify (·.withInst fun p => { p with files := (env.walk params).foldl walkFile p.files })
    let s ← GoM.get
    if s.inst.files.length = 0 then GoM.throw (.noJsonFiles params) else pure ()

/-- The visited paths `openLocal` keeps: those not known to be directories, with a `.json`
extension or a `.json.gz` ending. -/
def walkKeeps : String × Option Bool → Bool
  | (_, some true) => false
  | (path, _) => isJsonKey path

/-- The files `openLocal` lists under a directory: one for each kept path, in walk order. -/
def localFiles (env : Env) (dir : String) : List FileInfo :=
  ((env.walk dir).filter walkKeeps).map (fun e => fileInfoOf e.1)

theorem walkFile_eq (files : List FileInfo) (e : String × Option Bool) :
    walkFile files e = if walkKeeps e then files ++ [fileInfoOf e.1] else files := by
  rcases e with ⟨path, _ | _ | _⟩ <;>
    by_cases hj : ext path = ".json" <;> cases hg : hasSuffix path ".json.gz" <;>
    simp [walkFile, walkKeeps, isJsonKey, fileInfoOf, hj, hg]

theorem foldl_walkFile (entries : List (String × Option Bool)) (files : List FileInfo) :
    entries.foldl walkFile files =
      files ++ (entries.filter walkKeeps).map (fun e => fileInfoOf e.1) := by
  induction entries generalizing files with
  | nil => simp
  | cons e entries ih =>
    rw [List.foldl_cons, ih, walkFile_eq, List.filter_cons]
    split <;> simp

example : localFiles { oneRecordEnv with walk := fun _ => [("logs", some true),
    ("logs/a.json", some false), ("logs/b.json.gz", none), ("logs/c.txt", some false),
    ("logs/d.json", some true)] } "logs" = [⟨"logs/a.json", false⟩, ⟨"logs/b.json.gz", true⟩] := by
  decide

theorem openLocal_eq (env : Env) (mode : OpenMode) (config : PluginConfig) (params : String)
    (n b : Nat) :
    openLocal env params ⟨.fresh mode config, n, b⟩ =
      if params.length = 0 then (⟨.fresh .fileMode config, n, b⟩, .error .missingInputDir)
      else if env.dirExists params = false then
        (⟨.fresh .fileMode config, n, b⟩, .error (.cannotOpen params))
      else (⟨{ PluginInstance.fresh .fileMode config with files := localFiles env params }, n, b⟩,
        if localFiles env params = [] then .error (.noJsonFiles params) else .ok ()) := by
  unfold openLocal
  by_cases hp : params.length = 0
  · simp only [GoM.modify_bind, hp, if_true, GoM.throw_apply]; rfl
  cases hd : env.dirExists params
  · simp only [GoM.modify_bind, hp, hd, if_false, if_true, Bool.not_false, GoM.throw_apply]; rfl
  simp only [GoM.modify_bind, GoM.get_bind, hp, hd, if_false, Bool.not_true, Bool.false_eq_true,
    Bool.true_eq_false, foldl_walkFile, Session.withInst, PluginInstance.fresh, List.nil_append,
    List.length_eq_zero, localFiles]
  split <;> rfl

/-- A successful `openLocal` from the framework's fresh instance lists exactly the kept paths
of the walk, in walk order, and leaves a fresh file-mode session; a directory that yields no
such path is an error naming it. -/
theorem openLocal_fresh (env : Env) (mode : OpenMode) (config : PluginConfig) (params : String)
    (n b : Nat) :
    let s := openLocal env params ⟨.fresh mode config, n, b⟩
    (s.2 = .ok () ↔
        params.length ≠ 0 ∧ env.dirExists params = true ∧ localFiles env params ≠ []) ∧
      (s.2 = .ok () →
        s.1.inst.files = localFiles env params ∧ s.1.inst.openMode = .fileMode ∧ Fresh s.1) ∧
      (params.length ≠ 0 → env.dirExists params = true → localFiles env params = [] →
        s.2 = .error (.noJsonFiles params)) := by
  intro s
  simp only [s, openLocal_eq]
  by_cases hp : params.length = 0
  · simp [hp]
  by_cases hd : env.dirExists params = true
  · by_cases hl : localFiles env params = []
    · simp [hp, hd, hl]
    · simp only [hp, hd, hl, if_false, Bool.true_eq_false]
      exact ⟨by simp [hp, hl], fun _ => ⟨trivial, rfl, rfl, rfl, rfl, fun h => (h rfl).elim⟩,
        fun _ _ h => h.elim⟩
  · simp [hp, hd]

/-! ## `openS3` and `openSQS` -/

theorem openS3_session {env : Env} {mode : OpenMode} {config : PluginConfig} {input : String}
    {p : PluginInstance} (h : OpenS3 env (.fresh mode config) input (.ok p)) (n b : Nat) :
    p.openMode = .s3Mode ∧ 1 ≤ config.S3DownloadConcurrency ∧ p.s3.clientSet = true ∧
      p.s3.DownloadBufs.length = config.S3DownloadConcurrency.toNat ∧ Fresh ⟨p, n, b⟩ := by
  generalize hr : (GoResult.ok p : GoResult PluginInstance) = r at h
  cases h with
  | planError => cases hr
  | planPanic => cases hr
  | @listed plan _ r hplan _ _ =>
    rcases r with files | _ | _ <;> cases hr
    rcases hs : splitBucket (input.drop 5) with ⟨bucket, pfx⟩
    obtain ⟨hD, -, hcfg, -, hinit, -⟩ := openS3Plan_ok hs hplan
    obtain ⟨hq, -, hcl, hsz⟩ := initS3_sized hinit
    have hlen := hsz (fun h => nomatch h) hcl
    rw [hq] at hcl hlen ⊢
    exact ⟨rfl, hD, hcl, hlen, rfl, rfl, rfl, fun _ => ⟨hD, fun _ => hlen, fun _ => hcl, rfl, rfl, rfl⟩⟩

/-- An `openS3` that succeeds from the framework's fresh instance leaves a fresh S3 session with
at least one download slot, the S3 client set and the slot slice sized to the concurrency. -/
theorem openS3_fresh {env : Env} {mode : OpenMode} {config : PluginConfig} {input : String}
    {p : PluginInstance} (h : OpenS3 env (.fresh mode config) input (.ok p)) (n b : Nat) :
    p.openMode = .s3Mode ∧ 1 ≤ config.S3DownloadConcurrency ∧ p.s3.clientSet = true ∧
      p.s3.DownloadBufs.length = config.S3DownloadConcurrency.toNat ∧ Fresh ⟨p, n, b⟩ :=
  openS3_session h n b

theorem openS3_bucket {env : Env} {oCtx : PluginInstance} {input : String} {p : PluginInstance}
    (h : OpenS3 env oCtx input (.ok p)) : p.s3.bucket = (splitBucket (input.drop 5)).1 := by
  generalize hr : (GoResult.ok p : GoResult PluginInstance) = r at h
  cases h with
  | planError => cases hr
  | planPanic => cases hr
  | @listed plan _ r hplan _ _ =>
    rcases r with files | _ | _ <;> cases hr
    rcases hs : splitBucket (input.drop 5) with ⟨bucket, pfx⟩
    exact (openS3Plan_ok hs hplan).2.2.2.1

theorem openS3_fresh_foo :
    OpenS3 (listingEnv fooPages from2021) (.fresh .s3Mode (s3Config 1 "")) "s3://b/foo"
      (.ok { PluginInstance.fresh .s3Mode (s3Config 1 "") with
        files := [fileInfoOf "foo/1_CloudTrail_us-east-1_20200101T0000Z_x.json"],
        s3 := ⟨"b", true, [[]], 0, 0, 0⟩ }) ∧
    (PluginInstance.fresh .s3Mode (s3Config 1 "")).openMode = .s3Mode ∧
    1 ≤ (s3Config 1 "").S3DownloadConcurrency ∧ (⟨"b", true, [[]], 0, 0, 0⟩ : S3State).clientSet = true ∧
    ([[]] : List Bytes).length = (s3Config 1 "").S3DownloadConcurrency.toNat ∧
    Fresh ⟨{ PluginInstance.fresh .s3Mode (s3Config 1 "") with
      files := [fileInfoOf "foo/1_CloudTrail_us-east-1_20200101T0000Z_x.json"],
      s3 := ⟨"b", true, [[]], 0, 0, 0⟩ }, 0, 0⟩ :=
  ⟨openS3_fooPages, openS3_fresh openS3_fooPages 0 0⟩

/-- Whatever the pages and however the listing goroutines interleave, an `openS3` that succeeds
from the framework's fresh instance lists only keys with a `.json` extension or a `.json.gz`
ending, each marked compressed exactly when it has the `.json.gz` ending. -/
theorem openS3_lists_json_keys {env : Env} {mode : OpenMode} {config : PluginConfig}
    {input : String} {p : PluginInstance} (h : OpenS3 env (.fresh mode config) input (.ok p)) :
    ∀ f ∈ p.files, isJsonKey f.name = true ∧ f.isCompressed = hasSuffix f.name ".json.gz" := by
  generalize hr : (GoResult.ok p : GoResult PluginInstance) = r at h
  cases h with
  | planError => cases hr
  | planPanic => cases hr
  | @listed plan _ r hplan _ hl =>
    rcases r with files | _ | _ <;> cases hr
    rcases hs : splitBucket (input.drop 5) with ⟨bucket, pfx⟩
    obtain ⟨-, hfiles, -⟩ := openS3Plan_ok hs hplan
    intro f hf
    rcases hl.files_mem files rfl f hf with hf | ⟨key, hk, rfl⟩
    · rw [hfiles] at hf; exact absurd hf (List.not_mem_nil f)
    · exact ⟨((Bool.and_eq_true _ _).mp hk).2, rfl⟩

theorem openS3_lists_json_keys_foo :
    OpenS3 (listingEnv fooPages from2021) (.fresh .s3Mode (s3Config 1 "")) "s3://b/foo"
      (.ok { PluginInstance.fresh .s3Mode (s3Config 1 "") with
        files := [fileInfoOf "foo/1_CloudTrail_us-east-1_20200101T0000Z_x.json"],
        s3 := ⟨"b", true, [[]], 0, 0, 0⟩ }) ∧
    ∀ f ∈ [fileInfoOf "foo/1_CloudTrail_us-east-1_20200101T0000Z_x.json"],
      isJsonKey f.name = true ∧ f.isCompressed = hasSuffix f.name ".json.gz" :=
  ⟨openS3_fooPages, openS3_lists_json_keys openS3_fooPages⟩

/-- The body of an SNS notification of one key. -/
def notifyBody : String := "\x7b\"Type\":\"Notification\",\"Message\":\"m\"\x7d"

/-- A queue whose first message announces the key `k.json` of bucket `b`. -/
def notifyEnv : Env :=
  queueEnv notifyBody (.object [("Type", .string "Notification"), ("Message", .string "m")])
    ⟨"b", ["k.json"]⟩

/-- An `openSQS` that succeeds from the framework's fresh instance, with at least one download
slot configured, leaves a fresh SQS session. -/
theorem openSQS_fresh {env : Env} {mode : OpenMode} {config : PluginConfig} {input : String}
    {n b : Nat} {s' : Session} (hD : 1 ≤ config.S3DownloadConcurrency)
    (h : openSQS env input ⟨.fresh mode config, n, b⟩ = (s', .ok ())) :
    s'.inst.openMode = .sqsMode ∧ Fresh s' := by
  simp only [openSQS, GoM.modify_bind] at h
  by_cases hlen : input.length < 6
  · simp only [hlen, if_true, GoM.lift_panic_bind] at h
    cases h
  simp only [hlen, if_false, GoM.lift_ok_bind, GoM.get_bind] at h
  generalize env.getQueueUrl _ _ = r at h
  rcases r with e | url <;> simp only [ofExcept, GoM.lift_error_bind, GoM.lift_ok_bind,
    GoM.modify_bind] at h
  · cases h
  change getMoreSQSFiles env ⟨{ PluginInstance.fresh .sqsMode config with queueURL := url }, n, b⟩
    = (s', .ok ()) at h
  rcases getMoreSQSFiles_cases env ⟨{ PluginInstance.fresh .sqsMode config with queueURL := url }, n, b⟩
    with ⟨e, he, -⟩ | ⟨p, hp⟩ | ⟨-, new, st, hs, -, hnew, hsz⟩
  · rw [h] at he; cases he
  · rw [h] at hp; cases hp
  rw [h] at hs
  subst hs
  refine ⟨rfl, rfl, rfl, rfl, fun _ => ⟨hD, hsz nofun, fun hf => hnew ?_, rfl, rfl, rfl⟩⟩
  simpa [PluginInstance.polled, PluginInstance.fresh] using hf

/-- With one slot, the open of the queue announcing `k.json` leaves a fresh session. -/
theorem openSQS_fresh_notify :
    1 ≤ (sqsConfig 1 false).S3DownloadConcurrency ∧
    openSQS notifyEnv "sqs://q" ⟨.fresh .fileMode (sqsConfig 1 false), 0, 0⟩ =
      (⟨{ PluginInstance.fresh .sqsMode (sqsConfig 1 false) with
        files := [fileInfoOf "k.json"], s3 := ⟨"b", true, [[]], 0, 0, 0⟩, queueURL := "queue" },
        1, 0⟩, .ok ()) ∧
    Fresh ⟨{ PluginInstance.fresh .sqsMode (sqsConfig 1 false) with
      files := [fileInfoOf "k.json"], s3 := ⟨"b", true, [[]], 0, 0, 0⟩, queueURL := "queue" }, 1, 0⟩ :=
  have h : openSQS notifyEnv "sqs://q" ⟨.fresh .fileMode (sqsConfig 1 false), 0, 0⟩ =
      (⟨{ PluginInstance.fresh .sqsMode (sqsConfig 1 false) with
        files := [fileInfoOf "k.json"], s3 := ⟨"b", true, [[]], 0, 0, 0⟩, queueURL := "queue" },
        1, 0⟩, .ok ()) := by decide
  ⟨by decide, h, (openSQS_fresh (by decide) h).2⟩

/-- A queue session opened with no download slot opens, and its first call panics reading
`DownloadBufs[0]`; opened with `-1` slots, its first poll panics in `make`. -/
theorem openSQS_without_slots :
    (openSQS notifyEnv "sqs://q" ⟨.fresh .fileMode (sqsConfig 0 false), 0, 0⟩).2 = .ok () ∧
    (nextEvent notifyEnv
      (openSQS notifyEnv "sqs://q" ⟨.fresh .fileMode (sqsConfig 0 false), 0, 0⟩).1).2 =
        .panic .index ∧
    (openSQS notifyEnv "sqs://q" ⟨.fresh .fileMode (sqsConfig (-1) false), 0, 0⟩).2 =
      .panic .makeSlice := by
  decide

end CloudTrail
