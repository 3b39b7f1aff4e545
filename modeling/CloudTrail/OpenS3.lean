import CloudTrail.Chunk
import CloudTrail.Env
import CloudTrail.Regex
import CloudTrail.Wave

/-! `openS3` from the locator to the listing, which has one result per interleaving of each chunk's
goroutines. -/

namespace CloudTrail

/-! ## Text helpers of the standard library -/

/-- The split of `bucket/prefix` at `strings.Index(input, "/")`. -/
def splitBucket (input : String) : String × String :=
  (String.mk (input.toList.takeWhile (· ≠ '/')),
    String.mk ((input.toList.dropWhile (· ≠ '/')).drop 1))

/-- `filepath.Ext` on Linux, scanning the reversed path; `acc` is the text after the scan. -/
def extGo (acc : List Char) : List Char → List Char
  | [] => []
  | c :: cs => if c = '/' then [] else if c = '.' then c :: acc else extGo (c :: acc) cs

/-- `filepath.Ext` -/
def ext (path : String) : String := String.mk (extGo [] path.toList.reverse)

/-- `unicode.IsSpace`: the Latin-1 spaces and the other `White_Space` runes. -/
def isSpace (c : Char) : Bool :=
  c = ' ' || c = '\t' || c = '\n' || c = '\x0b' || c = '\x0c' || c = '\r' || c = '\x85' ||
    c = '\xa0' || c = '\u1680' || ('\u2000' ≤ c && c ≤ '\u200a') || c = '\u2028' ||
    c = '\u2029' || c = '\u202f' || c = '\u205f' || c = '\u3000'

/-- `strings.TrimSpace` -/
def trimSpace (s : String) : String :=
  String.mk ((s.toList.dropWhile isSpace).reverse.dropWhile isSpace).reverse

/-- `strings.Split(s, ",")` -/
def splitComma (s : String) : List String := (s.toList.splitOn ',').map String.mk

/-- A decimal field zero-padded to width `w`, as `Format` writes it. -/
def pad (w n : Nat) : String :=
  let d := Nat.toDigits 10 n
  String.mk (List.replicate (w - d.length) '0' ++ d)

/-- `t.Format("20060102T1504")` -/
def GoTime.formatTS (t : GoTime) : String :=
  pad 4 t.year ++ pad 2 t.month ++ pad 2 t.day ++ "T" ++ pad 2 t.hour ++ pad 2 t.minute

/-- `t.Format("2006/01/02/")` -/
def GoTime.formatDay (t : GoTime) : String :=
  pad 4 t.year ++ "/" ++ pad 2 t.month ++ "/" ++ pad 2 t.day ++ "/"

/-! ## `listKeys` -/

/-- The window filter of `listKeys` (lines 202–214): with a `startTS`, a key whose embedded
timestamp is before it, or after a given `endTS`, is skipped. -/
def inWindow (startTS endTS key : String) : Bool :=
  startTS = "" ||
    match filepathRE.FindStringSubmatch1 key with
    | none => true
    | some pathTS => !goLess pathTS startTS && (endTS = "" || !goLess endTS pathTS)

/-- The extension filter of `listKeys` (lines 216–219). -/
def isJsonKey (key : String) : Bool := ext key = ".json" || hasSuffix key ".json.gz"

/-- The keys `listKeys` appends. -/
def keyAccepted (startTS endTS key : String) : Bool := inWindow startTS endTS key && isJsonKey key

/-- The accesses of a `listKeys` goroutine to shared state, over the pages its paginator
returns: a load and a store per accepted key; a failing page sends its error and ends the
goroutine (lines 193–224). -/
def listKeysOps (startTS endTS : String) : List (Except ApiErr ListPage) → List Op
  | [] => []
  | .error e :: _ => [.send e]
  | .ok page :: pages =>
    (page.contents.filter (keyAccepted startTS endTS)).flatMap
      (fun key => [.load, .store (fileInfoOf key)]) ++ listKeysOps startTS endTS pages

/-- The goroutine `listKeys(params, startTS, endTS)`. -/
def listKeys (env : Env) (bucket startTS endTS : String) (params : ListOrigin) : List Op :=
  listKeysOps startTS endTS (env.listPages ⟨bucket, params.pfx, params.startAfter, none⟩)

/-! ## The steps of `openS3` -/

/-- `intervalPrefix` with a trailing `/` (lines 286–288 and 292–294). -/
def withSlash (p : String) : String := if hasSuffix p "/" then p else p ++ "/"

/-- The account discovery (lines 308–337): one root per common prefix of the delimited
listing that `awsLogsRE` accepts; a failing page ends `openS3`. -/
def discoverAccounts : List (Except ApiErr ListPage) → GoResult (List String)
  | [] => .ok []
  | .error e :: _ => .error (.listAccounts e)
  | .ok page :: pages => do
    let rest ← discoverAccounts pages
    pure ((page.commonPrefixes.filter awsLogsRE.MatchString).map (· ++ "CloudTrail/") ++ rest)

/-- `intervalPrefixList`, the listing roots derived from the prefix (lines 279–341). -/
def listingRoots (env : Env) (bucket pfx accountList : String) : GoResult (List String) :=
  if awsLogsRE.MatchString pfx then .ok [withSlash pfx ++ "CloudTrail/"]
  else if awsLogsOrgRE.MatchString pfx then
    if accountList ≠ "" then
      if (splitComma accountList).length ≤ 0 then .error .invalidAccountList
      else .ok ((splitComma accountList).map fun a => withSlash pfx ++ trimSpace a ++ "/CloudTrail/")
    else discoverAccounts (env.listPages ⟨bucket, withSlash pfx, none, some "/"⟩)
  else .ok [pfx]

/-- `inputParams` after the region discovery (lines 343–365): one cursor per region prefix of
each root that ends in `/CloudTrail/`. A failing region listing is skipped. -/
def regionParams (env : Env) (bucket : String) (startTime : GoTime) (roots : List String) :
    List ListOrigin :=
  roots.flatMap fun root =>
    if hasSuffix root "/CloudTrail/" then
      match env.listObjectsV2 ⟨bucket, root, none, some "/"⟩ with
      | .ok out => out.commonPrefixes.map fun p =>
          ⟨p, if startTime.IsZero then none else some (p ++ startTime.formatDay)⟩
      | .error _ => []
    else []

/-- `startTS` and `endTS` once a region prefix is found (lines 370–380). -/
def windowTS (startTime endTime : GoTime) : GoResult (String × String) :=
  if startTime.IsZero then .ok ("", "")
  else if endTime.IsZero then .ok (startTime.formatTS, "")
  else if goLess endTime.formatTS startTime.formatTS then .error .startAfterEnd
  else .ok (startTime.formatTS, endTime.formatTS)

/-- What `openS3` has computed when it starts listing. -/
structure S3Plan where
  inst : PluginInstance
  params : List ListOrigin
  startTS : String
  endTS : String
  deriving DecidableEq

/-- `openS3` up to the listing loop (lines 228–385). -/
def openS3Plan (env : Env) (oCtx : PluginInstance) (input : String) : GoResult S3Plan :=
  let D := oCtx.config.S3DownloadConcurrency
  if D < 1 then .error (.invalidConcurrency D)
  else if input.length < 5 then .panic .sliceBounds
  else
    let (bucket, pfx) := splitBucket (input.drop 5)
    do
    let inst ← initS3 { oCtx with openMode := .s3Mode, s3 := { oCtx.s3 with bucket := bucket } }
    let (startTime, endTime) ← match env.parseInterval inst.config.S3Interval with
      | .ok t => GoResult.ok t
      | .error e => .error (.invalidInterval e)
    if !accountListRE.MatchString inst.config.S3AccountList then .error .invalidAccountList
    else
    let roots ← listingRoots env bucket pfx inst.config.S3AccountList
    let params := regionParams env bucket startTime roots
    if params ≠ [] then
      let (startTS, endTS) ← windowTS startTime endTime
      pure ⟨inst, params, startTS, endTS⟩
    else pure ⟨inst, [⟨pfx, none⟩], "", ""⟩

/-- The listing loop of `openS3` (lines 387–415) over the chunks still to list: each chunk's
wave runs, in any interleaving, until `Wait` returns; then a non-empty channel ends `openS3`
with the error it receives first. -/
inductive ListChunks (env : Env) (bucket startTS endTS : String) (D : Nat) :
    List (List ListOrigin) → List FileInfo → GoResult (List FileInfo) → Prop
  | nil {files : List FileInfo} : ListChunks env bucket startTS endTS D [] files (.ok files)
  | next {chunk : List ListOrigin} {chunks : List (List ListOrigin)} {files : List FileInfo}
      {w : Wave} {r : GoResult (List FileInfo)}
      (hrun : Relation.ReflTransGen Step
        (Wave.start files [] D (chunk.map (listKeys env bucket startTS endTS))) w)
      (hj : w.Joined) (hc : w.chan = [])
      (hrest : ListChunks env bucket startTS endTS D chunks w.files r) :
      ListChunks env bucket startTS endTS D (chunk :: chunks) files r
  | fail {chunk : List ListOrigin} {chunks : List (List ListOrigin)} {files : List FileInfo}
      {w : Wave} {e : ApiErr} {es : List ApiErr}
      (hrun : Relation.ReflTransGen Step
        (Wave.start files [] D (chunk.map (listKeys env bucket startTS endTS))) w)
      (hj : w.Joined) (hc : w.chan = e :: es) :
      ListChunks env bucket startTS endTS D (chunk :: chunks) files (.error (.listObjects e))

/-- `openS3(input)`: its results over all interleavings of the listing goroutines. -/
inductive OpenS3 (env : Env) (oCtx : PluginInstance) (input : String) :
    GoResult PluginInstance → Prop
  | planError {e : Err} (h : openS3Plan env oCtx input = .error e) : OpenS3 env oCtx input (.error e)
  | planPanic {p : Panic} (h : openS3Plan env oCtx input = .panic p) :
      OpenS3 env oCtx input (.panic p)
  | listed {plan : S3Plan} {chunks : List (List ListOrigin)} {r : GoResult (List FileInfo)}
      (h : openS3Plan env oCtx input = .ok plan)
      (hc : chunkListOrigin plan.params plan.inst.config.S3DownloadConcurrency = .ok chunks)
      (hl : ListChunks env plan.inst.s3.bucket plan.startTS plan.endTS
        plan.inst.config.S3DownloadConcurrency.toNat chunks plan.inst.files r) :
      OpenS3 env oCtx input (r >>= fun files => .ok { plan.inst with files := files })

theorem OpenS3.of_listing {env env' : Env} {oCtx : PluginInstance} {input : String}
    {r : GoResult PluginInstance} (hl : env'.listPages = env.listPages)
    (hp : env'.parseInterval = env.parseInterval) (h : OpenS3 env oCtx input r) :
    OpenS3 env' oCtx input r := by
  have hplan : openS3Plan env' oCtx input = openS3Plan env oCtx input := by
    simp only [openS3Plan, listingRoots, regionParams, Env.listObjectsV2, hl, hp]
  have hkeys : listKeys env' = listKeys env := by
    funext bucket startTS endTS params
    simp only [listKeys, hl]
  have hchunks : ∀ {bucket startTS endTS : String} {D : Nat} {chunks files r},
      ListChunks env bucket startTS endTS D chunks files r →
        ListChunks env' bucket startTS endTS D chunks files r := by
    intro bucket startTS endTS D chunks files r h
    induction h with
    | nil => exact .nil
    | next hrun hj hc _ ih => exact .next (hkeys ▸ hrun) hj hc ih
    | fail hrun hj hc => exact .fail (hkeys ▸ hrun) hj hc
  cases h with
  | planError h => exact .planError (hplan ▸ h)
  | planPanic h => exact .planPanic (hplan ▸ h)
  | listed h hc hl' => exact .listed (hplan ▸ h) hc (hchunks hl')

/-! ## What `openS3` computes -/

theorem openS3Plan_ok {env : Env} {oCtx : PluginInstance} {input : String} {plan : S3Plan}
    {bucket pfx : String} (hs : splitBucket (input.drop 5) = (bucket, pfx))
    (h : openS3Plan env oCtx input = .ok plan) :
    1 ≤ oCtx.config.S3DownloadConcurrency ∧ plan.inst.files = oCtx.files ∧
      plan.inst.config = oCtx.config ∧ plan.inst.s3.bucket = bucket ∧
      initS3 { oCtx with openMode := .s3Mode, s3 := { oCtx.s3 with bucket := bucket } } =
        .ok plan.inst ∧
    ∃ startTime endTime roots, env.parseInterval oCtx.config.S3Interval = .ok (startTime, endTime) ∧
      listingRoots env bucket pfx oCtx.config.S3AccountList = .ok roots ∧
      ((regionParams env bucket startTime roots ≠ [] ∧ plan.params = regionParams env bucket startTime roots ∧
          windowTS startTime endTime = .ok (plan.startTS, plan.endTS)) ∨
       (regionParams env bucket startTime roots = [] ∧ plan.params = [⟨pfx, none⟩] ∧
          plan.startTS = "" ∧ plan.endTS = "")) := by
  unfold openS3Plan at h
  by_cases hD : oCtx.config.S3DownloadConcurrency < 1
  · rw [if_pos hD] at h; cases h
  by_cases hl : input.length < 5
  · rw [if_neg hD, if_pos hl] at h; cases h
  rw [if_neg hD, if_neg hl, hs] at h
  cases hi : initS3 { oCtx with openMode := .s3Mode, s3 := { oCtx.s3 with bucket := bucket } } with
  | error e => simp only [hi, GoResult.bind_error] at h; cases h
  | panic p => simp only [hi, GoResult.bind_panic] at h; cases h
  | ok inst =>
    have hinst : inst.files = oCtx.files ∧ inst.config = oCtx.config ∧ inst.s3.bucket = bucket := by
      rcases initS3_eq hi with rfl | ⟨-, -, rfl⟩ <;> simp
    simp only [hi, GoResult.bind_ok, hinst.2.1] at h
    cases hp : env.parseInterval oCtx.config.S3Interval with
    | error e => simp only [hp, GoResult.bind_error] at h; cases h
    | ok t =>
      obtain ⟨startTime, endTime⟩ := t
      simp only [hp, GoResult.bind_ok] at h
      split at h
      · cases h
      cases hr : listingRoots env bucket pfx oCtx.config.S3AccountList with
      | error e => simp only [hr, GoResult.bind_error] at h; cases h
      | panic p => simp only [hr, GoResult.bind_panic] at h; cases h
      | ok roots =>
        simp only [hr, GoResult.bind_ok] at h
        refine ⟨by omega, ?_⟩
        split at h
        · cases hw : windowTS startTime endTime with
          | error e => simp only [hw, GoResult.bind_error] at h; cases h
          | panic p => simp only [hw, GoResult.bind_panic] at h; cases h
          | ok ts =>
            simp only [hw, GoResult.bind_ok, GoResult.pure_eq, GoResult.ok.injEq] at h
            subst h
            exact ⟨hinst.1, hinst.2.1, hinst.2.2, rfl, startTime, endTime, roots, rfl, rfl,
              .inl ⟨‹_›, rfl, hw⟩⟩
        · simp only [GoResult.pure_eq, GoResult.ok.injEq] at h
          subst h
          exact ⟨hinst.1, hinst.2.1, hinst.2.2, rfl, startTime, endTime, roots, rfl, rfl,
            .inr ⟨not_not.mp ‹_›, rfl, rfl, rfl⟩⟩

theorem store_mem_listKeysOps {startTS endTS : String} {pages : List (Except ApiErr ListPage)}
    {fi : FileInfo} (h : Op.store fi ∈ listKeysOps startTS endTS pages) :
    ∃ key, keyAccepted startTS endTS key = true ∧ fi = fileInfoOf key := by
  induction pages with
  | nil => simp [listKeysOps] at h
  | cons p pages ih =>
    rcases p with e | page
    · simp [listKeysOps] at h
    · simp only [listKeysOps, List.mem_append, List.mem_flatMap, List.mem_filter] at h
      rcases h with ⟨key, ⟨-, hk⟩, hm⟩ | h
      · exact ⟨key, hk, by simpa using hm⟩
      · exact ih h

theorem ListChunks.files_mem {env : Env} {bucket startTS endTS : String} {D : Nat}
    {chunks : List (List ListOrigin)} {files : List FileInfo} {r : GoResult (List FileInfo)}
    (h : ListChunks env bucket startTS endTS D chunks files r) :
    ∀ files', r = .ok files' → ∀ f ∈ files',
      f ∈ files ∨ ∃ key, keyAccepted startTS endTS key = true ∧ f = fileInfoOf key := by
  induction h with
  | nil => rintro _ ⟨⟩ f hf; exact .inl hf
  | @next chunk chunks files w r hrun _ _ _ ih =>
    intro files' hr f hf
    have hw := (filesFrom_start (P := fun f => f ∈ files ∨
        ∃ key, keyAccepted startTS endTS key = true ∧ f = fileInfoOf key)
      (fun f hf => .inl hf) (fun p hp fi hfi => by
        obtain ⟨o, -, rfl⟩ := List.mem_map.mp hp
        exact .inr (store_mem_listKeysOps hfi))).reach hrun
    rcases ih files' hr f hf with hf | hf
    exacts [hw.1 f hf, .inr hf]
  | fail => rintro _ ⟨⟩

theorem GoTime.formatTS_ne_empty (t : GoTime) : t.formatTS ≠ "" := by
  intro h
  have := congrArg String.length h
  simp only [GoTime.formatTS, String.length_append] at this
  have : "T".length = 1 := rfl
  have : "".length = 0 := rfl
  omega

/-! ## The interval filter -/

theorem inWindow_of_capture {startTS endTS key ts : String} (hne : startTS ≠ "")
    (hk : inWindow startTS endTS key = true) (hts : filepathRE.FindStringSubmatch1 key = some ts) :
    startTS ≤ ts ∧ (endTS ≠ "" → ts ≤ endTS) := by
  have hk' : goLess ts startTS = false ∧ (endTS = "" ∨ goLess endTS ts = false) := by
    simpa [inWindow, hts, hne] using hk
  exact ⟨not_lt.mp (Bool.eq_false_iff.mp hk'.1 ∘ goLess_eq_true.mpr),
    fun he => not_lt.mp (Bool.eq_false_iff.mp (hk'.2.resolve_left he) ∘ goLess_eq_true.mpr)⟩

/-- When the region discovery finds a region prefix and the interval has a start, every key
`openS3` adds has its timestamp, if it has one, inside the interval. -/
theorem openS3_files_in_window {env : Env} {oCtx : PluginInstance} {input : String}
    {s : PluginInstance} (h : OpenS3 env oCtx input (.ok s)) {bucket pfx : String}
    (hs : splitBucket (input.drop 5) = (bucket, pfx)) {startTime endTime : GoTime}
    (hi : env.parseInterval oCtx.config.S3Interval = .ok (startTime, endTime))
    (hz : startTime.IsZero = false) {roots : List String}
    (hr : listingRoots env bucket pfx oCtx.config.S3AccountList = .ok roots)
    (hreg : regionParams env bucket startTime roots ≠ []) :
    ∀ f ∈ s.files, f ∈ oCtx.files ∨ ∀ ts, filepathRE.FindStringSubmatch1 f.name = some ts →
      startTime.formatTS ≤ ts ∧ (endTime.IsZero = false → ts ≤ endTime.formatTS) := by
  generalize hres : (GoResult.ok s : GoResult PluginInstance) = res at h
  cases h with
  | planError => cases hres
  | planPanic => cases hres
  | @listed plan chunks r hplan _ hl =>
    cases r with
    | error => cases hres
    | panic => cases hres
    | ok files' =>
      simp only [GoResult.bind_ok, GoResult.ok.injEq] at hres
      subst hres
      obtain ⟨-, hfiles, -, -, -, st, et, rs, hi', hr', hw⟩ := openS3Plan_ok hs hplan
      simp only [hi, Except.ok.injEq, Prod.mk.injEq] at hi'
      obtain ⟨rfl, rfl⟩ := hi'
      rw [hr, GoResult.ok.injEq] at hr'
      subst hr'
      rcases hw with ⟨-, -, hw⟩ | ⟨hnil, -⟩
      swap; · exact absurd hnil hreg
      have hwin : plan.startTS = startTime.formatTS ∧
          plan.endTS = if endTime.IsZero then "" else endTime.formatTS := by
        unfold windowTS at hw
        simp only [hz, Bool.false_eq_true, if_false] at hw
        split at hw
        · simp_all
        · split at hw
          · cases hw
          · simp_all
      intro f hf
      rcases ListChunks.files_mem hl files' rfl f hf with hf | ⟨key, hk, rfl⟩
      · exact .inl (hfiles ▸ hf)
      · refine .inr fun ts hts => ?_
        have := inWindow_of_capture (hwin.1 ▸ startTime.formatTS_ne_empty)
          (Bool.and_eq_true _ _ ▸ hk).1 hts
        rw [hwin.1, hwin.2] at this
        refine ⟨this.1, fun he => ?_⟩
        simpa [he] using this.2 (by simpa [he] using endTime.formatTS_ne_empty)

/-! ## Runs on sample buckets -/

/-- The zero `time.Time`. -/
def GoTime.zero : GoTime := ⟨1, 1, 1, 0, 0, 0, 0⟩

/-- An environment that answers listings and `ParseInterval`, and fails every other call. -/
def listingEnv (pages : ListInput → List (Except ApiErr ListPage)) (interval : GoTime × GoTime) :
    Env where
  listPages := pages
  download _ _ _ _ := .error ⟨"unused"⟩
  parseInterval _ := .ok interval
  getQueueUrl _ _ := .error ⟨"unused"⟩
  receive _ := .error ⟨"unused"⟩
  delete _ := .error ⟨"unused"⟩
  unmarshalJson _ := .error ⟨"unused"⟩
  unmarshalS3Event _ := .error ⟨"unused"⟩
  unmarshalSns _ := .error ⟨"unused"⟩
  readFile _ := .error ⟨"unused"⟩
  dirExists _ := false
  walk _ := []
  gunzip _ := none
  parseRecord _ := none
  rfc3339 _ := none
  write _ := (0, some ⟨"unused"⟩)

/-- A configuration with `S3DownloadConcurrency` `d` and `S3AccountList` `accounts`. -/
def s3Config (d : Int) (accounts : String) : PluginConfig := ⟨d, "", accounts, false, false, ""⟩

/-- One account root with a region prefix `r1/` holding one timestamped key before 2021 and
one after. -/
def regionPages (i : ListInput) : List (Except ApiErr ListPage) :=
  if i.pfx = "logs/AWSLogs/123456789012/CloudTrail/" then [.ok ⟨[], ["r1/"]⟩]
  else if i.pfx = "r1/" then
    [.ok ⟨["r1/1_CloudTrail_us-east-1_20200101T0000Z_x.json",
      "r1/1_CloudTrail_us-east-1_20210102T0000Z_y.json"], []⟩]
  else []

/-- `S3Interval` parsed to a start on 2021-01-01 and no end. -/
def from2021 : GoTime × GoTime := (⟨2021, 1, 1, 0, 0, 0, 0⟩, .zero)

theorem openS3_files_in_window_regions :
    OpenS3 (listingEnv regionPages from2021) (.fresh .s3Mode (s3Config 1 ""))
      "s3://b/logs/AWSLogs/123456789012"
      (.ok { PluginInstance.fresh .s3Mode (s3Config 1 "") with
        files := [fileInfoOf "r1/1_CloudTrail_us-east-1_20210102T0000Z_y.json"],
        s3 := ⟨"b", true, [[]], 0, 0, 0⟩ }) ∧
    splitBucket ("s3://b/logs/AWSLogs/123456789012".drop 5) =
      ("b", "logs/AWSLogs/123456789012") ∧
    (listingEnv regionPages from2021).parseInterval "" = .ok from2021 ∧
    from2021.1.IsZero = false ∧
    listingRoots (listingEnv regionPages from2021) "b" "logs/AWSLogs/123456789012" "" =
      .ok ["logs/AWSLogs/123456789012/CloudTrail/"] ∧
    regionParams (listingEnv regionPages from2021) "b" from2021.1
      ["logs/AWSLogs/123456789012/CloudTrail/"] ≠ [] ∧
    ∀ f ∈ [fileInfoOf "r1/1_CloudTrail_us-east-1_20210102T0000Z_y.json"], f ∈ [] ∨
      ∀ ts, filepathRE.FindStringSubmatch1 f.name = some ts →
        from2021.1.formatTS ≤ ts ∧ (from2021.2.IsZero = false → ts ≤ from2021.2.formatTS) := by
  have hrun : Relation.ReflTransGen Step
      (Wave.start [] [] 1 ([(⟨"r1/", some "r1/2021/01/01/"⟩ : ListOrigin)].map
        (listKeys (listingEnv regionPages from2021) "b" "20210101T0000" "")))
      ⟨[fileInfoOf "r1/1_CloudTrail_us-east-1_20210102T0000Z_y.json"], [], [], 1, 0,
        [⟨[], [], true⟩]⟩ := by
    rw [show [(⟨"r1/", some "r1/2021/01/01/"⟩ : ListOrigin)].map
        (listKeys (listingEnv regionPages from2021) "b" "20210101T0000" "") =
        [[.load, .store (fileInfoOf "r1/1_CloudTrail_us-east-1_20210102T0000Z_y.json")]] by rfl]
    exact .tail (.tail (.tail .refl (Step.load (i := 0) rfl)) (Step.store (i := 0) rfl))
      (Step.done (i := 0) rfl)
  have hplan : openS3Plan (listingEnv regionPages from2021) (.fresh .s3Mode (s3Config 1 ""))
      "s3://b/logs/AWSLogs/123456789012" = .ok ⟨{ PluginInstance.fresh .s3Mode (s3Config 1 "") with
        s3 := ⟨"b", true, [[]], 0, 0, 0⟩ }, [⟨"r1/", some "r1/2021/01/01/"⟩], "20210101T0000", ""⟩ :=
    rfl
  have hopen := OpenS3.listed hplan (by decide)
    (.next hrun (show Wave.Joined ⟨_, _, _, _, 0, _⟩ from rfl) rfl .nil)
  have hs : splitBucket ("s3://b/logs/AWSLogs/123456789012".drop 5) =
      ("b", "logs/AWSLogs/123456789012") := by decide
  have hr : listingRoots (listingEnv regionPages from2021) "b" "logs/AWSLogs/123456789012" "" =
      .ok ["logs/AWSLogs/123456789012/CloudTrail/"] := by decide
  have hreg : regionParams (listingEnv regionPages from2021) "b" from2021.1
      ["logs/AWSLogs/123456789012/CloudTrail/"] ≠ [] := by decide
  exact ⟨hopen, hs, rfl, rfl, hr, hreg, openS3_files_in_window hopen hs rfl rfl hr hreg⟩

/-- A bucket whose prefix `foo` holds one key stamped 2020-01-01. -/
def fooPages (i : ListInput) : List (Except ApiErr ListPage) :=
  if i.pfx = "foo" then [.ok ⟨["foo/1_CloudTrail_us-east-1_20200101T0000Z_x.json"], []⟩] else []

theorem openS3_fooPages :
    OpenS3 (listingEnv fooPages from2021)
      (.fresh .s3Mode (s3Config 1 "")) "s3://b/foo"
      (.ok { PluginInstance.fresh .s3Mode (s3Config 1 "") with
        files := [fileInfoOf "foo/1_CloudTrail_us-east-1_20200101T0000Z_x.json"],
        s3 := ⟨"b", true, [[]], 0, 0, 0⟩ }) := by
  have hrun : Relation.ReflTransGen Step
      (Wave.start [] [] 1 ([(⟨"foo", none⟩ : ListOrigin)].map (listKeys (listingEnv fooPages from2021) "b" "" "")))
      ⟨[fileInfoOf "foo/1_CloudTrail_us-east-1_20200101T0000Z_x.json"], [], [], 1, 0,
        [⟨[], [], true⟩]⟩ := by
    rw [show [(⟨"foo", none⟩ : ListOrigin)].map (listKeys (listingEnv fooPages from2021) "b" "" "") =
      [[.load, .store (fileInfoOf "foo/1_CloudTrail_us-east-1_20200101T0000Z_x.json")]] by decide]
    exact .tail (.tail (.tail .refl (Step.load (i := 0) rfl)) (Step.store (i := 0) rfl))
      (Step.done (i := 0) rfl)
  have hplan : openS3Plan (listingEnv fooPages from2021)
      (.fresh .s3Mode (s3Config 1 "")) "s3://b/foo" = .ok ⟨{ PluginInstance.fresh .s3Mode
        (s3Config 1 "") with s3 := ⟨"b", true, [[]], 0, 0, 0⟩ }, [⟨"foo", none⟩], "", ""⟩ := by
    decide
  exact .listed hplan (by decide) (.next hrun (show Wave.Joined ⟨_, _, _, _, 0, _⟩ from rfl) rfl .nil)

/-- Without a region prefix the prefix is listed verbatim and the interval is not applied: a key
stamped 2020 is listed although the interval starts in 2021. -/
theorem openS3_verbatim_ignores_interval :
    (listingEnv fooPages
      from2021).parseInterval "" = .ok from2021 ∧ from2021.1.IsZero = false ∧
    OpenS3 (listingEnv fooPages from2021)
      (.fresh .s3Mode (s3Config 1 "")) "s3://b/foo"
      (.ok { PluginInstance.fresh .s3Mode (s3Config 1 "") with
        files := [fileInfoOf "foo/1_CloudTrail_us-east-1_20200101T0000Z_x.json"],
        s3 := ⟨"b", true, [[]], 0, 0, 0⟩ }) ∧
    filepathRE.FindStringSubmatch1 "foo/1_CloudTrail_us-east-1_20200101T0000Z_x.json" =
      some "20200101T0000" ∧ "20200101T0000" < from2021.1.formatTS :=
  ⟨rfl, rfl, openS3_fooPages, by decide, goLess_eq_true.mp (by decide)⟩

/-- Two regions under one account root, one JSON key in each. -/
def twoRegionPages (i : ListInput) : List (Except ApiErr ListPage) :=
  if i.pfx = "logs/AWSLogs/123456789012/CloudTrail/" then [.ok ⟨[], ["r1/", "r2/"]⟩]
  else if i.pfx = "r1/" then [.ok ⟨["a.json"], []⟩]
  else if i.pfx = "r2/" then [.ok ⟨["b.json"], []⟩]
  else []

/-- The two listing goroutines of one chunk append to `oCtx.files` without a lock. Run one after
the other they leave both keys; when both read the list before either writes it, the second
write loses the first key. -/
theorem openS3_listing_race :
    (∃ s, OpenS3 (listingEnv twoRegionPages (.zero, .zero)) (.fresh .s3Mode (s3Config 2 ""))
      "s3://b/logs/AWSLogs/123456789012" (.ok s) ∧
      s.files = [fileInfoOf "a.json", fileInfoOf "b.json"]) ∧
    ∃ s, OpenS3 (listingEnv twoRegionPages (.zero, .zero)) (.fresh .s3Mode (s3Config 2 ""))
      "s3://b/logs/AWSLogs/123456789012" (.ok s) ∧ s.files = [fileInfoOf "b.json"] := by
  have hplan : openS3Plan (listingEnv twoRegionPages (.zero, .zero)) (.fresh .s3Mode (s3Config 2 ""))
      "s3://b/logs/AWSLogs/123456789012" = .ok ⟨{ PluginInstance.fresh .s3Mode (s3Config 2 "") with
        s3 := ⟨"b", true, [[], []], 0, 0, 0⟩ }, [⟨"r1/", none⟩, ⟨"r2/", none⟩], "", ""⟩ :=
    rfl
  have hch : chunkListOrigin [(⟨"r1/", none⟩ : ListOrigin), ⟨"r2/", none⟩] 2 =
      .ok [[⟨"r1/", none⟩, ⟨"r2/", none⟩]] := by decide
  have hprogs : [(⟨"r1/", none⟩ : ListOrigin), ⟨"r2/", none⟩].map
      (listKeys (listingEnv twoRegionPages (.zero, .zero)) "b" "" "") =
      [[.load, .store (fileInfoOf "a.json")], [.load, .store (fileInfoOf "b.json")]] := rfl
  have hseq : Relation.ReflTransGen Step
      (Wave.start [] [] 2 [[.load, .store (fileInfoOf "a.json")], [.load, .store (fileInfoOf "b.json")]])
      ⟨[fileInfoOf "a.json", fileInfoOf "b.json"], [], [], 2, 0,
        [⟨[], [], true⟩, ⟨[], [fileInfoOf "a.json"], true⟩]⟩ :=
    .tail (.tail (.tail (.tail (.tail (.tail .refl (Step.load (i := 0) rfl))
      (Step.store (i := 0) rfl)) (Step.done (i := 0) rfl)) (Step.load (i := 1) rfl))
      (Step.store (i := 1) rfl)) (Step.done (i := 1) rfl)
  have hrace : Relation.ReflTransGen Step
      (Wave.start [] [] 2 [[.load, .store (fileInfoOf "a.json")], [.load, .store (fileInfoOf "b.json")]])
      ⟨[fileInfoOf "b.json"], [], [], 2, 0, [⟨[], [], true⟩, ⟨[], [], true⟩]⟩ :=
    .tail (.tail (.tail (.tail (.tail (.tail .refl (Step.load (i := 0) rfl))
      (Step.load (i := 1) rfl)) (Step.store (i := 0) rfl)) (Step.store (i := 1) rfl))
      (Step.done (i := 0) rfl)) (Step.done (i := 1) rfl)
  rw [← hprogs] at hseq hrace
  exact ⟨⟨_, .listed hplan hch (.next hseq (show Wave.Joined ⟨_, _, _, _, 0, _⟩ from rfl) rfl .nil),
    rfl⟩, _, .listed hplan hch (.next hrace (show Wave.Joined ⟨_, _, _, _, 0, _⟩ from rfl) rfl .nil),
    rfl⟩

/-- An organization trail of two accounts; the region listing of the second fails. -/
def regionFailurePages (i : ListInput) : List (Except ApiErr ListPage) :=
  if i.pfx = "logs/AWSLogs/111111111111/CloudTrail/" then [.ok ⟨[], ["r1/"]⟩]
  else if i.pfx = "logs/AWSLogs/222222222222/CloudTrail/" then [.error ⟨"SlowDown"⟩]
  else if i.pfx = "r1/" then [.ok ⟨["a.json"], []⟩]
  else if i.pfx = "r2/" then [.ok ⟨["b.json"], []⟩]
  else []

/-- The region discovery drops a failing listing: `openS3` succeeds, and the second account's
keys are missing from the file list. -/
theorem openS3_region_error_dropped :
    (listingEnv regionFailurePages (.zero, .zero)).listObjectsV2
      ⟨"b", "logs/AWSLogs/222222222222/CloudTrail/", none, some "/"⟩ = .error ⟨"SlowDown"⟩ ∧
    ∃ s, OpenS3 (listingEnv regionFailurePages (.zero, .zero))
      (.fresh .s3Mode (s3Config 1 "111111111111,222222222222")) "s3://b/logs/AWSLogs" (.ok s) ∧
      s.files = [fileInfoOf "a.json"] := by
  have hplan : openS3Plan (listingEnv regionFailurePages (.zero, .zero))
      (.fresh .s3Mode (s3Config 1 "111111111111,222222222222")) "s3://b/logs/AWSLogs" =
      .ok ⟨{ PluginInstance.fresh .s3Mode (s3Config 1 "111111111111,222222222222") with
        s3 := ⟨"b", true, [[]], 0, 0, 0⟩ }, [⟨"r1/", none⟩], "", ""⟩ := by
    decide
  have hrun : Relation.ReflTransGen Step
      (Wave.start [] [] 1 ([(⟨"r1/", none⟩ : ListOrigin)].map
        (listKeys (listingEnv regionFailurePages (.zero, .zero)) "b" "" "")))
      ⟨[fileInfoOf "a.json"], [], [], 1, 0, [⟨[], [], true⟩]⟩ := by
    rw [show [(⟨"r1/", none⟩ : ListOrigin)].map
        (listKeys (listingEnv regionFailurePages (.zero, .zero)) "b" "" "") =
        [[.load, .store (fileInfoOf "a.json")]] by decide]
    exact .tail (.tail (.tail .refl (Step.load (i := 0) rfl)) (Step.store (i := 0) rfl))
      (Step.done (i := 0) rfl)
  exact ⟨rfl, _, .listed hplan (by decide)
    (.next hrun (show Wave.Joined ⟨_, _, _, _, 0, _⟩ from rfl) rfl .nil), rfl⟩

/-! ## Classification of the prefix -/

/-- Without a key prefix before `AWSLogs`, the bucket split leaves no `/` for the patterns to
match: `AWSLogs/<account>` and `AWSLogs` are listed verbatim, while `logs/AWSLogs/<account>` is
a single-account trail. -/
theorem listingRoots_no_key_prefix (env : Env) :
    splitBucket ("s3://bucket/AWSLogs/123456789012".drop 5) = ("bucket", "AWSLogs/123456789012") ∧
    listingRoots env "bucket" "AWSLogs/123456789012" "" = .ok ["AWSLogs/123456789012"] ∧
    splitBucket ("s3://bucket/AWSLogs".drop 5) = ("bucket", "AWSLogs") ∧
    listingRoots env "bucket" "AWSLogs" "" = .ok ["AWSLogs"] ∧
    listingRoots env "bucket" "logs/AWSLogs/123456789012" "" =
      .ok ["logs/AWSLogs/123456789012/CloudTrail/"] := by
  refine ⟨by decide, ?_, by decide, ?_, ?_⟩
  · simp [listingRoots, show awsLogsRE.MatchString "AWSLogs/123456789012" = false by decide,
      show awsLogsOrgRE.MatchString "AWSLogs/123456789012" = false by decide]
  · simp [listingRoots, show awsLogsRE.MatchString "AWSLogs" = false by decide,
      show awsLogsOrgRE.MatchString "AWSLogs" = false by decide]
  · simp only [listingRoots, show awsLogsRE.MatchString "logs/AWSLogs/123456789012" = true by decide,
      if_true]
    decide

end CloudTrail
