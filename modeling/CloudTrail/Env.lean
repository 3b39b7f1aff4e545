import CloudTrail.Basic

/-! What `source.go` calls but does not define (S3, SQS, the file system, the JSON decoders, gzip,
the event writer), each a function of its input. -/

namespace CloudTrail

/-- The input of a `ListObjectsV2` call. -/
structure ListInput where
  bucket : String
  pfx : String
  startAfter : Option String
  delimiter : Option String
  deriving DecidableEq, Repr

/-- One page of a `ListObjectsV2` response: object keys and common prefixes. -/
structure ListPage where
  contents : List String
  commonPrefixes : List String
  deriving DecidableEq, Repr

/-- A `time.Time` as `Format` reads it: its calendar fields in its location. -/
structure GoTime where
  year : Nat
  month : Nat
  day : Nat
  hour : Nat
  minute : Nat
  sec : Nat
  nsec : Nat
  deriving DecidableEq, Repr

/-- `t.IsZero()`: the zero `time.Time`, January 1, year 1, 00:00:00 UTC. -/
def GoTime.IsZero (t : GoTime) : Bool := t == ⟨1, 1, 1, 0, 0, 0, 0⟩

/-- A received SQS message. -/
structure SqsMessage where
  receiptHandle : String
  body : String
  deriving DecidableEq, Repr

/-- A value decoded by `encoding/json` into `interface{}`. -/
inductive GoJson
  | null
  | bool (b : Bool)
  | number (n : String)
  | string (s : String)
  | array (xs : List GoJson)
  | object (kvs : List (String × GoJson))
  deriving Repr

/-- One record of an `events.S3Event`, with the two fields the plugin reads. -/
structure S3EventRecord where
  bucketName : String
  objectKey : String
  deriving DecidableEq, Repr

/-- `snsMessage` -/
structure SnsMessage where
  Bucket : String
  Keys : List String
  deriving DecidableEq, Repr

/-- Everything outside `source.go` that it calls. -/
structure Env where
  /-- The pages of a `ListObjectsV2` paginator, in order. -/
  listPages : ListInput → List (Except ApiErr ListPage)
  /-- `downloader.Download` of a bucket's key by the goroutine of slot `j` of the `b`-th
  download batch (`download b j bucket key`): every call has its own answer, so a download may
  fail and a later one of the same key succeed. -/
  download : Nat → Nat → String → String → Except ApiErr Bytes
  /-- Modelled from the spec: `ParseInterval`, declared outside `source.go`, turns
  `S3Interval` into a start and an end time, each possibly zero. -/
  parseInterval : String → Except ApiErr (GoTime × GoTime)
  /-- `GetQueueUrl(queueName, ownerAccount)` -/
  getQueueUrl : String → Option String → Except ApiErr String
  /-- The answer to the `n`-th `ReceiveMessage` (`MaxNumberOfMessages: 1`). -/
  receive : Nat → Except ApiErr (List SqsMessage)
  /-- The answer to the `DeleteMessage` after the `n`-th receive. -/
  delete : Nat → Except ApiErr Unit
  /-- `json.Unmarshal` of a text into `interface{}`. -/
  unmarshalJson : String → Except ApiErr GoJson
  /-- `json.Unmarshal` into `events.S3Event`: its records. -/
  unmarshalS3Event : String → Except ApiErr (List S3EventRecord)
  /-- `json.Unmarshal` into `snsMessage`. -/
  unmarshalSns : String → Except ApiErr SnsMessage
  /-- `ioutil.ReadFile` -/
  readFile : String → Except ApiErr Bytes
  /-- `dirExists(path)`: whether `os.Stat` succeeds. -/
  dirExists : String → Bool
  /-- `filepath.Walk(root, fn)` as its callback sees it: the paths it visits, in order, each with
  `some isDir` when `os.Lstat` succeeded and `none` when it failed (the callback then gets a nil
  `info`). -/
  walk : String → List (String × Option Bool)
  /-- `gzip.NewReader` then `ioutil.ReadAll`; `none` when either fails. -/
  gunzip : Bytes → Option Bytes
  /-- `fastjson.Parser.Parse`, then `GetStringBytes` of a key of the parsed value (`nil` when
  it is missing or not a string). -/
  parseRecord : Bytes → Option (String → Option Bytes)
  /-- `time.Parse(time.RFC3339, s)` followed by `UnixNano()`. -/
  rfc3339 : Bytes → Option Int
  /-- `evt.Writer().Write(data)`: bytes written and error. -/
  write : Bytes → Nat × Option ApiErr

/-- The plugin instance, with what a run of calls has asked of the world so far: its number of
`ReceiveMessage` calls and of download batches, which select the answers of `Env`. -/
structure Session where
  inst : PluginInstance
  polls : Nat
  batches : Nat
  deriving DecidableEq, Repr

/-- The instance updated by `f`. -/
def Session.withInst (s : Session) (f : PluginInstance → PluginInstance) : Session :=
  { s with inst := f s.inst }

/-- `oCtx.s3` updated by `f`. -/
def Session.withS3 (s : Session) (f : S3State → S3State) : Session :=
  s.withInst fun p => { p with s3 := f p.s3 }

/-- The result of an external call, its error returned unchanged. -/
def ofExcept {α : Type} : Except ApiErr α → GoResult α
  | .ok a => .ok a
  | .error e => .error (.api e)

@[simp] theorem ofExcept_ok {α : Type} (a : α) : ofExcept (.ok a) = .ok a := rfl
@[simp] theorem ofExcept_error {α : Type} (e : ApiErr) :
    (ofExcept (.error e) : GoResult α) = .error (.api e) := rfl

/-- A single `ListObjectsV2` call: the paginator's first page. -/
def Env.listObjectsV2 (env : Env) (input : ListInput) : Except ApiErr ListPage :=
  (env.listPages input).headD (.ok ⟨[], []⟩)

end CloudTrail
