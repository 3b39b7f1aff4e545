import CloudTrail.Sqs
import CloudTrail.Extract

/-! `nextEvent`: open the next file once the open one is used up, then turn its next record into an
event. -/

namespace CloudTrail

/-- `uint64(t.UnixNano())` -/
def unixNanoU64 (t : Int) : UInt64 := (t % 2 ^ 64).toNat.toUInt64

/-- The check at the top of the file opening (lines 647–664): once every file has been opened,
a queue session polls once, and a file or S3 session is at its end. -/
def ensureFile (env : Env) : GoM Session Unit := do
  let s ← GoM.get
  if s.inst.curFileNum ≥ s.inst.files.length.toUInt32 then
    if s.inst.openMode = .sqsMode then do
      getMoreSQSFiles env
      let s ← GoM.get
      if s.inst.curFileNum ≥ s.inst.files.length.toUInt32 then GoM.throw .timeout else pure ()
    else GoM.throw .eof
  else pure ()

/-- The bytes of `file`: the next download slot in S3 and queue mode, the file on disk in file
mode (lines 669–677). -/
def fetchFile (env : Env) (mode : OpenMode) (file : FileInfo) : GoM Session Bytes :=
  match mode with
  | .s3Mode | .sqsMode => readNextFileS3 env
  | .fileMode => GoM.lift (ofExcept (env.readFile file.name))

/-- The gunzip of a compressed file; a failure skips the file (lines 680–693). -/
def unzipFile (env : Env) (file : FileInfo) (tmpStr : Bytes) : GoResult Bytes :=
  if file.isCompressed then
    match env.gunzip tmpStr with
    | some zdata => .ok zdata
    | none => .error .timeout
  else .ok tmpStr

/-- Taking `files[curFileNum]`, fetching it, gunzipping it and splitting it into records
(lines 666–706). -/
def loadNextFile (env : Env) : GoM Session Unit := do
  let s ← GoM.get
  let file ← GoM.lift (goIndex s.inst.files s.inst.curFileNum.toNat)
  GoM.modify (·.withInst fun p => { p with curFileNum := p.curFileNum + 1 })
  let tmpStr ← fetchFile env s.inst.openMode file
  let tmpStr ← GoM.lift (unzipFile env file tmpStr)
  GoM.modify (·.withInst fun p =>
    { p with evtJSONStrings := extractRecordStrings tmpStr [], evtJSONListPos := 0 })

/-- Opening the next file (lines 645–706). -/
def openNextFile (env : Env) : GoM Session Unit := do
  ensureFile env
  loadNextFile env

/-- The next file is opened once the records of the current one are used up. -/
def openIfConsumed (env : Env) : GoM Session Unit := do
  let s ← GoM.get
  if s.inst.evtJSONListPos ≥ s.inst.evtJSONStrings.length then openNextFile env else pure ()

/-- The record part of `nextEvent` (lines 708–768): the record at `evtJSONListPos` is skipped
unless it parses, has an RFC 3339 `eventTime` and an `eventType` other than
`AwsCloudTrailInsight`; otherwise it is written whole. -/
def nextRecord (env : Env) : GoM Session Event := do
  let s ← GoM.get
  if s.inst.evtJSONStrings.length ≠ 0 then
    let evtData ← GoM.lift (goIndex s.inst.evtJSONStrings s.inst.evtJSONListPos)
    GoM.modify (·.withInst fun p => { p with evtJSONListPos := p.evtJSONListPos + 1 })
    match env.parseRecord evtData with
    | none => GoM.throw .timeout
    | some cr =>
      match cr "eventTime" with
      | none => GoM.throw .timeout
      | some timeVal =>
        match env.rfc3339 timeVal with
        | none => GoM.throw .timeout
        | some t1 =>
          match cr "eventType" with
          | none => GoM.throw .timeout
          | some typeVal =>
            if typeVal = ascii "AwsCloudTrailInsight" then GoM.throw .timeout
            else
              match env.write evtData with
              | (_, some e) => GoM.throw (.api e)
              | (n, none) =>
                if n < evtData.length then GoM.throw (.tooLong evtData.length n)
                else pure ⟨evtData, unixNanoU64 t1⟩
  else GoM.throw .timeout

/-- `nextEvent(evt)`: the event written, or the error returned. -/
def nextEvent (env : Env) : GoM Session Event := do
  openIfConsumed env
  nextRecord env

/-- `k` calls of `nextEvent` from `s`: the session after them and their results, in order. -/
def runCalls (env : Env) : Nat → Session → Session × List (GoResult Event)
  | 0, s => (s, [])
  | k + 1, s =>
    let r := nextEvent env s
    let rest := runCalls env k r.1
    (rest.1, r.2 :: rest.2)

/-- The event a record gives: its bytes and the time of its `eventTime`, when it parses, its
`eventTime` is RFC 3339 and its `eventType` is not `AwsCloudTrailInsight`. -/
def recordEvent (env : Env) (r : Bytes) : Option Event := do
  let cr ← env.parseRecord r
  let timeVal ← cr "eventTime"
  let t1 ← env.rfc3339 timeVal
  let typeVal ← cr "eventType"
  if typeVal = ascii "AwsCloudTrailInsight" then none else some ⟨r, unixNanoU64 t1⟩

end CloudTrail
