import Mathlib

/-! The data model of `source.go` and the Go runtime operations it relies on, with the panics they
raise. -/

namespace CloudTrail

/-- A Go `[]byte`. -/
abbrev Bytes := List UInt8

/-- The bytes of an ASCII literal; every literal the plugin compares bytes against is ASCII. -/
def ascii (s : String) : Bytes := s.toList.map fun c => c.toNat.toUInt8

/-- `strings.HasSuffix`, on the runes of a key. -/
def hasSuffix (s suffix : String) : Bool := suffix.toList.isSuffixOf s.toList

/-- Go's `<` on the runes of two strings: the first differing rune decides, and a proper prefix
is smaller. -/
def runesLess : List Char → List Char → Bool
  | [], [] => false
  | [], _ :: _ => true
  | _ :: _, [] => false
  | c :: cs, d :: ds => if c = d then runesLess cs ds else decide (c < d)

/-- Go's `a < b` on strings. Go compares bytes, and UTF-8 orders byte sequences as it orders
the runes they encode. -/
def goLess (a b : String) : Bool := runesLess a.toList b.toList

theorem runesLess_iff (l₁ l₂ : List Char) : runesLess l₁ l₂ = true ↔ l₁ < l₂ := by
  induction l₁ generalizing l₂ with
  | nil => cases l₂ <;> simp [runesLess, List.nil_lt_cons]
  | cons c cs ih =>
    cases l₂ with
    | nil => simp [runesLess]
    | cons d ds =>
      by_cases hcd : c = d
      · subst hcd
        simp only [runesLess, if_true, ih]
        exact List.Lex.cons_iff.symm
      · simp only [runesLess, if_neg hcd, decide_eq_true_iff]
        exact ⟨.rel, fun | .cons _ => absurd rfl hcd | .rel h => h⟩

theorem goLess_eq_true {a b : String} : goLess a b = true ↔ a < b :=
  (runesLess_iff _ _).trans String.lt_iff_toList_lt.symm

/-- An error value returned by an AWS, file-system or decoding call. -/
structure ApiErr where
  code : String
  deriving DecidableEq, Repr

/-- The error values `source.go` returns. The docstrings give the source's message. -/
inductive Err
  /-- An error of a library or AWS call, returned unchanged. -/
  | api (e : ApiErr)
  /-- `" plugin error: missing input directory argument"` -/
  | missingInputDir
  /-- `" plugin error: cannot open %s"` -/
  | cannotOpen (dir : String)
  /-- `" plugin error: no json files found in "` and the directory. -/
  | noJsonFiles (dir : String)
  /-- `" invalid S3DownloadConcurrency: \"%d\""` -/
  | invalidConcurrency (d : Int)
  /-- `" invalid interval: \"%s\": %s"` -/
  | invalidInterval (e : ApiErr)
  /-- `" invalid account list: \"%s\""` -/
  | invalidAccountList
  /-- `" plugin error: failed to list accounts: "` and its two friendlier forms. -/
  | listAccounts (e : ApiErr)
  /-- `" start time %s must be less than end time %s"` -/
  | startAfterEnd
  /-- `" plugin error: failed to list objects: "` and its two friendlier forms. -/
  | listObjects (e : ApiErr)
  /-- `"received SQS message that did not have a Type property"` -/
  | noTypeProperty
  /-- `"received SQS message that was not a SNS Notification"` -/
  | notNotification
  /-- `"cloudwatch message too long: %d, but %d were written"` -/
  | tooLong (len written : Nat)
  /-- `sdk.ErrTimeout` -/
  | timeout
  /-- `sdk.ErrEOF` -/
  | eof
  deriving DecidableEq, Repr

/-- Run-time panics of the Go code. -/
inductive Panic
  /-- `index out of range` -/
  | index
  /-- `makeslice: len out of range` -/
  | makeSlice
  /-- `makechan: size out of range` -/
  | makeChan
  /-- `slice bounds out of range` -/
  | sliceBounds
  /-- `interface conversion` of an unchecked type assertion -/
  | typeAssertion
  deriving DecidableEq, Repr

/-- The result of a Go call: a value, a returned error, or a panic. -/
inductive GoResult (α : Type)
  | ok (a : α)
  | error (e : Err)
  | panic (p : Panic)
  deriving DecidableEq, Repr

namespace GoResult

variable {α β : Type}

def bind : GoResult α → (α → GoResult β) → GoResult β
  | ok a, f => f a
  | error e, _ => error e
  | panic p, _ => panic p

instance : Monad GoResult where
  pure := ok
  bind := bind

def IsPanic : GoResult α → Prop
  | panic _ => True
  | _ => False

@[simp] theorem bind_ok (a : α) (f : α → GoResult β) : (ok a >>= f) = f a := rfl
@[simp] theorem bind_error (e : Err) (f : α → GoResult β) : (error e >>= f) = error e := rfl
@[simp] theorem bind_panic (p : Panic) (f : α → GoResult β) : (panic p >>= f) = panic p := rfl
@[simp] theorem pure_eq (a : α) : (pure a : GoResult α) = ok a := rfl

end GoResult

/-- A method on a pointer receiver of type `σ`: it returns a result and leaves the receiver as
it has updated it, also when it returns an error. -/
def GoM (σ α : Type) : Type := σ → σ × GoResult α

namespace GoM

variable {σ α β : Type}

def bind (x : GoM σ α) (f : α → GoM σ β) : GoM σ β := fun s =>
  match x s with
  | (s', .ok a) => f a s'
  | (s', .error e) => (s', .error e)
  | (s', .panic p) => (s', .panic p)

instance : Monad (GoM σ) where
  pure a s := (s, .ok a)
  bind := bind

/-- The receiver. -/
def get : GoM σ σ := fun s => (s, .ok s)

/-- An assignment to the receiver's fields. -/
def modify (f : σ → σ) : GoM σ Unit := fun s => (f s, .ok ())

/-- A call that leaves the receiver alone. -/
def lift (r : GoResult α) : GoM σ α := fun s => (s, r)

/-- `return err` -/
def throw (e : Err) : GoM σ α := lift (.error e)

@[simp] theorem pure_apply (a : α) (s : σ) : (pure a : GoM σ α) s = (s, .ok a) := rfl
@[simp] theorem get_apply (s : σ) : (get : GoM σ σ) s = (s, .ok s) := rfl
@[simp] theorem modify_apply (f : σ → σ) (s : σ) : modify f s = (f s, .ok ()) := rfl
@[simp] theorem lift_apply (r : GoResult α) (s : σ) : (lift r : GoM σ α) s = (s, r) := rfl
@[simp] theorem throw_apply (e : Err) (s : σ) : (throw e : GoM σ α) s = (s, .error e) := rfl

theorem bind_apply (x : GoM σ α) (f : α → GoM σ β) (s : σ) :
    (x >>= f) s = bind x f s := rfl

@[simp] theorem get_bind (f : σ → GoM σ β) (s : σ) : (get >>= f) s = f s s := rfl
@[simp] theorem modify_bind (g : σ → σ) (f : Unit → GoM σ β) (s : σ) :
    (modify g >>= f) s = f () (g s) := rfl
@[simp] theorem lift_ok_bind (a : α) (f : α → GoM σ β) (s : σ) :
    (lift (.ok a) >>= f) s = f a s := rfl
@[simp] theorem lift_error_bind (e : Err) (f : α → GoM σ β) (s : σ) :
    (lift (.error e) >>= f) s = (s, .error e) := rfl
@[simp] theorem lift_panic_bind (p : Panic) (f : α → GoM σ β) (s : σ) :
    (lift (.panic p) >>= f) s = (s, .panic p) := rfl
@[simp] theorem throw_bind (e : Err) (f : α → GoM σ β) (s : σ) :
    (throw e >>= f) s = (s, .error e) := rfl
@[simp] theorem pure_bind (a : α) (f : α → GoM σ β) (s : σ) : (pure a >>= f) s = f a s := rfl

theorem bind_of_ok {x : GoM σ α} {s s' : σ} {a : α} (h : x s = (s', .ok a)) (f : α → GoM σ β) :
    (x >>= f) s = f a s' := by
  simp only [bind_apply, bind, h]

theorem bind_of_error {x : GoM σ α} {s s' : σ} {e : Err} (h : x s = (s', .error e))
    (f : α → GoM σ β) : (x >>= f) s = (s', .error e) := by
  simp only [bind_apply, bind, h]

theorem bind_of_panic {x : GoM σ α} {s s' : σ} {p : Panic} (h : x s = (s', .panic p))
    (f : α → GoM σ β) : (x >>= f) s = (s', .panic p) := by
  simp only [bind_apply, bind, h]

theorem bind_cases (x : GoM σ α) (f : α → GoM σ β) (s : σ) :
    (∃ s' a, x s = (s', .ok a) ∧ (x >>= f) s = f a s') ∨
    (∃ s' e, x s = (s', .error e) ∧ (x >>= f) s = (s', .error e)) ∨
    (∃ s' p, x s = (s', .panic p) ∧ (x >>= f) s = (s', .panic p)) := by
  rcases h : x s with ⟨s', a | e | p⟩
  exacts [.inl ⟨s', a, rfl, bind_of_ok h f⟩, .inr (.inl ⟨s', e, rfl, bind_of_error h f⟩),
    .inr (.inr ⟨s', p, rfl, bind_of_panic h f⟩)]

end GoM

/-! ## Go runtime operations -/

/-- The package's `min` on Go `int`. -/
def min (a b : Int) : Int := if a < b then a else b

/-- `xs[i]`: panics unless `0 ≤ i < len(xs)`. -/
def goIndex {α : Type} (xs : List α) (i : Int) : GoResult α :=
  match xs[i.toNat]? with
  | some x => if 0 ≤ i then .ok x else .panic .index
  | none => .panic .index

/-- `make([][]byte, n)`: `n` nil slices; panics on a negative length. -/
def makeBufs (n : Int) : GoResult (List Bytes) :=
  if 0 ≤ n then .ok (List.replicate n.toNat []) else .panic .makeSlice

/-- `make(chan error, n)`: panics on a negative capacity. -/
def makeChan (n : Int) : GoResult Unit :=
  if 0 ≤ n then .ok () else .panic .makeChan

/-- `xs[lo:hi]` for `lo ≤ hi ≤ len(xs)`. Go allows `hi` up to `cap(xs)`; the only re-slice
of the plugin has `hi ≤ len(xs)` whenever `lo ≤ hi`, so the length bound is the one that
matters. -/
def goSlice {α : Type} (xs : List α) (lo hi : Int) : GoResult (List α) :=
  if 0 ≤ lo ∧ lo ≤ hi ∧ hi ≤ xs.length then .ok ((xs.drop lo.toNat).take (hi - lo).toNat)
  else .panic .sliceBounds

/-- `xs[i] = v`: panics unless `0 ≤ i < len(xs)`. -/
def goSet {α : Type} (xs : List α) (i : Int) (v : α) : GoResult (List α) :=
  if 0 ≤ i ∧ i < xs.length then .ok (xs.set i.toNat v) else .panic .index

theorem toUInt32_le_iff {n : Nat} {c : UInt32} (hn : n < 2 ^ 32) : n.toUInt32 ≤ c ↔ n ≤ c.toNat := by
  show n % 2 ^ 32 ≤ c.toNat ↔ _
  rw [Nat.mod_eq_of_lt hn]

theorem UInt32.toNat_add_one {c : UInt32} (h : c.toNat + 1 < 2 ^ 32) : (c + 1).toNat = c.toNat + 1 := by
  rw [UInt32.toNat_add]; simp; omega

theorem min_le_left (a b : Int) : min a b ≤ a := by
  unfold min; split <;> omega

theorem min_le_right (a b : Int) : min a b ≤ b := by
  unfold min; split <;> omega

theorem min_eq_or (a b : Int) : min a b = a ∨ min a b = b := by
  unfold min; split <;> simp

theorem goIndex_of_lt {α : Type} (xs : List α) {i : Int} (h0 : 0 ≤ i) (h : i < xs.length) :
    goIndex xs i = .ok (xs.get ⟨i.toNat, by omega⟩) := by
  simp [goIndex, List.getElem?_eq_getElem (show i.toNat < xs.length by omega), h0]

theorem goIndex_panic {α : Type} (xs : List α) {i : Int} (h : xs.length ≤ i) :
    goIndex xs i = .panic .index := by
  simp [goIndex, List.getElem?_eq_none (show xs.length ≤ i.toNat by omega)]

theorem goSlice_ok {α : Type} (xs : List α) {lo hi : Int} (h0 : 0 ≤ lo) (h1 : lo ≤ hi)
    (h2 : hi ≤ xs.length) : goSlice xs lo hi = .ok ((xs.drop lo.toNat).take (hi - lo).toNat) := by
  simp [goSlice, h0, h1, h2]

theorem goSet_ok {α : Type} (xs : List α) {i : Int} (v : α) (h0 : 0 ≤ i) (h : i < xs.length) :
    goSet xs i v = .ok (xs.set i.toNat v) := by
  simp [goSet, h0, h]

/-! ## Data model -/

/-- `OpenMode` -/
inductive OpenMode
  | fileMode
  | s3Mode
  | sqsMode
  deriving DecidableEq, Repr

/-- `listOrigin`: a listing cursor. -/
structure ListOrigin where
  pfx : String
  startAfter : Option String
  deriving DecidableEq, Repr

/-- `fileInfo` -/
structure FileInfo where
  name : String
  isCompressed : Bool
  deriving DecidableEq, Repr

/-- Modelled from the spec: the configuration surface of §6. `PluginConfig` is declared
outside `source.go`; these are the fields `source.go` reads, with their Go types. -/
structure PluginConfig where
  S3DownloadConcurrency : Int
  S3Interval : String
  S3AccountList : String
  SQSDelete : Bool
  UseS3SNS : Bool
  SQSOwnerAccount : String
  deriving DecidableEq, Repr

/-- `s3State`. `clientSet` stands for `client != nil`; the client, the downloader and the
wait group are modelled by the calls that use them. -/
structure S3State where
  bucket : String
  clientSet : Bool
  DownloadBufs : List Bytes
  lastDownloadedFileNum : Int
  nFilledBufs : Int
  curBuf : Int
  deriving DecidableEq, Repr

/-- `PluginInstance`, with the fields `source.go` reads. `curFileNum` is the Go `uint32`. -/
structure PluginInstance where
  openMode : OpenMode
  config : PluginConfig
  files : List FileInfo
  curFileNum : UInt32
  evtJSONStrings : List Bytes
  evtJSONListPos : Nat
  s3 : S3State
  queueURL : String
  deriving DecidableEq, Repr

/-- The zero `s3State` of a fresh instance. -/
def S3State.zero : S3State :=
  ⟨"", false, [], 0, 0, 0⟩

/-- A fresh instance in a mode, before its open function ran. -/
def PluginInstance.fresh (mode : OpenMode) (config : PluginConfig) : PluginInstance :=
  ⟨mode, config, [], 0, [], 0, .zero, ""⟩

/-- An event handed to the framework: the record's bytes and its timestamp. -/
structure Event where
  data : Bytes
  timestamp : UInt64
  deriving DecidableEq, Repr

/-- `initS3`: the first call allocates `S3DownloadConcurrency` download buffers. -/
def initS3 (p : PluginInstance) : GoResult PluginInstance :=
  if p.s3.clientSet then .ok p
  else do
    let bufs ← makeBufs p.config.S3DownloadConcurrency
    pure { p with s3 := { p.s3 with DownloadBufs := bufs, clientSet := true } }

/-- The file reference the listing, the walk and the queue build for a key. -/
def fileInfoOf (key : String) : FileInfo :=
  ⟨key, hasSuffix key ".json.gz"⟩

theorem initS3_eq {p q : PluginInstance} (h : initS3 p = .ok q) :
    q = p ∨ (p.s3.clientSet = false ∧ 0 ≤ p.config.S3DownloadConcurrency ∧
      q = { p with s3 := { p.s3 with
        DownloadBufs := List.replicate p.config.S3DownloadConcurrency.toNat [],
        clientSet := true } }) := by
  unfold initS3 makeBufs at h
  split at h
  · cases h; exact .inl rfl
  · rename_i hc
    split at h <;> cases h
    exact .inr ⟨Bool.eq_false_iff.mpr hc, ‹_›, rfl⟩

end CloudTrail
