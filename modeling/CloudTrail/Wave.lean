import CloudTrail.Basic

/-! The fan-out waves of `openS3` and `readNextFileS3`, their goroutines interleaved in every order,
up to `Wait` and the receive after it. -/

namespace CloudTrail

/-- An access of a worker goroutine to shared state. -/
inductive Op
  /-- The read half of `oCtx.files = append(oCtx.files, fi)`. -/
  | load
  /-- The write half: `oCtx.files` becomes the value read, extended by `fi`. -/
  | store (fi : FileInfo)
  /-- `dlErrChan <- err` -/
  | send (e : ApiErr)
  /-- `oCtx.s3.DownloadBufs[slot] = bytes` -/
  | put (slot : Nat) (b : Bytes)
  deriving DecidableEq, Repr

/-- A goroutine of a wave: what it still runs before its deferred `DownloadWg.Done()`, the value
of `oCtx.files` it read last, and whether `Done` has run. -/
structure Worker where
  ops : List Op
  reg : List FileInfo
  done : Bool
  deriving DecidableEq, Repr

/-- Shared state during a wave: `oCtx.files`, the download slots, the buffer of the wave's
`dlErrChan` with its capacity, the counter of `DownloadWg`, and the goroutines. -/
structure Wave where
  files : List FileInfo
  bufs : List Bytes
  chan : List ApiErr
  cap : Nat
  counter : Nat
  workers : List Worker
  deriving DecidableEq, Repr

/-- The wave after the fan-out loop: `Add(1)` and `go` for every program. Starting them all at
once loses no interleaving that can be observed after the loop, where `Wait` is called. -/
def Wave.start (files : List FileInfo) (bufs : List Bytes) (cap : Nat)
    (progs : List (List Op)) : Wave :=
  ⟨files, bufs, [], cap, progs.length, progs.map fun p => ⟨p, [], false⟩⟩

/-- One step of one goroutine. A send waits while the channel is full. -/
inductive Step : Wave → Wave → Prop
  | load {w : Wave} {i : Nat} {ops : List Op} {reg : List FileInfo}
      (h : w.workers[i]? = some ⟨.load :: ops, reg, false⟩) :
      Step w { w with workers := w.workers.set i ⟨ops, w.files, false⟩ }
  | store {w : Wave} {i : Nat} {fi : FileInfo} {ops : List Op} {reg : List FileInfo}
      (h : w.workers[i]? = some ⟨.store fi :: ops, reg, false⟩) :
      Step w { w with files := reg ++ [fi], workers := w.workers.set i ⟨ops, reg, false⟩ }
  | send {w : Wave} {i : Nat} {e : ApiErr} {ops : List Op} {reg : List FileInfo}
      (h : w.workers[i]? = some ⟨.send e :: ops, reg, false⟩) (hc : w.chan.length < w.cap) :
      Step w { w with chan := w.chan ++ [e], workers := w.workers.set i ⟨ops, reg, false⟩ }
  | put {w : Wave} {i slot : Nat} {b : Bytes} {ops : List Op} {reg : List FileInfo}
      (h : w.workers[i]? = some ⟨.put slot b :: ops, reg, false⟩) :
      Step w { w with bufs := w.bufs.set slot b, workers := w.workers.set i ⟨ops, reg, false⟩ }
  | done {w : Wave} {i : Nat} {reg : List FileInfo}
      (h : w.workers[i]? = some ⟨[], reg, false⟩) :
      Step w { w with counter := w.counter - 1, workers := w.workers.set i ⟨[], reg, true⟩ }

/-- `DownloadWg.Wait()` has returned. -/
def Wave.Joined (w : Wave) : Prop := w.counter = 0

def Op.isSend : Op → Bool
  | .send _ => true
  | _ => false

/-- The sends a program still has to make. -/
def sendsIn (ops : List Op) : Nat := ops.countP Op.isSend

@[simp] theorem sendsIn_nil : sendsIn [] = 0 := rfl

@[simp] theorem sendsIn_cons (op : Op) (ops : List Op) :
    sendsIn (op :: ops) = sendsIn ops + if op.isSend then 1 else 0 := by
  simp [sendsIn, List.countP_cons]

@[simp] theorem sendsIn_append (a b : List Op) : sendsIn (a ++ b) = sendsIn a + sendsIn b :=
  List.countP_append _ _ _

/-- A goroutine's share of the `DownloadWg` counter: 1 until it has called `Done`. -/
def Worker.live (k : Worker) : Nat := if k.done then 0 else 1

/-- The sends the goroutines still have to make. -/
def pendingSends (ws : List Worker) : Nat := (ws.map fun k => sendsIn k.ops).sum

/-- The goroutines that have not called `Done`. -/
def liveCount (ws : List Worker) : Nat := (ws.map Worker.live).sum

/-- The wave invariant: `total` sends in all, each either in the channel or still to come;
the counter counts the goroutines that have not called `Done`; those that have, have no
access left. -/
structure Wave.Inv (total : Nat) (w : Wave) : Prop where
  chan_add : w.chan.length + pendingSends w.workers = total
  counter_eq : w.counter = liveCount w.workers
  done_ops : ∀ k ∈ w.workers, k.done = true → k.ops = []

theorem sum_map_set {β : Type} (f : β → Nat) {l : List β} {i : Nat} {a : β} (b : β)
    (h : l[i]? = some a) : ((l.set i b).map f).sum + f a = (l.map f).sum + f b := by
  induction l generalizing i with
  | nil => simp at h
  | cons x l ih =>
    cases i with
    | zero =>
      simp only [List.getElem?_cons_zero, Option.some.injEq] at h
      subst h
      simp only [List.set_cons_zero, List.map_cons, List.sum_cons]
      omega
    | succ i =>
      simp only [List.getElem?_cons_succ] at h
      have := ih h
      simp only [List.set_cons_succ, List.map_cons, List.sum_cons]
      omega

theorem le_sum_map {β : Type} (f : β → Nat) {l : List β} {i : Nat} {a : β}
    (h : l[i]? = some a) : f a ≤ (l.map f).sum :=
  List.le_sum_of_mem (List.mem_map_of_mem f (List.getElem?_mem h))

section
variable {ws : List Worker} {i : Nat} {k : Worker}

theorem pendingSends_set (h : ws[i]? = some k) (k' : Worker) :
    pendingSends (ws.set i k') + sendsIn k.ops = pendingSends ws + sendsIn k'.ops :=
  sum_map_set (fun x : Worker => sendsIn x.ops) k' h

theorem liveCount_set (h : ws[i]? = some k) (k' : Worker) :
    liveCount (ws.set i k') + k.live = liveCount ws + k'.live :=
  sum_map_set Worker.live k' h

theorem done_ops_set (h3 : ∀ x ∈ ws, x.done = true → x.ops = []) (k' : Worker)
    (hk' : k'.done = true → k'.ops = []) : ∀ x ∈ ws.set i k', x.done = true → x.ops = [] := by
  intro x hx
  rcases List.mem_or_eq_of_mem_set hx with hx | rfl
  exacts [h3 x hx, hk']

end

theorem Wave.inv_start (files : List FileInfo) (bufs : List Bytes) (cap : Nat)
    (progs : List (List Op)) :
    (Wave.start files bufs cap progs).Inv (progs.map sendsIn).sum := by
  refine ⟨?_, ?_, ?_⟩
  · simp [Wave.start, pendingSends, Function.comp_def]
  · simp [Wave.start, liveCount, Worker.live, Function.comp_def]
  · simp [Wave.start]

section
variable {total : Nat} {w w' : Wave}

theorem Wave.Inv.set_worker (hi : w.Inv total) {i : Nat} {k : Worker} (h : w.workers[i]? = some k)
    (k' : Worker) (hws : w'.workers = w.workers.set i k')
    (hchan : w'.chan.length + sendsIn k'.ops = w.chan.length + sendsIn k.ops)
    (hcount : w'.counter + k.live = w.counter + k'.live)
    (hdone : k'.done = true → k'.ops = []) : w'.Inv total := by
  have hp := pendingSends_set h k'
  have hl := liveCount_set h k'
  have := hi.chan_add
  have := hi.counter_eq
  exact ⟨by rw [hws]; omega, by rw [hws]; omega, hws ▸ done_ops_set hi.done_ops k' hdone⟩

theorem Wave.Inv.step (hi : w.Inv total) (h : Step w w') : w'.Inv total := by
  cases h with
  | load h | store h | put h => exact hi.set_worker h _ rfl (by simp [Op.isSend]) rfl nofun
  | send h _ => exact hi.set_worker h _ rfl (by simp [Op.isSend]; omega) rfl nofun
  | done h =>
    have h1 : 1 ≤ liveCount w.workers := le_sum_map Worker.live h
    have := hi.counter_eq
    exact hi.set_worker h _ rfl rfl (show w.counter - 1 + 1 = w.counter + 0 by omega) (fun _ => rfl)

theorem Wave.Inv.reach (hi : w.Inv total) (h : Relation.ReflTransGen Step w w') :
    w'.Inv total := by
  induction h with
  | refl => exact hi
  | tail _ hs ih => exact ih.step hs

theorem send_enabled (hi : w.Inv total) (hcap : total ≤ w.cap) {i : Nat} {e : ApiErr}
    {ops : List Op} {reg : List FileInfo}
    (h : w.workers[i]? = some ⟨.send e :: ops, reg, false⟩) : w.chan.length < w.cap := by
  have := le_sum_map (fun x => sendsIn x.ops) h
  have := hi.chan_add
  simp [pendingSends, Op.isSend] at *
  omega

theorem step_exists (hi : w.Inv total) (hcap : total ≤ w.cap) (hj : ¬w.Joined) :
    ∃ w', Step w w' := by
  obtain ⟨k, hk, hkl⟩ : ∃ k ∈ w.workers, k.live ≠ 0 := by
    by_contra! hne
    have : liveCount w.workers = 0 := by
      simp only [liveCount, List.sum_eq_zero_iff, List.mem_map]
      rintro _ ⟨k, hk, rfl⟩
      exact hne k hk
    exact hj (hi.counter_eq.trans this)
  obtain ⟨i, hi'⟩ := List.getElem?_of_mem hk
  obtain ⟨ops, reg, done⟩ := k
  cases done
  · cases ops with
    | nil => exact ⟨_, .done hi'⟩
    | cons op ops =>
      cases op with
      | load => exact ⟨_, .load hi'⟩
      | store fi => exact ⟨_, .store hi'⟩
      | send e => exact ⟨_, .send hi' (send_enabled hi hcap hi')⟩
      | put slot b => exact ⟨_, .put hi'⟩
  · simp [Worker.live] at hkl

theorem all_done_of_joined (hi : w.Inv total) (hj : w.Joined) :
    ∀ k ∈ w.workers, k.done = true ∧ k.ops = [] := by
  intro k hk
  have hz : liveCount w.workers = 0 := hi.counter_eq.symm.trans hj
  have hd : k.done = true := by
    by_contra hne
    have := List.le_sum_of_mem (List.mem_map_of_mem Worker.live hk)
    simp [liveCount, Worker.live, hne] at hz this
    omega
  exact ⟨hd, hi.done_ops k hk hd⟩

theorem chan_length_of_joined (hi : w.Inv total) (hj : w.Joined) : w.chan.length = total := by
  have hp : pendingSends w.workers = 0 := by
    simp only [pendingSends, List.sum_eq_zero_iff, List.mem_map]
    rintro _ ⟨k, hk, rfl⟩
    simp [(all_done_of_joined hi hj k hk).2]
  have := hi.chan_add
  omega

theorem Step.cap_eq (h : Step w w') : w'.cap = w.cap := by
  cases h <;> rfl

theorem cap_reach (h : Relation.ReflTransGen Step w w') : w'.cap = w.cap := by
  induction h with
  | refl => rfl
  | tail _ hs ih => exact hs.cap_eq.trans ih

end

/-- Every run of the wave of `progs` on a channel of capacity `cap`: no send waits, the wave
cannot get stuck before `Wait` returns, and once it returns every goroutine has run to its end
and the channel holds an error exactly when `failed`. -/
def WaveSafe (cap : Nat) (progs : List (List Op)) (failed : Prop) : Prop :=
  ∀ (files : List FileInfo) (bufs : List Bytes) (w : Wave),
    Relation.ReflTransGen Step (Wave.start files bufs cap progs) w →
    (∀ (i : Nat) (e : ApiErr) (ops : List Op) (reg : List FileInfo),
      w.workers[i]? = some ⟨.send e :: ops, reg, false⟩ → w.chan.length < w.cap) ∧
    (¬w.Joined → ∃ w', Step w w') ∧
    (w.Joined → (∀ k ∈ w.workers, k.done = true ∧ k.ops = []) ∧ (w.chan ≠ [] ↔ failed))

theorem waveSafe_of {cap : Nat} {progs : List (List Op)} {failed : Prop}
    (h1 : ∀ p ∈ progs, sendsIn p ≤ 1) (h2 : progs.length ≤ cap)
    (hf : (∃ p ∈ progs, sendsIn p ≠ 0) ↔ failed) : WaveSafe cap progs failed := by
  intro files bufs w hw
  have hi := (Wave.inv_start files bufs cap progs).reach hw
  have hcap : (progs.map sendsIn).sum ≤ w.cap := by
    have := List.sum_le_card_nsmul (progs.map sendsIn) 1 (by simpa using h1)
    simp only [List.length_map, smul_eq_mul, mul_one] at this
    rw [cap_reach hw]
    exact this.trans h2
  refine ⟨fun i e ops reg h => send_enabled hi hcap h, step_exists hi hcap,
    fun hj => ⟨all_done_of_joined hi hj, ?_⟩⟩
  rw [← hf, ← List.length_pos, chan_length_of_joined hi hj, Nat.pos_iff_ne_zero, Ne,
    List.sum_eq_zero_iff]
  simp

/-! ## What the goroutines store -/

/-- `P` holds of every file in `oCtx.files`, in each goroutine's copy of it, and of every
file a goroutine has still to store. -/
def FilesFrom (P : FileInfo → Prop) (w : Wave) : Prop :=
  (∀ f ∈ w.files, P f) ∧ ∀ k ∈ w.workers, (∀ f ∈ k.reg, P f) ∧ ∀ fi, Op.store fi ∈ k.ops → P fi

section
variable {P : FileInfo → Prop} {w w' : Wave}

theorem FilesFrom.set (hP : FilesFrom P w) {i : Nat} (k' : Worker)
    (hk' : (∀ f ∈ k'.reg, P f) ∧ ∀ fi, Op.store fi ∈ k'.ops → P fi) :
    ∀ k ∈ w.workers.set i k', (∀ f ∈ k.reg, P f) ∧ ∀ fi, Op.store fi ∈ k.ops → P fi := by
  intro k hk
  rcases List.mem_or_eq_of_mem_set hk with hk | rfl
  exacts [hP.2 k hk, hk']

theorem FilesFrom.step (hP : FilesFrom P w) (h : Step w w') : FilesFrom P w' := by
  cases h with
  | load h =>
    obtain ⟨-, hops⟩ := hP.2 _ (List.getElem?_mem h)
    exact ⟨hP.1, hP.set _ ⟨hP.1, fun fi hfi => hops fi (.tail _ hfi)⟩⟩
  | store h =>
    obtain ⟨hreg, hops⟩ := hP.2 _ (List.getElem?_mem h)
    refine ⟨fun f hf => ?_, hP.set _ ⟨hreg, fun fi hfi => hops fi (.tail _ hfi)⟩⟩
    rcases List.mem_append.mp hf with hf | hf
    exacts [hreg f hf, (List.mem_singleton.mp hf) ▸ hops _ (.head _)]
  | send h _ | put h =>
    obtain ⟨hreg, hops⟩ := hP.2 _ (List.getElem?_mem h)
    exact ⟨hP.1, hP.set _ ⟨hreg, fun fi hfi => hops fi (.tail _ hfi)⟩⟩
  | done h =>
    obtain ⟨hreg, -⟩ := hP.2 _ (List.getElem?_mem h)
    exact ⟨hP.1, hP.set _ ⟨hreg, by simp⟩⟩

theorem FilesFrom.reach (hP : FilesFrom P w) (h : Relation.ReflTransGen Step w w') :
    FilesFrom P w' := by
  induction h with
  | refl => exact hP
  | tail _ hs ih => exact ih.step hs

theorem filesFrom_start {files : List FileInfo} {bufs : List Bytes} {cap : Nat}
    {progs : List (List Op)} (hf : ∀ f ∈ files, P f)
    (hp : ∀ p ∈ progs, ∀ fi, Op.store fi ∈ p → P fi) :
    FilesFrom P (Wave.start files bufs cap progs) := by
  refine ⟨hf, ?_⟩
  simp only [Wave.start, List.mem_map]
  rintro _ ⟨p, hp', rfl⟩
  exact ⟨by simp, hp p hp'⟩

end

/-! ## What the goroutines send -/

/-- `P` holds of every error in the channel and of every error a goroutine has still to send. -/
def SendsFrom (P : ApiErr → Prop) (w : Wave) : Prop :=
  (∀ e ∈ w.chan, P e) ∧ ∀ k ∈ w.workers, ∀ e, Op.send e ∈ k.ops → P e

section
variable {P : ApiErr → Prop} {w w' : Wave}

theorem SendsFrom.set (hP : SendsFrom P w) {i : Nat} (k' : Worker)
    (hk' : ∀ e, Op.send e ∈ k'.ops → P e) :
    ∀ k ∈ w.workers.set i k', ∀ e, Op.send e ∈ k.ops → P e := by
  intro k hk
  rcases List.mem_or_eq_of_mem_set hk with hk | rfl
  exacts [hP.2 k hk, hk']

theorem SendsFrom.step (hP : SendsFrom P w) (h : Step w w') : SendsFrom P w' := by
  cases h with
  | load h | store h | put h =>
    exact ⟨hP.1, hP.set _ fun e he => hP.2 _ (List.getElem?_mem h) e (.tail _ he)⟩
  | send h _ =>
    refine ⟨fun e he => ?_, hP.set _ fun e he => hP.2 _ (List.getElem?_mem h) e (.tail _ he)⟩
    rcases List.mem_append.mp he with he | he
    exacts [hP.1 e he, (List.mem_singleton.mp he) ▸ hP.2 _ (List.getElem?_mem h) _ (.head _)]
  | done h => exact ⟨hP.1, hP.set _ (by simp)⟩

theorem SendsFrom.reach (hP : SendsFrom P w) (h : Relation.ReflTransGen Step w w') :
    SendsFrom P w' := by
  induction h with
  | refl => exact hP
  | tail _ hs ih => exact ih.step hs

theorem sendsFrom_start {files : List FileInfo} {bufs : List Bytes} {cap : Nat}
    {progs : List (List Op)} (hp : ∀ p ∈ progs, ∀ e, Op.send e ∈ p → P e) :
    SendsFrom P (Wave.start files bufs cap progs) := by
  refine ⟨by simp [Wave.start], ?_⟩
  simp only [Wave.start, List.mem_map]
  rintro _ ⟨p, hp', rfl⟩
  exact hp p hp'

end

/-! ## Goroutines of one access -/

section
variable {w : Wave} {i : Nat} {reg : List FileInfo}

theorem reach_put_done {s : Nat} {x : Bytes} (h : w.workers[i]? = some ⟨[.put s x], reg, false⟩) :
    Relation.ReflTransGen Step w
      { w with bufs := w.bufs.set s x, counter := w.counter - 1
               workers := w.workers.set i ⟨[], reg, true⟩ } := by
  have hi : i < w.workers.length := (List.getElem?_eq_some_iff.mp h).1
  have hd : Step { w with bufs := w.bufs.set s x, workers := w.workers.set i ⟨[], reg, false⟩ } _ :=
    @Step.done _ i reg (by simp [List.getElem?_set, hi])
  simpa only [List.set_set] using (Relation.ReflTransGen.single (Step.put h)).tail hd

theorem reach_send_done {e : ApiErr} (h : w.workers[i]? = some ⟨[.send e], reg, false⟩)
    (hc : w.chan.length < w.cap) :
    Relation.ReflTransGen Step w
      { w with chan := w.chan ++ [e], counter := w.counter - 1
               workers := w.workers.set i ⟨[], reg, true⟩ } := by
  have hi : i < w.workers.length := (List.getElem?_eq_some_iff.mp h).1
  have hd : Step { w with chan := w.chan ++ [e], workers := w.workers.set i ⟨[], reg, false⟩ } _ :=
    @Step.done _ i reg (by simp [List.getElem?_set, hi])
  simpa only [List.set_set] using (Relation.ReflTransGen.single (Step.send h hc)).tail hd

end

end CloudTrail
