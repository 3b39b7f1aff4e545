import CloudTrail.Basic

/-! The record splitter `extractRecordStrings`, on CloudTrail files and on any bytes. -/

namespace CloudTrail

/-- `'{'` -/
def lbrace : UInt8 := 123

/-- `'}'` -/
def rbrace : UInt8 := 125

@[simp] theorem rbrace_ne_lbrace : rbrace ≠ lbrace := by decide

/-- The loop variables of `extractRecordStrings`, with the slice `*res`. -/
structure Scan where
  indentation : Int
  entryStart : Nat
  res : List Bytes

/-- One iteration of `for pos, char := range jsonStr`. The entry `jsonStr[entryStart : pos+1]`
never panics: `entryStart` is an earlier position. -/
def scanStep (jsonStr : Bytes) (st : Scan) (pc : Nat × UInt8) : Scan :=
  if pc.2 = lbrace then
    { st with entryStart := if st.indentation = 1 then pc.1 else st.entryStart,
              indentation := st.indentation + 1 }
  else if pc.2 = rbrace then
    if st.indentation - 1 = 1 ∧ pc.1 < jsonStr.length - 1 then
      { st with indentation := st.indentation - 1,
                res := st.res ++ [(jsonStr.drop st.entryStart).take (pc.1 + 1 - st.entryStart)] }
    else { st with indentation := st.indentation - 1 }
  else st

/-- `extractRecordStrings(jsonStr, res)`: the new value of `*res`. -/
def extractRecordStrings (jsonStr : Bytes) (res : List Bytes) : List Bytes :=
  (jsonStr.enum.foldl (scanStep jsonStr) ⟨0, 0, res⟩).res

/-- The loop run over the segment `seg` of `s` that starts at position `off`. -/
def scan (s : Bytes) (st : Scan) (off : Nat) (seg : Bytes) : Scan :=
  (seg.enumFrom off).foldl (scanStep s) st

theorem extractRecordStrings_eq_scan (s : Bytes) (res : List Bytes) :
    extractRecordStrings s res = (scan s ⟨0, 0, res⟩ 0 s).res := by
  simp [extractRecordStrings, scan, List.enum_eq_enumFrom]

@[simp] theorem scan_nil (s : Bytes) (st : Scan) (off : Nat) : scan s st off [] = st := rfl

theorem scan_cons (s : Bytes) (st : Scan) (off : Nat) (b : UInt8) (l : Bytes) :
    scan s st off (b :: l) = scan s (scanStep s st (off, b)) (off + 1) l := rfl

theorem scan_append (s : Bytes) (st : Scan) (off : Nat) (a b : Bytes) :
    scan s st off (a ++ b) = scan s (scan s st off a) (off + a.length) b := by
  simp [scan, List.enumFrom_append, List.foldl_append]

/-! ## Brace nesting -/

/-- The change of nesting depth a byte causes. -/
def braceDelta (b : UInt8) : Int :=
  if b = lbrace then 1 else if b = rbrace then -1 else 0

/-- Net nesting depth of a byte string. -/
def depth (s : Bytes) : Int := (s.map braceDelta).sum

@[simp] theorem depth_nil : depth [] = 0 := rfl

@[simp] theorem depth_cons (b : UInt8) (s : Bytes) : depth (b :: s) = braceDelta b + depth s := by
  simp [depth]

@[simp] theorem depth_append (a b : Bytes) : depth (a ++ b) = depth a + depth b := by
  simp [depth]

/-- No brace byte. -/
def NoBraces (s : Bytes) : Prop := ∀ b ∈ s, b ≠ lbrace ∧ b ≠ rbrace

instance (s : Bytes) : Decidable (NoBraces s) :=
  inferInstanceAs (Decidable (∀ b ∈ s, b ≠ lbrace ∧ b ≠ rbrace))

theorem NoBraces.append {a b : Bytes} (ha : NoBraces a) (hb : NoBraces b) : NoBraces (a ++ b) := by
  intro x hx
  rcases List.mem_append.mp hx with h | h
  exacts [ha x h, hb x h]

theorem NoBraces.depth_eq {s : Bytes} (h : NoBraces s) : depth s = 0 := by
  induction s with
  | nil => rfl
  | cons b s ih =>
    obtain ⟨h1, h2⟩ := h b (List.mem_cons_self b s)
    simp [braceDelta, h1, h2, ih fun x hx => h x (List.mem_cons_of_mem b hx)]

theorem NoBraces.take {s : Bytes} (h : NoBraces s) (n : Nat) : NoBraces (s.take n) :=
  fun x hx => h x (List.mem_of_mem_take hx)

/-- Byte strings whose braces are all structural: brace-free text (JSON punctuation, keys,
numbers, literals and string values without a brace), concatenations, and `{ … }` around a
nested body. The body of every JSON object whose string values hold no brace is one. -/
inductive Nested : Bytes → Prop
  | text {s : Bytes} : NoBraces s → Nested s
  | append {a b : Bytes} : Nested a → Nested b → Nested (a ++ b)
  | object {s : Bytes} : Nested s → Nested (lbrace :: s ++ [rbrace])

theorem Nested.depth_eq {s : Bytes} (h : Nested s) : depth s = 0 := by
  induction h with
  | text h => exact h.depth_eq
  | append _ _ iha ihb => simp [iha, ihb]
  | object _ ih => simp [ih, braceDelta, lbrace, rbrace]

theorem Nested.depth_take {s : Bytes} (h : Nested s) (n : Nat) : 0 ≤ depth (s.take n) := by
  induction h generalizing n with
  | text h => exact (h.take n).depth_eq.ge
  | @append a b ha _ iha ihb =>
    rw [List.take_append_eq_append_take, depth_append]
    by_cases hn : n ≤ a.length
    · simp [Nat.sub_eq_zero_of_le hn, iha n]
    · rw [List.take_of_length_le (by omega), ha.depth_eq]
      simpa using ihb (n - a.length)
  | @object t ht ih =>
    cases n with
    | zero => simp
    | succ n =>
      rw [List.cons_append, List.take_succ_cons, depth_cons, List.take_append_eq_append_take,
        depth_append]
      by_cases hn : n ≤ t.length
      · simp [Nat.sub_eq_zero_of_le hn, braceDelta, lbrace]
        linarith [ih n]
      · rw [List.take_of_length_le (by omega), ht.depth_eq]
        cases h : n - t.length <;> simp [braceDelta, lbrace, rbrace]

/-! ## The loop over the parts of a file -/

theorem scan_noBraces (s : Bytes) (st : Scan) (off : Nat) {seg : Bytes} (h : NoBraces seg) :
    scan s st off seg = st := by
  induction seg generalizing st off with
  | nil => rfl
  | cons b l ih =>
    obtain ⟨h1, h2⟩ := h b (List.mem_cons_self b l)
    rw [scan_cons, show scanStep s st (off, b) = st by simp [scanStep, h1, h2]]
    exact ih st (off + 1) fun x hx => h x (List.mem_cons_of_mem b hx)

theorem scan_body (s : Bytes) (st : Scan) (off : Nat) {body : Bytes}
    (h : ∀ n, 2 ≤ st.indentation + depth (body.take n)) :
    scan s st off body = { st with indentation := st.indentation + depth body } := by
  induction body generalizing st off with
  | nil => simp
  | cons b l ih =>
    have h0 : 2 ≤ st.indentation := by simpa using h 0
    have h1 : 2 ≤ st.indentation + braceDelta b := by simpa using h 1
    have hstep : scanStep s st (off, b) = { st with indentation := st.indentation + braceDelta b } := by
      by_cases hl : b = lbrace
      · subst hl
        simp [scanStep, braceDelta, show st.indentation ≠ 1 by omega]
      · by_cases hr : b = rbrace
        · subst hr
          have hd : braceDelta rbrace = -1 := by simp [braceDelta]
          have : ¬(st.indentation - 1 = 1 ∧ off < s.length - 1) := by rw [hd] at h1; omega
          simp only [scanStep, hl, if_false, if_true]
          rw [if_neg this, hd, sub_eq_add_neg]
        · simp [scanStep, braceDelta, hl, hr]
    rw [scan_cons, hstep, ih]
    · simp [add_assoc]
    · intro n
      simpa [add_assoc] using h (n + 1)

theorem scan_object (s : Bytes) (st : Scan) (off : Nat) {t rest : Bytes} (ht : Nested t)
    (hst : st.indentation = 1) (hs : s.drop off = lbrace :: t ++ [rbrace] ++ rest)
    (hrest : rest ≠ []) :
    scan s st off (lbrace :: t ++ [rbrace]) =
      ⟨1, off, st.res ++ [lbrace :: t ++ [rbrace]]⟩ := by
  have hlen : off + (t.length + 2) < s.length := by
    have := congrArg List.length hs
    have := List.length_pos.mpr hrest
    simp at *; omega
  have hopen : scanStep s st (off, lbrace) = ⟨2, off, st.res⟩ := by
    simp [scanStep, hst]
  have hbody : scan s ⟨2, off, st.res⟩ (off + 1) t = ⟨2, off, st.res⟩ := by
    rw [scan_body s _ _ fun n => by simpa using ht.depth_take n, ht.depth_eq]; rfl
  rw [List.cons_append, scan_cons, hopen, scan_append, hbody]
  have hentry : (s.drop off).take (off + 1 + t.length + 1 - off) = lbrace :: t ++ [rbrace] := by
    rw [hs, List.take_left' (by simp; omega)]
  simp [scan, scanStep, rbrace, lbrace, hentry, show off + 1 + t.length < s.length - 1 by omega]

/-- A segment made of brace-free gaps and records, in that alternation. -/
inductive Interleaved : Bytes → List Bytes → Prop
  | gap {g : Bytes} : NoBraces g → Interleaved g []
  | record {g t x : Bytes} {os : List Bytes} : NoBraces g → Nested t → Interleaved x os →
      Interleaved (g ++ (lbrace :: t ++ [rbrace]) ++ x) ((lbrace :: t ++ [rbrace]) :: os)

theorem Interleaved.prepend {g x : Bytes} {os : List Bytes} (hg : NoBraces g)
    (h : Interleaved x os) : Interleaved (g ++ x) os := by
  cases h with
  | gap h => exact .gap (hg.append h)
  | record h1 h2 h3 => simpa [List.append_assoc] using Interleaved.record (hg.append h1) h2 h3

theorem Interleaved.append {g x : Bytes} {os : List Bytes} (hg : NoBraces g)
    (h : Interleaved x os) : Interleaved (x ++ g) os := by
  induction h with
  | gap h => exact .gap (h.append hg)
  | record h1 h2 _ ih => simpa [List.append_assoc] using Interleaved.record h1 h2 ih

theorem scan_interleaved (s : Bytes) (st : Scan) (off : Nat) {x : Bytes} {os : List Bytes}
    (h : Interleaved x os) (hst : st.indentation = 1) {rest : Bytes}
    (hs : s.drop off = x ++ rest) (hrest : rest ≠ []) :
    (scan s st off x).indentation = 1 ∧ (scan s st off x).res = st.res ++ os := by
  induction h generalizing st off with
  | gap h => simp [scan_noBraces s st off h, hst]
  | @record g t x os hg ht _ ih =>
    have hdrop : s.drop (off + g.length) = lbrace :: t ++ [rbrace] ++ (x ++ rest) := by
      rw [← List.drop_drop, hs]; simp
    rw [scan_append, scan_append, scan_noBraces s st off hg,
      scan_object s st _ ht hst hdrop (by simp [hrest])]
    have := ih ⟨1, off + g.length, st.res ++ [lbrace :: t ++ [rbrace]]⟩
      (off + (g ++ (lbrace :: t ++ [rbrace])).length) rfl
      (by rw [List.length_append, ← Nat.add_assoc, ← List.drop_drop, hdrop]; simp)
    simpa using this

theorem extractRecordStrings_interleaved {lead x trail : Bytes} {os : List Bytes}
    (hlead : NoBraces lead) (h : Interleaved x os) (htrail : NoBraces trail) (res : List Bytes) :
    extractRecordStrings (lead ++ lbrace :: x ++ rbrace :: trail) res = res ++ os := by
  obtain ⟨s, hsdef⟩ : ∃ s, s = lead ++ lbrace :: x ++ rbrace :: trail := ⟨_, rfl⟩
  have hopen : scan s ⟨0, 0, res⟩ 0 (lead ++ [lbrace]) = ⟨1, 0, res⟩ := by
    rw [scan_append, scan_noBraces s _ 0 hlead]
    simp [scan, scanStep]
  have hs : s.drop (0 + (lead ++ [lbrace]).length) = x ++ rbrace :: trail := by simp [hsdef]
  obtain ⟨h1, h2⟩ := scan_interleaved s ⟨1, 0, res⟩ _ h rfl hs (by simp)
  rw [← hsdef, extractRecordStrings_eq_scan]
  nth_rewrite 2 [show s = (lead ++ [lbrace]) ++ x ++ ([rbrace] ++ trail) by simp [hsdef]]
  rw [scan_append s _ _ (lead ++ [lbrace] ++ x), scan_append s _ _ (lead ++ [lbrace]) x, hopen,
    scan_append s _ _ [rbrace] trail, scan_noBraces _ _ _ htrail]
  generalize scan s ⟨1, 0, res⟩ _ x = st at h1 h2
  simp [scan, scanStep, h1, h2]

/-! ## CloudTrail files -/

/-- JSON whitespace: space, tab, line feed, carriage return. -/
def IsWhitespace (w : Bytes) : Prop := ∀ b ∈ w, b = 32 ∨ b = 9 ∨ b = 10 ∨ b = 13

instance (w : Bytes) : Decidable (IsWhitespace w) :=
  inferInstanceAs (Decidable (∀ b ∈ w, b = 32 ∨ b = 9 ∨ b = 10 ∨ b = 13))

/-- A JSON object whose braces are all structural: `{`, a nested body, `}`. -/
def BraceObject (o : Bytes) : Prop := ∃ t, Nested t ∧ o = lbrace :: t ++ [rbrace]

/-- The members `a₁ o₁ b₁ , a₂ o₂ b₂ , …` of a JSON array, each with the whitespace runs
before and after it. -/
def members : List (Bytes × Bytes × Bytes) → Bytes
  | [] => []
  | [(a, o, b)] => a ++ o ++ b
  | (a, o, b) :: rest => a ++ o ++ b ++ ascii "," ++ members rest

/-- `{"Records":[o₁,…,oₖ]}`, with the whitespace runs `w 0`, …, `w 6` around its other
tokens. -/
def recordsFile (w : Fin 7 → Bytes) (items : List (Bytes × Bytes × Bytes)) : Bytes :=
  w 0 ++ lbrace :: (w 1 ++ ascii "\"Records\"" ++ w 2 ++ ascii ":" ++ w 3 ++ ascii "[" ++
    members items ++ w 4 ++ ascii "]" ++ w 5) ++ rbrace :: w 6

theorem IsWhitespace.noBraces {w : Bytes} (h : IsWhitespace w) : NoBraces w := by
  intro b hb
  rcases h b hb with rfl | rfl | rfl | rfl <;> decide

theorem members_interleaved {items : List (Bytes × Bytes × Bytes)}
    (h : ∀ x ∈ items, IsWhitespace x.1 ∧ IsWhitespace x.2.2 ∧ BraceObject x.2.1) :
    Interleaved (members items) (items.map (·.2.1)) := by
  induction items using members.induct with
  | case1 => exact .gap (by decide)
  | case2 a o b =>
    obtain ⟨ha, hb, t, ht, rfl⟩ := h _ (List.mem_singleton_self _)
    simpa [members] using Interleaved.record ha.noBraces ht (.gap hb.noBraces)
  | case3 a o b rest _ ih =>
    obtain ⟨ha, hb, t, ht, rfl⟩ := h _ (List.mem_cons_self _ _)
    have hrest := (ih fun x hx => h x (List.mem_cons_of_mem _ hx)).prepend
      (hb.noBraces.append (show NoBraces (ascii ",") by decide))
    simpa [members, List.append_assoc] using Interleaved.record ha.noBraces ht hrest

/-- On a CloudTrail file whose records have only structural braces, the splitter appends
exactly the records, byte for byte and in order, and keeps the entries already in `res`. -/
theorem extractRecordStrings_recordsFile (w : Fin 7 → Bytes) (hw : ∀ i, IsWhitespace (w i))
    (items : List (Bytes × Bytes × Bytes))
    (hitems : ∀ x ∈ items, IsWhitespace x.1 ∧ IsWhitespace x.2.2 ∧ BraceObject x.2.1)
    (res : List Bytes) :
    extractRecordStrings (recordsFile w items) res = res ++ items.map (·.2.1) := by
  have hnb : ∀ i, NoBraces (w i) := fun i => (hw i).noBraces
  have hx := (((((members_interleaved hitems).prepend
    ((((((hnb 1).append (show NoBraces (ascii "\"Records\"") by decide)).append (hnb 2)).append
      (show NoBraces (ascii ":") by decide)).append (hnb 3)).append
      (show NoBraces (ascii "[") by decide))).append (hnb 4)).append
      (show NoBraces (ascii "]") by decide)).append (hnb 5))
  exact extractRecordStrings_interleaved (hnb 0) hx (hnb 6) res

/-- Two records, the second with a nested object, separated by a space. -/
def nestedItems : List (Bytes × Bytes × Bytes) :=
  [([], lbrace :: ascii "\"a\":1" ++ [rbrace], []),
    (ascii " ", lbrace :: (ascii "\"b\":" ++ (lbrace :: ascii "\"c\":2" ++ [rbrace])) ++ [rbrace], [])]

theorem extractRecordStrings_nestedItems :
    (∀ i : Fin 7, IsWhitespace ((fun _ => []) i)) ∧
    (∀ x ∈ nestedItems, IsWhitespace x.1 ∧ IsWhitespace x.2.2 ∧ BraceObject x.2.1) ∧
    extractRecordStrings (recordsFile (fun _ => []) nestedItems) [] =
      [] ++ nestedItems.map (·.2.1) := by
  have hw : ∀ i : Fin 7, IsWhitespace ((fun _ => ([] : Bytes)) i) := fun _ _ => nofun
  have hitems : ∀ x ∈ nestedItems, IsWhitespace x.1 ∧ IsWhitespace x.2.2 ∧ BraceObject x.2.1 := by
    simp only [nestedItems, List.mem_cons, List.mem_singleton, List.not_mem_nil, or_false]
    rintro x (rfl | rfl)
    · exact ⟨nofun, nofun, _, .text (by decide), rfl⟩
    · exact ⟨by decide, nofun, _, .append (.text (by decide)) (.object (.text (by decide))), rfl⟩
  exact ⟨hw, hitems, extractRecordStrings_recordsFile _ hw _ hitems []⟩

/-- `{"Records":[{"a":"}"}]}`: the `}` inside the string value closes the record early, so the
one record of the file is not the one appended. -/
theorem extractRecordStrings_brace_in_string :
    extractRecordStrings (recordsFile (fun _ => [])
      [([], lbrace :: ascii "\"a\":\"" ++ rbrace :: ascii "\"" ++ [rbrace], [])]) [] =
      [lbrace :: ascii "\"a\":\"" ++ [rbrace]] ∧
    [lbrace :: ascii "\"a\":\"" ++ [rbrace]] ≠
      [lbrace :: ascii "\"a\":\"" ++ rbrace :: ascii "\"" ++ [rbrace]] := by
  decide

/-! ## Any input -/

/-- `y₁ { y₂ { … yₖ {`: the text before each brace still open. -/
def frames (ys : List Bytes) : Bytes := (ys.map (· ++ [lbrace])).flatten

@[simp] theorem frames_nil : frames [] = [] := rfl

theorem frames_append (ys zs : List Bytes) : frames (ys ++ zs) = frames ys ++ frames zs := by
  simp [frames]

theorem frames_singleton (y : Bytes) : frames [y] = y ++ [lbrace] := by simp [frames]

theorem depth_frames {ys : List Bytes} (h : ∀ y ∈ ys, Nested y) : depth (frames ys) = ys.length := by
  induction ys with
  | nil => rfl
  | cons y ys ih =>
    rw [show y :: ys = [y] ++ ys from rfl, frames_append, depth_append, frames_singleton,
      depth_append, (h y (.head _)).depth_eq, ih fun z hz => h z (.tail _ hz)]
    simp [braceDelta, lbrace]; ring

theorem take_prefix_of_snoc {t : Bytes} {b : UInt8} (h : ∀ n, 0 ≤ depth ((t ++ [b]).take n)) (n : Nat) :
    0 ≤ depth (t.take n) := by
  by_cases hn : n ≤ t.length
  · simpa [List.take_append_of_le_length hn] using h n
  · simpa [List.take_of_length_le (show t.length ≤ n by omega),
      List.take_append_of_le_length (le_refl t.length)] using h t.length

theorem frames_of_prefix_depth (t : Bytes) (h : ∀ n, 0 ≤ depth (t.take n)) :
    ∃ ys c, (∀ y ∈ ys, Nested y) ∧ Nested c ∧ t = frames ys ++ c := by
  induction t using List.reverseRecOn with
  | nil => exact ⟨[], [], nofun, .text nofun, rfl⟩
  | append_singleton t b ih =>
    obtain ⟨ys, c, hys, hc, rfl⟩ := ih (take_prefix_of_snoc h)
    by_cases hl : b = lbrace
    · subst hl
      refine ⟨ys ++ [c], [], ?_, .text nofun, by simp [frames_append, frames_singleton]⟩
      intro y hy
      rcases List.mem_append.mp hy with hy | hy
      exacts [hys y hy, (List.mem_singleton.mp hy) ▸ hc]
    by_cases hr : b = rbrace
    · subst hr
      have hd := h (frames ys ++ c ++ [rbrace]).length
      rw [List.take_length, depth_append, depth_append, depth_frames hys, hc.depth_eq] at hd
      obtain ⟨zs, y, rfl⟩ : ∃ zs y, ys = zs ++ [y] := by
        rcases List.eq_nil_or_concat ys with rfl | ⟨zs, y, rfl⟩
        · simp [braceDelta, rbrace, lbrace] at hd
        · exact ⟨zs, y, List.concat_eq_append zs y⟩
      refine ⟨zs, y ++ (lbrace :: c ++ [rbrace]), fun z hz => hys z (List.mem_append_left _ hz),
        .append (hys y (List.mem_append_right _ (.head _))) (.object hc), ?_⟩
      simp [frames_append, frames_singleton]
    · exact ⟨ys, c ++ [b], hys, .append hc (.text (by simp [NoBraces, hl, hr])), by simp⟩

theorem nested_of_prefix_depth {t : Bytes} (h0 : depth t = 0) (h : ∀ n, 0 ≤ depth (t.take n)) :
    Nested t := by
  obtain ⟨ys, c, hys, hc, rfl⟩ := frames_of_prefix_depth t h
  rw [depth_append, depth_frames hys, hc.depth_eq] at h0
  rw [List.eq_nil_of_length_eq_zero (by omega : ys.length = 0)]
  simpa using hc

/-- `es` are, in order, slices of a byte string that do not overlap:
`g₀ ++ e₁ ++ g₁ ++ … ++ eₖ ++ gₖ`. -/
inductive Slices : Bytes → List Bytes → Prop
  | gap (g : Bytes) : Slices g []
  | slice {x : Bytes} {es : List Bytes} (e g : Bytes) : Slices x es → Slices (x ++ e ++ g) (es ++ [e])

theorem Slices.extend {x : Bytes} {es : List Bytes} (h : Slices x es) (g : Bytes) :
    Slices (x ++ g) es := by
  cases h with
  | gap => exact .gap _
  | slice e g' h => simpa [List.append_assoc] using Slices.slice e (g' ++ g) h

/-- The `{` at `i` of `s` opened depth 2, and the depth stayed at 2 or more up to `p`. -/
def OpenedAt (s : Bytes) (p i : Nat) : Prop :=
  i < p ∧ s[i]? = some lbrace ∧ depth (s.take i) = 1 ∧ ∀ m, i < m → m ≤ p → 2 ≤ depth (s.take m)

/-- What the loop has established after the first `p` bytes of `s`: the counter is their brace
depth; the entries appended to `res₀` are, in order, slices of the first `q ≤ p` bytes, with the
last byte of `s` in none, each a brace object; and at depth 2 or more `entryStart` is a `{` after
them that opened depth 2. -/
def SplitInv (s : Bytes) (res₀ : List Bytes) (p : Nat) (st : Scan) : Prop :=
  st.indentation = depth (s.take p) ∧ ∃ q es, st.res = res₀ ++ es ∧ Slices (s.take q) es ∧
    (∀ e ∈ es, BraceObject e) ∧ q ≤ p ∧ q ≤ s.length - 1 ∧
    (2 ≤ st.indentation → q ≤ st.entryStart ∧ OpenedAt s p st.entryStart)

theorem depth_take_add (s : Bytes) (a n : Nat) :
    depth (s.take (a + n)) = depth (s.take a) + depth ((s.drop a).take n) := by
  rw [List.take_add, depth_append]

theorem OpenedAt.extend {s : Bytes} {p i : Nat} (h : OpenedAt s p i)
    (hd : 2 ≤ depth (s.take (p + 1))) : OpenedAt s (p + 1) i := by
  obtain ⟨hip, hi, hd1, hge⟩ := h
  refine ⟨by omega, hi, hd1, fun m h1 h2 => ?_⟩
  rcases Nat.lt_or_ge m (p + 1) with hm | hm
  · exact hge m h1 (by omega)
  · rwa [show m = p + 1 by omega]

theorem braceObject_of_openedAt {s : Bytes} {p i : Nat} (ho : OpenedAt s p i) (hp : p < s.length)
    (hr : s[p] = rbrace) (hd : depth (s.take p) = 2) :
    BraceObject ((s.drop i).take (p + 1 - i)) := by
  obtain ⟨hip, hi, hd1, hge⟩ := ho
  have hil : i < s.length := by omega
  have hsi : s[i] = lbrace := by rw [List.getElem?_eq_getElem hil] at hi; exact Option.some.inj hi
  -- the body between the braces
  obtain ⟨t, ht⟩ : ∃ t, t = (s.drop (i + 1)).take (p - (i + 1)) := ⟨_, rfl⟩
  have hdi : depth (s.take (i + 1)) = 2 := by
    rw [List.take_succ, List.getElem?_eq_getElem hil, Option.toList_some, depth_append, hd1, hsi]
    simp [braceDelta, lbrace]
  have hdt : depth t = 0 := by
    have := depth_take_add s (i + 1) (p - (i + 1))
    rw [Nat.add_sub_cancel' (by omega), hd, hdi, ← ht] at this
    omega
  have hpre : ∀ n, 0 ≤ depth (t.take n) := by
    intro n
    by_cases hn : n ≤ p - (i + 1)
    · have := depth_take_add s (i + 1) n
      rw [hdi] at this
      rw [ht, List.take_take, min_eq_left hn]
      have := hge (i + 1 + n) (by omega) (by omega)
      omega
    · have hlen : t.length ≤ n := by
        rw [ht, List.length_take]; exact inf_le_left.trans (Nat.le_of_lt (Nat.lt_of_not_le hn))
      rw [List.take_of_length_le hlen, hdt]
  refine ⟨t, nested_of_prefix_depth hdt hpre, ?_⟩
  rw [List.drop_eq_getElem_cons hil, hsi, show p + 1 - i = (p - (i + 1)) + 1 + 1 by omega,
    List.take_succ_cons, List.take_succ, List.getElem?_drop,
    show i + 1 + (p - (i + 1)) = p by omega, List.getElem?_eq_getElem hp, hr, ht]
  rfl

theorem SplitInv.step {s : Bytes} {res₀ : List Bytes} {p : Nat} {st : Scan}
    (h : SplitInv s res₀ p st) (hp : p < s.length) :
    SplitInv s res₀ (p + 1) (scanStep s st (p, s[p])) := by
  obtain ⟨hd, q, es, hres, hsl, hobj, hqp, hql, hopen⟩ := h
  have hdepth : depth (s.take (p + 1)) = st.indentation + braceDelta s[p] := by
    rw [List.take_succ, List.getElem?_eq_getElem hp, Option.toList_some, depth_append, hd]; simp
  by_cases hl : s[p] = lbrace
  · have hd' : depth (s.take (p + 1)) = st.indentation + 1 := by rw [hdepth, hl]; simp [braceDelta]
    simp only [scanStep, hl, if_true]
    refine ⟨hd'.symm, q, es, hres, hsl, hobj, by omega, hql, fun h2 => ?_⟩
    dsimp only at h2 ⊢
    split_ifs with h1
    · -- this `{` opens depth 2
      refine ⟨hqp, by omega, by rw [List.getElem?_eq_getElem hp, hl], by rw [← hd, h1],
        fun m hm1 hm2 => ?_⟩
      rw [show m = p + 1 by omega, hd', h1]; norm_num
    · obtain ⟨hq, ho⟩ := hopen (by omega)
      exact ⟨hq, ho.extend (by omega)⟩
  by_cases hr : s[p] = rbrace
  · have hd' : depth (s.take (p + 1)) = st.indentation - 1 := by
      rw [hdepth, hr]; simp [braceDelta, rbrace_ne_lbrace]; ring
    simp only [scanStep, hr, rbrace_ne_lbrace, if_false, if_true]
    split_ifs with hemit
    · -- this `}` closes depth 2 before the last byte: the entry from `entryStart` is appended
      obtain ⟨hq, ho⟩ := hopen (by omega)
      have hi := ho.1
      refine ⟨hd'.symm, p + 1, es ++ [(s.drop st.entryStart).take (p + 1 - st.entryStart)],
        by rw [hres, List.append_assoc], ?_, ?_, le_rfl, by omega, fun h2 => by dsimp only at h2; omega⟩
      · have h1 : s.take st.entryStart = s.take q ++ (s.drop q).take (st.entryStart - q) := by
          rw [← List.take_add, Nat.add_sub_cancel' hq]
        have h2 : s.take (p + 1) = s.take st.entryStart ++
            (s.drop st.entryStart).take (p + 1 - st.entryStart) := by
          rw [← List.take_add, Nat.add_sub_cancel' (by omega)]
        have := Slices.slice ((s.drop st.entryStart).take (p + 1 - st.entryStart)) []
          (hsl.extend ((s.drop q).take (st.entryStart - q)))
        rwa [List.append_nil, ← h1, ← h2] at this
      · intro e he
        rcases List.mem_append.mp he with he | he
        · exact hobj e he
        · rw [List.mem_singleton.mp he]
          exact braceObject_of_openedAt ho hp hr (by rw [← hd]; omega)
    · refine ⟨hd'.symm, q, es, hres, hsl, hobj, by omega, hql, fun h2 => ?_⟩
      dsimp only at h2 ⊢
      obtain ⟨hq, ho⟩ := hopen (by omega)
      exact ⟨hq, ho.extend (by omega)⟩
  · have hd' : depth (s.take (p + 1)) = st.indentation := by
      rw [hdepth]; simp [braceDelta, hl, hr]
    simp only [scanStep, hl, hr, if_false]
    refine ⟨hd'.symm, q, es, hres, hsl, hobj, by omega, hql, fun h2 => ?_⟩
    obtain ⟨hq, ho⟩ := hopen h2
    exact ⟨hq, ho.extend (by omega)⟩

theorem scan_take_succ (s : Bytes) (st : Scan) {p : Nat} (hp : p < s.length) :
    scan s st 0 (s.take (p + 1)) = scanStep s (scan s st 0 (s.take p)) (p, s[p]) := by
  rw [List.take_succ, List.getElem?_eq_getElem hp, Option.toList_some, scan_append,
    List.length_take, min_eq_left hp.le, Nat.zero_add]
  rfl

theorem splitInv_scan (s : Bytes) (res₀ : List Bytes) :
    ∀ p ≤ s.length, SplitInv s res₀ p (scan s ⟨0, 0, res₀⟩ 0 (s.take p))
  | 0, _ => ⟨by simp, 0, [], by simp, .gap _, nofun, le_rfl, Nat.zero_le _, fun h => by simp at h⟩
  | p + 1, hp => by
    rw [scan_take_succ s _ (by omega)]
    exact (splitInv_scan s res₀ p (by omega)).step (by omega)

theorem mem_extractRecordStrings {s e : Bytes} (h : e ∈ extractRecordStrings s []) :
    BraceObject e := by
  obtain ⟨-, q, es, hres, -, hobj, -⟩ := splitInv_scan s [] s.length le_rfl
  rw [List.take_length] at hres
  rw [extractRecordStrings_eq_scan, hres, List.nil_append] at h
  exact hobj e h

/-- Whatever bytes a file holds, the splitter appends entries that are, in order, slices of the
file without its last byte that do not overlap, each a `{ … }` whose braces balance. -/
theorem extractRecordStrings_slices (s : Bytes) (res : List Bytes) :
    ∃ es, extractRecordStrings s res = res ++ es ∧ Slices s.dropLast es ∧
      ∀ e ∈ es, BraceObject e := by
  obtain ⟨-, q, es, hres, hsl, hobj, -, hql, -⟩ := splitInv_scan s res s.length le_rfl
  rw [List.take_length] at hres
  refine ⟨es, by rw [extractRecordStrings_eq_scan, hres], ?_, hobj⟩
  rw [List.dropLast_eq_take, ← Nat.add_sub_cancel' hql, List.take_add]
  exact hsl.extend _

end CloudTrail
