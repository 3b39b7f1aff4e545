import CloudTrail.OpenS3

/-! The listing roots and the region cursors `openS3` derives from the prefix and the interval. -/
namespace CloudTrail

/-! ## The order of runes -/

@[simp] theorem toList_append_str (s t : String) : (s ++ t).toList = s.toList ++ t.toList := rfl

theorem runesLess_append_left (u x y : List Char) :
    runesLess (u ++ x) (u ++ y) = runesLess x y := by
  induction u with
  | nil => rfl
  | cons c u ih => simp [runesLess, ih]

theorem runesLess_append_nonempty (u : List Char) {y : List Char} (hy : y ≠ []) :
    runesLess u (u ++ y) = true := by
  induction u with
  | nil => cases y with
    | nil => exact absurd rfl hy
    | cons => rfl
  | cons c u ih => simp [runesLess, ih]

theorem runesLess_block {u v : List Char} (x y : List Char) (hl : u.length = v.length)
    (hne : u ≠ v) : runesLess (u ++ x) (v ++ y) = runesLess u v := by
  induction u generalizing v with
  | nil => cases v with
    | nil => exact absurd rfl hne
    | cons => simp at hl
  | cons c u ih =>
    cases v with
    | nil => simp at hl
    | cons d v =>
      simp only [List.cons_append, runesLess]
      split
      · subst_vars
        exact ih (by simpa using hl) (fun h => hne (h ▸ rfl))
      · rfl

theorem runesLess_total {u v : List Char} (hl : u.length = v.length) (hne : u ≠ v)
    (h : runesLess u v = false) : runesLess v u = true := by
  induction u generalizing v with
  | nil => cases v with
    | nil => exact absurd rfl hne
    | cons => simp at hl
  | cons c u ih =>
    cases v with
    | nil => simp at hl
    | cons d v =>
      by_cases hcd : c = d
      · subst hcd
        simp only [runesLess, if_true] at h ⊢
        exact ih (by simpa using hl) (fun h' => hne (h' ▸ rfl)) h
      · simp only [runesLess, if_neg hcd, if_neg (Ne.symm hcd), decide_eq_true_eq,
          decide_eq_false_iff_not] at h ⊢
        exact lt_of_le_of_ne (not_lt.mp h) (Ne.symm hcd)

theorem runesLess_of_block {u v : List Char} (hl : u.length = v.length) {x y z w : List Char}
    (hk : runesLess (v ++ x) (u ++ y) = false)
    (hrest : u = v → runesLess x y = false → runesLess z w = true) :
    runesLess (u ++ z) (v ++ w) = true := by
  by_cases h : u = v
  · subst h
    rw [runesLess_append_left] at hk ⊢
    exact hrest rfl hk
  · rw [runesLess_block _ _ hl h]
    rw [runesLess_block _ _ hl.symm (Ne.symm h)] at hk
    exact runesLess_total hl.symm (Ne.symm h) hk

/-! ## Dates as `Format` writes them -/

theorem length_pad {w n : Nat} (hw : 0 < w) (h : n < 10 ^ w) : (pad w n).toList.length = w := by
  have : (Nat.toDigits 10 n).length ≤ w := Nat.toDigitsCore_length 10 (by decide) (n + 1) n w h hw
  show (List.replicate (w - (Nat.toDigits 10 n).length) '0' ++ Nat.toDigits 10 n).length = w
  rw [List.length_append, List.length_replicate]
  omega

theorem formatDay_lt_key (start : GoTime) (hy : start.year < 10000) (hm : start.month < 100)
    (hd : start.day < 100) (P : String) {Y M D hhmm N : String} (hY : Y.length = 4)
    (hM : M.length = 2) (hD : D.length = 2) (hN : N ≠ "")
    (hkeep : goLess (Y ++ M ++ D ++ "T" ++ hhmm) start.formatTS = false) :
    goLess (P ++ start.formatDay) (P ++ Y ++ "/" ++ M ++ "/" ++ D ++ "/" ++ N) = true := by
  have hN' : N.toList ≠ [] := fun h => hN (String.ext_iff.mpr h)
  simp only [goLess, GoTime.formatDay, GoTime.formatTS, toList_append_str, List.append_assoc,
    runesLess_append_left] at hkeep ⊢
  refine runesLess_of_block (by rw [length_pad (by decide) (by omega)]; exact hY.symm) hkeep
    fun _ hk => ?_
  rw [runesLess_append_left]
  refine runesLess_of_block (by rw [length_pad (by decide) (by omega)]; exact hM.symm) hk
    fun _ hk => ?_
  rw [runesLess_append_left]
  refine runesLess_of_block (by rw [length_pad (by decide) (by omega)]; exact hD.symm) hk
    fun _ _ => runesLess_append_nonempty _ hN'

/-! ## The account list -/

theorem listingRoots_org (env : Env) {bucket pfx accounts : String}
    (h1 : awsLogsRE.MatchString pfx = false) (h2 : awsLogsOrgRE.MatchString pfx = true)
    (ha : accounts ≠ "") :
    listingRoots env bucket pfx accounts =
      .ok ((splitComma accounts).map fun a => withSlash pfx ++ trimSpace a ++ "/CloudTrail/") := by
  have hs : ¬(splitComma accounts).length ≤ 0 := by
    simp [splitComma, List.splitOn, List.splitOnP_ne_nil]
  simp only [listingRoots, h1, h2, Bool.false_eq_true, if_false, if_true, ha, ne_eq,
    not_false_eq_true, hs]

/-- `n` spaces. -/
def spaces (n : Nat) : String := String.mk (List.replicate n ' ')

@[simp] theorem toList_spaces (n : Nat) : (spaces n).toList = List.replicate n ' ' := rfl

theorem isSpace_of_isDigit {c : Char} (h : isDigit c = true) : isSpace c = false := by
  have hv : 48 ≤ c.val.toNat ∧ c.val.toNat ≤ 57 := by
    simp only [isDigit, Bool.and_eq_true, decide_eq_true_eq] at h
    exact ⟨h.1, h.2⟩
  have hne : ∀ d : Char, (d.val.toNat < 48 ∨ 57 < d.val.toNat) → c ≠ d := by
    rintro d hd rfl; omega
  unfold isSpace
  simp only [Bool.or_eq_false_iff, decide_eq_false_iff_not, Bool.and_eq_false_imp,
    decide_eq_true_eq]
  repeat' constructor
  all_goals first
    | exact hne _ (by decide)
    | exact fun h' => absurd (show 8192 ≤ c.val.toNat from h') (by omega)

theorem isSpace_of_mem_replicate {n : Nat} {x : Char} (h : x ∈ List.replicate n ' ') :
    isSpace x = true := by
  rw [List.eq_of_mem_replicate h]; rfl

theorem trimSpace_spaces (k j : Nat) {a : String} (ha : a ≠ "")
    (hd : ∀ c ∈ a.toList, isDigit c = true) : trimSpace (spaces k ++ a ++ spaces j) = a := by
  have hsp : ∀ x ∈ a.toList, ¬isSpace x = true := fun x hx => by
    rw [isSpace_of_isDigit (hd x hx)]; decide
  -- `a` neither starts nor ends with a space
  have hfront : ∀ r, (a.toList ++ r).dropWhile isSpace = a.toList ++ r := by
    intro r
    match h : a.toList with
    | [] => exact absurd (String.ext_iff.mpr h) ha
    | c :: cs => exact List.dropWhile_cons_of_neg (hsp c (h ▸ List.mem_cons_self c cs))
  have hback : a.toList.reverse.dropWhile isSpace = a.toList.reverse := by
    match h : a.toList.reverse with
    | [] => exact absurd (String.ext_iff.mpr (List.reverse_eq_nil_iff.mp h)) ha
    | d :: ds =>
      exact List.dropWhile_cons_of_neg (hsp d (List.mem_reverse.mp (h ▸ List.mem_cons_self d ds)))
  simp only [trimSpace, toList_append_str, toList_spaces]
  rw [List.append_assoc, List.dropWhile_append_of_pos fun _ => isSpace_of_mem_replicate, hfront,
    List.reverse_append, List.reverse_replicate,
    List.dropWhile_append_of_pos fun _ => isSpace_of_mem_replicate, hback, List.reverse_reverse]
  rfl

theorem toList_intercalate_go (acc s : String) (l : List String) :
    (String.intercalate.go acc s l).toList =
      acc.toList ++ (l.map fun a => s.toList ++ a.toList).flatten := by
  induction l generalizing acc with
  | nil => simp [String.intercalate.go]
  | cons a l ih =>
    rw [String.intercalate.go, ih]
    simp only [toList_append_str, List.map_cons, List.flatten_cons, List.append_assoc]

theorem splitOn_comma_flatten (acc : List Char) (l : List String) (hacc : ',' ∉ acc)
    (hl : ∀ b ∈ l, ',' ∉ b.toList) :
    (acc ++ (l.map fun b => ",".toList ++ b.toList).flatten).splitOn ',' =
      acc :: l.map String.toList := by
  have hno : ∀ xs : List Char, ',' ∉ xs → ∀ x ∈ xs, ¬(x == ',') = true := fun xs h x hx hx' =>
    h (beq_iff_eq.mp hx' ▸ hx)
  induction l generalizing acc with
  | nil => simpa [List.splitOn] using List.splitOnP_eq_single _ _ (hno acc hacc)
  | cons b l ih =>
    rw [List.map_cons, List.flatten_cons, show ",".toList ++ b.toList = ',' :: b.toList from rfl,
      List.cons_append]
    simp only [List.splitOn]
    rw [List.splitOnP_first _ _ (hno acc hacc) ',' (by simp)]
    exact congrArg _ (ih _ (hl b (.head _)) fun c hc => hl c (.tail _ hc))

theorem splitComma_intercalate {a : String} {l : List String} (ha : ',' ∉ a.toList)
    (hl : ∀ b ∈ l, ',' ∉ b.toList) : splitComma (",".intercalate (a :: l)) = a :: l := by
  simp only [splitComma, String.intercalate, toList_intercalate_go]
  rw [splitOn_comma_flatten _ _ ha hl]
  simp [Function.comp_def]

/-- Under an organization-trail prefix, a list of ids of digits joined by commas, with any
spaces around each id, gives one root per id, in the order written. -/
theorem listingRoots_account_ids (env : Env) {bucket pfx : String}
    (h1 : awsLogsRE.MatchString pfx = false) (h2 : awsLogsOrgRE.MatchString pfx = true)
    (ids : List (Nat × String × Nat)) (hne : ids ≠ [])
    (hd : ∀ w ∈ ids, w.2.1 ≠ "" ∧ ∀ c ∈ w.2.1.toList, isDigit c = true) :
    listingRoots env bucket pfx
        (",".intercalate (ids.map fun w => spaces w.1 ++ w.2.1 ++ spaces w.2.2)) =
      .ok (ids.map fun w => withSlash pfx ++ w.2.1 ++ "/CloudTrail/") := by
  obtain ⟨w, ws, rfl⟩ := List.exists_cons_of_ne_nil hne
  have hcomma : ∀ v ∈ w :: ws, ',' ∉ (spaces v.1 ++ v.2.1 ++ spaces v.2.2).toList := by
    intro v hv h
    simp only [toList_append_str, toList_spaces, List.mem_append, List.mem_replicate] at h
    rcases h with (h | h) | h
    · exact absurd h.2 (by decide)
    · exact absurd (hd v hv).2 fun hdig => absurd (hdig ',' h) (by decide)
    · exact absurd h.2 (by decide)
  have hsplit : splitComma (",".intercalate ((w :: ws).map fun v =>
      spaces v.1 ++ v.2.1 ++ spaces v.2.2)) = (w :: ws).map fun v =>
      spaces v.1 ++ v.2.1 ++ spaces v.2.2 :=
    splitComma_intercalate (hcomma w (.head _)) fun b hb => by
      obtain ⟨v, hv, rfl⟩ := List.mem_map.mp hb
      exact hcomma v (.tail _ hv)
  -- the joined list starts with the first id, which is not empty
  have hnonempty : ",".intercalate ((w :: ws).map fun w => spaces w.1 ++ w.2.1 ++ spaces w.2.2)
      ≠ "" := fun h => (hd w (.head _)).1 <| String.ext_iff.mpr <| by
    have h' : _ = [] := congrArg String.toList h
    simp only [List.map_cons, String.intercalate, toList_intercalate_go, toList_append_str,
      toList_spaces, List.append_eq_nil] at h'
    exact h'.1.1.2
  rw [listingRoots_org env h1 h2 hnonempty, hsplit, List.map_map]
  exact congrArg _ (List.map_congr_left fun v hv => by
    simp only [Function.comp_apply, trimSpace_spaces _ _ (hd v hv).1 (hd v hv).2])

/-- Two ids, the first with a space before it and the second with two after it. -/
theorem listingRoots_account_ids_two :
    awsLogsRE.MatchString "logs/AWSLogs" = false ∧ awsLogsOrgRE.MatchString "logs/AWSLogs" = true ∧
    [(1, "111111111111", 0), (0, "222222222222", 2)] ≠ [] ∧
    (∀ w ∈ [(1, "111111111111", 0), (0, "222222222222", 2)],
      w.2.1 ≠ "" ∧ ∀ c ∈ w.2.1.toList, isDigit c = true) ∧
    listingRoots (listingEnv (fun _ => []) (.zero, .zero)) "b" "logs/AWSLogs"
        (",".intercalate ([(1, "111111111111", 0), (0, "222222222222", 2)].map
          fun w => spaces w.1 ++ w.2.1 ++ spaces w.2.2)) =
      .ok ([(1, "111111111111", 0), (0, "222222222222", 2)].map
        fun w => withSlash "logs/AWSLogs" ++ w.2.1 ++ "/CloudTrail/") := by
  have h1 : awsLogsRE.MatchString "logs/AWSLogs" = false := by decide
  have h2 : awsLogsOrgRE.MatchString "logs/AWSLogs" = true := by decide
  have hd : ∀ w ∈ [(1, "111111111111", 0), (0, "222222222222", 2)],
      w.2.1 ≠ "" ∧ ∀ c ∈ w.2.1.toList, isDigit c = true := by decide
  exact ⟨h1, h2, by simp, hd, listingRoots_account_ids (listingEnv (fun _ => []) (.zero, .zero)) h1 h2 _ (by simp) hd⟩

/-- `accountListRE` accepts lists that are not comma-separated ids: two ids written together, two
ids separated by a space, and an id followed by a comma. Under the prefix `logs/AWSLogs` of an
organization trail they give a root of a 24-digit account, a root whose account holds a space,
and a root with an empty account. -/
theorem listingRoots_lax_account_list (env : Env) :
    awsLogsRE.MatchString "logs/AWSLogs" = false ∧ awsLogsOrgRE.MatchString "logs/AWSLogs" = true ∧
    accountListRE.MatchString "111111111111222222222222" = true ∧
    listingRoots env "b" "logs/AWSLogs" "111111111111222222222222" =
      .ok ["logs/AWSLogs/111111111111222222222222/CloudTrail/"] ∧
    accountListRE.MatchString "111111111111 222222222222" = true ∧
    listingRoots env "b" "logs/AWSLogs" "111111111111 222222222222" =
      .ok ["logs/AWSLogs/111111111111 222222222222/CloudTrail/"] ∧
    accountListRE.MatchString "111111111111," = true ∧
    listingRoots env "b" "logs/AWSLogs" "111111111111," =
      .ok ["logs/AWSLogs/111111111111/CloudTrail/", "logs/AWSLogs//CloudTrail/"] := by
  have h1 : awsLogsRE.MatchString "logs/AWSLogs" = false := by decide
  have h2 : awsLogsOrgRE.MatchString "logs/AWSLogs" = true := by decide
  refine ⟨h1, h2, by decide, ?_, by decide, ?_, by decide, ?_⟩ <;>
    rw [listingRoots_org env h1 h2 (by decide)] <;> decide

/-! ## The region cursors -/

/-- A CloudTrail log key under a region prefix `P`, laid out as the comment of `openS3` gives
it: `P` `YYYY/MM/DD/` `AccountID_CloudTrail_RegionName_YYYYMMDDTHHmmZ_UniqueString`. -/
def cloudTrailKey (P Y M D hhmm acct region rest : String) : String :=
  P ++ Y ++ "/" ++ M ++ "/" ++ D ++ "/" ++
    (acct ++ "_CloudTrail_" ++ region ++ "_" ++ (Y ++ M ++ D ++ "T" ++ hhmm) ++ "Z_" ++ rest)

theorem startAfter_of_mem_regionParams {env : Env} {bucket : String} {start : GoTime}
    {roots : List String} {o : ListOrigin} (ho : o ∈ regionParams env bucket start roots) :
    o.startAfter = if start.IsZero then none else some (o.pfx ++ start.formatDay) := by
  obtain ⟨root, -, ho⟩ := List.mem_flatMap.mp ho
  split at ho
  · split at ho
    · obtain ⟨p, -, rfl⟩ := List.mem_map.mp ho
      rfl
    · simp at ho
  · simp at ho

/-- The `StartAfter` cursor `openS3` attaches to a region prefix `P` is below every key of the
region whose timestamp the window filter of `listKeys` keeps, with or without an end time, when
`Format` writes the start's year in four digits: the day-granular cursor never skips a key the
minute-granular filter keeps. -/
theorem startAfter_below_kept_keys {env : Env} {bucket : String} {start : GoTime}
    {roots : List String} {o : ListOrigin} (ho : o ∈ regionParams env bucket start roots)
    (hz : start.IsZero = false) (hy : start.year < 10000) (hm : start.month < 100)
    (hd : start.day < 100) {Y M D hhmm acct region rest endTS : String} (hY : Y.length = 4)
    (hM : M.length = 2) (hD : D.length = 2)
    (hre : filepathRE.FindStringSubmatch1 (cloudTrailKey o.pfx Y M D hhmm acct region rest) =
      some (Y ++ M ++ D ++ "T" ++ hhmm))
    (hwin : inWindow start.formatTS endTS (cloudTrailKey o.pfx Y M D hhmm acct region rest) =
      true) :
    o.startAfter = some (o.pfx ++ start.formatDay) ∧
      goLess (o.pfx ++ start.formatDay) (cloudTrailKey o.pfx Y M D hhmm acct region rest) =
        true := by
  refine ⟨by simp [startAfter_of_mem_regionParams ho, hz], ?_⟩
  have hle := (inWindow_of_capture start.formatTS_ne_empty hwin hre).1
  have hkeep : goLess (Y ++ M ++ D ++ "T" ++ hhmm) start.formatTS = false :=
    Bool.eq_false_iff.mpr fun h => absurd (goLess_eq_true.mp h) (not_lt.mpr hle)
  have hN : acct ++ "_CloudTrail_" ++ region ++ "_" ++ (Y ++ M ++ D ++ "T" ++ hhmm) ++ "Z_" ++
      rest ≠ "" := fun h => by
    have hl := congrArg String.length h
    have : "Z_".length = 2 := rfl
    have : "".length = 0 := rfl
    simp only [String.length_append] at hl
    omega
  simpa only [cloudTrailKey, String.append_assoc] using
    formatDay_lt_key start hy hm hd o.pfx hY hM hD hN hkeep

/-- The cursor of region `r1/` from a 2021-01-01 start, and a key of 2021-01-02. -/
theorem startAfter_below_kept_keys_2021 :
    (⟨"r1/", some "r1/2021/01/01/"⟩ : ListOrigin) ∈ regionParams (listingEnv regionPages from2021)
      "b" from2021.1 ["logs/AWSLogs/123456789012/CloudTrail/"] ∧
    from2021.1.IsZero = false ∧ from2021.1.year < 10000 ∧ from2021.1.month < 100 ∧
    from2021.1.day < 100 ∧ "2021".length = 4 ∧ "01".length = 2 ∧ "02".length = 2 ∧
    filepathRE.FindStringSubmatch1
      (cloudTrailKey "r1/" "2021" "01" "02" "0000" "1" "us-east-1" "y.json") =
        some ("2021" ++ "01" ++ "02" ++ "T" ++ "0000") ∧
    inWindow from2021.1.formatTS ""
      (cloudTrailKey "r1/" "2021" "01" "02" "0000" "1" "us-east-1" "y.json") = true ∧
    ((⟨"r1/", some "r1/2021/01/01/"⟩ : ListOrigin).startAfter = some ("r1/" ++ from2021.1.formatDay) ∧
      goLess ("r1/" ++ from2021.1.formatDay)
        (cloudTrailKey "r1/" "2021" "01" "02" "0000" "1" "us-east-1" "y.json") = true) := by
  have ho : (⟨"r1/", some "r1/2021/01/01/"⟩ : ListOrigin) ∈ regionParams
      (listingEnv regionPages from2021) "b" from2021.1 ["logs/AWSLogs/123456789012/CloudTrail/"] := by
    decide
  have hre : filepathRE.FindStringSubmatch1
      (cloudTrailKey "r1/" "2021" "01" "02" "0000" "1" "us-east-1" "y.json") =
        some ("2021" ++ "01" ++ "02" ++ "T" ++ "0000") := by decide
  have hwin : inWindow from2021.1.formatTS ""
      (cloudTrailKey "r1/" "2021" "01" "02" "0000" "1" "us-east-1" "y.json") = true := by decide
  exact ⟨ho, rfl, by decide, by decide, by decide, rfl, rfl, rfl, hre, hwin,
    startAfter_below_kept_keys ho rfl (by decide) (by decide) (by decide) rfl rfl rfl hre hwin⟩

/-- A start in the year 10000, which `Format` writes in five digits: the filter keeps a key of
the year 1000, and the cursor sits above it. -/
theorem startAfter_above_kept_key_year_10000 :
    filepathRE.FindStringSubmatch1
      (cloudTrailKey "r1/" "1000" "01" "01" "0000" "1" "us-east-1" "x.json") =
        some "10000101T0000" ∧
    inWindow (GoTime.formatTS ⟨10000, 1, 1, 0, 0, 0, 0⟩) ""
      (cloudTrailKey "r1/" "1000" "01" "01" "0000" "1" "us-east-1" "x.json") = true ∧
    goLess (cloudTrailKey "r1/" "1000" "01" "01" "0000" "1" "us-east-1" "x.json")
      ("r1/" ++ GoTime.formatDay ⟨10000, 1, 1, 0, 0, 0, 0⟩) = true := by
  decide

end CloudTrail
