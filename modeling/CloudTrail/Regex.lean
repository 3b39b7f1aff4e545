import CloudTrail.Basic

/-! A backtracking matcher with Go's leftmost-first semantics for the RE2 constructs of the four
patterns of `source.go`, and the patterns. -/

namespace CloudTrail

/-- RE2 syntax, reduced to what `source.go` uses. -/
inductive Re
  /-- One rune of a class: a literal, `.`, `\d`, `[^_]`, … -/
  | char (p : Char → Bool)
  | empty
  | seq (a b : Re)
  /-- `a|b`; the left branch is preferred. -/
  | alt (a b : Re)
  /-- `a*`, greedy. -/
  | star (a : Re)
  /-- `(a)`, capturing group 1. -/
  | group (a : Re)
  /-- `$`: end of text. -/
  | eol

namespace Re

variable {β : Type}

/-- Greedy iteration: one more round of `m` first, then the continuation. A round must consume
input; no pattern of `source.go` iterates a sub-pattern that matches the empty string, so the
guard cuts no alternative, and `fuel = len(input)` rounds are enough. -/
def starIter (m : List Char → Option (List Char) →
      (List Char → Option (List Char) → Option β) → Option β)
    (k : List Char → Option (List Char) → Option β) :
    Nat → List Char → Option (List Char) → Option β
  | 0, s, cap => k s cap
  | n + 1, s, cap =>
    (m s cap fun s' cap' => if s'.length < s.length then starIter m k n s' cap' else none).or
      (k s cap)

/-- Leftmost-first matching of `r` at the start of `s`: `k` receives the rest of the input and
the capture, and the first success in priority order is the result. -/
def go : Re → List Char → Option (List Char) →
    (List Char → Option (List Char) → Option β) → Option β
  | char p, s, cap, k =>
    match s with
    | c :: cs => if p c then k cs cap else none
    | [] => none
  | empty, s, cap, k => k s cap
  | seq a b, s, cap, k => go a s cap fun s' cap' => go b s' cap' k
  | alt a b, s, cap, k => (go a s cap k).or (go b s cap k)
  | star a, s, cap, k => starIter (go a) k s.length s cap
  | group a, s, cap, k => go a s cap fun s' _ => k s' (some (s.take (s.length - s'.length)))
  | eol, s, cap, k => if s = [] then k s cap else none

/-- A literal text. -/
def lit (t : String) : Re := t.toList.foldr (fun c r => seq (char (· = c)) r) empty

/-- `a?` -/
def opt (a : Re) : Re := alt a empty

/-- `a+` -/
def plus (a : Re) : Re := seq a (star a)

/-- `(a(a(…)?)?)?`, `n` nested greedy options. -/
def optNest (a : Re) : Nat → Re
  | 0 => empty
  | n + 1 => opt (seq a (optNest a n))

/-- `a{lo,hi}`, expanded as RE2 does: `lo` copies, then `hi - lo` nested greedy options. -/
def rep (a : Re) : Nat → Nat → Re
  | 0, hi => optNest a hi
  | lo + 1, hi => seq a (rep a lo (hi - 1))

/-- Captures of the leftmost match: the first start position with a match wins. -/
def firstMatch (r : Re) : List Char → Option (Option (List Char))
  | [] => r.go [] none fun _ cap => some cap
  | c :: cs => (r.go (c :: cs) none fun _ cap => some cap).or (firstMatch r cs)

end Re

/-- A compiled pattern: `^` anchors it at the start of the text. -/
structure Regexp where
  anchored : Bool
  re : Re

/-- `re.MatchString(s)` -/
def Regexp.MatchString (r : Regexp) (s : String) : Bool :=
  if r.anchored then (r.re.go s.toList none fun _ _ => some ()).isSome
  else (r.re.firstMatch s.toList).isSome

/-- `re.FindStringSubmatch(s)[1]`, or `none` when `FindStringSubmatch` returns `nil`. -/
def Regexp.FindStringSubmatch1 (r : Regexp) (s : String) : Option String :=
  (r.re.firstMatch s.toList).map fun cap => String.mk (cap.getD [])

/-! ## Character classes -/

/-- `\d`: an ASCII digit. -/
def isDigit (c : Char) : Bool := '0' ≤ c && c ≤ '9'

/-- `[a-z0-9]` -/
def isLowerAlnum (c : Char) : Bool := ('a' ≤ c && c ≤ 'z') || isDigit c

/-! ## The patterns -/

/-- `.*_CloudTrail_[^_]+_([^_]+)Z_` -/
def filepathRE : Regexp :=
  ⟨false, .seq (.star (.char (· ≠ '\n'))) (.seq (.lit "_CloudTrail_") (.seq (.plus (.char (· ≠ '_')))
    (.seq (.lit "_") (.seq (.group (.plus (.char (· ≠ '_')))) (.lit "Z_")))))⟩

/-- `/AWSLogs/(?:o-[a-z0-9]{10,32}/)?\d{12}/?$` -/
def awsLogsRE : Regexp :=
  ⟨false, .seq (.lit "/AWSLogs/") (.seq (.opt (.seq (.lit "o-") (.seq (.rep (.char isLowerAlnum) 10 32)
    (.lit "/")))) (.seq (.rep (.char isDigit) 12 12) (.seq (.opt (.lit "/")) .eol)))⟩

/-- `/AWSLogs(?:/o-[a-z0-9]{10,32})?/?$` -/
def awsLogsOrgRE : Regexp :=
  ⟨false, .seq (.lit "/AWSLogs") (.seq (.opt (.seq (.lit "/o-") (.rep (.char isLowerAlnum) 10 32)))
    (.seq (.opt (.lit "/")) .eol))⟩

/-- `^(?: *\d{12} *,?)*$` -/
def accountListRE : Regexp :=
  ⟨true, .seq (.star (.seq (.star (.char (· = ' '))) (.seq (.rep (.char isDigit) 12 12)
    (.seq (.star (.char (· = ' '))) (.opt (.lit ",")))))) .eol⟩

end CloudTrail
