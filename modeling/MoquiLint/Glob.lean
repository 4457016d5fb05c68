import MoquiLint.Text.Edit

/-! Glob patterns for slash-separated paths. A star matches within one segment, `**` over whole
segments, `?` one character, a class in brackets one character, and braces hold alternatives. A
backslash takes the meaning from what follows it. A pattern may turn out to be malformed only when
the search reaches the malformed place, so a search has three outcomes. -/
namespace MoquiLint.Glob

def separator : Char := '/'

/-- The end of a class from behind its opening, the first character of which has been looked at. -/
def afterClass : List Char → Option (List Char)
  | [] => none
  | '\\' :: [] => none
  | '\\' :: _ :: s => afterClass s
  | c :: s => if c == ']' then some s else afterClass s

theorem length_afterClass_lt {s r : List Char} (h : afterClass s = some r) : r.length < s.length := by
  fun_induction afterClass s with
  | case1 => cases h
  | case2 => cases h
  | case3 c s ih => have := ih h; simp only [List.length_cons]; omega
  | case4 c s _ _ => cases h; simp
  | case5 c s _ _ _ ih => have := ih h; simp only [List.length_cons]; omega

def dropNegation : List Char → List Char
  | '!' :: s => s
  | '^' :: s => s
  | s => s

theorem length_dropNegation_le (s : List Char) : (dropNegation s).length ≤ s.length := by
  unfold dropNegation
  split <;> simp

/-- Whether a pattern is well formed, inside `depth` pairs of braces. -/
def wellFormed (depth : Nat) (s : List Char) : Bool :=
  match s with
  | [] => depth == 0
  | '\\' :: s =>
    match s with
    | [] => false
    | _ :: t => wellFormed depth t
  | '[' :: s =>
    if (dropNegation s).head? == some ']' then false
    else
      match h : afterClass (dropNegation s) with
      | none => false
      | some rest =>
        have := length_afterClass_lt h
        have := length_dropNegation_le s
        wellFormed depth rest
  | '\x7b' :: s => wellFormed (depth + 1) s
  | '\x7d' :: s => if depth == 0 then false else wellFormed (depth - 1) s
  | _ :: s => wellFormed depth s
termination_by s.length

def isWellFormed (pattern : List Char) : Bool := wellFormed 0 pattern

inductive Outcome where
  | matched | unmatched | malformed
  deriving DecidableEq, Repr

def failBefore (pattern : List Char) : Outcome :=
  if isWellFormed pattern then .unmatched else .malformed

def alternatives? (depth : Nat) (current : List Char) : List Char → Option (List (List Char) × List Char)
  | [] => none
  | '\\' :: [] => none
  | '\\' :: c :: s => alternatives? depth (c :: '\\' :: current) s
  | c :: s =>
    if c == '\x7b' then alternatives? (depth + 1) (c :: current) s
    else if c == '\x7d' then
      if depth == 0 then some ([current.reverse], s)
      else alternatives? (depth - 1) (c :: current) s
    else if c == ',' && depth == 0 then
      (alternatives? 0 [] s).map fun (alts, rest) => (current.reverse :: alts, rest)
    else alternatives? depth (c :: current) s

/-- Tries alternatives in turn until one matches or turns out malformed. -/
def firstOf (try_ : List Char → Outcome) : List (List Char) → Outcome
  | [] => .unmatched
  | [a] => try_ a
  | a :: rest => match try_ a with
    | .unmatched => firstOf try_ rest
    | found => found

/-- The patterns that match the end of a path beside the empty one. -/
def emptyPatterns : List (List Char) :=
  ["", "*", "**", "/**", "**/", "/**/"].map String.toList

/-- Matches a pattern against nothing. The fuel bounds the depth of braces. -/
def matchEmpty : Nat → List Char → Outcome
  | 0, _ => .unmatched
  | fuel + 1, pattern =>
    if emptyPatterns.contains pattern then .matched
    else match pattern with
      | '\x7b' :: s =>
        match alternatives? 0 [] s with
        | none => .malformed
        | some (alts, rest) => firstOf (fun a => matchEmpty fuel (a ++ rest)) alts
      | _ => failBefore pattern

/-- The member of a class as the start of a range; the last code point starts none. -/
def rangeStart (c : Char) : Option Char := if c.toNat == 0x10FFFF then none else some c

/-- What a class makes of a character: whether one of its members is the character, and what is left
of the pattern where that was decided. `last` is the member a range may start from. -/
def searchClass (c : Char) : Option Char → List Char → Bool × List Char
  | _, [] => (false, [])
  | _, ']' :: s => (false, ']' :: s)
  | some _, ['-'] => (false, [])
  | some _, '-' :: ']' :: t => (c == '-', ']' :: t)
  | some _, ['-', '\\'] => (false, [])
  | some low, '-' :: '\\' :: high :: t =>
    if low ≤ c && c ≤ high then (true, t) else searchClass c none t
  | some low, '-' :: high :: t =>
    if low ≤ c && c ≤ high then (true, t) else searchClass c none t
  | _, ['\\'] => (false, [])
  | _, '\\' :: e :: t => if e == c then (true, t) else searchClass c (rangeStart e) t
  | _, d :: s => if d == c then (true, s) else searchClass c (rangeStart d) s

/-- A search part way through: what is left of pattern and path, where to go on after a star and after
`**` if this does not match, whether the pattern is at the start of a segment, and whether the last
character of the pattern passed over is a backslash. -/
structure Search where
  pattern : List Char
  path : List Char
  star : Option (List Char × List Char) := none
  deep : Option (List Char × List Char) := none
  atStart : Bool := true
  afterBackslash : Bool := false
  deriving DecidableEq, Repr

/-- Goes back: a star takes one character more, unless that is a separator; else `**` takes one
segment more; else the search has failed before what is left of the pattern. -/
def Search.back (s : Search) (left : List Char) : Search ⊕ Outcome :=
  let deeper : Search ⊕ Outcome :=
    match s.deep with
    | none => .inr (failBefore left)
    | some (p, n) =>
      match n.dropWhile (· != separator) with
      | [] => .inr (failBefore left)
      | _ :: n => .inl { s with pattern := p, path := n, deep := some (p, n), atStart := true,
                                afterBackslash := false }
  match s.star with
  | none => deeper
  | some (_, []) => deeper
  | some (p, c :: n) =>
    if c == separator then deeper
    else .inl { s with pattern := p, path := n, star := some (p, n), atStart := false,
                       afterBackslash := false }

def Search.literal (s : Search) (pattern : List Char) (afterBackslash : Bool) : Search ⊕ Outcome :=
  match pattern, s.path with
  | d :: p, c :: n =>
    if d == c then .inl { s with pattern := p, path := n, atStart := d == separator,
                                 afterBackslash := d == '\\' }
    else s.back (if afterBackslash then '\\' :: pattern else pattern)
  | _, _ => s.back pattern

def Search.beginStar (s : Search) (pattern : List Char) : Search :=
  { s with pattern := pattern, star := some (pattern, s.path), atStart := false,
           afterBackslash := false }

/-- One step of a search that is not at the end of the path, other than into braces. -/
def Search.step (s : Search) : Search ⊕ Outcome :=
  match s.pattern with
  | '*' :: '*' :: p =>
    if s.atStart then
      match p with
      | [] => .inr .matched
      | d :: p' =>
        if d == separator then
          .inl { s with pattern := p', star := none, deep := some (p', s.path),
                        afterBackslash := false }
        else .inl (s.beginStar p)
    else .inl (s.beginStar p)
  | '*' :: p => .inl (s.beginStar p)
  | '?' :: p =>
    let s := { s with atStart := false }
    match s.path with
    | c :: n =>
      if c == separator then s.back ('?' :: p)
      else .inl { s with pattern := p, path := n, afterBackslash := false }
    | [] => .inr .unmatched
  | '[' :: p =>
    let s := { s with atStart := false }
    let body := dropNegation p
    let negated := body.length < p.length
    match s.path, body with
    | [], _ => .inr .unmatched
    | _, [] => .inr .malformed
    | _, ']' :: _ => .inr .malformed
    | c :: n, _ =>
      let (found, left) := searchClass c none body
      if found == negated then
        if left.isEmpty then .inr .malformed else s.back left
      else
        match afterClass left with
        | none => .inr .malformed
        | some p' => .inl { s with pattern := p', path := n, afterBackslash := false }
  | '\\' :: [] => .inr .malformed
  | '\\' :: p => s.literal p true
  | p => s.literal p s.afterBackslash

/-- Puts `now` in the place of the end `old` of a pattern that is kept for going back to. -/
def rebase (old now : List Char) (kept : List Char × List Char) : List Char × List Char :=
  (kept.1.take (kept.1.length - old.length) ++ now, kept.2)

def Search.choose (s : Search) (pattern : List Char) : Search :=
  { s with pattern := pattern, star := s.star.map (rebase s.pattern pattern),
           deep := s.deep.map (rebase s.pattern pattern), atStart := true }

def Search.run : Nat → Search → Outcome
  | 0, _ => .unmatched
  | fuel + 1, s =>
    if s.path.isEmpty then matchEmpty (s.pattern.length + 1) s.pattern
    else match s.pattern with
      | '\x7b' :: p =>
        match alternatives? 0 [] p with
        | none => .malformed
        | some (alts, rest) =>
          firstOf (fun a => Search.run fuel (s.choose (a ++ rest))) alts
      | _ =>
        match s.step with
        | .inl s' => s'.run fuel
        | .inr o => o

/-- Matches a path against a pattern. A search sees each place of the pattern at most once for each
pair of places where its last star and its last `**` ended. -/
def search (pattern path : List Char) : Outcome :=
  Search.run (Nat.pow (pattern.length + 2) 3 * Nat.pow (path.length + 2) 2) { pattern := pattern, path := path }

/-- Whether a path matches one of the patterns; a malformed pattern matches nothing. -/
def matchesAny (patterns : List Text) (path : String) : Bool :=
  patterns.any fun g => search (Text.codes g) path.toList == .matched

end MoquiLint.Glob
