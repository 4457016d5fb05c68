import MoquiLint.Regular.Reader
import MoquiLint.Regular.Walk

/-! Ignore files. Each line is a pattern, which is turned into a regular expression step by step; a
line whose expression is not well formed has no effect. The last pattern that matches a path decides,
where an exclamation mark takes a path back in. -/
namespace MoquiLint.Ignore

structure Pattern where
  expr : Regular
  negated : Bool
  deriving Repr

def swap (p q : String) (s : List Char) : List Char := Seq.replace p.toList q.toList 0 s

/-- Whether `*.` comes before the next line break. -/
def hasStarDot (s : List Char) : Bool := Seq.contains ['*', '.'] (s.takeWhile (· != '\n'))

/-- Whether a star behind a directory is followed by a dot, as in `dir/*.xml`: some character other
than `/` and `+` stands before a slash, and `*.` comes later. -/
def hasStarInDirectory : List Char → Bool
  | c :: '/' :: s => (c != '/' && c != '+' && hasStarDot s) || hasStarInDirectory ('/' :: s)
  | _ :: s => hasStarInDirectory s
  | [] => false

def dropMark : List Char → List Char
  | '#' :: s => s
  | '!' :: s => s
  | s => s

/-- A stand-in for stars that have been dealt with. -/
def doneStar : String := "#$~"

def expression (line : List Char) : List Char :=
  let line := dropMark line
  let line := if hasStarInDirectory line && line.head? != some '/' then '/' :: line else line
  let line := swap "." "\\." line
  let line := if "/**/".toList.isPrefixOf line then line.drop 1 else line
  let line := swap "/**/" "(/|/.+/)" line
  let line := swap "**/" ("(|." ++ doneStar ++ "/)") line
  let line := swap "/**" ("(|/." ++ doneStar ++ ")") line
  let line := swap "\\*" ("\\" ++ doneStar) line
  let line := swap "*" "([^/]*)" line
  let line := swap "?" "\\?" line
  let line := swap doneStar "*" line
  let expr := line ++ (if line.getLast? == some '/' then "(|.*)$" else "(|/.*)$").toList
  match expr with
  | '/' :: rest => "^(|/)".toList ++ rest
  | _ => "^(|.*/)".toList ++ expr

/-- The pattern of a line; comments, blank lines and lines outside UTF-8 have none. -/
def pattern? (line : Text) : Option Pattern := do
  let line := Seq.dropRightWhile (Symbol.is '\r') line
  if line.head? == some (.char '#') then none
  else
    let line := Seq.trim (Symbol.is ' ') line
    if line.isEmpty || !Text.isValid line then none
    else
      let (negated, rest) := match Text.codes line with
        | '!' :: rest => (true, rest)
        | rest => (false, rest)
      (Regular.ofChars? (expression rest)).map fun r => ⟨r, negated⟩

def patterns (content : Bytes) : List Pattern :=
  (Seq.splitOn (Symbol.is '\n') (Text.decode content)).filterMap pattern?

def ignores (ps : List Pattern) (path : String) : Bool :=
  ps.foldl (fun ignored p => if p.expr.occursIn path.toList then !p.negated else ignored) false

end MoquiLint.Ignore
