import MoquiLint.Json.Value
import MoquiLint.Text.Quoted

/-! JSON text: on one line, or with members and items on lines of their own, indented by two spaces a
level. Characters that mean something in HTML, and the two line separators of Unicode, are escaped. -/
namespace MoquiLint.Json

open Text.Quoted (hex)

def escapeChar (c : Char) : List Char :=
  match c with
  | '"' => ['\\', '"']
  | '\\' => ['\\', '\\']
  | '\n' => ['\\', 'n']
  | '\r' => ['\\', 'r']
  | '\t' => ['\\', 't']
  | '\x08' => ['\\', 'b']
  | '\x0c' => ['\\', 'f']
  | c =>
    if c.toNat < 32 || c == '<' || c == '>' || c == '&' || c == '\u2028' || c == '\u2029' then
      '\\' :: 'u' :: hex 4 c.toNat
    else [c]

/-- The written form of a symbol inside a string: a stray byte becomes the escaped replacement
character. -/
def escapeSymbol : Symbol → List Char
  | .char c => escapeChar c
  | .stray _ => '\\' :: 'u' :: hex 4 0xFFFD

def quoted (t : Text) : List Char := '"' :: t.flatMap escapeSymbol ++ ['"']

def scalar : Json → List Char
  | .null => "null".toList
  | .bool true => "true".toList
  | .bool false => "false".toList
  | .int n => (ToString.toString n).toList
  | .real s => s.toList
  | .str t => quoted t
  | .arr _ => "[]".toList
  | .obj _ => "\x7b\x7d".toList

mutual

def compactChars : Json → List Char
  | .arr xs => '[' :: compactItems xs ++ [']']
  | .obj ms => '\x7b' :: compactMembers ms ++ ['\x7d']
  | j => scalar j

def compactItems : List Json → List Char
  | [] => []
  | [x] => compactChars x
  | x :: xs => compactChars x ++ ',' :: compactItems xs

def compactMembers : List (String × Json) → List Char
  | [] => []
  | [(k, v)] => quoted (Text.ofString k) ++ ':' :: compactChars v
  | (k, v) :: ms => quoted (Text.ofString k) ++ ':' :: compactChars v ++ ',' :: compactMembers ms

end

def newline (level : Nat) : List Char := '\n' :: List.replicate (2 * level) ' '

mutual

/-- The value over several lines, the parts of a list or object one level deeper. -/
def indentedChars (level : Nat) : Json → List Char
  | .arr [] => "[]".toList
  | .arr (x :: xs) => '[' :: indentedItems (level + 1) (x :: xs) ++ newline level ++ [']']
  | .obj [] => "\x7b\x7d".toList
  | .obj (m :: ms) => '\x7b' :: indentedMembers (level + 1) (m :: ms) ++ newline level ++ ['\x7d']
  | j => scalar j

def indentedItems (level : Nat) : List Json → List Char
  | [] => []
  | [x] => newline level ++ indentedChars level x
  | x :: xs => newline level ++ indentedChars level x ++ ',' :: indentedItems level xs

def indentedMembers (level : Nat) : List (String × Json) → List Char
  | [] => []
  | [(k, v)] => newline level ++ quoted (Text.ofString k) ++ ": ".toList ++ indentedChars level v
  | (k, v) :: ms =>
    newline level ++ quoted (Text.ofString k) ++ ": ".toList ++ indentedChars level v ++
      ',' :: indentedMembers level ms

end

def compact (j : Json) : String := String.ofList (compactChars j)

def indented (j : Json) : String := String.ofList (indentedChars 0 j)

end MoquiLint.Json
