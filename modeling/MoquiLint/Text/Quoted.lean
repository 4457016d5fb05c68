import MoquiLint.Text.Symbol
import MoquiLint.Text.Class

/-! Text in double quotes for messages: printable characters stand for themselves, all else is
escaped, so that any text, even one outside UTF-8, can be shown on one line. -/
namespace MoquiLint.Text.Quoted

def hexDigit (n : Nat) : Char := "0123456789abcdef".toList.getD (n % 16) '0'

def hex : Nat → Nat → List Char
  | 0, _ => []
  | width + 1, n => hex width (n / 16) ++ [hexDigit n]

def escape (c : Char) : List Char :=
  if c == '"' || c == '\\' then ['\\', c]
  else if isPrintable c then [c]
  else match c.toNat with
    | 7 => ['\\', 'a']
    | 8 => ['\\', 'b']
    | 9 => ['\\', 't']
    | 10 => ['\\', 'n']
    | 11 => ['\\', 'v']
    | 12 => ['\\', 'f']
    | 13 => ['\\', 'r']
    | n =>
      if n < 32 || n == 127 then '\\' :: 'x' :: hex 2 n
      else if n < 65536 then '\\' :: 'u' :: hex 4 n
      else '\\' :: 'U' :: hex 8 n

/-- The written form of one symbol: a stray byte is given in hexadecimal. -/
def escapeSymbol : Symbol → List Char
  | .char c => escape c
  | .stray b => '\\' :: 'x' :: hex 2 b.toNat

end MoquiLint.Text.Quoted

namespace MoquiLint.Text

def quote (t : Text) : String :=
  String.ofList ('"' :: t.flatMap Quoted.escapeSymbol ++ ['"'])

end MoquiLint.Text

def MoquiLint.Str.quote (s : String) : String := MoquiLint.Text.quote (MoquiLint.Text.ofString s)
