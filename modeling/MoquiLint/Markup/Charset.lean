import MoquiLint.Markup.CodePage
import MoquiLint.Text.Edit

/-! Character sets a document may declare, and reading bytes in them. What cannot be read becomes the
replacement character. -/
namespace MoquiLint.Markup

inductive Charset where
  | utf8
  | utf16 (bigEndian : Bool)
  /-- ASCII below 0x80, the given characters above. -/
  | codePage (high : List Char)
  /-- A set that is not read at all: a document in it is a single replacement character. -/
  | unread
  deriving DecidableEq, Repr

namespace Charset

def utf8Labels : List String :=
  ["unicode-1-1-utf-8", "unicode11utf8", "unicode20utf8", "utf-8", "utf8", "x-unicode20utf8"]

/-- Labels of UTF-16 with the less significant byte first. -/
def utf16Labels : List String :=
  ["csunicode", "iso-10646-ucs-2", "ucs-2", "unicode", "unicodefeff", "utf-16", "utf-16le"]

def utf16beLabels : List String := ["unicodefffe", "utf-16be"]

/-- Labels of sets that take several bytes for a character outside ASCII. Only their ASCII characters are
read. -/
def multibyteLabels : List String := [
  "chinese", "csgb2312", "csiso58gb231280", "gb2312", "gb_2312", "gb_2312-80", "gbk", "iso-ir-58", "x-gbk",
  "gb18030",
  "big5", "big5-hkscs", "cn-big5", "csbig5", "x-x-big5",
  "cseucpkdfmtjapanese", "euc-jp", "x-euc-jp",
  "csiso2022jp", "iso-2022-jp",
  "csshiftjis", "ms932", "ms_kanji", "shift-jis", "shift_jis", "sjis", "windows-31j", "x-sjis",
  "cseuckr", "csksc56011987", "euc-kr", "iso-ir-149", "korean", "ks_c_5601-1987", "ks_c_5601-1989",
  "ksc5601", "ksc_5601", "windows-949"]

def unreadLabels : List String :=
  ["csiso2022kr", "hz-gb-2312", "iso-2022-cn", "iso-2022-cn-ext", "iso-2022-kr", "replacement"]

def userDefined : List Char := (List.range 128).map fun n => Char.ofNat (0xF780 + n)

/-- The set with a label, in any case and with blanks around it. -/
def ofLabel? (label : Text) : Option Charset :=
  let l := Text.toString (Text.lower (Text.trimSpace label))
  if utf8Labels.contains l then some .utf8
  else if utf16Labels.contains l then some (.utf16 false)
  else if utf16beLabels.contains l then some (.utf16 true)
  else if multibyteLabels.contains l then some (.codePage [])
  else if unreadLabels.contains l then some .unread
  else if l == "x-user-defined" then some (.codePage userDefined)
  else (CodePage.all.find? fun p => p.1.contains l).map fun p => .codePage p.2

def isContinuation (b : UInt8) : Bool := 0x80 ≤ b && b ≤ 0xBF

def maySecond (lead b : UInt8) : Bool :=
  if lead == 0xE0 then 0xA0 ≤ b && b ≤ 0xBF
  else if lead == 0xED then 0x80 ≤ b && b ≤ 0x9F
  else if lead == 0xF0 then 0x90 ≤ b && b ≤ 0xBF
  else if lead == 0xF4 then 0x80 ≤ b && b ≤ 0x8F
  else isContinuation b

/-- How many bytes after the first belong to the longest start of a code point at the front of bytes
that hold none. -/
def brokenTail : Bytes → Nat
  | lead :: b :: rest =>
    if 0xC2 ≤ lead && lead ≤ 0xF4 && maySecond lead b then
      match rest with
      | c :: _ => if 0xE0 ≤ lead && isContinuation c then 2 else 1
      | [] => 1
    else 0
  | _ => 0

/-- Reads UTF-8; each longest broken start of a code point becomes one replacement character. -/
def decodeUtf8 : Bytes → Text
  | [] => []
  | b :: bs =>
    match Text.headChar? (b :: bs) with
    | some c => .char c :: decodeUtf8 (bs.drop (c.utf8Size - 1))
    | none => .char Symbol.replacement :: decodeUtf8 (bs.drop (brokenTail (b :: bs)))
termination_by bs => bs.length
decreasing_by all_goals (simp only [List.length_drop, List.length_cons]; omega)

/-- The units of sixteen bits; a lone last byte is none. -/
def units (bigEndian : Bool) : Bytes → List (Option Nat)
  | [] => []
  | [_] => [none]
  | a :: b :: rest =>
    some (if bigEndian then a.toNat * 256 + b.toNat else b.toNat * 256 + a.toNat) ::
      units bigEndian rest

def isSurrogate (n : Nat) : Bool := 0xD800 ≤ n && n < 0xE000

def isSecondHalf (u : Option Nat) : Bool := u.any fun n => 0xDC00 ≤ n && n < 0xE000

def pairChar (n m : Nat) : Char :=
  if n < 0xDC00 then Char.ofNat (0x10000 + (n - 0xD800) * 0x400 + (m - 0xDC00)) else Symbol.replacement

/-- Reads units. A surrogate takes a second half after it along, and without a partner it becomes the
replacement character. -/
def decodeUnits : List (Option Nat) → Text
  | [] => []
  | none :: rest => .char Symbol.replacement :: decodeUnits rest
  | [some n] => [.char (if isSurrogate n then Symbol.replacement else Char.ofNat n)]
  | some n :: next :: rest =>
    if isSurrogate n then
      if isSecondHalf next then .char (pairChar n (next.getD 0)) :: decodeUnits rest
      else .char Symbol.replacement :: decodeUnits (next :: rest)
    else .char (Char.ofNat n) :: decodeUnits (next :: rest)
termination_by us => us.length

def codePageChar (high : List Char) (b : UInt8) : Char :=
  if b < 0x80 then Char.ofNat b.toNat else high.getD (b.toNat - 0x80) Symbol.replacement

def decode : Charset → Bytes → Text
  | .utf8, bs => decodeUtf8 bs
  | .utf16 be, bs => decodeUnits (units be bs)
  | .codePage high, bs => bs.map fun b => .char (codePageChar high b)
  | .unread, _ => [.char Symbol.replacement]

end Charset

end MoquiLint.Markup
