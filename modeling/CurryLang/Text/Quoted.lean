import CurryLang.Text.Grapheme.Extend
import CurryLang.Text.Unprintable

/-!
# Quoted text and lists

Text between double quotes with its special characters escaped, and comma-separated lists, as
scope listings and log fields show them.
-/

namespace CurryLang.Text

/-- The lower-case hexadecimal digits of `n`. -/
def hexDigits (n : Nat) : String := String.ofList (Nat.toDigits 16 n)

/-- A character that is written by its code point inside quotes: one without a visible form, or a
mark that would merge with the character before it. The printable characters of ASCII come first, since
nearly all text is made of them. -/
def isHidden (c : Char) : Bool :=
  if 0x20 ≤ c.toNat ∧ c.toNat < 0x7F then false else isUnprintable c || isCombining c

/-- One character inside quotes: a quote, a backslash and hidden characters are escaped. -/
def escape (c : Char) : String :=
  if c = '"' then "\\\""
  else if c = '\\' then "\\\\"
  else if c = '\n' then "\\n"
  else if c = '\r' then "\\r"
  else if c = '\t' then "\\t"
  else if c.toNat = 0 then "\\0"
  else if isHidden c then "\\u\x7b" ++ hexDigits c.toNat ++ "\x7d"
  else String.ofList [c]

def quote (s : String) : String := "\"" ++ String.join (s.toList.map escape) ++ "\""

/-- Texts with a comma and a space between each two of them. -/
def commaSeparated (items : List String) : String := String.intercalate ", " items

def bracketed (items : List String) : String := "[" ++ commaSeparated items ++ "]"

end CurryLang.Text
