import SettingsConsole.Text.Ascii
import SettingsConsole.Text.Unprintable

/-!
# Quoted texts

A text between double quotes, as diagnostics show it. Quotes and backslashes are escaped, line
breaks, tabs and the null character have short escapes, and any other character without a shape
of its own is written as its code point in braces.
-/

namespace SettingsConsole.Text

/-- The digits of a code point in lower-case hexadecimal, without leading zeros. -/
def hexDigits (n : Nat) : List Char := Nat.toDigits 16 n

/-- One character inside quotes. -/
def quoteChar (c : Char) : List Char :=
  if c = '"' then ['\\', '"']
  else if c = '\\' then ['\\', '\\']
  else if c = '\n' then ['\\', 'n']
  else if c = '\r' then ['\\', 'r']
  else if c = '\t' then ['\\', 't']
  else if c.toNat = 0 then ['\\', '0']
  else if isUnprintable c then '\\' :: 'u' :: '{' :: hexDigits c.toNat ++ ['}']
  else [c]

/-- A text between double quotes. -/
def quote (s : String) : String := "\"" ++ String.ofList (s.toList.flatMap quoteChar) ++ "\""

/-- Invisible characters show as code points, accented letters as themselves. -/
example : quote "\u200b\"é" = "\"\\u\x7b200b\x7d\\\"é\"" := by decide +kernel

end SettingsConsole.Text
