import SettingsConsole.Text.Ascii
import SettingsConsole.Text.Split

/-!
# Redaction

Secrets are masked before the address of a request is shown. A pair of the query is secret if its
key is one of a few names, in any case.
-/

namespace SettingsConsole.Redaction

open Text

/-- The names of secret parameters. -/
def secretNames : List String := ["sessionkey", "apikey", "signature"]

/-- What stands in place of a secret. -/
def mask : String := "***"

/-- A pair of a query, with its value masked if the pair is secret. -/
def pair (p : String) : String :=
  match cut '=' p with
  | some (key, _) => if secretNames.contains (asciiLower key) then key ++ "=" ++ mask else p
  | none => p

/-- An address with the secret values of its query masked. -/
def query (url : String) : String :=
  match cut '?' url with
  | some (base, rest) => base ++ "?" ++ join "&" ((split '&' rest).map pair)
  | none => url

/-- The case of a name does not matter, and a name without a value is left alone. -/
example : query "http://h/?SessionKey=x&a=b&apikey" = "http://h/?SessionKey=***&a=b&apikey" := by
  decide +kernel

end SettingsConsole.Redaction
