import Mathlib
import PortaPhone.Contacts.Account
import PortaPhone.Lib.Regex
import PortaPhone.Logs.Masking
/-!
# Masked texts in the log (`request_trace.py`)

| here | there |
| --- | --- |
| `keyGroup`, `valueGroup` | the two groups of `_SENSITIVE_TEXT_RE` (`:91`) |
| `maskTextFallback`    | `_mask_text_fallback` (`:97`) |
| `sanitizeStr`         | `sanitize_text` of a string (`:118-126`) |
| `sanitizeText`        | `sanitize_text` (`:102`) |

`loads` is `json.loads`, and `decode` is `bytes.decode("utf-8", "replace")`. A `RecursionError` is neither a
`ValueError` nor a `TypeError`: it is raised where a text is read as JSON, and data that raise it are shown as they
are.
-/

namespace PortaPhone.Logs

open Contacts (isSpace)
open Json (Failure)

/-! ## The pattern -/

/-- A letter of the pattern, in any case: three of them have a case variant outside ASCII. -/
def sameLetter (p c : Char) : Bool :=
  c.toLower = p || (p = 'i' && (c.toNat = 0x130 || c.toNat = 0x131)) || (p = 's' && c.toNat = 0x17F) ||
    (p = 'k' && c.toNat = 0x212A)

def word : List Char → Regex
  | [] => .empty
  | p :: w => .seq (.one (sameLetter p)) (word w)

def oneOf : List (List Char) → Regex
  | [] => .one fun _ => false
  | w :: ws => .alt (word w) (oneOf ws)

/-- The keys, the longest ones first. -/
def sensitiveKeys : List String :=
  ["client_secret", "refresh_token", "authorization", "api_password", "access_token", "session_id",
    "password", "api_key",
    "secret", "token"]

def quote : Regex := .one (· = '"')

def spaces : Regex := .star (.one isSpace)

/-- `("?(?:…)"?\s*[:=]\s*)`. -/
def keyGroup : Regex :=
  .seq (.opt quote) (.seq (oneOf (sensitiveKeys.map String.toList)) (.seq (.opt quote)
    (.seq spaces (.seq (.one fun c => c = ':' || c = '=') spaces))))

/-- `"(?:[^"\\]|\\.)*"`. -/
def quoted : Regex :=
  .seq quote (.seq (.star (.alt (.one fun c => c ≠ '"' && c ≠ '\\') (.seq (.one (· = '\\')) (.one (· ≠ '\n'))))) quote)

/-- `[^&\s,}]`. -/
def isPlain (c : Char) : Bool := c ≠ '&' && !isSpace c && c ≠ ',' && c ≠ '\x7d'

def valueGroup : Regex := .alt quoted (.plus (.one isPlain))

def mark : List Char := '"' :: (stars ++ ['"'])

def maskTextFallback (text : List Char) : List Char := Regex.sub keyGroup valueGroup (· ++ mark) text

example : maskTextFallback "a=1&Password=x&b=\"token\" : \"y\\\"z\"".toList =
    "a=1&Password=\"***\"&b=\"token\" : \"***\"".toList := by decide

/-! ## The entry point -/

section Text

variable (printable : Char → Bool) (lv : Levels) (loads : List Char → Except Failure Json)

/-- The first character after the spaces is that of an object or of a list. -/
def looksLikeJson (text : List Char) : Bool := (text.dropWhile isSpace).head?.any fun c => c = '\x7b' || c = '['

/-- `json.dumps(sanitize_data(json.loads(text)))`; an integer that was read is not too long to be written. -/
def sanitizeJson (text : List Char) : Except Failure (List Char) := do
  let v ← loads text
  let w ← sanitizeData printable lv v lv.calls
  Json.dumpsWithin lv.dumps w

def sanitizeStr (text : List Char) : Except Failure (List Char) :=
  if looksLikeJson text then
    match sanitizeJson printable lv loads text with
    | .error .value => .ok (maskTextFallback text)
    | result => result
  else .ok (maskTextFallback text)

inductive Body
  | none
  | bytes (b : List UInt8)
  | text (s : List Char)
  | data (v : Json)

def sanitizeText (decode : List UInt8 → List Char) : Body → Except Failure Body
  | .none => .ok .none
  | .bytes b => (sanitizeStr printable lv loads (decode b)).map .text
  | .text s => (sanitizeStr printable lv loads s).map .text
  | .data v => match sanitizeData printable lv v lv.calls with
    | .ok w => .ok (.data w)
    -- `except Exception: return text`
    | .error _ => .ok (.data v)

end Text

end PortaPhone.Logs
