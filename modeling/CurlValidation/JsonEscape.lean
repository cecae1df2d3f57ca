import CurlValidation.Dynbuf

/-!
# `json_escape_string`

`validation_json.c` and `validation_payroll_ceo.c` each define the same static
`json_escape_string`. It walks the bytes of its argument up to the NUL and appends the escape of
each byte to a dynbuf of limit 1024, ignoring whether the append succeeded. A `NULL` argument
gives `strdup("")`; an argument with no bytes gives `Curl_dyn_ptr` of a buffer nothing was
appended to, which is `NULL`.

`jsonEscape` is the same walk into a buffer without a limit; the dynbuf loop is related to it in
`Proof.EscapeString`.
-/

namespace CurlValidation

/-- The digit `%x` prints for `n < 16`: `0`–`9`, then lowercase `a`–`f`. -/
def hexDigit (n : Nat) : UInt8 := if n < 10 then (0x30 + n).toUInt8 else (0x61 + n - 10).toUInt8

/-- `%04x` of `n < 65536`: four hexadecimal digits, zero padded. -/
def hex04 (n : Nat) : Bytes :=
  [hexDigit (n / 4096 % 16), hexDigit (n / 256 % 16), hexDigit (n / 16 % 16), hexDigit (n % 16)]

/-- What the `switch(*p)` appends for one byte: the two-byte escape of a quote, a backslash and the
five named control bytes, `msnprintf(tmp, sizeof(tmp), "\\u%04x", *p)` for the other bytes below
32, and the byte itself otherwise. -/
def escapeByte (c : UInt8) : Bytes :=
  if c = 0x22 then ascii "\\\""
  else if c = 0x5C then ascii "\\\\"
  else if c = 0x08 then ascii "\\b"
  else if c = 0x0C then ascii "\\f"
  else if c = 0x0A then ascii "\\n"
  else if c = 0x0D then ascii "\\r"
  else if c = 0x09 then ascii "\\t"
  else if c < 32 then snprintf 7 (ascii "\\u" ++ hex04 c.toNat)
  else [c]

/-- The escape of a whole string into a buffer without a limit. -/
def jsonEscape (s : Bytes) : Bytes := s.flatMap escapeByte

/-- `while(*p) { switch(*p) ... p++; }`: the escape of each byte before the first NUL, appended to
`buf` in turn. -/
def escapeLoop : Bytes → Dynbuf → Dynbuf
  | [], buf => buf
  | c :: rest, buf => if c = 0 then buf else escapeLoop rest (buf.addn (escapeByte c)).2

namespace ValidationJson

/-- `json_escape_string(str)` of `validation_json.c`. -/
def jsonEscapeString : Option Bytes → Option Bytes
  | none => some []
  | some str => (escapeLoop str (Dynbuf.init 1024)).ptr

end ValidationJson

namespace ValidationPayrollCeo

/-- `json_escape_string(str)` of `validation_payroll_ceo.c`, the same text as the copy in
`validation_json.c`. -/
def jsonEscapeString (str : Option Bytes) : Option Bytes := ValidationJson.jsonEscapeString str

end ValidationPayrollCeo

@[simp] theorem jsonEscape_nil : jsonEscape [] = [] := rfl

@[simp] theorem jsonEscape_cons (c : UInt8) (s : Bytes) :
    jsonEscape (c :: s) = escapeByte c ++ jsonEscape s := by
  simp [jsonEscape]

@[simp] theorem jsonEscape_append (s t : Bytes) :
    jsonEscape (s ++ t) = jsonEscape s ++ jsonEscape t := by
  simp [jsonEscape]

end CurlValidation
