import CurlValidation.Basic

/-!
# JSON text

The grammar of RFC 8259 over bytes: whitespace, the three literals, numbers, strings with all their
escapes, arrays and objects. A number keeps its literal; a string its decoded bytes, where a `\u`
escape stands for the UTF-8 bytes of its code point and a surrogate pair for the one character it
encodes (a lone surrogate encodes no character and is not read). The reader runs on fuel, one unit
per value and per element or member, and `parseJson` gives it one more unit than the text has
bytes; the grammar matches a text when one value fills it, up to whitespace.

The grammar takes a byte from `0x80` on inside a string as it stands. A JSON text is also UTF-8
(RFC 8259, section 8.1), and every byte the grammar reads outside a string body is ASCII, so
`parseJsonText` reads a JSON text: the grammar, on a text whose bytes spell UTF-8 characters
(RFC 3629, checked by `utf8Valid`).
-/

namespace CurlValidation

/-- A JSON value. Members keep their order, repeated keys included. -/
inductive JsonValue
  | null
  | bool (b : Bool)
  | number (literal : Bytes)
  | string (s : Bytes)
  | array (elems : List JsonValue)
  | object (members : List (Bytes × JsonValue))

namespace Json

/-- Space, tab, line feed and carriage return. -/
def isWs (c : UInt8) : Bool := c == 0x20 || c == 0x09 || c == 0x0A || c == 0x0D

def skipWs (t : Bytes) : Bytes := t.dropWhile isWs

def isDigit (c : UInt8) : Bool := 0x30 ≤ c && c ≤ 0x39

/-! ### Strings -/

/-- The value of a hexadecimal digit, either case. -/
def hexValue (c : UInt8) : Option Nat :=
  if 0x30 ≤ c ∧ c ≤ 0x39 then some (c.toNat - 0x30)
  else if 0x61 ≤ c ∧ c ≤ 0x66 then some (c.toNat - 0x61 + 10)
  else if 0x41 ≤ c ∧ c ≤ 0x46 then some (c.toNat - 0x41 + 10)
  else none

/-- The value of four hexadecimal digits. -/
def hex4 (a b c d : UInt8) : Option Nat := do
  let a ← hexValue a
  let b ← hexValue b
  let c ← hexValue c
  let d ← hexValue d
  some (((a * 16 + b) * 16 + c) * 16 + d)

/-- The UTF-8 bytes of a code point below `0x110000`. -/
def utf8Encode (cp : Nat) : Bytes :=
  if cp < 0x80 then [cp.toUInt8]
  else if cp < 0x800 then [(0xC0 + cp / 64).toUInt8, (0x80 + cp % 64).toUInt8]
  else if cp < 0x10000 then
    [(0xE0 + cp / 4096).toUInt8, (0x80 + cp / 64 % 64).toUInt8, (0x80 + cp % 64).toUInt8]
  else
    [(0xF0 + cp / 262144).toUInt8, (0x80 + cp / 4096 % 64).toUInt8,
      (0x80 + cp / 64 % 64).toUInt8, (0x80 + cp % 64).toUInt8]

/-- The byte a one-letter escape stands for: `\"`, `\\`, `\/`, `\b`, `\f`, `\n`, `\r`, `\t`. -/
def shortEscape (c : UInt8) : Option UInt8 :=
  if c = 0x22 then some 0x22
  else if c = 0x5C then some 0x5C
  else if c = 0x2F then some 0x2F
  else if c = 0x62 then some 0x08
  else if c = 0x66 then some 0x0C
  else if c = 0x6E then some 0x0A
  else if c = 0x72 then some 0x0D
  else if c = 0x74 then some 0x09
  else none

/-- Put decoded bytes in front of what the rest of a string decodes to. -/
def prepend (p : Bytes) (r : Option (Bytes × Bytes)) : Option (Bytes × Bytes) :=
  r.map fun x => (p ++ x.1, x.2)

/-- The value of exactly four hexadecimal digits. -/
def hexQuad : Bytes → Option Nat
  | [a, b, c, d] => hex4 a b c d
  | _ => none

/-- The code point of a `\u` escape, after the `\u`: four digits, and for a high surrogate the
`\u` escape of the low one; the bytes it stands for and the text after it. -/
def readUnicode (t : Bytes) : Option (Bytes × Bytes) :=
  match hexQuad (t.take 4) with
  | none => none
  | some hi =>
    if hi < 0xD800 ∨ 0xE000 ≤ hi then some (utf8Encode hi, t.drop 4)
    else if 0xDC00 ≤ hi then none
    else if (t.drop 4).take 2 = [0x5C, 0x75] then
      match hexQuad ((t.drop 6).take 4) with
      | some lo =>
        if 0xDC00 ≤ lo ∧ lo < 0xE000 then
          some (utf8Encode (0x10000 + (hi - 0xD800) * 0x400 + (lo - 0xDC00)), t.drop 10)
        else none
      | none => none
    else none

/-- One character of a string body: the bytes it stands for and the text after it. A quote ends
the body and a byte below `0x20` must be escaped, so neither is a character. A byte from `0x80` on
is taken as it stands; that the bytes spell UTF-8 is checked on the whole text (`utf8Valid`). -/
def readChar : Bytes → Option (Bytes × Bytes)
  | [] => none
  | c :: rest =>
    if c = 0x22 ∨ c < 0x20 then none
    else if c ≠ 0x5C then some ([c], rest)
    else match rest with
      | [] => none
      | e :: rest =>
        match shortEscape e with
        | some b => some ([b], rest)
        | none => if e = 0x75 then readUnicode rest else none

/-- The characters of a string after its opening quote, up to the closing quote: the decoded
bytes, and the text after the closing quote. It runs on fuel, one unit per character. -/
def readString : Nat → Bytes → Option (Bytes × Bytes)
  | 0, _ => none
  | fuel + 1, t =>
    match t with
    | 0x22 :: rest => some ([], rest)
    | t =>
      match readChar t with
      | none => none
      | some (bs, rest) => prepend bs (readString fuel rest)

@[simp] theorem readString_quote (fuel : Nat) (rest : Bytes) :
    readString (fuel + 1) (0x22 :: rest) = some ([], rest) := rfl

theorem readString_char {fuel : Nat} {t bs rest : Bytes} (h : readChar t = some (bs, rest)) :
    readString (fuel + 1) t = prepend bs (readString fuel rest) := by
  rw [readString, h]
  rintro r rfl
  simp [readChar] at h

theorem readChar_plain {c : UInt8} (rest : Bytes) (h1 : 0x20 ≤ c) (h2 : c ≠ 0x22)
    (h3 : c ≠ 0x5C) : readChar (c :: rest) = some ([c], rest) := by
  simp [readChar, h2, h3, UInt8.not_lt.mpr h1]

theorem readChar_short {e b : UInt8} (rest : Bytes) (h : shortEscape e = some b) :
    readChar (0x5C :: e :: rest) = some ([b], rest) := by
  simp [readChar, h]

theorem readChar_unicode {a b c d : UInt8} {v : Nat} (rest : Bytes) (h : hex4 a b c d = some v)
    (hv : v < 0xD800) :
    readChar (0x5C :: 0x75 :: a :: b :: c :: d :: rest) = some (utf8Encode v, rest) := by
  simp [readChar, readUnicode, hexQuad, h, hv, show shortEscape 0x75 = none from rfl]

/-! ### Numbers

`number = [ "-" ] int [ frac ] [ exp ]`, with `int = "0" / digit1-9 *digit`,
`frac = "." 1*digit` and `exp = ("e" / "E") [ "-" / "+" ] 1*digit`. A reader returns the literal
it read and the text after it. -/

/-- One or more digits. -/
def readDigits (t : Bytes) : Option (Bytes × Bytes) :=
  match t.takeWhile isDigit with
  | [] => none
  | ds => some (ds, t.dropWhile isDigit)

/-- `f`, then `g` on what `f` leaves, the two literals joined. -/
def andThen (f g : Bytes → Option (Bytes × Bytes)) (t : Bytes) : Option (Bytes × Bytes) :=
  (f t).bind fun x => (g x.2).map fun y => (x.1 ++ y.1, y.2)

/-- A byte satisfying `p` if one comes first, and nothing otherwise. -/
def readOptional (p : UInt8 → Bool) : Bytes → Option (Bytes × Bytes)
  | c :: rest => if p c then some ([c], rest) else some ([], c :: rest)
  | [] => some ([], [])

def readInt : Bytes → Option (Bytes × Bytes)
  | c :: rest => if c = 0x30 then some ([c], rest) else readDigits (c :: rest)
  | [] => none

def readFrac : Bytes → Option (Bytes × Bytes)
  | c :: rest =>
    if c = 0x2E then (readDigits rest).map fun x => (c :: x.1, x.2) else some ([], c :: rest)
  | [] => some ([], [])

def readExp : Bytes → Option (Bytes × Bytes)
  | c :: rest =>
    if c = 0x65 ∨ c = 0x45 then
      (andThen (readOptional fun s => s == 0x2B || s == 0x2D) readDigits rest).map
        fun x => (c :: x.1, x.2)
    else some ([], c :: rest)
  | [] => some ([], [])

def readNumber : Bytes → Option (Bytes × Bytes) :=
  andThen (readOptional (· == 0x2D)) (andThen readInt (andThen readFrac readExp))

/-! ### Values -/

/-- The literal `word` at the front of the text, read as `v`. -/
def readWord (word : Bytes) (v : JsonValue) (t : Bytes) : Option (JsonValue × Bytes) :=
  if t.take word.length = word then some (v, t.drop word.length) else none

mutual

/-- A value at the front of the text, its whitespace already skipped. -/
def readValue : Nat → Bytes → Option (JsonValue × Bytes)
  | 0, _ => none
  | _ + 1, [] => none
  | fuel + 1, c :: rest =>
    if c = 0x7B then
      if (skipWs rest).head? = some 0x7D then some (.object [], (skipWs rest).tail)
      else readMembers fuel (skipWs rest) []
    else if c = 0x5B then
      if (skipWs rest).head? = some 0x5D then some (.array [], (skipWs rest).tail)
      else readElements fuel (skipWs rest) []
    else if c = 0x22 then (readString (rest.length + 1) rest).map fun x => (.string x.1, x.2)
    else if c = 0x74 then readWord (ascii "true") (.bool true) (c :: rest)
    else if c = 0x66 then readWord (ascii "false") (.bool false) (c :: rest)
    else if c = 0x6E then readWord (ascii "null") .null (c :: rest)
    else (readNumber (c :: rest)).map fun x => (.number x.1, x.2)

/-- The elements of an array after its first `[`, those read so far in `acc`. -/
def readElements : Nat → Bytes → List JsonValue → Option (JsonValue × Bytes)
  | 0, _, _ => none
  | fuel + 1, t, acc =>
    match readValue fuel t with
    | none => none
    | some (v, rest) =>
      match skipWs rest with
      | [] => none
      | c :: rest' =>
        if c = 0x2C then readElements fuel (skipWs rest') (acc ++ [v])
        else if c = 0x5D then some (.array (acc ++ [v]), rest')
        else none

/-- The members of an object after its first `{`, those read so far in `acc`. -/
def readMembers : Nat → Bytes → List (Bytes × JsonValue) → Option (JsonValue × Bytes)
  | 0, _, _ => none
  | _ + 1, [], _ => none
  | fuel + 1, c :: rest, acc =>
    if c ≠ 0x22 then none else
    match readString (rest.length + 1) rest with
    | none => none
    | some (key, rest) =>
      if (skipWs rest).head? ≠ some 0x3A then none else
      match readValue fuel (skipWs (skipWs rest).tail) with
      | none => none
      | some (v, rest) =>
        match skipWs rest with
        | [] => none
        | c :: rest' =>
          if c = 0x2C then readMembers fuel (skipWs rest') (acc ++ [(key, v)])
          else if c = 0x7D then some (.object (acc ++ [(key, v)]), rest')
          else none

end

@[simp] theorem skipWs_quote (rest : Bytes) : skipWs (0x22 :: rest) = 0x22 :: rest := rfl

theorem readValue_object (fuel : Nat) (rest : Bytes) :
    readValue (fuel + 1) (0x7B :: rest) =
      if (skipWs rest).head? = some 0x7D then some (.object [], (skipWs rest).tail)
      else readMembers fuel (skipWs rest) [] := rfl

theorem readValue_array (fuel : Nat) (rest : Bytes) :
    readValue (fuel + 1) (0x5B :: rest) =
      if (skipWs rest).head? = some 0x5D then some (.array [], (skipWs rest).tail)
      else readElements fuel (skipWs rest) [] := rfl

theorem readValue_quote (fuel : Nat) (rest : Bytes) :
    readValue (fuel + 1) (0x22 :: rest) =
      (readString (rest.length + 1) rest).map fun x => (.string x.1, x.2) := rfl

/-! ### UTF-8 -/

/-- Where a UTF-8 decoder stands: at a character boundary, or inside a character, waiting for a
continuation byte in `[lo, hi]` and then `n` more in `[0x80, 0xBF]`. -/
inductive Utf8State
  | start
  | expect (lo hi : UInt8) (n : Nat)
deriving DecidableEq, Repr

/-- One byte of a UTF-8 text (the table of RFC 3629, section 4), `none` when it cannot come next:
overlong forms, surrogates and code points past `0x10FFFF` have no encoding. -/
def utf8Step : Utf8State → UInt8 → Option Utf8State
  | .start, c =>
    if c < 0x80 then some .start
    else if 0xC2 ≤ c ∧ c ≤ 0xDF then some (.expect 0x80 0xBF 0)
    else if c = 0xE0 then some (.expect 0xA0 0xBF 1)
    else if 0xE1 ≤ c ∧ c ≤ 0xEC ∨ 0xEE ≤ c ∧ c ≤ 0xEF then some (.expect 0x80 0xBF 1)
    else if c = 0xED then some (.expect 0x80 0x9F 1)
    else if c = 0xF0 then some (.expect 0x90 0xBF 2)
    else if 0xF1 ≤ c ∧ c ≤ 0xF3 then some (.expect 0x80 0xBF 2)
    else if c = 0xF4 then some (.expect 0x80 0x8F 2)
    else none
  | .expect lo hi n, c =>
    if 0x80 ≤ c ∧ lo ≤ c ∧ c ≤ hi then
      some (match n with
        | 0 => .start
        | n + 1 => .expect 0x80 0xBF n)
    else none

/-- The bytes spell whole UTF-8 characters. -/
def utf8Valid (t : Bytes) : Bool := t.foldlM utf8Step .start == some .start

/-- An ASCII byte stands alone: it is read at a character boundary and nowhere else. -/
theorem utf8Step_ascii {c : UInt8} (hc : c < 0x80) (st : Utf8State) :
    utf8Step st c = if st = .start then some .start else none := by
  cases st with
  | start => simp [utf8Step, hc]
  | expect lo hi n =>
    have : ¬0x80 ≤ c := fun h => absurd (show (0x80 : UInt8).toNat ≤ c.toNat from h)
      (Nat.not_le.mpr hc)
    simp [utf8Step, this]

end Json

/-- The value the JSON grammar reads from a text, `none` when the grammar does not match it. -/
def parseJson (text : Bytes) : Option JsonValue :=
  match Json.readValue (text.length + 1) (Json.skipWs text) with
  | some (v, rest) => if Json.skipWs rest = [] then some v else none
  | none => none

/-- The value a JSON text holds, `none` when the text is not JSON: the grammar, on UTF-8. -/
def parseJsonText (text : Bytes) : Option JsonValue :=
  if Json.utf8Valid text then parseJson text else none

namespace JsonValue

/-- The first member named `key` of an object. -/
def get? (key : Bytes) : JsonValue → Option JsonValue
  | .object members => (members.find? (·.1 == key)).map (·.2)
  | _ => none

/-- Element `i` of an array. -/
def at? (i : Nat) : JsonValue → Option JsonValue
  | .array elems => elems.get? i
  | _ => none

def string? : JsonValue → Option Bytes
  | .string s => some s
  | _ => none

end JsonValue

end CurlValidation
