import CurlValidation.Proof.JsonRoundTrip

/-!
# Printed values as JSON text

`json_escape_string` escapes only ASCII bytes, each into ASCII bytes, and copies every byte from
`0x80` on. A UTF-8 decoder takes an ASCII byte only at a character boundary, so it reads the escape
of a string exactly as it reads the string (`foldlM_jsonEscape`), and a quoted escape is UTF-8
exactly when the string is. Everything else a printed value holds is ASCII, so a printed value is
JSON text exactly when each of its strings and keys is UTF-8 (`parseJsonText_renderTo`).

A string the escape buffer cut keeps a suffix, and a suffix need not start at a character
boundary: the grammar still reads the text, but it is not JSON.
-/

namespace CurlValidation

namespace Json

mutual

/-- Every string and every key of the value spells UTF-8. -/
def stringsUtf8 : JsonValue → Bool
  | .string s => utf8Valid s
  | .array elems => elemsUtf8 elems
  | .object members => membersUtf8 members
  | _ => true

def elemsUtf8 : List JsonValue → Bool
  | [] => true
  | v :: vs => stringsUtf8 v && elemsUtf8 vs

def membersUtf8 : List (Bytes × JsonValue) → Bool
  | [] => true
  | (k, v) :: ms => utf8Valid k && stringsUtf8 v && membersUtf8 ms

end

/-! ### ASCII -/

section Ascii

variable {l : Bytes}

/-- From a character boundary, ASCII bytes keep the decoder there. -/
theorem foldlM_ascii_append (hl : ∀ c ∈ l, c < 0x80) (rest : Bytes) :
    (l ++ rest).foldlM utf8Step .start = rest.foldlM utf8Step .start := by
  induction l with
  | nil => rfl
  | cons c l ih =>
    rw [List.cons_append, List.foldlM_cons, utf8Step_ascii (hl c (List.mem_cons_self c l)),
      if_pos rfl]
    exact ih fun b hb => hl b (List.mem_cons_of_mem c hb)

/-- A run of ASCII bytes is read as one ASCII byte is. -/
theorem foldlM_ascii (hne : l ≠ []) (hl : ∀ c ∈ l, c < 0x80) (st : Utf8State) :
    l.foldlM utf8Step st = if st = .start then some .start else none := by
  obtain ⟨c, l, rfl⟩ := List.exists_cons_of_ne_nil hne
  rw [List.foldlM_cons, utf8Step_ascii (hl c (List.mem_cons_self c l))]
  split_ifs
  · simpa using foldlM_ascii_append (fun b hb => hl b (List.mem_cons_of_mem c hb)) []
  · rfl

theorem foldlM_ascii_cons {c : UInt8} (hc : c < 0x80) (rest : Bytes) :
    (c :: rest).foldlM utf8Step .start = rest.foldlM utf8Step .start :=
  foldlM_ascii_append (l := [c]) (by simpa using hc) rest

theorem foldlM_spaces_append (n : Nat) (rest : Bytes) :
    (spaces n ++ rest).foldlM utf8Step .start = rest.foldlM utf8Step .start :=
  foldlM_ascii_append (fun c hc => by rw [List.eq_of_mem_replicate hc]; decide) rest

theorem hexDigit_lt : ∀ n < 16, hexDigit n < 0x80 := by decide

/-- The escape of an ASCII byte is ASCII. -/
theorem escapeByte_ascii {c : UInt8} (hc : c < 0x80) : ∀ b ∈ escapeByte c, b < 0x80 := by
  rcases escapeByte_cases c with ⟨e, he, hmem, -⟩ | ⟨hlt, he⟩ | ⟨he, -⟩ <;> rw [he]
  · simp only [List.mem_cons, List.not_mem_nil, or_false] at hmem
    rcases hmem with rfl | rfl | rfl | rfl | rfl | rfl | rfl <;> decide
  · have hc' : c.toNat < 32 := hlt
    intro b hb
    simp only [List.mem_cons, List.not_mem_nil, or_false] at hb
    rcases hb with rfl | rfl | rfl | rfl | rfl | rfl
    any_goals decide
    · exact hexDigit_lt _ (by omega)
    · exact hexDigit_lt _ (Nat.mod_lt _ (by decide))
  · simpa using hc

theorem numberByte_lt {c : UInt8} (h : NumberByte c) : c < 0x80 := by
  rcases h with h | h
  · simp only [isDigit, Bool.and_eq_true, decide_eq_true_eq] at h
    have : c.toNat ≤ 57 := h.2
    exact show c.toNat < 128 by omega
  · simp only [List.mem_cons, List.not_mem_nil, or_false] at h
    rcases h with rfl | rfl | rfl | rfl | rfl <;> decide

end Ascii

/-! ### Escapes -/

/-- The decoder reads one byte's escape as it reads the byte. -/
theorem foldlM_escapeByte (c : UInt8) (st : Utf8State) :
    (escapeByte c).foldlM utf8Step st = utf8Step st c := by
  by_cases hc : c < 0x80
  · rw [foldlM_ascii (escapeByte_ne_nil c) (escapeByte_ascii hc), utf8Step_ascii hc]
  · have h80 : 0x80 ≤ c.toNat := UInt8.not_lt.mp hc
    rw [escapeByte_of_ge (show 48 ≤ c.toNat by omega) (fun h => by subst h; exact hc (by decide))]
    simp

/-- **The decoder reads an escape as the string.** -/
theorem foldlM_jsonEscape (s : Bytes) (st : Utf8State) :
    (jsonEscape s).foldlM utf8Step st = s.foldlM utf8Step st := by
  induction s generalizing st with
  | nil => rfl
  | cons c s ih =>
    rw [jsonEscape_cons, List.foldlM_append, foldlM_escapeByte, List.foldlM_cons]
    simp only [ih]

/-- A string between quotes, then `rest`: UTF-8 up to `rest` exactly when the string is. -/
theorem foldlM_quoted (s rest : Bytes) :
    (0x22 :: (jsonEscape s ++ 0x22 :: rest)).foldlM utf8Step .start =
      if utf8Valid s then rest.foldlM utf8Step .start else none := by
  rw [List.foldlM_cons, utf8Step_ascii (by decide), if_pos rfl]
  show (jsonEscape s ++ 0x22 :: rest).foldlM utf8Step .start = _
  rw [List.foldlM_append, foldlM_jsonEscape, utf8Valid]
  rcases s.foldlM utf8Step .start with _ | _ | ⟨lo, hi, n⟩
  · rfl
  · simp [utf8Step_ascii]
  · simp [utf8Step_ascii]

theorem utf8Valid_quote_jsonEscape (s : Bytes) :
    utf8Valid (0x22 :: jsonEscape s ++ [0x22]) = utf8Valid s := by
  conv_lhs => rw [utf8Valid, List.cons_append, foldlM_quoted]
  cases utf8Valid s <;> rfl

/-! ### Printed values -/

/-- Two nested checks are one. -/
theorem ite_ite_none {α : Type} (a b : Bool) (x : Option α) :
    (if a then (if b then x else none) else none) = if (a && b) then x else none := by
  cases a <;> cases b <;> rfl

mutual

/-- A printed value, then `rest`: UTF-8 up to `rest` exactly when its strings and keys are. -/
theorem foldlM_renderTo (ind : Nat) : ∀ (v : JsonValue) (rest : Bytes), numbersOk v = true →
    (renderTo ind v rest).foldlM utf8Step .start =
      if stringsUtf8 v then rest.foldlM utf8Step .start else none
  | .null, rest, _ => foldlM_ascii_append (by decide) rest
  | .bool true, rest, _ => foldlM_ascii_append (by decide) rest
  | .bool false, rest, _ => foldlM_ascii_append (by decide) rest
  | .number lit, rest, h =>
    foldlM_ascii_append (fun c hc => numberByte_lt (readNumber_numberBytes
      (numbersOk_number.mp h) c hc)) rest
  | .string s, rest, _ => foldlM_quoted s rest
  | .array [], rest, _ => foldlM_ascii_append (l := [0x5B, 0x5D]) (by decide) rest
  | .array (v :: vs), rest, h => by
    simp (disch := decide) only [renderTo, foldlM_ascii_cons, foldlM_spaces_append,
      foldlM_renderElems (ind + 2) (v :: vs) _ h]
    rfl
  | .object [], rest, _ => foldlM_ascii_append (l := [0x7B, 0x7D]) (by decide) rest
  | .object (m :: ms), rest, h => by
    simp (disch := decide) only [renderTo, foldlM_ascii_cons, foldlM_spaces_append,
      foldlM_renderMembers (ind + 2) (m :: ms) _ h]
    rfl

theorem foldlM_renderElems (ind : Nat) : ∀ (vs : List JsonValue) (rest : Bytes),
    elemsNumbersOk vs = true →
      (renderElems ind vs rest).foldlM utf8Step .start =
        if elemsUtf8 vs then rest.foldlM utf8Step .start else none
  | [], rest, _ => rfl
  | [v], rest, h => by
    rw [renderElems, foldlM_spaces_append,
      foldlM_renderTo ind v rest (by simpa [elemsNumbersOk] using h)]
    simp [elemsUtf8]
  | v :: w :: ws, rest, h => by
    rw [elemsNumbersOk, Bool.and_eq_true] at h
    rw [renderElems, foldlM_spaces_append, foldlM_renderTo ind v _ h.1]
    simp (disch := decide) only [foldlM_ascii_cons, foldlM_renderElems ind (w :: ws) rest h.2,
      ite_ite_none]
    rfl

theorem foldlM_renderMembers (ind : Nat) : ∀ (ms : List (Bytes × JsonValue)) (rest : Bytes),
    membersNumbersOk ms = true →
      (renderMembers ind ms rest).foldlM utf8Step .start =
        if membersUtf8 ms then rest.foldlM utf8Step .start else none
  | [], rest, _ => rfl
  | [(k, v)], rest, h => by
    rw [renderMembers, foldlM_spaces_append, foldlM_quoted]
    simp (disch := decide) only [foldlM_ascii_cons,
      foldlM_renderTo ind v rest (by simpa [membersNumbersOk] using h), ite_ite_none]
    simp [membersUtf8]
  | (k, v) :: m :: ms, rest, h => by
    rw [membersNumbersOk, Bool.and_eq_true] at h
    rw [renderMembers, foldlM_spaces_append, foldlM_quoted]
    simp (disch := decide) only [foldlM_ascii_cons, foldlM_renderTo ind v _ h.1,
      foldlM_renderMembers ind (m :: ms) rest h.2, ite_ite_none]
    simp only [membersUtf8, Bool.and_assoc]

end

end Json

/-- **Printing a value gives JSON text exactly when its strings are UTF-8.** A value whose number
literals read as themselves, printed from column 0, is a JSON text holding the value when each of
its strings and keys spells UTF-8, and is not JSON text otherwise. -/
theorem parseJsonText_renderTo (v : JsonValue) (hv : Json.numbersOk v = true) :
    parseJsonText (Json.renderTo 0 v []) = if Json.stringsUtf8 v then some v else none := by
  rw [parseJsonText, parseJson_renderTo v hv, Json.utf8Valid, Json.foldlM_renderTo 0 v [] hv]
  cases Json.stringsUtf8 v <;> rfl

/-- A quoted escape is JSON text exactly when the string is UTF-8. -/
theorem parseJsonText_quote_jsonEscape (s : Bytes) :
    parseJsonText (0x22 :: jsonEscape s ++ [0x22]) =
      if Json.utf8Valid s then some (.string s) else none := by
  rw [parseJsonText, Json.utf8Valid_quote_jsonEscape, parseJson_quote_jsonEscape]

/-- What the escape buffer keeps of 1023 bytes `a`, then `é` and `xyz`, starts with the second
byte of `é`: the grammar reads the quoted text, but it is not JSON text. -/
example : parseJson (0x22 :: jsonEscape [0xA9, 0x78, 0x79, 0x7A] ++ [0x22]) =
      some (.string [0xA9, 0x78, 0x79, 0x7A]) ∧
    parseJsonText (0x22 :: jsonEscape [0xA9, 0x78, 0x79, 0x7A] ++ [0x22]) = none :=
  ⟨rfl, rfl⟩

/-- Both copies read back, from between two quotes, the string itself when its escape fits the
buffer with the NUL, and otherwise a proper suffix of it; the result is made only of the listed
escapes and plain bytes. The quoted result is JSON text exactly when the suffix read back is
UTF-8, so not when the cut splits a character. -/
theorem json_escape_string_reads_back_suffix (s : Bytes) (hs : 0 ∉ s) :
    ∀ escape ∈ [ValidationJson.jsonEscapeString, ValidationPayrollCeo.jsonEscapeString],
      ∃ k ≤ s.length, ListedEscapes ((escape (some s)).getD []) ∧
        parseJson (0x22 :: (escape (some s)).getD [] ++ [0x22]) = some (.string (s.drop k)) ∧
        parseJsonText (0x22 :: (escape (some s)).getD [] ++ [0x22]) =
          (if Json.utf8Valid (s.drop k) then some (.string (s.drop k)) else none) ∧
        (k = 0 ↔ (jsonEscape s).length < 1024) := by
  intro escape hmem
  obtain rfl : escape = ValidationJson.jsonEscapeString := by
    simp only [List.mem_cons, List.not_mem_nil, or_false] at hmem
    rcases hmem with rfl | rfl <;> rfl
  obtain ⟨k, hk, htext, hiff⟩ := jsonEscapeString_text s hs
  rw [htext]
  exact ⟨k, hk, listedEscapes_jsonEscape _, parseJson_quote_jsonEscape _,
    parseJsonText_quote_jsonEscape _, hiff⟩

theorem json_escape_string_reads_back_ab :
    0 ∉ ascii "ab" ∧
      ∀ escape ∈ [ValidationJson.jsonEscapeString, ValidationPayrollCeo.jsonEscapeString],
        ∃ k ≤ (ascii "ab").length, ListedEscapes ((escape (some (ascii "ab"))).getD []) ∧
          parseJson (0x22 :: (escape (some (ascii "ab"))).getD [] ++ [0x22]) =
            some (.string ((ascii "ab").drop k)) ∧
          parseJsonText (0x22 :: (escape (some (ascii "ab"))).getD [] ++ [0x22]) =
            (if Json.utf8Valid ((ascii "ab").drop k) then some (.string ((ascii "ab").drop k))
              else none) ∧
          (k = 0 ↔ (jsonEscape (ascii "ab")).length < 1024) :=
  ⟨by decide, json_escape_string_reads_back_suffix _ (by decide)⟩

end CurlValidation
