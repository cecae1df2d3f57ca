import CurlValidation.JsonEscape
import CurlValidation.Json

/-!
# Escaping a string

Each byte's escape is one of three shapes: a two-byte escape, a `\u00XX` escape for the other
control bytes, or the byte itself. So an escaped string is made only of plain bytes and those
escapes, and reading it back as the body of a JSON string gives the string again
(`readString_jsonEscape`).

`json_escape_string` appends the escapes to a dynbuf of limit 1024 and ignores a failed append.
While the whole escape and its NUL fit, the buffer ends with all of it. The first append that does
not fit empties the buffer, and the later ones start again from nothing, so the buffer ends with the
escape of a suffix of the string that misses at least the byte whose escape did not fit.
-/

namespace CurlValidation

/-- A string body made only of plain bytes (at least `0x20`, neither `"` nor `\`) and the escapes
`\"`, `\\`, `\b`, `\f`, `\n`, `\r`, `\t` and `\u00XX`. -/
inductive ListedEscapes : Bytes → Prop
  | nil : ListedEscapes []
  | plain {c : UInt8} {rest : Bytes} : 0x20 ≤ c → c ≠ 0x22 → c ≠ 0x5C → ListedEscapes rest →
      ListedEscapes (c :: rest)
  | short {e : UInt8} {rest : Bytes} : e ∈ [0x22, 0x5C, 0x62, 0x66, 0x6E, 0x72, 0x74] →
      ListedEscapes rest → ListedEscapes (0x5C :: e :: rest)
  | unicode {a b : UInt8} {rest : Bytes} : (Json.hexValue a).isSome → (Json.hexValue b).isSome →
      ListedEscapes rest → ListedEscapes (0x5C :: 0x75 :: 0x30 :: 0x30 :: a :: b :: rest)

/-! ### One byte -/

theorem hexValue_hexDigit : ∀ n < 16, Json.hexValue (hexDigit n) = some n := by decide

/-- `%04x` of a byte below 32: two zeros, then its two hexadecimal digits. -/
theorem hex04_of_lt {c : UInt8} (hc : c < 32) :
    hex04 c.toNat = [0x30, 0x30, hexDigit (c.toNat / 16), hexDigit (c.toNat % 16)] := by
  have hc' : c.toNat < 32 := hc
  simp only [hex04, Nat.div_eq_of_lt (show c.toNat < 4096 by omega),
    Nat.div_eq_of_lt (show c.toNat < 256 by omega),
    Nat.mod_eq_of_lt (show c.toNat / 16 < 16 by omega)]
  rfl

/-- The three shapes of one byte's escape. -/
theorem escapeByte_cases (c : UInt8) :
    (∃ e, escapeByte c = [0x5C, e] ∧ e ∈ [0x22, 0x5C, 0x62, 0x66, 0x6E, 0x72, 0x74] ∧
        Json.shortEscape e = some c) ∨
      (c < 0x20 ∧ escapeByte c =
        [0x5C, 0x75, 0x30, 0x30, hexDigit (c.toNat / 16), hexDigit (c.toNat % 16)]) ∨
      (escapeByte c = [c] ∧ 0x20 ≤ c ∧ c ≠ 0x22 ∧ c ≠ 0x5C) := by
  by_cases hnamed : c ∈ [0x22, 0x5C, 0x08, 0x0C, 0x0A, 0x0D, 0x09]
  · simp only [List.mem_cons, List.not_mem_nil, or_false] at hnamed
    rcases hnamed with rfl | rfl | rfl | rfl | rfl | rfl | rfl <;>
      exact .inl ⟨_, rfl, by decide, rfl⟩
  simp only [List.mem_cons, List.not_mem_nil, or_false, not_or] at hnamed
  obtain ⟨h1, h2, h3, h4, h5, h6, h7⟩ := hnamed
  rw [escapeByte, if_neg h1, if_neg h2, if_neg h3, if_neg h4, if_neg h5, if_neg h6, if_neg h7]
  by_cases h8 : c < 32
  · rw [if_pos h8, hex04_of_lt h8]
    exact .inr (.inl ⟨h8, rfl⟩)
  · rw [if_neg h8]
    exact .inr (.inr ⟨rfl, UInt8.not_lt.mp h8, h1, h2⟩)

theorem escapeByte_ne_nil (c : UInt8) : escapeByte c ≠ [] := by
  rcases escapeByte_cases c with ⟨e, he, -⟩ | ⟨-, he⟩ | ⟨he, -⟩ <;> simp [he]

/-- Reading one byte's escape gives the byte back. -/
theorem readChar_escapeByte (c : UInt8) (rest : Bytes) :
    Json.readChar (escapeByte c ++ rest) = some ([c], rest) := by
  rcases escapeByte_cases c with ⟨e, he, -, hs⟩ | ⟨hlt, he⟩ | ⟨he, hge, hq, hb⟩
  · rw [he]
    exact Json.readChar_short rest hs
  · have hc : c.toNat < 32 := hlt
    have hhex : Json.hex4 0x30 0x30 (hexDigit (c.toNat / 16)) (hexDigit (c.toNat % 16)) =
        some c.toNat := by
      have h0 : Json.hexValue 0x30 = some 0 := rfl
      simp only [Json.hex4, h0, hexValue_hexDigit _ (show c.toNat / 16 < 16 by omega),
        hexValue_hexDigit _ (Nat.mod_lt _ (by decide)), Option.some_bind, Option.bind_eq_bind]
      congr 1
      omega
    have hutf : Json.utf8Encode c.toNat = [c] := by
      simp [Json.utf8Encode, show c.toNat < 128 by omega]
    rw [he, ← hutf]
    exact Json.readChar_unicode rest hhex (by omega)
  · rw [he]
    exact Json.readChar_plain rest hge hq hb

@[simp] theorem prepend_some (p s rest : Bytes) :
    Json.prepend p (some (s, rest)) = some (p ++ s, rest) := rfl

/-- **Reading an escape back.** The escape of any byte string, followed by a closing quote, reads
as a JSON string body that decodes to the string, given a unit of fuel per escaped byte. -/
theorem readString_jsonEscape (s rest : Bytes) :
    ∀ fuel, (jsonEscape s).length < fuel →
      Json.readString fuel (jsonEscape s ++ 0x22 :: rest) = some (s, rest) := by
  induction s with
  | nil => rintro (_ | fuel) h <;> simp_all
  | cons c s ih =>
    rintro (_ | fuel) h
    · omega
    have hlen : (jsonEscape s).length < fuel := by
      have := List.length_pos.mpr (escapeByte_ne_nil c)
      simp only [jsonEscape_cons, List.length_append] at h
      omega
    rw [jsonEscape_cons, List.append_assoc, Json.readString_char (readChar_escapeByte c _),
      ih fuel hlen]
    rfl

/-- The escape between two quotes is a JSON text holding the string. -/
theorem parseJson_quote_jsonEscape (s : Bytes) :
    parseJson (0x22 :: jsonEscape s ++ [0x22]) = some (.string s) := by
  rw [parseJson, List.cons_append, Json.skipWs_quote, Json.readValue_quote,
    readString_jsonEscape s [] _ (by simp; omega)]
  rfl

theorem listedEscapes_append {s t : Bytes} (hs : ListedEscapes s) (ht : ListedEscapes t) :
    ListedEscapes (s ++ t) := by
  induction hs with
  | nil => exact ht
  | plain h1 h2 h3 _ ih => exact .plain h1 h2 h3 ih
  | short h _ ih => exact .short h ih
  | unicode ha hb _ ih => exact .unicode ha hb ih

theorem listedEscapes_escapeByte (c : UInt8) : ListedEscapes (escapeByte c) := by
  rcases escapeByte_cases c with ⟨e, he, hmem, -⟩ | ⟨hlt, he⟩ | ⟨he, hge, hq, hb⟩
  · rw [he]
    exact .short hmem .nil
  · have hc : c.toNat < 32 := hlt
    rw [he]
    exact .unicode (by rw [hexValue_hexDigit _ (by omega)]; rfl)
      (by rw [hexValue_hexDigit _ (Nat.mod_lt _ (by decide))]; rfl) .nil
  · rw [he]
    exact .plain hge hq hb .nil

theorem listedEscapes_jsonEscape (s : Bytes) : ListedEscapes (jsonEscape s) := by
  induction s with
  | nil => exact .nil
  | cons c s ih => exact listedEscapes_append (listedEscapes_escapeByte c) ih

/-! ### The escape loop -/

section Loop

variable {s : Bytes} {buf : Dynbuf}

@[simp] theorem toobig_escapeLoop (s : Bytes) (buf : Dynbuf) :
    (escapeLoop s buf).toobig = buf.toobig := by
  induction s generalizing buf with
  | nil => rfl
  | cons c s ih =>
    simp only [escapeLoop]
    split_ifs
    · rfl
    · rw [ih, Dynbuf.toobig_addn]

/-- While everything fits, the loop appends the whole escape. -/
theorem escapeLoop_of_fits (hs : 0 ∉ s)
    (hfit : (buf.text ++ jsonEscape s).length + 1 ≤ buf.toobig) :
    (escapeLoop s buf).text = buf.text ++ jsonEscape s := by
  induction s generalizing buf with
  | nil => simp [escapeLoop]
  | cons c s ih =>
    have hc : c ≠ 0 := fun h => hs (h ▸ List.mem_cons_self _ _)
    simp only [jsonEscape_cons, List.length_append] at hfit
    obtain ⟨-, htext, -⟩ := @Dynbuf.addn_of_fits buf (escapeByte c) (by omega)
    simp only [escapeLoop, if_neg hc]
    rw [ih (fun h => hs (List.mem_cons_of_mem _ h)) (by simp [htext]; omega), htext,
      jsonEscape_cons,
      List.append_assoc]

/-- Whatever fits, the loop ends with the whole escape appended, or with the escape of a suffix that
misses at least the first byte. -/
theorem escapeLoop_suffix (hs : 0 ∉ s) :
    (escapeLoop s buf).text = buf.text ++ jsonEscape s ∨
      ∃ k, 0 < k ∧ k ≤ s.length ∧ (escapeLoop s buf).text = jsonEscape (s.drop k) := by
  induction s generalizing buf with
  | nil => exact .inl (by simp [escapeLoop])
  | cons c s ih =>
    have hc : c ≠ 0 := fun h => hs (h ▸ List.mem_cons_self _ _)
    have hs' : 0 ∉ s := fun h => hs (List.mem_cons_of_mem _ h)
    obtain ⟨-, htext, -⟩ := Dynbuf.addn_spec buf (escapeByte c)
    simp only [escapeLoop, if_neg hc]
    rcases @ih (buf.addn (escapeByte c)).2 hs' with h | ⟨k, hk, hkle, h⟩
    · split_ifs at htext
      · exact .inl (by rw [h, htext, jsonEscape_cons, List.append_assoc])
      · exact .inr ⟨1, by omega, by simp, by rw [h, htext]; rfl⟩
    · exact .inr ⟨k + 1, by omega, by simp; omega, by rw [h]; rfl⟩

/-- The loop over two pieces is the loop over the first, continued over the second. -/
theorem escapeLoop_append (t : Bytes) (hs : 0 ∉ s) :
    escapeLoop (s ++ t) buf = escapeLoop t (escapeLoop s buf) := by
  induction s generalizing buf with
  | nil => rfl
  | cons c s ih =>
    simp only [List.cons_append, escapeLoop,
      if_neg (fun h : c = 0 => hs (h ▸ List.mem_cons_self _ _))]
    exact ih (fun h => hs (List.mem_cons_of_mem _ h))

end Loop

/-- What `json_escape_string` returns for a NUL-free string, `NULL` read as empty: the whole escape
when it has at most 1023 bytes, and otherwise the escape of a suffix missing at least one byte. -/
theorem jsonEscapeString_text (s : Bytes) (hs : 0 ∉ s) :
    ∃ k ≤ s.length, ((ValidationJson.jsonEscapeString (some s)).getD [] = jsonEscape (s.drop k)) ∧
      (k = 0 ↔ (jsonEscape s).length < 1024) := by
  have htext : (ValidationJson.jsonEscapeString (some s)).getD [] =
      (escapeLoop s (Dynbuf.init 1024)).text := rfl
  by_cases hfit : (jsonEscape s).length < 1024
  · refine ⟨0, Nat.zero_le _, ?_, iff_of_true rfl hfit⟩
    rw [htext, escapeLoop_of_fits hs (by simp; omega)]
    rfl
  · rcases @escapeLoop_suffix s (Dynbuf.init 1024) hs with h | ⟨k, hk, hkle, h⟩
    · have hlt := (escapeLoop s (Dynbuf.init 1024)).text_length_lt (by simp)
      rw [h, toobig_escapeLoop] at hlt
      simp at hlt
      omega
    · exact ⟨k, hkle, by rw [htext, h], iff_of_false (by omega) hfit⟩

/-- The escape when it fits: nothing for the empty string, whose buffer was never allocated, and
otherwise the whole escape. -/
theorem jsonEscapeString_of_fits {s : Bytes} (hs : 0 ∉ s) (hfit : (jsonEscape s).length < 1024) :
    ValidationJson.jsonEscapeString (some s) = if s = [] then none else some (jsonEscape s) := by
  split_ifs with hnil
  · subst hnil; rfl
  have htext := @escapeLoop_of_fits s (Dynbuf.init 1024) hs (by simp; omega)
  obtain ⟨c, t, rfl⟩ := List.exists_cons_of_ne_nil hnil
  rw [Dynbuf.text_init, List.nil_append] at htext
  rw [ValidationJson.jsonEscapeString, Dynbuf.ptr_eq_some_text (by
    rw [htext, jsonEscape_cons]; simp [escapeByte_ne_nil]), htext]

theorem jsonEscape_replicate_a (n : Nat) :
    jsonEscape (List.replicate n 0x61) = List.replicate n 0x61 := by
  induction n with
  | zero => rfl
  | succ n ih => rw [List.replicate_succ, jsonEscape_cons, ih]; rfl

/-- 1024 bytes `a`: the last of them does not fit the buffer with its NUL, and the append frees
it, so the loop goes on from a fresh buffer. -/
theorem escapeLoop_replicate_a (t : Bytes) :
    escapeLoop (List.replicate 1024 0x61 ++ t) (Dynbuf.init 1024) =
      escapeLoop t (Dynbuf.init 1024) := by
  have hA : 0 ∉ List.replicate 1023 (0x61 : UInt8) :=
    fun h => absurd (List.mem_replicate.mp h).2 (by decide)
  have hfull : (escapeLoop (List.replicate 1023 0x61) (Dynbuf.init 1024)).text =
      List.replicate 1023 0x61 := by
    rw [escapeLoop_of_fits hA, Dynbuf.text_init, List.nil_append, jsonEscape_replicate_a]
    rw [Dynbuf.text_init, List.nil_append, jsonEscape_replicate_a, List.length_replicate]
    decide
  have hfree : ((escapeLoop (List.replicate 1023 0x61) (Dynbuf.init 1024)).addn
      (escapeByte 0x61)).2 = Dynbuf.init 1024 := by
    rw [(Dynbuf.addn_of_too_large ?_).2, Dynbuf.free, toobig_escapeLoop, Dynbuf.toobig_init]
    rw [hfull, toobig_escapeLoop, Dynbuf.toobig_init, List.length_replicate]
    decide
  rw [List.replicate_succ', List.append_assoc, escapeLoop_append _ hA, List.singleton_append,
    escapeLoop, if_neg (by decide), hfree]

/-- A string of 1024 bytes `a` and then `xyz`. The 1024th `a` does not fit the buffer of 1024 bytes
with its NUL: the append frees the buffer, the loop goes on from nothing, and both copies return
the escape of `xyz` alone, which reads back as `xyz`. -/
theorem escape_of_long_string_is_its_tail :
    ValidationJson.jsonEscapeString (some (List.replicate 1024 0x61 ++ ascii "xyz")) =
        some (ascii "xyz") ∧
      ValidationPayrollCeo.jsonEscapeString (some (List.replicate 1024 0x61 ++ ascii "xyz")) =
        some (ascii "xyz") ∧
      parseJson (0x22 :: ascii "xyz" ++ [0x22]) = some (.string (ascii "xyz")) := by
  have hjson : ValidationJson.jsonEscapeString (some (List.replicate 1024 0x61 ++ ascii "xyz")) =
      some (ascii "xyz") := by
    rw [ValidationJson.jsonEscapeString, escapeLoop_replicate_a]
    rfl
  exact ⟨hjson, hjson, parseJson_quote_jsonEscape (ascii "xyz")⟩

/-! ### No NUL

A NUL byte escapes to `\u0000`, so no escape holds one, and neither does anything the loop leaves
in its buffer. -/

theorem hexDigit_ne_zero : ∀ n < 16, hexDigit n ≠ 0 := by decide

theorem zero_not_mem_escapeByte (c : UInt8) : 0 ∉ escapeByte c := by
  rcases escapeByte_cases c with ⟨e, he, hmem, -⟩ | ⟨hlt, he⟩ | ⟨he, hge, -⟩ <;>
    simp only [he, List.mem_cons, List.not_mem_nil, or_false, not_or]
  · refine ⟨by decide, fun h0 => absurd (h0 ▸ hmem) (by decide)⟩
  · have hc : c.toNat < 32 := hlt
    exact ⟨by decide, by decide, by decide, by decide,
      (hexDigit_ne_zero _ (by omega)).symm, (hexDigit_ne_zero _ (Nat.mod_lt _ (by decide))).symm⟩
  · exact fun h0 => absurd (h0 ▸ hge) (by decide)

theorem zero_not_mem_escapeLoop (s : Bytes) {buf : Dynbuf} (hbuf : 0 ∉ buf.text) :
    0 ∉ (escapeLoop s buf).text := by
  induction s generalizing buf with
  | nil => exact hbuf
  | cons c s ih =>
    simp only [escapeLoop]
    split_ifs
    · exact hbuf
    · apply ih
      rcases Dynbuf.text_addn_cases buf (escapeByte c) with h | h <;>
        simp only [h, List.mem_append, List.not_mem_nil, not_false_eq_true, not_or]
      exact ⟨hbuf, zero_not_mem_escapeByte c⟩

/-- Whatever its argument, `json_escape_string` returns `NULL` or a text without a NUL byte. -/
theorem zero_not_mem_jsonEscapeString (str : Option Bytes) {d : Bytes} (hd : 0 ∉ d) :
    0 ∉ (ValidationJson.jsonEscapeString str).getD d := by
  cases str with
  | none => exact List.not_mem_nil _
  | some s =>
    rcases Dynbuf.ptr_eq_none_or_text (escapeLoop s (Dynbuf.init 1024)) with h | h <;>
      simp only [ValidationJson.jsonEscapeString, h, Option.getD_none, Option.getD_some]
    exacts [hd, zero_not_mem_escapeLoop s (List.not_mem_nil _)]

end CurlValidation
