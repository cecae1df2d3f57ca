import CurlValidation.Basic

/-!
# Dynamic buffers

libcurl's `struct dynbuf`, which `validation.c`, `validation_json.c` and
`validation_payroll_ceo.c` build their texts in. `Curl_dyn_init` fixes a limit `toobig`; an
append that would make the text and its terminating NUL longer than `toobig` frees the buffer,
losing everything added so far, and fails, and a later append starts again from an empty buffer.
`Curl_dyn_ptr` is `NULL` while nothing is allocated, so after `Curl_dyn_init` and after a failed
append. The code of `lib/dynbuf.c` is not among the sources; this is its behaviour in libcurl, with
allocation taken to succeed and the capacity `allc` left out, since it decides only when to
`realloc`. The callers test the `CURLcode` of an append only against `CURLE_OK`, so an append
returns whether it succeeded.
-/

namespace CurlValidation

/-- `struct dynbuf`: the text, `none` while `bufr` is `NULL`, and the limit. -/
structure Dynbuf where
  bufr : Option Bytes
  toobig : Nat
  /-- The text and its NUL fit in `toobig` bytes. -/
  fits : ∀ b, bufr = some b → b.length < toobig

namespace Dynbuf

theorem ext {s t : Dynbuf} (hb : s.bufr = t.bufr) (ht : s.toobig = t.toobig) : s = t := by
  cases s; cases t; cases hb; cases ht; rfl

instance : DecidableEq Dynbuf := fun s t =>
  decidable_of_iff (s.bufr = t.bufr ∧ s.toobig = t.toobig)
    ⟨fun h => ext h.1 h.2, fun h => h ▸ ⟨rfl, rfl⟩⟩

/-- `Curl_dyn_init(s, toobig)`. -/
def init (toobig : Nat) : Dynbuf := ⟨none, toobig, fun _ h => Option.noConfusion h⟩

/-- `Curl_dyn_free(s)`: the limit stays. -/
def free (s : Dynbuf) : Dynbuf := init s.toobig

/-- The text, empty while nothing is allocated. -/
def text (s : Dynbuf) : Bytes := s.bufr.getD []

/-- `Curl_dyn_addn(s, mem, len)`: whether it succeeded, and the buffer after. -/
def addn (s : Dynbuf) (mem : Bytes) : Bool × Dynbuf :=
  if h : s.text.length + mem.length + 1 ≤ s.toobig then
    (true, ⟨some (s.text ++ mem), s.toobig, fun b hb => by
      cases hb; rw [List.length_append]; omega⟩)
  else (false, s.free)

/-- `Curl_dyn_add(s, str)`: `Curl_dyn_addn` of the `strlen(str)` bytes before the NUL. -/
def add (s : Dynbuf) (str : Bytes) : Bool × Dynbuf := s.addn str

/-- `Curl_dyn_ptr(s)`. -/
def ptr (s : Dynbuf) : Option Bytes := s.bufr

/-- `Curl_dyn_add` of each piece in turn, what each returns ignored. -/
def addAll (s : Dynbuf) (pieces : List Bytes) : Dynbuf :=
  pieces.foldl (fun s piece => (s.add piece).2) s

@[simp] theorem text_init (toobig : Nat) : (init toobig).text = [] := rfl
@[simp] theorem ptr_init (toobig : Nat) : (init toobig).ptr = none := rfl
@[simp] theorem toobig_init (toobig : Nat) : (init toobig).toobig = toobig := rfl
@[simp] theorem text_free (s : Dynbuf) : s.free.text = [] := rfl
@[simp] theorem ptr_free (s : Dynbuf) : s.free.ptr = none := rfl
@[simp] theorem toobig_free (s : Dynbuf) : s.free.toobig = s.toobig := rfl
@[simp] theorem text_mk (b : Bytes) (toobig : Nat) (h : ∀ b', some b = some b' → b'.length < toobig) :
    (⟨some b, toobig, h⟩ : Dynbuf).text = b := rfl
@[simp] theorem ptr_mk (b : Option Bytes) (toobig : Nat) (h : ∀ b', b = some b' → b'.length < toobig) :
    (⟨b, toobig, h⟩ : Dynbuf).ptr = b := rfl

theorem text_length_lt (s : Dynbuf) (h : 0 < s.toobig) : s.text.length < s.toobig := by
  cases hb : s.bufr with
  | none => simpa [text, hb] using h
  | some b => simpa [text, hb] using s.fits b hb

theorem text_length_le (s : Dynbuf) : s.text.length ≤ s.toobig := by
  cases hb : s.bufr with
  | none => simp [text, hb]
  | some b => simpa [text, hb] using (s.fits b hb).le

/-- What one append does: it succeeds exactly when the text, the new bytes and the NUL fit, and then
appends them; otherwise it empties the buffer. -/
theorem addn_spec (s : Dynbuf) (mem : Bytes) :
    (s.addn mem).1 = decide (s.text.length + mem.length + 1 ≤ s.toobig) ∧
      (s.addn mem).2.text =
        (if s.text.length + mem.length + 1 ≤ s.toobig then s.text ++ mem else []) ∧
      (s.addn mem).2.ptr =
        (if s.text.length + mem.length + 1 ≤ s.toobig then some (s.text ++ mem) else none) ∧
      (s.addn mem).2.toobig = s.toobig := by
  unfold addn
  split_ifs with h <;> simp [h]

@[simp] theorem toobig_addn (s : Dynbuf) (mem : Bytes) : (s.addn mem).2.toobig = s.toobig :=
  (addn_spec s mem).2.2.2

theorem addn_of_fits {s : Dynbuf} {mem : Bytes} (h : s.text.length + mem.length + 1 ≤ s.toobig) :
    (s.addn mem).1 = true ∧ (s.addn mem).2.text = s.text ++ mem ∧
      (s.addn mem).2.ptr = some (s.text ++ mem) := by
  simp [addn_spec, h]

theorem addn_of_too_large {s : Dynbuf} {mem : Bytes}
    (h : s.toobig < s.text.length + mem.length + 1) :
    (s.addn mem).1 = false ∧ (s.addn mem).2 = s.free := by
  simp [addn, show ¬(s.text.length + mem.length + 1 ≤ s.toobig) by omega]

@[simp] theorem addAll_nil (s : Dynbuf) : s.addAll [] = s := rfl

@[simp] theorem addAll_cons (s : Dynbuf) (p : Bytes) (ps : List Bytes) :
    s.addAll (p :: ps) = (s.addn p).2.addAll ps := rfl

/-- While the whole text and its NUL fit, the appends in turn leave the concatenation of the
pieces. -/
theorem addAll_of_fits {s : Dynbuf} {pieces : List Bytes} (hne : pieces ≠ [])
    (h : s.text.length + pieces.flatten.length + 1 ≤ s.toobig) :
    (s.addAll pieces).ptr = some (s.text ++ pieces.flatten) := by
  induction pieces generalizing s with
  | nil => exact absurd rfl hne
  | cons p ps ih =>
    simp only [List.flatten_cons, List.length_append] at h
    obtain ⟨-, htext, hptr⟩ := @addn_of_fits s p (by omega)
    rw [addAll_cons]
    cases ps with
    | nil => simpa using hptr
    | cons q qs =>
      rw [ih (List.cons_ne_nil _ _) (by rw [htext, toobig_addn, List.length_append]; omega), htext]
      simp

/-- A fresh buffer given pieces whose concatenation fits with its NUL ends with that concatenation. -/
theorem ptr_addAll_init {toobig : Nat} {pieces : List Bytes} {text : Bytes} (hne : pieces ≠ [])
    (htext : pieces.flatten = text) (hfit : text.length < toobig) :
    ((init toobig).addAll pieces).ptr = some text := by
  rw [addAll_of_fits hne (by rw [text_init, htext]; simpa using hfit), text_init, List.nil_append,
    htext]

theorem ptr_eq_some_text {s : Dynbuf} (h : s.text ≠ []) : s.ptr = some s.text := by
  cases hb : s.bufr with
  | none => exact absurd (by simp [text, hb]) h
  | some b => simp [ptr, text, hb]

theorem ptr_eq_none_or_text (s : Dynbuf) : s.ptr = none ∨ s.ptr = some s.text := by
  cases hb : s.bufr <;> simp [ptr, text, hb]

/-! ### Runs of appends -/

@[simp] theorem toobig_addAll (s : Dynbuf) (pieces : List Bytes) :
    (s.addAll pieces).toobig = s.toobig := by
  induction pieces generalizing s with
  | nil => rfl
  | cons p ps ih => rw [addAll_cons, ih, toobig_addn]

theorem addAll_append (s : Dynbuf) (ps qs : List Bytes) :
    s.addAll (ps ++ qs) = (s.addAll ps).addAll qs :=
  List.foldl_append _ _ _ _

/-- One append leaves the text followed by the new bytes, or nothing. -/
theorem text_addn_cases (s : Dynbuf) (mem : Bytes) :
    (s.addn mem).2.text = s.text ++ mem ∨ (s.addn mem).2.text = [] := by
  rw [(addn_spec s mem).2.1]
  split_ifs
  exacts [.inl rfl, .inr rfl]

/-- After any appends the text is a suffix of the text before followed by all that was appended:
a failed append drops what came before it, and nothing is reordered or made up. -/
theorem text_addAll_suffix (s : Dynbuf) (pieces : List Bytes) :
    (s.addAll pieces).text <:+ s.text ++ pieces.flatten := by
  induction pieces generalizing s with
  | nil => simp
  | cons p ps ih =>
    rw [addAll_cons, List.flatten_cons, ← List.append_assoc]
    refine (ih _).trans ?_
    rcases text_addn_cases s p with h | h
    · simp only [h, List.suffix_refl]
    · rw [h, List.nil_append]
      exact List.suffix_append _ _

/-- While the whole text and its NUL fit, the appends leave the text followed by the pieces. -/
theorem text_addAll_of_fits {s : Dynbuf} {pieces : List Bytes}
    (h : s.text.length + pieces.flatten.length + 1 ≤ s.toobig) :
    (s.addAll pieces).text = s.text ++ pieces.flatten := by
  induction pieces generalizing s with
  | nil => simp
  | cons p ps ih =>
    simp only [List.flatten_cons, List.length_append] at h
    obtain ⟨-, htext, -⟩ := @addn_of_fits s p (by omega)
    rw [addAll_cons, ih (by rw [htext, toobig_addn, List.length_append]; omega), htext,
      List.flatten_cons, List.append_assoc]

/-- All pieces but the last fit with the NUL and the last does not: the last append frees the
buffer, and `Curl_dyn_ptr` is `NULL`. -/
theorem ptr_addAll_of_last_too_large {s : Dynbuf} {pieces : List Bytes} (hne : pieces ≠ [])
    (hfit : s.text.length + pieces.flatten.length + 1 ≤ s.toobig + (pieces.getLast hne).length)
    (hlarge : s.toobig < s.text.length + pieces.flatten.length + 1) :
    (s.addAll pieces).ptr = none := by
  have hsplit := List.dropLast_append_getLast hne
  have hlen : pieces.flatten.length =
      pieces.dropLast.flatten.length + (pieces.getLast hne).length := by
    conv_lhs => rw [← hsplit]
    simp
  have htext := @text_addAll_of_fits s pieces.dropLast (by omega)
  rw [← hsplit, addAll_append, addAll_cons, addAll_nil,
    (addn_of_too_large (by rw [htext, toobig_addAll, List.length_append]; omega)).2, ptr_free]

/-- A fresh buffer given pieces whose concatenation does not fit with its NUL ends `NULL`, or with a
proper suffix of the concatenation. -/
theorem ptr_addAll_init_of_too_large {toobig : Nat} {pieces : List Bytes} {text : Bytes}
    (htext : pieces.flatten = text) (hlarge : toobig ≤ text.length) :
    ((init toobig).addAll pieces).ptr = none ∨
      ∃ k, 0 < k ∧ ((init toobig).addAll pieces).ptr = some (text.drop k) := by
  rcases ptr_eq_none_or_text ((init toobig).addAll pieces) with h | h
  · exact .inl h
  have hlt := ((init toobig).addAll pieces).fits _ h
  have hsuf := text_addAll_suffix (init toobig) pieces
  rw [toobig_addAll, toobig_init] at hlt
  rw [text_init, List.nil_append, htext] at hsuf
  exact .inr ⟨_, by omega, h.trans (congrArg some (List.suffix_iff_eq_drop.mp hsuf))⟩

end Dynbuf

end CurlValidation
