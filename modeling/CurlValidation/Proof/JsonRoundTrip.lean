import CurlValidation.Proof.EscapeString

/-!
# Printing a JSON value and reading it back

The payload templates are JSON values printed two spaces to a level. `renderTo ind v rest` is the
text of `v` whose closing bracket stands at column `ind`, followed by `rest`: a non-empty array or
object puts each element or member on a line of its own at column `ind + 2`, a member is its key,
`": "` and its value, and a string is the escape `json_escape_string` makes without a limit,
between quotes. The printer is written from its continuation `rest`, so that a template whose
holes are escapes is the printed value up to the definitions, with no reassociation of appends.

The reader takes a printed value back (`readValue_renderTo`) when its fuel covers the value's
`size`, every number literal of the value reads as itself, and the byte after the value cannot
continue a number. The proof follows the printer: one statement for a value, one for the elements
of an array and one for the members of an object, by structural recursion on the value. A printed
value has at least `size` bytes, so `parseJson` of a printed value is the value
(`parseJson_renderTo`).
-/

namespace CurlValidation

namespace Json

/-- `n` spaces. -/
def spaces (n : Nat) : Bytes := List.replicate n 0x20

mutual

/-- `v` printed with its closing bracket at column `ind`, then `rest`. -/
def renderTo (ind : Nat) : JsonValue → Bytes → Bytes
  | .null, rest => ascii "null" ++ rest
  | .bool b, rest => (if b then ascii "true" else ascii "false") ++ rest
  | .number lit, rest => lit ++ rest
  | .string s, rest => 0x22 :: (jsonEscape s ++ 0x22 :: rest)
  | .array [], rest => 0x5B :: 0x5D :: rest
  | .array (v :: vs), rest =>
    0x5B :: 0x0A :: renderElems (ind + 2) (v :: vs) (0x0A :: (spaces ind ++ 0x5D :: rest))
  | .object [], rest => 0x7B :: 0x7D :: rest
  | .object (m :: ms), rest =>
    0x7B :: 0x0A :: renderMembers (ind + 2) (m :: ms) (0x0A :: (spaces ind ++ 0x7D :: rest))

/-- The elements of an array, each on a line of its own at column `ind`, then `rest`. -/
def renderElems (ind : Nat) : List JsonValue → Bytes → Bytes
  | [], rest => rest
  | [v], rest => spaces ind ++ renderTo ind v rest
  | v :: w :: ws, rest =>
    spaces ind ++ renderTo ind v (0x2C :: 0x0A :: renderElems ind (w :: ws) rest)

/-- The members of an object, each on a line of its own at column `ind`, then `rest`. -/
def renderMembers (ind : Nat) : List (Bytes × JsonValue) → Bytes → Bytes
  | [], rest => rest
  | [(k, v)], rest =>
    spaces ind ++ 0x22 :: (jsonEscape k ++ 0x22 :: 0x3A :: 0x20 :: renderTo ind v rest)
  | (k, v) :: m :: ms, rest =>
    spaces ind ++ 0x22 :: (jsonEscape k ++ 0x22 :: 0x3A :: 0x20 ::
      renderTo ind v (0x2C :: 0x0A :: renderMembers ind (m :: ms) rest))

end

mutual

/-- The fuel the reader spends on a value: one unit for it and one for each element or member
below it. -/
def size : JsonValue → Nat
  | .array elems => sizeElems elems + 1
  | .object members => sizeMembers members + 1
  | _ => 1

def sizeElems : List JsonValue → Nat
  | [] => 0
  | v :: vs => size v + sizeElems vs + 1

def sizeMembers : List (Bytes × JsonValue) → Nat
  | [] => 0
  | (_, v) :: ms => size v + sizeMembers ms + 1

end

mutual

/-- Every number literal of the value reads as itself. -/
def numbersOk : JsonValue → Bool
  | .number lit => readNumber lit == some (lit, [])
  | .array elems => elemsNumbersOk elems
  | .object members => membersNumbersOk members
  | _ => true

def elemsNumbersOk : List JsonValue → Bool
  | [] => true
  | v :: vs => numbersOk v && elemsNumbersOk vs

def membersNumbersOk : List (Bytes × JsonValue) → Bool
  | [] => true
  | (_, v) :: ms => numbersOk v && membersNumbersOk ms

end

/-! ### Numbers

A reader is `Stable` when a literal it reads is read the same with bytes after it that cannot
continue a number. Each part of a number is, and `andThen` keeps it; the leading `-` and the sign of
an exponent are optional bytes, stable as long as something follows them. -/

/-- The text after a number: it does not start with a digit, `.`, `e` or `E`. -/
def NumEnd (rest : Bytes) : Prop :=
  ∀ c ∈ rest.head?, isDigit c = false ∧ c ≠ 0x2E ∧ c ≠ 0x65 ∧ c ≠ 0x45

def Stable (f : Bytes → Option (Bytes × Bytes)) : Prop :=
  ∀ ⦃t x r R : Bytes⦄, f t = some (x, r) → NumEnd R → f (t ++ R) = some (x, r ++ R)

theorem takeWhile_dropWhile_append {p : UInt8 → Bool} (t : Bytes) {R : Bytes}
    (hR : ∀ c ∈ R.head?, p c = false) :
    (t ++ R).takeWhile p = t.takeWhile p ∧ (t ++ R).dropWhile p = t.dropWhile p ++ R := by
  induction t with
  | nil =>
    cases R with
    | nil => simp
    | cons c R => simp [List.takeWhile_cons, List.dropWhile_cons, hR c rfl]
  | cons c t ih =>
    by_cases hc : p c = true
    · simp [List.takeWhile_cons, List.dropWhile_cons, hc, ih]
    · simp [List.takeWhile_cons, List.dropWhile_cons, hc]


theorem readDigits_stable : Stable readDigits := by
  intro t x r R h hR
  obtain ⟨htake, hdrop⟩ := takeWhile_dropWhile_append (p := isDigit) t (fun c hc => (hR c hc).1)
  unfold readDigits at h ⊢
  rw [htake, hdrop]
  split at h
  · cases h
  · cases h; rfl

theorem Stable.andThen {f g : Bytes → Option (Bytes × Bytes)} (hf : Stable f) (hg : Stable g) :
    Stable (andThen f g) := by
  intro t x r R h hR
  simp only [Json.andThen, Option.bind_eq_some, Option.map_eq_some'] at h ⊢
  obtain ⟨⟨a, t₁⟩, hf₁, ⟨b, r'⟩, hg₁, hx⟩ := h
  exact ⟨(a, t₁ ++ R), hf hf₁ hR, (b, r' ++ R), hg hg₁ hR, by cases hx; rfl⟩

theorem readOptional_append (p : UInt8 → Bool) {t : Bytes} (ht : t ≠ []) (R : Bytes) :
    readOptional p (t ++ R) =
      (readOptional p t).map fun x => (x.1, x.2 ++ R) := by
  obtain ⟨c, t, rfl⟩ := List.exists_cons_of_ne_nil ht
  by_cases hc : p c = true <;> simp [readOptional, hc]

theorem stable_andThen_readOptional {p : UInt8 → Bool} {g : Bytes → Option (Bytes × Bytes)}
    (hg : Stable g) (hg₀ : g [] = none) : Stable (andThen (readOptional p) g) := by
  intro t x r R h hR
  cases t with
  | nil => simp [Json.andThen, readOptional, hg₀] at h
  | cons c t =>
    simp only [Json.andThen, Option.bind_eq_some, Option.map_eq_some'] at h ⊢
    obtain ⟨⟨a, t₁⟩, ho, ⟨b, r'⟩, hg₁, hx⟩ := h
    refine ⟨(a, t₁ ++ R), ?_, (b, r' ++ R), hg hg₁ hR, by cases hx; rfl⟩
    rw [readOptional_append p (List.cons_ne_nil c t), ho]
    rfl

theorem readInt_stable : Stable readInt := by
  intro t x r R h hR
  cases t with
  | nil => cases h
  | cons c t =>
    by_cases hc : c = 0x30
    · simp only [List.cons_append, readInt, if_pos hc] at h ⊢
      cases h; rfl
    · simp only [List.cons_append, readInt, if_neg hc] at h ⊢
      exact readDigits_stable h hR

theorem readFrac_stable : Stable readFrac := by
  intro t x r R h hR
  cases t with
  | nil =>
    cases h
    cases R with
    | nil => rfl
    | cons c R => simp [readFrac, (hR c rfl).2.1]
  | cons c t =>
    by_cases hc : c = 0x2E
    · simp only [List.cons_append, readFrac, if_pos hc, Option.map_eq_some'] at h ⊢
      obtain ⟨⟨ds, r'⟩, hd, hx⟩ := h
      exact ⟨(ds, r' ++ R), readDigits_stable hd hR, by cases hx; rfl⟩
    · simp only [List.cons_append, readFrac, if_neg hc] at h ⊢
      cases h; rfl

theorem readExp_stable : Stable readExp := by
  intro t x r R h hR
  cases t with
  | nil =>
    cases h
    cases R with
    | nil => rfl
    | cons c R => simp [readExp, (hR c rfl).2.2.1, (hR c rfl).2.2.2]
  | cons c t =>
    by_cases hc : c = 0x65 ∨ c = 0x45
    · simp only [List.cons_append, readExp, if_pos hc, Option.map_eq_some'] at h ⊢
      obtain ⟨⟨ds, r'⟩, hd, hx⟩ := h
      exact ⟨(ds, r' ++ R), stable_andThen_readOptional readDigits_stable rfl hd hR,
        by cases hx; rfl⟩
    · simp only [List.cons_append, readExp, if_neg hc] at h ⊢
      cases h; rfl

theorem readNumber_stable : Stable readNumber :=
  stable_andThen_readOptional (readInt_stable.andThen (readFrac_stable.andThen readExp_stable)) rfl



/-- The bytes a number literal is made of: digits, `+`, `-`, `.`, `E` and `e`. -/
def NumberByte (c : UInt8) : Prop := isDigit c = true ∨ c ∈ [0x2B, 0x2D, 0x2E, 0x45, 0x65]

/-- A reader whose literals are made of number bytes. -/
def ReadsNumberBytes (f : Bytes → Option (Bytes × Bytes)) : Prop :=
  ∀ ⦃t x r : Bytes⦄, f t = some (x, r) → ∀ c ∈ x, NumberByte c

theorem readDigits_numberBytes : ReadsNumberBytes readDigits := by
  intro t x r h c hc
  have hmem : ∀ c ∈ t.takeWhile isDigit, isDigit c = true := fun _ hc => List.mem_takeWhile_imp hc
  unfold readDigits at h
  cases hd : t.takeWhile isDigit with
  | nil => simp [hd] at h
  | cons d ds =>
    simp only [hd, Option.some.injEq, Prod.mk.injEq] at h
    exact .inl (hmem c (by rw [hd, h.1]; exact hc))

theorem ReadsNumberBytes.andThen {f g : Bytes → Option (Bytes × Bytes)} (hf : ReadsNumberBytes f)
    (hg : ReadsNumberBytes g) : ReadsNumberBytes (andThen f g) := by
  intro t x r h c hc
  simp only [Json.andThen, Option.bind_eq_some, Option.map_eq_some'] at h
  obtain ⟨⟨a, t₁⟩, hf₁, ⟨b, r'⟩, hg₁, hx⟩ := h
  cases hx
  rcases List.mem_append.mp hc with hc | hc
  exacts [hf hf₁ c hc, hg hg₁ c hc]

theorem readOptional_numberBytes {p : UInt8 → Bool} (hp : ∀ c, p c = true → NumberByte c) :
    ReadsNumberBytes (readOptional p) := by
  rintro (_ | ⟨d, t⟩) x r h c hc
  · cases h; cases hc
  · by_cases hd : p d = true
    · simp only [readOptional, hd, if_true, Option.some.injEq, Prod.mk.injEq] at h
      rw [← h.1, List.mem_singleton] at hc
      exact hc ▸ hp d hd
    · simp only [readOptional, Bool.eq_false_iff.mpr hd, Bool.false_eq_true, if_false,
        Option.some.injEq, Prod.mk.injEq] at h
      rw [← h.1] at hc
      cases hc

theorem readNumber_numberBytes : ReadsNumberBytes readNumber := by
  have hint : ReadsNumberBytes readInt := by
    rintro (_ | ⟨d, t⟩) x r h c hc
    · cases h
    by_cases h0 : d = 0x30
    · simp only [readInt, if_pos h0, Option.some.injEq, Prod.mk.injEq] at h
      rw [← h.1, List.mem_singleton, h0] at hc
      exact hc ▸ .inl rfl
    · simp only [readInt, if_neg h0] at h
      exact readDigits_numberBytes h c hc
  have hfrac : ReadsNumberBytes readFrac := by
    rintro (_ | ⟨d, t⟩) x r h c hc
    · cases h; cases hc
    by_cases hp : d = 0x2E
    · simp only [readFrac, if_pos hp, Option.map_eq_some'] at h
      obtain ⟨⟨ds, r'⟩, hd, hx⟩ := h
      cases hx
      rcases List.mem_cons.mp hc with rfl | hc
      exacts [.inr (by simp [hp]), readDigits_numberBytes hd c hc]
    · simp only [readFrac, if_neg hp, Option.some.injEq, Prod.mk.injEq] at h
      rw [← h.1] at hc
      cases hc
  have hexp : ReadsNumberBytes readExp := by
    rintro (_ | ⟨d, t⟩) x r h c hc
    · cases h; cases hc
    by_cases he : d = 0x65 ∨ d = 0x45
    · simp only [readExp, if_pos he, Option.map_eq_some'] at h
      obtain ⟨⟨ds, r'⟩, hd, hx⟩ := h
      cases hx
      rcases List.mem_cons.mp hc with rfl | hc
      · exact .inr (by rcases he with rfl | rfl <;> decide)
      · refine (ReadsNumberBytes.andThen (readOptional_numberBytes fun c hc => .inr ?_)
          readDigits_numberBytes) hd c hc
        simp only [Bool.or_eq_true, beq_iff_eq] at hc
        rcases hc with rfl | rfl <;> decide
    · simp only [readExp, if_neg he, Option.some.injEq, Prod.mk.injEq] at h
      rw [← h.1] at hc
      cases hc
  refine ReadsNumberBytes.andThen (readOptional_numberBytes fun c hc => .inr ?_)
    (hint.andThen (hfrac.andThen hexp))
  simp only [beq_iff_eq] at hc
  simp [hc]

/-- A byte from `0` up, other than the backslash, escapes to itself. -/
theorem escapeByte_of_ge {c : UInt8} (h : 0x30 ≤ c) (hb : c ≠ 0x5C) : escapeByte c = [c] := by
  have hne : ∀ {d : UInt8}, ¬(0x30 ≤ d) → c ≠ d := fun hd hc => hd (hc ▸ h)
  have hlt : ¬c < 32 := fun hlt => absurd (show c.toNat < 32 from hlt) (by
    have : 48 ≤ c.toNat := h
    omega)
  rw [escapeByte, if_neg (hne (by decide)), if_neg hb, if_neg (hne (by decide)),
    if_neg (hne (by decide)), if_neg (hne (by decide)), if_neg (hne (by decide)),
    if_neg (hne (by decide)), if_neg hlt]

/-- A number literal escapes to itself and holds no NUL. -/
theorem jsonEscape_of_readNumber {t x r : Bytes} (h : readNumber t = some (x, r)) :
    jsonEscape x = x ∧ 0 ∉ x := by
  have hbytes := readNumber_numberBytes h
  clear h
  induction x with
  | nil => exact ⟨rfl, List.not_mem_nil _⟩
  | cons c x ih =>
    obtain ⟨ihe, ih0⟩ := ih fun d hd => hbytes d (List.mem_cons_of_mem _ hd)
    have hesc : escapeByte c = [c] ∧ c ≠ 0 := by
      rcases hbytes c (List.mem_cons_self _ _) with h | h
      · simp only [isDigit, Bool.and_eq_true, decide_eq_true_eq] at h
        exact ⟨escapeByte_of_ge h.1 fun hc => absurd (hc ▸ h.2) (by decide),
          fun hc => absurd (hc ▸ h.1) (by decide)⟩
      · simp only [List.mem_cons, List.not_mem_nil, or_false] at h
        rcases h with rfl | rfl | rfl | rfl | rfl <;> exact ⟨rfl, by decide⟩
    refine ⟨by rw [jsonEscape_cons, hesc.1, ihe]; rfl, ?_⟩
    rintro (_ | ⟨_, h0⟩)
    exacts [hesc.2 rfl, ih0 h0]

/-! ### Where a printed value starts -/

/-- A number starts with `-` or a digit. -/
theorem readNumber_start {t x r : Bytes} (h : readNumber t = some (x, r)) :
    ∃ c t', t = c :: t' ∧ (c = 0x2D ∨ isDigit c = true) := by
  match t, h with
  | [], h => cases h
  | c :: t', h =>
    refine ⟨c, t', rfl, ?_⟩
    by_cases hm : c = 0x2D
    · exact .inl hm
    right
    have hopt : readOptional (· == 0x2D) (c :: t') = some ([], c :: t') := by
      simp [readOptional, hm]
    simp only [readNumber, Json.andThen, hopt, Option.some_bind, Option.map_eq_some',
      Option.bind_eq_some] at h
    obtain ⟨_, ⟨⟨i, t₂⟩, hi, -⟩, -⟩ := h
    by_cases h0 : c = 0x30
    · subst h0; rfl
    simp only [readInt, if_neg h0, readDigits] at hi
    by_contra hd
    simp [List.takeWhile_cons, hd] at hi

/-- A byte that starts a number starts no other value, is not whitespace and closes nothing. -/
theorem numberStart_ne {c : UInt8} (hc : c = 0x2D ∨ isDigit c = true) :
    c ≠ 0x7B ∧ c ≠ 0x5B ∧ c ≠ 0x22 ∧ c ≠ 0x74 ∧ c ≠ 0x66 ∧ c ≠ 0x6E ∧ isWs c = false ∧
      c ≠ 0x5D ∧ c ≠ 0x7D := by
  rcases hc with rfl | hc
  · decide
  have hws : isWs c = false := by
    cases hw : isWs c
    · rfl
    simp only [isWs, Bool.or_eq_true, beq_iff_eq] at hw
    rcases hw with ((rfl | rfl) | rfl) | rfl <;> exact absurd hc (by decide)
  refine ⟨?_, ?_, ?_, ?_, ?_, ?_, hws, ?_, ?_⟩ <;> rintro rfl <;> exact absurd hc (by decide)

theorem numbersOk_number {lit : Bytes} :
    numbersOk (.number lit) = true ↔ readNumber lit = some (lit, []) := by
  simp [numbersOk]

/-- A printed value starts with a byte that is not whitespace and closes nothing. -/
theorem renderTo_start (ind : Nat) (v : JsonValue) (rest : Bytes) (hv : numbersOk v = true) :
    ∃ c t, renderTo ind v rest = c :: t ∧ isWs c = false ∧ c ≠ 0x5D ∧ c ≠ 0x7D := by
  match v, hv with
  | .number lit, hv =>
    obtain ⟨c, t', rfl, hc⟩ := readNumber_start (numbersOk_number.mp hv)
    obtain ⟨-, -, -, -, -, -, hws, h5, h7⟩ := numberStart_ne hc
    exact ⟨c, _, rfl, hws, h5, h7⟩
  | .null, _ | .bool true, _ | .bool false, _ | .string _, _ | .array [], _ | .array (_ :: _), _
  | .object [], _ | .object (_ :: _), _ => exact ⟨_, _, rfl, rfl, by decide, by decide⟩

theorem skipWs_renderTo (ind : Nat) (v : JsonValue) (rest : Bytes) (hv : numbersOk v = true) :
    skipWs (renderTo ind v rest) = renderTo ind v rest := by
  obtain ⟨c, t, h, hws, -⟩ := renderTo_start ind v rest hv
  rw [h, skipWs, List.dropWhile_cons_of_neg (by simp [hws])]

@[simp] theorem skipWs_spaces_append (n : Nat) (t : Bytes) : skipWs (spaces n ++ t) = skipWs t :=
  List.dropWhile_append_of_pos fun c hc => by rw [List.eq_of_mem_replicate hc]; rfl

@[simp] theorem skipWs_newline (t : Bytes) : skipWs (0x0A :: t) = skipWs t := rfl

/-- The line break, indentation and bracket after the last element or member. -/
theorem skipWs_close {c : UInt8} (hc : isWs c = false) (j : Nat) (rest : Bytes) :
    skipWs (0x0A :: (spaces j ++ c :: rest)) = c :: rest := by
  rw [skipWs_newline, skipWs_spaces_append, skipWs, List.dropWhile_cons_of_neg (by simp [hc])]

theorem numEnd_cons {c : UInt8} (hc : c = 0x2C ∨ c = 0x0A) (t : Bytes) : NumEnd (c :: t) := by
  rintro _ ⟨⟩
  rcases hc with rfl | rfl <;> decide

/-! ### Sizes -/

mutual

theorem size_le_renderTo (ind : Nat) : ∀ (v : JsonValue) (rest : Bytes), numbersOk v = true →
    size v + rest.length ≤ (renderTo ind v rest).length
  | .null, rest, _ => by simp [renderTo, size]; decide
  | .bool b, rest, _ => by cases b <;> simp [renderTo, size] <;> decide
  | .number lit, rest, h => by
    cases lit with
    | nil => simp [numbersOk] at h; exact absurd h (by decide)
    | cons c lit => simp [renderTo, size]; omega
  | .string s, rest, _ => by simp [renderTo, size]; omega
  | .array [], rest, _ => by simp [renderTo, size, sizeElems]; omega
  | .array (v :: vs), rest, h => by
    have := sizeElems_le_renderElems (ind + 2) (v :: vs) (0x0A :: (spaces ind ++ 0x5D :: rest))
      h
    simp [renderTo, size] at this ⊢; omega
  | .object [], rest, _ => by simp [renderTo, size, sizeMembers]; omega
  | .object (m :: ms), rest, h => by
    have := sizeMembers_le_renderMembers (ind + 2) (m :: ms)
      (0x0A :: (spaces ind ++ 0x7D :: rest)) h
    simp [renderTo, size] at this ⊢; omega

theorem sizeElems_le_renderElems (ind : Nat) : ∀ (vs : List JsonValue) (rest : Bytes),
    elemsNumbersOk vs = true →
      sizeElems vs + rest.length ≤ (renderElems ind vs rest).length + 1
  | [], rest, _ => by simp [renderElems, sizeElems]
  | [v], rest, h => by
    have := size_le_renderTo ind v rest (by simpa [elemsNumbersOk] using h)
    simp [renderElems, sizeElems] at this ⊢; omega
  | v :: w :: ws, rest, h => by
    rw [elemsNumbersOk, Bool.and_eq_true] at h
    have h1 := size_le_renderTo ind v (0x2C :: 0x0A :: renderElems ind (w :: ws) rest) h.1
    have h2 := sizeElems_le_renderElems ind (w :: ws) rest h.2
    simp only [renderElems, sizeElems, List.length_append, List.length_cons] at h1 h2 ⊢; omega

theorem sizeMembers_le_renderMembers (ind : Nat) :
    ∀ (ms : List (Bytes × JsonValue)) (rest : Bytes), membersNumbersOk ms = true →
      sizeMembers ms + rest.length ≤ (renderMembers ind ms rest).length + 1
  | [], rest, _ => by simp [renderMembers, sizeMembers]
  | [(k, v)], rest, h => by
    have := size_le_renderTo ind v rest (by simpa [membersNumbersOk] using h)
    simp [renderMembers, sizeMembers] at this ⊢; omega
  | (k, v) :: m :: ms, rest, h => by
    rw [membersNumbersOk, Bool.and_eq_true] at h
    have h1 := size_le_renderTo ind v (0x2C :: 0x0A :: renderMembers ind (m :: ms) rest) h.1
    have h2 := sizeMembers_le_renderMembers ind (m :: ms) rest h.2
    simp only [renderMembers, sizeMembers, List.length_append, List.length_cons] at h1 h2 ⊢; omega

end

/-! ### Reading back -/

theorem renderElems_cons (ind : Nat) (v : JsonValue) (vs : List JsonValue) (rest : Bytes) :
    ∃ rest', renderElems ind (v :: vs) rest = spaces ind ++ renderTo ind v rest' := by
  cases vs <;> exact ⟨_, rfl⟩

theorem renderMembers_cons (ind : Nat) (m : Bytes × JsonValue) (ms : List (Bytes × JsonValue))
    (rest : Bytes) : ∃ t, renderMembers ind (m :: ms) rest = spaces ind ++ 0x22 :: t := by
  cases ms <;> exact ⟨_, rfl⟩

/-- An element read and a comma after it: the next element comes. -/
theorem readElements_comma {fuel : Nat} {t : Bytes} (acc : List JsonValue) {v : JsonValue}
    {rest rest' : Bytes} (h : readValue fuel t = some (v, rest))
    (hc : skipWs rest = 0x2C :: rest') :
    readElements (fuel + 1) t acc = readElements fuel (skipWs rest') (acc ++ [v]) := by
  rw [readElements, h]
  simp only [hc, if_pos]

/-- An element read and the closing bracket after it. -/
theorem readElements_close {fuel : Nat} {t : Bytes} (acc : List JsonValue) {v : JsonValue}
    {rest rest' : Bytes} (h : readValue fuel t = some (v, rest))
    (hc : skipWs rest = 0x5D :: rest') :
    readElements (fuel + 1) t acc = some (.array (acc ++ [v]), rest') := by
  rw [readElements, h]
  simp only [hc, if_neg (by decide : (0x5D : UInt8) ≠ 0x2C), if_pos]

/-- A member read from its printed key, colon and space, and a comma after it: the next member
comes. -/
theorem readMembers_comma {fuel : Nat} (k : Bytes) {t : Bytes} (acc : List (Bytes × JsonValue))
    {v : JsonValue} {rest rest' : Bytes} (h : readValue fuel (skipWs t) = some (v, rest))
    (hc : skipWs rest = 0x2C :: rest') :
    readMembers (fuel + 1) (0x22 :: (jsonEscape k ++ 0x22 :: 0x3A :: 0x20 :: t)) acc =
      readMembers fuel (skipWs rest') (acc ++ [(k, v)]) := by
  have hcolon : skipWs ((0x3A : UInt8) :: 0x20 :: t) = 0x3A :: 0x20 :: t := rfl
  have hspace : skipWs ((0x20 : UInt8) :: t) = skipWs t := rfl
  rw [readMembers, if_neg (not_not.mpr rfl), readString_jsonEscape k _ _ (by simp; omega)]
  simp only [hcolon, List.head?_cons, List.tail_cons, hspace, h, hc, ne_eq, not_true_eq_false,
    if_false, if_pos]

/-- A member read from its printed key, colon and space, and the closing brace after it. -/
theorem readMembers_close {fuel : Nat} (k : Bytes) {t : Bytes} (acc : List (Bytes × JsonValue))
    {v : JsonValue} {rest rest' : Bytes} (h : readValue fuel (skipWs t) = some (v, rest))
    (hc : skipWs rest = 0x7D :: rest') :
    readMembers (fuel + 1) (0x22 :: (jsonEscape k ++ 0x22 :: 0x3A :: 0x20 :: t)) acc =
      some (.object (acc ++ [(k, v)]), rest') := by
  have hcolon : skipWs ((0x3A : UInt8) :: 0x20 :: t) = 0x3A :: 0x20 :: t := rfl
  have hspace : skipWs ((0x20 : UInt8) :: t) = skipWs t := rfl
  rw [readMembers, if_neg (not_not.mpr rfl), readString_jsonEscape k _ _ (by simp; omega)]
  simp only [hcolon, List.head?_cons, List.tail_cons, hspace, h, hc, ne_eq, not_true_eq_false,
    if_false, if_neg (by decide : (0x7D : UInt8) ≠ 0x2C), if_pos]

mutual

/-- **Reading a printed value.** With one unit of fuel per value, element and member, the reader
takes the printed value back and leaves what follows it, provided no number literal of the value is
misread and what follows cannot continue a number. -/
theorem readValue_renderTo (ind : Nat) : ∀ (v : JsonValue) (rest : Bytes) (fuel : Nat),
    numbersOk v = true → NumEnd rest → size v ≤ fuel →
      readValue fuel (renderTo ind v rest) = some (v, rest)
  | .null, rest, fuel + 1, _, _, _ => rfl
  | .bool true, rest, fuel + 1, _, _, _ => rfl
  | .bool false, rest, fuel + 1, _, _, _ => rfl
  | .number lit, rest, fuel + 1, hv, hend, _ => by
    have hlit := numbersOk_number.mp hv
    obtain ⟨c, t', rfl, hc⟩ := readNumber_start hlit
    obtain ⟨h1, h2, h3, h4, h5, h6, -⟩ := numberStart_ne hc
    have hread := readNumber_stable hlit hend
    simp only [renderTo, List.cons_append, readValue, if_neg h1, if_neg h2, if_neg h3, if_neg h4,
      if_neg h5, if_neg h6] at hread ⊢
    rw [hread]
    rfl
  | .string s, rest, fuel + 1, _, _, _ => by
    rw [renderTo, readValue_quote, readString_jsonEscape s rest _ (by simp; omega)]
    rfl
  | .array [], rest, fuel + 1, _, _, _ => rfl
  | .array (v :: vs), rest, fuel + 1, hvs, _, hfuel => by
    have hv : numbersOk v = true := by
      have h : elemsNumbersOk (v :: vs) = true := hvs
      rw [elemsNumbersOk, Bool.and_eq_true] at h
      exact h.1
    obtain ⟨rest', hrest'⟩ :=
      renderElems_cons (ind + 2) v vs (0x0A :: (spaces ind ++ 0x5D :: rest))
    obtain ⟨c, t, hstart, -, hc, -⟩ := renderTo_start (ind + 2) v rest' hv
    have := readElements_renderElems (ind + 2) ind (v :: vs) [] rest fuel (List.cons_ne_nil _ _)
      hvs (by simp only [size] at hfuel; omega)
    rw [renderTo, readValue_array, skipWs_newline, if_neg (by
      rw [hrest', skipWs_spaces_append, skipWs_renderTo _ _ _ hv, hstart]; simpa using hc)]
    rwa [List.nil_append] at this
  | .object [], rest, fuel + 1, _, _, _ => rfl
  | .object (m :: ms), rest, fuel + 1, hms, _, hfuel => by
    obtain ⟨t, ht⟩ := renderMembers_cons (ind + 2) m ms (0x0A :: (spaces ind ++ 0x7D :: rest))
    have := readMembers_renderMembers (ind + 2) ind (m :: ms) [] rest fuel (List.cons_ne_nil _ _)
      hms (by simp only [size] at hfuel; omega)
    rw [renderTo, readValue_object, skipWs_newline, if_neg (by
      rw [ht, skipWs_spaces_append, skipWs_quote, List.head?_cons]; decide)]
    rwa [List.nil_append] at this
  | v, rest, 0, _, _, hfuel => by cases v <;> simp [size] at hfuel

theorem readElements_renderElems (ind j : Nat) : ∀ (vs : List JsonValue) (acc : List JsonValue)
    (rest : Bytes) (fuel : Nat), vs ≠ [] → elemsNumbersOk vs = true → sizeElems vs ≤ fuel →
      readElements fuel (skipWs (renderElems ind vs (0x0A :: (spaces j ++ 0x5D :: rest)))) acc =
        some (.array (acc ++ vs), rest)
  | [], _, _, _, hne, _, _ => absurd rfl hne
  | [v], acc, rest, fuel + 1, _, hv, hfuel => by
    have hv' : numbersOk v = true := by simpa [elemsNumbersOk] using hv
    rw [renderElems, skipWs_spaces_append, skipWs_renderTo _ _ _ hv',
      readElements_close acc (readValue_renderTo ind v _ fuel hv' (numEnd_cons (.inr rfl) _)
        (by simp [sizeElems] at hfuel; omega)) (skipWs_close (c := 0x5D) rfl j rest)]
  | v :: w :: ws, acc, rest, fuel + 1, _, hv, hfuel => by
    rw [elemsNumbersOk, Bool.and_eq_true] at hv
    rw [renderElems, skipWs_spaces_append, skipWs_renderTo _ _ _ hv.1,
      readElements_comma acc (readValue_renderTo ind v _ fuel hv.1 (numEnd_cons (.inl rfl) _)
        (by simp [sizeElems] at hfuel; omega)) rfl,
      skipWs_newline, readElements_renderElems ind j (w :: ws) (acc ++ [v]) rest fuel
      (List.cons_ne_nil _ _) hv.2 (by simp [sizeElems] at hfuel ⊢; omega), List.append_assoc]
    rfl
  | _ :: _, _, _, 0, _, _, hfuel => by simp [sizeElems] at hfuel

theorem readMembers_renderMembers (ind j : Nat) : ∀ (ms : List (Bytes × JsonValue))
    (acc : List (Bytes × JsonValue)) (rest : Bytes) (fuel : Nat), ms ≠ [] →
      membersNumbersOk ms = true → sizeMembers ms ≤ fuel →
      readMembers fuel (skipWs (renderMembers ind ms (0x0A :: (spaces j ++ 0x7D :: rest)))) acc =
        some (.object (acc ++ ms), rest)
  | [], _, _, _, hne, _, _ => absurd rfl hne
  | [(k, v)], acc, rest, fuel + 1, _, hv, hfuel => by
    have hv' : numbersOk v = true := by simpa [membersNumbersOk] using hv
    rw [renderMembers, skipWs_spaces_append, skipWs_quote,
      readMembers_close k acc (by
        rw [skipWs_renderTo _ _ _ hv']
        exact readValue_renderTo ind v _ fuel hv' (numEnd_cons (.inr rfl) _)
          (by simp [sizeMembers] at hfuel; omega)) (skipWs_close (c := 0x7D) rfl j rest)]
  | (k, v) :: m :: ms, acc, rest, fuel + 1, _, hv, hfuel => by
    rw [membersNumbersOk, Bool.and_eq_true] at hv
    rw [renderMembers, skipWs_spaces_append, skipWs_quote,
      readMembers_comma k acc (by
        rw [skipWs_renderTo _ _ _ hv.1]
        exact readValue_renderTo ind v _ fuel hv.1 (numEnd_cons (.inl rfl) _)
          (by simp [sizeMembers] at hfuel; omega)) (by rfl),
      skipWs_newline, readMembers_renderMembers ind j (m :: ms) (acc ++ [(k, v)]) rest fuel
      (List.cons_ne_nil _ _) hv.2 (by simp [sizeMembers] at hfuel ⊢; omega), List.append_assoc]
    rfl
  | _ :: _, _, _, 0, _, _, hfuel => by simp [sizeMembers] at hfuel

end


end Json

/-- **Printing, then parsing.** A value whose number literals read as themselves, printed from
column 0, is a JSON text holding the value. -/
theorem parseJson_renderTo (v : JsonValue) (hv : Json.numbersOk v = true) :
    parseJson (Json.renderTo 0 v []) = some v := by
  have hsize := Json.size_le_renderTo 0 v [] hv
  rw [parseJson, Json.skipWs_renderTo 0 v [] hv,
    Json.readValue_renderTo 0 v [] _ hv (fun _ h => nomatch h) (by simp at hsize; omega)]
  rfl

end CurlValidation
