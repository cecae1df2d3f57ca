import Mathlib.Data.List.Sort
import Mathlib.Algebra.Group.Int
import Mathlib.Algebra.Group.Nat.Basic

/-!
# C-level data of the enhanced validation layer

The values `src/lib/validation_enhanced.c` passes around: C strings as their bytes, libcurl
result codes, what one `curl_easy_perform` reports, opaque `CURL*` handles, and `malloc`ed
arrays whose out-of-bounds accesses are undefined. C `int` is 32-bit two's complement. Allocation
is taken to succeed throughout; the ownership of strings (`strdup`, `free`) is not modelled, a
string is its value.
-/

namespace CurlValidation

/-- A C string: its bytes, without the terminating NUL. -/
abbrev Bytes := List UInt8

/-- The bytes of an ASCII literal of the source, such as `"success"` or `":"`. -/
def ascii (s : String) : Bytes := s.toList.map fun c => c.toNat.toUInt8

/-- `snprintf(buf, size, ...)` of an already formatted text: a buffer of `size` bytes keeps at
most `size - 1` of them before the NUL, and the rest is silently cut. -/
def snprintf (size : Nat) (formatted : Bytes) : Bytes := formatted.take (size - 1)

theorem snprintf_of_length_lt {size : Nat} {formatted : Bytes} (h : formatted.length < size) :
    snprintf size formatted = formatted :=
  List.take_of_length_le (by omega)

theorem length_snprintf_le (size : Nat) (formatted : Bytes) :
    (snprintf size formatted).length ≤ size - 1 :=
  List.length_take_le _ _

/-- `strlen(s)`: the number of bytes before the first NUL. -/
def strlen (s : Bytes) : Nat := (s.takeWhile (· != 0)).length

theorem strlen_of_zero_not_mem {s : Bytes} (h : 0 ∉ s) : strlen s = s.length := by
  rw [strlen, List.takeWhile_eq_self_iff.mpr fun c hc => bne_iff_ne.mpr fun (h0 : c = 0) =>
    h (h0 ▸ hc)]

@[simp] theorem toUInt8_toNat (c : UInt8) : c.toNat.toUInt8 = c :=
  UInt8.eq_of_val_eq (Fin.ext (by simp [Nat.toUInt8, UInt8.ofNat, UInt8.toNat, Fin.ofNat]))

/-- A value C `int` holds: 32-bit two's complement, as on every target curl builds for. -/
def FitsInt (x : Int) : Prop := -2 ^ 31 ≤ x ∧ x < 2 ^ 31

instance (x : Int) : Decidable (FitsInt x) := inferInstanceAs (Decidable (_ ∧ _))

/-- The `int` an arithmetic result wraps to in 32-bit two's complement. -/
def wrapInt (x : Int) : Int := x.bmod (2 ^ 32)

theorem wrapInt_of_fitsInt {x : Int} (h : FitsInt x) : wrapInt x = x := by
  unfold FitsInt at h
  rw [wrapInt, Int.bmod_def]
  split <;> omega

theorem wrapInt_mul_wrapInt (x y : Int) : wrapInt (wrapInt x * y) = wrapInt (x * y) :=
  Int.bmod_mul_bmod

/-- libcurl's `CURLcode`. -/
structure CURLcode where
  val : Nat
deriving DecidableEq, Repr

namespace CURLcode

def ok : CURLcode := ⟨0⟩
def couldntConnect : CURLcode := ⟨7⟩
def writeError : CURLcode := ⟨23⟩
def outOfMemory : CURLcode := ⟨27⟩
def operationTimedout : CURLcode := ⟨28⟩
def badFunctionArgument : CURLcode := ⟨43⟩
def unknownOption : CURLcode := ⟨48⟩

@[simp] theorem ok_ne_couldntConnect : ok ≠ couldntConnect := by decide
@[simp] theorem ok_ne_operationTimedout : ok ≠ operationTimedout := by decide

end CURLcode

/-- One `curl_easy_perform` as the retry loop sees it: its result and the
`CURLINFO_RESPONSE_CODE` read after it. -/
structure Outcome where
  code : CURLcode
  responseCode : Int
deriving DecidableEq, Repr

/-- An opaque `CURL*` handle, told apart by the order `curl_easy_init` made it in. -/
abbrev Handle := Nat

/-- A `malloc`ed C array of `length` elements; `slots i` is `none` until element `i` is written. -/
structure CArray (α : Type) where
  length : Nat
  slots : Nat → Option α

namespace CArray

variable {α : Type}

/-- `malloc(sizeof(α) * length)`: every slot indeterminate. -/
def alloc (length : Nat) : CArray α := ⟨length, fun _ => none⟩

/-- Index `i` lies inside the array. -/
def InBounds (a : CArray α) (i : Int) : Prop := 0 ≤ i ∧ i < a.length

instance (a : CArray α) (i : Int) : Decidable (a.InBounds i) :=
  inferInstanceAs (Decidable (0 ≤ i ∧ i < a.length))

/-- `a[i] = v`: undefined (`none`) outside the bounds. -/
def write (a : CArray α) (i : Int) (v : α) : Option (CArray α) :=
  if a.InBounds i then some ⟨a.length, Function.update a.slots i.toNat (some v)⟩ else none

/-- `a[i]`: `none` outside the bounds or on a slot never written, the two reads whose value is
not determined. -/
def read (a : CArray α) (i : Int) : Option α :=
  if a.InBounds i then a.slots i.toNat else none

@[simp] theorem alloc_length (n : Nat) : (alloc n : CArray α).length = n := rfl

@[simp] theorem read_alloc (n : Nat) (i : Int) : (alloc n : CArray α).read i = none := by
  simp [read, alloc]

theorem write_eq_some {a : CArray α} {i : Int} {v : α} (h : a.InBounds i) :
    a.write i v = some ⟨a.length, Function.update a.slots i.toNat (some v)⟩ := if_pos h

theorem write_eq_none {a : CArray α} {i : Int} {v : α} (h : ¬a.InBounds i) :
    a.write i v = none := if_neg h

theorem read_write {a b : CArray α} {i j : Int} {v : α} (hw : a.write i v = some b) :
    b.read j = if j = i then some v else a.read j := by
  unfold write at hw
  split at hw
  · rename_i hi
    cases hw
    unfold read InBounds at *
    by_cases hji : j = i
    · subst hji; simp [hi]
    · have : j.toNat ≠ i.toNat ∨ ¬(0 ≤ j ∧ j < a.length) := by omega
      rcases this with hne | hout
      · simp [hji, Function.update_noteq hne]
      · simp [hji, hout]
  · cases hw

theorem length_of_write {a b : CArray α} {i : Int} {v : α} (hw : a.write i v = some b) :
    b.length = a.length := by
  unfold write at hw
  split at hw <;> cases hw
  rfl

end CArray

end CurlValidation
