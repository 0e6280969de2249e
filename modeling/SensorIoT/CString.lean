import Mathlib.Data.List.TakeWhile
import Mathlib.Data.Int.Notation

/-!
# Character buffers

A `char` buffer is the list of its characters, whatever stands after the terminator included: the
program reads and overwrites single positions of its time stamps (`getSacFormatDate` reads the
milliseconds behind a terminator that `setStartTime` has moved), so the buffer and the string in
it are different things.  `cstr` is the string: what comes before the first NUL.
-/

set_option autoImplicit false

namespace SensorIoT

/-- A `char` array. -/
abbrev CBuf := List Char

/-- The terminator. -/
def nul : Char := Char.ofNat 0

/-- A zero-initialised array of `n` characters. -/
def zeroBuf (n : ℕ) : CBuf := List.replicate n nul

/-- The string in a buffer: what `%s`, `strcpy` and the file functions see of it. -/
def cstr (b : CBuf) : List Char := b.takeWhile (· ≠ nul)

theorem nul_notMem_cstr (b : CBuf) : nul ∉ cstr b := by
  intro h
  have := List.mem_takeWhile_imp h
  simp at this

/-- A text without a terminator is all part of the string. -/
theorem cstr_append {a : List Char} (h : nul ∉ a) (b : CBuf) : cstr (a ++ b) = a ++ cstr b := by
  refine List.takeWhile_append_of_pos fun c hc => ?_
  have : c ≠ nul := fun heq => h (heq ▸ hc)
  simpa using this

theorem cstr_eq_self {a : CBuf} (h : nul ∉ a) : cstr a = a := by
  have := cstr_append h []
  rwa [List.append_nil, show cstr [] = [] from rfl, List.append_nil] at this

@[simp] theorem cstr_nul (b : CBuf) : cstr (nul :: b) = [] := rfl

theorem cstr_cons {c : Char} (h : c ≠ nul) (b : CBuf) : cstr (c :: b) = c :: cstr b := by
  simp [cstr, h]

/-- Position `i` of a buffer. -/
def charAt (b : CBuf) (i : ℕ) : Char := b.getD i nul

/-- `sprintf` of a finished text: the text and a terminator, over the start of the buffer. -/
def sprintf (dst : CBuf) (text : List Char) : CBuf := text ++ nul :: dst.drop (text.length + 1)

/-- `strcpy`. -/
def strcpy (dst src : CBuf) : CBuf := sprintf dst (cstr src)

/-- The number the leading digits of a text denote, on top of `acc`. -/
def leadingDigits : ℕ → List Char → ℕ
  | acc, [] => acc
  | acc, c :: cs => if c.isDigit then leadingDigits (acc * 10 + (c.toNat - 48)) cs else acc

/-- White space, as `isspace` has it. -/
def isSpace (c : Char) : Bool := c = ' ' || (9 ≤ c.toNat && c.toNat ≤ 13)

/-- `atoi` of the memory that starts with the given characters. -/
def atoi (s : List Char) : ℤ :=
  match s.dropWhile isSpace with
  | '-' :: r => -(leadingDigits 0 r : ℤ)
  | '+' :: r => leadingDigits 0 r
  | r => leadingDigits 0 r

/-- The format `%02d`. -/
def fmt02d (n : ℤ) : List Char :=
  if n < 0 then '-' :: Nat.toDigits 10 n.natAbs
  else List.replicate (2 - (Nat.toDigits 10 n.natAbs).length) '0' ++ Nat.toDigits 10 n.natAbs

end SensorIoT
