import Mathlib.Data.List.Range
import Mathlib.Tactic.Ring

/-!
# Systems that consume a stream in blocks

A program that reads blocks of `f` elements usually has two layers: a loop over the elements of a
block, with some body, and something it does once the block is over.  `BlockRun.run` is the state
at the block boundaries, `BlockRun.upto` the state inside a block, after the first `k` turns of
the loop.

Properties of such a system are often about single elements of the stream, and then the two
layers are in the way.  `before n` and `after n` number the elements through: they are the states
just before and just after element `n`, which is element `n % f` of block `n / f`.
`before_succ_of_mod_ne` and `before_succ_of_mod_eq` say how one leads to the next, and
`sample_induction` is the induction rule they give: an invariant of `before` and an invariant of
`after` that follow from each other hold at every element.
-/

set_option autoImplicit false

namespace BlockRun

variable {σ β : Type*} (f : ℕ) (body : σ → β → ℕ → σ) (settle : σ → σ)

/-- The state after the first `k` turns of the loop over block `b`. -/
def upto (s : σ) (b : β) (k : ℕ) : σ := (List.range k).foldl (fun s i => body s b i) s

@[simp] theorem upto_zero (s : σ) (b : β) : upto body s b 0 = s := rfl

theorem upto_succ (s : σ) (b : β) (k : ℕ) :
    upto body s b (k + 1) = body (upto body s b k) b k := by
  simp [upto, List.range_succ]

/-- The state at the boundary after the first `N` blocks. -/
def run (s₀ : σ) (bs : ℕ → β) : ℕ → σ
  | 0 => s₀
  | N + 1 => settle (upto body (run s₀ bs N) (bs N) f)

/-- The state just before element `n` of the stream. -/
def before (s₀ : σ) (bs : ℕ → β) (n : ℕ) : σ :=
  upto body (run f body settle s₀ bs (n / f)) (bs (n / f)) (n % f)

/-- The state just after element `n` of the stream, the end of its block not yet reached. -/
def after (s₀ : σ) (bs : ℕ → β) (n : ℕ) : σ :=
  body (before f body settle s₀ bs n) (bs (n / f)) (n % f)

variable {f body settle} {s₀ : σ} {bs : ℕ → β}

@[simp] theorem before_zero : before f body settle s₀ bs 0 = s₀ := by
  simp [before, run]

theorem block_div {N k : ℕ} (hk : k < f) : (N * f + k) / f = N := by
  rw [Nat.mul_comm, Nat.mul_add_div (by omega), Nat.div_eq_of_lt hk, Nat.add_zero]

theorem block_mod {N k : ℕ} (hk : k < f) : (N * f + k) % f = k := Nat.mul_add_mod_of_lt hk

/-- An element is the last of its block exactly when the next one starts a block. -/
theorem succ_mod_eq_zero_iff {n : ℕ} (hf : 0 < f) : (n + 1) % f = 0 ↔ n % f + 1 = f := by
  have hn : n + 1 = n / f * f + (n % f + 1) := by
    rw [← Nat.add_assoc, Nat.div_add_mod']
  have hk : n % f < f := Nat.mod_lt n hf
  constructor
  · intro h
    by_contra hne
    rw [hn, block_mod (by omega)] at h
    omega
  · intro h
    rw [hn, h, Nat.mul_add_mod', Nat.mod_self]

theorem succ_mod {n : ℕ} (hf : 0 < f) :
    (n + 1) % f = if n % f + 1 = f then 0 else n % f + 1 := by
  split
  · exact (succ_mod_eq_zero_iff hf).mpr ‹_›
  · have hk : n % f < f := Nat.mod_lt n hf
    rw [Nat.add_mod, Nat.mod_eq_of_lt (show 1 < f by omega), Nat.mod_eq_of_lt (by omega)]

/-- The start of the block an element is in, and of the block the next one is in. -/
theorem succ_start {n : ℕ} (hf : 0 < f) :
    (n + 1) / f * f = if (n + 1) % f = 0 then n / f * f + f else n / f * f := by
  have hk : n % f < f := Nat.mod_lt n hf
  have hn : n / f * f + n % f = n := Nat.div_add_mod' n f
  have hn' : (n + 1) / f * f + (n + 1) % f = n + 1 := Nat.div_add_mod' (n + 1) f
  have hsucc := succ_mod (n := n) hf
  split at hsucc <;> split <;> omega

/-- Element `k` of block `N` is element `N * f + k` of the stream. -/
theorem before_eq_upto {N k : ℕ} (hk : k < f) :
    before f body settle s₀ bs (N * f + k) = upto body (run f body settle s₀ bs N) (bs N) k := by
  rw [before, block_div hk, block_mod hk]

theorem after_eq_upto {N k : ℕ} (hk : k < f) :
    after f body settle s₀ bs (N * f + k)
      = upto body (run f body settle s₀ bs N) (bs N) (k + 1) := by
  rw [after, before_eq_upto hk, block_div hk, block_mod hk, upto_succ]

theorem before_succ_of_mod_ne {n : ℕ} (hf : 0 < f) (h : (n + 1) % f ≠ 0) :
    before f body settle s₀ bs (n + 1) = after f body settle s₀ bs n := by
  have hk : n % f < f := Nat.mod_lt n hf
  have hk' : n % f + 1 < f :=
    Nat.lt_of_le_of_ne hk fun heq => h ((succ_mod_eq_zero_iff hf).mpr heq)
  rw [← Nat.div_add_mod' n f, Nat.add_assoc, before_eq_upto hk', after_eq_upto hk]

theorem before_succ_of_mod_eq {n : ℕ} (hf : 0 < f) (h : (n + 1) % f = 0) :
    before f body settle s₀ bs (n + 1) = settle (after f body settle s₀ bs n) := by
  have hk : n % f < f := Nat.mod_lt n hf
  have hlast : n % f + 1 = f := (succ_mod_eq_zero_iff hf).mp h
  have hend : n / f * f + (n % f + 1) = (n / f + 1) * f + 0 := by rw [hlast]; ring
  rw [← Nat.div_add_mod' n f, Nat.add_assoc, hend, before_eq_upto hf, after_eq_upto hk, hlast]
  rfl

/-- The states at the block boundaries are those just before the first element of a block. -/
theorem before_mul (hf : 0 < f) (N : ℕ) :
    before f body settle s₀ bs (N * f) = run f body settle s₀ bs N := by
  have h : before f body settle s₀ bs (N * f + 0) = _ := before_eq_upto hf
  exact h

/-- **Induction over the elements.**  `P n` is about the state before element `n` and `Q n` about
the state after it.  The steps may be asked for only below some `M`: that is how a run whose first
`M` elements meet a condition is handled. -/
theorem sample_induction {P Q : ℕ → σ → Prop} {M : ℕ} (hf : 0 < f) (init : P 0 s₀)
    (step : ∀ n < M, P n (before f body settle s₀ bs n) → Q n (after f body settle s₀ bs n))
    (next : ∀ n s, Q n s → (n + 1) % f ≠ 0 → P (n + 1) s)
    (last : ∀ n s, Q n s → (n + 1) % f = 0 → P (n + 1) (settle s)) :
    ∀ n ≤ M, P n (before f body settle s₀ bs n) := by
  intro n
  induction n with
  | zero => intro _; simpa using init
  | succ n ih =>
    intro hn
    have hQ := step n hn (ih (Nat.le_of_succ_le hn))
    by_cases h : (n + 1) % f = 0
    · rw [before_succ_of_mod_eq hf h]; exact last n _ hQ h
    · rw [before_succ_of_mod_ne hf h]; exact next n _ hQ h

end BlockRun
