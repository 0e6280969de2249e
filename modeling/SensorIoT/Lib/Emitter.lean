import Mathlib.Data.List.Induction
import Mathlib.Data.Nat.Init

/-!
# Machines that emit

A machine takes an input, changes its state and emits a list of things: the calls a program makes,
say, while it works through what it reads.  `state n` is where the machine is after the first `n`
inputs and `trace n` all it has emitted until then, in order.

`invariant` is the one induction over such runs: what holds of the start and is kept by every step,
whatever it emits, holds of every state together with its trace.

`credit` counts: where every step pays for what it emits, out of a stock in the state and what a
meter there says has come in, so does the run.

What can be asked of a trace is often that everything in it is all right given what came before;
that is `Lawful`.
-/

set_option autoImplicit false

namespace Emitter

variable {σ ι ω : Type*} (step : σ → ι → σ × List ω)

/-- The state after the first `n` inputs. -/
def state (s₀ : σ) (inp : ℕ → ι) : ℕ → σ
  | 0 => s₀
  | n + 1 => (step (state s₀ inp n) (inp n)).1

/-- What input `n` makes the machine emit. -/
def emitted (s₀ : σ) (inp : ℕ → ι) (n : ℕ) : List ω := (step (state step s₀ inp n) (inp n)).2

/-- What the machine emits on the first `n` inputs. -/
def trace (s₀ : σ) (inp : ℕ → ι) : ℕ → List ω
  | 0 => []
  | n + 1 => trace s₀ inp n ++ emitted step s₀ inp n

variable {step} {s₀ : σ} {inp : ℕ → ι}

@[simp] theorem state_zero : state step s₀ inp 0 = s₀ := rfl

theorem state_succ (n : ℕ) :
    state step s₀ inp (n + 1) = (step (state step s₀ inp n) (inp n)).1 := rfl

/-- **Induction over a run.** -/
theorem invariant (Inv : ℕ → σ → List ω → Prop) (init : Inv 0 s₀ [])
    (next : ∀ n s out, Inv n s out → Inv (n + 1) (step s (inp n)).1 (out ++ (step s (inp n)).2)) :
    ∀ n, Inv n (state step s₀ inp n) (trace step s₀ inp n) := by
  intro n
  induction n with
  | zero => exact init
  | succ n ih => exact next n _ _ ih

variable (step s₀) in
/-- **Counting by credit.**  What a step emits of a kind, it takes from a stock in the state, which
is filled up with what a meter counts.  So there is no more of it than what there was at the start
and what has come in. -/
theorem credit (kind : ω → Bool) (stock meter : σ → ℕ)
    (h : ∀ s i, (step s i).2.countP kind + stock (step s i).1 + meter s
      ≤ stock s + meter (step s i).1) (inp : ℕ → ι) (n : ℕ) :
    (trace step s₀ inp n).countP kind + stock (state step s₀ inp n) + meter s₀
      ≤ stock s₀ + meter (state step s₀ inp n) := by
  refine invariant (fun _ s out => out.countP kind + stock s + meter s₀ ≤ stock s₀ + meter s)
    ?_ ?_ n
  · simp
  · intro n s out ih
    have hstep := h s (inp n)
    rw [List.countP_append]
    omega

variable (step s₀ inp) in
/-- What is emitted stays emitted. -/
theorem trace_prefix {m n : ℕ} (h : m ≤ n) : trace step s₀ inp m <+: trace step s₀ inp n := by
  induction n, h using Nat.le_induction with
  | base => exact List.prefix_refl _
  | succ n _ ih => exact ih.trans (List.prefix_append _ _)

/-- Only the inputs so far matter. -/
theorem run_congr {inp' : ℕ → ι} {n : ℕ} (h : ∀ i < n, inp i = inp' i) :
    state step s₀ inp n = state step s₀ inp' n ∧ trace step s₀ inp n = trace step s₀ inp' n := by
  induction n with
  | zero => exact ⟨rfl, rfl⟩
  | succ n ih =>
    obtain ⟨hstate, htrace⟩ := ih fun i hi => h i (Nat.lt_succ_of_lt hi)
    have hn : inp n = inp' n := h n (Nat.lt_succ_self n)
    refine ⟨by rw [state_succ, state_succ, hstate, hn], ?_⟩
    rw [trace, trace, emitted, emitted, htrace, hstate, hn]

/-- The machine on a list of inputs, followed by others. -/
def onList (d : ι) (l : List ι) : ℕ → ι := fun n => (l[n]?).getD d

variable (step s₀) in
/-- One more input at the end of the list. -/
theorem onList_concat (d : ι) (l : List ι) (i : ι) :
    state step s₀ (onList d (l ++ [i])) (l ++ [i]).length
        = (step (state step s₀ (onList d l) l.length) i).1 ∧
      trace step s₀ (onList d (l ++ [i])) (l ++ [i]).length
        = trace step s₀ (onList d l) l.length
          ++ (step (state step s₀ (onList d l) l.length) i).2 := by
  have hsame : ∀ j < l.length, onList d (l ++ [i]) j = onList d l j := by
    intro j hj
    rw [onList, onList, List.getElem?_append_left hj]
  have hlast : onList d (l ++ [i]) l.length = i := by
    rw [onList, List.getElem?_append_right (Nat.le_refl _), Nat.sub_self]
    rfl
  have hstate : state step s₀ (onList d (l ++ [i])) l.length
      = state step s₀ (onList d l) l.length :=
    (run_congr hsame).1
  have htrace : trace step s₀ (onList d (l ++ [i])) l.length
      = trace step s₀ (onList d l) l.length :=
    (run_congr hsame).2
  rw [List.length_append, List.length_singleton]
  refine ⟨by rw [state_succ, hstate, hlast], ?_⟩
  rw [trace, emitted, htrace, hstate, hlast]

/-- **A machine that emits more.**  If a machine goes through the same states, and emits the same
things among others, so do its runs. -/
theorem erase {ω' : Type*} {step' : σ → ι → σ × List ω'} (p : ω' → Option ω)
    (h : ∀ s i, (step' s i).1 = (step s i).1 ∧ (step' s i).2.filterMap p = (step s i).2) (n : ℕ) :
    state step' s₀ inp n = state step s₀ inp n ∧
      (trace step' s₀ inp n).filterMap p = trace step s₀ inp n := by
  induction n with
  | zero => exact ⟨rfl, rfl⟩
  | succ n ih =>
    obtain ⟨hstate, htrace⟩ := ih
    obtain ⟨hnext, hout⟩ := h (state step s₀ inp n) (inp n)
    have hemit : emitted step' s₀ inp n = (step' (state step s₀ inp n) (inp n)).2 := by
      rw [emitted, hstate]
    refine ⟨by rw [state_succ, hstate, hnext, state_succ], ?_⟩
    calc (trace step' s₀ inp (n + 1)).filterMap p
        = (trace step' s₀ inp n).filterMap p ++ (emitted step' s₀ inp n).filterMap p :=
          List.filterMap_append
      _ = trace step s₀ inp n ++ (step (state step s₀ inp n) (inp n)).2 := by
          rw [htrace, hemit, hout]
      _ = trace step s₀ inp (n + 1) := rfl

variable (step s₀ inp) in
/-- **A machine within a machine.**  If a part of the state moves like a machine of its own, on
inputs that may depend on the whole state, that machine has run on what it was given. -/
theorem project {σ' ι' ω' : Type*} (step' : σ' → ι' → σ' × List ω') (view : σ → σ')
    (given : σ → ι → ι') (p : ω → Option ω') (n : ℕ)
    (h : ∀ i < n, step' (view (state step s₀ inp i)) (given (state step s₀ inp i) (inp i))
      = (view (state step s₀ inp (i + 1)), (emitted step s₀ inp i).filterMap p)) :
    state step' (view s₀) (fun i => given (state step s₀ inp i) (inp i)) n
        = view (state step s₀ inp n) ∧
      trace step' (view s₀) (fun i => given (state step s₀ inp i) (inp i)) n
        = (trace step s₀ inp n).filterMap p := by
  induction n with
  | zero => exact ⟨rfl, rfl⟩
  | succ n ih =>
    obtain ⟨hstate, htrace⟩ := ih fun i hi => h i (Nat.lt_succ_of_lt hi)
    have hstep := h n (Nat.lt_succ_self n)
    refine ⟨by rw [state_succ, hstate, hstep], ?_⟩
    rw [trace, trace, List.filterMap_append, ← htrace, emitted, hstate, hstep]

/-! ## Lawful traces -/

/-- Everything in the list is all right after what stands before it. -/
def Lawful (ok : List ω → ω → Prop) (l : List ω) : Prop :=
  ∀ pre c post, l = pre ++ c :: post → ok pre c

variable {ok : List ω → ω → Prop} {l m : List ω} {c : ω}

theorem lawful_nil : Lawful ok [] := fun pre c post h => by simp at h

theorem Lawful.concat (h : Lawful ok l) (hc : ok l c) : Lawful ok (l ++ [c]) := by
  intro pre d post heq
  rcases List.eq_nil_or_concat post with rfl | ⟨post', e, rfl⟩
  · obtain ⟨rfl, hcd⟩ := List.append_inj' heq rfl
    rw [← List.head_eq_of_cons_eq hcd]
    exact hc
  · have heq' : l ++ [c] = (pre ++ d :: post') ++ [e] := by rw [heq]; simp
    exact h pre d post' (List.append_inj' heq' rfl).1

theorem Lawful.of_append (h : Lawful ok (l ++ m)) : Lawful ok l :=
  fun pre c post heq => h pre c (post ++ m) (by rw [heq]; simp)

theorem Lawful.last (h : Lawful ok (l ++ [c])) : ok l c := h l c [] rfl

theorem lawful_concat_iff : Lawful ok (l ++ [c]) ↔ Lawful ok l ∧ ok l c :=
  ⟨fun h => ⟨h.of_append, h.last⟩, fun h => h.1.concat h.2⟩

theorem Lawful.mono {ok' : List ω → ω → Prop} (h : Lawful ok l)
    (hok : ∀ pre c, ok pre c → ok' pre c) : Lawful ok' l :=
  fun pre c post heq => hok pre c (h pre c post heq)

/-- Things that are all right after every list of a kind, and keep the list of that kind, are all
right in a row. -/
theorem Lawful.append (h : Lawful ok l)
    (hm : ∀ pre c post, m = pre ++ c :: post → ok (l ++ pre) c) : Lawful ok (l ++ m) := by
  induction m using List.reverseRecOn with
  | nil => rwa [List.append_nil]
  | append_singleton m c ih =>
    rw [← List.append_assoc]
    refine Lawful.concat (ih fun pre d post heq => hm pre d (post ++ [c]) (by rw [heq]; simp)) ?_
    exact hm m c [] rfl

end Emitter
