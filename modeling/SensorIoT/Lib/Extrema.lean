import Mathlib.Data.List.TakeWhile
import Mathlib.Order.Bounds.Basic
import Mathlib.Order.Lattice
import Mathlib.Tactic.Common

/-!
# Running extrema

A program that wants the least and the greatest of its values keeps the pair of those seen so far.
`Extrema xs lo hi` says that `lo` and `hi` are such a pair for the list `xs`; it grows with the list
(`Extrema.append`, `Extrema.concat`), and two lists have the same extrema exactly when each lies
within the other (`Extrema.iff_within`).

Some programs have no place for "nothing seen yet" and let a pair of marks stand for it.  A past in
which there was nothing but the mark looks like no past at all and is forgotten: what such an
accumulator stands for is the list `notice` builds (`Accumulated.notice`).  Fed in chunks, it ends
with the right extrema if what it forgot lies within the rest (`notice_chunks_iff`).
-/

set_option autoImplicit false

variable {α : Type*} [LinearOrder α]

/-- The least and the greatest of the values of a list. -/
structure Extrema (xs : List α) (lo hi : α) : Prop where
  least : IsLeast {x | x ∈ xs} lo
  greatest : IsGreatest {x | x ∈ xs} hi

namespace Extrema

variable {xs ys : List α} {lo hi lo' hi' x : α}

theorem singleton (x : α) : Extrema [x] x x := by
  have hset : {y | y ∈ [x]} = {x} := by
    ext y
    simp
  exact ⟨hset ▸ isLeast_singleton, hset ▸ isGreatest_singleton⟩

/-- The extrema of two lists together. -/
theorem append (hx : Extrema xs lo hi) (hy : Extrema ys lo' hi') :
    Extrema (xs ++ ys) (min lo lo') (max hi hi') := by
  have hset : {x | x ∈ xs ++ ys} = {x | x ∈ xs} ∪ {x | x ∈ ys} := by
    ext y
    simp
  exact ⟨hset ▸ hx.least.union hy.least, hset ▸ hx.greatest.union hy.greatest⟩

/-- One value more. -/
theorem concat (h : Extrema xs lo hi) (x : α) : Extrema (xs ++ [x]) (min lo x) (max hi x) :=
  h.append (singleton x)

/-- A list of nothing but `x`. -/
theorem forall_eq_iff (h : Extrema xs lo hi) : (∀ y ∈ xs, y = x) ↔ lo = x ∧ hi = x := by
  refine ⟨fun hall => ⟨hall lo h.least.1, hall hi h.greatest.1⟩, ?_⟩
  rintro ⟨rfl, rfl⟩ y hy
  exact le_antisymm (h.greatest.2 hy) (h.least.2 hy)

/-! ## Lists with the same extrema -/

/-- Every value of the first list lies between two of the second. -/
def Within (xs ys : List α) : Prop := ∀ x ∈ xs, ∃ lo ∈ ys, ∃ hi ∈ ys, lo ≤ x ∧ x ≤ hi

instance (xs ys : List α) : Decidable (Within xs ys) := by unfold Within; infer_instance

theorem within (hx : Extrema xs lo hi) (hy : Extrema ys lo hi) : Within xs ys :=
  fun _ h => ⟨lo, hy.least.1, hi, hy.greatest.1, hx.least.2 h, hx.greatest.2 h⟩

/-- **Two lists have the same extrema exactly when each lies within the other.** -/
theorem iff_within (hx : Extrema xs lo hi) :
    Extrema ys lo hi ↔ Within xs ys ∧ Within ys xs := by
  refine ⟨fun hy => ⟨hx.within hy, hy.within hx⟩, ?_⟩
  rintro ⟨hxy, hyx⟩
  -- a value of `ys` below `lo` is at most `lo`, and nothing of `ys` is less
  have hlower : lo ∈ lowerBounds {y | y ∈ ys} := by
    intro y hy
    obtain ⟨a, ha, -, -, hay, -⟩ := hyx y hy
    exact (hx.least.2 ha).trans hay
  have hupper : hi ∈ upperBounds {y | y ∈ ys} := by
    intro y hy
    obtain ⟨-, -, b, hb, -, hyb⟩ := hyx y hy
    exact hyb.trans (hx.greatest.2 hb)
  obtain ⟨a, ha, -, -, halo, -⟩ := hxy lo hx.least.1
  obtain ⟨-, -, b, hb, -, hbhi⟩ := hxy hi hx.greatest.1
  have hlo : a = lo := le_antisymm halo (hlower ha)
  have hhi : b = hi := le_antisymm (hupper hb) hbhi
  exact ⟨⟨hlo ▸ ha, hlower⟩, ⟨hhi ▸ hb, hupper⟩⟩

/-! ## A mark for nothing -/

variable {mark : α} {seen new : List α}

/-- What is seen once more values come: all of them, but a past of nothing but marks is
forgotten. -/
def notice (mark : α) (seen new : List α) : List α :=
  if ∀ x ∈ seen, x = mark then new else seen ++ new

/-- A pair of extrema in which a pair of marks stands for nothing. -/
def Accumulated (mark : α) (seen : List α) (lo hi : α) : Prop :=
  seen = [] ∧ lo = mark ∧ hi = mark ∨ Extrema seen lo hi

theorem Accumulated.forall_eq_iff (h : Accumulated mark seen lo hi) :
    (∀ x ∈ seen, x = mark) ↔ lo = mark ∧ hi = mark := by
  rcases h with ⟨rfl, hmark⟩ | h
  · simp [hmark]
  · exact h.forall_eq_iff

/-- **One step of an accumulator that takes a pair of marks for nothing.** -/
theorem Accumulated.notice (h : Accumulated mark seen lo hi) (hnew : Extrema new lo' hi') :
    Extrema (notice mark seen new) (if lo = mark ∧ hi = mark then lo' else min lo lo')
      (if lo = mark ∧ hi = mark then hi' else max hi hi') := by
  rw [Extrema.notice]
  by_cases hall : ∀ x ∈ seen, x = mark
  · rw [if_pos hall, if_pos (h.forall_eq_iff.mp hall), if_pos (h.forall_eq_iff.mp hall)]
    exact hnew
  · have hmark := mt h.forall_eq_iff.mpr hall
    rw [if_neg hall, if_neg hmark, if_neg hmark]
    rcases h with ⟨-, hnil⟩ | h
    · exact absurd hnil hmark
    · exact h.append hnew

/-! ## Chunks of values

An accumulator that is fed a list in chunks, none of them empty, forgets those at the beginning
that hold nothing but the mark. -/

variable {chunks : List (List α)} {c : List α}

/-- The chunks at the beginning that hold nothing but the mark. -/
def leading (mark : α) (chunks : List (List α)) : List (List α) :=
  chunks.takeWhile fun c => ∀ x ∈ c, x = mark

/-- The others. -/
def following (mark : α) (chunks : List (List α)) : List (List α) :=
  chunks.dropWhile fun c => ∀ x ∈ c, x = mark

theorem flatten_eq_leading_following (mark : α) (chunks : List (List α)) :
    chunks.flatten = (leading mark chunks).flatten ++ (following mark chunks).flatten := by
  rw [leading, following, ← List.flatten_append, List.takeWhile_append_dropWhile]

theorem eq_mark_of_mem_leading (hx : x ∈ (leading mark chunks).flatten) : x = mark := by
  obtain ⟨c, hc, hxc⟩ := List.mem_flatten.mp hx
  have hmark := List.mem_takeWhile_imp hc
  exact of_decide_eq_true hmark x hxc

/-- Once there is something other than marks, nothing is forgotten any more. -/
theorem foldl_notice_of_not (h : ¬ ∀ x ∈ seen, x = mark) (chunks : List (List α)) :
    chunks.foldl (Extrema.notice mark) seen = seen ++ chunks.flatten := by
  induction chunks generalizing seen with
  | nil => simp
  | cons c chunks ih =>
    have hmore : ¬ ∀ x ∈ seen ++ c, x = mark :=
      fun hall => h fun x hx => hall x (List.mem_append_left c hx)
    rw [List.foldl_cons, Extrema.notice, if_neg h, ih hmore, List.flatten_cons, List.append_assoc]

/-- Until then everything is. -/
theorem foldl_notice_of_following (h : ∀ x ∈ seen, x = mark) (hne : following mark chunks ≠ []) :
    chunks.foldl (Extrema.notice mark) seen = (following mark chunks).flatten := by
  induction chunks generalizing seen with
  | nil => exact absurd rfl hne
  | cons c chunks ih =>
    rw [List.foldl_cons, Extrema.notice, if_pos h]
    by_cases hc : ∀ x ∈ c, x = mark
    · rw [following, List.dropWhile_cons_of_pos (by simpa using hc)] at hne ⊢
      exact ih hc hne
    · rw [following, List.dropWhile_cons_of_neg (by simpa using hc), foldl_notice_of_not hc,
        List.flatten_cons]

theorem mem_of_mem_foldl_notice (hx : x ∈ chunks.foldl (Extrema.notice mark) seen) :
    x ∈ seen ∨ x ∈ chunks.flatten := by
  induction chunks generalizing seen with
  | nil => exact .inl hx
  | cons c chunks ih =>
    rw [List.flatten_cons, List.mem_append]
    rcases ih hx with hnotice | hrest
    · rw [Extrema.notice] at hnotice
      split at hnotice
      · exact .inr (.inl hnotice)
      · exact (List.mem_append.mp hnotice).imp_right .inl
    · exact .inr (.inr hrest)

/-- **An accumulator that is fed chunks ends with the extrema of all values**, as long as what it
forgot was nothing, or everything, or lies within the rest. -/
theorem notice_chunks_iff (h : Extrema (chunks.foldl (Extrema.notice mark) []) lo hi)
    (hchunks : ∀ c ∈ chunks, c ≠ []) :
    Extrema chunks.flatten lo hi ↔
      leading mark chunks = [] ∨ following mark chunks = [] ∨
        Within [mark] (following mark chunks).flatten := by
  have hsub : Within (chunks.foldl (Extrema.notice mark) []) chunks.flatten := fun x hx =>
    have hmem := (mem_of_mem_foldl_notice hx).resolve_left List.not_mem_nil
    ⟨x, hmem, x, hmem, le_refl x, le_refl x⟩
  rw [h.iff_within, and_iff_right hsub]
  by_cases hfollowing : following mark chunks = []
  · refine iff_of_true (fun x hx => ?_) (.inr (.inl hfollowing))
    have hall : ∀ y ∈ chunks.flatten, y = mark := by
      intro y hy
      rw [flatten_eq_leading_following mark, hfollowing, List.flatten_nil, List.append_nil] at hy
      exact eq_mark_of_mem_leading hy
    have hlo := (mem_of_mem_foldl_notice h.least.1).resolve_left List.not_mem_nil
    have hxlo : x = lo := (hall x hx).trans (hall lo hlo).symm
    exact ⟨lo, h.least.1, lo, h.least.1, hxlo.ge, hxlo.le⟩
  · rw [foldl_notice_of_following (fun x hx => absurd hx List.not_mem_nil) hfollowing]
    have hself : ∀ x ∈ (following mark chunks).flatten,
        ∃ lo ∈ (following mark chunks).flatten, ∃ hi ∈ (following mark chunks).flatten,
          lo ≤ x ∧ x ≤ hi := fun x hx => ⟨x, hx, x, hx, le_refl x, le_refl x⟩
    refine ⟨fun hwithin => ?_, fun hor x hx => ?_⟩
    · cases hleading : leading mark chunks with
      | nil => exact .inl rfl
      | cons c rest =>
        -- a chunk of marks has one
        have hc : c ∈ leading mark chunks := hleading ▸ List.mem_cons_self
        obtain ⟨y, hy⟩ := List.exists_mem_of_ne_nil c
          (hchunks c ((List.takeWhile_prefix _).subset hc))
        have hmem : y ∈ (leading mark chunks).flatten := List.mem_flatten.mpr ⟨c, hc, hy⟩
        have hflat : y ∈ chunks.flatten := by
          rw [flatten_eq_leading_following mark]
          exact List.mem_append_left _ hmem
        refine .inr (.inr fun x hx => ?_)
        have hmark := hwithin y hflat
        rw [eq_mark_of_mem_leading hmem] at hmark
        rwa [List.mem_singleton.mp hx]
    · rw [flatten_eq_leading_following mark, List.mem_append] at hx
      rcases hx with hx | hx
      · rcases hor with hnil | hnil | hmark
        · rw [hnil] at hx
          cases hx
        · exact absurd hnil hfollowing
        · rw [eq_mark_of_mem_leading hx]
          exact hmark mark (List.mem_singleton_self mark)
      · exact hself x hx

end Extrema
