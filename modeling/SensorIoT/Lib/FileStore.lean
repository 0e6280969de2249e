import Mathlib.Logic.Function.Basic
import SensorIoT.Lib.Emitter

/-!
# A store of files

Files by name, each a list of bytes, with the three ways a C program opens one for writing:
`create` (mode `w`: an empty file, whatever was there), `overwrite` (mode `r+`: bytes written from
offset 0 over what is there, and nothing if there is no such file) and `append` (mode `a`).

`π` is the type of names and `β` the type of bytes.

The second half is about a way of keeping a file that consists of a head of fixed length and data:
it is created empty, and from then on every write rewrites the head in place and appends to the
data (`Op`).  What such operations leave in a file, `after_eq`, is the head of the last write since
the file was created and the data of all of them.
-/

set_option autoImplicit false

/-- Files by name. -/
def FileStore (π β : Type*) := π → Option (List β)

namespace FileStore

variable {π β : Type*} [DecidableEq π]

/-- The store without files. -/
def empty : FileStore π β := fun _ => none

/-- Mode `w`. -/
def create (s : FileStore π β) (name : π) : FileStore π β := Function.update s name (some [])

/-- Mode `r+`, writing from offset 0. -/
def overwrite (s : FileStore π β) (name : π) (bs : List β) : FileStore π β :=
  match s name with
  | none => s
  | some old => Function.update s name (some (bs ++ old.drop bs.length))

/-- Mode `a`. -/
def append (s : FileStore π β) (name : π) (bs : List β) : FileStore π β :=
  Function.update s name (some ((s name).getD [] ++ bs))

variable {s : FileStore π β} {name other : π} {bs old : List β}

@[simp] theorem create_self : s.create name name = some [] := Function.update_self ..

@[simp] theorem create_of_ne (h : other ≠ name) : s.create name other = s other :=
  Function.update_of_ne h _ _

theorem overwrite_self (h : s name = some old) :
    s.overwrite name bs name = some (bs ++ old.drop bs.length) := by
  rw [overwrite, h]
  exact Function.update_self ..

@[simp] theorem overwrite_of_ne (h : other ≠ name) : s.overwrite name bs other = s other := by
  rw [overwrite]
  cases s name with
  | none => rfl
  | some old => exact Function.update_of_ne h _ _

theorem append_self (h : s name = some old) : s.append name bs name = some (old ++ bs) := by
  rw [append, h]
  exact Function.update_self ..

@[simp] theorem append_of_ne (h : other ≠ name) : s.append name bs other = s other :=
  Function.update_of_ne h _ _

/-- A head rewritten in place and data appended: what stood behind the head stays where it is, in
front of the new data. -/
theorem append_overwrite_self {head : List β} (h : s name = some old) :
    (s.overwrite name head).append name bs name
      = some (head ++ (old.drop head.length ++ bs)) := by
  rw [append_self (overwrite_self h), List.append_assoc]

/-! ## Other bytes

What the operations do does not depend on what a byte is. -/

omit [DecidableEq π] in
/-- The files with every byte replaced. -/
def map {γ : Type*} (f : β → γ) (s : FileStore π β) : FileStore π γ :=
  fun name => (s name).map (List.map f)

section Map

variable {γ : Type*} (f : β → γ)

omit [DecidableEq π] in
theorem map_apply (h : s name = some old) : s.map f name = some (old.map f) := by
  rw [map, h, Option.map_some]

theorem map_create : (s.create name).map f = (s.map f).create name := by
  funext other
  by_cases h : other = name
  · subst h; rw [map_apply f create_self, create_self, List.map_nil]
  · rw [create_of_ne h, map, create_of_ne h, map]

theorem map_overwrite :
    (s.overwrite name bs).map f = (s.map f).overwrite name (bs.map f) := by
  funext other
  by_cases h : other = name
  · subst h
    cases hold : s other with
    | none =>
      have hmap : s.map f other = none := by rw [map, hold]; rfl
      rw [overwrite, hold, overwrite, hmap]
      exact hmap.symm
    | some old =>
      rw [map_apply f (overwrite_self hold), overwrite_self (map_apply f hold), List.map_append,
        List.map_drop, List.length_map]
  · rw [overwrite_of_ne h, map, overwrite_of_ne h, map]

theorem map_append : (s.append name bs).map f = (s.map f).append name (bs.map f) := by
  funext other
  by_cases h : other = name
  · subst h
    have hleft : s.append other bs other = some ((s other).getD [] ++ bs) :=
      Function.update_self ..
    have hright : (s.map f).append other (bs.map f) other
        = some ((s.map f other).getD [] ++ bs.map f) := Function.update_self ..
    rw [map_apply f hleft, hright, List.map_append, map]
    cases s other <;> rfl
  · rw [append_of_ne h, map, append_of_ne h, map]

end Map

/-! ## A head and data -/

omit [DecidableEq π] in
/-- An operation on a file that consists of a head and data. -/
inductive Op (π β : Type*) where
  /-- Create the file, or make it empty. -/
  | create (name : π)
  /-- Write the head in place and append data. -/
  | put (name : π) (head data : List β)

/-- The effect of an operation. -/
def Op.exec (s : FileStore π β) : Op π β → FileStore π β
  | .create name => s.create name
  | .put name head data => (s.overwrite name head).append name data

/-- The files after a list of operations, none existing before. -/
def after (ops : List (Op π β)) : FileStore π β := ops.foldl Op.exec empty

/-- The head of a file: of the last write since it was created, nothing before the first one. -/
def headOf (name : π) (ops : List (Op π β)) : Option (List β) :=
  ops.foldl (fun acc op => match op with
    | .create n => if n = name then some [] else acc
    | .put n head _ => if n = name then some head else acc) none

/-- The data of a file: of all writes since it was created. -/
def dataOf (name : π) (ops : List (Op π β)) : List β :=
  ops.foldl (fun acc op => match op with
    | .create n => if n = name then [] else acc
    | .put n _ data => if n = name then acc ++ data else acc) []

/-- Every file is created before it is written. -/
def Created (ops : List (Op π β)) : Prop :=
  Emitter.Lawful (fun pre op => match op with
    | .create _ => True
    | .put name _ _ => (headOf name pre).isSome = true) ops

/-- Every head has length `ℓ`. -/
def HeadLength (ℓ : ℕ) (ops : List (Op π β)) : Prop :=
  ∀ name head data, Op.put name head data ∈ ops → head.length = ℓ

section Ops

variable {ops : List (Op π β)} {data : List β} {ℓ : ℕ}

@[simp] theorem headOf_nil : headOf name ([] : List (Op π β)) = none := rfl

theorem headOf_create :
    headOf name (ops ++ [.create other]) = if other = name then some [] else headOf name ops := by
  simp [headOf, List.foldl_append]

theorem headOf_put :
    headOf name (ops ++ [.put other bs data])
      = if other = name then some bs else headOf name ops := by
  simp [headOf, List.foldl_append]

theorem dataOf_create :
    dataOf name (ops ++ [.create other]) = if other = name then [] else dataOf name ops := by
  simp [dataOf, List.foldl_append]

theorem dataOf_put :
    dataOf name (ops ++ [.put other bs data])
      = if other = name then dataOf name ops ++ data else dataOf name ops := by
  simp [dataOf, List.foldl_append]

omit [DecidableEq π] in
theorem HeadLength.init {op : Op π β} (h : HeadLength ℓ (ops ++ [op])) : HeadLength ℓ ops :=
  fun _ _ _ hmem => h _ _ _ (List.mem_append_left _ hmem)

theorem Created.init {op : Op π β} (h : Created (ops ++ [op])) : Created ops := h.of_append

/-- A file that has a head has one of the right length, or nothing at all yet. -/
theorem headOf_length (hlen : HeadLength ℓ ops) {head : List β} (h : headOf name ops = some head) :
    head.length = ℓ ∨ (head = [] ∧ dataOf name ops = []) := by
  induction ops using List.reverseRecOn with
  | nil => simp at h
  | append_singleton ops op ih =>
    cases op with
    | create n =>
      rw [headOf_create] at h
      rw [dataOf_create]
      split at h
      · rename_i heq
        rw [if_pos heq]
        exact .inr ⟨(Option.some.inj h).symm, rfl⟩
      · rename_i hne
        rw [if_neg hne]
        exact ih hlen.init h
    | put n bs data =>
      rw [headOf_put] at h
      rw [dataOf_put]
      split at h
      · rw [← Option.some.inj h]
        exact .inl (hlen n bs data (by simp))
      · rename_i hne
        rw [if_neg hne]
        exact ih hlen.init h

/-- **What is in a file**: its head, and its data behind it. -/
theorem after_eq (hcreated : Created ops) (hlen : HeadLength ℓ ops) (name : π) :
    after ops name = (headOf name ops).map (· ++ dataOf name ops) := by
  induction ops using List.reverseRecOn with
  | nil => rfl
  | append_singleton ops op ih =>
    have ih := ih hcreated.init hlen.init
    have hafter : after (ops ++ [op]) = Op.exec (after ops) op := by
      simp [after, List.foldl_append]
    rw [hafter]
    cases op with
    | create n =>
      rw [headOf_create, dataOf_create, Op.exec]
      by_cases heq : n = name
      · subst heq; simp
      · rw [create_of_ne (Ne.symm heq), if_neg heq, if_neg heq, ih]
    | put n bs data =>
      rw [headOf_put, dataOf_put, Op.exec]
      by_cases heq : n = name
      · subst heq
        obtain ⟨head, hhead⟩ := Option.isSome_iff_exists.mp hcreated.last
        rw [hhead] at ih
        rw [append_overwrite_self ih, if_pos rfl, if_pos rfl]
        have hbs : bs.length = ℓ := hlen n bs data (by simp)
        have hdrop : (head ++ dataOf n ops).drop bs.length = dataOf n ops := by
          rcases headOf_length hlen.init hhead with hl | ⟨rfl, hnil⟩
          · exact List.drop_left' (hl.trans hbs.symm)
          · rw [hnil]; simp
        simp only [hdrop, Option.map_some]
      · rw [append_of_ne (Ne.symm heq), overwrite_of_ne (Ne.symm heq), if_neg heq, if_neg heq, ih]

/-- A file that was never created has no data. -/
theorem dataOf_of_headOf_eq_none (hcreated : Created ops) (h : headOf name ops = none) :
    dataOf name ops = [] := by
  induction ops using List.reverseRecOn with
  | nil => rfl
  | append_singleton ops op ih =>
    cases op with
    | create n =>
      rw [headOf_create] at h
      split at h
      · cases h
      · rw [dataOf_create, if_neg ‹_›, ih hcreated.init h]
    | put n bs data =>
      rw [headOf_put] at h
      split at h
      · cases h
      · rw [dataOf_put, if_neg ‹_›, ih hcreated.init h]

/-- The data of a file is what stands behind its head. -/
theorem drop_after (hcreated : Created ops) (hlen : HeadLength ℓ ops) (name : π) :
    ((after ops name).getD []).drop ℓ = dataOf name ops := by
  rw [after_eq hcreated hlen]
  cases hhead : headOf name ops with
  | none => rw [dataOf_of_headOf_eq_none hcreated hhead]; simp
  | some head =>
    rw [Option.map_some, Option.getD_some]
    rcases headOf_length hlen hhead with hl | ⟨rfl, hnil⟩
    · exact List.drop_left' hl
    · rw [hnil]; simp

end Ops

end FileStore
