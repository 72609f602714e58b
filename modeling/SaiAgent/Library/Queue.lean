import Mathlib.Data.List.Basic

/-!
# Bounded queues with a read position

A queue of bounded capacity that keeps what was read: its contents and how many of them were
read. Items are put behind the contents, read from the position on, and forgotten all together.

`Queue.run` is a history of operations with their outcomes, `none` where an operation was refused.
`run_conserves`: over a history that never clears the queue, what was read followed by what is still
unread is what was unread at first followed by what was put, so nothing is lost, repeated or
reordered.
-/

namespace Effects

/-- A queue with room for `cap` items, the first `pos` of which have been read. -/
structure Queue (α : Type) (cap : ℕ) where
  contents : List α
  pos : ℕ
  pos_le : pos ≤ contents.length
  length_le : contents.length ≤ cap

namespace Queue

variable {α : Type} {cap : ℕ}

/-- What can be done with a queue. -/
inductive Op (α : Type) where
  | put (items : List α)
  | get (n : ℕ)
  | clear

/-- The items not read yet. -/
def unread (q : Queue α cap) : List α := q.contents.drop q.pos

/-- A queue with nothing in it. -/
def empty : Queue α cap := ⟨[], 0, Nat.le_refl _, Nat.zero_le _⟩

/-- One operation: the items it returns, or `none` where it is refused. Something must be there for
a read to succeed, even for a read of no items. -/
def step (q : Queue α cap) : Op α → Option (List α) × Queue α cap
  | .put items =>
    if h : q.contents.length + items.length ≤ cap then
      (some [], ⟨q.contents ++ items, q.pos, by
        have := q.pos_le
        rw [List.length_append]
        omega, by rwa [List.length_append]⟩)
    else
      (none, q)
  | .get n =>
    if h : q.contents ≠ [] ∧ q.pos + n ≤ q.contents.length then
      (some (q.unread.take n), ⟨q.contents, q.pos + n, h.2, q.length_le⟩)
    else
      (none, q)
  | .clear => (some [], empty)

/-- A history: each operation with its outcome, and the queue it ends in. -/
def run : Queue α cap → List (Op α) → List (Op α × Option (List α)) × Queue α cap
  | q, [] => ([], q)
  | q, op :: ops => ((op, (q.step op).1) :: (run (q.step op).2 ops).1, (run (q.step op).2 ops).2)

/-- The items an operation put, given its outcome. -/
def itemsPut : Op α × Option (List α) → List α
  | (.put items, some _) => items
  | _ => []

/-- The items an operation returned. -/
def itemsRead (e : Op α × Option (List α)) : List α := e.2.getD []

@[simp] theorem run_nil (q : Queue α cap) : q.run [] = ([], q) := rfl

@[simp] theorem run_cons (q : Queue α cap) (op : Op α) (ops : List (Op α)) :
    q.run (op :: ops) =
      ((op, (q.step op).1) :: ((q.step op).2.run ops).1, ((q.step op).2.run ops).2) := rfl

/-! ### One operation -/

theorem step_put_of_fits {q : Queue α cap} {items : List α}
    (h : q.contents.length + items.length ≤ cap) :
    (q.step (.put items)).1 = some [] ∧ (q.step (.put items)).2.contents = q.contents ++ items ∧
      (q.step (.put items)).2.pos = q.pos := by
  simp only [step, dif_pos h, and_self]

theorem step_put_of_not_fits {q : Queue α cap} {items : List α}
    (h : ¬q.contents.length + items.length ≤ cap) : q.step (.put items) = (none, q) := by
  simp only [step, dif_neg h]

theorem step_get_of_available {q : Queue α cap} {n : ℕ}
    (h : q.contents ≠ [] ∧ q.pos + n ≤ q.contents.length) :
    (q.step (.get n)).1 = some (q.unread.take n) ∧ (q.step (.get n)).2.contents = q.contents ∧
      (q.step (.get n)).2.pos = q.pos + n := by
  simp only [step, dif_pos h, and_self]

theorem step_get_of_not_available {q : Queue α cap} {n : ℕ}
    (h : ¬(q.contents ≠ [] ∧ q.pos + n ≤ q.contents.length)) : q.step (.get n) = (none, q) := by
  simp only [step, dif_neg h]

/-- **One operation conserves the items**, unless it clears the queue. -/
theorem step_conserves (q : Queue α cap) {op : Op α} (hop : op ≠ .clear) :
    q.unread ++ itemsPut (op, (q.step op).1) =
      itemsRead (op, (q.step op).1) ++ (q.step op).2.unread := by
  cases op with
  | put items =>
    by_cases h : q.contents.length + items.length ≤ cap
    · obtain ⟨hout, hcontents, hpos⟩ := step_put_of_fits h
      rw [hout]
      show q.unread ++ items = [] ++ (q.step (.put items)).2.unread
      rw [unread, unread, hcontents, hpos, List.nil_append, List.drop_append_of_le_length q.pos_le]
    · rw [step_put_of_not_fits h]
      show q.unread ++ [] = [] ++ q.unread
      rw [List.append_nil, List.nil_append]
  | get n =>
    by_cases h : q.contents ≠ [] ∧ q.pos + n ≤ q.contents.length
    · obtain ⟨hout, hcontents, hpos⟩ := step_get_of_available h
      rw [hout]
      show q.unread ++ [] = q.unread.take n ++ (q.step (.get n)).2.unread
      rw [List.append_nil, unread, unread, hcontents, hpos, ← List.drop_drop, List.take_append_drop]
    · rw [step_get_of_not_available h]
      show q.unread ++ [] = [] ++ q.unread
      rw [List.append_nil, List.nil_append]
  | clear => exact absurd rfl hop

/-! ### Histories -/

theorem run_append (q : Queue α cap) (ops ops' : List (Op α)) :
    q.run (ops ++ ops') =
      ((q.run ops).1 ++ ((q.run ops).2.run ops').1, ((q.run ops).2.run ops').2) := by
  induction ops generalizing q with
  | nil => rfl
  | cons op ops ih => simp only [List.cons_append, run_cons, ih]

/-- **No item is lost, repeated or reordered** while the queue is not cleared. The induction is
over the history; the items still unread after an operation are what the rest of the history starts
from. -/
theorem run_conserves (q : Queue α cap) {ops : List (Op α)} (hops : ∀ op ∈ ops, op ≠ .clear) :
    q.unread ++ (q.run ops).1.flatMap itemsPut =
      (q.run ops).1.flatMap itemsRead ++ (q.run ops).2.unread := by
  induction ops generalizing q with
  | nil => simp
  | cons op ops ih =>
    have hstep := step_conserves q (hops op List.mem_cons_self)
    have hrest := ih (q.step op).2 fun op' h ↦ hops op' (List.mem_cons_of_mem _ h)
    rw [run_cons, List.flatMap_cons, List.flatMap_cons, ← List.append_assoc, hstep,
      List.append_assoc, hrest, List.append_assoc]

end Queue

end Effects
