import Mathlib.Data.List.Basic

/-!
# Lines and bounded reads

A text is a list; an element for which `stop` holds ends a line and belongs to it. `split` cuts a
text into its lines. A reader with a buffer of `n` elements sees something else: `takeLine` reads up
to the end of the line or until the buffer is full, and `reads` is what it returns until the text is
exhausted, so a longer line comes in several reads.

* `line_induction`: a text is empty, or a first line and a text behind it;
* `split_append`, `reads_append_of_le`, `reads_append_of_lt`: what a first line adds to the
  lines and to the reads;
* `length_reads_eq_iff`: there are as many reads as lines exactly when every line fits the buffer,
  and then they are the lines (`reads_eq_split`).
-/

namespace Effects.Lines

variable {α : Type} (stop : α → Bool)

/-- Read up to the end of the line, `n` elements at most: what was read, and what is left. -/
def takeLine : ℕ → List α → List α × List α
  | 0, f => ([], f)
  | _ + 1, [] => ([], [])
  | n + 1, a :: f => if stop a then ([a], f) else (a :: (takeLine n f).1, (takeLine n f).2)

/-- The lines of a text. -/
def split : List α → List (List α)
  | [] => []
  | a :: f =>
    if stop a then
      [a] :: split f
    else
      match split f with
      | [] => [[a]]
      | l :: ls => (a :: l) :: ls

/-- A read that can make progress does. -/
theorem length_snd_takeLine_lt : ∀ {n : ℕ} {f : List α}, 0 < n → f ≠ [] →
    (takeLine stop n f).2.length < f.length := by
  have hle : ∀ (n : ℕ) (f : List α), (takeLine stop n f).2.length ≤ f.length := by
    intro n
    induction n with
    | zero => exact fun f ↦ Nat.le_refl _
    | succ n ih =>
      rintro (_ | ⟨a, f⟩)
      · exact Nat.le_refl _
      · rw [takeLine]
        split
        · exact Nat.le_succ _
        · exact Nat.le_succ_of_le (ih f)
  rintro (_ | n) (_ | ⟨a, f⟩) hn hf
  · exact absurd hn (by decide)
  · exact absurd hn (by decide)
  · exact absurd rfl hf
  · rw [takeLine]
    split
    · exact Nat.lt_succ_self _
    · exact Nat.lt_succ_of_le (hle n f)

/-- What successive reads of at most `n` elements return. -/
def reads (n : ℕ) (f : List α) : List (List α) :=
  if _h : 0 < n ∧ f ≠ [] then
    (takeLine stop n f).1 :: reads n (takeLine stop n f).2
  else
    []
termination_by f.length
decreasing_by exact length_snd_takeLine_lt stop _h.1 _h.2

/-- The list is the first line of the text it stands in front of. -/
inductive FirstLine (rest : List α) : List α → Prop
  | last (a : α) : stop a = true ∨ rest = [] → FirstLine rest [a]
  | cons (a : α) {l : List α} : stop a = false → FirstLine rest l → FirstLine rest (a :: l)

variable {stop} {l rest f : List α} {n : ℕ}

namespace FirstLine

theorem ne_nil (h : FirstLine stop rest l) : l ≠ [] := by
  rcases h with ⟨_, _⟩ | ⟨_, _, _⟩ <;> exact List.cons_ne_nil _ _

/-- A line with something behind it ends with an end of line. -/
theorem exists_stop (h : FirstLine stop rest l) (hrest : rest ≠ []) : ∃ a ∈ l, stop a = true := by
  induction h with
  | last a ha => exact ⟨a, List.mem_singleton_self a, ha.resolve_right hrest⟩
  | cons a _ _ ih =>
    obtain ⟨b, hb, hstop⟩ := ih
    exact ⟨b, List.mem_cons_of_mem a hb, hstop⟩

/-- Before the end of a line there is no end of line. -/
theorem not_stop_take (h : FirstLine stop rest l) (hn : n < l.length) :
    ∀ a ∈ l.take n, stop a = false := by
  induction h generalizing n with
  | last a _ =>
    obtain rfl : n = 0 := by
      simp only [List.length_singleton] at hn
      omega
    exact fun b hb ↦ absurd hb List.not_mem_nil
  | @cons a l ha _ ih =>
    rcases n with _ | n
    · exact fun b hb ↦ absurd hb List.not_mem_nil
    · rw [List.take_succ_cons]
      exact List.forall_mem_cons.2 ⟨ha, ih (Nat.lt_of_succ_lt_succ hn)⟩

/-- What a read leaves of a line is a line. -/
theorem drop (h : FirstLine stop rest l) (hn : n < l.length) : FirstLine stop rest (l.drop n) := by
  induction h generalizing n with
  | last a ha =>
    obtain rfl : n = 0 := by
      simp only [List.length_singleton] at hn
      omega
    exact .last a ha
  | @cons a l ha hl ih =>
    rcases n with _ | n
    · exact .cons a ha hl
    · exact ih (Nat.lt_of_succ_lt_succ hn)

end FirstLine

/-- A line is closed by an end of line behind elements that are none. -/
theorem firstLine_concat {body : List α} (hbody : ∀ a ∈ body, stop a = false) {b : α}
    (hb : stop b = true) (rest : List α) : FirstLine stop rest (body ++ [b]) := by
  induction body with
  | nil => exact .last b (Or.inl hb)
  | cons a body ih =>
    obtain ⟨ha, hbody⟩ := List.forall_mem_cons.1 hbody
    exact .cons a ha (ih hbody)

theorem exists_firstLine : ∀ {f : List α}, f ≠ [] → ∃ l rest, f = l ++ rest ∧ FirstLine stop rest l
  | [], h => absurd rfl h
  | a :: f, _ => by
    rcases ha : stop a with _ | _
    · rcases f with _ | ⟨b, f⟩
      · exact ⟨[a], [], rfl, .last a (Or.inr rfl)⟩
      · obtain ⟨l, rest, hf, hl⟩ := exists_firstLine (List.cons_ne_nil b f)
        exact ⟨a :: l, rest, by rw [hf, List.cons_append], .cons a ha hl⟩
    · exact ⟨[a], f, rfl, .last a (Or.inl ha)⟩

variable (stop) in
/-- **Induction over a text, line by line.** -/
theorem line_induction {P : List α → Prop} (nil : P [])
    (line : ∀ l rest, FirstLine stop rest l → P rest → P (l ++ rest)) (f : List α) : P f := by
  rcases f with _ | ⟨a, f⟩
  · exact nil
  · obtain ⟨l, rest, hf, hl⟩ := @exists_firstLine _ stop _ (List.cons_ne_nil a f)
    have hlen : rest.length < (a :: f).length := by
      have := List.length_pos_iff.2 hl.ne_nil
      rw [hf, List.length_append]
      omega
    rw [hf]
    exact line l rest hl (line_induction nil line rest)
termination_by f.length
decreasing_by exact hlen

/-! ### What a first line adds -/

theorem split_append (h : FirstLine stop rest l) :
    split stop (l ++ rest) = l :: split stop rest := by
  induction h with
  | last a ha =>
    rw [List.singleton_append, split]
    rcases hstop : stop a with _ | _
    · obtain rfl := ha.resolve_left (by rw [hstop]; decide)
      rfl
    · rfl
  | cons a ha _ ih =>
    rw [List.cons_append, split, ih, ha]
    rfl

theorem takeLine_append_of_le (h : FirstLine stop rest l) (hn : l.length ≤ n) :
    takeLine stop n (l ++ rest) = (l, rest) := by
  induction h generalizing n with
  | last a ha =>
    obtain ⟨n, rfl⟩ : ∃ m, n = m + 1 := ⟨n - 1, by simp only [List.length_singleton] at hn; omega⟩
    rw [List.singleton_append, takeLine]
    rcases hstop : stop a with _ | _
    · obtain rfl := ha.resolve_left (by rw [hstop]; decide)
      rcases n with _ | n <;> rfl
    · rfl
  | @cons a l ha _ ih =>
    obtain ⟨n, rfl⟩ : ∃ m, n = m + 1 := ⟨n - 1, by simp only [List.length_cons] at hn; omega⟩
    rw [List.cons_append, takeLine, ih (Nat.le_of_succ_le_succ hn), ha]
    rfl

theorem takeLine_append_of_lt (h : FirstLine stop rest l) (hn : n < l.length) :
    takeLine stop n (l ++ rest) = (l.take n, l.drop n ++ rest) := by
  induction h generalizing n with
  | last a _ =>
    obtain rfl : n = 0 := by
      simp only [List.length_singleton] at hn
      omega
    rfl
  | @cons a l ha _ ih =>
    rcases n with _ | n
    · rfl
    · rw [List.cons_append, takeLine, ih (Nat.lt_of_succ_lt_succ hn), ha]
      rfl

@[simp] theorem reads_nil (n : ℕ) : reads stop n [] = [] := by
  rw [reads, dif_neg (by simp)]

/-- A line that fits comes in one read. -/
theorem reads_append_of_le (h : FirstLine stop rest l) (hn : l.length ≤ n) :
    reads stop n (l ++ rest) = l :: reads stop n rest := by
  have hpos := List.length_pos_iff.2 h.ne_nil
  rw [reads, dif_pos ⟨by omega, List.append_ne_nil_of_left_ne_nil h.ne_nil rest⟩,
    takeLine_append_of_le h hn]

/-- Of a longer line the first read returns the first `n` elements. -/
theorem reads_append_of_lt (h : FirstLine stop rest l) (hpos : 0 < n) (hn : n < l.length) :
    reads stop n (l ++ rest) = l.take n :: reads stop n (l.drop n ++ rest) := by
  rw [reads, dif_pos ⟨hpos, List.append_ne_nil_of_left_ne_nil h.ne_nil rest⟩,
    takeLine_append_of_lt h hn]

/-- The first read is the start of the first line. -/
theorem exists_reads_append (h : FirstLine stop rest l) (hpos : 0 < n) :
    ∃ tail, reads stop n (l ++ rest) = l.take n :: tail := by
  rcases Nat.lt_or_ge n l.length with hlt | hle
  · exact ⟨_, reads_append_of_lt h hpos hlt⟩
  · rw [List.take_of_length_le hle]
    exact ⟨_, reads_append_of_le h hle⟩

/-- **A text written line by line** has the lines that were written. -/
theorem split_flatten {ls : List (List α)}
    (h : ∀ l ∈ ls, ∃ body b, l = body ++ [b] ∧ (∀ a ∈ body, stop a = false) ∧ stop b = true) :
    split stop ls.flatten = ls := by
  induction ls with
  | nil => rfl
  | cons l ls ih =>
    obtain ⟨⟨body, b, rfl, hbody, hb⟩, hls⟩ := List.forall_mem_cons.1 h
    rw [List.flatten_cons, split_append (firstLine_concat hbody hb _), ih hls]

/-- The lines of a text are the text. -/
theorem flatten_split (f : List α) : (split stop f).flatten = f := by
  induction f using line_induction stop with
  | nil => rfl
  | line l rest hl ih => rw [split_append hl, List.flatten_cons, ih]

/-! ### Reads and lines -/

theorem ne_nil_of_mem_split (h : l ∈ split stop f) : l ≠ [] := by
  induction f using line_induction stop with
  | nil => exact absurd h List.not_mem_nil
  | line first rest hfirst ih =>
    rw [split_append hfirst] at h
    rcases List.mem_cons.1 h with rfl | h
    · exact hfirst.ne_nil
    · exact ih h

/-- A reader whose buffer holds every line returns the lines. -/
theorem reads_eq_split (h : ∀ l ∈ split stop f, l.length ≤ n) : reads stop n f = split stop f := by
  induction f using line_induction stop with
  | nil => rw [reads_nil, split]
  | line l rest hl ih =>
    rw [split_append hl] at h ⊢
    obtain ⟨hle, hrest⟩ := List.forall_mem_cons.1 h
    rw [reads_append_of_le hl hle, ih hrest]

/-- No line is lost. -/
theorem length_split_le (hpos : 0 < n) (f : List α) :
    (split stop f).length ≤ (reads stop n f).length := by
  rcases f with _ | ⟨a, f⟩
  · exact Nat.zero_le _
  · obtain ⟨l, rest, hf, hl⟩ := @exists_firstLine _ stop _ (List.cons_ne_nil a f)
    have hlen : (a :: f).length = l.length + rest.length := by rw [hf, List.length_append]
    have hne := List.length_pos_iff.2 hl.ne_nil
    rw [hf, split_append hl]
    rcases Nat.lt_or_ge n l.length with hlt | hle
    · have hshort := length_split_le hpos (l.drop n ++ rest)
      rw [split_append (hl.drop hlt)] at hshort
      rw [reads_append_of_lt hl hpos hlt]
      exact Nat.le_succ_of_le hshort
    · rw [reads_append_of_le hl hle]
      exact Nat.succ_le_succ (length_split_le hpos rest)
termination_by f.length
decreasing_by
  · rw [hlen, List.length_append, List.length_drop]
    omega
  · rw [hlen]
    omega

/-- **A line that does not fit is seen as more than one.** -/
theorem length_reads_eq_iff (hpos : 0 < n) (f : List α) :
    (reads stop n f).length = (split stop f).length ↔ ∀ l ∈ split stop f, l.length ≤ n := by
  refine ⟨fun h ↦ ?_, fun h ↦ by rw [reads_eq_split h]⟩
  induction f using line_induction stop with
  | nil => exact fun l hl ↦ absurd hl List.not_mem_nil
  | line l rest hl ih =>
    rw [split_append hl] at h ⊢
    rcases Nat.lt_or_ge n l.length with hlt | hle
    · have hmore : (split stop (l.drop n ++ rest)).length ≤ _ :=
        length_split_le hpos (l.drop n ++ rest)
      rw [split_append (hl.drop hlt)] at hmore
      rw [reads_append_of_lt hl hpos hlt] at h
      simp only [List.length_cons] at h hmore
      omega
    · rw [reads_append_of_le hl hle] at h
      exact List.forall_mem_cons.2 ⟨hle, ih (Nat.succ_inj.1 h)⟩

end Effects.Lines
