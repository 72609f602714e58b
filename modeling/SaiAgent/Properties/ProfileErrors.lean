import SaiAgent.Properties.Profile
import Mathlib.Data.List.Chain

/-!
# Profiles that are not well formed

`sai_profile_parse` returns `RC_STATUS_OK` from a line that does not parse, and bounds neither the
strings of a line nor the length of a line.

* `reportsFailure_iff`: its status tells whether the file was parsed only for files that parse, line
  by line, with memory for every line, and for files that cannot be opened;
* `fieldsFit_iff`: exactly which files leave the fields in bounds and every line at one parameter.
-/

namespace SaiAgent

open Effects Effects.Lines

variable {calloc : ℕ → Bool} {line : List UInt8} {lines : List (List UInt8)}
  {params : List Param} {f : List UInt8} {p : Param}

/-! ### What the status tells -/

/-- The line is the parameter. -/
def ParsedAs (line : List UInt8) (p : Param) : Prop := Written p.name p.value line

/-- **The status reports failure**: the call returns; it returns `RC_STATUS_OK` only with the
parameters of all lines, last line first; and where a line is no parameter it returns another status
and stores nothing. A file that cannot be opened has no lines. -/
def ReportsFailure (file : Option (List UInt8)) (calloc : ℕ → Bool) : Prop :=
  ∃ rc stored, saiProfileParse file calloc = .ok (rc, stored) ∧
    (rc = rcStatusOk → ∃ f params, file = some f ∧ stored = some params ∧
      List.Forall₂ ParsedAs (split endsLine f) params.reverse) ∧
    ∀ f, file = some f → (∃ line ∈ split endsLine f, ∀ p, ¬ParsedAs line p) →
      rc ≠ rcStatusOk ∧ stored = none

/-- Every line of the file is a parameter and fits the buffer of `fgets`, and there is memory for
each. -/
structure WellFormed (f : List UInt8) (calloc : ℕ → Bool) : Prop where
  memory : ∀ k < (split endsLine f).length, calloc k = true
  lines : ∀ line ∈ split endsLine f, line.length ≤ lineRoom ∧ ∃ p, ParsedAs line p

/-- Lines that each are a parameter, with their parameters. -/
theorem exists_forall₂_parsedAs (h : ∀ line ∈ lines, ∃ p, ParsedAs line p) :
    ∃ read, List.Forall₂ ParsedAs lines read := by
  induction lines with
  | nil => exact ⟨[], .nil⟩
  | cons line lines ih =>
    obtain ⟨⟨p, hp⟩, hlines⟩ := List.forall_mem_cons.1 h
    obtain ⟨read, hread⟩ := ih hlines
    exact ⟨p :: read, .cons hp hread⟩

theorem exists_parsedAs_of_forall₂ {read : List Param} (h : List.Forall₂ ParsedAs lines read) :
    ∀ line ∈ lines, ∃ p, ParsedAs line p := by
  induction h with
  | nil => exact fun _ hl ↦ absurd hl List.not_mem_nil
  | cons hline _ ih => exact List.forall_mem_cons.2 ⟨⟨_, hline⟩, ih⟩

/-- A well-formed file is parsed to the parameters of its lines. -/
theorem WellFormed.reportsFailure (h : WellFormed f calloc) : ReportsFailure (some f) calloc := by
  obtain ⟨read, hread⟩ := exists_forall₂_parsedAs fun line hl ↦ (h.lines line hl).2
  have hreads : fgetsAll f = split endsLine f := reads_eq_split fun line hl ↦ (h.lines line hl).1
  have hparse : parseLines calloc (fgetsAll f) [] = .ok (some (read.reverse ++ [])) := by
    rw [hreads]
    refine parseLines_of_written hread fun k hk ↦ ?_
    rw [List.length_nil, Nat.zero_add]
    exact h.memory k hk
  refine ⟨rcStatusOk, some (read.reverse ++ []), by rw [saiProfileParse, hparse], fun _ ↦
    ⟨f, _, rfl, rfl, by rwa [List.append_nil, List.reverse_reverse]⟩, ?_⟩
  rintro _ hf ⟨line, hline, hnot⟩
  cases hf
  obtain ⟨p, hp⟩ := (h.lines line hline).2
  exact absurd hp (hnot p)

/-- **A file whose status tells what became of it is well formed.** The call returns
`RC_STATUS_OK` whatever happens, so it must have read every line; and a line longer than the
buffer would have given more parameters than there are lines. -/
theorem wellFormed_of_reportsFailure (h : ReportsFailure (some f) calloc) :
    WellFormed f calloc := by
  obtain ⟨rc, stored, hresult, hok, -⟩ := h
  rw [saiProfileParse] at hresult
  rcases hparse : parseLines calloc (fgetsAll f) [] with e | _ | params
  · rw [hparse] at hresult
    cases hresult
  · rw [hparse] at hresult
    cases hresult
    obtain ⟨_, _, _, hstored, _⟩ := hok rfl
    cases hstored
  · rw [hparse] at hresult
    cases hresult
    obtain ⟨f', params', hf, hparams, hlines⟩ := hok rfl
    cases hf
    cases hparams
    obtain ⟨hmem, read, hread, hresult⟩ := written_of_parseLines hparse
    rw [List.append_nil] at hresult
    -- A line that was read in several pieces would have given more parameters than lines.
    have hlen : (fgetsAll f).length = (split endsLine f).length := by
      rw [hread.length_eq, hlines.length_eq, hresult, List.reverse_reverse]
    have hshort := (length_reads_eq_iff (by decide) f).1 hlen
    refine ⟨fun k hk ↦ ?_, fun line hl ↦ ⟨hshort line hl,
      exists_parsedAs_of_forall₂ hlines line hl⟩⟩
    rw [← hlen] at hk
    have := hmem k hk
    rwa [List.length_nil, Nat.zero_add] at this

/-- **When the status reports failure**: the file cannot be opened, or it is well formed. -/
theorem reportsFailure_iff (file : Option (List UInt8)) (calloc : ℕ → Bool) :
    ReportsFailure file calloc ↔ ∀ f, file = some f → WellFormed f calloc := by
  rcases file with _ | f
  · refine iff_of_true ⟨rcStatusErr, none, rfl, fun h ↦ absurd h (by decide), ?_⟩ ?_
    · intro f hf
      cases hf
    · intro f hf
      cases hf
  · constructor
    · intro h f' hf
      cases hf
      exact wellFormed_of_reportsFailure h
    · exact fun h ↦ (h f rfl).reportsFailure

/-- A profile of one comment line is accepted and stores nothing. -/
theorem comment_accepted : ¬∀ (file : Option (List UInt8)) (calloc : ℕ → Bool),
    ReportsFailure file calloc := by
  intro h
  obtain ⟨-, hlines⟩ := wellFormed_of_reportsFailure (h (some [35, newline]) fun _ ↦ true)
  obtain ⟨-, p, hp⟩ := hlines [35, newline] (by decide)
  have hstored : sscanfParam [35, newline] = [p.name, p.value] := sscanfParam_eq_pair_iff.2 hp
  have hnone : sscanfParam [35, newline] = [] := by decide
  cases hnone.symm.trans hstored

/-! ### The fields of a parameter -/

/-- The strings `sscanf` stores of the line are inside their fields, with their terminators. -/
def FieldsShort (line : List UInt8) : Prop :=
  (∀ name ∈ (sscanfParam line)[0]?, name.length ≤ paramNameLen - 1) ∧
    ∀ value ∈ (sscanfParam line)[1]?, value.length ≤ paramValueLen - 1

/-- `sscanf` returns 2: the line yields a parameter, unless a field overflows. -/
def YieldsParam (line : List UInt8) : Prop := (sscanfParam line).length = 2

/-- The lines the loop hands to `sscanf`, when so many parameters were read before: up to the first
one that stores no parameter. -/
def handedOver (calloc : ℕ → Bool) : ℕ → List (List UInt8) → List (List UInt8)
  | _, [] => []
  | count, line :: lines =>
    if !calloc count then
      []
    else
      match storeParam (sscanfParam line) with
      | .ok (some _) => line :: handedOver calloc (count + 1) lines
      | .ok none | .error _ => [line]

/-- **Fields never overflow**: the call returns; of every line handed to `sscanf` the name and the
value fit their fields; and of two successive parameters the first one is on a line that ended
before the second, so no line of the file yields two. -/
structure FieldsFit (f : List UInt8) (calloc : ℕ → Bool) : Prop where
  returns : ∃ result, saiProfileParse (some f) calloc = .ok result
  short : ∀ line ∈ handedOver calloc 0 (fgetsAll f), FieldsShort line
  oneParam : (handedOver calloc 0 (fgetsAll f)).IsChain fun line next ↦
    YieldsParam line → YieldsParam next → newline ∈ line

/-- The lines of a file, from the one before which so many parameters were read, up to the first
that is no parameter: the fields of each are short, and one that does not fit the buffer of
`fgets`, if it yields a parameter, goes on with bytes that yield none and have a short name. -/
def LinesFit (calloc : ℕ → Bool) : ℕ → List (List UInt8) → Prop
  | _, [] => True
  | count, line :: lines =>
    calloc count = true → FieldsShort (line.take lineRoom) ∧
      (YieldsParam (line.take lineRoom) →
        if line.length ≤ lineRoom then
          LinesFit calloc (count + 1) lines
        else
          calloc (count + 1) = true → FieldsShort ((line.drop lineRoom).take lineRoom) ∧
            ¬YieldsParam ((line.drop lineRoom).take lineRoom))

/-- What becomes of a line, by its fields. -/
theorem storeParam_cases (line : List UInt8) :
    (FieldsShort line ∧ ¬YieldsParam line ∧ storeParam (sscanfParam line) = .ok none) ∨
      (FieldsShort line ∧ YieldsParam line ∧ ∃ p, storeParam (sscanfParam line) = .ok (some p)) ∨
      ¬FieldsShort line ∧ ∃ e, storeParam (sscanfParam line) = .error e := by
  have hname : ∀ name : List UInt8, name.length ≤ paramNameLen - 1 ↔ name.length < paramNameLen :=
    fun name ↦ Nat.le_sub_one_iff_lt (by decide)
  have hvalue : ∀ value : List UInt8,
      value.length ≤ paramValueLen - 1 ↔ value.length < paramValueLen :=
    fun value ↦ Nat.le_sub_one_iff_lt (by decide)
  obtain hs | ⟨name, hs⟩ | ⟨name, value, hs⟩ := sscanfParam_cases line
  · simp [FieldsShort, YieldsParam, hs, storeParam]
  · by_cases hn : name.length < paramNameLen <;>
      simp [FieldsShort, YieldsParam, hs, storeParam, hname, hn]
  · by_cases hn : name.length < paramNameLen <;> by_cases hv : value.length < paramValueLen <;>
      simp [FieldsShort, YieldsParam, hs, storeParam, hname, hvalue, hn, hv]

variable {count : ℕ}

/-- The loop returns where every line handed over fits. -/
theorem parseLines_returns_iff {params : List Param} :
    (∃ result, parseLines calloc lines params = .ok result) ↔
      ∀ line ∈ handedOver calloc params.length lines, FieldsShort line := by
  induction lines generalizing params with
  | nil => simp [parseLines, handedOver]
  | cons line lines ih =>
    rcases hmem : calloc params.length with _ | _
    · simp [parseLines, handedOver, hmem]
    · obtain ⟨hshort, -, hstore⟩ | ⟨hshort, -, p, hstore⟩ | ⟨hlong, e, hstore⟩ :=
        storeParam_cases line
      · simp [parseLines, handedOver, hmem, hstore, hshort]
      · have hnext := @ih (p :: params)
        rw [List.length_cons] at hnext
        simp [parseLines, handedOver, hmem, hstore, hshort, hnext]
      · simp [parseLines, handedOver, hmem, hstore, hlong]

/-- The lines handed over fit, and no line of the file yields two parameters. -/
def HandedFit (calloc : ℕ → Bool) (count : ℕ) (lines : List (List UInt8)) : Prop :=
  (∀ line ∈ handedOver calloc count lines, FieldsShort line) ∧
    (handedOver calloc count lines).IsChain fun line next ↦
      YieldsParam line → YieldsParam next → newline ∈ line

theorem fieldsFit_iff_handedFit : FieldsFit f calloc ↔ HandedFit calloc 0 (fgetsAll f) := by
  refine ⟨fun h ↦ ⟨h.short, h.oneParam⟩, fun h ↦ ⟨?_, h.1, h.2⟩⟩
  obtain ⟨result, hresult⟩ := (@parseLines_returns_iff calloc (fgetsAll f) []).2 h.1
  rw [saiProfileParse]
  rcases result with _ | params
  · exact ⟨_, by rw [hresult]⟩
  · exact ⟨_, by rw [hresult]⟩

/-- The first line handed over is the first one there is. -/
theorem head?_handedOver (calloc : ℕ → Bool) (count : ℕ) (lines : List (List UInt8)) :
    (handedOver calloc count lines).head? = if calloc count then lines.head? else none := by
  rcases lines with _ | ⟨line, lines⟩
  · rw [handedOver]
    split <;> rfl
  · rcases hmem : calloc count with _ | _
    · simp [handedOver, hmem]
    · obtain ⟨-, -, hstore⟩ | ⟨-, -, p, hstore⟩ | ⟨-, e, hstore⟩ := storeParam_cases line <;>
        simp [handedOver, hmem, hstore]

/-- **One line of the loop.** -/
theorem handedFit_cons :
    HandedFit calloc count (line :: lines) ↔
      (calloc count = true → FieldsShort line ∧
        (YieldsParam line →
          (calloc (count + 1) = true → ∀ next ∈ lines.head?, YieldsParam next → newline ∈ line) ∧
            HandedFit calloc (count + 1) lines)) := by
  rcases hmem : calloc count with _ | _
  · simp [HandedFit, handedOver, hmem]
  · obtain ⟨hshort, hnot, hstore⟩ | ⟨hshort, hyields, p, hstore⟩ | ⟨hlong, e, hstore⟩ :=
      storeParam_cases line
    · simp [HandedFit, handedOver, hmem, hstore, hshort, hnot]
    · have hhead := head?_handedOver calloc (count + 1) lines
      simp only [HandedFit, handedOver, hmem, hstore, hshort, hyields, List.forall_mem_cons,
        List.isChain_cons, hhead, Bool.not_true, Bool.false_eq_true, if_false, true_implies,
        true_and]
      rw [and_left_comm]
      refine and_congr_left fun _ ↦ ?_
      rcases hnext : calloc (count + 1) with _ | _ <;> simp
    · simp [HandedFit, handedOver, hmem, hstore, hlong]

/-- **The induction over the lines of the file.** A line that fits the buffer is one read; of a
longer one the first two reads decide. -/
theorem handedFit_reads_iff (f : List UInt8) :
    ∀ count, HandedFit calloc count (reads endsLine lineRoom f) ↔
      LinesFit calloc count (split endsLine f) := by
  induction f using line_induction endsLine with
  | nil =>
    intro count
    rw [reads_nil, split]
    exact iff_of_true ⟨fun _ hl ↦ absurd hl List.not_mem_nil, List.IsChain.nil⟩ trivial
  | line l rest hl ih =>
    intro count
    rw [split_append hl, LinesFit]
    rcases Nat.lt_or_ge lineRoom l.length with hlong | hshort
    · obtain ⟨tail, hreads⟩ := exists_reads_append (hl.drop hlong) (show 0 < lineRoom by decide)
      have hnot : newline ∉ l.take lineRoom := fun hmem ↦
        absurd (hl.not_stop_take hlong newline hmem) (by decide)
      rw [reads_append_of_lt hl (by decide) hlong, hreads, handedFit_cons,
        if_neg (Nat.not_le.2 hlong), handedFit_cons]
      simp only [List.head?_cons, Option.mem_def, Option.some.injEq, forall_eq', hnot, imp_false]
      -- the second read is handed over where there is memory, and must yield nothing
      refine imp_congr_right fun _ ↦ and_congr_right fun _ ↦ imp_congr_right fun _ ↦ ?_
      constructor
      · rintro ⟨hnone, hfit⟩ hmem
        exact ⟨(hfit hmem).1, hnone hmem⟩
      · intro h
        exact ⟨fun hmem ↦ (h hmem).2, fun hmem ↦ ⟨(h hmem).1, fun hyields ↦
          absurd hyields (h hmem).2⟩⟩
    · -- A short line is one read, and what follows it is the next line.
      have hend : ∀ next ∈ (reads endsLine lineRoom rest).head?, YieldsParam next →
          newline ∈ l := by
        intro next hnext _
        have hrest : rest ≠ [] := by
          rintro rfl
          rw [reads_nil] at hnext
          cases hnext
        obtain ⟨b, hb, hstop⟩ := hl.exists_stop hrest
        obtain rfl : b = newline := of_decide_eq_true hstop
        exact hb
      rw [reads_append_of_le hl hshort, handedFit_cons, List.take_of_length_le hshort,
        if_pos hshort, ih]
      refine imp_congr_right fun _ ↦ and_congr_right fun _ ↦ imp_congr_right fun _ ↦ ?_
      exact and_iff_right fun _ ↦ hend

/-- **When the fields fit.** Up to the first line that is no parameter, every name and value
is short enough, and a line longer than the buffer of `fgets` does not go on with another
parameter. -/
theorem fieldsFit_iff (f : List UInt8) (calloc : ℕ → Bool) :
    FieldsFit f calloc ↔ LinesFit calloc 0 (split endsLine f) := by
  rw [fieldsFit_iff_handedFit, fgetsAll, handedFit_reads_iff]

/-- A line whose name fills its field, so that the terminator is stored behind it. -/
def longNameLine : List UInt8 := List.replicate paramNameLen 97 ++ [equalsSign, 49, newline]

/-- The name of a line is stored whatever its length. -/
theorem name_overflows : ¬∀ (f : List UInt8) (calloc : ℕ → Bool), FieldsFit f calloc := by
  intro h
  have hfit := fieldsFit_iff_handedFit.1 (h longNameLine fun _ ↦ true)
  have hsplit : split endsLine longNameLine = [longNameLine] := by decide +kernel
  rw [fgetsAll, handedFit_reads_iff, hsplit] at hfit
  have hname : (sscanfParam (longNameLine.take lineRoom))[0]? =
      some (List.replicate paramNameLen 97) := by
    decide +kernel
  have hshort := (hfit rfl).1.1 _ hname
  rw [List.length_replicate] at hshort
  exact absurd hshort (by decide)

end SaiAgent
