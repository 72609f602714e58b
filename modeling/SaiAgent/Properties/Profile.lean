import SaiAgent.Model.Profile
import Mathlib.Data.List.Forall2
import Mathlib.Data.List.TakeWhile

/-!
# Writing, parsing and reading a profile

* `sscanfParam_eq_pair_iff`: what `sscanf` makes of a line, as a statement about its text;
* `profile_roundTrip`: a profile written line by line parses to its parameters, last line first, and
  lookup and enumeration agree about them;
* `enumeration_complete`: over every history of calls, each enumeration delivers the parameters in
  list order, all of them if it came to its end.
-/

namespace SaiAgent

open Effects Effects.Lines

variable {name value line : List UInt8} {p : Param}

/-! ### The text of a line -/

/-- The line reads `name=value`, and what stands behind the value, if anything, ends it. -/
structure Written (name value line : List UInt8) : Prop where
  name_ne : name ≠ []
  name_bytes : ∀ b ∈ name, nameByte b = true
  value_ne : value ≠ []
  value_bytes : ∀ b ∈ value, valueByte b = true ∧ b ≠ 0
  text : ∃ rest, line = name ++ equalsSign :: (value ++ rest) ∧
    ∀ b ∈ rest.head?, b ≠ 0 → valueByte b = false

/-- A run of bytes ends where the next byte is none of them. -/
theorem takeWhile_run {q : UInt8 → Bool} {run rest : List UInt8} (hrun : ∀ b ∈ run, q b = true)
    (hrest : ∀ b ∈ rest.head?, q b = false) :
    (run ++ rest).takeWhile q = run ∧ (run ++ rest).dropWhile q = rest := by
  rw [List.takeWhile_append_of_pos hrun, List.dropWhile_append_of_pos hrun]
  rcases rest with _ | ⟨b, rest⟩
  · exact ⟨List.append_nil run, rfl⟩
  · have hb : q b = false := hrest b rfl
    rw [List.takeWhile_cons_of_neg (by rw [hb]; decide), List.dropWhile_cons_of_neg
      (by rw [hb]; decide), List.append_nil]
    exact ⟨rfl, rfl⟩

/-- A byte that ends a run, or that nothing follows. -/
theorem head?_dropWhile_eq_false (q : UInt8 → Bool) (s : List UInt8) :
    ∀ b ∈ (s.dropWhile q).head?, q b = false := by
  intro b hb
  have := List.head?_dropWhile_not q s
  rw [Option.mem_def.1 hb] at this
  simpa using this

theorem nameByte_ne_zero {b : UInt8} (h : nameByte b = true) : b ≠ 0 := by
  rintro rfl
  exact absurd h (by decide)

/-- The C string in a line, up to the first zero byte behind the value. -/
theorem Written.cString_eq (h : Written name value line) :
    ∃ rest, cString line = name ++ equalsSign :: (value ++ rest) ∧
      ∀ b ∈ rest.head?, valueByte b = false := by
  obtain ⟨rest, hline, hrest⟩ := h.text
  have hrun : ∀ b ∈ name ++ equalsSign :: value, decide (b ≠ 0) = true := by
    intro b hb
    rw [decide_eq_true_eq]
    rcases List.mem_append.1 hb with hb | hb
    · exact nameByte_ne_zero (h.name_bytes b hb)
    · rcases List.mem_cons.1 hb with rfl | hb
      · decide
      · exact (h.value_bytes b hb).2
  refine ⟨rest.takeWhile (· ≠ 0), ?_, fun b hb ↦ ?_⟩
  · rw [hline, cString, ← List.cons_append, ← List.append_assoc,
      List.takeWhile_append_of_pos hrun, List.append_assoc, List.cons_append]
  · rcases rest with _ | ⟨c, rest⟩
    · cases hb
    · by_cases hc : c = 0
      · rw [List.takeWhile_cons_of_neg (by simp [hc])] at hb
        cases hb
      · rw [List.takeWhile_cons_of_pos (by simp [hc])] at hb
        obtain rfl : c = b := Option.some.inj hb
        exact hrest c rfl hc

/-- A line that reads `name=value` gives `sscanf` both strings. -/
theorem Written.sscanfParam_eq (h : Written name value line) :
    sscanfParam line = [name, value] := by
  obtain ⟨rest, hstring, hrest⟩ := h.cString_eq
  have hequals : ∀ b ∈ (equalsSign :: (value ++ rest)).head?, nameByte b = false := by
    intro b hb
    obtain rfl : equalsSign = b := Option.some.inj hb
    decide
  obtain ⟨hname, htail⟩ := takeWhile_run h.name_bytes hequals
  obtain ⟨hvalue, -⟩ := takeWhile_run (fun b hb ↦ (h.value_bytes b hb).1) hrest
  simp only [sscanfParam, hstring, hname, htail, hvalue, if_neg h.name_ne, if_neg h.value_ne,
    ne_eq, not_true_eq_false, if_false]

/-- What `sscanf` finds in a line of which it stores two strings. -/
theorem written_of_sscanfParam (h : sscanfParam line = [name, value]) :
    Written name value line := by
  have hzero : ∀ b ∈ cString line, b ≠ 0 := fun b hb ↦ by simpa using List.mem_takeWhile_imp hb
  have hend : ∀ b ∈ (line.dropWhile (· ≠ 0)).head?, b = 0 := fun b hb ↦ by
    simpa using head?_dropWhile_eq_false _ line b hb
  have hline : cString line ++ line.dropWhile (· ≠ 0) = line := List.takeWhile_append_dropWhile
  have hname : (cString line).takeWhile nameByte ++ (cString line).dropWhile nameByte =
    cString line := List.takeWhile_append_dropWhile
  -- Two stored fields: each of the four ways to stop early stored fewer.
  unfold sscanfParam at h
  dsimp only at h
  split at h
  · cases h
  · rename_i hne
    split at h
    · cases h
    · rename_i b tail htail
      split at h
      · cases h
      · rename_i hb
        obtain rfl := not_not.1 hb
        split at h
        · cases h
        · rename_i hvalue
          cases h
          have hsplit : tail.takeWhile valueByte ++ tail.dropWhile valueByte = tail :=
            List.takeWhile_append_dropWhile
          have htail_zero : ∀ b ∈ tail, b ≠ 0 := fun b hb ↦ hzero b (by
            rw [← hname, htail]
            exact List.mem_append_right _ (List.mem_cons_of_mem _ hb))
          refine ⟨hne, fun b hb ↦ List.mem_takeWhile_imp hb, hvalue, fun b hb ↦
            ⟨List.mem_takeWhile_imp hb, htail_zero b (List.takeWhile_subset valueByte hb)⟩,
            tail.dropWhile valueByte ++ line.dropWhile (· ≠ 0), ?_, fun b hb hb0 ↦ ?_⟩
          · rw [← List.append_assoc (tail.takeWhile valueByte), hsplit, ← List.cons_append,
              ← htail, ← List.append_assoc, hname, hline]
          · -- the value ends before its next byte, or with the string
            rcases hrest : tail.dropWhile valueByte with _ | ⟨c, rest⟩
            · rw [hrest] at hb
              exact absurd (hend b hb) hb0
            · rw [hrest] at hb
              exact head?_dropWhile_eq_false valueByte tail b (by rwa [hrest])

/-- **What `sscanf` stores of a line**: both strings exactly where the line reads so. -/
theorem sscanfParam_eq_pair_iff : sscanfParam line = [name, value] ↔ Written name value line :=
  ⟨written_of_sscanfParam, Written.sscanfParam_eq⟩

/-- `sscanf` stores at most two strings. -/
theorem sscanfParam_cases (line : List UInt8) :
    sscanfParam line = [] ∨ (∃ name, sscanfParam line = [name]) ∨
      ∃ name value, sscanfParam line = [name, value] := by
  unfold sscanfParam
  dsimp only
  split
  · exact Or.inl rfl
  · split
    · exact Or.inr (Or.inl ⟨_, rfl⟩)
    · split
      · exact Or.inr (Or.inl ⟨_, rfl⟩)
      · split
        · exact Or.inr (Or.inl ⟨_, rfl⟩)
        · exact Or.inr (Or.inr ⟨_, _, rfl⟩)

/-- **The parameter of a line** is the one the line reads. -/
theorem storeParam_eq_some_iff :
    storeParam (sscanfParam line) = .ok (some p) ↔ Written p.name p.value line := by
  constructor
  · intro h
    obtain hs | ⟨name, hs⟩ | ⟨name, value, hs⟩ := sscanfParam_cases line
    · rw [hs] at h
      cases h
    · rw [hs, storeParam] at h
      split at h <;> cases h
    · rw [hs, storeParam] at h
      split at h
      · split at h
        · cases h
          exact sscanfParam_eq_pair_iff.1 hs
        · cases h
      · cases h
  · intro h
    rw [h.sscanfParam_eq, storeParam, dif_pos p.name_lt, dif_pos p.value_lt]

variable {calloc : ℕ → Bool} {lines : List (List UInt8)} {params result read : List Param}

/-- Where there is memory for a line that is a parameter, the loop goes on with it. -/
theorem parseLines_cons (hmem : calloc params.length = true) (h : Written p.name p.value line) :
    parseLines calloc (line :: lines) params = parseLines calloc lines (p :: params) := by
  rw [parseLines, hmem, storeParam_eq_some_iff.2 h]
  rfl

/-- The loop over lines that are parameters, with memory for each. -/
theorem parseLines_of_written
    (h : List.Forall₂ (fun line p ↦ Written p.name p.value line) lines read)
    (hmem : ∀ k < lines.length, calloc (params.length + k) = true) :
    parseLines calloc lines params = .ok (some (read.reverse ++ params)) := by
  induction h generalizing params with
  | nil => rfl
  | @cons line p lines read hline _ ih =>
    have hfirst : calloc params.length = true := hmem 0 (Nat.succ_pos _)
    have hrest : ∀ k < lines.length, calloc ((p :: params).length + k) = true := by
      intro k hk
      have := hmem (k + 1) (Nat.succ_lt_succ hk)
      rwa [← Nat.add_assoc, Nat.add_right_comm] at this
    rw [parseLines_cons hfirst hline, ih hrest, List.reverse_cons, List.append_assoc]
    rfl

/-- What the loop found when it came to its end. -/
theorem written_of_parseLines (h : parseLines calloc lines params = .ok (some result)) :
    (∀ k < lines.length, calloc (params.length + k) = true) ∧
      ∃ read, List.Forall₂ (fun line p ↦ Written p.name p.value line) lines read ∧
        result = read.reverse ++ params := by
  induction lines generalizing params with
  | nil =>
    cases h
    exact ⟨fun k hk ↦ absurd hk (Nat.not_lt_zero k), [], .nil, rfl⟩
  | cons line lines ih =>
    rw [parseLines] at h
    split at h
    · cases h
    · rename_i hmem
      split at h
      · cases h
      · cases h
      · rename_i p hstore
        obtain ⟨hrest, read, hread, hresult⟩ := ih h
        refine ⟨?_, p :: read, .cons (storeParam_eq_some_iff.1 hstore) hread, ?_⟩
        · rintro (_ | k) hk
          · simpa using hmem
          · have := hrest k (Nat.lt_of_succ_lt_succ hk)
            rwa [List.length_cons, Nat.add_assoc, Nat.add_comm 1] at this
        · rw [hresult, List.reverse_cons, List.append_assoc]
          rfl

/-! ### Writing a profile -/

/-- A line of a profile: a parameter, and the text of a comment behind it. -/
structure ProfileText where
  param : Param
  comment : Option (List UInt8)

/-- The bytes of the line. -/
def ProfileText.bytes (t : ProfileText) : List UInt8 :=
  t.param.name ++ equalsSign :: (t.param.value ++ t.comment.elim [] (35 :: ·)) ++ [newline]

/-- A line that can be written: its name and its value are neither empty nor hold bytes that end
them, the comment is on the line, and the line fits the buffer of `fgets`. -/
structure ProfileLine extends ProfileText where
  name_ne : param.name ≠ []
  name_bytes : ∀ b ∈ param.name, nameByte b = true
  value_ne : param.value ≠ []
  value_bytes : ∀ b ∈ param.value, valueByte b = true ∧ b ≠ 0
  comment_bytes : ∀ text ∈ comment, newline ∉ text
  length_le : toProfileText.bytes.length ≤ lineRoom

/-- A profile, written line by line. -/
def writeProfile (ls : List ProfileLine) : List UInt8 := (ls.map (·.bytes)).flatten

namespace ProfileLine

variable (l : ProfileLine)

theorem written : Written l.param.name l.param.value l.bytes := by
  refine ⟨l.name_ne, l.name_bytes, l.value_ne, l.value_bytes,
    l.comment.elim [] (35 :: ·) ++ [newline], ?_, fun b hb _ ↦ ?_⟩
  · rw [ProfileText.bytes, List.append_assoc, List.cons_append, List.append_assoc]
  · rcases hc : l.comment with _ | text
    · rw [hc] at hb
      obtain rfl : newline = b := Option.some.inj hb
      decide
    · rw [hc] at hb
      obtain rfl : 35 = b := Option.some.inj hb
      decide

/-- Before its end there is no end of line. -/
theorem not_endsLine : ∀ b ∈ l.param.name ++ equalsSign :: (l.param.value ++
    l.comment.elim [] (35 :: ·)), endsLine b = false := by
  intro b hb
  rw [endsLine, decide_eq_false_iff_not]
  rintro rfl
  rcases List.mem_append.1 hb with hname | hb
  · exact absurd (l.name_bytes _ hname) (by decide)
  · rcases List.mem_cons.1 hb with hequals | hb
    · exact absurd hequals (by decide)
    · rcases List.mem_append.1 hb with hvalue | hcomment
      · exact absurd (l.value_bytes _ hvalue).1 (by decide)
      · rcases hc : l.comment with _ | text
        · rw [hc] at hcomment
          cases hcomment
        · rw [hc] at hcomment
          rcases List.mem_cons.1 hcomment with hhash | htext
          · exact absurd hhash (by decide)
          · exact l.comment_bytes text hc htext

end ProfileLine

/-- `fgets` reads a profile line by line. -/
theorem fgetsAll_writeProfile (ls : List ProfileLine) :
    fgetsAll (writeProfile ls) = ls.map (·.bytes) := by
  have hsplit : split endsLine (writeProfile ls) = ls.map (·.bytes) := by
    refine split_flatten fun bytes hbytes ↦ ?_
    obtain ⟨l, -, rfl⟩ := List.mem_map.1 hbytes
    exact ⟨_, newline, rfl, l.not_endsLine, rfl⟩
  rw [fgetsAll, reads_eq_split, hsplit]
  rw [hsplit]
  intro bytes hbytes
  obtain ⟨l, -, rfl⟩ := List.mem_map.1 hbytes
  exact l.length_le

/-- The parameters a profile is parsed to. -/
def profileParams (ls : List ProfileLine) : List Param := (ls.map (·.param)).reverse

theorem saiProfileParse_writeProfile (ls : List ProfileLine) :
    saiProfileParse (some (writeProfile ls)) (fun _ ↦ true) =
      .ok (rcStatusOk, some (profileParams ls)) := by
  have hwritten : List.Forall₂ (fun line p ↦ Written p.name p.value line) (ls.map (·.bytes))
      (ls.map (·.param)) := by
    rw [List.forall₂_map_left_iff, List.forall₂_map_right_iff]
    exact List.forall₂_same.2 fun l _ ↦ l.written
  rw [saiProfileParse, fgetsAll_writeProfile, parseLines_of_written hwritten fun _ _ ↦ rfl,
    List.append_nil]
  rfl

/-! ### Looking up -/

/-- Lookup finds the first parameter of the list, the last line of the file. -/
theorem saiProfileGetValue_eq (ls : List ProfileLine) (name : List UInt8) :
    saiProfileGetValue (profileParams ls) (some name) =
      (ls.filter fun l ↦ l.param.name = name).getLast?.map (·.param.value) := by
  rw [saiProfileGetValue, profileParams, ← List.head?_filter, List.filter_reverse,
    List.head?_reverse, List.filter_map, List.getLast?_map, Option.map_map]
  rfl

theorem saiProfileGetValue_eq_none_iff (ls : List ProfileLine) (name : List UInt8) :
    saiProfileGetValue (profileParams ls) (some name) = none ↔ ∀ l ∈ ls, l.param.name ≠ name := by
  rw [saiProfileGetValue_eq, Option.map_eq_none_iff, List.getLast?_eq_none_iff,
    List.filter_eq_nil_iff]
  simp only [decide_eq_true_eq, ne_eq]

/-! ### Enumerating -/

/-- A call that returned -1: it ends a segment of the history. -/
def ProfileEvent.endsSegment : ProfileEvent → Bool
  | .value _ _ => false
  | .next _ status _ => status = -1

/-- The parameters the calls returning 0 delivered. -/
def delivered (events : List ProfileEvent) : List Param :=
  events.filterMap fun
    | .value _ _ => none
    | .next _ status param => if status = 0 then param else none

/-- The event is one of the enumeration. -/
def ProfileEvent.isNext : ProfileEvent → Bool
  | .value _ _ => false
  | .next _ _ _ => true

/-- The call is one of the enumeration. -/
def ProfileCall.isNext : ProfileCall → Bool
  | .getValue _ => false
  | .getNextValue _ => true

variable {iter : List Param} {calls : List ProfileCall}

@[simp] theorem saiProfileGetNextValue_reset (params iter : List Param) :
    saiProfileGetNextValue params iter false = (-1, none, params) := rfl

@[simp] theorem saiProfileGetNextValue_nil (params : List Param) :
    saiProfileGetNextValue params [] true = (-1, none, params) := rfl

@[simp] theorem saiProfileGetNextValue_cons (params iter : List Param) (p : Param) :
    saiProfileGetNextValue params (p :: iter) true = (0, some p, iter) := rfl

/-- **Enumerating to the end**: the parameters from the cursor on, and then -1. -/
theorem profileHistory_replicate (params iter : List Param) :
    profileHistory params iter (List.replicate (iter.length + 1) (.getNextValue true)) =
      iter.map (fun p ↦ .next true 0 (some p)) ++ [.next true (-1) none] := by
  induction iter with
  | nil => rfl
  | cons p iter ih =>
    rw [List.length_cons, List.replicate_succ, profileHistory, saiProfileGetNextValue_cons]
    dsimp only
    rw [ih]
    rfl

theorem delivered_map (params : List Param) :
    delivered (params.map fun p ↦ .next true 0 (some p)) = params := by
  rw [delivered, List.filterMap_map]
  exact List.filterMap_some

/-- **The round trip of a profile.** Any lines that can be written parse to their parameters, last
line first; a lookup returns the value of the last line with the name, and nothing exactly where
no line has it; after a reset the enumeration delivers every parameter once and then ends, the
first one delivered of a name being the one the lookup returns. -/
theorem profile_roundTrip (ls : List ProfileLine) :
    saiProfileParse (some (writeProfile ls)) (fun _ ↦ true) =
        .ok (rcStatusOk, some (profileParams ls)) ∧
      (∀ name, saiProfileGetValue (profileParams ls) (some name) =
        (ls.filter fun l ↦ l.param.name = name).getLast?.map (·.param.value)) ∧
      (∀ name, saiProfileGetValue (profileParams ls) (some name) = none ↔
        ∀ l ∈ ls, l.param.name ≠ name) ∧
      ∀ iter, ∃ events,
        profileHistory (profileParams ls) iter
            (.getNextValue false :: List.replicate (ls.length + 1) (.getNextValue true)) =
          .next false (-1) none :: (events ++ [.next true (-1) none]) ∧
        (∀ e ∈ events, ∃ p, e = .next true 0 (some p)) ∧
        delivered events = (ls.map (·.param)).reverse ∧
        ∀ name, ((delivered events).find? fun p ↦ p.name = name).map Param.value =
          saiProfileGetValue (profileParams ls) (some name) := by
  refine ⟨saiProfileParse_writeProfile ls, saiProfileGetValue_eq ls,
    saiProfileGetValue_eq_none_iff ls, fun iter ↦
    ⟨(profileParams ls).map fun p ↦ .next true 0 (some p), ?_, ?_, delivered_map _, fun name ↦ ?_⟩⟩
  · have hlen : ls.length = (profileParams ls).length := by
      rw [profileParams, List.length_reverse, List.length_map]
    rw [profileHistory, saiProfileGetNextValue_reset]
    dsimp only
    rw [hlen, profileHistory_replicate]
  · intro e he
    obtain ⟨p, -, rfl⟩ := List.mem_map.1 he
    exact ⟨p, rfl⟩
  · rw [delivered_map]
    rfl

/-! ### Every history of calls -/

/-- **What a segment of a history delivers**, behind what was delivered before it: all parameters in
list order where it is ended by the end of the list, the first ones of them where it is ended by a
reset or not yet. -/
def SegmentDelivers (params before : List Param) (segment : List ProfileEvent) : Prop :=
  if segment.getLast? = some (.next true (-1) none) then
    before ++ delivered segment = params
  else
    before ++ delivered segment <+: params

/-- The first segment goes on where the cursor is, the others start at the head of the list. -/
def SegmentsDeliver (params before : List Param) : List (List ProfileEvent) → Prop
  | [] => True
  | segment :: segments => SegmentDelivers params before segment ∧
      ∀ segment ∈ segments, SegmentDelivers params [] segment

variable {before : List Param} {e : ProfileEvent} {events : List ProfileEvent}

/-- Either way, the first parameters are delivered in list order. -/
theorem SegmentDelivers.isPrefix {segment : List ProfileEvent}
    (h : SegmentDelivers params before segment) : before ++ delivered segment <+: params := by
  rw [SegmentDelivers] at h
  split at h
  · exact ⟨[], by rw [List.append_nil, h]⟩
  · exact h

/-- Segments from the head of the list. -/
theorem SegmentsDeliver.forall {segments : List (List ProfileEvent)}
    (h : SegmentsDeliver params [] segments) :
    ∀ segment ∈ segments, SegmentDelivers params [] segment := by
  rcases segments with _ | ⟨segment, segments⟩
  · exact fun _ hs ↦ absurd hs List.not_mem_nil
  · exact List.forall_mem_cons.2 h

/-- An event that ends a segment, in front of segments that start at the head. -/
theorem segmentsDeliver_of_endsSegment (he : e.endsSegment = true)
    (hfirst : SegmentDelivers params before [e])
    (h : SegmentsDeliver params [] (split ProfileEvent.endsSegment events)) :
    SegmentsDeliver params before (split ProfileEvent.endsSegment (e :: events)) := by
  rw [split, if_pos he]
  exact ⟨hfirst, h.forall⟩

theorem delivered_append (events events' : List ProfileEvent) :
    delivered (events ++ events') = delivered events ++ delivered events' :=
  List.filterMap_append

theorem delivered_cons (e : ProfileEvent) (events : List ProfileEvent) :
    delivered (e :: events) = delivered [e] ++ delivered events :=
  delivered_append [e] events

/-- Behind an event that does not end its segment, the segment goes on. -/
theorem segmentsDeliver_of_not_endsSegment (he : e.endsSegment = false)
    (hsofar : before ++ delivered [e] <+: params)
    (h : SegmentsDeliver params (before ++ delivered [e])
      (split ProfileEvent.endsSegment events)) :
    SegmentsDeliver params before (split ProfileEvent.endsSegment (e :: events)) := by
  rw [split, if_neg (by rw [he]; decide)]
  rcases hsplit : split ProfileEvent.endsSegment events with _ | ⟨segment, segments⟩
  · have hlast : [e].getLast? ≠ some (.next true (-1) none) := by
      intro hl
      obtain rfl := Option.some.inj hl
      exact absurd he (by decide)
    refine ⟨?_, fun _ hs ↦ absurd hs List.not_mem_nil⟩
    rw [SegmentDelivers, if_neg hlast]
    exact hsofar
  · rw [hsplit] at h
    obtain ⟨hfirst, hrest⟩ := h
    have hne : segment ≠ [] := ne_nil_of_mem_split (by rw [hsplit]; exact List.mem_cons_self)
    refine ⟨?_, hrest⟩
    obtain ⟨e', tail, rfl⟩ := List.exists_cons_of_ne_nil hne
    rw [SegmentDelivers, List.getLast?_cons_cons, delivered_cons, ← List.append_assoc]
    exact hfirst

/-- **Every position of the cursor.** What was delivered since the last -1 and what the cursor
still points at are the parameters; the induction is over the calls. -/
theorem segmentsDeliver_profileHistory (calls : List ProfileCall) :
    ∀ {before iter : List Param}, before ++ iter = params →
      SegmentsDeliver params before
        (split ProfileEvent.endsSegment (profileHistory params iter calls)) := by
  induction calls with
  | nil => exact fun _ ↦ trivial
  | cons call calls ih =>
    intro before iter hiter
    rcases call with varName | varPtr
    · have hnone : before ++ delivered [.value varName (saiProfileGetValue params varName)] =
        before := List.append_nil before
      refine segmentsDeliver_of_not_endsSegment rfl ?_ (ih ?_)
      · rw [hnone, ← hiter]
        exact List.prefix_append before iter
      · rwa [hnone]
    · rcases varPtr with _ | _
      · -- a reset delivers nothing
        refine segmentsDeliver_of_endsSegment rfl ?_ (ih (List.nil_append params))
        rw [SegmentDelivers, if_neg (by decide), ← hiter]
        exact (List.prefix_append_right_inj before).2 List.nil_prefix
      · rcases iter with _ | ⟨p, iter⟩
        · -- the end of the list: everything was delivered
          refine segmentsDeliver_of_endsSegment rfl ?_ (ih (List.nil_append params))
          rw [SegmentDelivers, if_pos (by decide)]
          exact hiter
        · refine segmentsDeliver_of_not_endsSegment rfl ?_ (ih ?_)
          · exact ⟨iter, by rw [← hiter, List.append_assoc]; rfl⟩
          · rw [← hiter, List.append_assoc]
            rfl

/-- Lookups leave the cursor alone. -/
theorem filter_profileHistory (params : List Param) (calls : List ProfileCall) :
    ∀ iter, (profileHistory params iter calls).filter ProfileEvent.isNext =
      profileHistory params iter (calls.filter ProfileCall.isNext) := by
  induction calls with
  | nil => exact fun _ ↦ rfl
  | cons call calls ih =>
    intro iter
    rcases call with varName | varPtr
    · exact ih iter
    · rw [List.filter_cons_of_pos rfl, profileHistory, profileHistory]
      dsimp only
      rw [List.filter_cons_of_pos rfl, ih]

/-- What a call of the enumeration returns: 0 with a parameter, which a null pointer does not get,
or -1 without one. -/
def ProfileEvent.Returns : ProfileEvent → Prop
  | .value _ _ => True
  | .next varPtr status param =>
    (status = 0 ∧ varPtr = true ∧ ∃ p, param = some p) ∨ (status = -1 ∧ param = none)

theorem returns_saiProfileGetNextValue (params iter : List Param) (varPtr : Bool) :
    ProfileEvent.Returns (.next varPtr (saiProfileGetNextValue params iter varPtr).1
      (saiProfileGetNextValue params iter varPtr).2.1) := by
  rcases varPtr with _ | _
  · exact Or.inr ⟨rfl, rfl⟩
  · rcases iter with _ | ⟨p, iter⟩
    · exact Or.inr ⟨rfl, rfl⟩
    · exact Or.inl ⟨rfl, rfl, p, rfl⟩

/-- Every call of a history returns what such a call may. -/
theorem returns_profileHistory (params : List Param) (calls : List ProfileCall) :
    ∀ iter, ∀ e ∈ profileHistory params iter calls, e.Returns := by
  induction calls with
  | nil => exact fun _ _ he ↦ absurd he List.not_mem_nil
  | cons call calls ih =>
    intro iter
    rcases call with varName | varPtr
    · exact List.forall_mem_cons.2 ⟨trivial, ih iter⟩
    · exact List.forall_mem_cons.2 ⟨returns_saiProfileGetNextValue params iter varPtr, ih _⟩

/-- Where everything was delivered, the next call returns -1. -/
theorem status_of_delivered {sofar rest segment : List ProfileEvent} {varPtr : Bool}
    {status : Int32} {param : Option Param} (hseg : segment = sofar ++ .next varPtr status param ::
      rest) (hpre : delivered segment <+: params) (hall : delivered sofar = params)
    (hreturns : ProfileEvent.Returns (.next varPtr status param)) : status = -1 := by
  obtain ⟨rfl, -, p, rfl⟩ | ⟨rfl, -⟩ := hreturns
  · have hlen := hpre.length_le
    have hone : delivered [.next varPtr 0 (some p)] = [p] := rfl
    rw [hseg, delivered_append, hall, delivered_cons, hone, List.length_append, List.length_append,
      List.length_singleton] at hlen
    omega
  · rfl

/-- The parts of a split list are parts of the list. -/
theorem mem_of_mem_split {segment : List ProfileEvent}
    (h : segment ∈ split ProfileEvent.endsSegment events) (he : e ∈ segment) : e ∈ events := by
  rw [← @flatten_split _ ProfileEvent.endsSegment events]
  exact List.mem_flatten_of_mem h he

/-- **Enumeration is complete in every history of calls.** Every call returns 0 with a parameter or
-1 without one, and -1 to a null pointer. From the head of the list on, every segment between two
calls that returned -1 delivers all parameters in list order where it is ended by the end of the
list, and the first ones of them where it is ended by a reset or not yet; the call behind the last
parameter returns -1; and what the enumeration returns is what it returns without the lookups. -/
theorem enumeration_complete (params : List Param) (calls : List ProfileCall) :
    (∀ e ∈ profileHistory params params calls, e.Returns) ∧
      (∀ segment ∈ split ProfileEvent.endsSegment (profileHistory params params calls),
        if segment.getLast? = some (.next true (-1) none) then
          delivered segment = params
        else
          delivered segment <+: params) ∧
      (∀ segment ∈ split ProfileEvent.endsSegment (profileHistory params params calls),
        ∀ sofar varPtr status param rest, segment = sofar ++ .next varPtr status param :: rest →
          delivered sofar = params → status = -1) ∧
      (profileHistory params params calls).filter ProfileEvent.isNext =
        profileHistory params params (calls.filter ProfileCall.isNext) := by
  have hdelivers := (segmentsDeliver_profileHistory calls (List.nil_append params)).forall
  have hreturns := returns_profileHistory params calls params
  refine ⟨hreturns, hdelivers, fun segment hs sofar varPtr status param rest hseg hall ↦ ?_,
    filter_profileHistory params calls params⟩
  refine status_of_delivered hseg (SegmentDelivers.isPrefix (hdelivers segment hs)) hall
    (hreturns _ (mem_of_mem_split hs ?_))
  rw [hseg]
  exact List.mem_append_right _ List.mem_cons_self

end SaiAgent
