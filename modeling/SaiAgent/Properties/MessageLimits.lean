import SaiAgent.Properties.ByteQueue
import Mathlib.Order.Bounds.Basic

/-!
# Refusals and sizes of the message transfers

* `failedCallsAtomic_iff`: a refused put or get leaves the message as it was, whatever its
  arguments. The compound `saiagent_msg_put_event` does too, unless the message has room for the
  first of its two words and not for the second;
* `sizesExact_iff`: the sizes the transfers compute are exact as long as rounding up stays below
  2³². From there on the alignment mask drops the high bits, and the transfer is exact only where
  what is left of the size is refused.
-/

namespace SaiAgent

open Effects.Bytes

variable {msg msg' : SaiagentMsg} {data object : List UInt8} {size : UInt64} {rc : Rc}

/-! ### Refused calls -/

/-- A put that returns an error changed nothing. -/
theorem eq_of_saiagentMsgPutData (h : saiagentMsgPutData msg data size = .ok (rc, msg'))
    (hrc : rc ≠ rcStatusOk) : msg' = msg := by
  unfold saiagentMsgPutData at h
  dsimp only at h
  -- only the refusals return anything but 0
  split at h
  · cases h
    rfl
  · split at h
    · cases h
      rfl
    · split at h
      · cases h
      · split at h
        · cases h
        · cases h
          exact absurd rfl hrc

/-- A get that returns an error changed nothing. -/
theorem eq_of_saiagentMsgGetData (h : saiagentMsgGetData msg data size = .ok (rc, msg', object))
    (hrc : rc ≠ rcStatusOk) : msg' = msg := by
  unfold saiagentMsgGetData at h
  dsimp only at h
  split at h
  · cases h
    rfl
  · split at h
    · cases h
      rfl
    · split at h
      · split at h
        · cases h
          exact absurd rfl hrc
        · cases h
      · split at h
        · cases h
        · cases h
          exact absurd rfl hrc

/-- The calls of the message interface that move whole words, with their arguments: what a
pointer argument refers to is a byte list of any length. -/
inductive MessageCall where
  | typeSet (type : UInt32)
  | putU32 (val : UInt32)
  | putData (data : List UInt8) (size : UInt64) (words : 4 ∣ size.toNat)
  | putEvent (type id : UInt32)
  | typeGet (type : List UInt8)
  | getU32 (val : List UInt8)
  | getData (data : List UInt8) (size : UInt64)

namespace MessageCall

/-- One call: its status and the message afterwards. -/
def run (msg : SaiagentMsg) : MessageCall → Except Fault (Rc × SaiagentMsg)
  | typeSet type => saiagentMsgTypeSet msg type
  | putU32 val => saiagentMsgPutU32 msg val
  | putData data size _ => saiagentMsgPutData msg data size
  | putEvent type id => saiagentMsgPutEvent msg type id
  | typeGet type => (saiagentMsgTypeGet msg type).map fun r ↦ (r.1, r.2.1)
  | getU32 val => (saiagentMsgGetU32 msg val).map fun r ↦ (r.1, r.2.1)
  | getData data size => (saiagentMsgGetData msg data size).map fun r ↦ (r.1, r.2.1)

/-- **A failed call is atomic**: the filled size, the cursor and the filled bytes are as before. -/
def FailsAtomically (msg : SaiagentMsg) (call : MessageCall) : Prop :=
  ∀ rc msg', call.run msg = .ok (rc, msg') → rc ≠ rcStatusOk →
    msg'.payloadSize = msg.payloadSize ∧ msg'.tail = msg.tail ∧
      (msg'.buff.getD []).take msg.payloadSize.toNat = msg.payload

/-- The call puts an event where its first word fits and its second does not. -/
def PutsHalf (msg : SaiagentMsg) : MessageCall → Prop
  | putEvent _ _ => ∃ b, msg.buff = some b ∧ msg.payloadSize.toNat + 4 ≤ b.length ∧
      4 ≤ (msg.size - msg.payloadSize).toNat ∧ (msg.size - msg.payloadSize).toNat < 8
  | _ => False

variable {call : MessageCall}

/-- A call that returns the message it was given when it fails is atomic. -/
theorem failsAtomically_of_eq
    (h : ∀ rc msg', call.run msg = .ok (rc, msg') → rc ≠ rcStatusOk → msg' = msg) :
    call.FailsAtomically msg := by
  intro rc msg' hrun hrc
  obtain rfl := h rc msg' hrun hrc
  exact ⟨rfl, rfl, rfl⟩

/-- A get whose object is forgotten. -/
theorem eq_of_map_get (h : (saiagentMsgGetData msg data size).map (fun r ↦ (r.1, r.2.1)) =
    .ok (rc, msg')) (hrc : rc ≠ rcStatusOk) : msg' = msg := by
  rcases hget : saiagentMsgGetData msg data size with e | ⟨rc₁, msg₁, object₁⟩
  · rw [hget] at h
    cases h
  · rw [hget] at h
    cases h
    exact eq_of_saiagentMsgGetData hget hrc

end MessageCall

/-- The padded size of a 32-bit item. -/
theorem saiagentMsgPadsize_four : saiagentMsgPadsize 4 = 4 := by decide

/-- A 32-bit put is refused where less than four bytes are free. -/
theorem saiagentMsgPutU32_of_lt {b : List UInt8} (hb : msg.buff = some b) (val : UInt32)
    (h : (msg.size - msg.payloadSize).toNat < 4) :
    saiagentMsgPutU32 msg val = .ok (rcStatusErr, msg) := by
  refine saiagentMsgPutData_of_not_fits hb ?_
  rw [saiagentMsgPadsize_four, gt_iff_lt, UInt64.lt_iff_toNat_lt]
  exact h

/-- The capacity check where four bytes are free. -/
theorem not_four_gt (h : 4 ≤ (msg.size - msg.payloadSize).toNat) :
    ¬(4 : UInt64) > msg.size - msg.payloadSize := by
  rw [gt_iff_lt, UInt64.lt_iff_toNat_lt]
  exact Nat.not_lt.2 h

/-- A 32-bit put where four bytes are free is a copy of one word. -/
theorem saiagentMsgPutU32_of_le {b : List UInt8} (hb : msg.buff = some b) (val : UInt32)
    (h : 4 ≤ (msg.size - msg.payloadSize).toNat) (hlen : msg.payloadSize.toNat + 4 ≤ b.length) :
    saiagentMsgPutU32 msg val = .ok (rcStatusOk, { msg with
      buff := some (b.take msg.payloadSize.toNat ++ le32 val ++
        b.drop (msg.payloadSize.toNat + 4))
      payloadSize := msg.payloadSize + 4 }) := by
  have hval : 4 ≤ (le32 val).length := Nat.le_of_eq (length_le32 val).symm
  have hcopy := saiagentBufCopy32_words 1 (b.drop msg.payloadSize.toNat) (le32 val) (by omega)
    (by rw [List.length_drop]; omega) hval
  have htake : (le32 val).take 4 = le32 val :=
    List.take_of_length_le (Nat.le_of_eq (length_le32 val))
  rw [show UInt64.ofNat (4 * 1) = 4 from rfl, show 4 * 1 = 4 from rfl, htake] at hcopy
  simp only [saiagentMsgPutU32, saiagentMsgPutData, saiagentMsgPadsize_four, hb,
    if_neg (not_four_gt h), hcopy, UInt64.sub_self, show (4 : UInt64).toNat = 4 from rfl,
    List.drop_left' (length_le32 val), List.take_left' (length_le32 val), saiagentBufClear32_zero,
    List.drop_drop]
  rfl

/-- A 32-bit put that passes the capacity check returns 0, or does not return. -/
theorem saiagentMsgPutU32_ok_or_error {b : List UInt8} (hb : msg.buff = some b) (val : UInt32)
    (h : 4 ≤ (msg.size - msg.payloadSize).toNat) :
    (∃ msg', saiagentMsgPutU32 msg val = .ok (rcStatusOk, msg') ∧
        msg.payloadSize.toNat + 4 ≤ b.length) ∨
      ∃ e, saiagentMsgPutU32 msg val = .error e := by
  rcases hcopy : saiagentBufCopy32 (b.drop msg.payloadSize.toNat) (le32 val) 4 with e | dest
  · refine Or.inr ⟨e, ?_⟩
    simp only [saiagentMsgPutU32, saiagentMsgPutData, saiagentMsgPadsize_four, hb,
      if_neg (not_four_gt h), hcopy]
  · have hlen : 4 ≤ (b.drop msg.payloadSize.toNat).length :=
      (le_length_of_saiagentBufCopy32 hcopy).1
    rw [List.length_drop] at hlen
    exact Or.inl ⟨_, saiagentMsgPutU32_of_le hb val h (by omega), by omega⟩

/-- What a 32-bit put that returned 0 found, and what it left. -/
theorem exists_of_saiagentMsgPutU32 {val : UInt32}
    (h : saiagentMsgPutU32 msg val = .ok (rcStatusOk, msg')) :
    ∃ b, msg.buff = some b ∧ msg.payloadSize.toNat + 4 ≤ b.length ∧
      4 ≤ (msg.size - msg.payloadSize).toNat ∧ msg'.size = msg.size ∧
      msg'.payloadSize = msg.payloadSize + 4 ∧ msg'.buff.isSome = true := by
  rcases hb : msg.buff with _ | b
  · simp only [saiagentMsgPutU32, saiagentMsgPutData, hb] at h
    cases h
  · rcases Nat.lt_or_ge (msg.size - msg.payloadSize).toNat 4 with hlt | hle
    · cases h.symm.trans (saiagentMsgPutU32_of_lt hb val hlt)
    · obtain ⟨msg₁, hput, hlen⟩ | ⟨e, hput⟩ := saiagentMsgPutU32_ok_or_error hb val hle
      · cases h.symm.trans (saiagentMsgPutU32_of_le hb val hle hlen)
        exact ⟨b, rfl, hlen, hle, rfl, rfl, rfl⟩
      · cases h.symm.trans hput

/-- What is free behind a word, where a word was free. -/
theorem toNat_free_sub_four {size filled : UInt64} (h : 4 ≤ (size - filled).toNat) :
    (size - (filled + 4)).toNat = (size - filled).toNat - 4 := by
  have hsize := size.toNat_lt
  have hfilled := filled.toNat_lt
  simp only [UInt64.toNat_sub, UInt64.toNat_add, show (4 : UInt64).toNat = 4 from rfl] at h ⊢
  omega

/-- An event of which one word was put. -/
theorem saiagentMsgPutEvent_of_putsHalf {type id : UInt32}
    (h : (MessageCall.putEvent type id).PutsHalf msg) :
    ∃ msg₁, saiagentMsgPutEvent msg type id = .ok (rcStatusErr, msg₁) ∧
      msg₁.payloadSize = msg.payloadSize + 4 := by
  obtain ⟨b, hb, hlen, hle, hlt⟩ := h
  have hfree : (msg.size - (msg.payloadSize + 4)).toNat < 4 := by
    rw [toNat_free_sub_four hle]
    omega
  refine ⟨{ msg with
    buff := some (b.take msg.payloadSize.toNat ++ le32 type ++ b.drop (msg.payloadSize.toNat + 4))
    payloadSize := msg.payloadSize + 4 }, ?_, rfl⟩
  rw [saiagentMsgPutEvent, saiagentMsgPutU32_of_le hb type hle hlen]
  exact saiagentMsgPutU32_of_lt rfl id hfree

/-- An event that fails changed nothing, or one word of it was put. -/
theorem eq_of_saiagentMsgPutEvent {type id : UInt32}
    (h : saiagentMsgPutEvent msg type id = .ok (rc, msg')) (hrc : rc ≠ rcStatusOk)
    (hhalf : ¬(MessageCall.putEvent type id).PutsHalf msg) : msg' = msg := by
  rw [saiagentMsgPutEvent] at h
  rcases hfirst : saiagentMsgPutU32 msg type with e | ⟨err, msg₁⟩
  · rw [hfirst] at h
    cases h
  · rw [hfirst] at h
    dsimp only at h
    by_cases herr : err = 0
    · subst herr
      obtain ⟨b, hb, hlen, hle, hsize, hpayload, hsome⟩ := exists_of_saiagentMsgPutU32 hfirst
      obtain ⟨b₁, hb₁⟩ := Option.isSome_iff_exists.1 hsome
      rw [if_neg (not_not.2 rfl)] at h
      -- eight bytes are free, so the second word is not refused
      have hfree : 4 ≤ (msg₁.size - msg₁.payloadSize).toNat := by
        rw [hsize, hpayload, toNat_free_sub_four hle]
        have : ¬(msg.size - msg.payloadSize).toNat < 8 := fun hlt ↦ hhalf ⟨b, hb, hlen, hle, hlt⟩
        omega
      obtain ⟨msg₂, hput, -⟩ | ⟨e, hput⟩ := saiagentMsgPutU32_ok_or_error hb₁ id hfree
      · rw [hput] at h
        cases h
        exact absurd rfl hrc
      · rw [hput] at h
        cases h
    · rw [if_pos herr] at h
      cases h
      exact eq_of_saiagentMsgPutData hfirst herr

/-- **Failed calls are atomic**, but for an event of which one word fits. -/
theorem failedCallsAtomic_iff (msg : SaiagentMsg) (call : MessageCall) :
    call.FailsAtomically msg ↔ ¬call.PutsHalf msg := by
  constructor
  · intro h hhalf
    cases call with
    | putEvent type id =>
      obtain ⟨msg₁, hput, hpayload⟩ := saiagentMsgPutEvent_of_putsHalf hhalf
      have heq := (h rcStatusErr msg₁ hput (by decide)).1
      rw [hpayload, ← UInt64.toNat_inj, UInt64.toNat_add, show (4 : UInt64).toNat = 4 from rfl]
        at heq
      have := msg.payloadSize.toNat_lt
      omega
    | typeSet _ | putU32 _ | putData _ _ _ | typeGet _ | getU32 _ | getData _ _ => exact hhalf
  · intro hhalf
    refine MessageCall.failsAtomically_of_eq fun rc msg' hrun hrc ↦ ?_
    cases call with
    | typeSet type => exact eq_of_saiagentMsgPutData hrun hrc
    | putU32 val => exact eq_of_saiagentMsgPutData hrun hrc
    | putData data size _ => exact eq_of_saiagentMsgPutData hrun hrc
    | putEvent type id => exact eq_of_saiagentMsgPutEvent hrun hrc hhalf
    | typeGet type => exact MessageCall.eq_of_map_get hrun hrc
    | getU32 val => exact MessageCall.eq_of_map_get hrun hrc
    | getData data size => exact MessageCall.eq_of_map_get hrun hrc

/-- A message with four free bytes of 1500. -/
def almostFullMsg : SaiagentMsg where
  buff := some (List.replicate saiagentMsgMaxSize 0)
  size := UInt64.ofNat saiagentMsgMaxSize
  payloadSize := 1496
  tail := none

/-- The event's type stays behind when its id is refused. -/
theorem event_half_put : ¬∀ (msg : SaiagentMsg) (call : MessageCall), msg.payloadSize ≤ msg.size →
    call.FailsAtomically msg := by
  intro h
  have hle : almostFullMsg.payloadSize ≤ almostFullMsg.size := by decide
  obtain ⟨msg₁, hput, hpayload⟩ := @saiagentMsgPutEvent_of_putsHalf almostFullMsg 5 7
    ⟨List.replicate saiagentMsgMaxSize 0, rfl, by rw [List.length_replicate]; decide, by decide,
      by decide⟩
  have heq := (h almostFullMsg (.putEvent 5 7) hle rcStatusErr msg₁ hput (by decide)).1
  rw [hpayload] at heq
  exact absurd heq (by decide)

/-! ### The sizes computed -/

/-- The sizes a transfer computes for `n` bytes are exact: the total is the least multiple of 4
that holds them, and less than a word of it is padding. -/
def SizeExact (n : UInt64) : Prop :=
  IsLeast {k | 4 ∣ k ∧ n.toNat ≤ k} (saiagentMsgPadsize n).toNat ∧
    (saiagentMsgPadsize n - n).toNat < 4

/-- A put that is not refused computed exact sizes, and its bytes lie in the free capacity. -/
def PutSizeExact (msg : SaiagentMsg) (data : List UInt8) (n : UInt64) : Prop :=
  saiagentMsgPutData msg data n ≠ .ok (rcStatusErr, msg) →
    SizeExact n ∧ msg.payloadSize.toNat + n.toNat ≤ msg.size.toNat

/-- A get that is not refused computed exact sizes, and its bytes lie in the unread payload. -/
def GetSizeExact (msg : SaiagentMsg) (data : List UInt8) (n : UInt64) : Prop :=
  saiagentMsgGetData msg data n ≠ .ok (rcStatusErr, msg, data) →
    SizeExact n ∧ (msg.tail.getD 0).toNat + n.toNat ≤ msg.payloadSize.toNat

/-- What is left of a size, rounded up to a multiple of 4, below bit 32. -/
def keptSize (n : UInt64) : ℕ := (n.toNat + 3) % 2 ^ 32 / 4 * 4

variable {n : UInt64}

theorem toNat_saiagentMsgPadsize_eq_keptSize (n : UInt64) :
    (saiagentMsgPadsize n).toNat = keptSize n := by
  rw [toNat_saiagentMsgPadsize, keptSize]
  omega

/-- Below 4 GiB nothing is lost by the mask. -/
theorem sizeExact_of_le (h : n.toNat ≤ 2 ^ 32 - 4) : SizeExact n := by
  have htotal : (saiagentMsgPadsize n).toNat = (n.toNat + 3) / 4 * 4 := by
    rw [toNat_saiagentMsgPadsize_eq_keptSize, keptSize]
    omega
  refine ⟨⟨⟨?_, ?_⟩, ?_⟩, ?_⟩
  · rw [htotal]
    exact Nat.dvd_mul_left 4 _
  · rw [htotal]
    omega
  · rintro k ⟨⟨c, rfl⟩, hk⟩
    rw [htotal]
    omega
  · rw [UInt64.toNat_sub_of_le _ _ (UInt64.le_iff_toNat_le.2 (by omega)), htotal]
    omega

/-- From there on the total is less than the size itself. -/
theorem sizeExact_iff (n : UInt64) : SizeExact n ↔ n.toNat ≤ 2 ^ 32 - 4 := by
  constructor
  · rintro ⟨⟨⟨-, hle⟩, -⟩, -⟩
    rw [toNat_saiagentMsgPadsize_eq_keptSize, keptSize] at hle
    omega
  · exact sizeExact_of_le

/-- A put is refused without a buffer, or where its total exceeds what is free. -/
theorem saiagentMsgPutData_eq_refused_iff (hle : msg.payloadSize ≤ msg.size) (data : List UInt8)
    (n : UInt64) :
    saiagentMsgPutData msg data n = .ok (rcStatusErr, msg) ↔
      msg.buff = none ∨ msg.size.toNat - msg.payloadSize.toNat < keptSize n := by
  have hfree : saiagentMsgPadsize n > msg.size - msg.payloadSize ↔
      msg.size.toNat - msg.payloadSize.toNat < keptSize n := by
    rw [gt_iff_lt, UInt64.lt_iff_toNat_lt, toNat_saiagentMsgPadsize_eq_keptSize,
      UInt64.toNat_sub_of_le _ _ hle]
  rw [← hfree]
  constructor
  · intro h
    rcases hb : msg.buff with _ | b
    · exact Or.inl rfl
    · by_contra hnot
      obtain ⟨-, hfit⟩ := not_or.1 hnot
      simp only [saiagentMsgPutData, hb, if_neg hfit] at h
      -- a put that passes the check faults or returns 0
      split at h
      · cases h
      · split at h
        · cases h
        · cases h
  · rintro (hb | hfit)
    · simp only [saiagentMsgPutData, hb]
    · rcases hb : msg.buff with _ | b
      · simp only [saiagentMsgPutData, hb]
      · exact saiagentMsgPutData_of_not_fits hb hfit

/-- A get is refused from an empty message, or where its total exceeds what is unread. -/
theorem saiagentMsgGetData_eq_refused_iff (htail : (msg.tail.getD 0).toNat < 2 ^ 63)
    (data : List UInt8) (n : UInt64) :
    saiagentMsgGetData msg data n = .ok (rcStatusErr, msg, data) ↔
      msg.payloadSize = 0 ∨ msg.payloadSize.toNat < (msg.tail.getD 0).toNat + keptSize n := by
  have hthere : msg.payloadSize < msg.tail.getD 0 + saiagentMsgPadsize n ↔
      msg.payloadSize.toNat < (msg.tail.getD 0).toNat + keptSize n := by
    rw [UInt64.lt_iff_toNat_lt, UInt64.toNat_add, toNat_saiagentMsgPadsize_eq_keptSize]
    have : keptSize n < 2 ^ 32 := by
      rw [keptSize]
      omega
    rw [Nat.mod_eq_of_lt (by omega)]
  rw [← hthere]
  constructor
  · intro h
    by_contra hnot
    obtain ⟨hne, hle⟩ := not_or.1 hnot
    simp only [saiagentMsgGetData, if_neg hne, if_neg hle] at h
    -- the copy of a get that passes the check faults or returns 0
    split at h
    · split at h
      · cases h
      · cases h
    · split at h
      · cases h
      · cases h
  · exact saiagentMsgGetData_of_not_there

/-- Below 4 GiB a size is rounded up. -/
theorem le_keptSize (h : n.toNat ≤ 2 ^ 32 - 4) : n.toNat ≤ keptSize n := by
  rw [keptSize]
  omega

/-- A transfer whose check, passed by a size that was rounded up, leaves room for the bytes is
exact for the sizes that are rounded up and for those it refuses. -/
theorem sizeExact_and_iff {refused fits : Prop}
    (hfits : n.toNat ≤ keptSize n → ¬refused → fits) :
    (¬refused → SizeExact n ∧ fits) ↔ n.toNat ≤ 2 ^ 32 - 4 ∨ refused := by
  rw [sizeExact_iff]
  constructor
  · intro h
    by_cases hrefused : refused
    · exact Or.inr hrefused
    · exact Or.inl (h hrefused).1
  · rintro (hn | hrefused) hadmitted
    · exact ⟨hn, hfits (le_keptSize hn) hadmitted⟩
    · exact absurd hrefused hadmitted

/-- Where a put's sizes are exact. -/
theorem putSizeExact_iff (hle : msg.payloadSize ≤ msg.size) (data : List UInt8) (n : UInt64) :
    PutSizeExact msg data n ↔ n.toNat ≤ 2 ^ 32 - 4 ∨
      msg.buff = none ∨ msg.size.toNat - msg.payloadSize.toNat < keptSize n := by
  rw [PutSizeExact, ne_eq, saiagentMsgPutData_eq_refused_iff hle]
  refine sizeExact_and_iff fun hround hadmitted ↦ ?_
  obtain ⟨-, hfit⟩ := not_or.1 hadmitted
  have := UInt64.le_iff_toNat_le.1 hle
  omega

/-- Where a get's sizes are exact. -/
theorem getSizeExact_iff (htail : (msg.tail.getD 0).toNat < 2 ^ 63) (data : List UInt8)
    (n : UInt64) :
    GetSizeExact msg data n ↔ n.toNat ≤ 2 ^ 32 - 4 ∨ msg.payloadSize = 0 ∨
      msg.payloadSize.toNat < (msg.tail.getD 0).toNat + keptSize n := by
  rw [GetSizeExact, ne_eq, saiagentMsgGetData_eq_refused_iff htail]
  refine sizeExact_and_iff fun hround hadmitted ↦ ?_
  obtain ⟨-, hthere⟩ := not_or.1 hadmitted
  omega

/-- **The rounding is exact below 4 GiB.** A larger size is transferred exactly only by being
refused, and the refusal looks at what is left of it below bit 32. -/
theorem sizesExact_iff (msg : SaiagentMsg) (hle : msg.payloadSize ≤ msg.size)
    (htail : (msg.tail.getD 0).toNat < 2 ^ 63) (data : List UInt8) (n : UInt64) :
    (PutSizeExact msg data n ↔ n.toNat ≤ 2 ^ 32 - 4 ∨
      msg.buff = none ∨ msg.size.toNat - msg.payloadSize.toNat < keptSize n) ∧
    (GetSizeExact msg data n ↔ n.toNat ≤ 2 ^ 32 - 4 ∨
      msg.payloadSize = 0 ∨ msg.payloadSize.toNat < (msg.tail.getD 0).toNat + keptSize n) :=
  ⟨putSizeExact_iff hle data n, getSizeExact_iff htail data n⟩

theorem sizesExact_almostFull :
    PutSizeExact almostFullMsg [] 8 ∧ GetSizeExact almostFullMsg [] 8 := by
  obtain ⟨hput, hget⟩ := sizesExact_iff almostFullMsg (by decide) (by decide) [] 8
  exact ⟨hput.2 (Or.inl (by decide)), hget.2 (Or.inl (by decide))⟩

/-- An item of 4 GiB passes the capacity check of a message of 1500 bytes. -/
theorem four_gib_admitted : ¬∀ (msg : SaiagentMsg) (data : List UInt8) (n : UInt64),
    msg.payloadSize ≤ msg.size → (msg.tail.getD 0).toNat < 2 ^ 63 →
      PutSizeExact msg data n ∧ GetSizeExact msg data n := by
  intro h
  have hput := (h almostFullMsg [] (UInt64.ofNat (2 ^ 32)) (by decide) (by decide)).1
  rw [putSizeExact_iff (by decide)] at hput
  rcases hput with hn | hb | hfree
  · exact absurd hn (by decide)
  · cases hb
  · exact absurd hfree (by decide)

end SaiAgent
