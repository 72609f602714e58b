import SaiAgent.Library.Bytes

/-!
# The agent's message buffer

`saiagent.h` (return codes), `saiagent_msg.h` and `saiagent_msg.c`: the buffer every request is read
from and every reply is built in.

`size_t` is `UInt64`, so the sums and differences wrap exactly where the C expressions do, and the
alignment mask is the 32-bit complement the macro computes, zero-extended. Memory is a byte
list: the buffer runs from `buff` to the end of its allocation, an item from its pointer to the end
of its object. The word loops count `size` down by 4 until it is zero and advance both pointers;
running past the end of either object is `Fault.outOfBounds`, which is also where a size that is not
a multiple of 4 ends, since its countdown steps over zero.

`tail` is the offset of the read cursor from `buff`.
-/

namespace SaiAgent

open Effects.Bytes

/-- What stops the main thread: behaviour the C standard leaves undefined, or a call that never
returns. -/
inductive Fault where
  /-- An access past the end of an array or an allocated object. -/
  | outOfBounds
  /-- A null pointer was dereferenced. -/
  | nullDeref
  /-- A pointer no one assigned was dereferenced. -/
  | wildPointer
  /-- Memory already given back was used. -/
  | useAfterFree
  /-- `free` of a value that is not a live allocation. -/
  | invalidFree
  /-- A signed counter was incremented past the largest value of its type. -/
  | signedOverflow
  /-- A library call waits for ever. -/
  | blocked
  deriving DecidableEq, Repr

/-- `saiagent_rc_t`; a variable of the type may hold any 32-bit value. -/
abbrev Rc := UInt32

/-- `RC_STATUS_OK`. -/
def rcStatusOk : Rc := 0

/-- `RC_STATUS_ERR`. -/
def rcStatusErr : Rc := 1

/-- `RC_STATUS_NOT_SUPP`. -/
def rcStatusNotSupp : Rc := 2

/-- `SAIAGENT_MSG_MAX_SIZE`. -/
def saiagentMsgMaxSize : ℕ := 1500

/-- `SAIAGENT_MSG_ALIGNTO`, an `unsigned int`. -/
def saiagentMsgAlignto : UInt32 := 4

/-- `SAIAGENT_MSG_PADSIZE(size)` at a `size_t` argument. The mask `~(4U - 1)` is computed in 32 bits
and widened with zeros. -/
def saiagentMsgPadsize (size : UInt64) : UInt64 :=
  (size + saiagentMsgAlignto.toUInt64 - 1) &&& (~~~(saiagentMsgAlignto - 1)).toUInt64

/-- `struct saiagent_msg`. -/
structure SaiagentMsg where
  /-- The buffer's bytes up to the end of its allocation; `none` is the null pointer. -/
  buff : Option (List UInt8)
  /-- The capacity the structure claims. -/
  size : UInt64
  /-- How much of the buffer is filled. -/
  payloadSize : UInt64
  /-- The read cursor as an offset into the buffer; `none` is the null pointer. -/
  tail : Option UInt64
  deriving DecidableEq

namespace SaiagentMsg

/-- The bytes the message holds. -/
def payload (msg : SaiagentMsg) : List UInt8 :=
  (msg.buff.getD []).take msg.payloadSize.toNat

end SaiagentMsg

/-- `saiagent_buf_copy32`: the words of `src` over the words of `dst`. -/
def saiagentBufCopy32 : List UInt8 → List UInt8 → UInt64 → Except Fault (List UInt8)
  | d₀ :: d₁ :: d₂ :: d₃ :: dst, s₀ :: s₁ :: s₂ :: s₃ :: src, size =>
    if size = 0 then
      .ok (d₀ :: d₁ :: d₂ :: d₃ :: dst)
    else
      match saiagentBufCopy32 dst src (size - 4) with
      | .ok rest => .ok (s₀ :: s₁ :: s₂ :: s₃ :: rest)
      | .error e => .error e
  | dst, _, size => if size = 0 then .ok dst else .error .outOfBounds

/-- `saiagent_buf_clear32`: zero words over the words of `dst`. -/
def saiagentBufClear32 : List UInt8 → UInt64 → Except Fault (List UInt8)
  | d₀ :: d₁ :: d₂ :: d₃ :: dst, size =>
    if size = 0 then
      .ok (d₀ :: d₁ :: d₂ :: d₃ :: dst)
    else
      match saiagentBufClear32 dst (size - 4) with
      | .ok rest => .ok (0 :: 0 :: 0 :: 0 :: rest)
      | .error e => .error e
  | dst, size => if size = 0 then .ok dst else .error .outOfBounds

/-- `saiagent_msg_put_data`: append `size` bytes of `data` and their padding. Returns 0 or
`RC_STATUS_ERR` and the message afterwards. -/
def saiagentMsgPutData (msg : SaiagentMsg) (data : List UInt8) (size : UInt64) :
    Except Fault (Rc × SaiagentMsg) :=
  let totalSize := saiagentMsgPadsize size
  let padSize := totalSize - size
  match msg.buff with
  | none => .ok (rcStatusErr, msg)
  | some buff =>
    if totalSize > msg.size - msg.payloadSize then
      .ok (rcStatusErr, msg)
    else
      let filled := msg.payloadSize.toNat
      match saiagentBufCopy32 (buff.drop filled) data size with
      | .error e => .error e
      | .ok dest =>
        match saiagentBufClear32 (dest.drop size.toNat) padSize with
        | .error e => .error e
        | .ok rest =>
          .ok (0, { msg with
            buff := some (buff.take filled ++ dest.take size.toNat ++ rest)
            payloadSize := msg.payloadSize + totalSize })

/-- `saiagent_msg_get_data`: copy the next `size` unread bytes over the object `data`. Returns 0 or
`RC_STATUS_ERR`, the message and the object afterwards. -/
def saiagentMsgGetData (msg : SaiagentMsg) (data : List UInt8) (size : UInt64) :
    Except Fault (Rc × SaiagentMsg × List UInt8) :=
  let totalSize := saiagentMsgPadsize size
  if msg.payloadSize = 0 then
    .ok (rcStatusErr, msg, data)
  else
    let src := msg.tail.getD 0
    if msg.payloadSize < src + totalSize then
      .ok (rcStatusErr, msg, data)
    else
      match msg.buff with
      | none => if size = 0 then .ok (0, { msg with tail := none }, data) else .error .nullDeref
      | some buff =>
        match saiagentBufCopy32 data (buff.drop src.toNat) size with
        | .error e => .error e
        | .ok data' => .ok (0, { msg with tail := some (src + totalSize) }, data')

/-- `saiagent_msg_clear`. -/
def saiagentMsgClear (msg : SaiagentMsg) : SaiagentMsg :=
  { msg with payloadSize := 0, tail := none }

/-- `saiagent_msg_type_get`: the 32-bit word at the read cursor, over the four bytes `type` pointed
to. -/
def saiagentMsgTypeGet (msg : SaiagentMsg) (type : List UInt8) :
    Except Fault (Rc × SaiagentMsg × List UInt8) :=
  saiagentMsgGetData msg type 4

/-- `saiagent_msg_type_set`. -/
def saiagentMsgTypeSet (msg : SaiagentMsg) (type : UInt32) : Except Fault (Rc × SaiagentMsg) :=
  saiagentMsgPutData msg (le32 type) 4

/-- `saiagent_msg_put_u8`: the item is one byte. -/
def saiagentMsgPutU8 (msg : SaiagentMsg) (val : UInt8) : Except Fault (Rc × SaiagentMsg) :=
  saiagentMsgPutData msg [val] 1

/-- `saiagent_msg_get_u8`, over the byte `val` pointed to. -/
def saiagentMsgGetU8 (msg : SaiagentMsg) (val : List UInt8) :
    Except Fault (Rc × SaiagentMsg × List UInt8) :=
  saiagentMsgGetData msg val 1

/-- `saiagent_msg_put_u16`: the item is two bytes. -/
def saiagentMsgPutU16 (msg : SaiagentMsg) (val : UInt16) : Except Fault (Rc × SaiagentMsg) :=
  saiagentMsgPutData msg (le16 val) 2

/-- `saiagent_msg_get_u16`, over the two bytes `val` pointed to. -/
def saiagentMsgGetU16 (msg : SaiagentMsg) (val : List UInt8) :
    Except Fault (Rc × SaiagentMsg × List UInt8) :=
  saiagentMsgGetData msg val 2

/-- `saiagent_msg_put_u32`. -/
def saiagentMsgPutU32 (msg : SaiagentMsg) (val : UInt32) : Except Fault (Rc × SaiagentMsg) :=
  saiagentMsgPutData msg (le32 val) 4

/-- `saiagent_msg_get_u32`, over the four bytes `val` pointed to. -/
def saiagentMsgGetU32 (msg : SaiagentMsg) (val : List UInt8) :
    Except Fault (Rc × SaiagentMsg × List UInt8) :=
  saiagentMsgGetData msg val 4

/-- `saiagent_msg_put_event`. -/
def saiagentMsgPutEvent (msg : SaiagentMsg) (type id : UInt32) : Except Fault (Rc × SaiagentMsg) :=
  match saiagentMsgPutU32 msg type with
  | .error e => .error e
  | .ok (err, msg) => if err ≠ 0 then .ok (err, msg) else saiagentMsgPutU32 msg id

/-- A buffer with room for the largest message, its contents undetermined. -/
structure MsgBuffer where
  bytes : List UInt8
  length_eq : bytes.length = saiagentMsgMaxSize

/-- `saiagent_msg_create`, with what its two allocations return. The status of
`saiagent_msg_type_set` is dropped. -/
def saiagentMsgCreate (msgMalloc : Bool) (buffMalloc : Option MsgBuffer) (type : UInt32) :
    Except Fault (Option SaiagentMsg) :=
  if !msgMalloc then
    .ok none
  else
    match buffMalloc with
    | none => .ok none
    | some buff =>
      match saiagentMsgTypeSet ⟨some buff.bytes, UInt64.ofNat saiagentMsgMaxSize, 0, none⟩ type with
      | .error e => .error e
      | .ok (_, msg) => .ok (some msg)

/-! ### What the word loops and the two transfers do on whole words -/

/-- A whole number of words is copied exactly, and nothing behind it changes. -/
theorem saiagentBufCopy32_words (n : ℕ) : ∀ (dst src : List UInt8), 4 * n < 2 ^ 64 →
    4 * n ≤ dst.length → 4 * n ≤ src.length →
    saiagentBufCopy32 dst src (UInt64.ofNat (4 * n)) =
      .ok (src.take (4 * n) ++ dst.drop (4 * n)) := by
  induction n with
  | zero =>
    intro dst src _ _ _
    unfold saiagentBufCopy32
    split <;> simp
  | succ n ih =>
    intro dst src hn hd hs
    match dst, src, hd, hs with
    | d₀ :: d₁ :: d₂ :: d₃ :: dst, s₀ :: s₁ :: s₂ :: s₃ :: src, hd, hs =>
      have hne : UInt64.ofNat (4 * (n + 1)) ≠ 0 := by
        intro h
        have := congrArg UInt64.toNat h
        simp only [UInt64.toNat_ofNat', UInt64.reduceToNat] at this
        omega
      have hsub : UInt64.ofNat (4 * (n + 1)) - 4 = UInt64.ofNat (4 * n) := by
        apply UInt64.toNat_inj.1
        simp only [UInt64.toNat_sub, UInt64.toNat_ofNat', UInt64.reduceToNat]
        omega
      simp only [List.length_cons] at hd hs
      rw [saiagentBufCopy32, if_neg hne, hsub, ih dst src (by omega) (by omega) (by omega)]
      rfl
    | [], _, hd, _ | [_], _, hd, _ | [_, _], _, hd, _ | [_, _, _], _, hd, _ =>
      simp only [List.length_cons, List.length_nil] at hd
      omega
    | _, [], _, hs | _, [_], _, hs | _, [_, _], _, hs | _, [_, _, _], _, hs =>
      simp only [List.length_cons, List.length_nil] at hs
      omega

/-- The pad macro rounds up to a multiple of 4 and drops the bits from 32 on. -/
theorem toNat_saiagentMsgPadsize (size : UInt64) :
    (saiagentMsgPadsize size).toNat = (size.toNat + 3) % 2 ^ 64 % 2 ^ 32 / 4 * 4 := by
  have hmask : (~~~(saiagentMsgAlignto - 1)).toUInt64.toNat = (2 ^ 30 - 1) <<< 2 := by decide
  have hsum : (size + saiagentMsgAlignto.toUInt64 - 1).toNat = (size.toNat + 3) % 2 ^ 64 := by
    have h4 : saiagentMsgAlignto.toUInt64.toNat = 4 := by decide
    simp only [UInt64.toNat_sub, UInt64.toNat_add, h4, UInt64.reduceToNat]
    omega
  rw [saiagentMsgPadsize, UInt64.toNat_and, hmask, hsum]
  generalize (size.toNat + 3) % 2 ^ 64 = x
  have hround : x % 2 ^ 32 / 4 * 4 = (x % 2 ^ 32) >>> 2 <<< 2 := by
    rw [Nat.shiftRight_eq_div_pow, Nat.shiftLeft_eq]
  rw [hround]
  apply Nat.eq_of_testBit_eq
  intro i
  simp only [Nat.testBit_and, Nat.testBit_shiftLeft, Nat.testBit_shiftRight,
    Nat.testBit_mod_two_pow, Nat.testBit_two_pow_sub_one]
  by_cases hi : 2 ≤ i
  · have : 2 + (i - 2) = i := by omega
    simp only [this, hi, decide_true, Bool.true_and]
    rw [Bool.and_comm]
    congr 1
    simp only [decide_eq_decide]
    omega
  · simp [hi]

/-- A whole number of words below 4 GiB is its own padded size. -/
theorem saiagentMsgPadsize_words {n : ℕ} (hn : 4 * n < 2 ^ 32) :
    saiagentMsgPadsize (UInt64.ofNat (4 * n)) = UInt64.ofNat (4 * n) := by
  apply UInt64.toNat_inj.1
  rw [toNat_saiagentMsgPadsize, UInt64.toNat_ofNat']
  omega

/-- Clearing nothing changes nothing. -/
theorem saiagentBufClear32_zero (dst : List UInt8) : saiagentBufClear32 dst 0 = .ok dst := by
  unfold saiagentBufClear32
  split <;> simp

/-- **Putting whole words that fit** appends exactly them. -/
theorem saiagentMsgPutData_words {msg : SaiagentMsg} {b data : List UInt8} {n : ℕ}
    (hb : msg.buff = some b) (hsize : msg.payloadSize ≤ msg.size) (hlen : msg.size.toNat ≤ b.length)
    (hn : 4 * n < 2 ^ 32) (hdata : 4 * n ≤ data.length)
    (hfit : msg.payloadSize.toNat + 4 * n ≤ msg.size.toNat) :
    saiagentMsgPutData msg data (UInt64.ofNat (4 * n)) =
      .ok (0, { msg with
        buff := some (b.take msg.payloadSize.toNat ++ data.take (4 * n) ++
          b.drop (msg.payloadSize.toNat + 4 * n))
        payloadSize := msg.payloadSize + UInt64.ofNat (4 * n) }) := by
  have hle := UInt64.le_iff_toNat_le.1 hsize
  have hmsg := msg.size.toNat_lt
  have htotal : (UInt64.ofNat (4 * n)).toNat = 4 * n := by
    rw [UInt64.toNat_ofNat']
    omega
  have hcap : ¬UInt64.ofNat (4 * n) > msg.size - msg.payloadSize := by
    rw [gt_iff_lt, UInt64.lt_iff_toNat_lt, htotal, UInt64.toNat_sub]
    omega
  have hcopy := saiagentBufCopy32_words n (b.drop msg.payloadSize.toNat) data (by omega)
    (by rw [List.length_drop]; omega) hdata
  have htake : (data.take (4 * n)).length = 4 * n := by
    rw [List.length_take]
    omega
  simp only [saiagentMsgPutData, saiagentMsgPadsize_words hn, hb, if_neg hcap, hcopy, htotal,
    UInt64.sub_self, List.drop_left' htake, List.take_left' htake, saiagentBufClear32_zero,
    List.drop_drop]

/-- **Getting whole words that are there** returns exactly them and moves the cursor behind them. -/
theorem saiagentMsgGetData_words {msg : SaiagentMsg} {b data : List UInt8} {n : ℕ}
    (hb : msg.buff = some b) (hpayload : msg.payloadSize.toNat ≤ b.length)
    (hb63 : b.length < 2 ^ 63) (hn : 4 * n < 2 ^ 32) (hdata : 4 * n ≤ data.length)
    (hne : msg.payloadSize ≠ 0) (hthere : (msg.tail.getD 0).toNat + 4 * n ≤ msg.payloadSize.toNat) :
    saiagentMsgGetData msg data (UInt64.ofNat (4 * n)) =
      .ok (0, { msg with tail := some (msg.tail.getD 0 + UInt64.ofNat (4 * n)) },
        (b.drop (msg.tail.getD 0).toNat).take (4 * n) ++ data.drop (4 * n)) := by
  have htotal : (UInt64.ofNat (4 * n)).toNat = 4 * n := by
    rw [UInt64.toNat_ofNat']
    omega
  have hlt : ¬msg.payloadSize < msg.tail.getD 0 + UInt64.ofNat (4 * n) := by
    rw [UInt64.lt_iff_toNat_lt, UInt64.toNat_add, htotal]
    omega
  have hcopy := saiagentBufCopy32_words n data (b.drop (msg.tail.getD 0).toNat) (by omega) hdata
    (by rw [List.length_drop]; omega)
  simp only [saiagentMsgGetData, saiagentMsgPadsize_words hn, if_neg hne, if_neg hlt, hb, hcopy]

/-- A copy that ends ran inside both of its objects. -/
theorem le_length_of_saiagentBufCopy32 {dst src r : List UInt8} {size : UInt64}
    (h : saiagentBufCopy32 dst src size = .ok r) :
    size.toNat ≤ dst.length ∧ size.toNat ≤ src.length := by
  fun_induction saiagentBufCopy32 dst src size generalizing r with
  | case1 => exact ⟨Nat.zero_le _, Nat.zero_le _⟩
  | case2 d₀ d₁ d₂ d₃ dst s₀ s₁ s₂ s₃ src size hsize rest hrest ih =>
    obtain ⟨hdst, hsrc⟩ := ih hrest
    have hpos : size.toNat ≠ 0 := fun h0 ↦ hsize (UInt64.toNat_inj.1 h0)
    have hsub : size.toNat ≤ (size - 4).toNat + 4 := by
      have := size.toNat_lt
      rw [UInt64.toNat_sub, show (4 : UInt64).toNat = 4 from rfl]
      omega
    simp only [List.length_cons]
    omega
  | case3 => cases h
  | case4 => exact ⟨Nat.zero_le _, Nat.zero_le _⟩
  | case5 => cases h

/-- A copy that ends leaves an object of the same length. -/
theorem length_of_saiagentBufCopy32 {dst src r : List UInt8} {size : UInt64}
    (h : saiagentBufCopy32 dst src size = .ok r) : r.length = dst.length := by
  fun_induction saiagentBufCopy32 dst src size generalizing r with
  | case1 =>
    cases h
    rfl
  | case2 d₀ d₁ d₂ d₃ dst s₀ s₁ s₂ s₃ src size hsize rest hrest ih =>
    cases h
    simp only [List.length_cons, ih hrest]
  | case3 => cases h
  | case4 =>
    cases h
    rfl
  | case5 => cases h

/-- A clear that ends leaves an object of the same length. -/
theorem length_of_saiagentBufClear32 {dst r : List UInt8} {size : UInt64}
    (h : saiagentBufClear32 dst size = .ok r) : r.length = dst.length := by
  fun_induction saiagentBufClear32 dst size generalizing r with
  | case1 =>
    cases h
    rfl
  | case2 d₀ d₁ d₂ d₃ dst size hsize rest hrest ih =>
    cases h
    simp only [List.length_cons, ih hrest]
  | case3 => cases h
  | case4 =>
    cases h
    rfl
  | case5 => cases h

/-- **What a put that returned 0 found and left**: its bytes are inside both objects, and
the buffer keeps its length. -/
theorem exists_of_saiagentMsgPutData {msg msg' : SaiagentMsg} {data : List UInt8} {size : UInt64}
    (h : saiagentMsgPutData msg data size = .ok (rcStatusOk, msg')) :
    ∃ b b', msg.buff = some b ∧ msg'.buff = some b' ∧ size.toNat ≤ data.length ∧
      size.toNat ≤ b.length ∧ (msg.payloadSize.toNat ≤ b.length → b'.length = b.length) := by
  unfold saiagentMsgPutData at h
  dsimp only at h
  split at h
  · cases h
  · rename_i b hb
    split at h
    · cases h
    · split at h
      · cases h
      · rename_i dest hcopy
        split at h
        · cases h
        · rename_i rest hclear
          obtain ⟨hdst, hsrc⟩ := le_length_of_saiagentBufCopy32 hcopy
          have hdest := length_of_saiagentBufCopy32 hcopy
          have hrest := length_of_saiagentBufClear32 hclear
          rw [List.length_drop] at hdst hdest hrest
          cases h
          refine ⟨b, _, hb, rfl, hsrc, by omega, fun hle ↦ ?_⟩
          simp only [List.length_append, List.length_take, hrest]
          omega

/-! ### What the word loops do on anything else -/

/-- A step of the countdown keeps the remainder. -/
theorem toNat_sub_four_mod (size : UInt64) : (size - 4).toNat % 4 = size.toNat % 4 := by
  have := size.toNat_lt
  simp only [UInt64.toNat_sub, UInt64.reduceToNat]
  omega

/-- **A size that is not a whole number of words is never counted down to zero**: the copy runs
past the end of its objects, however long they are. -/
theorem saiagentBufCopy32_of_mod_ne {size : UInt64} (h : size.toNat % 4 ≠ 0)
    (dst src : List UInt8) : saiagentBufCopy32 dst src size = .error .outOfBounds := by
  have hne : ∀ size : UInt64, size.toNat % 4 ≠ 0 → size ≠ 0 := by
    rintro _ h rfl
    exact h rfl
  fun_induction saiagentBufCopy32 dst src size with
  | case1 => exact absurd rfl (hne _ h)
  | case2 d₀ d₁ d₂ d₃ dst s₀ s₁ s₂ s₃ src size hsize rest hrest ih =>
    rw [ih (by rwa [toNat_sub_four_mod])] at hrest
    cases hrest
  | case3 d₀ d₁ d₂ d₃ dst s₀ s₁ s₂ s₃ src size hsize e hrest ih =>
    rw [ih (by rwa [toNat_sub_four_mod])] at hrest
    cases hrest
    rfl
  | case4 => exact absurd rfl (hne _ h)
  | case5 => rfl

end SaiAgent
