import SaiAgent.Library.Queue
import SaiAgent.Model.Message

/-!
# The message buffer as a byte queue

* `msgQueue`: on items of whole words, any interleaving of puts, gets and clears makes the message
  answer as a bounded byte queue does, whatever it wrapped at first. `Represents` is the simulation
  relation, `represents_step` its step;
* `transfers_iff`: on items of any length, exactly when a put and a get end inside their objects:
  the word loops end on whole words only, so an item of another length must be refused before its
  copy starts.
-/

namespace SaiAgent

open Effects Effects.Bytes

/-! ### Messages and items -/

/-- A message over a buffer: what it claims to hold is there, and no object fills more than half
of the address space. -/
structure MsgBuff where
  buff : List UInt8
  size : UInt64
  payloadSize : UInt64
  payload_le : payloadSize ≤ size
  size_le : size.toNat ≤ buff.length
  length_lt : buff.length < 2 ^ 63

/-- The message before anything was read from it. -/
def MsgBuff.msg (m : MsgBuff) : SaiagentMsg := ⟨some m.buff, m.size, m.payloadSize, none⟩

theorem MsgBuff.toNat_le (m : MsgBuff) : m.payloadSize.toNat ≤ m.size.toNat :=
  UInt64.le_iff_toNat_le.1 m.payload_le

/-- A pointer argument with its byte count: the object it points into is at least that long. -/
structure Item where
  object : List UInt8
  size : UInt64
  size_le : size.toNat ≤ object.length
  size_lt : size.toNat < 2 ^ 32

/-- The bytes a put takes. -/
def Item.bytes (i : Item) : List UInt8 := i.object.take i.size.toNat

theorem Item.length_bytes (i : Item) : i.bytes.length = i.size.toNat := by
  rw [Item.bytes, List.length_take]
  exact Nat.min_eq_left i.size_le

/-- The count of an item of whole words as the transfers' lemmas have it. -/
theorem Item.exists_words (i : Item) (h : 4 ∣ i.size.toNat) :
    ∃ n, i.size = UInt64.ofNat (4 * n) ∧ i.size.toNat = 4 * n ∧ 4 * n < 2 ^ 32 := by
  obtain ⟨n, hn⟩ := h
  exact ⟨n, by rw [← hn, UInt64.ofNat_toNat], hn, by rw [← hn]; exact i.size_lt⟩

/-- An item of whole words. -/
structure WordItem extends Item where
  words : 4 ∣ size.toNat

/-- A 32-bit variable. -/
def WordItem.ofU32 (v : UInt32) : WordItem where
  object := le32 v
  size := 4
  size_le := by simp
  size_lt := by decide
  words := by decide

/-! ### Operations on a message -/

/-- The calls of the message interface whose items are whole words. -/
inductive MsgOp where
  | putData (item : WordItem)
  | getData (item : WordItem)
  | typeSet (type : UInt32)
  /-- The argument is what the variable holds before. -/
  | typeGet (type : UInt32)
  | putU32 (val : UInt32)
  /-- The argument is what the variable holds before. -/
  | getU32 (val : UInt32)
  | clear

namespace MsgOp

/-- The object a get writes to, as it is before. -/
def object : MsgOp → List UInt8
  | getData item => item.object
  | typeGet type => le32 type
  | getU32 val => le32 val
  | _ => []

/-- One call: its status, the message and the object written to afterwards. -/
def call (msg : SaiagentMsg) : MsgOp → Except Fault (Rc × SaiagentMsg × List UInt8)
  | putData item => (saiagentMsgPutData msg item.object item.size).map fun r ↦ (r.1, r.2, [])
  | getData item => saiagentMsgGetData msg item.object item.size
  | typeSet type => (saiagentMsgTypeSet msg type).map fun r ↦ (r.1, r.2, [])
  | typeGet type => saiagentMsgTypeGet msg (le32 type)
  | putU32 val => (saiagentMsgPutU32 msg val).map fun r ↦ (r.1, r.2, [])
  | getU32 val => saiagentMsgGetU32 msg (le32 val)
  | clear => .ok (rcStatusOk, saiagentMsgClear msg, [])

/-- What the call means for a byte queue. -/
def meaning : MsgOp → Queue.Op UInt8
  | putData item => .put item.bytes
  | getData item => .get item.size.toNat
  | typeSet type => .put (le32 type)
  | typeGet _ => .get 4
  | putU32 val => .put (le32 val)
  | getU32 _ => .get 4
  | clear => .clear

/-- The answer of a call whose queue operation has this outcome: the bytes read go over the start
of the object. -/
def answer (op : MsgOp) : Option (List UInt8) → Rc × List UInt8
  | some bytes => (rcStatusOk, bytes ++ op.object.drop bytes.length)
  | none => (rcStatusErr, op.object)

/-- A sequence of calls: their answers and the message afterwards. -/
def callAll : SaiagentMsg → List MsgOp → Except Fault (List (Rc × List UInt8) × SaiagentMsg)
  | msg, [] => .ok ([], msg)
  | msg, op :: ops =>
    match op.call msg with
    | .error e => .error e
    | .ok (rc, msg', object) =>
      match callAll msg' ops with
      | .error e => .error e
      | .ok (answers, msg'') => .ok ((rc, object) :: answers, msg'')

/-- Each call is a put, a get or the clear. -/
theorem cases_call (op : MsgOp) :
    (∃ i : WordItem, op.meaning = .put i.bytes ∧ op.object = [] ∧ ∀ msg, op.call msg =
        (saiagentMsgPutData msg i.object i.size).map fun r ↦ (r.1, r.2, [])) ∨
      (∃ i : WordItem, op.meaning = .get i.size.toNat ∧ op.object = i.object ∧
        ∀ msg, op.call msg = saiagentMsgGetData msg i.object i.size) ∨ op = .clear := by
  cases op with
  | putData item => exact Or.inl ⟨item, rfl, rfl, fun _ ↦ rfl⟩
  | getData item => exact Or.inr (Or.inl ⟨item, rfl, rfl, fun _ ↦ rfl⟩)
  | typeSet type => exact Or.inl ⟨WordItem.ofU32 type, rfl, rfl, fun _ ↦ rfl⟩
  | typeGet type => exact Or.inr (Or.inl ⟨WordItem.ofU32 type, rfl, rfl, fun _ ↦ rfl⟩)
  | putU32 val => exact Or.inl ⟨WordItem.ofU32 val, rfl, rfl, fun _ ↦ rfl⟩
  | getU32 val => exact Or.inr (Or.inl ⟨WordItem.ofU32 val, rfl, rfl, fun _ ↦ rfl⟩)
  | clear => exact Or.inr (Or.inr rfl)

end MsgOp

/-! ### The simulation -/

/-- The message holds the contents of the queue, with its cursor at the queue's position. -/
structure Represents (msg : SaiagentMsg) {cap : ℕ} (q : Queue UInt8 cap) : Prop where
  buff : ∃ b, msg.buff = some b ∧ cap ≤ b.length ∧ b.length < 2 ^ 63 ∧
    b.take q.contents.length = q.contents
  size : msg.size.toNat = cap
  payloadSize : msg.payloadSize.toNat = q.contents.length
  tail : (msg.tail.getD 0).toNat = q.pos

variable {msg : SaiagentMsg} {cap : ℕ} {q : Queue UInt8 cap}

/-- The queue a message wraps. -/
def MsgBuff.queue (m : MsgBuff) : Queue UInt8 m.size.toNat where
  contents := m.buff.take m.payloadSize.toNat
  pos := 0
  pos_le := Nat.zero_le _
  length_le := by
    rw [List.length_take]
    exact Nat.le_trans (Nat.min_le_left _ _) m.toNat_le

theorem MsgBuff.represents (m : MsgBuff) : Represents m.msg m.queue := by
  have hlen : m.queue.contents.length = m.payloadSize.toNat := by
    show (m.buff.take m.payloadSize.toNat).length = _
    rw [List.length_take]
    exact Nat.min_eq_left (Nat.le_trans m.toNat_le m.size_le)
  refine ⟨⟨m.buff, rfl, m.size_le, m.length_lt, ?_⟩, rfl, hlen.symm, rfl⟩
  rw [hlen]
  rfl

/-- A put whose item does not fit is refused and changes nothing. -/
theorem saiagentMsgPutData_of_not_fits {b data : List UInt8} {size : UInt64}
    (hb : msg.buff = some b) (h : saiagentMsgPadsize size > msg.size - msg.payloadSize) :
    saiagentMsgPutData msg data size = .ok (rcStatusErr, msg) := by
  simp only [saiagentMsgPutData, hb, if_pos h]

/-- A get of more than is there is refused and changes nothing. -/
theorem saiagentMsgGetData_of_not_there {data : List UInt8} {size : UInt64}
    (h : msg.payloadSize = 0 ∨ msg.payloadSize < msg.tail.getD 0 + saiagentMsgPadsize size) :
    saiagentMsgGetData msg data size = .ok (rcStatusErr, msg, data) := by
  by_cases hzero : msg.payloadSize = 0
  · simp only [saiagentMsgGetData, if_pos hzero]
  · simp only [saiagentMsgGetData, if_neg hzero, if_pos (h.resolve_left hzero)]

/-- A put of words does to the message what it does to the queue. -/
theorem Represents.put (h : Represents msg q) (i : WordItem) :
    ∃ msg', saiagentMsgPutData msg i.object i.size =
        .ok (if (q.step (.put i.bytes)).1.isSome then rcStatusOk else rcStatusErr, msg') ∧
      Represents msg' (q.step (.put i.bytes)).2 := by
  obtain ⟨b, hb, hcap, hb63, hcontents⟩ := h.buff
  obtain ⟨n, hsize, hn, hlt⟩ := i.exists_words i.words
  have hle := q.length_le
  have hbytes : i.bytes = i.object.take (4 * n) := by rw [Item.bytes, hn]
  have hlen : i.bytes.length = 4 * n := by rw [Item.length_bytes, hn]
  by_cases hfit : q.contents.length + i.bytes.length ≤ cap
  · obtain ⟨hout, hq, hpos⟩ := Queue.step_put_of_fits hfit
    have hput := @saiagentMsgPutData_words _ _ i.object _ hb
      (UInt64.le_iff_toNat_le.2 (by rw [h.size, h.payloadSize]; exact hle))
        (by rw [h.size]; exact hcap)
      hlt (by rw [← hn]; exact i.size_le) (by rw [h.size, h.payloadSize, ← hlen]; exact hfit)
    -- Below the old end and above the new one the buffer is what it was.
    refine ⟨{ msg with
        buff := some (b.take msg.payloadSize.toNat ++ i.object.take (4 * n) ++
          b.drop (msg.payloadSize.toNat + 4 * n))
        payloadSize := msg.payloadSize + UInt64.ofNat (4 * n) },
      by rw [hsize, hput, hout]; rfl, ⟨_, rfl, ?_, ?_, ?_⟩, h.size, ?_, ?_⟩
    · simp only [List.length_append, List.length_take, List.length_drop, h.payloadSize, ← hbytes,
        hlen]
      omega
    · simp only [List.length_append, List.length_take, List.length_drop, h.payloadSize, ← hbytes,
        hlen]
      omega
    · rw [hq, h.payloadSize, hcontents, ← hbytes]
      exact List.take_left
    · show (msg.payloadSize + UInt64.ofNat (4 * n)).toNat = _
      rw [hq, List.length_append, hlen, UInt64.toNat_add, UInt64.toNat_ofNat', h.payloadSize]
      omega
    · rw [hpos]
      exact h.tail
  · refine ⟨msg, ?_, ?_⟩
    · rw [Queue.step_put_of_not_fits hfit]
      refine saiagentMsgPutData_of_not_fits hb ?_
      rw [hsize, saiagentMsgPadsize_words hlt, gt_iff_lt, UInt64.lt_iff_toNat_lt, UInt64.toNat_sub,
        UInt64.toNat_ofNat', h.size, h.payloadSize]
      omega
    · rw [Queue.step_put_of_not_fits hfit]
      exact h

/-- A get of words returns from the message what it returns from the queue. -/
theorem Represents.get (h : Represents msg q) (i : WordItem) :
    ∃ msg', saiagentMsgGetData msg i.object i.size =
        .ok (match (q.step (.get i.size.toNat)).1 with
          | some bytes => (rcStatusOk, msg', bytes ++ i.object.drop bytes.length)
          | none => (rcStatusErr, msg', i.object)) ∧
      Represents msg' (q.step (.get i.size.toNat)).2 := by
  obtain ⟨b, hb, hcap, hb63, hcontents⟩ := h.buff
  obtain ⟨n, hsize, hn, hlt⟩ := i.exists_words i.words
  have hle := q.length_le
  have hpos_le := q.pos_le
  have hempty : q.contents ≠ [] ↔ msg.payloadSize ≠ 0 := by
    rw [← List.length_pos_iff, ← h.payloadSize, Ne, ← UInt64.toNat_inj]
    exact Nat.pos_iff_ne_zero
  by_cases hthere : q.contents ≠ [] ∧ q.pos + i.size.toNat ≤ q.contents.length
  · obtain ⟨hout, hq, hpos⟩ := Queue.step_get_of_available hthere
    have hget := @saiagentMsgGetData_words _ _ i.object _ hb (by rw [h.payloadSize]; omega) hb63 hlt
      (by rw [← hn]; exact i.size_le) (hempty.1 hthere.1)
      (by rw [h.tail, h.payloadSize, ← hn]; exact hthere.2)
    -- the bytes at the cursor are the unread ones: all of them lie in the payload
    have hunread : (b.drop q.pos).take (4 * n) = q.unread.take (4 * n) := by
      rw [Queue.unread, ← hcontents, List.drop_take, List.take_take]
      congr 1
      omega
    have hlen : (q.unread.take (4 * n)).length = 4 * n := by
      rw [Queue.unread, List.length_take, List.length_drop]
      omega
    refine ⟨{ msg with tail := some (msg.tail.getD 0 + UInt64.ofNat (4 * n)) }, ?_,
      ⟨b, hb, hcap, hb63, by rw [hq]; exact hcontents⟩, h.size, ?_, ?_⟩
    · rw [hsize, hget, ← hsize, hout, h.tail, hunread, hn]
      simp only [hlen]
      rfl
    · rw [hq]
      exact h.payloadSize
    · show (msg.tail.getD 0 + UInt64.ofNat (4 * n)).toNat = _
      rw [hpos, UInt64.toNat_add, UInt64.toNat_ofNat', h.tail, hn]
      omega
  · refine ⟨msg, ?_, ?_⟩
    · rw [Queue.step_get_of_not_available hthere]
      refine saiagentMsgGetData_of_not_there ?_
      by_cases hne : q.contents = []
      · exact Or.inl (not_not.1 fun hp ↦ hempty.2 hp hne)
      · have hshort : ¬q.pos + i.size.toNat ≤ q.contents.length := fun hs ↦ hthere ⟨hne, hs⟩
        refine Or.inr ?_
        rw [hsize, saiagentMsgPadsize_words hlt, UInt64.lt_iff_toNat_lt, UInt64.toNat_add,
          UInt64.toNat_ofNat', h.tail, h.payloadSize]
        omega
    · rw [Queue.step_get_of_not_available hthere]
      exact h

theorem Represents.clear (h : Represents msg q) :
    Represents (saiagentMsgClear msg) (q.step .clear).2 := by
  obtain ⟨b, hb, hcap, hb63, -⟩ := h.buff
  exact ⟨⟨b, hb, hcap, hb63, rfl⟩, h.size, rfl, rfl⟩

/-- **The step of the simulation.** -/
theorem represents_step (h : Represents msg q) (op : MsgOp) :
    ∃ msg', op.call msg =
        .ok ((op.answer (q.step op.meaning).1).1, msg', (op.answer (q.step op.meaning).1).2) ∧
      Represents msg' (q.step op.meaning).2 := by
  obtain ⟨i, hmeaning, hobject, hcall⟩ | ⟨i, hmeaning, hobject, hcall⟩ | rfl := op.cases_call
  · obtain ⟨msg', hput, hrep⟩ := h.put i
    refine ⟨msg', ?_, by rw [hmeaning]; exact hrep⟩
    rw [hcall, hput, hmeaning]
    by_cases hfit : q.contents.length + i.bytes.length ≤ cap
    · rw [(Queue.step_put_of_fits hfit).1]
      simp only [MsgOp.answer, hobject, List.nil_append, List.drop_nil]
      rfl
    · rw [Queue.step_put_of_not_fits hfit]
      simp only [MsgOp.answer, hobject]
      rfl
  · obtain ⟨msg', hget, hrep⟩ := h.get i
    refine ⟨msg', ?_, by rw [hmeaning]; exact hrep⟩
    rw [hcall, hget, hmeaning]
    rcases (q.step (.get i.size.toNat)).1 with _ | bytes
    · simp only [MsgOp.answer, hobject]
    · simp only [MsgOp.answer, hobject]
  · exact ⟨saiagentMsgClear msg, rfl, h.clear⟩

/-- **The run of the simulation**, by induction over the calls. -/
theorem represents_run (h : Represents msg q) (ops : List MsgOp) :
    ∃ msg', MsgOp.callAll msg ops =
        .ok (List.zipWith MsgOp.answer ops ((q.run (ops.map MsgOp.meaning)).1.map Prod.snd), msg') ∧
      Represents msg' (q.run (ops.map MsgOp.meaning)).2 := by
  induction ops generalizing msg q with
  | nil => exact ⟨msg, rfl, h⟩
  | cons op ops ih =>
    obtain ⟨msg₁, hcall, hrep⟩ := represents_step h op
    obtain ⟨msg', hrest, hrep'⟩ := ih hrep
    exact ⟨msg', by simp only [MsgOp.callAll, hcall, hrest, List.map_cons, Queue.run_cons,
      List.zipWith_cons_cons], hrep'⟩

/-- **The message buffer is a byte queue.** Any sequence of calls runs to its end with the answers
of the queue the message wraps, the message represents that queue afterwards, and what is read after
the last clear, followed by what is still unread, is what was unread at that point followed by what
was put. -/
theorem msgQueue (m : MsgBuff) (ops : List MsgOp) :
    ∃ msg', MsgOp.callAll m.msg ops =
        .ok (List.zipWith MsgOp.answer ops ((m.queue.run (ops.map MsgOp.meaning)).1.map Prod.snd),
          msg') ∧
      Represents msg' (m.queue.run (ops.map MsgOp.meaning)).2 ∧
      msg'.payloadSize ≤ msg'.size ∧ msg'.tail.getD 0 ≤ msg'.payloadSize ∧
      ∀ before after, ops = before ++ after → (∀ op ∈ after, op ≠ .clear) →
        let q := (m.queue.run (before.map MsgOp.meaning)).2
        let history := q.run (after.map MsgOp.meaning)
        q.unread ++ history.1.flatMap Queue.itemsPut =
          history.1.flatMap Queue.itemsRead ++ (m.queue.run (ops.map MsgOp.meaning)).2.unread := by
  obtain ⟨msg', hcall, hrep⟩ := represents_run m.represents ops
  refine ⟨msg', hcall, hrep, ?_, ?_, ?_⟩
  · rw [UInt64.le_iff_toNat_le, hrep.payloadSize, hrep.size]
    exact Queue.length_le _
  · rw [UInt64.le_iff_toNat_le, hrep.payloadSize, hrep.tail]
    exact Queue.pos_le _
  · rintro before after rfl hclear
    -- Only a clear takes back bytes that were put.
    have hmeaning : ∀ op ∈ after.map MsgOp.meaning, op ≠ .clear := by
      intro op hop
      obtain ⟨o, ho, rfl⟩ := List.mem_map.1 hop
      have hne := hclear o ho
      cases o with
      | clear => exact absurd rfl hne
      | putData _ | getData _ | typeSet _ | typeGet _ | putU32 _ | getU32 _ =>
        intro h
        cases h
    have hlast : (m.queue.run ((before ++ after).map MsgOp.meaning)).2 =
        ((m.queue.run (before.map MsgOp.meaning)).2.run (after.map MsgOp.meaning)).2 := by
      rw [List.map_append, Queue.run_append]
    dsimp only
    rw [hlast]
    exact Queue.run_conserves _ hmeaning

/-! ### Items of any length -/

/-- A message that may have been read from: its cursor is in its buffer. -/
structure CursoredMsg extends MsgBuff where
  tail : Option UInt64
  tail_le : (tail.getD 0).toNat ≤ buff.length

/-- The message itself. -/
def CursoredMsg.message (m : CursoredMsg) : SaiagentMsg :=
  ⟨some m.buff, m.size, m.payloadSize, m.tail⟩

/-- A length rounded up to a multiple of 4. -/
def roundedUp (n : ℕ) : ℕ := (n + 3) / 4 * 4

/-- The put returns, and where it succeeds the item stands behind the payload, padded with zeros
to a multiple of 4, and nothing else was written. -/
def PutStaysInside (m : CursoredMsg) (item : Item) : Prop :=
  ∃ rc msg', saiagentMsgPutData m.message item.object item.size = .ok (rc, msg') ∧
    (rc = rcStatusOk → msg' = { m.message with
      buff := some (m.buff.take m.payloadSize.toNat ++
        (item.bytes ++ List.replicate (roundedUp item.size.toNat - item.size.toNat) 0) ++
        m.buff.drop (m.payloadSize.toNat + roundedUp item.size.toNat))
      payloadSize := m.payloadSize + UInt64.ofNat (roundedUp item.size.toNat) })

/-- The get returns, and where it succeeds it wrote the item's bytes of the destination, no others,
and the cursor moved by the item's rounded length. -/
def GetStaysInside (m : CursoredMsg) (item : Item) : Prop :=
  ∃ rc msg' object', saiagentMsgGetData m.message item.object item.size = .ok (rc, msg', object') ∧
    (rc = rcStatusOk →
      object' = (m.buff.drop (m.tail.getD 0).toNat).take item.size.toNat ++
        item.object.drop item.size.toNat ∧
      msg' = { m.message with
        tail := some (m.tail.getD 0 + UInt64.ofNat (roundedUp item.size.toNat)) })

theorem roundedUp_of_dvd {n : ℕ} (h : 4 ∣ n) : roundedUp n = n := by
  rw [roundedUp]
  omega

/-- What is refused for want of room or of bytes ends inside its item, whatever its length. -/
theorem putStaysInside_of_not_fits {m : CursoredMsg} {item : Item}
    (h : saiagentMsgPadsize item.size > m.size - m.payloadSize) : PutStaysInside m item :=
  ⟨rcStatusErr, m.message, saiagentMsgPutData_of_not_fits rfl h, fun h ↦ absurd h (by decide)⟩

theorem getStaysInside_of_not_there {m : CursoredMsg} {item : Item}
    (h : m.payloadSize = 0 ∨ m.payloadSize < m.tail.getD 0 + saiagentMsgPadsize item.size) :
    GetStaysInside m item :=
  ⟨rcStatusErr, m.message, item.object, saiagentMsgGetData_of_not_there h,
    fun h ↦ absurd h (by decide)⟩

/-- An item of whole words is put and got inside its objects. -/
theorem putStaysInside_of_dvd {m : CursoredMsg} {item : Item} (h : 4 ∣ item.size.toNat) :
    PutStaysInside m item := by
  by_cases hfit : saiagentMsgPadsize item.size > m.size - m.payloadSize
  · exact putStaysInside_of_not_fits hfit
  · obtain ⟨n, hsize, hn, hlt⟩ := item.exists_words h
    have hle := m.toNat_le
    have hsub : (m.size - m.payloadSize).toNat = m.size.toNat - m.payloadSize.toNat :=
      UInt64.toNat_sub_of_le _ _ m.payload_le
    have hroom : m.payloadSize.toNat + 4 * n ≤ m.size.toNat := by
      rw [hsize, saiagentMsgPadsize_words hlt, gt_iff_lt, UInt64.lt_iff_toNat_lt,
        hsub, UInt64.toNat_ofNat'] at hfit
      omega
    have hput := @saiagentMsgPutData_words m.message _ item.object _ rfl m.payload_le
      m.size_le hlt (by rw [← hn]; exact item.size_le) hroom
    refine ⟨_, _, by rw [hsize]; exact hput, fun _ ↦ ?_⟩
    rw [roundedUp_of_dvd h, Nat.sub_self, List.replicate_zero, List.append_nil, Item.bytes,
      hn]
    rfl

theorem getStaysInside_of_dvd {m : CursoredMsg} {item : Item} (h : 4 ∣ item.size.toNat) :
    GetStaysInside m item := by
  by_cases hthere :
      m.payloadSize = 0 ∨ m.payloadSize < m.tail.getD 0 + saiagentMsgPadsize item.size
  · exact getStaysInside_of_not_there hthere
  · obtain ⟨n, hsize, hn, hlt⟩ := item.exists_words h
    obtain ⟨hne, hle⟩ := not_or.1 hthere
    have htail := m.tail_le
    have hlength := m.length_lt
    have hend : (m.tail.getD 0).toNat + 4 * n ≤ m.payloadSize.toNat := by
      rw [hsize, saiagentMsgPadsize_words hlt, UInt64.lt_iff_toNat_lt,
        UInt64.toNat_add, UInt64.toNat_ofNat'] at hle
      omega
    have hget := @saiagentMsgGetData_words m.message _ item.object _ rfl
      (Nat.le_trans m.toNat_le m.size_le) hlength hlt (by rw [← hn]; exact item.size_le) hne hend
    refine ⟨_, _, _, by rw [hsize]; exact hget, fun _ ↦ ?_⟩
    rw [roundedUp_of_dvd h, hn]
    exact ⟨rfl, rfl⟩

/-- **Where the transfers end inside their items.** An item that is not a whole number of words
must be refused by the length test: its copy would never end. -/
theorem transfers_iff (m : CursoredMsg) (item : Item) :
    (PutStaysInside m item ↔
      4 ∣ item.size.toNat ∨ saiagentMsgPadsize item.size > m.size - m.payloadSize) ∧
    (GetStaysInside m item ↔
      4 ∣ item.size.toNat ∨ m.payloadSize = 0 ∨
        m.payloadSize < m.tail.getD 0 + saiagentMsgPadsize item.size) := by
  constructor
  · constructor
    · rintro ⟨rc, msg', hput, -⟩
      by_contra hnot
      obtain ⟨hdvd, hfit⟩ := not_or.1 hnot
      have hmod : item.size.toNat % 4 ≠ 0 := fun h ↦ hdvd (Nat.dvd_of_mod_eq_zero h)
      simp only [saiagentMsgPutData, CursoredMsg.message, if_neg hfit,
        saiagentBufCopy32_of_mod_ne hmod] at hput
      cases hput
    · rintro (h | h)
      · exact putStaysInside_of_dvd h
      · exact putStaysInside_of_not_fits h
  · constructor
    · rintro ⟨rc, msg', object', hget, -⟩
      by_contra hnot
      obtain ⟨hdvd, hthere⟩ := not_or.1 hnot
      obtain ⟨hne, hle⟩ := not_or.1 hthere
      have hmod : item.size.toNat % 4 ≠ 0 := fun h ↦ hdvd (Nat.dvd_of_mod_eq_zero h)
      simp only [saiagentMsgGetData, CursoredMsg.message, if_neg hne, if_neg hle,
        saiagentBufCopy32_of_mod_ne hmod] at hget
      cases hget
    · rintro (h | h)
      · exact getStaysInside_of_dvd h
      · exact getStaysInside_of_not_there h

/-- An empty message as `saiagent_msg_create` makes it. -/
def emptyMsg : CursoredMsg where
  buff := List.replicate saiagentMsgMaxSize 0
  size := UInt64.ofNat saiagentMsgMaxSize
  payloadSize := 0
  payload_le := by decide
  size_le := by
    rw [List.length_replicate]
    decide
  length_lt := by
    rw [List.length_replicate]
    decide
  tail := none
  tail_le := Nat.zero_le _

/-- The item of `saiagent_msg_put_u8`. -/
def byteItem (val : UInt8) : Item := ⟨[val], 1, Nat.le_refl 1, by decide⟩

/-- `saiagent_msg_put_u8` never returns from an empty message. -/
theorem putU8_runs_away : ¬∀ (m : CursoredMsg) (item : Item),
    PutStaysInside m item ∧ GetStaysInside m item := by
  intro h
  obtain ⟨rc, msg', hput, -⟩ := (h emptyMsg (byteItem 7)).1
  have hrun : saiagentMsgPutU8 emptyMsg.message 7 = .error .outOfBounds := by decide
  rw [saiagentMsgPutU8] at hrun
  cases hrun.symm.trans hput

end SaiAgent
