import SaiAgent.Properties.ByteQueue
import SaiAgent.Properties.Delivery
import Mathlib.Algebra.GroupWithZero.Nat

/-!
# A message from its builder to its reader

A message is created, filled by puts, sent, received into the loop's buffer and read. The builder
admits a payload up to the whole buffer and the receive callback only a shorter one:
`roundTrips_iff` says that what was built comes back item by item exactly when it is shorter than
`SAIAGENT_MSG_MAX_SIZE`.
-/

namespace SaiAgent

open Effects Effects.Bytes

variable {type : UInt32} {items : List (List UInt8)} {m : SaiagentMsg}

/-! ### Built messages -/

/-- The messages `saiagent_msg_create` and successful puts of whole words make, with the items
put. -/
inductive Built (type : UInt32) : List (List UInt8) → SaiagentMsg → Prop
  | create {buff : MsgBuffer} {m : SaiagentMsg} :
      saiagentMsgCreate true (some buff) type = .ok (some m) → Built type [] m
  | put {items : List (List UInt8)} {m m' : SaiagentMsg} {data : List UInt8} {size : UInt64} :
      Built type items m → 4 ∣ size.toNat →
        saiagentMsgPutData m data size = .ok (rcStatusOk, m') →
          Built type (items ++ [data.take size.toNat]) m'

/-- The messages whose buffer has room for the largest message, and what they represent. -/
structure Holds (m : SaiagentMsg) (bytes : List UInt8) : Prop where
  buff : ∃ b, m.buff = some b ∧ b.length = saiagentMsgMaxSize
  queue : ∃ q : Queue UInt8 saiagentMsgMaxSize,
    Represents m q ∧ q.contents = bytes ∧ q.pos = 0

variable {bytes : List UInt8} {m' : SaiagentMsg}

/-- The message `saiagent_msg_create` puts the type into. -/
theorem holds_empty (buff : MsgBuffer) :
    Holds ⟨some buff.bytes, UInt64.ofNat saiagentMsgMaxSize, 0, none⟩ [] := by
  have hlen := buff.length_eq
  have hmax : (UInt64.ofNat saiagentMsgMaxSize).toNat = saiagentMsgMaxSize := by decide
  refine ⟨⟨buff.bytes, rfl, hlen⟩, Queue.empty, ⟨⟨buff.bytes, rfl, ?_, ?_, rfl⟩, hmax, rfl, rfl⟩,
    rfl, rfl⟩
  · exact Nat.le_of_eq hlen.symm
  · rw [hlen]
    decide

/-- **A successful put of words** appends them to what the message holds. -/
theorem Holds.put {data : List UInt8} {size : UInt64} (h : Holds m bytes) (hwords : 4 ∣ size.toNat)
    (hput : saiagentMsgPutData m data size = .ok (rcStatusOk, m')) :
    Holds m' (bytes ++ data.take size.toNat) ∧ size.toNat ≤ data.length := by
  obtain ⟨⟨b, hb, hlen⟩, q, hrep, hcontents, hpos⟩ := h
  obtain ⟨b₁, b', hb₁, hb', hdata, hsize, hkeep⟩ := exists_of_saiagentMsgPutData hput
  obtain rfl := Option.some.inj (hb.symm.trans hb₁)
  have hlt : size.toNat < 2 ^ 32 := by
    rw [hlen] at hsize
    exact Nat.lt_of_le_of_lt hsize (by decide)
  have hle : m.payloadSize.toNat ≤ b.length := by
    rw [hrep.payloadSize, hlen]
    exact q.length_le
  let i : WordItem := ⟨⟨data, size, hdata, hlt⟩, hwords⟩
  obtain ⟨msg₁, hstep, hrep₁⟩ := hrep.put i
  rcases Nat.lt_or_ge saiagentMsgMaxSize (q.contents.length + i.bytes.length) with hfull | hfit
  · rw [Queue.step_put_of_not_fits (Nat.not_le.2 hfull)] at hstep
    cases hput.symm.trans hstep
  · obtain ⟨hout, hcontents₁, hpos₁⟩ := Queue.step_put_of_fits hfit
    rw [hout] at hstep
    cases hput.symm.trans hstep
    refine ⟨⟨⟨b', hb', (hkeep hle).trans hlen⟩, _, hrep₁, ?_, hpos₁.trans hpos⟩, hdata⟩
    rw [hcontents₁, hcontents]
    rfl

/-- What `saiagent_msg_create` returns holds the type. -/
theorem holds_create {buff : MsgBuffer}
    (h : saiagentMsgCreate true (some buff) type = .ok (some m)) : Holds m (le32 type) := by
  have hempty := holds_empty buff
  obtain ⟨q, hrep, hcontents, -⟩ := hempty.queue
  obtain ⟨m₁, hput, -⟩ := hrep.put (WordItem.ofU32 type)
  have hfit : q.contents.length + (WordItem.ofU32 type).bytes.length ≤ saiagentMsgMaxSize := by
    rw [hcontents, Item.length_bytes]
    show 0 + 4 ≤ 1500
    decide
  rw [(Queue.step_put_of_fits hfit).1] at hput
  replace hput : saiagentMsgPutData ⟨some buff.bytes, UInt64.ofNat saiagentMsgMaxSize, 0, none⟩
      (le32 type) 4 = .ok (rcStatusOk, m₁) := hput
  have hm : m₁ = m := by
    rw [saiagentMsgCreate, saiagentMsgTypeSet, hput] at h
    cases h
    rfl
  obtain rfl := hm
  have hheld := (hempty.put (by decide) hput).1
  have htake : (le32 type).take (4 : UInt64).toNat = le32 type :=
    List.take_of_length_le (Nat.le_of_eq (length_le32 type))
  rwa [List.nil_append, htake] at hheld

/-- **What a built message holds**: its type and its items. -/
theorem Built.holds (h : Built type items m) :
    Holds m (le32 type ++ items.flatten) ∧ ∀ item ∈ items, 4 ∣ item.length := by
  induction h with
  | create hcreate =>
    rw [List.flatten_nil, List.append_nil]
    exact ⟨holds_create hcreate, fun item hitem ↦ absurd hitem List.not_mem_nil⟩
  | @put items m m' data size _ hwords hput ih =>
    obtain ⟨hheld, hdata⟩ := ih.1.put hwords hput
    refine ⟨?_, ?_⟩
    · rwa [List.flatten_append, List.flatten_singleton, ← List.append_assoc]
    · intro item hitem
      rcases List.mem_append.1 hitem with hold | hnew
      · exact ih.2 item hold
      · obtain rfl := List.mem_singleton.1 hnew
        rwa [List.length_take, Nat.min_eq_left hdata]

/-! ### Reading items back -/

/-- The items are what gets of their lengths return one after another, whatever the objects they
are written to held. -/
def ReadsBack : SaiagentMsg → List (List UInt8) → Prop
  | _, [] => True
  | msg, item :: items => ∀ object : List UInt8, item.length ≤ object.length →
      ∃ msg', saiagentMsgGetData msg object (UInt64.ofNat item.length) =
          .ok (rcStatusOk, msg', item ++ object.drop item.length) ∧
        ReadsBack msg' items

/-- **Reading back** what a message holds unread, item by item. The induction is over the items; the
position in the queue is what the items before took. -/
theorem readsBack_of_represents {cap : ℕ} (items : List (List UInt8)) :
    ∀ {msg : SaiagentMsg} {q : Queue UInt8 cap}, Represents msg q → q.contents ≠ [] →
      q.unread = items.flatten → (∀ item ∈ items, 4 ∣ item.length ∧ item.length < 2 ^ 32) →
        ReadsBack msg items := by
  induction items with
  | nil => exact fun _ _ _ _ ↦ trivial
  | cons item items ih =>
    intro msg q hrep hne hunread hitems object hobject
    obtain ⟨hwords, hlt⟩ := hitems item List.mem_cons_self
    have hsize : (UInt64.ofNat item.length).toNat = item.length := by
      rw [UInt64.toNat_ofNat']
      omega
    let i : WordItem := ⟨⟨object, UInt64.ofNat item.length, by rwa [hsize], by rwa [hsize]⟩,
      by rwa [hsize]⟩
    rw [List.flatten_cons] at hunread
    have hthere : q.contents ≠ [] ∧ q.pos + item.length ≤ q.contents.length := by
      have hlen := congrArg List.length hunread
      have hpos := q.pos_le
      rw [Queue.unread, List.length_drop, List.length_append] at hlen
      exact ⟨hne, by omega⟩
    obtain ⟨hout, hcontents, hpos⟩ := Queue.step_get_of_available hthere
    obtain ⟨msg', hget, hrep'⟩ := hrep.get i
    have hi : i.size.toNat = item.length := hsize
    rw [hi, hout, hunread, List.take_left] at hget
    rw [hi] at hrep'
    refine ⟨msg', hget, ih hrep' (by rwa [hcontents]) ?_ fun it hit ↦
      hitems it (List.mem_cons_of_mem item hit)⟩
    rw [Queue.unread, hcontents, hpos, ← List.drop_drop, ← Queue.unread, hunread, List.drop_left]

/-! ### From the builder to the reader -/

/-- What netlink hands over of a message: one that parses, with the attribute that was sent. -/
structure Delivers (sent : NlSent) (msg : NlMsg) : Prop where
  parses : ¬msg.genlmsgParse < 0
  tlv : msg.tlv.map Tlv.bytes = sent.tlv

/-- The loop's receive record: a buffer of `SAIAGENT_MSG_MAX_SIZE` bytes. -/
structure LoopRecord (recv : SaiagentNlRecvMsg) : Prop where
  size : recv.size = UInt64.ofNat saiagentMsgMaxSize
  length : recv.buf.length = saiagentMsgMaxSize

/-- **The round trip** of a message: it is sent, the receive callback accepts it, the record has
its size and bytes, and the type and the items are read back from it. -/
structure RoundTrips (type : UInt32) (items : List (List UInt8)) (m : SaiagentMsg) (status : Rc)
    (received : SaiagentNlRecvMsg) : Prop where
  sent : status = rcStatusOk
  accepted : received.err = rcStatusOk
  payloadSize : received.payloadSize = m.payloadSize
  payload : received.buf.take received.payloadSize.toNat = m.payload
  readsBack : ReadsBack (requestMsg received.buf received.payloadSize) (le32 type :: items)

/-- A payload is sent whatever its length, where the library calls succeed. -/
theorem saiagentIpcSend_of_works {o : SendOutcome} (ho : o.Works) {buf : List UInt8}
    {size : UInt64} (hsize : size > 0) (sendType : SaiagentNlType) (pid seq : UInt32) :
    saiagentIpcSend o (some buf) size sendType pid seq =
      (rcStatusOk, some ⟨sendType, pid, seq, some (buf.take size.toNat)⟩) := by
  obtain ⟨halloc, hput, hnla, hauto⟩ := ho
  simp only [saiagentIpcSend, halloc, hput, hnla, if_pos hsize, if_neg hauto, Option.map_some,
    Bool.not_true, Bool.false_eq_true, if_false, ne_eq, not_true_eq_false, and_false]

/-- The payload of a message, and its length. -/
theorem Holds.payload (h : Holds m bytes) :
    m.payload = bytes ∧ m.payloadSize.toNat = bytes.length ∧ bytes.length ≤ saiagentMsgMaxSize := by
  obtain ⟨q, ⟨⟨b, hb, -, -, htake⟩, -, hpayload, -⟩, rfl, -⟩ := h.queue
  refine ⟨?_, hpayload, q.length_le⟩
  rw [SaiagentMsg.payload, hb, Option.getD_some, hpayload, htake]

variable {recv : SaiagentNlRecvMsg} {msg : NlMsg} {tlv : Tlv}

/-- The callback refuses a payload that fills the record's buffer. -/
theorem err_of_full (hrecv : LoopRecord recv) (hparse : ¬msg.genlmsgParse < 0)
    (htlv : msg.tlv = some tlv) (hfull : saiagentMsgMaxSize ≤ tlv.bytes.length) :
    (nlIpcHandleRecvMsgCb recv msg).err = rcStatusErr := by
  have hge : UInt64.ofNat tlv.bytes.length ≥ recv.size := by
    have := tlv.length_lt
    rw [hrecv.size, ge_iff_le, UInt64.le_iff_toNat_le, UInt64.toNat_ofNat', UInt64.toNat_ofNat']
    omega
  simp only [nlIpcHandleRecvMsgCb, if_neg hparse, htlv, if_pos hge]

/-- **What the callback leaves of a shorter payload** is read back item by item. -/
theorem received_of_short (hrecv : LoopRecord recv) (hparse : ¬msg.genlmsgParse < 0)
    (htlv : msg.tlv = some tlv) (hshort : tlv.bytes.length < saiagentMsgMaxSize)
    {items : List (List UInt8)} (hbytes : tlv.bytes = items.flatten) (hne : tlv.bytes ≠ [])
    (hitems : ∀ item ∈ items, 4 ∣ item.length) :
    (nlIpcHandleRecvMsgCb recv msg).err = rcStatusOk ∧
      (nlIpcHandleRecvMsgCb recv msg).payloadSize = UInt64.ofNat tlv.bytes.length ∧
      (nlIpcHandleRecvMsgCb recv msg).buf.take tlv.bytes.length = tlv.bytes ∧
      ReadsBack (requestMsg (nlIpcHandleRecvMsgCb recv msg).buf
        (nlIpcHandleRecvMsgCb recv msg).payloadSize) items := by
  have hlen : (UInt64.ofNat tlv.bytes.length).toNat = tlv.bytes.length := by
    rw [UInt64.toNat_ofNat']
    exact Nat.mod_eq_of_lt (Nat.lt_trans hshort (by decide))
  have hlt : ¬UInt64.ofNat tlv.bytes.length ≥ recv.size := by
    have hmax : (UInt64.ofNat saiagentMsgMaxSize).toNat = saiagentMsgMaxSize := by decide
    rw [hrecv.size, ge_iff_le, UInt64.le_iff_toNat_le, hlen, hmax]
    exact Nat.not_le.2 hshort
  simp only [nlIpcHandleRecvMsgCb, if_neg hparse, htlv, if_neg hlt, true_and]
  refine ⟨List.take_left, ?_⟩
  have hbuf : (tlv.bytes ++ recv.buf.drop tlv.bytes.length).length = saiagentMsgMaxSize := by
    rw [List.length_append, List.length_drop, hrecv.length]
    omega
  -- the request wraps the received bytes, which represent them all unread
  let request : MsgBuff :=
    { buff := tlv.bytes ++ recv.buf.drop tlv.bytes.length
      size := UInt64.ofNat tlv.bytes.length
      payloadSize := UInt64.ofNat tlv.bytes.length
      payload_le := UInt64.le_refl _
      size_le := by
        rw [hlen, hbuf]
        exact Nat.le_of_lt hshort
      length_lt := by
        rw [hbuf]
        decide }
  have hcontents : request.queue.contents = tlv.bytes := by
    show (tlv.bytes ++ recv.buf.drop tlv.bytes.length).take
      (UInt64.ofNat tlv.bytes.length).toNat = _
    rw [hlen]
    exact List.take_left
  refine readsBack_of_represents items request.represents ?_ ?_ fun item hitem ↦
    ⟨hitems item hitem, ?_⟩
  · rwa [hcontents]
  · rw [← hbytes]
    exact hcontents
  · have hle : item.length ≤ items.flatten.length :=
      (List.sublist_flatten_of_mem hitem).length_le
    rw [← hbytes] at hle
    exact Nat.lt_of_le_of_lt hle (Nat.lt_trans hshort (by decide))

/-- A built message as the callback may see it. -/
def Built.delivered (h : Built type items m) (pid seq : UInt32) : NlMsg where
  genlmsgParse := 0
  tlv := some ⟨le32 type ++ items.flatten,
    Nat.lt_of_le_of_lt h.holds.1.payload.2.2 (by decide)⟩
  pid := pid
  seq := seq

/-- What is sent of a built message is its type and its items. -/
theorem Built.tlv_sent (h : Built type items m) {o : SendOutcome} (ho : o.Works)
    (sendType : SaiagentNlType) (pid seq : UInt32) :
    saiagentIpcSend o m.buff m.payloadSize sendType pid seq =
      (rcStatusOk, some ⟨sendType, pid, seq, some (le32 type ++ items.flatten)⟩) := by
  obtain ⟨hheld, -⟩ := h.holds
  obtain ⟨hpayload, hsize, -⟩ := hheld.payload
  obtain ⟨b, hb, -⟩ := hheld.buff
  have hpos : m.payloadSize > 0 := by
    rw [gt_iff_lt, UInt64.lt_iff_toNat_lt, hsize, List.length_append, length_le32]
    show 0 < _
    omega
  rw [hb, saiagentIpcSend_of_works ho hpos, ← hpayload, SaiagentMsg.payload, hb, Option.getD_some]

theorem Built.delivers (h : Built type items m) {o : SendOutcome} (ho : o.Works)
    (sendType : SaiagentNlType) (pid seq : UInt32) {sent : NlSent}
    (hsent : (saiagentIpcSend o m.buff m.payloadSize sendType pid seq).2 = some sent) :
    Delivers sent (h.delivered pid seq) := by
  rw [h.tlv_sent ho] at hsent
  cases hsent
  exact ⟨show ¬(0 : Int32) < 0 by decide, rfl⟩

/-- A built message that fills its buffer is refused. -/
theorem Built.refused (h : Built type items m) (pid seq : UInt32) (hrecv : LoopRecord recv)
    (hfull : saiagentMsgMaxSize ≤ (le32 type ++ items.flatten).length) :
    (nlIpcHandleRecvMsgCb recv (h.delivered pid seq)).err = rcStatusErr :=
  err_of_full hrecv (show ¬(0 : Int32) < 0 by decide) rfl hfull

/-- **The builder and the receiver agree but on a full buffer.** Whatever was built and sent, with
the attribute delivered unchanged, is received and read back item by item exactly when type
and items leave a byte of the buffer free. -/
theorem roundTrips_iff (h : Built type items m) {o : SendOutcome} (ho : o.Works)
    (sendType : SaiagentNlType) (pid seq : UInt32)
    (hmsg : ∀ sent, (saiagentIpcSend o m.buff m.payloadSize sendType pid seq).2 = some sent →
      Delivers sent msg) (hrecv : LoopRecord recv) :
    RoundTrips type items m (saiagentIpcSend o m.buff m.payloadSize sendType pid seq).1
        (nlIpcHandleRecvMsgCb recv msg) ↔
      4 + (items.map List.length).sum < saiagentMsgMaxSize := by
  obtain ⟨hheld, hitems⟩ := h.holds
  obtain ⟨hpayload, hsize, hle⟩ := hheld.payload
  have hlength : (le32 type ++ items.flatten).length = 4 + (items.map List.length).sum := by
    rw [List.length_append, length_le32, List.length_flatten]
  rw [h.tlv_sent ho] at hmsg ⊢
  obtain ⟨hparse, htlv⟩ := hmsg _ rfl
  obtain ⟨tlv, htlv, hbytes⟩ := Option.map_eq_some_iff.1 htlv
  rw [← hlength, ← hbytes]
  constructor
  · -- A full payload is refused by the receiver's comparison.
    intro hround
    rcases Nat.lt_or_ge tlv.bytes.length saiagentMsgMaxSize with hshort | hfull
    · exact hshort
    · exact absurd ((err_of_full hrecv hparse htlv hfull).symm.trans hround.accepted) (by decide)
  · intro hshort
    have hne : tlv.bytes ≠ [] := by
      intro hnil
      rw [← hbytes, hnil] at hlength
      have hzero : 0 = 4 + (items.map List.length).sum := hlength
      omega
    have hall : ∀ item ∈ le32 type :: items, 4 ∣ item.length :=
      List.forall_mem_cons.2 ⟨⟨1, length_le32 type⟩, hitems⟩
    have hflat : tlv.bytes = (le32 type :: items).flatten := by
      rw [hbytes, List.flatten_cons]
    obtain ⟨herr, hpsize, hbuf, hread⟩ :=
      received_of_short hrecv hparse htlv hshort hflat hne hall
    have hsame : UInt64.ofNat tlv.bytes.length = m.payloadSize := by
      rw [hbytes, ← hsize, UInt64.ofNat_toNat]
    rw [hsame] at hpsize
    refine ⟨rfl, herr, hpsize, ?_, hread⟩
    rw [hpsize, hsize, ← hbytes, hbuf, hbytes, hpayload]

/-- A message of one item. -/
def oneItemMsg (type : UInt32) (item : List UInt8) : SaiagentMsg where
  buff := some (le32 type ++ item ++ List.replicate (saiagentMsgMaxSize - (4 + item.length)) 0)
  size := UInt64.ofNat saiagentMsgMaxSize
  payloadSize := UInt64.ofNat (4 + item.length)
  tail := none

theorem built_created : Built 7 [] (oneItemMsg 7 []) :=
  @Built.create 7 ⟨zeroBuffer, length_zeroBuffer⟩ _ (by decide +kernel)

theorem built_word : Built 7 [List.replicate 4 1] (oneItemMsg 7 (List.replicate 4 1)) :=
  @Built.put 7 [] _ _ (List.replicate 4 1) 4 built_created (by decide) (by decide +kernel)

/-- The message with an item that fills the buffer. -/
theorem built_full : Built 7 [List.replicate 1496 1] (oneItemMsg 7 (List.replicate 1496 1)) := by
  have hput : saiagentMsgPutData (oneItemMsg 7 []) (List.replicate 1496 1) 1496 =
      .ok (rcStatusOk, oneItemMsg 7 (List.replicate 1496 1)) := by
    decide +kernel
  have hbuilt := built_created.put (by decide) hput
  rwa [List.take_of_length_le (by rw [List.length_replicate]; decide), List.nil_append] at hbuilt

/-- The receive record of the loop over zeroed memory. -/
theorem loopRecord_idle : LoopRecord idleStart.inMsg := ⟨rfl, length_zeroBuffer⟩

theorem roundTrips_word :
    RoundTrips 7 [List.replicate 4 1] (oneItemMsg 7 (List.replicate 4 1))
      (saiagentIpcSend ⟨true, true, 0, 0⟩ (oneItemMsg 7 (List.replicate 4 1)).buff
        (oneItemMsg 7 (List.replicate 4 1)).payloadSize .reply 1 2).1
      (nlIpcHandleRecvMsgCb idleStart.inMsg (built_word.delivered 1 2)) :=
  (roundTrips_iff built_word (by decide) .reply 1 2
    (fun _ hsent ↦ built_word.delivers (by decide) .reply 1 2 hsent) loopRecord_idle).2 (by decide)

/-- A message that fills its buffer is refused by the receiver. -/
theorem full_message_refused : ¬∀ (type : UInt32) (items : List (List UInt8)) (m : SaiagentMsg),
    Built type items m → items ≠ [] → ∀ o : SendOutcome, o.Works →
      ∀ (sendType : SaiagentNlType) (pid seq : UInt32) (msg : NlMsg),
        (∀ sent, (saiagentIpcSend o m.buff m.payloadSize sendType pid seq).2 = some sent →
          Delivers sent msg) → ∀ recv : SaiagentNlRecvMsg, LoopRecord recv →
            RoundTrips type items m
              (saiagentIpcSend o m.buff m.payloadSize sendType pid seq).1
              (nlIpcHandleRecvMsgCb recv msg) := by
  intro h
  have hworks : SendOutcome.Works ⟨true, true, 0, 0⟩ := by decide
  have hround := h 7 _ _ built_full (List.cons_ne_nil _ _) _ hworks .reply 1 2
    (built_full.delivered 1 2) (fun _ hsent ↦ built_full.delivers hworks .reply 1 2 hsent) _
    loopRecord_idle
  have hfull : saiagentMsgMaxSize ≤
      (le32 7 ++ [List.replicate 1496 (1 : UInt8)].flatten).length := by
    rw [List.length_append, length_le32, List.flatten_singleton, List.length_replicate]
    decide
  exact absurd ((built_full.refused 1 2 loopRecord_idle hfull).symm.trans hround.accepted)
    (by decide)

end SaiAgent
