import Mathlib.Data.List.Forall2
import SaiAgent.Model.Event
import SaiAgent.Properties.Delivery
import SaiAgent.Properties.PortPairing

/-!
# The port numbers of events

Commands name a port by its index in `port_list`; an event carries the low half of the port's object
identifier. `portEvents_iff` says for which notifications the two agree: those no longer than an
`int` can count, all of whose events libnl sends, and whose ports each stand in `port_list` at the
index that the low half of their identifier is.
-/

namespace SaiAgent

open Effects Effects.Proc Effects.Bytes

variable {a : Agent} {o : ℕ → SendOutcome} {data : List SaiPortOperStatusNotification}

/-! ### The loop -/

/-- The message sent for an entry, when it is sent. -/
def portEventMsg (data : SaiPortOperStatusNotification) : NlSent :=
  ⟨.event, 0, 0, some (portEvent data).bytes⟩

theorem saiagentIpcSendEvent_of_works {s : SendOutcome} (h : s.Works)
    (e : SaiPortOperStatusNotification) :
    (saiagentIpcSendEvent s (portEvent e).bytes 20).2 = some (portEventMsg e) := by
  obtain ⟨halloc, hput, hnla, hsend⟩ := h
  have hlen : (portEvent e).bytes.take (20 : UInt64).toNat = (portEvent e).bytes :=
    List.take_of_length_le (Nat.le_of_eq (portEvent e).length_bytes)
  have hsize : (20 : UInt64) > 0 := by decide
  simp only [saiagentIpcSendEvent, saiagentIpcSend, halloc, hput, hnla, hsize, Bool.not_true,
    Bool.false_eq_true, if_false, if_true, ne_eq, not_true_eq_false, and_false, if_neg hsend,
    Option.map_some, hlen]
  rfl

theorem saiagentIpcSendEvent_of_not_works {s : SendOutcome} (h : ¬s.Works)
    (e : SaiPortOperStatusNotification) :
    (saiagentIpcSendEvent s (portEvent e).bytes 20).2 = none := by
  have hsize : (20 : UInt64) > 0 := by decide
  exact Option.not_isSome_iff_eq_none.1 (mt (isSome_saiagentIpcSend_iff hsize).1 h)

/-- What the loop has sent by its end: the messages of the entries whose sending worked. -/
def sentEvents (o : ℕ → SendOutcome) : ℕ → List SaiPortOperStatusNotification → List NlSent
  | _, [] => []
  | i, e :: rest => (saiagentIpcSendEvent (o i) (portEvent e).bytes 20).2.toList ++
    sentEvents o (i + 1) rest

/-- **The loop completes** exactly when the counter stays in its type. -/
theorem notifyLoop_eq : ∀ (data : List SaiPortOperStatusNotification) (i : ℕ), i < 2 ^ 31 →
    notifyLoop o i data =
      if i + data.length < 2 ^ 31 then .ok (sentEvents o i data) else .error .signedOverflow
  | [], i, hi => by
    rw [List.length_nil, Nat.add_zero, if_pos hi]
    rfl
  | e :: rest, i, hi => by
    rw [notifyLoop]
    dsimp only
    by_cases hnext : i + 1 < 2 ^ 31
    · rw [if_pos hnext, notifyLoop_eq rest (i + 1) hnext, List.length_cons, Nat.add_assoc,
        Nat.add_comm 1]
      split
      · rfl
      · rfl
    · rw [if_neg hnext, if_neg]
      rw [List.length_cons]
      omega

/-- Every entry's event is sent exactly when the sending works each time. -/
theorem length_sentEvents_eq_iff : ∀ (data : List SaiPortOperStatusNotification) (i : ℕ),
    (sentEvents o i data).length ≤ data.length ∧
      ((sentEvents o i data).length = data.length ↔ ∀ k < data.length, (o (i + k)).Works)
  | [], i => ⟨Nat.le_refl 0, iff_of_true rfl nofun⟩
  | e :: rest, i => by
    obtain ⟨hle, ih⟩ := length_sentEvents_eq_iff rest (i + 1)
    -- The sends are numbered from `i` on, one for each entry.
    have hall : (∀ k < (e :: rest).length, (o (i + k)).Works) ↔
        (o i).Works ∧ ∀ k < rest.length, (o (i + 1 + k)).Works := by
      constructor
      · intro h
        refine ⟨h 0 (Nat.zero_lt_succ _), fun k hk ↦ ?_⟩
        rw [Nat.add_assoc, Nat.add_comm 1]
        exact h (k + 1) (Nat.succ_lt_succ hk)
      · rintro ⟨h₀, h⟩ k hk
        rcases k with _ | k
        · exact h₀
        · rw [Nat.add_comm k 1, ← Nat.add_assoc]
          exact h k (Nat.lt_of_succ_lt_succ hk)
    rw [hall, ← ih, sentEvents, List.length_append, List.length_cons]
    by_cases hworks : (o i).Works
    · rw [saiagentIpcSendEvent_of_works hworks, Option.toList_some, List.length_singleton,
        and_iff_right hworks]
      omega
    · rw [saiagentIpcSendEvent_of_not_works hworks, Option.toList_none, List.length_nil]
      refine ⟨by omega, iff_of_false (by omega) fun h ↦ hworks h.1⟩

/-- What is sent when the sending always works. -/
theorem sentEvents_of_works : ∀ (data : List SaiPortOperStatusNotification) (i : ℕ),
    (∀ k < data.length, (o (i + k)).Works) → sentEvents o i data = data.map portEventMsg
  | [], _, _ => rfl
  | e :: rest, i, h => by
    have hrest : ∀ k < rest.length, (o (i + 1 + k)).Works := by
      intro k hk
      rw [Nat.add_assoc, Nat.add_comm 1]
      exact h (k + 1) (Nat.succ_lt_succ hk)
    have hfirst : (o i).Works := h 0 (Nat.zero_lt_succ _)
    rw [sentEvents, saiagentIpcSendEvent_of_works hfirst, sentEvents_of_works rest (i + 1) hrest]
    rfl

/-! ### Events and commands -/

/-- A message is the event of an entry: a port event that carries the number the commands use for
the entry's port, and whose oper flag is 1 exactly when the port is up. -/
def EventOf (a : Agent) (e : SaiPortOperStatusNotification) (m : NlSent) : Prop :=
  ∃ evt : PresteraMsgEventPort, m = ⟨.event, 0, 0, some evt.bytes⟩ ∧
    evt.id = ⟨presteraEventTypePort, presteraPortEventMacStateChanged⟩ ∧
    evt.portId.toUInt64 < a.swInfo.numPorts ∧
    EStateM.run (saiSwitchPortFind evt.portId saiNullObjectId) (⟨a, (), []⟩ : World Unit) =
      .ok (saiStatusSuccess, e.portId) ⟨a, (), []⟩ ∧
    (evt.oper = 1 ↔ e.portState = .up)

/-- One event for each entry, in order, and events of different ports carry different numbers. -/
def NamesPorts (a : Agent) (data : List SaiPortOperStatusNotification) :
    Except Fault (List NlSent) → Prop
  | .ok sent => List.Forall₂ (EventOf a) data sent ∧
      ∀ (i j : ℕ) (e e' : SaiPortOperStatusNotification) (m m' : NlSent) (b b' : List UInt8),
        data[i]? = some e → data[j]? = some e' → sent[i]? = some m → sent[j]? = some m' →
        m.tlv = some b → m'.tlv = some b' → e.portId ≠ e'.portId → readLe32 b 4 ≠ readLe32 b' 4
  | .error _ => False

theorem run_portFind_eq_iff {port : UInt32} {oid : Oid} :
    EStateM.run (saiSwitchPortFind port saiNullObjectId) (⟨a, (), []⟩ : World Unit) =
      .ok (saiStatusSuccess, oid) ⟨a, (), []⟩ ↔ a.swInfo.portList.get port.toNat = .ok oid := by
  by_cases h : port < 64
  · obtain ⟨oid', hget, hrun⟩ := run_saiSwitchPortFind_of_lt (w := (⟨a, (), []⟩ : World Unit)) h
      saiNullObjectId
    rw [hrun, show a.swInfo.portList.get port.toNat = _ from hget]
    constructor
    · intro heq
      cases heq
      rfl
    · intro heq
      cases heq
      rfl
  · rw [run_saiSwitchPortFind_of_le h]
    refine iff_of_false nofun fun hget ↦ h (UInt32.lt_iff_toNat_lt.2 ?_)
    exact OidArray.lt_of_get hget

/-- The low half of the entry's port identifier is the number of the port. -/
def LowHalfIsNumber (a : Agent) (e : SaiPortOperStatusNotification) : Prop :=
  e.portId.toUInt32.toUInt64 < a.swInfo.numPorts ∧
    a.swInfo.portList.entries[e.portId.toUInt32.toNat]? = some e.portId

theorem eventOf_portEventMsg_iff {e : SaiPortOperStatusNotification} :
    EventOf a e (portEventMsg e) ↔ LowHalfIsNumber a e := by
  constructor
  · rintro ⟨evt, hmsg, -, hlt, hrun, -⟩
    have hbytes : (portEvent e).bytes = evt.bytes := Option.some.inj (congrArg NlSent.tlv hmsg)
    have hport : evt.portId = e.portId.toUInt32 := by
      rw [← evt.readLe32_bytes, ← hbytes, PresteraMsgEventPort.readLe32_bytes]
      rfl
    rw [hport] at hlt hrun
    exact ⟨hlt, OidArray.get_eq_ok_iff.1 (run_portFind_eq_iff.1 hrun)⟩
  · rintro ⟨hlt, hget⟩
    refine ⟨portEvent e, rfl, rfl, hlt, run_portFind_eq_iff.2 (OidArray.get_eq_ok_iff.2 hget), ?_⟩
    show (if e.portState = .up then (1 : UInt8) else 0) = 1 ↔ _
    split
    · exact iff_of_true rfl ‹_›
    · exact iff_of_false (by decide) ‹_›

/-- **Events name ports as the commands do** exactly when the notification is not longer than an
`int` can count, libnl sends every event, and the low half of each port's identifier is its
number. -/
theorem portEvents_iff (a : Agent) (o : ℕ → SendOutcome)
    (data : List SaiPortOperStatusNotification) :
      NamesPorts a data (saiOnPortStateChangeNotify o data) ↔ data.length < 2 ^ 31 ∧
          (∀ i < data.length, (o i).Works) ∧ ∀ e ∈ data, LowHalfIsNumber a e := by
  have hloop := notifyLoop_eq (o := o) data 0 (by decide)
  rw [Nat.zero_add] at hloop
  have hworks : ∀ {k}, (o (0 + k)).Works ↔ (o k).Works := by
    intro k
    rw [Nat.zero_add]
  rw [saiOnPortStateChangeNotify, hloop]
  by_cases hlen : data.length < 2 ^ 31
  · rw [if_pos hlen, and_iff_right hlen]
    constructor
    · -- As many events as entries: none of the sends failed.
      rintro ⟨hall, -⟩
      have hsent : ∀ k < data.length, (o (0 + k)).Works :=
        (length_sentEvents_eq_iff data 0).2.1 hall.length_eq.symm
      refine ⟨fun k hk ↦ hworks.1 (hsent k hk), fun e he ↦ ?_⟩
      rw [sentEvents_of_works data 0 hsent, List.forall₂_map_right_iff, List.forall₂_same] at hall
      exact eventOf_portEventMsg_iff.1 (hall e he)
    · rintro ⟨hsent, hports⟩
      rw [sentEvents_of_works data 0 fun k hk ↦ hworks.2 (hsent k hk)]
      refine ⟨?_, fun i j e e' m m' b b' he he' hm hm' hb hb' hne hsame ↦ hne ?_⟩
      · rw [List.forall₂_map_right_iff, List.forall₂_same]
        exact fun e he ↦ eventOf_portEventMsg_iff.2 (hports e he)
      · -- Two entries of one number are entries of one port.
        rw [List.getElem?_map, he, Option.map_some] at hm
        rw [List.getElem?_map, he', Option.map_some] at hm'
        obtain rfl := Option.some.inj hm
        obtain rfl := Option.some.inj hm'
        obtain rfl := Option.some.inj hb
        obtain rfl := Option.some.inj hb'
        have hnum : e.portId.toUInt32 = e'.portId.toUInt32 := by
          rw [PresteraMsgEventPort.readLe32_bytes, PresteraMsgEventPort.readLe32_bytes] at hsame
          exact hsame
        have h₁ := (hports e (List.mem_of_getElem? he)).2
        have h₂ := (hports e' (List.mem_of_getElem? he')).2
        rw [hnum] at h₁
        exact Option.some.inj (h₁.symm.trans h₂)
  · rw [if_neg hlen]
    exact iff_of_false id fun h ↦ hlen h.1

/-- A port that came up. -/
def portUp (port : Oid) : SaiPortOperStatusNotification := ⟨port, .up⟩

/-- The event of the first of two ports, whose identifiers are 16 and 17, carries 16. -/
theorem event_names_no_port : (twoPortsAgent.swInfo.portList.entries.take 2).Nodup ∧
    twoPortsAgent.swInfo.numPorts = 2 ∧ (16 : Oid) ∈ twoPortsAgent.swInfo.portList.entries.take 2 ∧
    ¬NamesPorts twoPortsAgent [portUp 16]
      (saiOnPortStateChangeNotify (fun _ ↦ ⟨true, true, 0, 0⟩) [portUp 16]) := by
  refine ⟨by decide +kernel, by decide +kernel, by decide +kernel, fun h ↦ ?_⟩
  obtain ⟨hall, -⟩ := h
  obtain ⟨hevent, -⟩ := List.forall₂_cons.1 (show List.Forall₂ (EventOf twoPortsAgent) [portUp 16]
    [portEventMsg (portUp 16)] from hall)
  exact absurd (eventOf_portEventMsg_iff.1 hevent).1 (by decide +kernel)

end SaiAgent
