import SaiAgent.Properties.PortRuns

/-!
# What a run of port requests amounts to

Two consequences of `portRun_refines`, both first about the settings alone and then about the agent:

* `portRun_settings`: a member of a VLAN keeps its tagging mode, an enabled bridge port stays
  enabled, and the VLAN id and the admin state of a port are those of the last request that was let
  through for it;
* `portRun_reorder`: while there is memory for the cache, only the order of the requests for the
  same port matters.
-/

namespace SaiAgent

open Effects Effects.Run Effects.Independence

variable {σ : Type} {E : SaiBackend σ} {view : σ → SaiStore} {accepts : SaiCall → Bool}
  {a : Agent} {switchOid : Oid} {c c₁ c₂ : PortCommand}

/-! ### What stays and what is replaced -/

namespace VlanSlot

variable {slot slot' : VlanSlot} {creatable mem : Bool} {b b' : Oid} {mode mode' : Int32}

/-- The bridge port is a member of the VLAN. -/
def HasMember (slot : VlanSlot) (b : Oid) (mode : Int32) : Prop :=
  ∃ members, slot.members = some members ∧ members b = some mode

theorem HasMember.acquire (h : slot.HasMember b mode) :
    (slot.acquire creatable mem).HasMember b mode := by
  obtain ⟨members, hs, hb⟩ := h
  rcases slot with ⟨_ | members', cached⟩
  · cases hs
  · exact ⟨members, hs, hb⟩

theorem HasMember.join (h : slot.HasMember b mode) (hj : slot.join b' mode' = some slot') :
    slot'.HasMember b mode := by
  obtain ⟨members, hs, hb⟩ := h
  rcases slot with ⟨_ | members', _ | _ | _⟩
  · cases hs
  · cases hs
  · cases hs
  · cases hj
  · cases hj
  · obtain rfl := Option.some.inj hs
    rw [VlanSlot.join] at hj
    split at hj
    · next hnone =>
      obtain rfl := Option.some.inj hj
      refine ⟨_, rfl, ?_⟩
      -- What joins was no member, so it is another bridge port.
      have hne : b ≠ b' := by
        rintro rfl
        rw [hb] at hnone
        cases hnone
      rw [Function.update_of_ne hne, hb]
    · cases hj

/-- No member is removed or changed. -/
theorem HasMember.put (h : slot.HasMember b mode) :
    (slot.put creatable mem b' mode').2.HasMember b mode := by
  rw [VlanSlot.put]
  rcases hj : (slot.acquire creatable mem).join b' mode' with _ | slot'
  · exact h.acquire
  · exact h.acquire.join hj

end VlanSlot

namespace VlanModel

variable {x : VlanModel} {v : UInt16} {b p : Oid} {mode : Int32}

/-- The VLAN id a command sets on the port, if it is let through. -/
def pvidSet (accepts : SaiCall → Bool) (p : Oid) : PortSetting → Option UInt16
  | .vlanPvidSet p' v =>
    if p' = p ∧ accepts (.saiApiQuery .port) && accepts (pvidCall p' v) then some v else none
  | _ => none

/-- The admin state a command sets on the port, if it is let through. -/
def adminSet (accepts : SaiCall → Bool) (p : Oid) : PortSetting → Option Bool
  | .phyModeSet p' up =>
    if p' = p ∧ accepts (.saiApiQuery .port) && accepts (adminCall p' up) then some up else none
  | _ => none

theorem hasMember_step (s : PortSetting) (h : (x.slots v).HasMember b mode) :
    ((x.step accepts switchOid s).2.slots v).HasMember b mode := by
  rcases s with ⟨v', b', mode', mem⟩ | _ | _
  · rw [step]
    split
    · show (Function.update x.slots v' _ v).HasMember b mode
      by_cases hv : v = v'
      · subst hv
        rw [Function.update_self]
        exact h.put
      · rwa [Function.update_of_ne hv]
    · exact h
  · exact h
  · exact h

theorem brPortUp_step (s : PortSetting) (h : x.brPortUp b = true) :
    (x.step accepts switchOid s).2.brPortUp b = true := by
  rcases s with ⟨v', b', mode', mem⟩ | _ | _
  · rw [step]
    split
    · dsimp only
      split
      · by_cases hb : b = b'
        · subst hb
          rw [Function.update_self]
        · rwa [Function.update_of_ne hb]
      · exact h
    · exact h
  · exact h
  · exact h

/-- A value that is replaced at one place, on a condition. -/
theorem update_ite_of_ne {α β : Type} [DecidableEq α] {a a' : α} (h : a' ≠ a) (ok : Bool)
    (f : α → β) (u : β) : (if ok then Function.update f a' u else f) a = f a := by
  rcases ok with _ | _
  · rfl
  · exact Function.update_of_ne h.symm ..

theorem pvid_step (s : PortSetting) :
    (x.step accepts switchOid s).2.pvid p = (pvidSet accepts p s).or (x.pvid p) := by
  rcases s with ⟨v', b', mode', mem⟩ | ⟨p', v'⟩ | ⟨p', up⟩
  · rw [step]
    split <;> rfl
  · by_cases hp : p' = p
    · subst hp
      rcases hok : (accepts (.saiApiQuery .port) && accepts (pvidCall p' v')) with _ | _ <;>
        simp [step, pvidSet, hok]
    · rw [pvidSet, if_neg fun h ↦ hp h.1]
      exact update_ite_of_ne hp _ _ _
  · rfl

theorem portUp_step (s : PortSetting) :
    (x.step accepts switchOid s).2.portUp p = (adminSet accepts p s).getD (x.portUp p) := by
  rcases s with ⟨v', b', mode', mem⟩ | ⟨p', v'⟩ | ⟨p', up⟩
  · rw [step]
    split <;> rfl
  · rfl
  · by_cases hp : p' = p
    · subst hp
      rcases hok : (accepts (.saiApiQuery .port) && accepts (adminCall p' up)) with _ | _ <;>
        simp [step, adminSet, hok]
    · rw [adminSet, if_neg fun h ↦ hp h.1]
      exact update_ite_of_ne hp _ _ _

/-- What stays, and what the last command of its kind decides. -/
structure Amounts (accepts : SaiCall → Bool) (x y : VlanModel) (cs : List PortCommand) : Prop where
  members : ∀ v b mode, (x.slots v).HasMember b mode → (y.slots v).HasMember b mode
  brPortUp : ∀ b, x.brPortUp b = true → y.brPortUp b = true
  pvid : ∀ p, y.pvid p = ((cs.filterMap fun c ↦ pvidSet accepts p c.2).getLast?).or (x.pvid p)
  portUp : ∀ p, y.portUp p =
    ((cs.filterMap fun c ↦ adminSet accepts p c.2).getLast?).getD (x.portUp p)

/-- The last value a list has: its first element's, unless a later one has one. -/
theorem getLast?_filterMap_cons {α β : Type} (f : α → Option β) (a : α) (as : List α) :
    ((a :: as).filterMap f).getLast? = (as.filterMap f).getLast?.or (f a) := by
  rcases hf : f a with _ | u
  · rw [List.filterMap_cons_none hf, Option.or_none]
  · rw [List.filterMap_cons_some hf, List.getLast?_cons]
    rcases (as.filterMap f).getLast? with _ | u' <;> rfl

theorem amounts_final (cs : List PortCommand) :
    ∀ x : VlanModel, Amounts accepts x (final (commandStep accepts switchOid) x cs) cs := by
  induction cs with
  | nil => exact fun x ↦ ⟨fun _ _ _ h ↦ h, fun _ h ↦ h, fun _ ↦ rfl, fun _ ↦ rfl⟩
  | cons c cs ih =>
    intro x
    have hrest := ih (commandStep accepts switchOid x c).2
    rw [final_cons]
    refine ⟨fun v b mode h ↦ hrest.members v b mode (hasMember_step c.2 h),
      fun b h ↦ hrest.brPortUp b (brPortUp_step c.2 h), fun p ↦ ?_, fun p ↦ ?_⟩
    · have hstep : (commandStep accepts switchOid x c).2.pvid p = _ := pvid_step c.2
      rw [hrest.pvid, hstep, getLast?_filterMap_cons, Option.or_assoc]
    · have hstep : (commandStep accepts switchOid x c).2.portUp p = _ := portUp_step c.2
      rw [hrest.portUp, hstep, getLast?_filterMap_cons, Option.getD_or]

end VlanModel

/-- **What a run of port requests amounts to.** Members stay members as they are and enabled bridge
ports stay enabled, whatever is asked for; the VLAN id and the admin state of a port are those of
the last request that SAI let through for it. -/
theorem portRun_settings (hE : ExactSai E view accepts) {s : Session σ} (h : PortsReached view s)
    (is : List PortInput) :
    VlanModel.Amounts accepts (settingsOf view s.world) (settingsOf view (portExec E s is).world)
      (commandsIn s.world.state is) := by
  obtain ⟨-, hfinal, -⟩ := portRun_refines hE h is
  rw [hfinal]
  exact VlanModel.amounts_final _ _

/-- The first port stays in the VLAN 10 while the second one joins. -/
theorem portRun_settings_listSession :
    VlanModel.Amounts (fun _ ↦ true)
      (settingsOf ListStore.view (portExec listSai listSession [joinTen false]).world)
      (settingsOf ListStore.view
        (portExec listSai (portExec listSai listSession [joinTen false]) [joinTen true]).world)
      (commandsIn (portExec listSai listSession [joinTen false]).world.state [joinTen true]) :=
  portRun_settings exactSai_listSai
    ⟨by decide +kernel, listSai, ListStore.empty,
      [bareInput .switchInit, (joinTen false).toSessionInput], storeSai_listSai, rfl⟩ _

/-! ### The order of the requests -/

/-- The command names the objects of its port, and finds memory for a cache entry. -/
def NamesOwn (a : Agent) (c : PortCommand) : Prop :=
  match c.2 with
  | .vlanPortSet _ b _ mem => a.swInfo.brPortList.get c.1.toNat = .ok b ∧ mem = true
  | .vlanPvidSet p _ => a.swInfo.portList.get c.1.toNat = .ok p
  | .phyModeSet p _ => a.swInfo.portList.get c.1.toNat = .ok p

theorem namesOwn_of_settingOf {rt : Runtime} {buf : List UInt8} {handler : Handler}
    (hmem : rt.vlanInfoCalloc = true) (h : settingOf rt a buf handler = some c) :
    NamesOwn a c := by
  cases handler with
  | vlanPortSet =>
    simp only [settingOf] at h
    split at h
    · next hget =>
      split at h
      · cases h
      · cases h
        exact ⟨hget, hmem⟩
    · cases h
  | vlanPvidSet =>
    simp only [settingOf] at h
    split at h
    · next hget =>
      cases h
      exact hget
    · cases h
  | portAttrSet =>
    simp only [settingOf] at h
    split at h
    · split at h
      · next hget =>
        cases h
        exact hget
      · cases h
    · cases h
  | _ => cases h

/-- The ports there are have objects of their own. -/
structure DistinctPorts (a : Agent) : Prop where
  port : ∀ n m o, n.toUInt64 < a.swInfo.numPorts → m.toUInt64 < a.swInfo.numPorts →
    a.swInfo.portList.get (UInt32.toNat n) = .ok o →
      a.swInfo.portList.get (UInt32.toNat m) = .ok o → n = m
  brPort : ∀ n m o, n.toUInt64 < a.swInfo.numPorts → m.toUInt64 < a.swInfo.numPorts →
    a.swInfo.brPortList.get (UInt32.toNat n) = .ok o →
      a.swInfo.brPortList.get (UInt32.toNat m) = .ok o → n = m

/-- A command for a port there is. -/
structure OwnCommand (a : Agent) (c : PortCommand) : Prop where
  lt : c.1.toUInt64 < a.swInfo.numPorts
  names : NamesOwn a c

theorem DistinctPorts.apart (hd : DistinctPorts a) (h₁ : OwnCommand a c₁) (h₂ : OwnCommand a c₂)
    (hne : c₁.1 ≠ c₂.1) : VlanModel.Apart c₁.2 c₂.2 := by
  obtain ⟨n₁, s₁⟩ := c₁
  obtain ⟨n₂, s₂⟩ := c₂
  rcases s₁ with ⟨_, b₁, _, _⟩ | ⟨p₁, _⟩ | ⟨p₁, _⟩ <;>
    rcases s₂ with ⟨_, b₂, _, _⟩ | ⟨p₂, _⟩ | ⟨p₂, _⟩ <;> first | exact trivial | skip
  · rintro rfl
    exact hne (hd.brPort _ _ _ h₁.lt h₂.lt h₁.names.1 h₂.names.1)
  · rintro rfl
    exact hne (hd.port _ _ _ h₁.lt h₂.lt h₁.names h₂.names)
  · rintro rfl
    exact hne (hd.port _ _ _ h₁.lt h₂.lt h₁.names h₂.names)

/-- **Commands of different ports are independent** while there is memory. -/
theorem DistinctPorts.independent (hd : DistinctPorts a) (x : VlanModel) (h₁ : OwnCommand a c₁)
    (h₂ : OwnCommand a c₂) (hne : c₁.1 ≠ c₂.1) :
    Independent (commandStep accepts switchOid) x c₁ c₂ := by
  have hcommutes : x.Commutes accepts switchOid c₁.2 c₂.2 := by
    rw [VlanModel.commutes_iff (hd.apart h₁ h₂ hne)]
    have hn₁ := h₁.names
    have hn₂ := h₂.names
    obtain ⟨n₁, s₁⟩ := c₁
    obtain ⟨n₂, s₂⟩ := c₂
    rcases s₁ with ⟨_, _, _, mem₁⟩ | _ | _
    · rcases s₂ with ⟨_, _, _, mem₂⟩ | _ | _
      · rintro ⟨-, -, -, -, hmem⟩
        exact hmem (hn₁.2.trans hn₂.2.symm)
      · exact id
      · exact id
    · exact id
    · exact id
  exact ⟨hcommutes.first, hcommutes.second, hcommutes.final⟩

/-- A request that finds memory, for a port there is if it configures one. -/
structure Plain (a : Agent) (i : PortInput) : Prop where
  memory : i.rt.vlanInfoCalloc = true
  lt : ∀ c ∈ commandsOf a i.toSessionInput, c.1.toUInt64 < a.swInfo.numPorts

theorem ownCommand_of_mem {is : List PortInput} (h : ∀ i ∈ is, Plain a i)
    (hc : c ∈ commandsIn a is) : OwnCommand a c := by
  obtain ⟨i, hi, hci⟩ := List.mem_flatMap.1 hc
  refine ⟨(h i hi).lt c hci, ?_⟩
  obtain ⟨handler, -, hs⟩ := Option.bind_eq_some_iff.1 (Option.mem_toList.1 hci)
  exact namesOwn_of_settingOf (h i hi).memory hs

/-- **Only the order of the requests for the same port matters.** Two runs of requests in which
every port is asked for the same, in the same order, end in the same settings, and every port gets
the same answers. Requests that configure nothing may come in between at will. -/
theorem portRun_reorder (hE : ExactSai E view accepts) {s : Session σ} (h : PortsReached view s)
    (hd : DistinctPorts s.world.state) {is js : List PortInput}
    (his : ∀ i ∈ is, Plain s.world.state i) (hjs : ∀ j ∈ js, Plain s.world.state j)
    (hsame : ∀ n, under Prod.fst n (commandsIn s.world.state is) =
      under Prod.fst n (commandsIn s.world.state js)) :
    settingsOf view (portExec E s is).world = settingsOf view (portExec E s js).world ∧
      ∀ n, dialogueUnder Prod.fst n (portDialogue E s.world.state s is) =
        dialogueUnder Prod.fst n (portDialogue E s.world.state s js) := by
  obtain ⟨-, hfinal, hdialogue⟩ := portRun_refines hE h is
  obtain ⟨-, hfinal', hdialogue'⟩ := portRun_refines hE h js
  rw [hfinal, hfinal', hdialogue, hdialogue']
  exact react_eq_of_filter_eq (P := OwnCommand s.world.state)
    (fun x _ _ h₁ h₂ hne ↦ hd.independent x h₁ h₂ hne) _ _ _ (fun _ ↦ ownCommand_of_mem his)
    (fun _ ↦ ownCommand_of_mem hjs) hsame

theorem distinctPorts_listSession : DistinctPorts listSession.world.state := by
  have hnum : listSession.world.state.swInfo.numPorts = 2 := by decide +kernel
  have hport : ∀ n : UInt32, n.toUInt64 < listSession.world.state.swInfo.numPorts →
      n = 0 ∨ n = 1 := by
    intro n hn
    rw [hnum, UInt64.lt_iff_toNat_lt, UInt32.toNat_toUInt64] at hn
    rcases Nat.le_one_iff_eq_zero_or_eq_one.1 (Nat.lt_succ_iff.1 hn) with h | h
    · exact Or.inl (UInt32.toNat_inj.1 h)
    · exact Or.inr (UInt32.toNat_inj.1 h)
  refine ⟨fun n m o hn hm h₁ h₂ ↦ ?_, fun n m o hn hm h₁ h₂ ↦ ?_⟩
  all_goals
    rcases hport n hn with rfl | rfl <;> rcases hport m hm with rfl | rfl <;>
      first | rfl | exact absurd (h₁.trans h₂.symm) (by decide +kernel)

theorem plain_joinTen (second : Bool) : Plain listSession.world.state (joinTen second) :=
  ⟨rfl, by cases second <;> decide +kernel⟩

/-- The two ports join in either order. -/
theorem portRun_reorder_listSession :
    settingsOf ListStore.view (portExec listSai listSession [joinTen false, joinTen true]).world =
        settingsOf ListStore.view
          (portExec listSai listSession [joinTen true, joinTen false]).world ∧
      ∀ n, dialogueUnder Prod.fst n (portDialogue listSai listSession.world.state listSession
          [joinTen false, joinTen true]) =
        dialogueUnder Prod.fst n (portDialogue listSai listSession.world.state listSession
          [joinTen true, joinTen false]) := by
  refine portRun_reorder exactSai_listSai portsReached_listSession distinctPorts_listSession
    (fun i hi ↦ ?_) (fun i hi ↦ ?_) fun n ↦ ?_
  · simp only [List.mem_cons, List.not_mem_nil, or_false] at hi
    rcases hi with rfl | rfl <;> exact plain_joinTen _
  · simp only [List.mem_cons, List.not_mem_nil, or_false] at hi
    rcases hi with rfl | rfl <;> exact plain_joinTen _
  · have hfirst : commandsIn listSession.world.state [joinTen false, joinTen true] =
        [(0, .vlanPortSet 10 32 1 true), (1, .vlanPortSet 10 33 1 true)] := by decide +kernel
    have hsecond : commandsIn listSession.world.state [joinTen true, joinTen false] =
        [(1, .vlanPortSet 10 33 1 true), (0, .vlanPortSet 10 32 1 true)] := by decide +kernel
    rw [hfirst, hsecond]
    by_cases h₀ : n = 0
    · subst h₀
      rfl
    · by_cases h₁ : n = 1
      · subst h₁
        rfl
      · simp [under, Ne.symm h₀, Ne.symm h₁]

end SaiAgent
