import SaiAgent.Properties.FailStop
import SaiAgent.Properties.PortNumbers

/-!
# Ports and their bridge ports

Port commands index `sw_info.port_list` and VLAN commands `sw_info.br_port_list`, by the same
number. The two arrays are filled by two queries, and nothing ties an entry of one to the entry of
the other. `samePort_iff` says for which numbers VLAN_PORT_SET acts on the port the port commands
configure: those where the entry of `br_port_list` happens to be the bridge port of that port, or
null where the port has none.
-/

namespace SaiAgent

open Effects Effects.Proc Effects.Plan

variable {σ : Type} {E : SaiBackend σ} {rt : Runtime} {w : World σ}

/-! ### What SAI lists -/

/-- The ports of a switch and the bridge ports of its default bridge, in the order SAI lists them:
each list without duplicates, and the bridge ports over some of the ports. -/
structure PortLists where
  ports : List Oid
  brPorts : List Oid
  /-- The port a bridge port was made for. -/
  underlying : Oid → Oid
  ports_nodup : ports.Nodup
  brPorts_nodup : brPorts.Nodup
  underlying_mem : ∀ b ∈ brPorts, underlying b ∈ ports
  underlying_inj : ∀ b ∈ brPorts, ∀ c ∈ brPorts, underlying b = underlying c → b = c
  ne_null : ∀ b ∈ brPorts, b ≠ saiNullObjectId

namespace PortLists

/-- The bridge port of a port, or null when it has none. -/
def bridgePortOf (L : PortLists) (o : Oid) : Oid :=
  (L.brPorts.find? fun b ↦ L.underlying b = o).getD saiNullObjectId

variable {L : PortLists} {b o : Oid}

theorem bridgePortOf_of_mem (hb : b ∈ L.brPorts) (h : L.underlying b = o) :
    L.bridgePortOf o = b := by
  rcases hfind : L.brPorts.find? fun b ↦ L.underlying b = o with _ | c
  · exact absurd h (by simpa using List.find?_eq_none.1 hfind b hb)
  · have hc : L.underlying c = o := by simpa using List.find?_some hfind
    rw [bridgePortOf, hfind]
    exact L.underlying_inj c (List.mem_of_find?_eq_some hfind) b hb (hc.trans h.symm)

theorem bridgePortOf_of_forall_ne (h : ∀ b ∈ L.brPorts, L.underlying b ≠ o) :
    L.bridgePortOf o = saiNullObjectId := by
  have hfind : (L.brPorts.find? fun b ↦ L.underlying b = o) = none :=
    List.find?_eq_none.2 fun b hb ↦ by simpa using h b hb
  rw [bridgePortOf, hfind]
  rfl

/-- A bridge port that is not null is one SAI listed. -/
theorem mem_of_bridgePortOf (h : L.bridgePortOf o = b) (hb : b ≠ saiNullObjectId) :
    b ∈ L.brPorts ∧ L.underlying b = o := by
  by_contra hnot
  have hnone : ∀ c ∈ L.brPorts, L.underlying c ≠ o := by
    intro c hc ho
    obtain rfl := (bridgePortOf_of_mem hc ho).symm.trans h
    exact hnot ⟨hc, ho⟩
  exact hb (h.symm.trans (bridgePortOf_of_forall_ne hnone))

end PortLists

/-- SAI returns these lists, whenever it answers. -/
structure Lists (L : PortLists) (E : SaiBackend σ) : Prop where
  ports : ∀ o s, (E (.getSwitchAttribute o 3 switchQueryAttr) s).1.ok = true →
    (E (.getSwitchAttribute o 3 switchQueryAttr) s).1.list = L.ports ∧
      (attrValue (E (.getSwitchAttribute o 3 switchQueryAttr) s).1.attr 0).getCount.toNat =
        L.ports.length
  brPorts : ∀ o s, (E (.getBridgeAttribute o 1 [⟨.bridgePortList, .objlist OidArray.arrayLen⟩])
    s).1.ok = true →
      (E (.getBridgeAttribute o 1 [⟨.bridgePortList, .objlist OidArray.arrayLen⟩]) s).1.list =
        L.brPorts

/-- The agent holds what a completed `sai_switch_init` read from a SAI that returns these lists;
whatever it was before, and whatever else it has done since. -/
def Initialised (L : PortLists) (a : Agent) : Prop :=
  ∃ (σ : Type) (E : SaiBackend σ) (rt : Runtime) (w w' : World σ), Lists L E ∧
    switchOutcome E rt w = .finished .complete ∧
    EStateM.run (saiSwitchInit E rt) w = .ok saiStatusSuccess w' ∧
    a.swInfo.numPorts = w'.state.swInfo.numPorts ∧ a.swInfo.portList = w'.state.swInfo.portList ∧
    a.swInfo.brPortList = w'.state.swInfo.brPortList

/-- What a completed query of the switch leaves in `sw_info`: the number of ports, and the ports
themselves as far as the array goes. -/
theorem portList_of_finished {L : PortLists} (hlists : Lists L E) {w' : World σ}
    (h : ((queryPlan w.state.swInfo.switchOid fun _ ↦ .done .complete).exec SaiResp.ok retried E
      w.env).outcome = .finished .complete)
    (hrun : EStateM.run (saiSwitchQuery E) w = .ok saiStatusSuccess w') :
    w'.state.swInfo.numPorts.toNat = L.ports.length ∧
      ∃ rest, w'.state.swInfo.portList.entries = L.ports.take 64 ++ rest := by
  obtain ⟨h₁, hrest⟩ := exec_call_eq_finished_iff.1 h
  obtain ⟨portList, hrun₁, hports⟩ := run_saiSwitchQuery_of_ok h₁
  obtain ⟨hlist, hcount⟩ := hlists.ports _ _ h₁
  split at hrest
  · cases hrest
  rename_i hbridge
  split at hrest
  · cases hrest
  rename_i hvlan
  obtain ⟨h₂, -⟩ := exec_call_eq_finished_iff.1 hrest
  obtain ⟨brPortList, hrun₂, -⟩ := run_saiBridgeQuery_of_ok (E := E)
    (w := OracleWorld.mapState
      (w.asked E (.getSwitchAttribute w.state.swInfo.switchOid 3 switchQueryAttr)) fun a ↦
        a.setPortList portList) hbridge hvlan h₂
  -- Handing SAI the notification callback assigns nothing.
  have hstate := (keeps_saiRetErr (f := fun w : World σ ↦ w.state)
    (keeps_plainCall (Keeps.ask fun _ ↦ rfl)) fun _ ↦ Keeps.pure _).eq_of_ok
      ((hrun₁.trans hrun₂).symm.trans hrun)
  rw [hstate]
  rw [hlist] at hports
  exact ⟨(UInt32.toNat_toUInt64 _).trans hcount, _, hports⟩

/-- **The port list of an initialised agent**: the ports by number. -/
theorem Initialised.portList {L : PortLists} {a : Agent} (h : Initialised L a) :
    a.swInfo.numPorts.toNat = L.ports.length ∧
      ∃ rest, a.swInfo.portList.entries = L.ports.take 64 ++ rest := by
  obtain ⟨σ, E, rt, w, w', hlists, hout, hrun, hnum, hports, -⟩ := h
  rw [hnum, hports]
  obtain ⟨_, _, _, hout', -⟩ | ⟨_, hout', -⟩ | ⟨_, _, _, hout', -⟩ |
    ⟨t, oid, w₁, hexec, hrun', -, hstate, -⟩ := switchInitRun E rt w
  · cases (hout' _).symm.trans hout
  · cases (hout' _).symm.trans hout
  · cases (hout' _).symm.trans hout
  have hoid : oid = w₁.state.swInfo.switchOid := by
    rw [hstate]
    rfl
  rw [switchOutcome, hexec, Run.prepend_outcome, hoid] at hout
  exact portList_of_finished hlists hout (hrun'.symm.trans hrun)

theorem OidArray.get_eq_ok_iff {a : OidArray} {i : ℕ} {v : Oid} :
    a.get i = .ok v ↔ a.entries[i]? = some v := by
  unfold OidArray.get
  cases a.entries[i]? with
  | none => exact iff_of_false nofun nofun
  | some u => exact ⟨fun h ↦ by cases h; rfl, fun h ↦ by cases h; rfl⟩

/-- **An index below the number of ports is a port's**, as far as the array goes. -/
theorem Initialised.exists_port {L : PortLists} {a : Agent} (h : Initialised L a) {port : UInt32}
    (hp : port.toUInt64 < a.swInfo.numPorts) :
    ∃ o, L.ports[port.toNat]? = some o ∧ ∀ x, a.swInfo.portList.get port.toNat = .ok x → x = o := by
  obtain ⟨hnum, rest, hentries⟩ := h.portList
  have hlt : port.toNat < L.ports.length := by
    rw [← hnum, ← UInt32.toNat_toUInt64]
    exact UInt64.lt_iff_toNat_lt.1 hp
  refine ⟨_, List.getElem?_eq_getElem hlt, fun x hx ↦ ?_⟩
  have hx := OidArray.get_eq_ok_iff.1 hx
  have h64 : port.toNat < 64 := by
    rw [← a.swInfo.portList.length_eq]
    exact (List.getElem?_eq_some_iff.1 hx).1
  have htake : port.toNat < (L.ports.take 64).length := by
    rw [List.length_take]
    omega
  rw [hentries, List.getElem?_append_left htake, List.getElem?_take_of_lt h64,
    List.getElem?_eq_getElem hlt] at hx
  exact (Option.some.inj hx).symm

/-! ### The calls the plans make -/

variable {P : SaiCall → Prop} {a : Agent} {port : UInt32}

theorem makes_withPort {list : OidArray} {next : Oid → SaiPlan}
    (h : ∀ o, list.get port.toNat = .ok o → (next o).Makes P) :
    (withPort list port next).Makes P := by
  unfold withPort
  cases hget : list.get port.toNat with
  | ok o => exact h o hget
  | error e => trivial

theorem makes_lastCall {c : SaiCall} (hc : P c) : (lastCall c).Makes P := ⟨hc, fun _ ↦ trivial⟩

theorem makes_scanPlan {vlanOid brPortOid : Oid} {members : OidArray} {found : Oid → SaiPlan}
    (hquery : ∀ member, P (memberQuery member)) (h : ∀ o, (found o).Makes P) :
    ∀ n i, (scanPlan vlanOid brPortOid members found n i).Makes P
  | 0, _ => h _
  | n + 1, i => by
    unfold scanPlan
    cases members.get i with
    | error e => trivial
    | ok member =>
      refine ⟨hquery member, fun r ↦ ?_⟩
      dsimp only
      split
      · exact h member
      · exact makes_scanPlan hquery h n (i + 1)

/-- The bridge port a call makes a member of a VLAN or enables. -/
def SaiCall.brPortOid : SaiCall → Option Oid
  | .setBridgePortAttribute o _ => some o
  | .createVlanMember _ _ attr => some (attrValue attr 1).getOid
  | _ => none

/-- The port a call configures. -/
def SaiCall.portOid : SaiCall → Option Oid
  | .setPortAttribute o _ => some o
  | _ => none

/-- A repeated call is about the same objects. -/
theorem retried_objects {c c' : SaiCall} {r : SaiResp} (h : retried c r = some c') :
    c'.brPortOid = c.brPortOid ∧ c'.portOid = c.portOid := by
  cases c <;> cases h <;> exact ⟨rfl, rfl⟩

/-- What `VLAN_PORT_SET` does with the VLAN it has. -/
def addPlan (rt : Runtime) (switchOid brPortOid : Oid) (tag : Bool) (vlanOid : Oid) : SaiPlan :=
  memberListPlan rt vlanOid fun members n ↦
    scanPlan vlanOid brPortOid members (ensurePlan switchOid vlanOid brPortOid tag) n 0

/-- Its calls, kind by kind. -/
theorem makes_addPlan {sw b o : Oid} {tag : Bool}
    (hlist : P (.getVlanAttribute o 1 [⟨.vlanMemberList, .objlist OidArray.arrayLen⟩]))
    (hmember : ∀ member, P (memberQuery member)) (hadd : P (createMember sw o b tag))
    (henable : P (.setBridgePortAttribute b ⟨.bridgePortAdminState, .booldata true⟩)) :
    (addPlan rt sw b tag o).Makes P := by
  refine ⟨hlist, fun r ↦ ?_⟩
  dsimp only
  cases rt.vlanMemberList.store OidArray.arrayLen r.list with
  | error e => trivial
  | ok members =>
    refine makes_scanPlan hmember (fun m ↦ ?_) _ 0
    unfold ensurePlan
    split
    · exact makes_lastCall henable
    · exact ⟨hadd, fun _ ↦ makes_lastCall henable⟩

/-- The calls of VLAN_PORT_SET, kind by kind. The last two kinds name the entry of `br_port_list`,
which is not null where they are made. -/
theorem makes_vlanPortPlan_of {vid : UInt16} {tag : Bool} (hapi : ∀ api, P (.saiApiQuery api))
    (hcreate : ∀ sw, P (.createVlan sw 1 [⟨.vlanVlanId, .u16 vid⟩]))
    (hlist : ∀ o, P (.getVlanAttribute o 1 [⟨.vlanMemberList, .objlist OidArray.arrayLen⟩]))
    (hmember : ∀ member, P (memberQuery member))
    (hadd : ∀ b, a.swInfo.brPortList.get port.toNat = .ok b → b ≠ saiNullObjectId → ∀ sw o,
      P (createMember sw o b tag))
    (henable : ∀ b, a.swInfo.brPortList.get port.toNat = .ok b → b ≠ saiNullObjectId →
      P (.setBridgePortAttribute b ⟨.bridgePortAdminState, .booldata true⟩)) :
    (vlanPortPlan a rt vid port tag).Makes P := by
  refine ⟨hapi _, fun _ ↦ ⟨hapi _, fun _ ↦ makes_withPort fun b hb ↦ ?_⟩⟩
  split
  · trivial
  rename_i hnull
  have hscan : ∀ vlanOid, (addPlan rt a.swInfo.switchOid b tag vlanOid).Makes P := fun vlanOid ↦
    makes_addPlan (hlist vlanOid) hmember (hadd b hb hnull _ vlanOid) (henable b hb hnull)
  -- The VLAN is the cached one or a new one; the scan follows either.
  unfold vlanPlan
  split
  · exact hscan _
  · refine ⟨hcreate _, fun r ↦ ?_⟩
    dsimp only
    split
    · exact hscan _
    · trivial

/-- **VLAN_PORT_SET names one bridge port**: the entry of `br_port_list`, when it is not null. -/
theorem makes_vlanPortPlan {vid : UInt16} {tag : Bool} :
    (vlanPortPlan a rt vid port tag).Makes fun c ↦
      (∀ b ∈ c.brPortOid, a.swInfo.brPortList.get port.toNat = .ok b ∧ b ≠ saiNullObjectId) ∧
        c.portOid = none := by
  have hentry : ∀ b, a.swInfo.brPortList.get port.toNat = .ok b → b ≠ saiNullObjectId →
      ∀ c ∈ some b, a.swInfo.brPortList.get port.toNat = .ok c ∧ c ≠ saiNullObjectId := by
    rintro b hb hnull c hc
    obtain rfl := Option.some.inj hc
    exact ⟨hb, hnull⟩
  exact makes_vlanPortPlan_of (fun _ ↦ ⟨nofun, rfl⟩) (fun _ ↦ ⟨nofun, rfl⟩) (fun _ ↦ ⟨nofun, rfl⟩)
    (fun _ ↦ ⟨nofun, rfl⟩) (fun b hb hnull _ _ ↦ ⟨hentry b hb hnull, rfl⟩)
    fun b hb hnull ↦ ⟨hentry b hb hnull, rfl⟩

/-- The port commands name the entry of `port_list`. -/
theorem makes_operationPlan {buf : List UInt8} {handler : Handler} {plan : SaiPlan}
    (hplan : operationPlan rt a buf handler = some plan) (hport : port ∈ portOf handler buf) :
    plan.Makes fun c ↦ ∀ o ∈ c.portOid, a.swInfo.portList.get port.toNat = .ok o := by
  have hentry : ∀ o, a.swInfo.portList.get port.toNat = .ok o →
      ∀ x ∈ some o, a.swInfo.portList.get port.toNat = .ok x := by
    rintro o ho x hx
    obtain rfl := Option.some.inj hx
    exact ho
  cases handler with
  | vlanPortSet =>
    cases hplan
    obtain rfl := Option.some.inj hport
    refine makes_vlanPortPlan.mono fun c hc o ho ↦ ?_
    rw [hc.2] at ho
    cases ho
  | vlanPvidSet =>
    cases hplan
    obtain rfl := Option.some.inj hport
    exact makes_withPort fun o ho ↦ ⟨nofun, fun _ ↦ makes_lastCall (hentry o ho)⟩
  | portAttrSet =>
    obtain rfl := Option.some.inj hport
    simp only [operationPlan] at hplan
    split at hplan
    · cases hplan
      exact ⟨nofun, fun _ ↦ makes_withPort fun o ho ↦ makes_lastCall (hentry o ho)⟩
    · cases hplan
  | switchInit | keepaliveInit | switchReset | portInfoGet | portAttrGet | switchAttrSet
  | vlanCreate | vlanDelete | stpPortSet | fdbFlushPort | routerMpHashSet | routerVrCreate
  | routerVrDel | routerLpmAdd | routerLpmDel => cases hplan

/-! ### VLAN_PORT_SET over an entry of `br_port_list` -/

variable {request reply : SaiagentMsg} {b : Oid}

/-- The call that enables a bridge port. -/
def enableCall (brPortOid : Oid) : SaiCall :=
  .setBridgePortAttribute brPortOid ⟨.bridgePortAdminState, .booldata true⟩

/-- The port number of the request. -/
abbrev vlanPortOf (request : SaiagentMsg) : UInt32 :=
  (PresteraMsgVlanReq.ofBuff (request.buff.getD [])).port

/-- The plan of the request. -/
def vlanRequestPlan (rt : Runtime) (a : Agent) (request : SaiagentMsg) : SaiPlan :=
  vlanPortPlan a rt (PresteraMsgVlanReq.ofBuff (request.buff.getD [])).vid (vlanPortOf request)
    ((PresteraMsgVlanReq.ofBuff (request.buff.getD [])).isTagged ≠ 0)

/-- Its handler executes the plan, and nothing else happens. -/
theorem run_vlanPortSet (hr : IsReply reply) (a : Agent) (env : σ) :
    (worldOf (EStateM.run (Handler.vlanPortSet.run E rt request reply) ⟨a, env, []⟩)).trace =
        ((vlanRequestPlan rt a request).exec SaiResp.ok retried E env).trace ∧
      Carries Overruns (fun r ↦ replyStatus r = presteraCmdAckOk)
        (fun r ↦ replyStatus r = presteraCmdAckFailed)
        ((vlanRequestPlan rt a request).exec SaiResp.ok retried E env).outcome
        (valueOf (EStateM.run (Handler.vlanPortSet.run E rt request reply) ⟨a, env, []⟩)) :=
  have h := @executes_handler σ E rt ⟨a, env, []⟩ .vlanPortSet request reply _ hr rfl
  ⟨h.trace, h.value⟩

/-- Every bridge port VLAN_PORT_SET names is the entry. -/
theorem brPortOid_of_mem_trace (hr : IsReply reply) {env : σ} {e : SaiCall × SaiResp}
    (he : e ∈ (worldOf (EStateM.run (Handler.vlanPortSet.run E rt request reply)
    ⟨a, env, []⟩)).trace) (hb : b ∈ e.1.brPortOid) :
    a.swInfo.brPortList.get (vlanPortOf request).toNat = .ok b ∧ b ≠ saiNullObjectId := by
  rw [(run_vlanPortSet hr a env).1] at he
  refine (makes_vlanPortPlan.forall_trace (fun c r c' hc hagain ↦ ?_) _ e he).1 b hb
  rw [(retried_objects hagain).1, (retried_objects hagain).2]
  exact hc

/-- A null entry ends the plan before anything is configured. -/
theorem exec_vlanRequestPlan_of_null
    (hnull : a.swInfo.brPortList.get (vlanPortOf request).toNat = .ok saiNullObjectId) (s : σ) :
    ((vlanRequestPlan rt a request).exec SaiResp.ok retried E s).outcome = .finished .failed ∨
      (∃ api r, ((vlanRequestPlan rt a request).exec SaiResp.ok retried E s).outcome =
        .repeated (.saiApiQuery api) r) ∧
        ¬AllOk SaiResp.ok ((vlanRequestPlan rt a request).exec SaiResp.ok retried E s).trace := by
  rcases h₁ : (E (.saiApiQuery .vlan) s).1.ok with _ | _
  · rw [vlanRequestPlan, vlanPortPlan, exec_call_repeated h₁ rfl]
    refine Or.inr ⟨⟨_, _, rfl⟩, fun hall ↦ ?_⟩
    exact absurd (h₁.symm.trans (hall _ List.mem_cons_self)) (by decide)
  rcases h₂ : (E (.saiApiQuery .bridge) (E (.saiApiQuery .vlan) s).2).1.ok with _ | _
  · rw [vlanRequestPlan, vlanPortPlan, exec_call_ok h₁, exec_call_repeated h₂ rfl]
    refine Or.inr ⟨⟨_, _, rfl⟩, fun hall ↦ ?_⟩
    exact absurd (h₂.symm.trans (hall _ (List.mem_cons_of_mem _ List.mem_cons_self))) (by decide)
  · refine Or.inl ?_
    rw [vlanRequestPlan, vlanPortPlan, exec_call_ok h₁, Run.cons_outcome, exec_call_ok h₂,
      Run.cons_outcome, withPort, hnull]
    rfl

/-- **Over a null entry the request is refused.** -/
theorem run_vlanPortSet_of_null (hr : IsReply reply)
    (hnull : a.swInfo.brPortList.get (vlanPortOf request).toNat = .ok saiNullObjectId) (env : σ) :
    ∃ reply' w', EStateM.run (Handler.vlanPortSet.run E rt request reply) ⟨a, env, []⟩ =
      .ok reply' w' ∧ (AllOk SaiResp.ok w'.trace → replyStatus reply' = presteraCmdAckFailed) := by
  obtain ⟨htrace, hvalue⟩ := @run_vlanPortSet _ E rt request _ hr a env
  rcases hrun : EStateM.run (Handler.vlanPortSet.run E rt request reply) ⟨a, env, []⟩ with
    ⟨reply', w'⟩ | ⟨e, w'⟩
  · rw [hrun] at hvalue htrace
    refine ⟨reply', w', rfl, fun hall ↦ ?_⟩
    rw [show w'.trace = _ from htrace] at hall
    obtain hout | ⟨-, hnot⟩ := exec_vlanRequestPlan_of_null hnull env
    · rw [hout] at hvalue
      obtain ⟨-, ⟨hbad, -⟩ | ⟨-, hfailed⟩⟩ := hvalue
      · cases hbad
      · exact hfailed
    · exact absurd hall hnot
  · rw [hrun] at hvalue
    obtain hout | ⟨⟨api, r, hout⟩, -⟩ := exec_vlanRequestPlan_of_null hnull env
    · rw [hout] at hvalue
      cases hvalue
    · rw [hout] at hvalue
      cases hvalue

/-- An index read from the array is below its length. -/
theorem OidArray.lt_of_get {list : OidArray} {i : ℕ} {v : Oid} (h : list.get i = .ok v) :
    i < 64 := by
  rw [← list.length_eq]
  exact (List.getElem?_eq_some_iff.1 (OidArray.get_eq_ok_iff.1 h)).1

/-- **Over any other entry the request is carried out**, when SAI refuses nothing: its last call
enables the entry. -/
theorem run_vlanPortSet_of_entry (hr : IsReply reply)
    (hb : a.swInfo.brPortList.get (vlanPortOf request).toNat = .ok b) (hne : b ≠ saiNullObjectId)
    (hroom : KeepsRoom E) (hok : ∀ c s, (E c s).1.ok = true) (hcalloc : rt.vlanInfoCalloc = true)
    (env : σ) :
    ∃ reply' w', EStateM.run (Handler.vlanPortSet.run E rt request reply) ⟨a, env, []⟩ =
      .ok reply' w' ∧ replyStatus reply' = presteraCmdAckOk ∧ ∃ e ∈ w'.trace,
          e.1 = enableCall b := by
  obtain ⟨htrace, hvalue⟩ := @run_vlanPortSet _ E rt request _ hr a env
  obtain ⟨reply', w', hrun, -⟩ := @total_handler _ E rt request _ hroom hr .vlanPortSet
    (fun p hp ↦ by
      obtain rfl := Option.some.inj hp
      exact UInt32.lt_iff_toNat_lt.2 (OidArray.lt_of_get hb)) nofun nofun ⟨a, env, []⟩ trivial
  have hentry : ∀ c, a.swInfo.brPortList.get (vlanPortOf request).toNat = .ok c → c = b :=
    fun c hc ↦ Except.ok.inj (hc.symm.trans hb)
  obtain ⟨v, hv⟩ := @exists_finished_of_forall_ok _ _ _ _ _ retried _ hok
    (vlanRequestPlan rt a request) env
  rw [hrun, hv] at hvalue
  rw [hrun] at htrace
  cases v with
  | stuck => exact absurd trivial hvalue.1
  | failed =>
    -- The agent gives up for want of a bridge port or of memory only.
    have hends : (vlanRequestPlan rt a request).EndsWith (fun _ ↦ False) .failed :=
      endsWith_vlanPortPlan nofun (fun c hc hnull ↦ absurd ((hentry c hc).symm.trans hnull) hne)
        (fun hnone ↦ absurd (hcalloc.symm.trans hnone) nofun) fun _ _ _ ↦ Or.inr nofun
    obtain ⟨t, e, -, hfalse⟩ := hends.exists_last hv
    exact hfalse.elim
  | complete =>
    have hends : (vlanRequestPlan rt a request).EndsWith (· = enableCall b) .complete :=
      endsWith_vlanPortPlan nofun (fun _ _ _ ↦ nofun) (fun _ ↦ nofun) fun c hc ↦
        endsWith_lastCall (by rw [hentry c hc]; rfl)
    obtain ⟨t, e, ht, he⟩ := hends.exists_last hv
    refine ⟨reply', w', hrun, ?_, e, ?_, he⟩
    · obtain ⟨-, ⟨-, hgood⟩ | ⟨hbad, -⟩⟩ := hvalue
      · exact hgood
      · cases hbad
    · rw [show w'.trace = _ from htrace, ht]
      exact List.mem_append_right _ List.mem_cons_self

/-! ### One number, one port -/

/-- The run of a request from this state of the agent, before it made any call. -/
def runFrom (a : Agent) (E : SaiBackend σ) (rt : Runtime) (env : σ) (buf : List UInt8)
    (size : UInt64) (out : List UInt8) : EStateM.Result Fault (World σ) SaiagentMsg :=
  EStateM.run (saiagentIpcProcessReq E rt buf size (some out) (UInt64.ofNat saiagentMsgMaxSize))
    ⟨a, env, []⟩

/-- Whatever command names this port number, the only port it configures is `o`. -/
def PortCommandsConfigure (a : Agent) (port : UInt32) (o : Oid) : Prop :=
  ∀ (σ : Type) (E : SaiBackend σ) (rt : Runtime) (env : σ) (buf out : List UInt8) (size : UInt64)
    (handler : Handler), buf.length = saiagentMsgMaxSize → out.length = saiagentMsgMaxSize →
    selected a.ipcCbList buf size = some handler → port ∈ portOf handler buf →
    ∀ e ∈ (worldOf (runFrom a E rt env buf size out)).trace, ∀ x ∈ e.1.portOid, x = o

/-- VLAN_PORT_SET acts on the port `o`: the bridge port of `o` and no other becomes a member or is
enabled; where there is none, a request during which SAI refuses nothing is answered ACK_FAILED;
where there is one, it is enabled and the request acknowledged, when SAI refuses nothing and there
is memory. -/
structure ActsOn (L : PortLists) (a : Agent) (buf : List UInt8) (size : UInt64) (out : List UInt8)
    (o : Oid) : Prop where
  only : ∀ (σ : Type) (E : SaiBackend σ) (rt : Runtime) (env : σ),
    ∀ e ∈ (worldOf (runFrom a E rt env buf size out)).trace, ∀ b ∈ e.1.brPortOid,
      b ∈ L.brPorts ∧ L.underlying b = o
  refused : (∀ b ∈ L.brPorts, L.underlying b ≠ o) →
    ∀ (σ : Type) (E : SaiBackend σ) (rt : Runtime) (env : σ), ∃ reply w',
      runFrom a E rt env buf size out = .ok reply w' ∧
        (AllOk SaiResp.ok w'.trace → replyStatus reply = presteraCmdAckFailed)
  enabled : ∀ b ∈ L.brPorts, L.underlying b = o →
    ∀ (σ : Type) (E : SaiBackend σ) (rt : Runtime) (env : σ), KeepsRoom E →
      (∀ c s, (E c s).1.ok = true) → rt.vlanInfoCalloc = true → ∃ reply w',
        runFrom a E rt env buf size out = .ok reply w' ∧ replyStatus reply = presteraCmdAckOk ∧
          ∃ e ∈ w'.trace, e.1 = enableCall b

theorem runFrom_eq {buf out : List UInt8} {size : UInt64} {handler : Handler}
    (hbuf : buf.length = saiagentMsgMaxSize) (hsel : selected a.ipcCbList buf size = some handler)
    (env : σ) :
    runFrom a E rt env buf size out =
      EStateM.run (handler.run E rt (handedRequest buf size) (freshReply out)) ⟨a, env, []⟩ := by
  have hbuf4 : 4 ≤ buf.length := by
    rw [hbuf]
    decide
  have hselected : selected (⟨a, env, []⟩ : World σ).state.ipcCbList buf size = some handler := hsel
  rw [runFrom, run_processReq hbuf4, hselected]

/-- **The port commands configure the port of the number.** -/
theorem Initialised.portCommandsConfigure {L : PortLists} (h : Initialised L a)
    (hp : port.toUInt64 < a.swInfo.numPorts) :
    ∃ o, L.ports[port.toNat]? = some o ∧ PortCommandsConfigure a port o := by
  obtain ⟨o, ho, honly⟩ := h.exists_port hp
  refine ⟨o, ho, fun σ E rt env buf out size handler hbuf hout hsel hport e he x hx ↦ honly x ?_⟩
  have hfresh := isReply_freshReply hout
  rw [runFrom_eq hbuf hsel] at he
  rcases hplan : operationPlan rt a buf handler with _ | plan
  · -- What has no plan makes no call.
    have hquiet : Keeps (fun w : World σ ↦ w.trace)
        (handler.run E rt (handedRequest buf size) (freshReply out)) := by
      cases handler with
      | portInfoGet => exact Keeps.lift _
      | portAttrSet =>
        simp only [operationPlan] at hplan
        split at hplan
        · cases hplan
        · rw [Handler.run, saiagentIpcProcessPortAttrSet, if_neg ‹_›]
          exact Keeps.lift _
      | vlanPortSet | vlanPvidSet => cases hplan
      | switchInit | keepaliveInit | switchReset | portAttrGet | switchAttrSet
      | vlanCreate | vlanDelete | stpPortSet | fdbFlushPort | routerMpHashSet | routerVrCreate
      | routerVrDel | routerLpmAdd | routerLpmDel => cases hport
    have htrace : (worldOf (EStateM.run (handler.run E rt (handedRequest buf size) (freshReply out))
        ⟨a, env, []⟩)).trace = [] := hquiet ⟨a, env, []⟩
    rw [htrace] at he
    cases he
  · have hexec := @executes_handler σ E rt ⟨a, env, []⟩ handler (handedRequest buf size) _ _ hfresh
      hplan
    rw [hexec.trace, List.nil_append] at he
    refine (makes_operationPlan hplan hport).forall_trace (fun c r c' hc hagain ↦ ?_) _ e he x hx
    rw [(retried_objects hagain).2]
    exact hc

section ActsOn

variable {L : PortLists} {buf out : List UInt8} {size : UInt64} {o : Oid}

/-- A number from 64 on is read past the end of the array. -/
theorem lt_of_actsOn (hbuf : buf.length = saiagentMsgMaxSize)
    (hsel : selected a.ipcCbList buf size = some .vlanPortSet) (h : ActsOn L a buf size out o) :
    (PresteraMsgVlanReq.ofBuff buf).port < 64 := by
  by_contra hlt
  have hrun := @runFrom_eq _ calmSai (Runtime.calm 0) a buf out size _ hbuf hsel ()
  obtain ⟨w', hfault⟩ := @run_handler_of_le _ calmSai (Runtime.calm 0) ⟨a, (), []⟩
    (handedRequest buf size) (freshReply out) .vlanPortSet _ saneSai_calmSai.query_ok
    (@PortRequest.vlanPortSet buf) rfl nofun hlt
  by_cases hex : ∃ c ∈ L.brPorts, L.underlying c = o
  · obtain ⟨c, hc, hco⟩ := hex
    obtain ⟨reply, w'', hok, -⟩ := h.enabled c hc hco Unit calmSai (Runtime.calm 0) ()
      saneSai_calmSai.toKeepsRoom (fun _ _ ↦ rfl) rfl
    cases (hrun.symm.trans hok).symm.trans hfault
  · obtain ⟨reply, w'', hok, -⟩ := h.refused (fun c hc hco ↦ hex ⟨c, hc, hco⟩) Unit calmSai
      (Runtime.calm 0) ()
    cases (hrun.symm.trans hok).symm.trans hfault

/-- The entry is the bridge port of the port the request acts on. -/
theorem get_of_actsOn (hbuf : buf.length = saiagentMsgMaxSize)
    (hout : out.length = saiagentMsgMaxSize) (hsel : selected a.ipcCbList buf size =
      some .vlanPortSet) (h : ActsOn L a buf size out o) :
    a.swInfo.brPortList.get (PresteraMsgVlanReq.ofBuff buf).port.toNat = .ok
        (L.bridgePortOf o) := by
  have hfresh := isReply_freshReply hout
  have hrun := @runFrom_eq _ calmSai (Runtime.calm 0) a buf out size _ hbuf hsel ()
  have hget := a.swInfo.brPortList.get_of_lt (UInt32.lt_iff_toNat_lt.1 (lt_of_actsOn hbuf hsel h))
  generalize a.swInfo.brPortList.entries.get _ = b at hget
  rw [hget]
  by_cases hex : ∃ c ∈ L.brPorts, L.underlying c = o
  · -- The bridge port of `o` is enabled, and only the entry is ever named.
    obtain ⟨c, hc, hco⟩ := hex
    obtain ⟨reply, w', hok, -, e, he, heq⟩ := h.enabled c hc hco Unit calmSai (Runtime.calm 0) ()
      saneSai_calmSai.toKeepsRoom (fun _ _ ↦ rfl) rfl
    rw [hrun] at hok
    obtain ⟨hentry, -⟩ := brPortOid_of_mem_trace hfresh (b := c) (by rw [hok]; exact he)
      (by rw [heq]; rfl)
    rw [PortLists.bridgePortOf_of_mem hc hco]
    exact hget.symm.trans hentry
  · -- An entry that is not null would be enabled, and `o` has no bridge port.
    have hnone : ∀ c ∈ L.brPorts, L.underlying c ≠ o := fun c hc hco ↦ hex ⟨c, hc, hco⟩
    rw [PortLists.bridgePortOf_of_forall_ne hnone]
    refine congrArg Except.ok (by_contra fun hne ↦ ?_)
    obtain ⟨reply, w', hok, -, e, he, heq⟩ := @run_vlanPortSet_of_entry _ calmSai
      (Runtime.calm 0) a (handedRequest buf size) _ _ hfresh hget hne
      saneSai_calmSai.toKeepsRoom (fun _ _ ↦ rfl) rfl ()
    have hmem := h.only Unit calmSai (Runtime.calm 0) () e (by rw [hrun, hok]; exact he) b
      (by rw [heq]; rfl)
    exact hnone b hmem.1 hmem.2

/-- Over the bridge port of a port, the request acts on that port. -/
theorem actsOn_of_get (hbuf : buf.length = saiagentMsgMaxSize)
    (hout : out.length = saiagentMsgMaxSize) (hsel : selected a.ipcCbList buf size =
    some .vlanPortSet) (hget : a.swInfo.brPortList.get (PresteraMsgVlanReq.ofBuff buf).port.toNat =
      .ok (L.bridgePortOf o)) :
    ActsOn L a buf size out o := by
  have hfresh := isReply_freshReply hout
  have hrun : ∀ (σ : Type) (E : SaiBackend σ) (rt : Runtime) (env : σ),
      runFrom a E rt env buf size out = EStateM.run
        (Handler.vlanPortSet.run E rt (handedRequest buf size) (freshReply out)) ⟨a, env, []⟩ :=
    fun σ E rt env ↦ runFrom_eq hbuf hsel env
  refine ⟨fun σ E rt env e he b hb ↦ ?_, fun hnone σ E rt env ↦ ?_,
    fun b hb hbo σ E rt env hroom hok hcalloc ↦ ?_⟩
  · rw [hrun] at he
    obtain ⟨hentry, hne⟩ := brPortOid_of_mem_trace hfresh he hb
    exact PortLists.mem_of_bridgePortOf (Except.ok.inj (hget.symm.trans hentry)) hne
  · rw [PortLists.bridgePortOf_of_forall_ne hnone] at hget
    rw [hrun]
    exact @run_vlanPortSet_of_null σ E rt a (handedRequest buf size) _ hfresh hget env
  · rw [PortLists.bridgePortOf_of_mem hb hbo] at hget
    rw [hrun]
    exact @run_vlanPortSet_of_entry σ E rt a (handedRequest buf size) _ b hfresh hget
      (L.ne_null b hb) hroom hok hcalloc env

end ActsOn

/-- **When VLAN_PORT_SET acts on the port that port commands configure**: when the entry of
`br_port_list` under the number is the bridge port of the port, or null where the port has none. -/
theorem samePort_iff {L : PortLists} {buf out : List UInt8} {size : UInt64}
    (hbuf : buf.length = saiagentMsgMaxSize) (hout : out.length = saiagentMsgMaxSize)
    (hinit : Initialised L a) (hsel : selected a.ipcCbList buf size = some .vlanPortSet)
    (hp : (PresteraMsgVlanReq.ofBuff buf).port.toUInt64 < a.swInfo.numPorts) :
    ∃ o, L.ports[(PresteraMsgVlanReq.ofBuff buf).port.toNat]? = some o ∧
      PortCommandsConfigure a (PresteraMsgVlanReq.ofBuff buf).port o ∧
      (ActsOn L a buf size out o ↔
        a.swInfo.brPortList.entries[(PresteraMsgVlanReq.ofBuff buf).port.toNat]? =
          some (L.bridgePortOf o)) := by
  obtain ⟨o, ho, hconf⟩ := hinit.portCommandsConfigure hp
  refine ⟨o, ho, hconf, ?_⟩
  rw [← OidArray.get_eq_ok_iff]
  exact ⟨get_of_actsOn hbuf hout hsel, actsOn_of_get hbuf hout hsel⟩

/-- A SAI that returns these lists and refuses nothing. -/
def listingSai (L : PortLists) : SaiBackend Unit
  | .getSwitchAttribute _ _ _, s => (⟨saiStatusSuccess, none,
      [⟨.switchPortList, .objlist (UInt32.ofNat L.ports.length)⟩,
        ⟨.switchDefault1qBridgeId, .oid 1⟩, ⟨.switchDefaultVlanId, .oid 2⟩], L.ports⟩, s)
  | .getBridgeAttribute _ _ _, s => (⟨saiStatusSuccess, none,
      [⟨.bridgePortList, .objlist (UInt32.ofNat L.brPorts.length)⟩], L.brPorts⟩, s)
  | _, s => (⟨saiStatusSuccess, some 7, [], []⟩, s)

/-- The world before the first request over that SAI. -/
def listedWorld : World Unit := ⟨Agent.zero, (), []⟩

/-- The agent that brought its switch up over that SAI and takes VLAN_PORT_SET. -/
def listedAgent (L : PortLists) : Agent :=
  (worldOf (EStateM.run (saiSwitchInit (listingSai L) (Runtime.calm 0)) listedWorld)).state.register
    Handler.vlanPortSet.cmdType .vlanPortSet

theorem initialised_listedAgent {L : PortLists} (hlen : L.ports.length < 2 ^ 32)
    (hvalue : valueOf (EStateM.run (saiSwitchInit (listingSai L) (Runtime.calm 0)) listedWorld) =
      .ok saiStatusSuccess) : Initialised L (listedAgent L) := by
  refine ⟨Unit, listingSai L, Runtime.calm 0, listedWorld, _,
    ⟨fun o s _ ↦ ⟨rfl, ?_⟩, fun o s _ ↦ rfl⟩, rfl, ?_, rfl, rfl, rfl⟩
  · exact UInt32.toNat_ofNat_of_lt' hlen
  · rcases hrun : EStateM.run (saiSwitchInit (listingSai L) (Runtime.calm 0)) listedWorld with
      ⟨s, w'⟩ | ⟨e, w'⟩
    · rw [hrun] at hvalue
      cases hvalue
      rfl
    · rw [hrun] at hvalue
      cases hvalue

/-- Two ports, and their bridge ports in the same order. -/
def alignedLists : PortLists where
  ports := [16, 17]
  brPorts := [32, 33]
  underlying b := if b = 32 then 16 else 17
  ports_nodup := by decide
  brPorts_nodup := by decide
  underlying_mem := by simp
  underlying_inj := by simp
  ne_null := by simp [saiNullObjectId]

/-- Over lists in the same order, VLAN_PORT_SET of port 0 acts on it. -/
theorem samePort_iff_aligned :
    ActsOn alignedLists (listedAgent alignedLists) (bareRequest .vlanPortSet) 16 zeroBuffer 16 := by
  have hsel : selected (listedAgent alignedLists).ipcCbList (bareRequest .vlanPortSet) 16 =
      some .vlanPortSet := selected_register (by decide) (cmdOf_bareRequest _)
  obtain ⟨o, ho, -, h⟩ := samePort_iff (length_bareRequest .vlanPortSet) length_zeroBuffer
    (initialised_listedAgent (L := alignedLists) (by decide) (by decide +kernel)) hsel
    (by decide +kernel)
  obtain rfl := Option.some.inj (ho.symm.trans (by decide +kernel : _ = some (16 : Oid)))
  exact h.2 (by decide +kernel)

/-- The same, with the bridge ports the other way round. -/
def swappedLists : PortLists where
  ports := [16, 17]
  brPorts := [33, 32]
  underlying b := if b = 32 then 16 else 17
  ports_nodup := by decide
  brPorts_nodup := by decide
  underlying_mem := by simp
  underlying_inj := by simp
  ne_null := by simp [saiNullObjectId]

/-- Over lists in different orders, VLAN_PORT_SET of port 0 enables the bridge port of port 1. -/
theorem swapped_lists_mixed_up : Initialised swappedLists (listedAgent swappedLists) ∧
    PortCommandsConfigure (listedAgent swappedLists) 0 16 ∧
    ¬ActsOn swappedLists (listedAgent swappedLists) (bareRequest .vlanPortSet) 16
        zeroBuffer 16 := by
  have hinit : Initialised swappedLists (listedAgent swappedLists) :=
    initialised_listedAgent (by decide) (by decide +kernel)
  obtain ⟨o, ho, hconf⟩ :=
    hinit.portCommandsConfigure (show (0 : UInt32).toUInt64 < _ by decide +kernel)
  obtain rfl := Option.some.inj (ho.symm.trans (by decide +kernel : _ = some (16 : Oid)))
  refine ⟨hinit, hconf, fun h ↦ ?_⟩
  have hmixed : ∃ e ∈ (worldOf (runFrom (listedAgent swappedLists) calmSai (Runtime.calm 0) ()
      (bareRequest .vlanPortSet) 16 zeroBuffer)).trace,
        (33 : Oid) ∈ e.1.brPortOid := by decide +kernel
  obtain ⟨e, he, hb⟩ := hmixed
  exact absurd (h.only Unit calmSai (Runtime.calm 0) () e he 33 hb).2 (by decide)

end SaiAgent
