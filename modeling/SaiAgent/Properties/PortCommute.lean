import SaiAgent.Properties.PortRefinement
import SaiAgent.Properties.VlanCache

/-!
# Requests for different ports

Two requests that configure different ports should be answered alike and lead to the same settings
in either order. `portCommands_commute_iff` says when they do: the agent's handlers carry out steps
of `VlanModel`, and those commute. Only the settings are compared (`settingsOf`); which identifiers
SAI chose and how the cache is ordered does not matter.
-/

namespace SaiAgent

open Effects Effects.Proc

variable {σ : Type} {E E₁ : SaiBackend σ} {view : σ → SaiStore} {accepts : SaiCall → Bool}
  {w : World σ} {i i₁ i₂ : SessionInput} {handler handler₁ handler₂ : Handler}
  {p p₁ p₂ b b₁ b₂ : Oid}

/-! ### One request -/

/-- The settings in SAI and in the cache. -/
def settingsOf (view : σ → SaiStore) (w : World σ) : VlanModel :=
  abstraction w.state.vlanList (view w.env)

/-- What a request asks for depends on `sw_info` only. -/
theorem Asks.of_swInfo {rt : Runtime} {a a' : Agent} {buf : List UInt8} {setting : PortSetting}
    (h : Asks rt a buf handler setting) (ha : a'.swInfo = a.swInfo) :
        Asks rt a' buf handler setting := by
  rcases h with ⟨hb, hget⟩ | hget | ⟨hattr, hget⟩
  · exact .vlanPortSet hb (ha ▸ hget)
  · exact .vlanPvidSet (ha ▸ hget)
  · exact .phyModeSet hattr (ha ▸ hget)

/-- **A request carries out its step**, and the agent is what it was but for the cache. -/
theorem handle_setting (hE : ExactSai E view accepts) (hk : Known view w)
    (hsel : selected w.state.ipcCbList i.buf.bytes i.size = some handler) {setting : PortSetting}
    (h : Asks i.rt w.state i.buf.bytes handler setting) :
    ∃ r w', Session.handle E w i = .ok r w' ∧
      ackOf (freshReply i.out.bytes)
        ((settingsOf view w).step accepts w.state.swInfo.switchOid setting).1 = .ok r ∧
      settingsOf view w' = ((settingsOf view w).step accepts w.state.swInfo.switchOid setting).2 ∧
      Known view w' ∧ w'.state.swInfo = w.state.swInfo ∧
          w'.state.ipcCbList = w.state.ipcCbList := by
  have hreply := isReply_freshReply i.out.length_eq
  have hhandle := @Session.handle_of_selected σ E ⟨w, false⟩ i handler hsel
  obtain ⟨r, w', hrun, hack, list, hstate, hx⟩ :=
    @refines_setting σ E view accepts i.rt w.state (view w.env) hE hk
      (handedRequest i.buf.bytes i.size) _ hreply handler setting h w ⟨rfl, rfl⟩
  have hknown := @preserves_known σ E i.rt view (handedRequest i.buf.bytes i.size) _ hE.toStoreSai
    hreply handler w hk
  rw [hrun] at hknown
  refine ⟨r, w', hhandle.trans hrun, hack, ?_, hknown, by rw [hstate], by rw [hstate]⟩
  rw [settingsOf, hstate]
  exact hx

/-- An acknowledgement says which one it is. -/
theorem replyStatus_ackOf {reply r : SaiagentMsg} (hr : IsReply reply) {ok : Bool}
    (h : ackOf reply ok = .ok r) : replyStatus r = presteraCmdAckOk ↔ ok = true := by
  obtain ⟨-, hp⟩ := isReply_of_putReplyAck hr h
  rw [replyStatus_ack hp, ackResponse_status_eq_ok]
  rcases ok with _ | _ <;> decide

theorem ackOf_inj {reply r : SaiagentMsg} (hr : IsReply reply) {ok ok' : Bool}
    (h : ackOf reply ok = .ok r) (h' : ackOf reply ok' = .ok r) : ok = ok' :=
  Bool.eq_iff_iff.2 ((replyStatus_ackOf hr h).symm.trans (replyStatus_ackOf hr h'))

/-! ### Two requests -/

/-- The request configures a port below `num_ports` that has these objects. -/
structure ConfiguresPort (w : World σ) (i : SessionInput) (handler : Handler)
    (p b : Oid) : Prop where
  selected : selected w.state.ipcCbList i.buf.bytes i.size = some handler
  request : PortRequest i.buf.bytes handler
  configures : handler ≠ .portInfoGet
  port : ∃ port ∈ portOf handler i.buf.bytes, port.toUInt64 < w.state.swInfo.numPorts ∧
    w.state.swInfo.portList.get port.toNat = .ok p ∧
      w.state.swInfo.brPortList.get port.toNat = .ok b
  port_ne : p ≠ saiNullObjectId
  brPort_ne : b ≠ saiNullObjectId

/-- The setting is one of the port with these objects. -/
def PortSetting.On (p b : Oid) : PortSetting → Prop
  | .vlanPortSet _ b' _ _ => b' = b
  | .vlanPvidSet p' _ => p' = p
  | .phyModeSet p' _ => p' = p

theorem ConfiguresPort.asks (h : ConfiguresPort w i handler p b) :
    ∃ setting : PortSetting, Asks i.rt w.state i.buf.bytes handler setting ∧ setting.On p b := by
  obtain ⟨port, hport, -, hget, hbrget⟩ := h.port
  rcases h.request with _ | _ | hattr | _
  · obtain rfl := Option.some.inj hport
    exact ⟨_, .vlanPortSet h.brPort_ne hbrget, rfl⟩
  · obtain rfl := Option.some.inj hport
    exact ⟨_, .vlanPvidSet hget, rfl⟩
  · obtain rfl := Option.some.inj hport
    exact ⟨_, .phyModeSet hattr hget, rfl⟩
  · exact absurd rfl h.configures

theorem apart_of_on {s₁ s₂ : PortSetting} (h₁ : s₁.On p₁ b₁) (h₂ : s₂.On p₂ b₂) (hp : p₁ ≠ p₂)
    (hb : b₁ ≠ b₂) : VlanModel.Apart s₁ s₂ := by
  rcases s₁ with _ | _ | _ <;> rcases s₂ with _ | _ | _ <;> first | exact trivial | skip
  · obtain rfl := show _ = b₁ from h₁
    obtain rfl := show _ = b₂ from h₂
    exact hb
  · obtain rfl := show _ = p₁ from h₁
    obtain rfl := show _ = p₂ from h₂
    exact hp
  · obtain rfl := show _ = p₁ from h₁
    obtain rfl := show _ = p₂ from h₂
    exact hp

/-- **The requests commute**: in either order each of them has the same reply, and the settings in
the end are the same. -/
structure RequestsCommute (E : SaiBackend σ) (view : σ → SaiStore) (w : World σ)
    (i₁ i₂ : SessionInput) : Prop where
  first : ∃ r, valueOf (Session.handle E w i₁) = .ok r ∧
    valueOf (Session.handle E (worldOf (Session.handle E w i₂)) i₁) = .ok r
  second : ∃ r, valueOf (Session.handle E (worldOf (Session.handle E w i₁)) i₂) = .ok r ∧
    valueOf (Session.handle E w i₂) = .ok r
  final : settingsOf view (worldOf (Session.handle E (worldOf (Session.handle E w i₁)) i₂)) =
    settingsOf view (worldOf (Session.handle E (worldOf (Session.handle E w i₂)) i₁))

/-- Both requests are VLAN_PORT_SETs that come to create one VLAN, and only one of them finds memory
to cache it. -/
structure Contend (accepts : SaiCall → Bool) (view : σ → SaiStore) (w : World σ)
    (i₁ i₂ : SessionInput) : Prop where
  vid : vlanIdOf (handedRequest i₁.buf.bytes i₁.size) = vlanIdOf
    (handedRequest i₂.buf.bytes i₂.size)
  queries : (accepts (.saiApiQuery .vlan) && accepts (.saiApiQuery .bridge)) = true
  uncached : saiagentVlanGet w.state.vlanList (vlanIdOf (handedRequest i₁.buf.bytes i₁.size)) = none
  absent : (view w.env).vlans (vlanIdOf (handedRequest i₁.buf.bytes i₁.size)) = none
  created : accepts (createVlanCall w.state.swInfo.switchOid
    (vlanIdOf (handedRequest i₁.buf.bytes i₁.size))) = true
  memory : i₁.rt.vlanInfoCalloc ≠ i₂.rt.vlanInfoCalloc

theorem contended_iff {s₁ s₂ : PortSetting} (h₁ : Asks i₁.rt w.state i₁.buf.bytes handler₁ s₁)
    (h₂ : Asks i₂.rt w.state i₂.buf.bytes handler₂ s₂) :
    (settingsOf view w).Contended accepts w.state.swInfo.switchOid s₁ s₂ ↔
      handler₁ = .vlanPortSet ∧ handler₂ = .vlanPortSet ∧ Contend accepts view w i₁ i₂ := by
  rcases h₁ with _ | _ | _
  · rcases h₂ with _ | _ | _
    · constructor
      · rintro ⟨hvid, hq, hslot, hcreate, hmem⟩
        exact ⟨rfl, rfl, hvid, hq, Option.map_eq_none_iff.1 (congrArg VlanSlot.cached hslot),
          Option.map_eq_none_iff.1 (congrArg VlanSlot.members hslot), hcreate, hmem⟩
      · rintro ⟨-, -, h⟩
        exact ⟨h.vid, h.queries, VlanSlot.ext (Option.map_eq_none_iff.2 h.absent)
          (Option.map_eq_none_iff.2 h.uncached), h.created, h.memory⟩
    · exact iff_of_false id fun h ↦ nomatch h.2.1
    · exact iff_of_false id fun h ↦ nomatch h.2.1
  · rcases h₂ with _ | _ | _ <;> exact iff_of_false id fun h ↦ nomatch h.1
  · rcases h₂ with _ | _ | _ <;> exact iff_of_false id fun h ↦ nomatch h.1

/-- From one state of the agent and SAI. -/
theorem requestsCommute_iff (hE : ExactSai E view accepts) (hk : Known view w)
    (h₁ : ConfiguresPort w i₁ handler₁ p₁ b₁) (h₂ : ConfiguresPort w i₂ handler₂ p₂ b₂)
    (hp : p₁ ≠ p₂) (hb : b₁ ≠ b₂) :
    RequestsCommute E view w i₁ i₂ ↔
      ¬(handler₁ = .vlanPortSet ∧ handler₂ = .vlanPortSet ∧ Contend accepts view w i₁ i₂) := by
  obtain ⟨s₁, hasks₁, hon₁⟩ := h₁.asks
  obtain ⟨s₂, hasks₂, hon₂⟩ := h₂.asks
  -- Each request alone, and each after the other: the table and the ports stay the same.
  obtain ⟨r₁, w₁, hrun₁, hack₁, hx₁, hk₁, hsw₁, htable₁⟩ := handle_setting hE hk h₁.selected hasks₁
  obtain ⟨r₂, w₂, hrun₂, hack₂, hx₂, hk₂, hsw₂, htable₂⟩ := handle_setting hE hk h₂.selected hasks₂
  obtain ⟨r₁₂, w₁₂, hrun₁₂, hack₁₂, hx₁₂, -⟩ :=
    handle_setting hE hk₁ (htable₁.symm ▸ h₂.selected) (hasks₂.of_swInfo hsw₁)
  obtain ⟨r₂₁, w₂₁, hrun₂₁, hack₂₁, hx₂₁, -⟩ :=
    handle_setting hE hk₂ (htable₂.symm ▸ h₁.selected) (hasks₁.of_swInfo hsw₂)
  rw [hx₁, hsw₁] at hack₁₂ hx₁₂
  rw [hx₂, hsw₂] at hack₂₁ hx₂₁
  rw [← contended_iff hasks₁ hasks₂, ← VlanModel.commutes_iff (apart_of_on hon₁ hon₂ hp hb)]
  constructor
  · rintro ⟨⟨r, hr, hr'⟩, ⟨s, hs, hs'⟩, hfinal⟩
    rw [hrun₁] at hr hs hfinal
    rw [hrun₂] at hr' hs' hfinal
    simp only [worldOf_ok, valueOf_ok, hrun₁₂, hrun₂₁, Except.ok.injEq] at hr hr' hs hs' hfinal
    subst hr hs
    rw [hr'] at hack₂₁
    rw [hs'] at hack₂
    refine ⟨ackOf_inj (isReply_freshReply i₁.out.length_eq) hack₁ hack₂₁,
      ackOf_inj (isReply_freshReply i₂.out.length_eq) hack₁₂ hack₂, ?_⟩
    rw [← hx₁₂, ← hx₂₁]
    exact hfinal
  · rintro ⟨hfirst, hsecond, hfinal⟩
    rw [hfirst] at hack₁
    rw [hsecond] at hack₁₂
    refine ⟨⟨r₁, by rw [hrun₁]; rfl, ?_⟩, ⟨r₂, ?_, by rw [hrun₂]; rfl⟩, ?_⟩
    · rw [hrun₂, worldOf_ok, hrun₂₁]
      exact hack₂₁.symm.trans hack₁
    · rw [hrun₁, worldOf_ok, hrun₁₂]
      exact hack₁₂.symm.trans hack₂
    · rw [hrun₁, hrun₂, worldOf_ok, worldOf_ok, hrun₁₂, hrun₂₁, worldOf_ok, worldOf_ok, hx₁₂, hx₂₁]
      exact hfinal

/-! ### Reachable states -/

/-- **Requests for different ports commute**, from every state a session over a store SAI reaches,
exactly when they do not come to create one VLAN with memory to cache it for one of them only. -/
theorem portCommands_commute_iff (hE₁ : StoreSai E₁ view) (hE : ExactSai E view accepts) (env : σ)
    (is : List SessionInput)
    (h₁ : ConfiguresPort (Session.exec E₁ (Session.start env) is).world i₁ handler₁ p₁ b₁)
    (h₂ : ConfiguresPort (Session.exec E₁ (Session.start env) is).world i₂ handler₂ p₂ b₂)
    (hp : p₁ ≠ p₂) (hb : b₁ ≠ b₂) :
    RequestsCommute E view (Session.exec E₁ (Session.start env) is).world i₁ i₂ ↔
      ¬(handler₁ = .vlanPortSet ∧ handler₂ = .vlanPortSet ∧
        Contend accepts view (Session.exec E₁ (Session.start env) is).world i₁ i₂) :=
  requestsCommute_iff hE (known_exec E₁ hE₁ env is) h₁ h₂ hp hb

/-- The agent of `listSai` after SWITCH_INIT. -/
def listWorld : World ListStore :=
  (Session.exec listSai (Session.start ListStore.empty) [bareInput .switchInit]).world

/-- A VLAN_PORT_SET of one of its ports. -/
theorem configuresPort_listWorld {port : UInt32} {vid : UInt16} {isMember isTagged : UInt8}
    {rt : Runtime} {p b : Oid} (hsel : selected listWorld.state.ipcCbList
        (vlanPortInput port vid isMember isTagged rt).buf.bytes 16 = some .vlanPortSet)
    (hport : ∃ port' ∈ portOf .vlanPortSet (vlanPortInput port vid isMember isTagged rt).buf.bytes,
      port'.toUInt64 < listWorld.state.swInfo.numPorts ∧
        listWorld.state.swInfo.portList.get port'.toNat = .ok p ∧
        listWorld.state.swInfo.brPortList.get port'.toNat = .ok b)
    (hp : p ≠ saiNullObjectId) (hb : b ≠ saiNullObjectId) :
    ConfiguresPort listWorld (vlanPortInput port vid isMember isTagged rt) .vlanPortSet p b :=
  ⟨hsel, .vlanPortSet, nofun, hport, hp, hb⟩

/-- The first port. -/
theorem configuresFirst (rt : Runtime) : ConfiguresPort listWorld
    (vlanPortInput 0 10 1 1 rt) .vlanPortSet 16 32 :=
  configuresPort_listWorld (show selected _ (vlanPortInput 0 10 1 1 (Runtime.calm 0)).buf.bytes 16 =
      _ by
    decide +kernel) ⟨0, rfl, by decide +kernel, rfl, rfl⟩ (by decide) (by decide)

/-- The second one. -/
theorem configuresSecond (rt : Runtime) :
    ConfiguresPort listWorld (vlanPortInput 1 10 1 0 rt) .vlanPortSet 17 33 :=
  configuresPort_listWorld (show selected _ (vlanPortInput 1 10 1 0 (Runtime.calm 0)).buf.bytes 16 =
      _ by
    decide +kernel) ⟨1, rfl, by decide +kernel, rfl, rfl⟩ (by decide) (by decide)

/-- Two ports are put into the VLAN 10 in either order. -/
theorem portCommands_commute_listWorld : RequestsCommute listSai ListStore.view listWorld
    (vlanPortInput 0 10 1 1 (Runtime.calm 0)) (vlanPortInput 1 10 1 0 (Runtime.calm 0)) :=
  (portCommands_commute_iff storeSai_listSai exactSai_listSai ListStore.empty
    [bareInput .switchInit] (configuresFirst _) (configuresSecond _) (by decide) (by decide)).2
      fun h ↦ h.2.2.memory rfl

/-- The same with memory for one of the requests only: the one that comes second finds the VLAN
cached, or finds it there and not cached. -/
theorem contending_ports :
    ConfiguresPort listWorld (vlanPortInput 0 10 1 1 (Runtime.calm 0)) .vlanPortSet 16 32 ∧
    ConfiguresPort listWorld (vlanPortInput 1 10 1 0 { Runtime.calm 0 with vlanInfoCalloc := false
      }) .vlanPortSet 17 33 ∧
    ¬RequestsCommute listSai ListStore.view listWorld (vlanPortInput 0 10 1 1 (Runtime.calm 0))
      (vlanPortInput 1 10 1 0 { Runtime.calm 0 with vlanInfoCalloc := false }) := by
  refine ⟨configuresFirst _, configuresSecond _, fun h ↦ ?_⟩
  have hcached := congrArg (fun x : VlanModel ↦ (x.slots 10).cached) h.final
  revert hcached
  decide +kernel

end SaiAgent
