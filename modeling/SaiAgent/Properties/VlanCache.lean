import SaiAgent.Properties.Keepalive
import SaiAgent.Properties.ListSai
import SaiAgent.Properties.VlanLife

/-!
# The VLAN cache against SAI

`saiagent_vlan.c` caches the VLANs it knows in a list without ever removing one, and SAI keeps the
VLANs. The two should mirror each other (`MirrorsSai`): one entry for a VLAN id, every entry a VLAN
of the switch, every VLAN the agent created in the list, and no VLAN id sent to `create_vlan` that
is there.

* `cacheInvariant_step`: what a request must not do to keep this (`KeepsMirror`);
* `mirrorsSai_exec`: where no request of a session does it, every state of the session is such a
  mirror.
-/

namespace SaiAgent

open Effects Effects.Proc Effects.Plan Effects.Run

variable {σ : Type} {E : SaiBackend σ} {rt : Runtime} {w w' : World σ} {view : σ → SaiStore}
  {request reply : SaiagentMsg} {list : List VlanInfo} {S S' : SaiStore} {v : UInt16} {o : Oid}

/-! ### The list and the store -/

/-- The list mirrors the store. -/
structure Mirrors (list : List VlanInfo) (S : SaiStore) : Prop where
  /-- A VLAN id has one entry at most. -/
  nodup : (list.map VlanInfo.id).Nodup
  /-- What is cached is a VLAN of the switch. -/
  live : ∀ e ∈ list, S.vlans e.id = some e.oid
  /-- What the agent created is cached; the switch comes with its default VLAN. -/
  complete : ∀ {v o}, S.vlans v = some o → o ≠ S.defaultVlan → saiagentVlanGet list v = some ⟨v, o⟩

namespace Mirrors

/-- An entry is found under its id. -/
theorem get_of_mem (h : Mirrors list S) {e : VlanInfo} (he : e ∈ list) :
    saiagentVlanGet list e.id = some e := by
  have hsome : (saiagentVlanGet list e.id).isSome = true :=
    List.find?_isSome.2 ⟨e, he, decide_eq_true rfl⟩
  obtain ⟨e', he'⟩ := Option.isSome_iff_exists.1 hsome
  obtain ⟨hmem, hid⟩ := mem_of_saiagentVlanGet he'
  have hlive := h.live e' hmem
  rw [hid, h.live e he] at hlive
  rw [he']
  exact congrArg some (congrArg₂ VlanInfo.mk hid (Option.some.inj hlive).symm)

/-- With the default VLAN in it, the list has every VLAN. -/
theorem get_of_vlans (h : Mirrors list S) (hd : ∃ e ∈ list, e.oid = S.defaultVlan)
    (hv : S.vlans v = some o) : saiagentVlanGet list v = some ⟨v, o⟩ := by
  by_cases ho : o = S.defaultVlan
  · obtain ⟨e, he, heq⟩ := hd
    have hvid := S.vidOf_of_vlans (h.live e he)
    rw [heq, ← ho, S.vidOf_of_vlans hv] at hvid
    obtain rfl := Option.some.inj hvid
    rw [h.get_of_mem he, ho, ← heq]
  · exact h.complete hv ho

theorem congr (h : Mirrors list S) (hS : S'.vlanPart = S.vlanPart) : Mirrors list S' := by
  have hvlans : S'.vlans = S.vlans := congrArg Prod.fst hS
  have hdefault : S'.defaultVlan = S.defaultVlan := congrArg (fun p ↦ p.2.2) hS
  refine ⟨h.nodup, fun e he ↦ ?_, fun hv ho ↦ ?_⟩
  · rw [hvlans]
    exact h.live e he
  · rw [hvlans] at hv
    rw [hdefault] at ho
    exact h.complete hv ho

/-- A VLAN is created and cached. -/
theorem addVlan (h : Mirrors list S) (hv : S.vlans v = none) (ho : S.vidOf o = none) :
    Mirrors (⟨v, o⟩ :: list) (S.addVlan v o ho) := by
  have hne : ∀ e ∈ list, e.id ≠ v := by
    rintro e he rfl
    cases (h.live e he).symm.trans hv
  refine ⟨List.nodup_cons.2 ⟨fun hmem ↦ ?_, h.nodup⟩, fun e he ↦ ?_, fun {v' o'} hv' ho' ↦ ?_⟩
  · obtain ⟨e, he, hid⟩ := List.mem_map.1 hmem
    exact hne e he hid
  · show Function.update S.vlans v (some o) e.id = _
    obtain rfl | he := List.mem_cons.1 he
    · exact Function.update_self ..
    · rw [Function.update_of_ne (hne e he)]
      exact h.live e he
  · have hv' : Function.update S.vlans v (some o) v' = some o' := hv'
    rw [saiagentVlanGet_cons]
    by_cases heq : v = v'
    · subst heq
      rw [Function.update_self] at hv'
      rw [if_pos rfl, Option.some.inj hv']
    · rw [Function.update_of_ne (Ne.symm heq)] at hv'
      rw [if_neg heq]
      exact h.complete hv' ho'

/-- A new switch, and nothing cached. -/
theorem of_new_switch (hvlans : S.vlans = Function.update (fun _ ↦ none) v (some S.defaultVlan)) :
    Mirrors [] S := by
  refine ⟨List.nodup_nil, fun e he ↦ absurd he List.not_mem_nil,
    fun {v' o'} hv' ho' ↦ absurd ?_ ho'⟩
  rw [hvlans, Function.update_apply] at hv'
  obtain ⟨-, h⟩ := Option.ite_none_right_eq_some.1 hv'
  exact (Option.some.inj h).symm

/-- A VLAN of the switch that is not cached is its default VLAN; it is cached now. -/
theorem push (h : Mirrors list S) (hv : S.vlans v = some o) (hne : ∀ e ∈ list, e.oid ≠ o) :
    o = S.defaultVlan ∧ Mirrors (⟨v, o⟩ :: list) S := by
  have hid : ∀ e ∈ list, e.id ≠ v := by
    rintro e he rfl
    exact hne e he (Option.some.inj ((h.live e he).symm.trans hv))
  have hdefault : o = S.defaultVlan := by
    by_contra ho
    exact hne _ (List.mem_of_find?_eq_some (h.complete hv ho)) rfl
  refine ⟨hdefault, List.nodup_cons.2 ⟨fun hmem ↦ ?_, h.nodup⟩, fun e he ↦ ?_,
    fun {v' o'} hv' ho' ↦ ?_⟩
  · obtain ⟨e, he, heq⟩ := List.mem_map.1 hmem
    exact hid e he heq
  · obtain rfl | he := List.mem_cons.1 he
    · exact hv
    · exact h.live e he
  · rw [saiagentVlanGet_cons, if_neg]
    · exact h.complete hv' ho'
    · rintro rfl
      exact ho' ((Option.some.inj (hv'.symm.trans hv)).trans hdefault)

end Mirrors

/-! ### The agent and SAI -/

variable (view) in
/-- **The cache mirrors SAI**, and while VLAN_PORT_SET is dispatched, every VLAN of the switch is
found in it, so that none is created a second time. -/
structure MirrorsSai (w : World σ) : Prop where
  mirrors : Mirrors w.state.vlanList (view w.env)
  reused : w.state.ipcCbList PresteraCmdType.vlanPortSet ≠ none →
    ∀ {v o}, (view w.env).vlans v = some o → saiagentVlanGet w.state.vlanList v = some ⟨v, o⟩

variable (view) in
/-- What carries the mirror from one request to the next. -/
structure CacheInvariant (w : World σ) : Prop where
  table : HasReachableTable w
  mirrors : Mirrors w.state.vlanList (view w.env)
  defaultCached : w.state.ipcCbList PresteraCmdType.vlanPortSet ≠ none →
    ∃ e ∈ w.state.vlanList, e.oid = (view w.env).defaultVlan

theorem CacheInvariant.mirrorsSai (h : CacheInvariant view w) : MirrorsSai view w :=
  ⟨h.mirrors, fun hreg ↦ h.mirrors.get_of_vlans (h.defaultCached hreg)⟩

/-- The mirror is about the cache, the VLANs and one entry of the table. -/
theorem CacheInvariant.of_view {S : SaiStore} (htable : HasReachableTable w)
    (hview : vlanView view w = (list, S.vlanPart)) (hm : Mirrors list S)
    (hd : w.state.ipcCbList PresteraCmdType.vlanPortSet ≠ none →
      ∃ e ∈ list, e.oid = S.defaultVlan) :
    CacheInvariant view w := by
  have hlist : w.state.vlanList = list := congrArg Prod.fst hview
  have hpart : (view w.env).vlanPart = S.vlanPart := congrArg Prod.snd hview
  refine ⟨htable, hlist ▸ hm.congr hpart, fun h ↦ ?_⟩
  obtain ⟨e, he, heq⟩ := hd h
  exact ⟨e, hlist ▸ he, heq.trans (congrArg (fun p ↦ p.2.2) hpart).symm⟩

/-! ### VLAN_PORT_SET -/

/-- Where a VLAN is created, there must be memory for its entry. -/
theorem cacheInvariant_vlanPortSet (hE : StoreSai E view) (h : CacheInvariant view w)
    (hmem : CreatesVlan E w (vlanIdOf request) (vlanPortOf request) → rt.vlanInfoCalloc = true) :
    CacheInvariant view (worldOf (EStateM.run (Handler.vlanPortSet.run E rt request reply) w)) := by
  have htable := @preserves_reachableTable _ E rt .vlanPortSet request reply w h.table
  have hreg : (worldOf (EStateM.run (Handler.vlanPortSet.run E rt request reply)
      w)).state.ipcCbList = w.state.ipcCbList := by
    rw [worldOf_vlanPortSet]
    exact keeps_saiVlanAddPortMember (f := fun w : World σ ↦ w.state.ipcCbList) (fun _ _ _ ↦ rfl)
      (fun _ _ ↦ rfl) _ _ _ w
  obtain ⟨hsame, hnew⟩ := @vlanView_saiVlanAddPortMember _ E rt _ hE w (vlanIdOf request)
    (vlanPortOf request) ((PresteraMsgVlanReq.ofBuff (request.buff.getD [])).isTagged ≠ 0)
  rw [← @worldOf_vlanPortSet _ _ _ _ reply] at hsame hnew
  by_cases hc : CreatesVlan E w (vlanIdOf request) (vlanPortOf request)
  · obtain ⟨hnone, o, ho, hview⟩ := hnew hc
    rw [if_pos (hmem hc)] at hview
    refine CacheInvariant.of_view htable hview (h.mirrors.addVlan hnone ho) fun hr ↦ ?_
    obtain ⟨e, he, heq⟩ := h.defaultCached (hreg ▸ hr)
    exact ⟨e, List.mem_cons_of_mem _ he, heq⟩
  · exact CacheInvariant.of_view htable (hsame hc) h.mirrors fun hr ↦ h.defaultCached (hreg ▸ hr)

/-! ### SWITCH_INIT -/

/-- What a SWITCH_INIT must be like to keep the mirror. -/
structure InitKeepsMirror (E : SaiBackend σ) (view : σ → SaiStore) (rt : Runtime)
    (w : World σ) : Prop where
  /-- Where it creates a switch, nothing is cached. -/
  empty : CreatesSwitch E rt w → w.state.vlanList = []
  /-- Where it caches the VLAN `sw_info` names as the default one, that is the one of a switch it
  has just created, or the switch is the one there was and this VLAN of it is not cached. -/
  caches : ∀ oid, Notes E rt w oid → rt.switchInitStatus = rcStatusOk →
    vlanInitOutcome E rt w oid = .finished .complete →
      LearnsDefault E rt w ∨
        (¬CreatesSwitch E rt w ∧ (view w.env).IsVlan oid ∧ ∀ e ∈ w.state.vlanList, e.oid ≠ oid)
  /-- Where it only believes that it cached the default VLAN, that had been cached. -/
  believes : ∀ oid, Notes E rt w oid → Believes E rt w oid →
    ¬CreatesSwitch E rt w ∧ ∃ e ∈ w.state.vlanList, e.oid = (view w.env).defaultVlan

/-- `sai_switch_init` leaves a mirror. -/
theorem mirrors_saiSwitchInit (hE : StoreSai E view) (h : CacheInvariant view w)
    (hkeeps : CreatesSwitch E rt w → w.state.vlanList = []) :
    let w' := worldOf (EStateM.run (saiSwitchInit E rt) w)
    Mirrors w'.state.vlanList (view w'.env) ∧
      (CreatesSwitch E rt w → w'.state.vlanList = [] ∧
        (view w'.env).IsVlan (view w'.env).defaultVlan) ∧
      (¬CreatesSwitch E rt w → vlanView view w' = vlanView view w) := by
  by_cases hc : CreatesSwitch E rt w
  · obtain ⟨hlist, v, o, hvlans, hdefault, -⟩ := vlans_of_creates hE hc
    have hempty := hlist.trans (hkeeps hc)
    subst hdefault
    refine ⟨?_, fun _ ↦ ⟨hempty, v, ?_⟩, fun hn ↦ absurd hc hn⟩
    · rw [hempty]
      exact Mirrors.of_new_switch hvlans
    · rw [hvlans]
      exact Function.update_self ..
  · have hview : vlanView view _ = vlanView view w :=
      congrArg Prod.fst (initView_saiSwitchInit hE hc)
    have hlist : (worldOf (EStateM.run (saiSwitchInit E rt) w)).state.vlanList = w.state.vlanList :=
      congrArg Prod.fst hview
    refine ⟨?_, fun h ↦ absurd h hc, fun _ ↦ hview⟩
    rw [hlist]
    exact h.mirrors.congr (congrArg Prod.snd hview)

theorem cacheInvariant_switchInit (hE : StoreSai E view) (hr : IsReply reply)
    (h : CacheInvariant view w) (hkeeps : InitKeepsMirror E view rt w) :
    CacheInvariant view (worldOf (EStateM.run (Handler.switchInit.run E rt request reply) w)) := by
  have htable := @preserves_reachableTable _ E rt .switchInit request reply w h.table
  obtain ⟨hmirrors, hcreated, hold⟩ := mirrors_saiSwitchInit hE h hkeeps.empty
  have hnotes := @notes_saiSwitchInit σ E rt w view hE
  obtain ⟨hview, hreg⟩ | ⟨hsg, ho, id, hid, hview⟩ :=
    @vlanView_processSwitchInit σ E rt view request reply hE hr w
  · refine CacheInvariant.of_view htable hview hmirrors fun hsome ↦ ?_
    -- The default VLAN was cached before, and the switch is the one there was.
    have hbefore : ¬CreatesSwitch E rt w ∧ ∃ e ∈ w.state.vlanList,
        e.oid = (view w.env).defaultVlan := by
      obtain hsame | hbelieves := hreg
      · have hcached := h.defaultCached fun hnone ↦ hsome (hsame.trans hnone)
        refine ⟨fun hc ↦ ?_, hcached⟩
        obtain ⟨e, he, -⟩ := hcached
        rw [hkeeps.empty hc] at he
        exact absurd he List.not_mem_nil
      · exact hkeeps.believes _ hnotes hbelieves
    obtain ⟨hc, e, he, heq⟩ := hbefore
    have hlist : (worldOf (EStateM.run (saiSwitchInit E rt) w)).state.vlanList = w.state.vlanList :=
      congrArg Prod.fst (hold hc)
    have hdefault := congrArg (fun p ↦ p.2.2.2) (hold hc)
    exact ⟨e, hlist ▸ he, heq.trans hdefault.symm⟩
  · -- The VLAN that is put into the cache is one of the switch, and was not in the cache.
    have hpush : (view (worldOf (EStateM.run (saiSwitchInit E rt) w)).env).IsVlan
          (worldOf (EStateM.run (saiSwitchInit E rt) w)).state.swInfo.defaultVlanOid ∧
        ∀ e ∈ (worldOf (EStateM.run (saiSwitchInit E rt) w)).state.vlanList,
          e.oid ≠ (worldOf (EStateM.run (saiSwitchInit E rt) w)).state.swInfo.defaultVlanOid := by
      obtain hl | ⟨hc, hvlan, hne⟩ := hkeeps.caches _ hnotes hsg ho
      · obtain ⟨hempty, hisVlan⟩ := hcreated hl.creates
        obtain ⟨-, v, o, -, hdefault, hnoted⟩ := vlans_of_creates hE hl.creates
        rw [hnoted hl, ← hdefault]
        refine ⟨hisVlan, fun e he ↦ ?_⟩
        rw [hempty] at he
        exact absurd he List.not_mem_nil
      · have hlist : (worldOf (EStateM.run (saiSwitchInit E rt) w)).state.vlanList =
          w.state.vlanList :=
          congrArg Prod.fst (hold hc)
        have hvlans := congrArg (fun p ↦ p.2.1) (hold hc)
        obtain ⟨v, hv⟩ := hvlan
        exact ⟨⟨v, (congrFun hvlans v).trans hv⟩, fun e he ↦ hne e (hlist ▸ he)⟩
    obtain ⟨hdefault, hpushed⟩ := hmirrors.push (SaiStore.vlans_eq_of_isVlan hpush.1 hid) hpush.2
    exact CacheInvariant.of_view htable hview hpushed fun _ ↦ ⟨_, List.mem_cons_self, hdefault⟩

/-! ### Sessions -/

/-- What a request must be like to keep the mirror. -/
structure KeepsMirror (E : SaiBackend σ) (view : σ → SaiStore) (s : Session σ)
    (i : SessionInput) : Prop where
  /-- A VLAN is created only while there is memory for its entry. -/
  memory : selected s.world.state.ipcCbList i.buf.bytes i.size = some .vlanPortSet →
    CreatesVlan E s.world (vlanIdOf (handedRequest i.buf.bytes i.size))
      (vlanPortOf (handedRequest i.buf.bytes i.size)) → i.rt.vlanInfoCalloc = true
  switchInit : selected s.world.state.ipcCbList i.buf.bytes i.size = some .switchInit →
    InitKeepsMirror E view i.rt s.world

/-- The request is no SWITCH_RESET. -/
def NoReset (i : SessionInput) : Prop := cmdOf i.buf.bytes ≠ PresteraCmdType.switchReset

/-- The requests that are about neither the switch nor a VLAN keep the mirror in any case. -/
theorem cacheInvariant_handler (hE : StoreSai E view) {handler : Handler}
    (hport : handler ≠ .vlanPortSet) (hinit : handler ≠ .switchInit)
    (hreset : handler ≠ .switchReset) (h : CacheInvariant view w) :
    CacheInvariant view (worldOf (EStateM.run (handler.run E rt request reply) w)) := by
  have hview := @vlanView_handler σ E rt view request reply hE handler hport hinit hreset w
  have hreg : (worldOf (EStateM.run (handler.run E rt request reply) w)).state.ipcCbList =
      w.state.ipcCbList :=
    keeps_handler (f := fun w : World σ ↦ w.state.ipcCbList) (fun _ _ _ ↦ rfl) (fun _ _ _ ↦ rfl)
      (fun _ ↦ ⟨fun _ _ _ ↦ rfl, fun _ _ ↦ rfl⟩) (fun _ _ _ ↦ rfl) (fun _ _ _ ↦ rfl) (fun _ _ ↦ rfl)
      hinit request reply w
  exact CacheInvariant.of_view (preserves_reachableTable handler request reply w h.table) hview
    h.mirrors fun hr ↦ h.defaultCached (hreg ▸ hr)

/-- **The step lemma**, whatever SAI refuses. -/
theorem cacheInvariant_step (hE : StoreSai E view) {s : Session σ} {i : SessionInput}
    (hreset : NoReset i) (hkeeps : KeepsMirror E view s i) (h : CacheInvariant view s.world) :
    CacheInvariant view (s.step E i).world := by
  rw [Session.step_world]
  rcases hsel : selected s.world.state.ipcCbList i.buf.bytes i.size with _ | handler
  · obtain ⟨reply, hrun⟩ := Session.handle_of_not_selected (E := E) hsel
    rw [hrun]
    exact h
  rw [Session.handle_of_selected hsel]
  have hcmd := h.table.cmdType_eq_of_selected hsel
  have hreply := isReply_freshReply i.out.length_eq
  by_cases hport : handler = .vlanPortSet
  · subst hport
    exact cacheInvariant_vlanPortSet hE h (hkeeps.memory hsel)
  by_cases hinit : handler = .switchInit
  · subst hinit
    exact cacheInvariant_switchInit hE hreply h (hkeeps.switchInit hsel)
  · exact cacheInvariant_handler hE hport hinit (by rintro rfl; exact hreset hcmd.symm) h

/-- Before the first request, nothing is cached and there is no switch. -/
theorem cacheInvariant_start {env : σ} (henv : ∀ v, (view env).vlans v = none) :
    CacheInvariant view (Session.start env).world := by
  refine ⟨reachableTable_register_zero .switchInit, ⟨List.nodup_nil, nofun, fun {v o} hv _ ↦ ?_⟩,
    fun hr ↦ ?_⟩
  · have hnone : (view (Session.start env).world.env).vlans v = none := henv v
    cases hnone.symm.trans hv
  · exact absurd rfl hr

variable (E)

/-- **The cache mirrors SAI in every state of a session** whose requests create a switch only while
nothing is cached, create a VLAN only while there is memory for its entry, and cache the default
VLAN of the switch once. There is no assumption on which of its calls SAI refuses. -/
theorem mirrorsSai_exec (hE : StoreSai E view) {env : σ} (henv : ∀ v, (view env).vlans v = none)
    {is : List SessionInput} (hreset : ∀ i ∈ is, NoReset i)
    (hkeeps : Along Session.Live (Session.step E) (KeepsMirror E view) (Session.start env) is)
    (n : ℕ) :
    MirrorsSai view (Session.exec E (Session.start env) (is.take n)).world :=
  (exec_invariant (J := fun s : Session σ ↦ CacheInvariant view s.world)
    (fun _ _ _ hs hc ↦ cacheInvariant_step hE hc.1 hc.2 hs) (is.take n) (Session.start env)
    (cacheInvariant_start henv) ((hkeeps.and_forall hreset).take n)).mirrorsSai

/-- A VLAN_PORT_SET as it arrives over zeroed buffers. -/
def vlanPortInput (port : UInt32) (vid : UInt16) (isMember isTagged : UInt8) (rt : Runtime) :
    SessionInput where
  buf := ⟨bufferOf (Bytes.le32 (UInt32.ofNat PresteraCmdType.vlanPortSet) ++ Bytes.le32 port ++
    Bytes.le32 0 ++ Bytes.le16 vid ++ [isMember, isTagged]), length_bufferOf (by simp; decide)⟩
  size := 16
  out := ⟨zeroBuffer, length_zeroBuffer⟩
  rt := rt

/-- SWITCH_INIT, and the first port put into the VLAN 10. -/
def initAndAdd (rt : Runtime) : List SessionInput :=
  [bareInput .switchInit, vlanPortInput 0 10 1 1 rt]

/-- SWITCH_INIT on the switch of `listSai` keeps the mirror. -/
theorem initKeepsMirror_listSai : InitKeepsMirror listSai ListStore.view (Runtime.calm 0)
    (Session.start ListStore.empty).world := by
  have hcreates : CreatesSwitch listSai (Runtime.calm 0) (Session.start ListStore.empty).world :=
    ⟨rfl, rfl, rfl, rfl⟩
  have hlearns : LearnsDefault listSai (Runtime.calm 0) (Session.start ListStore.empty).world :=
    ⟨hcreates, rfl, by decide +kernel, by decide +kernel⟩
  refine ⟨fun _ ↦ rfl, fun _ _ _ _ ↦ Or.inl hlearns, fun oid hn hb ↦ absurd ?_ hb.2.1⟩
  rw [hn.1 hlearns]
  rfl

/-- With memory for the entry, the VLAN is cached. -/
theorem mirrorsSai_exec_listSai : MirrorsSai ListStore.view
    (Session.exec listSai (Session.start ListStore.empty)
    ((initAndAdd (Runtime.calm 0)).take 2)).world := by
  refine mirrorsSai_exec listSai storeSai_listSai (fun v ↦ rfl) ?_ ?_ 2
  · refine List.forall_mem_cons.2 ⟨?_, List.forall_mem_singleton.2 ?_⟩
    · show ¬_ = _
      decide +kernel
    · show ¬_ = _
      decide +kernel
  · refine fun _ ↦ ⟨⟨fun _ _ ↦ rfl, fun _ ↦ initKeepsMirror_listSai⟩, fun _ ↦
      ⟨⟨fun _ _ ↦ rfl, fun h ↦ absurd h ?_⟩, trivial⟩⟩
    decide +kernel

/-- Without, the VLAN is created and not cached. -/
theorem vlan_not_cached : ¬∀ n, MirrorsSai ListStore.view
    (Session.exec listSai (Session.start ListStore.empty)
    ((initAndAdd { Runtime.calm 0 with vlanInfoCalloc := false }).take n)).world := by
  intro h
  have hcached := @(h 2).mirrors.complete 10 (vlanOidOf 10) (by decide +kernel) (by decide +kernel)
  revert hcached
  decide +kernel

end SaiAgent
