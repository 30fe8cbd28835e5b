/-
# `SmartManager.Backend.MonitorSetup` — the persistent receive handles of the async backends
(`backend/nl80211.c`: `backend_nl80211_ctrl_monitor`; `backend/hostapd_ctrl.c`:
`backend_hostapd_ctrl_monitor`).

The engine's async thread calls a backend's `req_async` again and again.  The first call of
`backend_nl80211_ctrl_monitor` allocates `nl80211->sock` and sets it up step by step: connect,
resolve and join the `mlme` group, then the `vendor` group, turn the sequence check off, and
install the valid-message callback.  A failing step jumps to `done` with `err` still
`MMSM_SUCCESS` and the socket kept, and every later call, seeing a socket, goes straight to
`select`.  The first call of `backend_hostapd_ctrl_monitor` opens `monitor_wpa_ctrl` and
attaches it, ignoring what `wpa_ctrl_attach` returns; later calls go straight to `select`.

The outcome of each step is an input of the call (`NlMonitorEnv`, `WpaMonitorEnv`), so the
results hold for every behaviour of the kernel and of hostapd.
`monitorSetup_not_all_or_nothing` says when a call leaves the handle either absent with an error
or fully set up — exactly when every step after the allocation (the open, for hostapd)
succeeded — and that a handle, once there, is kept by every later call: a half-configured one
is never set up again.
-/
import SmartManager.Backend.HostapdCtrl

namespace SmartManager.Backend

open SmartManager.Data SmartManager.Engine

/-! ## §1 — `backend_nl80211_ctrl_monitor` -/

/-- How far `nl80211->sock` has been set up. -/
structure NlSock where
  connected : Bool := false
  mlme : Bool := false
  vendor : Bool := false
  seqCheckOff : Bool := false
  callback : Bool := false
  deriving DecidableEq, Repr

/-- Connected, joined to both multicast groups, with the valid-message callback. -/
def NlSock.FullySetUp (s : NlSock) : Prop :=
  s.connected = true ∧ s.mlme = true ∧ s.vendor = true ∧ s.callback = true

instance : DecidablePred NlSock.FullySetUp := fun s => by unfold NlSock.FullySetUp; infer_instance

/-- The outcome of each setup step in one call: `nl_socket_alloc`, `genl_connect`, the
`genl_ctrl_resolve_grp` of `mlme` and of `vendor` (`none` for a negative result), the
`nl_socket_add_membership` of each, and `nl_socket_modify_cb`. -/
structure NlMonitorEnv where
  allocOk : Bool
  connectOk : Bool
  mlmeGroup : Option Nat
  mlmeJoinOk : Bool
  vendorGroup : Option Nat
  vendorJoinOk : Bool
  callbackOk : Bool
  deriving DecidableEq, Repr

/-- The setup block on a fresh socket: the socket as far as the steps got, and whether it falls
through to `select` (a failing step jumps to `done`). -/
def nl80211MonitorSetup (env : NlMonitorEnv) : NlSock × Bool :=
  if !env.connectOk then ({}, false)
  else
    let s : NlSock := { connected := true }
    match env.mlmeGroup with
    | none => (s, false)
    | some _ =>
      if !env.mlmeJoinOk then (s, false)
      else
        let s := { s with mlme := true }
        match env.vendorGroup with
        | none => (s, false)
        | some _ =>
          if !env.vendorJoinOk then (s, false)
          else
            let s := { s with vendor := true, seqCheckOff := true }
            if !env.callbackOk then (s, false) else ({ s with callback := true }, true)

/-- `backend_nl80211_ctrl_monitor(intf, result)`: the socket afterwards, the code it returns, and
whether it goes on to `select` and `nl_recvmsgs_default`. -/
def backendNl80211CtrlMonitor (sock : Option NlSock) (env : NlMonitorEnv) :
    Option NlSock × MmsmErrorCode × Bool :=
  match sock with
  | some s => (some s, .success, true)
  | none =>
    if !env.allocOk then (none, .unknownError, false)
    else (some (nl80211MonitorSetup env).1, .success, (nl80211MonitorSetup env).2)

/-- Calls one after the other: the socket at the end and the codes returned. -/
def nl80211MonitorRun (sock : Option NlSock) : List NlMonitorEnv → Option NlSock × List MmsmErrorCode
  | [] => (sock, [])
  | env :: envs =>
    let r := backendNl80211CtrlMonitor sock env
    let rest := nl80211MonitorRun r.1 envs
    (rest.1, r.2.1 :: rest.2)

/-! ## §2 — `backend_hostapd_ctrl_monitor` -/

/-- `hostapd->monitor_wpa_ctrl` once opened, and whether `wpa_ctrl_attach` succeeded on it. -/
structure WpaMonitor where
  attached : Bool
  deriving DecidableEq, Repr

/-- The outcomes in one call: `wpa_ctrl_open`, `wpa_ctrl_attach`, whether `select` returned a
non-negative count, and `wpa_ctrl_recv` (the reply and its length, `none` when it fails). -/
structure WpaMonitorEnv where
  openOk : Bool
  attachOk : Bool
  selectOk : Bool
  recv : Option (List Char × Nat)

/-- The receive half of the call: the code, and what it writes to `*result`. -/
def hostapdMonitorReceive (undef : Fin outBufSize → Char) (env : WpaMonitorEnv) :
    Except CFault (MmsmErrorCode × Option (Option (List MmsmDataItem))) := do
  if !env.selectOk then return (.unknownError, none)
  match env.recv with
  | none => return (.unknownError, none)
  | some (reply, len) =>
    let outBuf ← outBufWith undef reply len
    return (.success, some (← parseOutput outBuf))

/-- `backend_hostapd_ctrl_monitor(intf, result)`: the monitor handle afterwards, and the call's
outcome. -/
def backendHostapdCtrlMonitor (undef : Fin outBufSize → Char) (monitor : Option WpaMonitor)
    (env : WpaMonitorEnv) :
    Option WpaMonitor × Except CFault (MmsmErrorCode × Option (Option (List MmsmDataItem))) :=
  match monitor with
  | some m => (some m, hostapdMonitorReceive undef env)
  | none =>
    if !env.openOk then (none, .ok (.unknownError, none))
    else (some ⟨env.attachOk⟩, hostapdMonitorReceive undef env)

/-- The monitor handle after calls one after the other. -/
def hostapdMonitorRun (undef : Fin outBufSize → Char) (monitor : Option WpaMonitor)
    (envs : List WpaMonitorEnv) : Option WpaMonitor :=
  envs.foldl (fun m env => (backendHostapdCtrlMonitor undef m env).1) monitor

/-! ## §3 — all or nothing -/

/-- Every setup step after the allocation succeeds. -/
def NlMonitorEnv.StepsOk (env : NlMonitorEnv) : Prop :=
  env.connectOk = true ∧ env.mlmeGroup.isSome ∧ env.mlmeJoinOk = true ∧ env.vendorGroup.isSome ∧
    env.vendorJoinOk = true ∧ env.callbackOk = true

instance : DecidablePred NlMonitorEnv.StepsOk := fun env => by
  unfold NlMonitorEnv.StepsOk; infer_instance

/-- The setup leaves the socket fully set up exactly when every step succeeds. -/
theorem nl80211MonitorSetup_fullySetUp (env : NlMonitorEnv) :
    (nl80211MonitorSetup env).1.FullySetUp ↔ env.StepsOk := by
  rcases env with ⟨a, c, mg, mj, vg, vj, cb⟩
  unfold nl80211MonitorSetup
  cases c <;> cases mg <;> cases mj <;> cases vg <;> cases vj <;> cases cb <;>
    simp [NlSock.FullySetUp, NlMonitorEnv.StepsOk]

/-- What the rule of the handle asks of a call of `backend_nl80211_ctrl_monitor`: no socket and
an error, or a socket fully set up. -/
def NlAllOrNothing : Option NlSock × MmsmErrorCode × Bool → Prop
  | (none, err, _) => err ≠ .success
  | (some s, _, _) => s.FullySetUp

/-- The same for `backend_hostapd_ctrl_monitor`: no handle and an error, or an attached one. -/
def WpaAllOrNothing :
    Option WpaMonitor × Except CFault (MmsmErrorCode × Option (Option (List MmsmDataItem))) → Prop
  | (none, out) => ∃ err r, out = .ok (err, r) ∧ err ≠ .success
  | (some m, _) => m.attached = true

/-- **Setup is not all or nothing, and is never retried.** A first call of
`backend_nl80211_ctrl_monitor` keeps the rule exactly when the allocation fails or every later
step succeeds, and a first call of `backend_hostapd_ctrl_monitor` exactly when the open fails or
the attach succeeds.  A handle, once there, is kept by every later call — for nl80211 each call
returning `MMSM_SUCCESS` — whatever the kernel and hostapd do. -/
theorem monitorSetup_not_all_or_nothing :
    (∀ env : NlMonitorEnv, NlAllOrNothing (backendNl80211CtrlMonitor none env) ↔
      (env.allocOk = true → env.StepsOk)) ∧
    (∀ (s : NlSock) (envs : List NlMonitorEnv),
      nl80211MonitorRun (some s) envs = (some s, envs.map fun _ => .success)) ∧
    (∀ (undef : Fin outBufSize → Char) (env : WpaMonitorEnv),
      WpaAllOrNothing (backendHostapdCtrlMonitor undef none env) ↔
        (env.openOk = true → env.attachOk = true)) ∧
    (∀ (undef : Fin outBufSize → Char) (m : WpaMonitor) (envs : List WpaMonitorEnv),
      hostapdMonitorRun undef (some m) envs = some m) := by
  refine ⟨fun env => ?_, fun s envs => ?_, fun undef env => ?_, fun undef m envs => ?_⟩
  · cases h : env.allocOk
    · simp [backendNl80211CtrlMonitor, h, NlAllOrNothing]
    · simpa [backendNl80211CtrlMonitor, h, NlAllOrNothing] using nl80211MonitorSetup_fullySetUp env
  · induction envs with
    | nil => rfl
    | cons env envs ih => simp [nl80211MonitorRun, backendNl80211CtrlMonitor, ih]
  · cases h : env.openOk
    · simp [backendHostapdCtrlMonitor, h, WpaAllOrNothing]
    · simp [backendHostapdCtrlMonitor, h, WpaAllOrNothing]
  · induction envs with
    | nil => rfl
    | cons env envs ih => simpa [hostapdMonitorRun, backendHostapdCtrlMonitor] using ih

theorem monitorSetup_connect_and_attach_fail :
    (backendNl80211CtrlMonitor none ⟨true, false, some 1, true, some 2, true, true⟩).2.1 = .success ∧
      ¬NlAllOrNothing (backendNl80211CtrlMonitor none ⟨true, false, some 1, true, some 2, true, true⟩) ∧
      ¬WpaAllOrNothing (backendHostapdCtrlMonitor (fun _ => '\x00') none ⟨true, false, true, none⟩) :=
  ⟨rfl, fun h => absurd ((monitorSetup_not_all_or_nothing.1 _).mp h rfl) (by decide),
    fun h => absurd ((monitorSetup_not_all_or_nothing.2.2.1 _ _).mp h rfl) (by decide)⟩

end SmartManager.Backend
