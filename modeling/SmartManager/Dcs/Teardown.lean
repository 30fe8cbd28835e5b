/-
# `SmartManager.Dcs.Teardown` — `dcs_destroy` and the halt of `main` (`modules/dcs/dcs.c`,
`smart_manager_main.c`)

`dcs_destroy` cancels the scan thread, joins it and frees the context.  The cancellation is
deferred: the thread acts on it at the next cancellation point it reaches, which can be any of
them.  The thread takes `scan.mutex` around a measurement and `csa.mutex` around a channel
switch, and waits on a condition under each; a thread cancelled in a condition wait re-acquires
the wait's mutex before it exits, and the thread installs no cleanup handler.  The thread's
operations on the mutexes and its cancellation points are a list (`scanPassOps`, one pass of
`measurement_schedule_thread_fn`), and `cancelPoints` lists where the thread can exit, with the
mutexes it owns then: exactly the mutex of the wait it was cancelled in (`cancelPoints_heldAtExit`).
The cancellation points modelled are the two `nanosleep`s and the two condition waits; the
socket calls inside `mmsm_request` and the stdio calls of the logs are cancellation points too,
and are left out.

`main` wakes on the halt condition and unloads the modules without `mmsm_stop`, and no call
unregisters a pattern monitor, so the nl80211 dispatch thread keeps delivering events to the DCS
callbacks, with the context `dcs_destroy` has freed as their argument (`teardownRun_freed`).
-/
import SmartManager.Dcs.Events

namespace SmartManager.Dcs

open SmartManager.Data

/-! ## §1 — the scan thread's mutexes and cancellation points -/

/-- `scan.mutex` and `csa.mutex` of `struct dcs`. -/
inductive DcsMutex where
  | scan
  | csa
  deriving DecidableEq, Repr

/-- What the scan thread does with a mutex, and its cancellation points. -/
inductive ThreadOp where
  | nanosleep
  | lock (m : DcsMutex)
  | unlock (m : DcsMutex)
  | condTimedwait (m : DcsMutex)
  deriving DecidableEq, Repr

/-- `get_channel_measurement` in live mode: the thread waits on `scan.done` only when the
measurement was allocated and the OCS request got a result. -/
def getChannelMeasurementOps (requestOk : Bool) : List ThreadOp :=
  .lock .scan :: (if requestOk then [.condTimedwait .scan] else []) ++ [.unlock .scan]

/-- `do_channel_switch` with CSA enabled: the thread waits on `csa.done` only when hostapd
answered the ECSA command with `OK`. -/
def doChannelSwitchOps (ecsaOk : Bool) : List ThreadOp :=
  .lock .csa :: (if ecsaOk then [.condTimedwait .csa] else []) ++ [.unlock .csa]

/-- What decides the path of one pass: whether the measurement waits for its completion, whether
the round ends, whether the evaluation picks another channel with CSA enabled, and whether the
switch waits for its completion. -/
structure ScanPassEnv where
  requestOk : Bool
  roundEnds : Bool
  switch : Bool
  ecsaOk : Bool

/-- One pass of `measurement_schedule_thread_fn`: the `sec_per_scan` sleep, the measurement, and
at the end of a round the channel switch and the `sec_per_round` sleep. -/
def scanPassOps (env : ScanPassEnv) : List ThreadOp :=
  .nanosleep :: getChannelMeasurementOps env.requestOk ++
    if env.roundEnds then (if env.switch then doChannelSwitchOps env.ecsaOk else []) ++ [.nanosleep]
    else []

/-- The mutexes the thread owns after `ops`, from owning `held`. -/
def heldAfter : List ThreadOp → List DcsMutex → List DcsMutex
  | [], held => held
  | .lock m :: ops, held => heldAfter ops (m :: held)
  | .unlock m :: ops, held => heldAfter ops (held.erase m)
  | .nanosleep :: ops, held => heldAfter ops held
  | .condTimedwait _ :: ops, held => heldAfter ops held

/-- The points of `ops` where a pending cancellation is acted upon, with the mutexes the thread
owns when it exits there: at a `nanosleep` what it holds, and in a condition wait what it held
on entering it, the wait's mutex included, which the wait re-acquires before the exit. -/
def cancelPoints : List ThreadOp → List DcsMutex → List (ThreadOp × List DcsMutex)
  | [], _ => []
  | .lock m :: ops, held => cancelPoints ops (m :: held)
  | .unlock m :: ops, held => cancelPoints ops (held.erase m)
  | .nanosleep :: ops, held => (.nanosleep, held) :: cancelPoints ops held
  | .condTimedwait m :: ops, held => (.condTimedwait m, held) :: cancelPoints ops held

/-- What a thread cancelled at a point owns when the scan thread's code is balanced: the mutex
of the condition wait it was cancelled in. -/
def ThreadOp.heldAtExit : ThreadOp → List DcsMutex
  | .condTimedwait m => [m]
  | _ => []

theorem cancelPoints_append (ops₁ ops₂ : List ThreadOp) (held : List DcsMutex) :
    cancelPoints (ops₁ ++ ops₂) held =
      cancelPoints ops₁ held ++ cancelPoints ops₂ (heldAfter ops₁ held) := by
  induction ops₁ generalizing held with
  | nil => rfl
  | cons op ops ih => cases op <;> simp [cancelPoints, heldAfter, ih]

/-- **A pass is balanced**: it releases what it takes, and at each of its cancellation points the
thread owns the mutex of the wait it is in, and nothing at a `nanosleep`. -/
theorem scanPassOps_balanced (env : ScanPassEnv) :
    heldAfter (scanPassOps env) [] = [] ∧
      ∀ p ∈ cancelPoints (scanPassOps env) [], p.2 = p.1.heldAtExit := by
  obtain ⟨requestOk, roundEnds, switch, ecsaOk⟩ := env
  cases requestOk <;> cases roundEnds <;> cases switch <;> cases ecsaOk <;> decide

/-- The cancellation points of a run of passes are those of its passes, each from owning
nothing. -/
theorem cancelPoints_flatMap (passes : List ScanPassEnv) :
    cancelPoints (passes.flatMap scanPassOps) [] =
      passes.flatMap fun env => cancelPoints (scanPassOps env) [] := by
  induction passes with
  | nil => rfl
  | cons env passes ih =>
    rw [List.flatMap_cons, cancelPoints_append, (scanPassOps_balanced env).1, ih, List.flatMap_cons]

/-- **Where a cancelled scan thread exits owning a mutex**, along every run: exactly in a
condition wait, owning that wait's mutex. -/
theorem cancelPoints_heldAtExit (passes : List ScanPassEnv) :
    ∀ p ∈ cancelPoints (passes.flatMap scanPassOps) [], p.2 = p.1.heldAtExit := by
  rw [cancelPoints_flatMap]
  simp only [List.mem_flatMap]
  rintro p ⟨env, -, hp⟩
  exact (scanPassOps_balanced env).2 p hp

/-- A pass that requests a measurement waits on `scan.done` owning `scan.mutex`, and one that
switches channel with hostapd's `OK` waits on `csa.done` owning `csa.mutex`. -/
theorem scanPassOps_waits (env : ScanPassEnv) :
    (env.requestOk → (.condTimedwait .scan, [.scan]) ∈ cancelPoints (scanPassOps env) []) ∧
      (env.roundEnds ∧ env.switch ∧ env.ecsaOk →
        (.condTimedwait .csa, [.csa]) ∈ cancelPoints (scanPassOps env) []) := by
  obtain ⟨requestOk, roundEnds, switch, ecsaOk⟩ := env
  cases requestOk <;> cases roundEnds <;> cases switch <;> cases ecsaOk <;> decide

/-! ## §2 — the callbacks after `dcs_destroy` -/

/-- The process between the halt and the return of `main`, as the DCS callbacks see it: whether
`dcs_destroy` has freed the context, and the engine's `is_running`. -/
structure TeardownState where
  contextFreed : Bool
  isRunning : Bool
  deriving DecidableEq, Repr

/-- `main` when the halt condition wakes it: the engine runs and the context is live. -/
def haltState : TeardownState := ⟨false, true⟩

/-- What happens while `main` unloads the modules: `unload_module` calls `dcs_destroy`, and the
nl80211 dispatch thread receives a chain. -/
inductive TeardownEvent where
  | dcsDestroy
  | dispatch (result : List MmsmDataItem)

/-- Whether a callback's body reaches the context on a chain: `ecsa_done_callback` locks
`csa.mutex` once its assertion on the chain's head passed, and `measurement_done_callback` locks
`scan.mutex` once the chain is a Morse OCS_DONE event. -/
def callbackTouchesContext : DcsCallback → List MmsmDataItem → Bool
  | .ecsaDone, result => (ecsaNotifiedFreq result).toBool
  | .measurementDone, result => isMorseOcsDoneVendorEvent result

/-- One event: `dcs_destroy` frees the context and leaves the monitors and `is_running` as they
are; a dispatch, while the engine runs, calls the DCS callbacks the chain fires, and records each
that reaches the context with whether the context was freed. -/
def teardownStep (t : TeardownState) : TeardownEvent → TeardownState × List (DcsCallback × Bool)
  | .dcsDestroy => ({ t with contextFreed := true }, [])
  | .dispatch result =>
    (t, if t.isRunning then
        ((dcsDispatch result).filter fun cb => callbackTouchesContext cb result).map
          fun cb => (cb, t.contextFreed)
      else [])

/-- The context accesses of a run of events. -/
def teardownRun : TeardownState → List TeardownEvent → List (DcsCallback × Bool)
  | _, [] => []
  | t, ev :: evs => (teardownStep t ev).2 ++ teardownRun (teardownStep t ev).1 evs

/-- The state after a run of events. -/
def teardownState (t : TeardownState) (evs : List TeardownEvent) : TeardownState :=
  evs.foldl (fun t ev => (teardownStep t ev).1) t

theorem teardownRun_append (t : TeardownState) (evs₁ evs₂ : List TeardownEvent) :
    teardownRun t (evs₁ ++ evs₂) = teardownRun t evs₁ ++ teardownRun (teardownState t evs₁) evs₂ := by
  induction evs₁ generalizing t with
  | nil => rfl
  | cons ev evs ih => simp [teardownRun, teardownState, ih, List.foldl_cons]

theorem teardownState_append (t : TeardownState) (evs₁ evs₂ : List TeardownEvent) :
    teardownState t (evs₁ ++ evs₂) = teardownState (teardownState t evs₁) evs₂ :=
  List.foldl_append _ _ _ _

/-- No event clears `is_running`, and none gives the context back. -/
theorem teardownStep_mono (t : TeardownState) (ev : TeardownEvent) :
    (teardownStep t ev).1.isRunning = t.isRunning ∧
      (t.contextFreed → (teardownStep t ev).1.contextFreed) := by
  cases ev <;> simp [teardownStep]

theorem teardownState_mono (t : TeardownState) (evs : List TeardownEvent) :
    (teardownState t evs).isRunning = t.isRunning ∧
      (t.contextFreed → (teardownState t evs).contextFreed) := by
  induction evs generalizing t with
  | nil => exact ⟨rfl, id⟩
  | cons ev evs ih =>
    obtain ⟨h₁, h₂⟩ := ih (teardownStep t ev).1
    obtain ⟨hs₁, hs₂⟩ := teardownStep_mono t ev
    exact ⟨h₁.trans hs₁, fun h => h₂ (hs₂ h)⟩

/-- **A callback runs on the freed context**: in every run from the halt in which `dcs_destroy`
comes before the dispatch of a chain on which a DCS callback reaches the context, that callback
reaches the freed context. -/
theorem teardownRun_freed (pre mid : List TeardownEvent) {result : List MmsmDataItem}
    {cb : DcsCallback} (hcb : cb ∈ dcsDispatch result) (htouch : callbackTouchesContext cb result) :
    (cb, true) ∈ teardownRun haltState (pre ++ .dcsDestroy :: mid ++ [.dispatch result]) := by
  have hfreed : (teardownState haltState (pre ++ [.dcsDestroy])).contextFreed := by
    simp [teardownState, teardownStep]
  have h₁ := teardownState_mono haltState (pre ++ [.dcsDestroy])
  have h₂ := teardownState_mono (teardownState haltState (pre ++ [.dcsDestroy])) mid
  have ht : (teardownState haltState (pre ++ [.dcsDestroy] ++ mid)).isRunning ∧
      (teardownState haltState (pre ++ [.dcsDestroy] ++ mid)).contextFreed := by
    rw [teardownState_append]
    exact ⟨h₂.1.trans h₁.1, h₂.2 hfreed⟩
  rw [show pre ++ .dcsDestroy :: mid ++ [.dispatch result] =
    pre ++ [.dcsDestroy] ++ mid ++ [.dispatch result] by simp, teardownRun_append]
  simp only [teardownRun, teardownStep, ht.1, ht.2, if_true, List.append_nil]
  exact List.mem_append_right _ (List.mem_map.2 ⟨cb, List.mem_filter.2 ⟨hcb, htouch⟩, rfl⟩)

/-! ## §3 — teardown -/

/-- **Teardown is not clean.**  Along every run of the scan thread, a cancelled thread exits
owning exactly the mutex of the condition wait it was cancelled in; the cancellation can land in
the `scan.done` wait of every pass that requested a measurement and in the `csa.done` wait of
every switch hostapd accepted.  And in every halt in which `dcs_destroy` comes before the
delivery of a chain on which a DCS callback reaches the context, that callback runs on the freed
context. -/
theorem dcsDestroy_teardown (passes : List ScanPassEnv) (pre mid : List TeardownEvent)
    {result : List MmsmDataItem} {cb : DcsCallback} (hcb : cb ∈ dcsDispatch result)
    (htouch : callbackTouchesContext cb result) :
    (∀ p ∈ cancelPoints (passes.flatMap scanPassOps) [], p.2 = p.1.heldAtExit) ∧
      (∀ env ∈ passes, env.requestOk →
        (.condTimedwait .scan, [.scan]) ∈ cancelPoints (passes.flatMap scanPassOps) []) ∧
      (∀ env ∈ passes, env.roundEnds ∧ env.switch ∧ env.ecsaOk →
        (.condTimedwait .csa, [.csa]) ∈ cancelPoints (passes.flatMap scanPassOps) []) ∧
      (cb, true) ∈ teardownRun haltState (pre ++ .dcsDestroy :: mid ++ [.dispatch result]) := by
  refine ⟨cancelPoints_heldAtExit passes, fun env henv h => ?_, fun env henv h => ?_,
    teardownRun_freed pre mid hcb htouch⟩ <;> rw [cancelPoints_flatMap]
  · exact List.mem_flatMap.2 ⟨env, henv, (scanPassOps_waits env).1 h⟩
  · exact List.mem_flatMap.2 ⟨env, henv, (scanPassOps_waits env).2 h⟩

/-- One pass that measures and switches channel; the context freed before hostapd's
`CH_SWITCH_NOTIFY` for 5200 MHz reaches `ecsa_done_callback`. -/
theorem dcsDestroy_teardown_ch_switch :
    .ecsaDone ∈ dcsDispatch [⟨.u32 nl80211CmdChSwitchNotify, none,
        [⟨.u32 nl80211AttrWiphyFreq, some (u32Bytes 5200), []⟩]⟩] ∧
      callbackTouchesContext .ecsaDone [⟨.u32 nl80211CmdChSwitchNotify, none,
        [⟨.u32 nl80211AttrWiphyFreq, some (u32Bytes 5200), []⟩]⟩] ∧
      ((∀ p ∈ cancelPoints ([⟨true, true, true, true⟩].flatMap scanPassOps) [],
          p.2 = p.1.heldAtExit) ∧
        (∀ env ∈ [(⟨true, true, true, true⟩ : ScanPassEnv)], env.requestOk →
          (.condTimedwait .scan, [.scan]) ∈
            cancelPoints ([⟨true, true, true, true⟩].flatMap scanPassOps) []) ∧
        (∀ env ∈ [(⟨true, true, true, true⟩ : ScanPassEnv)],
          env.roundEnds ∧ env.switch ∧ env.ecsaOk → (.condTimedwait .csa, [.csa]) ∈
            cancelPoints ([⟨true, true, true, true⟩].flatMap scanPassOps) []) ∧
        (.ecsaDone, true) ∈ teardownRun haltState ([] ++ .dcsDestroy :: [] ++
          [.dispatch [⟨.u32 nl80211CmdChSwitchNotify, none,
            [⟨.u32 nl80211AttrWiphyFreq, some (u32Bytes 5200), []⟩]⟩]])) :=
  ⟨by decide, by decide, dcsDestroy_teardown _ [] [] (by decide) (by decide)⟩

end SmartManager.Dcs
