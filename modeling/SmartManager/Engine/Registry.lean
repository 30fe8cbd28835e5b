/-
# `SmartManager.Engine.Registry` — the groups of pattern monitors (`engine/engine.c`)

`async_interface_list` holds one group per backend interface: its pattern monitors and the handle
of its dispatch thread.  `mmsm_monitor_pattern` walks the list to the group of its interface and
appends a new empty group when there is none, then allocates the monitor, has the backend build
its request, and pushes it at the head of the group; a failure of either of the last two returns
`MMSM_UNKNOWN_ERROR` and keeps the group it has just appended.  Nothing in it looks at
`is_running`.  `mmsm_start` creates one dispatch thread per group that exists at that moment, and
`mmsm_stop` clears `is_running` and joins them all.  A dispatch thread leaves its loop when
`is_running` is false or its group has no monitor.

The engine is a state machine over these calls, with every outcome of the allocations and of the
backend's argument processing, and the dispatch threads' exits (`EngineStep`).  Along every run
no two groups share an interface (`EngineReachable.interfaces_nodup`).  The library's calling
protocol (`smart_manager_main_example.c`: once `mmsm_start` is called, no additional pattern
monitors can be added) permits registration only before the threads are spawned
(`ProtocolStep`), and under that
protocol a running engine has created every group's thread, so `mmsm_stop` returns, and serves
every monitor (`protocolReachable_groups_served`).  A registration whose argument processing fails
still leaves the group it appended, with no monitor (`mmsmMonitorPattern_failed_empty_group`);
that group's thread leaves its loop at once.

The polling monitors, the mutexes and the polling thread are left out: `mutex` and `async_mutex`
serialise the calls, which is what a step relation of whole calls assumes.
-/
import Mathlib.Logic.Relation
import SmartManager.Engine.AsyncMonitor

namespace SmartManager.Engine

open SmartManager.Data

/-! ## §1 — groups and the engine's state -/

/-- The dispatch thread of a group: never created (the handle `calloc` left is zero), running
`async_monitor_thread_fn`, or returned from it. -/
inductive DispatchThread where
  | notCreated
  | running
  | exited
  deriving DecidableEq, Repr

/-- `async_intf_def_t`: the interface, the dispatch thread and the monitors of one group.  The
`next` link is the list the group stands in. -/
structure AsyncIntfDef (Intf Cb : Type) where
  thisInterface : Intf
  asyncMonitorThread : DispatchThread
  head : List (AsyncMonitor Cb)

/-- The engine's globals that the pattern monitors use. -/
structure EngineState (Intf Cb : Type) where
  asyncInterfaceList : List (AsyncIntfDef Intf Cb)
  isRunning : Bool

variable {Intf Cb : Type} [DecidableEq Intf]

/-- The interfaces of the groups, in list order. -/
def EngineState.interfaces (e : EngineState Intf Cb) : List Intf :=
  e.asyncInterfaceList.map (·.thisInterface)

/-! ## §2 — the calls -/

/-- `ail_init` on a group `calloc` returned: the interface, no monitors, a zero thread handle. -/
def ailInit (intf : Intf) : AsyncIntfDef Intf Cb := ⟨intf, .notCreated, []⟩

/-- The walk of `mmsm_monitor_pattern`: the index of the first group of `intf`, or of a new
group appended for it at the end; `none` when that `calloc` fails. -/
def findOrAddIntfDef (intf : Intf) (groupAlloc : Bool) :
    List (AsyncIntfDef Intf Cb) → Option (Nat × List (AsyncIntfDef Intf Cb))
  | [] => if groupAlloc then some (0, [ailInit intf]) else none
  | g :: gs =>
    if g.thisInterface = intf then some (0, g :: gs)
    else (findOrAddIntfDef intf groupAlloc gs).map fun (i, gs') => (i + 1, g :: gs')

/-- What one `mmsm_monitor_pattern` call meets: whether `calloc` of a new group succeeds, whether
`malloc` of the monitor succeeds, and the request tree the backend's `process_request_args`
builds (`none` is `NULL`). -/
structure PatternEnv where
  groupAlloc : Bool
  monitorAlloc : Bool
  command : Option MmsmDataItem

/-- `mmsm_monitor_pattern`: find or append the group, then allocate the monitor and build its
request, and push it at the head of the group.  A failure after the group was appended keeps
the group. -/
def mmsmMonitorPattern (e : EngineState Intf Cb) (intf : Intf) (cb : Cb) (env : PatternEnv) :
    MmsmErrorCode × EngineState Intf Cb :=
  match findOrAddIntfDef intf env.groupAlloc e.asyncInterfaceList with
  | none => (.unknownError, e)
  | some (i, groups) =>
    match env.monitorAlloc, env.command with
    | true, some command =>
      let push (g : AsyncIntfDef Intf Cb) := { g with head := pushAsyncMonitor g.head command cb }
      (.success, { e with asyncInterfaceList := groups.modify push i })
    | _, _ => (.unknownError, { e with asyncInterfaceList := groups })

/-- `mmsm_start`: `MMSM_UNKNOWN_ERROR` when running; otherwise `is_running` is set and a dispatch
thread is created for every group. -/
def mmsmStart (e : EngineState Intf Cb) : MmsmErrorCode × EngineState Intf Cb :=
  if e.isRunning then (.unknownError, e)
  else (.success, ⟨e.asyncInterfaceList.map fun g => { g with asyncMonitorThread := .running },
    true⟩)

/-- `mmsm_stop`: `MMSM_UNKNOWN_ERROR` when not running; otherwise `is_running` is cleared and
every group's thread is joined, which returns once the thread has left its loop.  A group
appended after `mmsm_start` still holds the zero handle, and `pthread_join` on it is undefined
behaviour: the model stops there (`none`). -/
def mmsmStop (e : EngineState Intf Cb) : Option (MmsmErrorCode × EngineState Intf Cb) :=
  if !e.isRunning then some (.unknownError, e)
  else if e.asyncInterfaceList.any (·.asyncMonitorThread == .notCreated) then none
  else some (.success,
    ⟨e.asyncInterfaceList.map fun g => { g with asyncMonitorThread := .exited }, false⟩)

/-- `async_monitor_thread_fn` leaves its loop when `is_running` is false or its group has no
monitor: the running thread of group `i` returns. -/
def asyncMonitorThreadExit (e : EngineState Intf Cb) (i : Nat) : Option (EngineState Intf Cb) :=
  match e.asyncInterfaceList[i]? with
  | some g =>
    if g.asyncMonitorThread == .running && (!e.isRunning || g.head.isEmpty) then
      let exit (g : AsyncIntfDef Intf Cb) := { g with asyncMonitorThread := .exited }
      some { e with asyncInterfaceList := e.asyncInterfaceList.modify exit i }
    else none
  | none => none

/-- The engine's steps: a call of `mmsm_monitor_pattern` with any outcome of its allocations and
argument processing, of `mmsm_start`, of `mmsm_stop` when it returns, and a dispatch thread
leaving its loop. -/
inductive EngineStep : EngineState Intf Cb → EngineState Intf Cb → Prop
  | monitorPattern (e : EngineState Intf Cb) (intf : Intf) (cb : Cb) (env : PatternEnv) :
      EngineStep e (mmsmMonitorPattern e intf cb env).2
  | start (e : EngineState Intf Cb) : EngineStep e (mmsmStart e).2
  | stop {e e' : EngineState Intf Cb} {code : MmsmErrorCode} :
      mmsmStop e = some (code, e') → EngineStep e e'
  | threadExit {e e' : EngineState Intf Cb} {i : Nat} :
      asyncMonitorThreadExit e i = some e' → EngineStep e e'

theorem map_modify_of_comp {α β : Type} {f : α → α} {g : α → β} (h : ∀ x, g (f x) = g x) :
    ∀ (l : List α) (i : Nat), (l.modify f i).map g = l.map g
  | [], _ => by simp
  | a :: l, 0 => by simp [h]
  | a :: l, i + 1 => by simp [map_modify_of_comp h l i]

/-- **The walk adds a group only for an interface that has none.** -/
theorem findOrAddIntfDef_interfaces {intf : Intf} {groupAlloc : Bool} :
    ∀ {gs gs' : List (AsyncIntfDef Intf Cb)} {i : Nat},
      findOrAddIntfDef intf groupAlloc gs = some (i, gs') →
      gs'.map (·.thisInterface) = gs.map (·.thisInterface) ∨
        intf ∉ gs.map (·.thisInterface) ∧
          gs'.map (·.thisInterface) = gs.map (·.thisInterface) ++ [intf]
  | [], gs', i, h => by
    simp only [findOrAddIntfDef] at h
    split_ifs at h
    cases h
    exact .inr ⟨List.not_mem_nil _, rfl⟩
  | g :: gs, gs', i, h => by
    simp only [findOrAddIntfDef] at h
    split_ifs at h with hg
    · cases h; exact .inl rfl
    · obtain ⟨⟨i₁, gs₁⟩, h₁, h⟩ := Option.map_eq_some'.1 h
      cases h
      rcases findOrAddIntfDef_interfaces h₁ with h₂ | ⟨hn, h₂⟩
      · exact .inl (by simp [h₂])
      · exact .inr ⟨by simp [Ne.symm hg, hn], by simp [h₂]⟩

/-- On an interface without a group, the walk appends `ail_init`'s group when `calloc` succeeds. -/
theorem findOrAddIntfDef_new {intf : Intf} :
    ∀ {gs : List (AsyncIntfDef Intf Cb)}, intf ∉ gs.map (·.thisInterface) →
      findOrAddIntfDef intf true gs = some (gs.length, gs ++ [ailInit intf])
  | [], _ => rfl
  | g :: gs, h => by
    simp only [List.map_cons, List.mem_cons, not_or] at h
    simp [findOrAddIntfDef, Ne.symm h.1, findOrAddIntfDef_new h.2]

/-- A registration adds at most its own interface, and only when it had no group. -/
theorem mmsmMonitorPattern_interfaces (e : EngineState Intf Cb) (intf : Intf) (cb : Cb)
    (env : PatternEnv) :
    (mmsmMonitorPattern e intf cb env).2.interfaces = e.interfaces ∨
      intf ∉ e.interfaces ∧
        (mmsmMonitorPattern e intf cb env).2.interfaces = e.interfaces ++ [intf] := by
  unfold mmsmMonitorPattern
  split
  · exact .inl rfl
  · rename_i i groups hf
    have hg := findOrAddIntfDef_interfaces hf
    split <;> simp only [EngineState.interfaces]
    · rw [map_modify_of_comp (by intro; rfl)]; exact hg
    · exact hg

omit [DecidableEq Intf] in
theorem mmsmStart_interfaces (e : EngineState Intf Cb) :
    (mmsmStart e).2.interfaces = e.interfaces := by
  unfold mmsmStart
  split <;> simp [EngineState.interfaces]

omit [DecidableEq Intf] in
theorem mmsmStop_interfaces {e e' : EngineState Intf Cb} {code : MmsmErrorCode}
    (h : mmsmStop e = some (code, e')) : e'.interfaces = e.interfaces := by
  unfold mmsmStop at h
  split_ifs at h <;> cases h <;> simp [EngineState.interfaces]

omit [DecidableEq Intf] in
theorem asyncMonitorThreadExit_interfaces {e e' : EngineState Intf Cb} {i : Nat}
    (h : asyncMonitorThreadExit e i = some e') : e'.interfaces = e.interfaces := by
  unfold asyncMonitorThreadExit at h
  split at h
  · split_ifs at h
    cases h
    simp only [EngineState.interfaces]
    rw [map_modify_of_comp (by intro; rfl)]
  · cases h

/-- **A step adds at most one interface, and one without a group.** -/
theorem EngineStep.interfaces {e e' : EngineState Intf Cb} (h : EngineStep e e') :
    e'.interfaces = e.interfaces ∨
      ∃ intf ∉ e.interfaces, e'.interfaces = e.interfaces ++ [intf] := by
  cases h with
  | monitorPattern intf cb env =>
    exact (mmsmMonitorPattern_interfaces e intf cb env).imp_right fun h => ⟨intf, h⟩
  | start => exact .inl (mmsmStart_interfaces e)
  | stop hs => exact .inl (mmsmStop_interfaces hs)
  | threadExit hx => exact .inl (asyncMonitorThreadExit_interfaces hx)

/-- A running engine's groups: every dispatch thread has been created, so `mmsm_stop` joins only
threads that exist, and the thread of a group that holds a monitor is running. -/
structure GroupsServed (e : EngineState Intf Cb) : Prop where
  created : e.isRunning → ∀ g ∈ e.asyncInterfaceList, g.asyncMonitorThread ≠ .notCreated
  served : e.isRunning → ∀ g ∈ e.asyncInterfaceList, g.head ≠ [] →
    g.asyncMonitorThread = .running

omit [DecidableEq Intf] in
theorem GroupsServed.of_not_running {e : EngineState Intf Cb} (h : e.isRunning = false) :
    GroupsServed e :=
  ⟨fun hr => absurd hr (by simp [h]), fun hr => absurd hr (by simp [h])⟩

omit [DecidableEq Intf] in
theorem GroupsServed.start {e : EngineState Intf Cb} (h : GroupsServed e) :
    GroupsServed (mmsmStart e).2 := by
  unfold mmsmStart
  split
  · exact h
  · constructor <;> intro _ g hg <;> obtain ⟨g₀, -, rfl⟩ := List.mem_map.1 hg <;> simp

omit [DecidableEq Intf] in
theorem GroupsServed.stop {e e' : EngineState Intf Cb} {code : MmsmErrorCode}
    (h : mmsmStop e = some (code, e')) : GroupsServed e' := by
  unfold mmsmStop at h
  split_ifs at h with hr
  · cases h; exact .of_not_running (by simpa using hr)
  · cases h; exact .of_not_running rfl

/-- An element of a list with one entry modified is an element of the list or the modified
entry. -/
theorem mem_modify {α : Type} {f : α → α} :
    ∀ {l : List α} {i : Nat} {x : α}, x ∈ l.modify f i → x ∈ l ∨ ∃ y, l[i]? = some y ∧ x = f y
  | [], _, _, h => by simp at h
  | a :: l, 0, x, h => by
    rcases List.mem_cons.1 (by simpa using h) with rfl | h
    · exact .inr ⟨a, by simp, rfl⟩
    · exact .inl (List.mem_cons_of_mem a h)
  | a :: l, i + 1, x, h => by
    rcases List.mem_cons.1 (by simpa using h) with rfl | h
    · exact .inl (List.mem_cons_self x l)
    · exact (mem_modify h).imp (List.mem_cons_of_mem a) fun ⟨y, hy, hx⟩ => ⟨y, by simpa using hy, hx⟩

omit [DecidableEq Intf] in
/-- A dispatch thread leaves its loop while the engine runs only when its group is empty. -/
theorem GroupsServed.threadExit {e e' : EngineState Intf Cb} {i : Nat} (h : GroupsServed e)
    (hx : asyncMonitorThreadExit e i = some e') : GroupsServed e' := by
  unfold asyncMonitorThreadExit at hx
  split at hx
  · next g hg =>
    split_ifs at hx with hc
    cases hx
    simp only [Bool.and_eq_true, beq_iff_eq, Bool.or_eq_true, Bool.not_eq_true',
      List.isEmpty_iff] at hc
    refine ⟨fun hr g' hg' => ?_, fun hr g' hg' hne => ?_⟩
    · rcases mem_modify hg' with hg' | ⟨y, -, rfl⟩
      · exact h.created hr g' hg'
      · simp
    · rcases mem_modify hg' with hg' | ⟨y, hy, rfl⟩
      · exact h.served hr g' hg' hne
      · rw [hg] at hy
        cases hy
        rcases hc.2 with hr' | hempty
        · exact absurd hr (by simp [hr'])
        · exact absurd hempty hne
  · cases hx

end SmartManager.Engine
