/-
# `SmartManager.Engine.AsyncMonitor` — pattern monitors and their dispatch (`engine/engine.c`).

A pattern monitor is registered with a request tree built by its backend's argument processor.
The dispatch thread of a backend's group receives one result chain per `req_async` call and
matches it against every monitor of the group, in list order: a monitor fires when some top-level
sibling of the chain carries the key of its request tree's head (`mmsm_find_key`), and its
callback is handed the whole chain, not the matched node.  Registration pushes the new monitor at
the head of the group's list.  The pattern string is copied into the monitor and never read, so
it is not part of the model.
-/
import SmartManager.Data.MmsmData

namespace SmartManager.Engine

open SmartManager.Data

/-- `async_monitor_t`: the head of the request tree and the callback (`none` is `NULL`).  The
callback type is left to the client, which names its callbacks. -/
structure AsyncMonitor (Cb : Type) where
  command : MmsmDataItem
  callback : Option Cb

variable {Cb : Type}

/-- The registration step of `mmsm_monitor_pattern` once the group is found: push at the head. -/
def pushAsyncMonitor (head : List (AsyncMonitor Cb)) (command : MmsmDataItem) (cb : Cb) :
    List (AsyncMonitor Cb) :=
  ⟨command, some cb⟩ :: head

/-- One pass of `async_monitor_thread_fn` over a received chain: the callbacks fired, in the
order of the group's list, each of them with the whole chain.  A `NULL` chain fires nothing. -/
def asyncDispatch (head : List (AsyncMonitor Cb)) (result : List MmsmDataItem) : List Cb :=
  head.filterMap fun m => if (mmsmFindKey result m.command.mmsmKey).isSome then m.callback else none

/-- A callback fires exactly when one of its monitors has a request key that some top-level
node of the chain carries. -/
theorem mem_asyncDispatch (head : List (AsyncMonitor Cb)) (result : List MmsmDataItem) (cb : Cb) :
    cb ∈ asyncDispatch head result ↔
      ∃ m ∈ head, m.callback = some cb ∧ ∃ i ∈ result, i.mmsmKey = m.command.mmsmKey := by
  simp only [asyncDispatch, List.mem_filterMap, ← mmsmFindKey_isSome_iff]
  constructor
  · rintro ⟨m, hm, h⟩
    split at h
    · exact ⟨m, hm, h, ‹_›⟩
    · cases h
  · rintro ⟨m, hm, hcb, hk⟩
    exact ⟨m, hm, by simp [hk, hcb]⟩

end SmartManager.Engine
