/-
# `SmartManager.Dcs.Context` — channels, the DCS context and the channel bookkeeping
(`modules/dcs/dcs.h`, `modules/dcs/dcs.c`).

The DCS context holds the table of available channels (`all_channels`, of which the loops visit
the first `num_chans`), a pointer to the current channel (an index into the table, `none` for
`NULL`), the primary-channel parameters and beacon timing the AP reports, and the scan list,
which is the sequence of table indices the intrusive list links, in list order.

`update_current_channel` reads hostapd's `STATUS` reply field by field and stores each value as
soon as it is read; any missing or invalid field sends it to `err`, which sets the current
channel to `NULL`.  An `s1g_freq` of `-1` returns `-EAGAIN` before anything is written
(`updateCurrentChannel_outcome`).

`calculate_new_prim_ch_center_freq` and the functions built on it can fail an `MMSM_ASSERT`,
which ends the process; they return `Except DcsFault`.
-/
import SmartManager.Data.MmsmData

namespace SmartManager.Dcs

open SmartManager.Data SmartManager.Libc

/-! ## §1 — channels and the context -/

/-- Modelled from the spec: `struct morse_cmd_channel_info`, declared in the absent
`morse_commands.h`.  The spec names its fields `{freq_khz, bw_mhz, s1g_channel}`; the code
compares the frequency as a `uint32_t` and the bandwidth and channel number as `uint8_t`. -/
structure MorseCmdChannelInfo where
  frequencyKhz : UInt32
  bandwidthMhz : UInt8
  channelS1g : UInt8
  deriving DecidableEq, Repr

/-- `struct channel_metric`. -/
structure ChannelMetric where
  accumulatedScore : UInt32
  nSamples : Int
  roundsAsBest : Int
  deriving DecidableEq, Repr

/-- `struct dcs_channel`; its list entry is the scan list of the context. -/
structure DcsChannel where
  ch : MorseCmdChannelInfo
  metric : ChannelMetric
  deriving DecidableEq, Repr

/-- The `config` part of `struct dcs` that decides anything the model follows: whether channel
switches are sent.  The sleeps and the DTIM count of the switch command only time the run. -/
structure DcsConfig where
  csaEnabled : Bool
  deriving DecidableEq, Repr

/-- `struct dcs`: the channel table and the fields the scan thread and the callbacks share. -/
structure DcsContext where
  numChans : UInt8
  allChannels : List DcsChannel
  currentChannel : Option Nat
  currentPrimaryChWidth : Int
  currentPrim1mhzChIndex : Int
  current5gFreq : UInt32
  dtimPeriod : UInt8
  beaconInterval : UInt16
  scanList : List Nat
  config : DcsConfig
  deriving DecidableEq, Repr

/-- The channels the `for (i = 0; i < num_chans; i++)` loops visit. -/
def DcsContext.channels (ctx : DcsContext) : List DcsChannel :=
  ctx.allChannels.take ctx.numChans.toNat

/-- The channel an index of the table denotes (`&all_channels[i]`). -/
def DcsContext.chan? (ctx : DcsContext) (i : Nat) : Option DcsChannel := ctx.allChannels.get? i

/-- How the DCS code stops the process: a failed `MMSM_ASSERT`, a `NULL` pointer dereferenced,
an integer division by zero, or a write past the end of a table it allocated. -/
inductive DcsFault where
  | assertion
  | nullPointer
  | divideByZero
  | writePastTable
  deriving DecidableEq, Repr

/-! ## §2 — `update_current_channel` -/

/-- `EAGAIN`, `EINVAL` (Linux). -/
def eAgain : Int := 11
def eInval : Int := 22

/-- The text of a `STATUS` field (`mmsm_find_value_by_key`, read as a C string). -/
def statusField (status : List MmsmDataItem) (key : String) : Option (List Char) :=
  (mmsmFindValueByKey status key).map cString

/-- The first table entry, among the `num_chans` visited, whose frequency and bandwidth are the
reported ones (`frequency_khz == s1g_freq` compares as `uint32_t`, `bandwidth_mhz == s1g_bw` as
`int`). -/
def findChannel (chans : List DcsChannel) (s1gFreq s1gBw : Int) : Option Nat :=
  chans.findIdx? fun c =>
    c.ch.frequencyKhz = u32OfInt s1gFreq && (c.ch.bandwidthMhz.toNat : Int) = s1gBw

/-- The `err` exit of `update_current_channel`. -/
def DcsContext.updateErr (ctx : DcsContext) : Int × DcsContext :=
  (-eInval, { ctx with currentChannel := none })

/-- `update_current_channel` on the reply `status` to `mmsm_request(hostapd, "STATUS")` (the
empty chain is a `NULL` reply). -/
def updateCurrentChannel (ctx : DcsContext) (status : List MmsmDataItem) : Int × DcsContext :=
  if status = [] then ctx.updateErr else
  match statusField status "s1g_freq" with
  | none => ctx.updateErr
  | some v =>
  let s1gFreq := toInt32 (strtol v)
  if s1gFreq = -1 then (-eAgain, ctx) else
  match statusField status "freq" with
  | none => ctx.updateErr
  | some v =>
  let ctx := { ctx with current5gFreq := u32OfInt (strtoul v) }
  match statusField status "s1g_bw" with
  | none => ctx.updateErr
  | some v =>
  let s1gBw := toInt32 (strtol v)
  match statusField status "s1g_prim_chwidth" with
  | none => ctx.updateErr
  | some v =>
  let ctx := { ctx with currentPrimaryChWidth := toInt32 (strtoul v) }
  match statusField status "s1g_prim_1mhz_chan_index" with
  | none => ctx.updateErr
  | some v =>
  let ctx := { ctx with currentPrim1mhzChIndex := toInt32 (strtoul v) }
  match statusField status "beacon_int" with
  | none => ctx.updateErr
  | some v =>
  let ctx := { ctx with beaconInterval := u16OfInt (strtol v) }
  if ctx.beaconInterval = (0 : UInt16) then ctx.updateErr else
  match statusField status "dtim_period" with
  | none => ctx.updateErr
  | some v =>
  let ctx := { ctx with dtimPeriod := u8OfInt (strtol v) }
  if ctx.dtimPeriod = (0 : UInt8) then ctx.updateErr else
  match findChannel ctx.channels s1gFreq s1gBw with
  | some i => (0, { ctx with currentChannel := some i })
  | none => ctx.updateErr

/-- The context with the six fields `update_current_channel` writes replaced. -/
def DcsContext.withCurrent (ctx : DcsContext) (cur : Option Nat) (freq5g : UInt32)
    (width idx : Int) (beaconInt : UInt16) (dtim : UInt8) : DcsContext :=
  { ctx with currentChannel := cur, current5gFreq := freq5g, currentPrimaryChWidth := width,
             currentPrim1mhzChIndex := idx, beaconInterval := beaconInt, dtimPeriod := dtim }

/-- The seven values `update_current_channel` reads from a reply that carries all of them, each
converted to the type it is stored in. -/
structure StatusReading where
  s1gFreq : Int
  freq : UInt32
  s1gBw : Int
  primChwidth : Int
  prim1mhzChanIndex : Int
  beaconInt : UInt16
  dtimPeriod : UInt8

/-- A `STATUS` field converted as `update_current_channel` stores it. -/
def statusRead {α : Type} (status : List MmsmDataItem) (key : String) (conv : List Char → α) :
    Option α :=
  (statusField status key).map conv

/-- The reading of a reply, when every field `update_current_channel` reads is present. -/
def readStatus (status : List MmsmDataItem) : Option StatusReading := do
  pure ⟨← statusRead status "s1g_freq" (toInt32 ∘ strtol),
    ← statusRead status "freq" (fun v => u32OfInt (strtoul v)),
    ← statusRead status "s1g_bw" (toInt32 ∘ strtol),
    ← statusRead status "s1g_prim_chwidth" (fun v => toInt32 (strtoul v)),
    ← statusRead status "s1g_prim_1mhz_chan_index" (fun v => toInt32 (strtoul v)),
    ← statusRead status "beacon_int" (u16OfInt ∘ strtol),
    ← statusRead status "dtim_period" (u8OfInt ∘ strtol)⟩

/-- A field after a failed update: untouched, or the value the reply carried. -/
def KeptOrRead {α : Type} (old : α) (read : Option α) (v : α) : Prop := v = old ∨ read = some v

/-- **`update_current_channel` has three outcomes.**  It returns `0` when the reply carries every
field with `s1g_freq ≠ -1`, non-zero beacon interval and DTIM period, and a visited table entry
of the reported frequency and bandwidth: the current channel is the first such entry and the five
other fields are the reply's.  It returns `-EAGAIN`, changing nothing, when `s1g_freq` reads
`-1`.  Otherwise it returns `-EINVAL` with the current channel `NULL` and each of the five other
fields either untouched or the reply's. -/
theorem updateCurrentChannel_outcome (ctx : DcsContext) (status : List MmsmDataItem) :
    (∃ rd i, readStatus status = some rd ∧ rd.s1gFreq ≠ -1 ∧ rd.beaconInt ≠ 0 ∧
        rd.dtimPeriod ≠ 0 ∧ findChannel ctx.channels rd.s1gFreq rd.s1gBw = some i ∧
        updateCurrentChannel ctx status = (0, ctx.withCurrent (some i) rd.freq rd.primChwidth
          rd.prim1mhzChanIndex rd.beaconInt rd.dtimPeriod)) ∨
    (statusRead status "s1g_freq" (toInt32 ∘ strtol) = some (-1) ∧
        updateCurrentChannel ctx status = (-eAgain, ctx)) ∨
    (∃ f w ix bi dt,
        KeptOrRead ctx.current5gFreq (statusRead status "freq" (fun v => u32OfInt (strtoul v))) f ∧
        KeptOrRead ctx.currentPrimaryChWidth
          (statusRead status "s1g_prim_chwidth" (fun v => toInt32 (strtoul v))) w ∧
        KeptOrRead ctx.currentPrim1mhzChIndex
          (statusRead status "s1g_prim_1mhz_chan_index" (fun v => toInt32 (strtoul v))) ix ∧
        KeptOrRead ctx.beaconInterval (statusRead status "beacon_int" (u16OfInt ∘ strtol)) bi ∧
        KeptOrRead ctx.dtimPeriod (statusRead status "dtim_period" (u8OfInt ∘ strtol)) dt ∧
        updateCurrentChannel ctx status = (-eInval, ctx.withCurrent none f w ix bi dt)) := by
  generalize hu : updateCurrentChannel ctx status = u
  unfold updateCurrentChannel at hu
  dsimp only at hu
  repeat' split at hu
  all_goals subst hu; first
    | refine .inr (.inr ⟨_, _, _, _, _, ?_, ?_, ?_, ?_, ?_, rfl⟩) <;>
        first | exact .inl (by with_reducible rfl) | (right; simp [statusRead, *])
    | (refine .inr (.inl ⟨?_, rfl⟩); simp [statusRead, *])
    | (left; simp_all [readStatus, statusRead, DcsContext.withCurrent, DcsContext.channels])

@[simp] theorem DcsContext.withCurrent_scanList (ctx : DcsContext) (cur : Option Nat)
    (freq5g : UInt32) (width idx : Int) (beaconInt : UInt16) (dtim : UInt8) :
    (ctx.withCurrent cur freq5g width idx beaconInt dtim).scanList = ctx.scanList := rfl

@[simp] theorem DcsContext.withCurrent_allChannels (ctx : DcsContext) (cur : Option Nat)
    (freq5g : UInt32) (width idx : Int) (beaconInt : UInt16) (dtim : UInt8) :
    (ctx.withCurrent cur freq5g width idx beaconInt dtim).allChannels = ctx.allChannels := rfl

@[simp] theorem DcsContext.withCurrent_config (ctx : DcsContext) (cur : Option Nat)
    (freq5g : UInt32) (width idx : Int) (beaconInt : UInt16) (dtim : UInt8) :
    (ctx.withCurrent cur freq5g width idx beaconInt dtim).config = ctx.config := rfl

/-- `ctx'` differs from `ctx` at most in the six fields `update_current_channel` writes. -/
def CurrentOnly (ctx ctx' : DcsContext) : Prop :=
  ∃ cur f w ix bi dt, ctx' = ctx.withCurrent cur f w ix bi dt

theorem CurrentOnly.refl (ctx : DcsContext) : CurrentOnly ctx ctx := ⟨_, _, _, _, _, _, rfl⟩

theorem CurrentOnly.scanList_eq {ctx ctx' : DcsContext} (h : CurrentOnly ctx ctx') :
    ctx'.scanList = ctx.scanList := by
  obtain ⟨_, _, _, _, _, _, rfl⟩ := h
  rfl

theorem CurrentOnly.trans {ctx₁ ctx₂ ctx₃ : DcsContext} (h₁ : CurrentOnly ctx₁ ctx₂)
    (h₂ : CurrentOnly ctx₂ ctx₃) : CurrentOnly ctx₁ ctx₃ := by
  obtain ⟨_, _, _, _, _, _, rfl⟩ := h₁
  obtain ⟨_, _, _, _, _, _, rfl⟩ := h₂
  exact ⟨_, _, _, _, _, _, rfl⟩

/-- `update_current_channel` writes the six fields of the current channel and nothing else. -/
theorem updateCurrentChannel_currentOnly (ctx : DcsContext) (status : List MmsmDataItem) :
    CurrentOnly ctx (updateCurrentChannel ctx status).2 := by
  rcases updateCurrentChannel_outcome ctx status with
    ⟨_, _, -, -, -, -, -, h⟩ | ⟨-, h⟩ | ⟨_, _, _, _, _, -, -, -, -, -, h⟩
  · exact ⟨_, _, _, _, _, _, by rw [h]⟩
  · rw [h]; exact .refl ctx
  · exact ⟨_, _, _, _, _, _, by rw [h]⟩

/-- The item `parse_item` builds from a `STATUS` line `key=value`. -/
def statusLine (key value : String) : MmsmDataItem :=
  (mmsmDataItemAlloc.setKeyStr key).setValString value

/-- A table of two 1 MHz channels, the AP on the first. -/
def twoChannelContext : DcsContext where
  numChans := 2
  allChannels := [⟨⟨902500, 1, 1⟩, ⟨0, 0, 0⟩⟩, ⟨⟨903500, 1, 3⟩, ⟨0, 0, 0⟩⟩]
  currentChannel := some 0
  currentPrimaryChWidth := 1
  currentPrim1mhzChIndex := 0
  current5gFreq := 5180
  dtimPeriod := 1
  beaconInterval := 100
  scanList := [0, 1]
  config := ⟨true⟩

/-- **A failed update is not all-or-nothing.**  A reply that reports the second channel and a
new 5 GHz frequency but no `s1g_bw` makes the update return `-EINVAL` after it has stored the new
5 GHz frequency, and leaves the current channel `NULL`. -/
theorem updateCurrentChannel_without_bandwidth :
    updateCurrentChannel twoChannelContext
        [statusLine "s1g_freq" "903500", statusLine "freq" "5200"] =
      (-eInval, { twoChannelContext with currentChannel := none, current5gFreq := 5200 }) := by
  decide

/-! ## §3 — the primary channel -/

/-- `calculate_new_prim_ch_center_freq`: the centre of the primary channel that keeps the current
primary width and 1 MHz index inside `channel`.  The arithmetic is the code's: `uint32_t` bottom
and top of the channel, `int` index arithmetic with C's truncating division, and an assertion on
an unsupported width or a centre at or above the top. -/
def calculateNewPrimChCenterFreq (ctx : DcsContext) (channel : MorseCmdChannelInfo) :
    Except DcsFault UInt32 :=
  let half := u32OfInt (channel.bandwidthMhz.toNat * 1000 / 2)
  let bottomFreq := channel.frequencyKhz - half
  let topFreq := channel.frequencyKhz + half
  let idx := ctx.currentPrim1mhzChIndex
  let center :=
    if ctx.currentPrimaryChWidth = 1 then some (bottomFreq + u32OfInt (idx * 1000) + 500)
    else if ctx.currentPrimaryChWidth = 2 then
      some (bottomFreq + u32OfInt (idx.tdiv 2 * 1000 * 2) + 1000)
    else none
  match center with
  | some c => if c < topFreq then .ok c else .error .assertion
  | none => .error .assertion

/-- `calculate_sec_channel_offset`. -/
def calculateSecChannelOffset (ctx : DcsContext) (channel : MorseCmdChannelInfo) : Int :=
  if channel.bandwidthMhz = 1 then 0
  else if ctx.currentPrim1mhzChIndex % 2 = 0 then 1 else -1

/-- `primary_channel_is_available`: some visited table entry is the primary channel, at the
current primary width (stored in a `uint8_t`). -/
def primaryChannelIsAvailable (ctx : DcsContext) (channel : MorseCmdChannelInfo) :
    Except DcsFault Bool := do
  let primaryFreqKhz ← calculateNewPrimChCenterFreq ctx channel
  let primaryBwMhz := u8OfInt ctx.currentPrimaryChWidth
  pure (ctx.channels.any fun c =>
    c.ch.frequencyKhz = primaryFreqKhz && c.ch.bandwidthMhz = primaryBwMhz)

/-- The filter of `init_scan_list` on the entry `i`: the current bandwidth, then (only then) an
available primary channel. -/
def scanFilter (ctx : DcsContext) (bw : UInt8) (c : DcsChannel) : Except DcsFault Bool :=
  if c.ch.bandwidthMhz = bw then primaryChannelIsAvailable ctx c.ch else pure false

/-- `init_scan_list`: the visited entries that pass the filter, in table order.  The current
channel is dereferenced first. -/
def initScanList (ctx : DcsContext) : Except DcsFault (List Nat) :=
  match ctx.currentChannel.bind ctx.chan? with
  | none => .error .nullPointer
  | some cur =>
    (List.range ctx.channels.length).filterM fun i =>
      match ctx.chan? i with
      | some c => scanFilter ctx cur.ch.bandwidthMhz c
      | none => pure false

/-! ## §4 — `initialise_channels` -/

/-- The context `calloc` returns, with the configuration `apply_configs_and_init_algo` reads. -/
def DcsContext.zeroed (config : DcsConfig) : DcsContext :=
  ⟨0, [], none, 0, 0, 0, 0, 0, [], config⟩

/-- `initialise_channels` in live mode: the driver's channels with zeroed metrics, their count
stored in the `uint8_t` `num_chans`; the current channel from `STATUS`; then `init_scan_list`.
`none` when `update_current_channel` fails, and `dcs_create` returns `NULL`. -/
def initialiseChannelsFromDriver (config : DcsConfig) (driverChannels : List MorseCmdChannelInfo)
    (status : List MmsmDataItem) : Except DcsFault (Option DcsContext) :=
  let ctx := { DcsContext.zeroed config with
    numChans := UInt8.ofNat driverChannels.length
    allChannels := driverChannels.map fun ch => ⟨ch, ⟨0, 0, 0⟩⟩ }
  match updateCurrentChannel ctx status with
  | (0, ctx) => (initScanList ctx).map fun l => some { ctx with scanList := l }
  | _ => pure none

/-! ## §5 — waiting for hostapd -/

/-- `MAX_RETRIES`: the `STATUS` requests `dcs_create` makes while it waits for hostapd. -/
def maxRetries : UInt8 := 10

/-- The loop of `wait_for_hostapd_state` over the `STATUS` replies it reads (the empty chain is a
`NULL` reply): `false` at a `NULL` reply or when the replies run out, `true` at a reply whose
`state` is the one waited for.  `strcmp` dereferences a missing `state`. -/
def waitForHostapdStateLoop (state : List Char) : List (List MmsmDataItem) → Except DcsFault Bool
  | [] => .ok false
  | item :: items =>
    if item = [] then .ok false else
    match statusField item "state" with
    | none => .error .nullPointer
    | some val => if val = state then .ok true else waitForHostapdStateLoop state items

/-- `wait_for_hostapd_state(hostapd_intf, state, wait_sec, num_retries)`, where `status i` is
the reply to its `i`-th `mmsm_request(hostapd_intf, "STATUS")`: `while (retries++ <
num_retries)` makes at most `num_retries` requests, and the sleeps between them only time the
run. -/
def waitForHostapdState (status : Nat → List MmsmDataItem) (state : String) (numRetries : UInt8) :
    Except DcsFault Bool :=
  waitForHostapdStateLoop state.toList ((List.range numRetries.toNat).map status)

/-- A reply after which the loop asks again: not `NULL`, with a `state` other than `state`. -/
def StatusWaits (state : List Char) (r : List MmsmDataItem) : Prop :=
  r ≠ [] ∧ ∃ v, statusField r "state" = some v ∧ v ≠ state

/-- Splitting the first of `n + 1` requests off a property of the earliest one that stops. -/
theorem exists_lt_succ_shift {P : Nat → Prop} {W : Nat → Prop} (n : Nat) :
    (∃ i < n + 1, (∀ j < i, W j) ∧ P i) ↔ P 0 ∨ W 0 ∧ ∃ i < n, (∀ j < i, W (j + 1)) ∧ P (i + 1) := by
  constructor
  · rintro ⟨_ | i, hi, hw, hp⟩
    · exact .inl hp
    · exact .inr ⟨hw 0 (by omega), i, by omega, fun j hj => hw (j + 1) (by omega), hp⟩
  · rintro (hp | ⟨hw0, i, hi, hw, hp⟩)
    · exact ⟨0, by omega, fun j hj => absurd hj (Nat.not_lt_zero _), hp⟩
    · exact ⟨i + 1, by omega, fun j hj => by cases j with
        | zero => exact hw0
        | succ j => exact hw j (by omega), hp⟩

theorem waitForHostapdStateLoop_range (state : List Char) : ∀ (n : Nat)
    (status : Nat → List MmsmDataItem),
    (waitForHostapdStateLoop state ((List.range n).map status) = .ok true ↔
      ∃ i < n, (∀ j < i, StatusWaits state (status j)) ∧ status i ≠ [] ∧
        statusField (status i) "state" = some state) ∧
    (waitForHostapdStateLoop state ((List.range n).map status) = .error .nullPointer ↔
      ∃ i < n, (∀ j < i, StatusWaits state (status j)) ∧ status i ≠ [] ∧
        statusField (status i) "state" = none)
  | 0, _ => by simp [waitForHostapdStateLoop]
  | n + 1, status => by
    have ih := waitForHostapdStateLoop_range state n fun j => status (j + 1)
    rw [List.range_succ_eq_map, List.map_cons, List.map_map, exists_lt_succ_shift,
      exists_lt_succ_shift, waitForHostapdStateLoop]
    by_cases h0 : status 0 = []
    · simp [h0, StatusWaits]
    rw [if_neg h0]
    cases hv : statusField (status 0) "state" with
    | none => simp [h0, StatusWaits, hv]
    | some v =>
      by_cases hvs : v = state
      · subst hvs
        simp [h0, StatusWaits, hv]
      · simp only [if_neg hvs]
        exact ⟨by simp [ih.1, StatusWaits, h0, hv, hvs, Function.comp_def],
          by simp [ih.2, StatusWaits, h0, hv, hvs, Function.comp_def]⟩

/-- **`wait_for_hostapd_state`, exactly.**  Among the first `num_retries` `STATUS` replies, the
loop runs to the first that is `NULL`, has no `state`, or has the `state` waited for.  It returns
`true` exactly when that reply has the `state` waited for.  `strcmp` dereferences `NULL` exactly
when that reply has no `state` field.  Otherwise it returns `false`: at a `NULL` reply, or after
`num_retries` replies with other states. -/
theorem waitForHostapdState_outcome (status : Nat → List MmsmDataItem) (state : String)
    (numRetries : UInt8) :
    (waitForHostapdState status state numRetries = .ok true ↔
      ∃ i < numRetries.toNat, (∀ j < i, StatusWaits state.toList (status j)) ∧ status i ≠ [] ∧
        statusField (status i) "state" = some state.toList) ∧
    (waitForHostapdState status state numRetries = .error .nullPointer ↔
      ∃ i < numRetries.toNat, (∀ j < i, StatusWaits state.toList (status j)) ∧ status i ≠ [] ∧
        statusField (status i) "state" = none) :=
  waitForHostapdStateLoop_range state.toList numRetries.toNat status

/-- hostapd reports `DISABLED`, then a reply without `state`: the wait dereferences `NULL`. -/
def disabledThenNoState (i : Nat) : List MmsmDataItem :=
  if i = 0 then [mmsmDataItemAlloc.setKeyStr "state" |>.setValString "DISABLED"]
  else [mmsmDataItemAlloc.setKeyStr "freq" |>.setValString "5180"]

/-- That wait faults at the second reply. -/
example : waitForHostapdState disabledThenNoState "ENABLED" maxRetries = .error .nullPointer :=
  rfl

end SmartManager.Dcs
