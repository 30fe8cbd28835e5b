/-
# `SmartManager.Dcs.ReplayCreate` — `dcs_create` in replay mode (`modules/dcs/dcs_test.c`,
`modules/dcs/dcs.c`).

`initialise_channels_for_test` loads the datalog and makes every logged frequency a channel of
the table, with the channel data of its first row, its `accumulated_score` at 100.  It makes
current the last of them whose channel number is the initial channel, and fixes the primary
channel to 1 MHz at index 0.  The table's size is the `uint8_t` `num_chans`: with 256 frequencies
or more it `calloc`s fewer entries than it copies, and the model stops at the first write past
them (`DcsFault.writePastTable`).  `initialise_channels` keeps its result in a `bool` and, on
success, builds the scan list with `init_scan_list`.  Its filter keeps a channel only when a 1 MHz
channel of the table sits at the channel's primary centre.

**A log of wider channels aborts `dcs_create`** (`dcsCreateReplay_wide_log_aborts`).  Suppose every
row is on a channel of one bandwidth other than 1 MHz, and the initial channel is logged.  Then
the table has no 1 MHz channel, the filter keeps nothing, and `init_scan_thread`'s assertion that
the scan list is not empty fails (with 256 frequencies or more, the copy into the table fails
first).

A log of 1 MHz channels, with fewer than 256 frequencies, replays
(`dcsCreateReplay_one_mhz_log_starts`).  Every channel of the table is then its own primary
channel, so `init_scan_list` keeps every entry, and the scan thread starts on all the logged
channels, with the store holding every logged sample.
-/
import SmartManager.Dcs.Replay
import SmartManager.Dcs.ScanThread

namespace SmartManager.Dcs

open SmartManager.Libc SmartManager.Misc SmartManager.Engine

/-! ## §1 — `initialise_channels_for_test` and `dcs_create` -/

/-- `ENFILE` (Linux). -/
def eNFile : Int := 23

/-- The entry `initialise_channels_for_test` makes current: the last whose channel number, a
`uint8_t` promoted to `int`, is the initial channel. -/
def currentForTest (perChList : List ChannelMeasurementListPerCh) (initialChan : Int) :
    Option Nat :=
  perChList.enum.foldl (fun cur (i, e) =>
    if (e.ch.channelS1g.toNat : Int) = initialChan then some i else cur) none

/-- The context `initialise_channels_for_test` fills from the loaded queues: one table entry per
frequency, its metric `calloc`ed with `accumulated_score` 100, the table's size in the `uint8_t`
`num_chans`, every entry in the scan list, and the current channel.  It is built only for fewer
than 256 frequencies: with more, `num_chans` keeps the size modulo 256 and the loop writes past
the table (`initialiseChannelsForTest` stops there). -/
def testContext (config : DcsConfig) (perChList : List ChannelMeasurementListPerCh)
    (initialChan : Int) : DcsContext :=
  { DcsContext.zeroed config with
    numChans := UInt8.ofNat perChList.length
    allChannels := perChList.map fun e => ⟨e.ch, ⟨100, 0, 0⟩⟩
    currentChannel := currentForTest perChList initialChan
    scanList := List.range perChList.length }

/-- `initialise_channels_for_test` on the text of the samples file (`none` when `fopen` fails):
what it returns, the context it fills and the queues loaded.  With 256 frequencies or more the
`calloc` of the `uint8_t` `num_chans` entries is smaller than the list the loop copies, and the
first write past it is a fault. -/
def initialiseChannelsForTest (config : DcsConfig) (undef : LoaderLocals)
    (file : Option (List Char)) :
    Except DcsFault (Int × DcsContext × List ChannelMeasurementListPerCh) :=
  match file with
  | none => .ok (-eNFile, .zeroed config, [])
  | some text =>
    let (initialChan, perChList) := loadChannelMeasurementSamplesFromFile undef text
    if initialChan ≤ 0 then .ok (-eInval, .zeroed config, perChList)
    else if UInt8.size ≤ perChList.length then .error .writePastTable
    else
      let ctx := testContext config perChList initialChan
      if ctx.currentChannel = none then .ok (-eInval, ctx, perChList)
      else .ok (0, { ctx with currentPrimaryChWidth := 1, currentPrim1mhzChIndex := 0 }, perChList)

/-- `initialise_channels` in replay mode: the result of `initialise_channels_for_test` is kept in a
`bool`, and on success `init_scan_list` builds the scan list.  `none` when `dcs_create` gives up
and returns `NULL`. -/
def initialiseChannelsReplay (config : DcsConfig) (undef : LoaderLocals)
    (file : Option (List Char)) :
    Except DcsFault (Option (DcsContext × List ChannelMeasurementListPerCh)) :=
  (initialiseChannelsForTest config undef file).bind fun
    | (0, ctx, perChList) =>
      (initScanList ctx).map fun l => some ({ ctx with scanList := l }, perChList)
    | _ => pure none

/-- `dcs_create` in replay mode, from `initialise_channels` to the start of the scan thread: the
thread and the queues it pops from; `none` when `dcs_create` returns `NULL`. -/
def dcsCreateReplay (config : DcsConfig) (algoCfg : AlgoConfig) (undef : LoaderLocals)
    (file : Option (List Char)) :
    Except DcsFault (Option (ScanThread × List ChannelMeasurementListPerCh)) :=
  (initialiseChannelsReplay config undef file).bind fun
    | none => .ok none
    | some (ctx, perChList) => (dcsStartScan algoCfg ctx).map (Option.map (·, perChList))

/-! ## §2 — the filter of `init_scan_list` -/

/-- The loop `foldl` of a "the last match wins" search. -/
theorem foldl_lastMatch {α : Type} (p : α → Bool) (g : α → Nat) :
    ∀ (l : List α) (init : Option Nat) (j : Nat),
      l.foldl (fun cur x => if p x then some (g x) else cur) init = some j →
        init = some j ∨ ∃ x ∈ l, p x ∧ g x = j
  | [], _, _, h => .inl h
  | x :: l, init, j, h => by
    rcases foldl_lastMatch p g l _ j h with h | ⟨y, hy, hpy, hgy⟩
    · by_cases hx : p x
      · simp only [hx, ite_true, Option.some.injEq] at h
        exact .inr ⟨x, List.mem_cons_self _ _, hx, h⟩
      · simp only [hx] at h
        exact .inl h
    · exact .inr ⟨y, List.mem_cons_of_mem _ hy, hpy, hgy⟩

theorem foldl_lastMatch_of_none {α : Type} (p : α → Bool) (g : α → Nat) :
    ∀ (l : List α) (init : Option Nat), (∀ x ∈ l, p x = false) →
      l.foldl (fun cur x => if p x then some (g x) else cur) init = init
  | [], _, _ => rfl
  | x :: l, init, h => by
    rw [List.foldl_cons, h x (List.mem_cons_self _ _), if_neg Bool.false_ne_true]
    exact foldl_lastMatch_of_none p g l init fun y hy => h y (List.mem_cons_of_mem _ hy)

theorem foldl_lastMatch_isSome {α : Type} (p : α → Bool) (g : α → Nat) :
    ∀ (l : List α) (init : Option Nat), (∃ x ∈ l, p x) →
      (l.foldl (fun cur x => if p x then some (g x) else cur) init).isSome
  | [], _, ⟨_, hx, _⟩ => absurd hx (List.not_mem_nil _)
  | x :: l, init, ⟨y, hy, hpy⟩ => by
    rw [List.foldl_cons]
    by_cases hl : ∃ z ∈ l, p z
    · exact foldl_lastMatch_isSome p g l _ hl
    · push_neg at hl
      rcases List.mem_cons.1 hy with rfl | hy
      · simp [foldl_lastMatch_of_none p g l _ (fun z hz => by simpa using hl z hz), hpy]
      · exact absurd hpy (by simp [hl y hy])

/-- **The current channel of the replay** is an entry of the table, found when some entry has
the initial channel's number. -/
theorem currentForTest_spec (perChList : List ChannelMeasurementListPerCh) (c : Int)
    (h : ∃ e ∈ perChList, (e.ch.channelS1g.toNat : Int) = c) :
    ∃ j e, currentForTest perChList c = some j ∧ perChList[j]? = some e := by
  have hsome := foldl_lastMatch_isSome (fun x : Nat × ChannelMeasurementListPerCh =>
      decide ((x.2.ch.channelS1g.toNat : Int) = c)) Prod.fst perChList.enum none (by
    obtain ⟨e, he, hc⟩ := h
    obtain ⟨i, hi⟩ := List.mem_iff_getElem?.1 he
    exact ⟨(i, e), List.mem_enum_iff_getElem?.2 hi, by simpa using hc⟩)
  obtain ⟨j, hj⟩ := Option.isSome_iff_exists.1 hsome
  rcases foldl_lastMatch _ _ _ _ _ hj with h | ⟨⟨i, e⟩, hx, -, rfl⟩
  · cases h
  · exact ⟨i, e, by simpa [currentForTest] using hj, List.mem_enum_iff_getElem?.1 hx⟩

/-- `calculate_new_prim_ch_center_freq` fails only by its assertions. -/
theorem calculateNewPrimChCenterFreq_error {ctx : DcsContext} {ch : MorseCmdChannelInfo}
    {e : DcsFault} (h : calculateNewPrimChCenterFreq ctx ch = .error e) : e = .assertion := by
  unfold calculateNewPrimChCenterFreq at h
  dsimp only at h
  split at h
  · split at h
    · cases h
    · cases h; rfl
  · cases h; rfl

/-- With no visited channel at the current primary width, no primary channel is available. -/
theorem primaryChannelIsAvailable_no_width {ctx : DcsContext}
    (h : ∀ c ∈ ctx.channels, c.ch.bandwidthMhz ≠ u8OfInt ctx.currentPrimaryChWidth)
    (ch : MorseCmdChannelInfo) :
    primaryChannelIsAvailable ctx ch = .ok false ∨
      primaryChannelIsAvailable ctx ch = .error .assertion := by
  unfold primaryChannelIsAvailable
  cases hc : calculateNewPrimChCenterFreq ctx ch with
  | error e => exact .inr (by rw [calculateNewPrimChCenterFreq_error hc]; rfl)
  | ok v =>
    refine .inl ?_
    simp only [bind, Except.bind, pure, Except.pure, Except.ok.injEq, List.any_eq_false,
      Bool.and_eq_true, decide_eq_true_eq, not_and]
    exact fun c hc _ => h c hc

/-- A filter that never keeps an element keeps none, unless an assertion fails. -/
theorem filterAuxM_none {α : Type} {p : α → Except DcsFault Bool} :
    ∀ (l : List α), (∀ a ∈ l, p a = .ok false ∨ p a = .error .assertion) →
      ∀ acc, l.filterAuxM p acc = .ok acc ∨ l.filterAuxM p acc = .error .assertion
  | [], _, acc => .inl rfl
  | a :: l, hp, acc => by
    rcases hp a (List.mem_cons_self _ _) with h | h
    · simp only [List.filterAuxM, h, bind, Except.bind, cond_false]
      exact filterAuxM_none l (fun b hb => hp b (List.mem_cons_of_mem _ hb)) acc
    · simp [List.filterAuxM, h, bind, Except.bind]

theorem filterM_none {α : Type} {p : α → Except DcsFault Bool} {l : List α}
    (hp : ∀ a ∈ l, p a = .ok false ∨ p a = .error .assertion) :
    l.filterM p = .ok [] ∨ l.filterM p = .error .assertion := by
  unfold List.filterM
  rcases filterAuxM_none l hp [] with h | h
  · left; rw [h]; rfl
  · right; rw [h]; rfl

/-- **`init_scan_list` keeps nothing from a table without a channel at the primary width**, or
fails an assertion. -/
theorem initScanList_no_width {ctx : DcsContext} (hcur : (ctx.currentChannel.bind ctx.chan?).isSome)
    (h : ∀ c ∈ ctx.channels, c.ch.bandwidthMhz ≠ u8OfInt ctx.currentPrimaryChWidth) :
    initScanList ctx = .ok [] ∨ initScanList ctx = .error .assertion := by
  obtain ⟨cur, hc⟩ := Option.isSome_iff_exists.1 hcur
  unfold initScanList
  rw [hc]
  dsimp only
  apply filterM_none
  intro i _
  split
  · unfold scanFilter
    split
    · exact primaryChannelIsAvailable_no_width h _
    · exact .inl rfl
  · exact .inl rfl

/-- At primary width 1 MHz and index 0, the primary centre of a 1 MHz channel is the channel's
own frequency, when its top edge does not wrap around. -/
theorem calculateNewPrimChCenterFreq_one_mhz {ctx : DcsContext} {ch : MorseCmdChannelInfo}
    (hw : ctx.currentPrimaryChWidth = 1) (hi : ctx.currentPrim1mhzChIndex = 0)
    (hb : ch.bandwidthMhz = 1) (hf : ch.frequencyKhz.toNat + 500 < 2 ^ 32) :
    calculateNewPrimChCenterFreq ctx ch = .ok ch.frequencyKhz := by
  have hc : ch.frequencyKhz - 500 + 0 + 500 = ch.frequencyKhz := by
    apply UInt32.eq_of_toBitVec_eq
    simp only [UInt32.add_def, UInt32.sub_def, UInt32.toBitVec_ofNat]
    bv_omega
  have hlt : ch.frequencyKhz < ch.frequencyKhz + 500 := by
    simp only [UInt32.lt_def, UInt32.add_def, UInt32.toBitVec_ofNat, UInt32.toNat] at hf ⊢
    bv_omega
  simp [calculateNewPrimChCenterFreq, hw, hi, hb, show u32OfInt 500 = 500 from rfl,
    show u32OfInt 0 = 0 from rfl, hc, hlt]

/-- A visited 1 MHz channel is its own primary channel at primary width 1 MHz and index 0. -/
theorem primaryChannelIsAvailable_one_mhz {ctx : DcsContext} {c : DcsChannel}
    (hw : ctx.currentPrimaryChWidth = 1) (hi : ctx.currentPrim1mhzChIndex = 0)
    (hc : c ∈ ctx.channels) (hb : c.ch.bandwidthMhz = 1)
    (hf : c.ch.frequencyKhz.toNat + 500 < 2 ^ 32) :
    primaryChannelIsAvailable ctx c.ch = .ok true := by
  simp only [primaryChannelIsAvailable, calculateNewPrimChCenterFreq_one_mhz hw hi hb hf, hw]
  simp only [bind, Except.bind, pure, Except.pure, Except.ok.injEq, List.any_eq_true,
    Bool.and_eq_true, decide_eq_true_eq]
  exact ⟨c, hc, rfl, hb⟩

/-- A filter that keeps every element keeps the list. -/
theorem filterAuxM_all {α : Type} {p : α → Except DcsFault Bool} :
    ∀ (l : List α), (∀ a ∈ l, p a = .ok true) →
      ∀ acc, l.filterAuxM p acc = .ok (l.reverse ++ acc)
  | [], _, _ => rfl
  | a :: l, hp, acc => by
    simp only [List.filterAuxM, hp a (List.mem_cons_self _ _), bind, Except.bind, cond_true,
      filterAuxM_all l (fun b hb => hp b (List.mem_cons_of_mem _ hb)), List.reverse_cons,
      List.append_assoc, List.singleton_append]

theorem filterM_all {α : Type} {p : α → Except DcsFault Bool} {l : List α}
    (hp : ∀ a ∈ l, p a = .ok true) : l.filterM p = .ok l := by
  simp [List.filterM, filterAuxM_all l hp [], bind, Except.bind, pure, Except.pure]

/-- **`init_scan_list` keeps every visited entry** when each passes the filter at the current
channel's bandwidth. -/
theorem initScanList_all {ctx : DcsContext} {cur : DcsChannel}
    (hcur : ctx.currentChannel.bind ctx.chan? = some cur)
    (h : ∀ c ∈ ctx.channels, scanFilter ctx cur.ch.bandwidthMhz c = .ok true) :
    initScanList ctx = .ok (List.range ctx.channels.length) := by
  unfold initScanList
  rw [hcur]
  dsimp only
  apply filterM_all
  intro i hi
  have hi' : i < ctx.channels.length := List.mem_range.1 hi
  have hget : ctx.chan? i = some ctx.channels[i] := by
    simp only [DcsContext.chan?, DcsContext.channels, List.getElem_take]
    exact List.get?_eq_getElem? _ _ ▸ List.getElem?_eq_getElem _
  rw [hget]
  exact h _ (List.getElem_mem _)

/-- The scan thread does not start on an empty scan list when the algorithm initialises. -/
theorem dcsStartScan_nil {algoCfg : AlgoConfig}
    (halgo : ∀ ctx, (dcsAlgoInitialise algoCfg ctx).isSome)
    {ctx : DcsContext} (h : ctx.scanList = []) : dcsStartScan algoCfg ctx = .error .assertion := by
  obtain ⟨⟨algo, ctx'⟩, hinit⟩ := Option.isSome_iff_exists.1 (halgo ctx)
  obtain ⟨chans, rfl, -⟩ := dcsAlgoInitialise_metricsOnly hinit
  simp [dcsStartScan, hinit, h]

/-- The scan thread starts, fresh, on a non-empty scan list when the algorithm initialises. -/
theorem dcsStartScan_of_ne_nil {algoCfg : AlgoConfig}
    (halgo : ∀ ctx, (dcsAlgoInitialise algoCfg ctx).isSome) {ctx : DcsContext}
    (h : ctx.scanList ≠ []) :
    ∃ s, dcsStartScan algoCfg ctx = .ok (some s) ∧ s = ScanThread.start s.ctx s.algo ∧
      MetricsOnly ctx s.ctx := by
  obtain ⟨⟨algo, ctx'⟩, hinit⟩ := Option.isSome_iff_exists.1 (halgo ctx)
  have hmo := dcsAlgoInitialise_metricsOnly hinit
  have hsl : ctx'.scanList = ctx.scanList := by obtain ⟨_, rfl, -⟩ := hmo; rfl
  exact ⟨ScanThread.start ctx' algo, by simp [dcsStartScan, hinit, hsl, h], rfl, hmo⟩

/-! ## §3 — `initialise_channels_for_test` on a log -/

theorem firstNonzeroCurrent_cons {r : DcsLogRow} (h : r.currentChannel ≠ 0)
    (rows : List DcsLogRow) :
    firstNonzeroCurrent (r :: rows) = r.currentChannel.toNat := by
  simp [firstNonzeroCurrent, List.find?_cons, h]

/-- Once the loader has found a positive initial channel that some entry carries,
`initialise_channels_for_test` writes past the table when there are 256 entries or more, and
otherwise succeeds and fixes the primary channel to 1 MHz at index 0. -/
theorem initialiseChannelsForTest_ok {config : DcsConfig} {undef : LoaderLocals} {text : List Char}
    {ic : Int} {perChList : List ChannelMeasurementListPerCh} {j : Nat}
    (hload : loadChannelMeasurementSamplesFromFile undef text = (ic, perChList)) (hpos : 0 < ic)
    (hj : currentForTest perChList ic = some j) :
    initialiseChannelsForTest config undef (some text) =
      if perChList.length < UInt8.size then
        .ok (0, { testContext config perChList ic with
          currentPrimaryChWidth := 1, currentPrim1mhzChIndex := 0 }, perChList)
      else .error .writePastTable := by
  by_cases hlen : perChList.length < UInt8.size <;>
    simp [initialiseChannelsForTest, hload, not_le.2 hpos, testContext, hj, hlen]

/-- **`initialise_channels_for_test` on a log** with timestamps from `timestamp_get` before the
year 10000, one channel number per frequency, and non-zero logged current channels: it makes
current an entry of the store of the logged rows, and succeeds on it unless it has 256 entries or
more. -/
theorem initialiseChannelsForTest_log (config : DcsConfig) (undef : LoaderLocals)
    {rows : List DcsLogRow} {store : List ChannelMeasurementListPerCh}
    (hstore : rows.foldl (fun ps r => addChannelMeasurementItem ps r.sample r.channel) [] = store)
    (hne : rows ≠ [])
    (hts : ∀ r ∈ rows, ∃ tm tvUsec, r.sampleTime = timestampGet tm tvUsec)
    (hyear : ∀ r ∈ rows, r.sampleTime.year.toNat < 10000)
    (hchan : ∀ r ∈ rows, ∀ r' ∈ rows,
      r.frequencyKhz = r'.frequencyKhz → r.channelS1g = r'.channelS1g)
    (hcur : ∀ r ∈ rows,
      r.currentChannel ≠ 0 ∧ ∃ r' ∈ rows, r'.channelS1g = r.currentChannel) :
    ∃ j e, currentForTest store (firstNonzeroCurrent rows) = some j ∧ store[j]? = some e ∧
      initialiseChannelsForTest config undef
          (some (dcsCsvHeading ++ '\n' :: (rows.map fun r => csvLine r.fields).flatten)) =
        if store.length < UInt8.size then
          .ok (0, { testContext config store (firstNonzeroCurrent rows) with
            currentPrimaryChWidth := 1, currentPrim1mhzChIndex := 0 }, store)
        else .error .writePastTable := by
  obtain ⟨r₀, rest, hrows⟩ := List.exists_cons_of_ne_nil hne
  obtain ⟨hcur₀, r, hr, hs⟩ := hcur r₀ (hrows ▸ List.mem_cons_self _ _)
  have hfirst : firstNonzeroCurrent rows = r₀.currentChannel.toNat := by
    rw [hrows, firstNonzeroCurrent_cons hcur₀]
  have hload := loadChannelMeasurementSamplesFromFile_log undef fun r hr =>
    Timestamp.isoFits_of_timestampGet (hts r hr) (hyear r hr)
  rw [hstore] at hload
  -- the initial channel is the channel number of a logged frequency, so it has an entry
  have hfound : ∃ e ∈ store, (e.ch.channelS1g.toNat : Int) = firstNonzeroCurrent rows := by
    obtain ⟨e, he, hf⟩ := exists_mem_foldl_add hr
    obtain ⟨r', hr', hch⟩ := mem_foldl_add_nil he
    refine ⟨e, hstore ▸ he, ?_⟩
    rw [hfirst, hch, ← hs]
    exact congrArg (fun x : UInt8 => (x.toNat : Int)) (hchan r' hr' r hr (by rw [← hf, hch]; rfl))
  obtain ⟨j, e, hj, he⟩ := currentForTest_spec _ _ hfound
  have hpos : (0 : Int) < firstNonzeroCurrent rows := by
    have := (UInt8.toNat_eq_zero_iff r₀.currentChannel).not.2 hcur₀
    rw [hfirst]; omega
  exact ⟨j, e, hj, he, initialiseChannelsForTest_ok hload hpos hj⟩

/-! ## §4 — a log of wider channels -/

/-- **`dcs_create` aborts on a replay log of channels wider than 1 MHz.**  Take a log whose
timestamps come from `timestamp_get` with a year below 10000, whose rows are all on channels of
one bandwidth `b` other than 1 MHz, where a frequency always has the same channel number, and
whose current channels are non-zero logged channels.  With an algorithm configuration that
initialises, `dcs_create` in replay mode stops the process.  With fewer than 256 frequencies it
fails `init_scan_thread`'s assertion that the scan list is not empty (or an assertion of the
primary-centre computation before it); with more it writes past the table first. -/
theorem dcsCreateReplay_wide_log_aborts (config : DcsConfig) (algoCfg : AlgoConfig)
    (halgo : ∀ ctx, (dcsAlgoInitialise algoCfg ctx).isSome) (undef : LoaderLocals)
    (rows : List DcsLogRow) (b : UInt8) (hb : b ≠ 1) (hne : rows ≠ [])
    (hbw : ∀ r ∈ rows, r.bandwidthMhz = b)
    (hts : ∀ r ∈ rows, ∃ tm tvUsec, r.sampleTime = timestampGet tm tvUsec)
    (hyear : ∀ r ∈ rows, r.sampleTime.year.toNat < 10000)
    (hchan : ∀ r ∈ rows, ∀ r' ∈ rows,
      r.frequencyKhz = r'.frequencyKhz → r.channelS1g = r'.channelS1g)
    (hcur : ∀ r ∈ rows, r.currentChannel ≠ 0 ∧ ∃ r' ∈ rows, r'.channelS1g = r.currentChannel) :
    ∃ dl f, dcsDatalog rows = some dl ∧
      dcsCreateReplay config algoCfg undef (some dl.file) = .error f ∧
      ((rows.map (·.frequencyKhz)).dedup.length < 256 → f = .assertion) := by
  have hfew := length_foldl_add_le rows
  generalize hstore :
    rows.foldl (fun ps r => addChannelMeasurementItem ps r.sample r.channel) [] = store at hfew
  obtain ⟨j, e, hj, he, hinit⟩ :=
    initialiseChannelsForTest_log config undef hstore hne hts hyear hchan hcur
  refine ⟨_, if store.length < UInt8.size then .assertion else .writePastTable,
    dcsDatalog_eq rows, ?_, fun h => if_pos (hfew.trans_lt h)⟩
  by_cases hlen : store.length < UInt8.size
  case neg =>
    -- 256 frequencies or more: the copy into the table faults first
    simp only [dcsCreateReplay, initialiseChannelsReplay, hinit, if_neg hlen]; rfl
  rw [if_pos hlen]
  -- the table has no 1 MHz channel, so `init_scan_list` keeps nothing
  have hscan := @initScanList_no_width { testContext config store (firstNonzeroCurrent rows) with
      currentPrimaryChWidth := 1, currentPrim1mhzChIndex := 0 }
    (by simp [testContext, hj, DcsContext.chan?, he])
    (by
      intro c hc
      obtain ⟨e', he', rfl⟩ := List.mem_map.1 (List.mem_of_mem_take hc)
      obtain ⟨r, hr, hch⟩ := mem_foldl_add_nil (hstore ▸ he')
      rw [hch, show u8OfInt 1 = 1 from rfl]
      simpa [DcsLogRow.channel, hbw r hr] using hb)
  simp only [dcsCreateReplay, initialiseChannelsReplay, hinit, if_pos hlen, Except.bind]
  rcases hscan with h | h <;> simp only [h, Except.map, Except.bind]
  simp [dcsStartScan_nil halgo]

/-- Two 2 MHz channels, at 903 MHz (channel 2) and 905 MHz (channel 6), with channel 2 current. -/
def twoMhzRows : List DcsLogRow :=
  [⟨timestampGet tm2024 123456, 903000, 2, 2, 50, 100, 0, 2⟩,
    ⟨timestampGet tm2024 623456, 905000, 2, 6, 70, 100, 0, 2⟩]

/-- With EWMA (threshold 10 %, smoothing 50, a switch after three rounds), the replay of a log of
two 2 MHz channels aborts. -/
theorem dcsCreateReplay_two_mhz_aborts :
    ∃ dl, dcsDatalog twoMhzRows = some dl ∧
      dcsCreateReplay ⟨true⟩ (.ewma 10 50 3) ⟨⟨0, 0, 0⟩, 0, 0, 0, 0, 0⟩ (some dl.file) =
        .error .assertion := by
  obtain ⟨dl, f, hdl, hc, hf⟩ :=
    dcsCreateReplay_wide_log_aborts ⟨true⟩ (.ewma 10 50 3) (fun _ => rfl) _ twoMhzRows 2
      (by decide) (by decide) (by decide)
      (by
        simp only [twoMhzRows, List.mem_cons, List.mem_singleton, List.not_mem_nil, or_false]
        rintro r (rfl | rfl) <;> exact ⟨_, _, rfl⟩)
      (by decide) (by decide) (by decide)
  exact ⟨dl, hdl, hf (by decide) ▸ hc⟩

/-! ## §5 — a log of 1 MHz channels -/

/-- The table visits every entry while there are fewer than 256 of them. -/
theorem testContext_channels (config : DcsConfig) {perChList : List ChannelMeasurementListPerCh}
    (h : perChList.length < 256) (ic : Int) :
    (testContext config perChList ic).channels =
      perChList.map fun e => ⟨e.ch, ⟨100, 0, 0⟩⟩ := by
  simp [DcsContext.channels, testContext,
    UInt8.toNat_ofNat_of_lt (show perChList.length < UInt8.size from h)]

/-- **On a table of 1 MHz channels `init_scan_list` keeps every entry**, when there are fewer than
256 and none lies within 500 kHz of the top of the `uint32_t` range. -/
theorem initScanList_one_mhz (config : DcsConfig) {store : List ChannelMeasurementListPerCh}
    {ic : Int} {j : Nat} {e : ChannelMeasurementListPerCh} (hlen : store.length < 256)
    (hj : currentForTest store ic = some j) (he : store[j]? = some e)
    (hent : ∀ e ∈ store, e.ch.bandwidthMhz = 1 ∧ e.ch.frequencyKhz.toNat + 500 < 2 ^ 32) :
    initScanList { testContext config store ic with
      currentPrimaryChWidth := 1, currentPrim1mhzChIndex := 0 } =
      .ok (List.range store.length) := by
  have hchans : ({ testContext config store ic with
      currentPrimaryChWidth := 1, currentPrim1mhzChIndex := 0 } : DcsContext).channels =
      store.map fun e => ⟨e.ch, ⟨100, 0, 0⟩⟩ := testContext_channels config hlen ic
  have hbw := (hent e (List.mem_iff_getElem?.2 ⟨j, he⟩)).1
  rw [@initScanList_all _ ⟨e.ch, ⟨100, 0, 0⟩⟩
    (by simp [testContext, hj, DcsContext.chan?, he]) fun c hc => ?_, hchans, List.length_map]
  · obtain ⟨e', he', rfl⟩ := List.mem_map.1 (hchans ▸ hc)
    obtain ⟨hb, hf⟩ := hent e' he'
    simp only [scanFilter, hb, hbw, if_true]
    exact primaryChannelIsAvailable_one_mhz rfl rfl hc hb hf

/-- **A log of 1 MHz channels replays.**  Take a log as in `dcsCreateReplay_wide_log_aborts`, but
of 1 MHz channels, with fewer than 256 frequencies and none within 500 kHz of the top of the
`uint32_t` range.  With an algorithm configuration that initialises, `dcs_create` in replay mode
starts the scan thread afresh on a table of the logged channels, every one of them in the scan
list, and the store it pops from holds every logged sample. -/
theorem dcsCreateReplay_one_mhz_log_starts (config : DcsConfig) (algoCfg : AlgoConfig)
    (halgo : ∀ ctx, (dcsAlgoInitialise algoCfg ctx).isSome) (undef : LoaderLocals)
    (rows : List DcsLogRow) (hne : rows ≠ []) (hbw : ∀ r ∈ rows, r.bandwidthMhz = 1)
    (hfreq : ∀ r ∈ rows, r.frequencyKhz.toNat + 500 < 2 ^ 32)
    (hfew : (rows.map (·.frequencyKhz)).dedup.length < 256)
    (hts : ∀ r ∈ rows, ∃ tm tvUsec, r.sampleTime = timestampGet tm tvUsec)
    (hyear : ∀ r ∈ rows, r.sampleTime.year.toNat < 10000)
    (hchan : ∀ r ∈ rows, ∀ r' ∈ rows,
      r.frequencyKhz = r'.frequencyKhz → r.channelS1g = r'.channelS1g)
    (hcur : ∀ r ∈ rows,
      r.currentChannel ≠ 0 ∧ ∃ r' ∈ rows, r'.channelS1g = r.currentChannel) :
    ∃ dl, dcsDatalog rows = some dl ∧ ∃ s perChList,
      dcsCreateReplay config algoCfg undef (some dl.file) = .ok (some (s, perChList)) ∧
      s = ScanThread.start s.ctx s.algo ∧
      s.ctx.allChannels.map (·.ch) = perChList.map (·.ch) ∧
      s.ctx.scanList = List.range perChList.length ∧
      StoreInv perChList ∧ Holds perChList (rows.map DcsLogRow.logged) := by
  obtain ⟨hinv, hholds⟩ := foldl_add_holds rows [] [] .nil (fun _ => rfl)
  have hlen := (length_foldl_add_le rows).trans_lt hfew
  have hent (e)
      (he : e ∈ rows.foldl (fun ps r => addChannelMeasurementItem ps r.sample r.channel) []) :
      e.ch.bandwidthMhz = 1 ∧ e.ch.frequencyKhz.toNat + 500 < 2 ^ 32 := by
    obtain ⟨r, hr, hch⟩ := mem_foldl_add_nil he
    rw [hch]
    exact ⟨hbw r hr, hfreq r hr⟩
  have hnil :
      rows.foldl (fun ps r => addChannelMeasurementItem ps r.sample r.channel) [] ≠ [] := by
    obtain ⟨r, hr⟩ := List.exists_mem_of_ne_nil rows hne
    obtain ⟨e, he, -⟩ := exists_mem_foldl_add hr
    exact List.ne_nil_of_mem he
  generalize hstore :
    rows.foldl (fun ps r => addChannelMeasurementItem ps r.sample r.channel) [] = store
    at hinv hholds hlen hent hnil
  obtain ⟨j, e, hj, he, hinit⟩ :=
    initialiseChannelsForTest_log config undef hstore hne hts hyear hchan hcur
  refine ⟨_, dcsDatalog_eq rows, ?_⟩
  obtain ⟨s, hs, hstart, chans, hsctx, hch⟩ := @dcsStartScan_of_ne_nil _ halgo
    { { testContext config store (firstNonzeroCurrent rows) with
      currentPrimaryChWidth := 1, currentPrim1mhzChIndex := 0 } with
      scanList := List.range store.length } (by simpa using hnil)
  refine ⟨s, store, ?_, hstart, ?_, by rw [hsctx], hinv, by simpa using hholds⟩
  · simp only [dcsCreateReplay, initialiseChannelsReplay, hinit,
      if_pos (show store.length < UInt8.size from hlen),
      initScanList_one_mhz config hlen hj he hent, Except.map, Except.bind, hs, Option.map]
  · rw [hsctx, hch]
    simp [testContext, Function.comp_def]

/-- The log of two 1 MHz channels of `twoLoggedRows` replays with both in the scan list. -/
example : (dcsDatalog twoLoggedRows).map (fun dl =>
    (dcsCreateReplay ⟨true⟩ (.ewma 10 50 3) ⟨⟨0, 0, 0⟩, 0, 0, 0, 0, 0⟩ (some dl.file)).toOption
      |>.map (·.map (·.1.ctx.scanList))) = some (some (some [0, 1])) := by decide

end SmartManager.Dcs
