/-
# `SmartManager.Dcs.Replay` — the DCS datalog and the replay loader
(`modules/dcs/dcs.c`, `modules/dcs/dcs_test.c`).

The scan thread logs every measurement to the DCS datalog: the heading fixes eight fields, and
`datalog_write_csv(dl, "tuuuuuuu", ...)` writes the sample time as ISO text and seven values
with `%u`.  In replay mode `load_channel_measurement_samples_from_file` reads such a log back:
it skips the heading and, for every line, parses the timestamp (`-1` ends the load on failure),
finds the first comma (a line without one is skipped), reads seven `%d` fields into locals that
keep their values from one line to the next, and files the sample under its frequency.  It
returns the first `current_channel` it reads that is not `0`.

**The round trip** (`dcsReplay_hands_out_logged_samples`): for every log of rows whose
timestamps come from `timestamp_get` with a year below 10000, the loader returns the first
non-zero `current_channel`, and every run of pops hands out each frequency's logged samples in
log order, once each, then `NULL`, keeps every queue non-empty, and signals `mmsm_halt` from the
pop that hands out the last sample on.  A year from 10000 on breaks it: the timestamp no longer
parses and the loader returns `-1`; and a first row with `current_channel` 0 does not give the
initial channel (`loadChannelMeasurementSamplesFromFile_counterexamples`).

`sscanf`'s count is never checked, so a row with a valid timestamp and fewer fields is stored
as well, its missing fields taken from the locals: those of the row before it, or the
indeterminate ones for a first row (`loadChannelMeasurementSamplesFromFile_short_row`).
-/
import SmartManager.Dcs.ReplayStore
import SmartManager.Engine.Datalog

namespace SmartManager.Dcs

open SmartManager.Libc SmartManager.Misc SmartManager.Engine

/-! ## §1 — the DCS datalog -/

/-- The heading `measurement_schedule_thread_fn` gives the DCS datalog. -/
def dcsCsvHeading : List Char :=
  ("time,frequency_khz,bandwidth_mhz,channel_s1g,metric,accumulated_score," ++
    "rounds_as_best_for_channel,current_channel").toList

/-- What the scan thread logs for a measurement: the sample time and metric of the measurement,
the measured channel with its `accumulated_score` and `rounds_as_best`, and the channel number
of the current channel. -/
structure DcsLogRow where
  sampleTime : Timestamp
  frequencyKhz : UInt32
  bandwidthMhz : UInt8
  channelS1g : UInt8
  metric : UInt8
  accumulatedScore : UInt32
  roundsAsBest : Int
  currentChannel : UInt8
  deriving DecidableEq, Repr

/-- The formatters and arguments of the scan thread's `datalog_write_csv(dl, "tuuuuuuu", ...)`:
the `uint8_t` values promoted, the `int` `rounds_as_best` read as an `unsigned int`. -/
def DcsLogRow.fields (r : DcsLogRow) : List CsvField :=
  [.t r.sampleTime, .u r.frequencyKhz, .u r.bandwidthMhz.toUInt32, .u r.channelS1g.toUInt32,
    .u r.metric.toUInt32, .u r.accumulatedScore, .u (u32OfInt r.roundsAsBest),
    .u r.currentChannel.toUInt32]

/-- The DCS datalog once the scan thread has logged `rows`. -/
def dcsDatalog (rows : List DcsLogRow) : Option Datalog :=
  rows.foldlM (fun dl r => datalogWriteCsv dl r.fields) (datalogInitCsv .create dcsCsvHeading)

/-- The channel a row names. -/
def DcsLogRow.channel (r : DcsLogRow) : MorseCmdChannelInfo :=
  ⟨r.frequencyKhz, r.bandwidthMhz, r.channelS1g⟩

/-- The measurement a row records. -/
def DcsLogRow.sample (r : DcsLogRow) : ChannelMeasurement := ⟨r.sampleTime, r.metric⟩

/-- A row as a sample filed under its frequency. -/
def DcsLogRow.logged (r : DcsLogRow) : LoggedSample := ⟨r.frequencyKhz, r.sample⟩

/-- The `current_channel` field of the first row where it is not `0`, or `0`. -/
def firstNonzeroCurrent (rows : List DcsLogRow) : Int :=
  ((rows.find? (·.currentChannel ≠ 0)).map (·.currentChannel.toNat)).getD 0

/-! ## §2 — the loader -/

/-- The locals of `load_channel_measurement_samples_from_file` that keep their values from one
line to the next: the channel `ch`, the `int`s `sscanf` stores into (`dummy` is never read), and
`initial_chan`. -/
structure LoaderLocals where
  ch : MorseCmdChannelInfo
  bwMhz : Int
  s1gChan : Int
  score : Int
  tmp : Int
  initialChan : Int
  deriving DecidableEq, Repr

/-- The conversions `sscanf` stored, in the order of its arguments; a conversion it did not reach
leaves its variable as it was.  `%d` stores an `int` into the `uint32_t` frequency. -/
def LoaderLocals.storeScanned (st : LoaderLocals) (vals : List Int) : LoaderLocals :=
  { st with
    ch := { st.ch with frequencyKhz := ((vals.get? 0).map u32OfInt).getD st.ch.frequencyKhz }
    bwMhz := (vals.get? 1).getD st.bwMhz
    s1gChan := (vals.get? 2).getD st.s1gChan
    score := (vals.get? 3).getD st.score
    tmp := (vals.get? 6).getD st.tmp }

/-- `",%d,%d,%d,%d,%d,%d,%d"`. -/
def loaderRowFormat : List ScanDirective :=
  [.lit ',', .d, .lit ',', .d, .lit ',', .d, .lit ',', .d, .lit ',', .d, .lit ',', .d, .lit ',', .d]

/-- The loop of `load_channel_measurement_samples_from_file` over the lines after the heading:
what the function returns, and the queues it has built. -/
def loadLines (st : LoaderLocals) (perCh : List ChannelMeasurementListPerCh) :
    List (List Char) → Int × List ChannelMeasurementListPerCh
  | [] => (st.initialChan, perCh)
  | line :: lines =>
    let buff := cStringOfLine line
    match timestampFromIsoString buff with
    | none => (-1, perCh)
    | some sampleTime =>
      match strchr buff ',' with
      | none => loadLines st perCh lines
      | some ret =>
        let st := st.storeScanned (sscanf loaderRowFormat ret)
        let st := if st.initialChan = 0 then { st with initialChan := st.tmp } else st
        let st := { st with
          ch := { st.ch with bandwidthMhz := u8OfInt st.bwMhz, channelS1g := u8OfInt st.s1gChan } }
        loadLines st (addChannelMeasurementItem perCh ⟨sampleTime, u8OfInt st.score⟩ st.ch) lines

/-- `load_channel_measurement_samples_from_file` on the text of a file: `ch` and `initial_chan`
start at `0`, the other locals at the indeterminate values `undef` gives; the first line is
consumed unread. -/
def loadChannelMeasurementSamplesFromFile (undef : LoaderLocals) (file : List Char) :
    Int × List ChannelMeasurementListPerCh :=
  loadLines { undef with ch := ⟨0, 0, 0⟩, initialChan := 0 } [] ((getlines file).drop 1)

/-! ## §3 — reading a logged row back -/

/-- The values a row prints with `%u`, in order. -/
def DcsLogRow.values (r : DcsLogRow) : List Nat :=
  [r.frequencyKhz.toNat, r.bandwidthMhz.toNat, r.channelS1g.toNat, r.metric.toNat,
    r.accumulatedScore.toNat, (u32OfInt r.roundsAsBest).toNat, r.currentChannel.toNat]

/-- The line a row is logged as: the ISO time, then `,` and each value. -/
theorem csvLine_fields (r : DcsLogRow) :
    csvLine r.fields = timestampWriteToFileAsIso r.sampleTime ++
      ((r.values.map fun v => ',' :: formatU v).flatten ++ ['\n']) := by
  simp [csvLine, DcsLogRow.fields, DcsLogRow.values, CsvField.text, List.intercalate,
    List.intersperse, uint8_toNat_toUInt32]

theorem csvLine_fields_chars (r : DcsLogRow) :
    ∃ body, csvLine r.fields = body ++ ['\n'] ∧ '\n' ∉ body ∧ '\x00' ∉ body := by
  refine ⟨timestampWriteToFileAsIso r.sampleTime ++
      (r.values.map fun v => ',' :: formatU v).flatten,
    by rw [csvLine_fields, List.append_assoc], ?_, ?_⟩ <;>
  · simp only [List.mem_append, List.mem_flatten, List.mem_map, not_or, not_exists, not_and]
    refine ⟨fun h => by simpa using timestampWriteToFileAsIso_chars _ _ h, ?_⟩
    rintro _ ⟨v, -, rfl⟩ h
    rcases List.mem_cons.1 h with h | h
    · exact absurd h (by decide)
    · have := formatU_isDigit v _ h
      revert this; decide

/-- A value of at most 32 bits, printed by `%u` and read by `%d` into an `int`. -/
theorem toInt32_min_of_lt {v : Nat} (hv : v < 2 ^ 31) : toInt32 (min (v : Int) longMax) = v := by
  rw [min_eq_left (by unfold longMax; omega), toInt32_of_mem (by omega) (by omega)]

theorem u32OfInt_scanned (x : UInt32) : u32OfInt (toInt32 (min (x.toNat : Int) longMax)) = x := by
  have hx : x.toNat < 2 ^ 32 := x.toNat_lt_size
  rw [min_eq_left (by unfold longMax; omega)]
  have hid : (toInt32 x.toNat % 2 ^ 32).toNat = x.toNat := by
    rw [toInt32, Int.bmod_def]; split <;> omega
  rw [u32OfInt, hid]
  apply UInt32.eq_of_val_eq
  apply Fin.ext
  simp [UInt32.val, UInt32.ofNat, UInt32.toNat]

theorem u8OfInt_toNat (x : UInt8) : u8OfInt (x.toNat : Int) = x := by
  have hx : x.toNat < 2 ^ 8 := x.toNat_lt_size
  have hid : ((x.toNat : Int) % 2 ^ 8).toNat = x.toNat := by omega
  rw [u8OfInt, hid]
  apply UInt8.eq_of_val_eq
  apply Fin.ext
  simp [UInt8.val, UInt8.ofNat, UInt8.toNat]

/-- **The loader reads a logged row back**: it files the row's sample under the row's channel,
and takes the row's `current_channel` if it has none yet. -/
theorem loadLines_row (st : LoaderLocals) (perCh : List ChannelMeasurementListPerCh)
    {r : DcsLogRow} (hr : r.sampleTime.IsoFits) (lines : List (List Char)) :
    ∃ st', st'.initialChan =
        (if st.initialChan = 0 then (r.currentChannel.toNat : Int) else st.initialChan) ∧
      st'.bwMhz = (r.bandwidthMhz.toNat : Int) ∧ st'.s1gChan = (r.channelS1g.toNat : Int) ∧
      st'.score = (r.metric.toNat : Int) ∧
      loadLines st perCh (csvLine r.fields :: lines) =
        loadLines st' (addChannelMeasurementItem perCh r.sample r.channel) lines := by
  obtain ⟨body, hline, -, hnul⟩ := csvLine_fields_chars r
  have hc : cStringOfLine (csvLine r.fields) = csvLine r.fields := by
    rw [hline]
    exact cStringOfLine_of_not_mem (by simpa using hnul)
  have hvals : sscanf loaderRowFormat
      ((r.values.map fun v => ',' :: formatU v).flatten ++ ['\n']) =
      r.values.map fun v : Nat => toInt32 (min (v : Int) longMax) :=
    sscanf_commaDs r.values (by simp [isDigit])
  have htail : (r.values.map fun v => ',' :: formatU v).flatten ++ ['\n'] =
      ',' :: (formatU r.frequencyKhz.toNat ++
        (r.values.tail.map fun v => ',' :: formatU v).flatten ++ ['\n']) := rfl
  have hcur : r.currentChannel.toNat < 2 ^ 8 := r.currentChannel.toNat_lt_size
  have hsmall : ∀ x : UInt8, toInt32 (min (x.toNat : Int) longMax) = x.toNat := fun x =>
    toInt32_min_of_lt (by have : x.toNat < 2 ^ 8 := x.toNat_lt_size; omega)
  rw [loadLines, hc, csvLine_fields, timestampFromIsoString_write hr, htail,
    strchr_append (fun h => (timestampWriteToFileAsIso_chars _ _ h).1 rfl), ← htail]
  dsimp only
  rw [hvals]
  by_cases h0 : st.initialChan = 0 <;>
    simp [h0, LoaderLocals.storeScanned, DcsLogRow.values, DcsLogRow.sample, DcsLogRow.channel,
      u32OfInt_scanned, hsmall, u8OfInt_toNat] <;>
    exact ⟨_, by rfl, by rfl, by rfl, by rfl, rfl⟩

/-! ## §4 — reading a whole log back -/

theorem UInt8.toNat_eq_zero_iff (x : UInt8) : x.toNat = 0 ↔ x = 0 := by
  constructor
  · intro h; apply UInt8.eq_of_val_eq; apply Fin.ext; simpa [UInt8.toNat, UInt8.val] using h
  · rintro rfl; rfl

/-- `initial_chan` over the rows: the first non-zero `current_channel`. -/
theorem foldl_initialChan (rows : List DcsLogRow) :
    rows.foldl (fun ic r => if ic = 0 then (r.currentChannel.toNat : Int) else ic) 0 =
      firstNonzeroCurrent rows := by
  have hkeep : ∀ (rows : List DcsLogRow) (ic : Int), ic ≠ 0 →
      rows.foldl (fun ic r => if ic = 0 then (r.currentChannel.toNat : Int) else ic) ic = ic := by
    intro rows
    induction rows with
    | nil => intro _ _; rfl
    | cons r rows ih => intro ic h; simp [h, ih ic h]
  induction rows with
  | nil => rfl
  | cons r rows ih =>
    by_cases hc : r.currentChannel = 0
    · simp [hc, ih, firstNonzeroCurrent, List.find?_cons]
    · have hc' : (r.currentChannel.toNat : Int) ≠ 0 := by
        simpa [UInt8.toNat_eq_zero_iff] using hc
      have hfirst : firstNonzeroCurrent (r :: rows) = r.currentChannel.toNat := by
        simp [firstNonzeroCurrent, List.find?_cons, hc]
      rw [hfirst, List.foldl_cons, if_pos rfl]
      exact hkeep rows _ hc'

/-- **The loader reads a sequence of logged rows back.** -/
theorem loadLines_rows {rows : List DcsLogRow} (hr : ∀ r ∈ rows, r.sampleTime.IsoFits) :
    ∀ (st : LoaderLocals) (perCh : List ChannelMeasurementListPerCh),
      loadLines st perCh (rows.map fun r => csvLine r.fields) =
        (rows.foldl (fun ic r => if ic = 0 then (r.currentChannel.toNat : Int) else ic)
            st.initialChan,
          rows.foldl (fun ps r => addChannelMeasurementItem ps r.sample r.channel) perCh) := by
  induction rows with
  | nil => intro _ _; rfl
  | cons r rows ih =>
    intro st perCh
    obtain ⟨st', hic, -, -, -, hstep⟩ := loadLines_row st perCh (hr r (List.mem_cons_self _ _))
      (rows.map fun r => csvLine r.fields)
    rw [List.map_cons, hstep, ih (fun r h => hr r (List.mem_cons_of_mem _ h)), hic]
    rfl

/-- The store the loader builds from logged rows holds them, with the invariant. -/
theorem foldl_add_holds (rows : List DcsLogRow) :
    ∀ (ps : List ChannelMeasurementListPerCh) (rs : List LoggedSample),
      StoreInv ps → Holds ps rs →
      StoreInv (rows.foldl (fun ps r => addChannelMeasurementItem ps r.sample r.channel) ps) ∧
      Holds (rows.foldl (fun ps r => addChannelMeasurementItem ps r.sample r.channel) ps)
        (rs ++ rows.map DcsLogRow.logged) := by
  induction rows with
  | nil => intro ps rs hs h; simpa using ⟨hs, h⟩
  | cons r rows ih =>
    intro ps rs hs h
    have := ih _ _ (hs.add r.sample r.channel) (h.add r.sample r.channel)
    simpa [DcsLogRow.logged, DcsLogRow.channel] using this

/-- The lines of a text made of lines that each end in their only newline. -/
theorem getlines_flatten {ls : List (List Char)}
    (h : ∀ l ∈ ls, ∃ body, l = body ++ ['\n'] ∧ '\n' ∉ body) :
    getlines ls.flatten = ls := by
  induction ls with
  | nil => rfl
  | cons l ls ih =>
    obtain ⟨body, rfl, hb⟩ := h l (List.mem_cons_self _ _)
    rw [List.flatten_cons, List.append_assoc, List.singleton_append, getlines_line hb,
      ih fun l hl => h l (List.mem_cons_of_mem _ hl)]

/-- **The scan thread's writes append one line per row** after the heading. -/
theorem dcsDatalog_eq (rows : List DcsLogRow) :
    dcsDatalog rows =
      some ⟨8, dcsCsvHeading ++ '\n' :: (rows.map fun r => csvLine r.fields).flatten⟩ := by
  rw [dcsDatalog, foldlM_datalogWriteCsv DcsLogRow.fields (fun _ => List.cons_ne_nil _ _) 8
    (fun _ => rfl) rows _ (by decide)]
  simp [datalogInitCsv, Datalog.create,
    show UInt16.ofNat (dcsCsvHeading.count ',' + 1) = 8 by decide]

/-- **The loader on a log**: it returns the first `current_channel` that is not `0`, and the store
built by adding the rows' samples in order. -/
theorem loadChannelMeasurementSamplesFromFile_log (undef : LoaderLocals) {rows : List DcsLogRow}
    (hfits : ∀ r ∈ rows, r.sampleTime.IsoFits) :
    loadChannelMeasurementSamplesFromFile undef
        (dcsCsvHeading ++ '\n' :: (rows.map fun r => csvLine r.fields).flatten) =
      (firstNonzeroCurrent rows,
        rows.foldl (fun ps r => addChannelMeasurementItem ps r.sample r.channel) []) := by
  have hlines : (getlines (dcsCsvHeading ++ '\n' ::
      (rows.map fun r => csvLine r.fields).flatten)).drop 1 =
      rows.map fun r => csvLine r.fields := by
    rw [getlines_line (by decide), getlines_flatten]
    · rfl
    · simp only [List.mem_map]
      rintro _ ⟨r, -, rfl⟩
      obtain ⟨body, h, hb, -⟩ := csvLine_fields_chars r
      exact ⟨body, h, hb⟩
  rw [loadChannelMeasurementSamplesFromFile, hlines, loadLines_rows hfits]
  exact congrArg (·, _) (foldl_initialChan rows)

/-- Every entry of the store the loader builds carries the channel of a logged row. -/
theorem mem_foldl_add {rows : List DcsLogRow} :
    ∀ {ps : List ChannelMeasurementListPerCh} {e : ChannelMeasurementListPerCh},
      e ∈ rows.foldl (fun ps r => addChannelMeasurementItem ps r.sample r.channel) ps →
      (∃ p ∈ ps, e.ch = p.ch) ∨ ∃ r ∈ rows, e.ch = r.channel := by
  induction rows with
  | nil => intro ps e h; exact .inl ⟨e, h, rfl⟩
  | cons r rows ih =>
    intro ps e h
    rcases ih h with ⟨p, hp, he⟩ | ⟨r', hr', he⟩
    · rcases mem_addChannelMeasurementItem hp with hp' | ⟨q, hq, hpq⟩
      · exact .inr ⟨r, List.mem_cons_self _ _, he.trans hp'⟩
      · exact .inl ⟨q, hq, he.trans hpq⟩
    · exact .inr ⟨r', List.mem_cons_of_mem _ hr', he⟩

theorem mem_foldl_add_nil {rows : List DcsLogRow} {e : ChannelMeasurementListPerCh}
    (h : e ∈ rows.foldl (fun ps r => addChannelMeasurementItem ps r.sample r.channel) []) :
    ∃ r ∈ rows, e.ch = r.channel :=
  (mem_foldl_add h).resolve_left fun ⟨_, h, _⟩ => absurd h (List.not_mem_nil _)

/-- The store has at most one entry per logged frequency. -/
theorem length_foldl_add_le (rows : List DcsLogRow) :
    (rows.foldl (fun ps r => addChannelMeasurementItem ps r.sample r.channel) []).length ≤
      (rows.map (·.frequencyKhz)).dedup.length := by
  obtain ⟨hinv, -⟩ := foldl_add_holds rows [] [] .nil (fun _ => rfl)
  rw [← List.length_map _ (·.ch.frequencyKhz)]
  refine (hinv.nodup.subperm fun k hk => ?_).length_le
  obtain ⟨e, he, rfl⟩ := List.mem_map.1 hk
  obtain ⟨r, hr, hch⟩ := mem_foldl_add_nil he
  rw [List.mem_dedup, hch]
  exact List.mem_map_of_mem _ hr

/-- Every logged frequency has an entry in the store the loader builds. -/
theorem exists_mem_foldl_add {rows : List DcsLogRow} {r : DcsLogRow} (hr : r ∈ rows) :
    ∃ e ∈ rows.foldl (fun ps r => addChannelMeasurementItem ps r.sample r.channel) [],
      e.ch.frequencyKhz = r.frequencyKhz := by
  obtain ⟨-, hholds⟩ := foldl_add_holds rows [] [] .nil (fun _ => rfl)
  refine exists_mem_of_queueOf_ne_nil ?_
  rw [hholds]
  simp [samplesOf, List.filter_map, DcsLogRow.logged]
  exact ⟨r, hr, rfl⟩

/-- **Replaying a DCS datalog hands out every logged sample once, per frequency in log order.**
For every log whose timestamps come from `timestamp_get` with a year below 10000: the loader
returns the first `current_channel` that is not `0`, and keeps every queue non-empty; every run
of pops returns, for each frequency, its logged samples in log order and then `NULL`, and
signals `mmsm_halt` exactly from the pop that hands out the last sample on. -/
theorem dcsReplay_hands_out_logged_samples (undef : LoaderLocals) (rows : List DcsLogRow)
    (hts : ∀ r ∈ rows, ∃ tm tvUsec, r.sampleTime = timestampGet tm tvUsec)
    (hyear : ∀ r ∈ rows, r.sampleTime.year.toNat < 10000) :
    ∃ dl, dcsDatalog rows = some dl ∧
      (loadChannelMeasurementSamplesFromFile undef dl.file).1 = firstNonzeroCurrent rows ∧
      StoreInv (loadChannelMeasurementSamplesFromFile undef dl.file).2 ∧
      ∀ fs : List UInt32, ∃ outs last,
        popRun (loadChannelMeasurementSamplesFromFile undef dl.file).2 fs = .ok (outs, last) ∧
        StoreInv last ∧
        (∀ g, resultsFor fs outs g =
          serve ((rows.filter (·.frequencyKhz = g)).map DcsLogRow.sample) (fs.count g)) ∧
        ∀ i (hi : i < outs.length),
          outs[i].2 = true ↔ (outs.take (i + 1)).countP (·.1.isSome) = rows.length := by
  have hload := loadChannelMeasurementSamplesFromFile_log undef fun r hr =>
    Timestamp.isoFits_of_timestampGet (hts r hr) (hyear r hr)
  obtain ⟨hinv, hholds⟩ := foldl_add_holds rows [] [] .nil (fun _ => rfl)
  refine ⟨_, dcsDatalog_eq rows, by rw [hload], by rw [hload]; exact hinv, fun fs => ?_⟩
  obtain ⟨last, hrun, hlast⟩ := popRun_refines fs hinv hholds
  refine ⟨_, last, by rw [hload]; exact hrun, hlast, fun g => ?_, fun i hi => ?_⟩
  · rw [specPopRun_results]
    simp [samplesOf, List.filter_map, Function.comp_def, DcsLogRow.logged]
  · simpa using specPopRun_halt _ fs i hi

/-- 10:20:30 on 5 January 2024, local time. -/
def tm2024 : Tm :=
  ⟨30, 20, 10, 5, 0, 124, by decide, by decide, by decide, by decide, by decide, by decide⟩

/-- Two rows, on the channels at 902.5 MHz and 903.5 MHz, with channel 1 current. -/
def twoLoggedRows : List DcsLogRow :=
  [⟨timestampGet tm2024 123456, 902500, 1, 1, 50, 100, 0, 1⟩,
    ⟨timestampGet tm2024 623456, 903500, 1, 3, 70, 100, 0, 1⟩]

/-- The round trip applies to a log of two rows written in 2024. -/
theorem dcsReplay_two_rows :
    (∀ r ∈ twoLoggedRows, ∃ tm tvUsec, r.sampleTime = timestampGet tm tvUsec) ∧
    (∀ r ∈ twoLoggedRows, r.sampleTime.year.toNat < 10000) ∧
    ∃ dl, dcsDatalog twoLoggedRows = some dl ∧
      (loadChannelMeasurementSamplesFromFile ⟨⟨0, 0, 0⟩, 0, 0, 0, 0, 0⟩ dl.file).1 =
        firstNonzeroCurrent twoLoggedRows ∧
      StoreInv (loadChannelMeasurementSamplesFromFile ⟨⟨0, 0, 0⟩, 0, 0, 0, 0, 0⟩ dl.file).2 ∧
      ∀ fs : List UInt32, ∃ outs last,
        popRun (loadChannelMeasurementSamplesFromFile ⟨⟨0, 0, 0⟩, 0, 0, 0, 0, 0⟩ dl.file).2 fs =
          .ok (outs, last) ∧ StoreInv last ∧
        (∀ g, resultsFor fs outs g =
          serve ((twoLoggedRows.filter (·.frequencyKhz = g)).map DcsLogRow.sample) (fs.count g)) ∧
        ∀ i (hi : i < outs.length),
          outs[i].2 = true ↔ (outs.take (i + 1)).countP (·.1.isSome) = twoLoggedRows.length :=
  have hts : ∀ r ∈ twoLoggedRows, ∃ tm tvUsec, r.sampleTime = timestampGet tm tvUsec := by
    simp only [twoLoggedRows, List.mem_cons, List.mem_singleton, List.not_mem_nil, or_false]
    rintro r (rfl | rfl) <;> exact ⟨_, _, rfl⟩
  have hyear : ∀ r ∈ twoLoggedRows, r.sampleTime.year.toNat < 10000 := by decide
  ⟨hts, hyear, dcsReplay_hands_out_logged_samples _ _ hts hyear⟩

/-- The same instant in the year 10000. -/
def tm10000 : Tm := { tm2024 with tmYear := 8100 }

/-- **The initial channel is not always the first row's, and a log written in the year 10000 is
not replayed.**  A log of two rows written in 2024, the first with `current_channel` 0 and the
second with 1, loads with the initial channel 1.  A log of one row, on channel 1 with channel 1
current, whose timestamp `timestamp_get` gives in the year 10000, stops at it: the loader returns
`-1`, with no sample loaded. -/
theorem loadChannelMeasurementSamplesFromFile_counterexamples :
    (∃ dl, dcsDatalog [⟨timestampGet tm2024 123456, 902500, 1, 1, 50, 100, 0, 0⟩,
        ⟨timestampGet tm2024 623456, 903500, 1, 3, 70, 100, 0, 1⟩] = some dl ∧
      (loadChannelMeasurementSamplesFromFile ⟨⟨0, 0, 0⟩, 0, 0, 0, 0, 0⟩ dl.file).1 = 1) ∧
    ∃ dl, dcsDatalog [⟨timestampGet tm10000 0, 902500, 1, 1, 50, 100, 0, 1⟩] = some dl ∧
      loadChannelMeasurementSamplesFromFile ⟨⟨0, 0, 0⟩, 0, 0, 0, 0, 0⟩ dl.file = (-1, []) :=
  ⟨⟨_, rfl, by decide⟩, _, rfl, by decide⟩

/-! ## §5 — a row with fewer fields -/

theorem frequencyOnlyRow_chars (t : Timestamp) (f : UInt32) :
    ∀ c ∈ timestampWriteToFileAsIso t ++ ',' :: formatU f.toNat, c ≠ '\n' ∧ c ≠ '\x00' := by
  intro c h
  simp only [List.mem_append, List.mem_cons] at h
  rcases h with h | rfl | h
  · exact (timestampWriteToFileAsIso_chars t c h).2
  · decide
  · have := formatU_isDigit f.toNat _ h
    constructor <;> rintro rfl <;> exact absurd this (by decide)

/-- A data row with a valid timestamp and the frequency only: `sscanf` stores the frequency and
stops, and the sample is filed with the bandwidth, channel and metric the locals already held. -/
theorem loadLines_frequency_only (st : LoaderLocals) (perCh : List ChannelMeasurementListPerCh)
    {t : Timestamp} (ht : t.IsoFits) (f : UInt32) (lines : List (List Char)) :
    ∃ st', loadLines st perCh ((timestampWriteToFileAsIso t ++ ',' :: formatU f.toNat ++ ['\n']) ::
        lines) =
      loadLines st' (addChannelMeasurementItem perCh ⟨t, u8OfInt st.score⟩
        ⟨f, u8OfInt st.bwMhz, u8OfInt st.s1gChan⟩) lines := by
  have hiso := timestampWriteToFileAsIso_chars t
  have hline : timestampWriteToFileAsIso t ++ ',' :: formatU f.toNat ++ ['\n'] =
      timestampWriteToFileAsIso t ++ ',' :: (formatU f.toNat ++ ['\n']) := by simp
  have hc : cStringOfLine (timestampWriteToFileAsIso t ++ ',' :: (formatU f.toNat ++ ['\n'])) =
      timestampWriteToFileAsIso t ++ ',' :: (formatU f.toNat ++ ['\n']) := by
    refine cStringOfLine_of_not_mem fun h => ?_
    rw [← List.cons_append, ← List.append_assoc, List.mem_append] at h
    rcases h with h | h
    · exact (frequencyOnlyRow_chars t f _ h).2 rfl
    · exact absurd h (by decide)
  have hvals : sscanf loaderRowFormat (',' :: (formatU f.toNat ++ ['\n'])) =
      [toInt32 (min (f.toNat : Int) longMax)] := by
    simp only [loaderRowFormat, sscanf_lit]
    simp only [sscanf, @scanField_formatU f.toNat ['\n'] (by simp [isDigit]), strtolOf,
      digitsValue_formatU, Bool.false_eq_true, ite_false]
    rfl
  rw [hline, loadLines, hc, timestampFromIsoString_write ht,
    strchr_append (fun h => (hiso _ h).1 rfl)]
  dsimp only
  rw [hvals]
  by_cases h0 : st.initialChan = 0 <;>
    simp [h0, LoaderLocals.storeScanned, u32OfInt_scanned] <;> exact ⟨_, rfl⟩

/-- **Short rows are stored.** A replay file whose data row has a valid timestamp and only the
frequency field stores a sample for it all the same: as the first data row, with the
bandwidth, channel and metric of the uninitialised locals; after a logged row, with that row's. -/
theorem loadChannelMeasurementSamplesFromFile_short_row (undef : LoaderLocals) {r : DcsLogRow}
    (hr : r.sampleTime.IsoFits) {t : Timestamp} (ht : t.IsoFits) (f : UInt32) :
    (loadChannelMeasurementSamplesFromFile undef
        (dcsCsvHeading ++ '\n' :: (timestampWriteToFileAsIso t ++ ',' :: formatU f.toNat ++ ['\n']))).2 =
      addChannelMeasurementItem [] ⟨t, u8OfInt undef.score⟩
        ⟨f, u8OfInt undef.bwMhz, u8OfInt undef.s1gChan⟩ ∧
    (loadChannelMeasurementSamplesFromFile undef (dcsCsvHeading ++ '\n' ::
        (csvLine r.fields ++ (timestampWriteToFileAsIso t ++ ',' :: formatU f.toNat ++ ['\n'])))).2 =
      addChannelMeasurementItem (addChannelMeasurementItem [] r.sample r.channel) ⟨t, r.metric⟩
        ⟨f, r.bandwidthMhz, r.channelS1g⟩ := by
  have hshort : getlines (timestampWriteToFileAsIso t ++ ',' :: formatU f.toNat ++ ['\n']) =
      [timestampWriteToFileAsIso t ++ ',' :: formatU f.toNat ++ ['\n']] :=
    getlines_line (fun h => (frequencyOnlyRow_chars t f _ h).1 rfl) []
  obtain ⟨body, hb, hnl, -⟩ := csvLine_fields_chars r
  constructor
  · rw [loadChannelMeasurementSamplesFromFile, getlines_line (by decide), hshort]
    obtain ⟨st', h⟩ := loadLines_frequency_only { undef with ch := ⟨0, 0, 0⟩, initialChan := 0 } []
      ht f []
    rw [List.drop_one, List.tail_cons, h]
    rfl
  · rw [loadChannelMeasurementSamplesFromFile, getlines_line (by decide), hb, List.append_assoc,
      List.singleton_append, getlines_line hnl, hshort, ← hb]
    obtain ⟨st₁, -, hbw, hch, hsc, h₁⟩ := loadLines_row { undef with ch := ⟨0, 0, 0⟩, initialChan := 0 }
      [] hr [timestampWriteToFileAsIso t ++ ',' :: formatU f.toNat ++ ['\n']]
    obtain ⟨st₂, h₂⟩ := loadLines_frequency_only st₁ _ ht f []
    rw [List.drop_one, List.tail_cons, h₁, h₂, hbw, hch, hsc]
    simp [loadLines, u8OfInt_toNat]

/-- A row with the frequency 903.5 MHz only, alone or after the first of `twoLoggedRows`, in a
replay file whose locals hold bandwidth `7`, channel `9` and score `3`. -/
theorem loadChannelMeasurementSamplesFromFile_short_row_903500 :
    (timestampGet tm2024 123456).IsoFits ∧ (timestampGet tm2024 623456).IsoFits ∧
    (loadChannelMeasurementSamplesFromFile ⟨⟨0, 0, 0⟩, 7, 9, 3, 0, 0⟩
        (dcsCsvHeading ++ '\n' :: (timestampWriteToFileAsIso (timestampGet tm2024 623456) ++
          ',' :: formatU (903500 : UInt32).toNat ++ ['\n']))).2 =
      addChannelMeasurementItem [] ⟨timestampGet tm2024 623456, u8OfInt 3⟩
        ⟨903500, u8OfInt 7, u8OfInt 9⟩ ∧
    (loadChannelMeasurementSamplesFromFile ⟨⟨0, 0, 0⟩, 7, 9, 3, 0, 0⟩ (dcsCsvHeading ++ '\n' ::
        (csvLine (⟨timestampGet tm2024 123456, 902500, 1, 1, 50, 100, 0, 1⟩ : DcsLogRow).fields ++
          (timestampWriteToFileAsIso (timestampGet tm2024 623456) ++
            ',' :: formatU (903500 : UInt32).toNat ++ ['\n'])))).2 =
      addChannelMeasurementItem (addChannelMeasurementItem []
          (⟨timestampGet tm2024 123456, 902500, 1, 1, 50, 100, 0, 1⟩ : DcsLogRow).sample
          (⟨timestampGet tm2024 123456, 902500, 1, 1, 50, 100, 0, 1⟩ : DcsLogRow).channel)
        ⟨timestampGet tm2024 623456, 50⟩ ⟨903500, 1, 1⟩ :=
  have hr := timestampGet_isoFits tm2024 123456 (by decide)
  have ht := timestampGet_isoFits tm2024 623456 (by decide)
  ⟨hr, ht, loadChannelMeasurementSamplesFromFile_short_row ⟨⟨0, 0, 0⟩, 7, 9, 3, 0, 0⟩
    (r := ⟨timestampGet tm2024 123456, 902500, 1, 1, 50, 100, 0, 1⟩) hr ht 903500⟩

end SmartManager.Dcs
