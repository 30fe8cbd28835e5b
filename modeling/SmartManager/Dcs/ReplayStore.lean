/-
# `SmartManager.Dcs.ReplayStore` — the per-frequency sample queues of the replay
(`modules/dcs/dcs_test.c`).

In replay mode the DCS module takes its measurements from a datalog instead of the chip.  The
loader files every logged sample under its frequency: `add_channel_measurement_item` appends it
to the queue of the first entry of `per_ch_sample_list` with that frequency, or to a new entry at
the end of the list.  `pop_channel_measurement` takes the first sample of the first entry of the
frequency, removes the entry once its queue is empty, and signals `mmsm_halt` when no entry is
left.

What the store is for is stated over the samples not yet handed out (`specPop`): a pop hands out
the first remaining sample of its frequency, or `NULL` when there is none, and the replay stops
once nothing remains.  `specPopRun_results` and `specPopRun_halt` say what a whole run of such
pops returns.  The store holds the remaining samples when the queue of every frequency is the
samples of that frequency in order (`Holds`).  With one entry per frequency and no empty queue
(`StoreInv`), adding a sample and popping keep both (`Holds.add`, `popChannelMeasurement_refines`),
and so every run of pops answers as the specified run does (`popRun_refines`).
-/
import SmartManager.Dcs.Context
import SmartManager.Misc.Timestamp

namespace SmartManager.Dcs

open SmartManager.Misc

/-! ## §1 — the store -/

/-- `struct channel_measurement` as the replay fills it: `calloc`ed, with the sample time and the
metric set. -/
structure ChannelMeasurement where
  sampleTime : Timestamp
  metric : UInt8
  deriving DecidableEq, Repr

/-- `struct channel_measurement_list_per_ch`: the channel of a frequency and its queue of
samples, the `channel_measurement_list_item`s of `channel_sample_list` in list order. -/
structure ChannelMeasurementListPerCh where
  ch : MorseCmdChannelInfo
  channelSampleList : List ChannelMeasurement
  deriving DecidableEq, Repr

/-- `add_channel_measurement_item`. -/
def addChannelMeasurementItem : List ChannelMeasurementListPerCh → ChannelMeasurement →
    MorseCmdChannelInfo → List ChannelMeasurementListPerCh
  | [], item, ch => [⟨ch, [item]⟩]
  | p :: ps, item, ch =>
    if p.ch.frequencyKhz = ch.frequencyKhz then
      { p with channelSampleList := p.channelSampleList ++ [item] } :: ps
    else p :: addChannelMeasurementItem ps item ch

/-- The loop of `pop_channel_measurement`: the first sample of the first entry of the frequency,
the entry removed once its queue is empty; `NULL` when no entry has the frequency.  An empty
queue would make `list_get_first_item` return `NULL`, which `list_remove` dereferences. -/
def popFromPerCh : List ChannelMeasurementListPerCh → UInt32 →
    Except DcsFault (Option ChannelMeasurement × List ChannelMeasurementListPerCh)
  | [], _ => .ok (none, [])
  | p :: ps, freqKhz =>
    if p.ch.frequencyKhz = freqKhz then
      match p.channelSampleList with
      | [] => .error .nullPointer
      | meas :: rest =>
        if rest = [] then .ok (some meas, ps)
        else .ok (some meas, { p with channelSampleList := rest } :: ps)
    else (popFromPerCh ps freqKhz).map fun (meas, ps) => (meas, p :: ps)

/-- `pop_channel_measurement`: the sample, the store after, and whether `mmsm_halt` is signalled
(no entry is left). -/
def popChannelMeasurement (perChList : List ChannelMeasurementListPerCh) (freqKhz : UInt32) :
    Except DcsFault (Option ChannelMeasurement × List ChannelMeasurementListPerCh × Bool) :=
  (popFromPerCh perChList freqKhz).map fun (meas, l) => (meas, l, l.isEmpty)

/-- A run of pops: what each returns and whether it signals `mmsm_halt`, then the store. -/
def popRun (perChList : List ChannelMeasurementListPerCh) : List UInt32 →
    Except DcsFault (List (Option ChannelMeasurement × Bool) × List ChannelMeasurementListPerCh)
  | [] => .ok ([], perChList)
  | f :: fs => (popChannelMeasurement perChList f).bind fun (meas, l, halt) =>
      (popRun l fs).map fun (outs, last) => ((meas, halt) :: outs, last)

/-! ## §2 — the replay as specified -/

/-- A logged sample: the frequency it was measured on and the measurement. -/
structure LoggedSample where
  freqKhz : UInt32
  meas : ChannelMeasurement
  deriving DecidableEq, Repr

/-- A pop as specified: the first remaining sample of the frequency is handed out and removed. -/
def specPop (rs : List LoggedSample) (f : UInt32) : Option ChannelMeasurement × List LoggedSample :=
  ((rs.find? (·.freqKhz = f)).map (·.meas), rs.eraseP (·.freqKhz = f))

/-- A run of specified pops: what each hands out, and whether nothing remains after it. -/
def specPopRun (rs : List LoggedSample) : List UInt32 → List (Option ChannelMeasurement × Bool)
  | [] => []
  | f :: fs => ((specPop rs f).1, (specPop rs f).2.isEmpty) :: specPopRun (specPop rs f).2 fs

/-- The samples of a frequency, in order. -/
def samplesOf (rs : List LoggedSample) (f : UInt32) : List ChannelMeasurement :=
  (rs.filter (·.freqKhz = f)).map (·.meas)

/-- `k` pops served from a queue: its samples in order, then `NULL`. -/
def serve (q : List ChannelMeasurement) (k : Nat) : List (Option ChannelMeasurement) :=
  (q.map some).take k ++ List.replicate (k - q.length) none

/-- What the pops of frequency `g` of a run returned, in order. -/
def resultsFor (fs : List UInt32) (outs : List (Option ChannelMeasurement × Bool)) (g : UInt32) :
    List (Option ChannelMeasurement) :=
  ((fs.zip outs).filter (·.1 = g)).map (·.2.1)

@[simp] theorem samplesOf_nil (g : UInt32) : samplesOf [] g = [] := rfl

theorem samplesOf_cons (r : LoggedSample) (rs : List LoggedSample) (g : UInt32) :
    samplesOf (r :: rs) g = if r.freqKhz = g then r.meas :: samplesOf rs g else samplesOf rs g := by
  by_cases h : r.freqKhz = g <;> simp [samplesOf, h]

theorem samplesOf_eraseP (rs : List LoggedSample) (f g : UInt32) :
    samplesOf (rs.eraseP (·.freqKhz = f)) g =
      if g = f then (samplesOf rs f).tail else samplesOf rs g := by
  induction rs with
  | nil => split <;> rfl
  | cons r rs ih =>
    by_cases hr : r.freqKhz = f
    · rw [List.eraseP_cons_of_pos (by simpa using hr)]
      by_cases hg : g = f
      · subst hg; simp [samplesOf_cons, hr]
      · simp [samplesOf_cons, hr, hg, Ne.symm hg]
    · rw [List.eraseP_cons_of_neg (by simpa using hr), samplesOf_cons, ih, samplesOf_cons,
        samplesOf_cons]
      by_cases hg : g = f
      · subst hg; simp [hr]
      · simp [hg]

theorem specPop_fst (rs : List LoggedSample) (f : UInt32) :
    (specPop rs f).1 = (samplesOf rs f).head? := by
  induction rs with
  | nil => rfl
  | cons r rs ih => by_cases hr : r.freqKhz = f <;> simp_all [specPop, samplesOf, List.find?_cons]

theorem samplesOf_specPop (rs : List LoggedSample) (f g : UInt32) :
    samplesOf (specPop rs f).2 g = if g = f then (samplesOf rs f).tail else samplesOf rs g :=
  samplesOf_eraseP rs f g

/-- A pop that hands out a sample removes one; one that hands out none removes none. -/
theorem specPop_length (rs : List LoggedSample) (f : UInt32) :
    (specPop rs f).2.length + (if (specPop rs f).1.isSome then 1 else 0) = rs.length := by
  by_cases hex : ∃ r ∈ rs, r.freqKhz = f
  · obtain ⟨r, hr, hrf⟩ := hex
    have hsome : (rs.find? (·.freqKhz = f)).isSome :=
      List.find?_isSome.2 ⟨r, hr, by simpa using hrf⟩
    have := List.length_pos_of_mem hr
    rw [specPop, List.length_eraseP_of_mem hr (by simpa using hrf)]
    simp only [Option.isSome_map', hsome, ite_true]
    omega
  · push_neg at hex
    rw [specPop, List.eraseP_of_forall_not (by simpa using hex),
      List.find?_eq_none.2 (by simpa using hex)]
    simp

theorem serve_succ (q : List ChannelMeasurement) (k : Nat) :
    serve q (k + 1) = q.head? :: serve q.tail k := by
  cases q with
  | nil => simp [serve, List.replicate_succ]
  | cons m q => simp [serve, Nat.add_sub_add_right]

/-- **Every frequency's pops hand out its logged samples in log order, each once, then `NULL`.** -/
theorem specPopRun_results (rs : List LoggedSample) (fs : List UInt32) (g : UInt32) :
    resultsFor fs (specPopRun rs fs) g = serve (samplesOf rs g) (fs.count g) := by
  induction fs generalizing rs with
  | nil => simp [resultsFor, specPopRun, serve]
  | cons f fs ih =>
    simp only [resultsFor, specPopRun, List.zip_cons_cons, List.filter_cons] at ih ⊢
    by_cases hf : f = g
    · subst hf
      simp [ih, List.count_cons_self, serve_succ, specPop_fst, samplesOf_specPop]
    · simp [hf, ih, List.count_cons_of_ne (Ne.symm hf), samplesOf_specPop, Ne.symm hf]

/-- **The replay stops at the pop that hands out the last sample, and at every pop after it**:
a pop reports that nothing remains exactly when the pops up to it have handed out every
sample. -/
theorem specPopRun_halt (rs : List LoggedSample) (fs : List UInt32) (i : Nat)
    (hi : i < (specPopRun rs fs).length) :
    (specPopRun rs fs)[i].2 = true ↔
      ((specPopRun rs fs).take (i + 1)).countP (·.1.isSome) = rs.length := by
  induction fs generalizing rs i with
  | nil => simp [specPopRun] at hi
  | cons f fs ih =>
    have hlen := specPop_length rs f
    cases i with
    | zero =>
      simp only [specPopRun, List.getElem_cons_zero, List.take_succ_cons, List.take_zero,
        List.countP_cons, List.countP_nil, List.isEmpty_iff, ← List.length_eq_zero]
      by_cases hs : (specPop rs f).1.isSome <;> simp only [hs] at hlen ⊢ <;> omega
    | succ i =>
      have hi' : i < (specPopRun (specPop rs f).2 fs).length := by
        simpa [specPopRun] using hi
      simp only [specPopRun, List.getElem_cons_succ, List.take_succ_cons, List.countP_cons]
      rw [ih _ i hi']
      by_cases hs : (specPop rs f).1.isSome <;> simp only [hs] at hlen ⊢ <;> omega

/-! ## §3 — the store holds the remaining samples -/

/-- The queue of a frequency: the samples of its first entry, or none. -/
def queueOf (perChList : List ChannelMeasurementListPerCh) (f : UInt32) : List ChannelMeasurement :=
  ((perChList.find? (·.ch.frequencyKhz = f)).map (·.channelSampleList)).getD []

/-- **The store invariant**: one entry per frequency, and no empty queue. -/
structure StoreInv (perChList : List ChannelMeasurementListPerCh) : Prop where
  nodup : (perChList.map (·.ch.frequencyKhz)).Nodup
  nonEmpty : ∀ p ∈ perChList, p.channelSampleList ≠ []

/-- The store holds the samples `rs`: every frequency's queue is its samples in order. -/
def Holds (perChList : List ChannelMeasurementListPerCh) (rs : List LoggedSample) : Prop :=
  ∀ f, queueOf perChList f = samplesOf rs f

@[simp] theorem queueOf_nil (f : UInt32) : queueOf [] f = [] := rfl

theorem queueOf_cons (p : ChannelMeasurementListPerCh) (ps : List ChannelMeasurementListPerCh)
    (f : UInt32) :
    queueOf (p :: ps) f = if p.ch.frequencyKhz = f then p.channelSampleList else queueOf ps f := by
  by_cases h : p.ch.frequencyKhz = f <;> simp [queueOf, List.find?_cons, h]

theorem queueOf_of_not_mem {ps : List ChannelMeasurementListPerCh} {f : UInt32}
    (h : f ∉ ps.map (·.ch.frequencyKhz)) : queueOf ps f = [] := by
  induction ps with
  | nil => rfl
  | cons p ps ih =>
    simp only [List.map_cons, List.mem_cons, not_or] at h
    rw [queueOf_cons, if_neg (Ne.symm h.1), ih h.2]

theorem StoreInv.nil : StoreInv [] := ⟨List.nodup_nil, fun _ h => absurd h (List.not_mem_nil _)⟩

theorem StoreInv.cons_iff {p : ChannelMeasurementListPerCh}
    {ps : List ChannelMeasurementListPerCh} :
    StoreInv (p :: ps) ↔ (p.ch.frequencyKhz ∉ ps.map (·.ch.frequencyKhz) ∧
      p.channelSampleList ≠ []) ∧ StoreInv ps := by
  constructor
  · rintro ⟨hnd, hne⟩
    rw [List.map_cons, List.nodup_cons] at hnd
    exact ⟨⟨hnd.1, hne p (List.mem_cons_self _ _)⟩,
      ⟨hnd.2, fun q hq => hne q (List.mem_cons_of_mem _ hq)⟩⟩
  · rintro ⟨⟨hp, hpne⟩, hnd, hne⟩
    refine ⟨List.nodup_cons.2 ⟨hp, hnd⟩, fun q hq => ?_⟩
    rcases List.mem_cons.1 hq with rfl | hq
    exacts [hpne, hne q hq]

/-- **Adding a sample appends it to its frequency's queue** and leaves the others. -/
theorem queueOf_addChannelMeasurementItem (ps : List ChannelMeasurementListPerCh)
    (item : ChannelMeasurement) (ch : MorseCmdChannelInfo) (f : UInt32) :
    queueOf (addChannelMeasurementItem ps item ch) f =
      queueOf ps f ++ if ch.frequencyKhz = f then [item] else [] := by
  induction ps with
  | nil => by_cases h : ch.frequencyKhz = f <;> simp [addChannelMeasurementItem, queueOf_cons, h]
  | cons p ps ih =>
    simp only [addChannelMeasurementItem]
    split <;> simp only [queueOf_cons, ih] <;> split <;> split <;> simp_all

theorem mem_keys_addChannelMeasurementItem {ps : List ChannelMeasurementListPerCh}
    {item : ChannelMeasurement} {ch : MorseCmdChannelInfo} {k : UInt32}
    (h : k ∈ (addChannelMeasurementItem ps item ch).map (·.ch.frequencyKhz)) :
    k ∈ ps.map (·.ch.frequencyKhz) ∨ k = ch.frequencyKhz := by
  induction ps with
  | nil => simp_all [addChannelMeasurementItem]
  | cons p ps ih =>
    simp only [addChannelMeasurementItem] at h
    split at h <;> simp only [List.map_cons, List.mem_cons] at h ⊢
    · exact .inl h
    · rcases h with h | h
      · exact .inl (.inl h)
      · exact (ih h).imp .inr id

/-- An entry after an addition is an entry of before, or carries the channel added. -/
theorem mem_addChannelMeasurementItem {ps : List ChannelMeasurementListPerCh}
    {item : ChannelMeasurement} {ch : MorseCmdChannelInfo} {e : ChannelMeasurementListPerCh}
    (h : e ∈ addChannelMeasurementItem ps item ch) : e.ch = ch ∨ ∃ p ∈ ps, e.ch = p.ch := by
  induction ps with
  | nil => simp_all [addChannelMeasurementItem]
  | cons p ps ih =>
    simp only [addChannelMeasurementItem] at h
    split at h
    · rcases List.mem_cons.1 h with rfl | h
      · exact .inr ⟨p, List.mem_cons_self _ _, rfl⟩
      · exact .inr ⟨e, List.mem_cons_of_mem _ h, rfl⟩
    · rcases List.mem_cons.1 h with rfl | h
      · exact .inr ⟨e, List.mem_cons_self _ _, rfl⟩
      · exact (ih h).imp_right fun ⟨q, hq, he⟩ => ⟨q, List.mem_cons_of_mem _ hq, he⟩

/-- A frequency with a non-empty queue has an entry. -/
theorem exists_mem_of_queueOf_ne_nil {ps : List ChannelMeasurementListPerCh} {f : UInt32}
    (h : queueOf ps f ≠ []) : ∃ p ∈ ps, p.ch.frequencyKhz = f := by
  by_contra hne
  push_neg at hne
  exact h (queueOf_of_not_mem fun hk => by
    obtain ⟨p, hp, rfl⟩ := List.mem_map.1 hk
    exact hne p hp rfl)

theorem StoreInv.add {ps : List ChannelMeasurementListPerCh} (hs : StoreInv ps)
    (item : ChannelMeasurement) (ch : MorseCmdChannelInfo) :
    StoreInv (addChannelMeasurementItem ps item ch) := by
  induction ps with
  | nil => exact StoreInv.cons_iff.2 ⟨⟨List.not_mem_nil _, List.cons_ne_nil _ _⟩, .nil⟩
  | cons p ps ih =>
    obtain ⟨⟨hp, hpne⟩, hps⟩ := StoreInv.cons_iff.1 hs
    simp only [addChannelMeasurementItem]
    split
    · exact StoreInv.cons_iff.2 ⟨⟨hp, by simp⟩, hps⟩
    · refine StoreInv.cons_iff.2 ⟨⟨fun hk => ?_, hpne⟩, ih hps⟩
      rcases mem_keys_addChannelMeasurementItem hk with hk | hk
      exacts [hp hk, ‹¬_› hk]

theorem Holds.add {ps : List ChannelMeasurementListPerCh} {rs : List LoggedSample}
    (h : Holds ps rs) (item : ChannelMeasurement) (ch : MorseCmdChannelInfo) :
    Holds (addChannelMeasurementItem ps item ch) (rs ++ [⟨ch.frequencyKhz, item⟩]) := by
  intro f
  rw [queueOf_addChannelMeasurementItem, h f]
  by_cases hf : ch.frequencyKhz = f <;> simp [samplesOf, hf]

/-- A store of the invariant holding `rs` is empty exactly when `rs` is. -/
theorem Holds.eq_nil_iff {ps : List ChannelMeasurementListPerCh} {rs : List LoggedSample}
    (h : Holds ps rs) (hs : StoreInv ps) : ps = [] ↔ rs = [] := by
  constructor
  · rintro rfl
    cases rs with
    | nil => rfl
    | cons r rs => simpa [Holds, queueOf_nil, samplesOf] using h r.freqKhz
  · rintro rfl
    cases ps with
    | nil => rfl
    | cons p ps =>
      have := h p.ch.frequencyKhz
      rw [queueOf_cons, if_pos rfl] at this
      exact absurd this (hs.nonEmpty p (List.mem_cons_self _ _))

/-- **A pop from a store of the invariant** hands out the head of the frequency's queue, drops it
from the queue, keeps the invariant and removes no other frequency's samples. -/
theorem popFromPerCh_spec : ∀ {ps : List ChannelMeasurementListPerCh}, StoreInv ps →
    ∀ f : UInt32, ∃ ps', popFromPerCh ps f = .ok ((queueOf ps f).head?, ps') ∧ StoreInv ps' ∧
      (ps'.map (·.ch.frequencyKhz)).Sublist (ps.map (·.ch.frequencyKhz)) ∧
      ∀ g, queueOf ps' g = if g = f then (queueOf ps f).tail else queueOf ps g
  | [], _, f => ⟨[], rfl, .nil, .slnil, fun g => by split <;> rfl⟩
  | p :: ps, hs, f => by
    obtain ⟨⟨hp, hpne⟩, hps⟩ := StoreInv.cons_iff.1 hs
    by_cases hf : p.ch.frequencyKhz = f
    · obtain ⟨meas, rest, hq⟩ := List.exists_cons_of_ne_nil hpne
      by_cases hrest : rest = []
      · refine ⟨ps, by simp [popFromPerCh, hf, hq, hrest, queueOf_cons], hps,
          by rw [List.map_cons]; exact List.sublist_cons_self _ _, fun g => ?_⟩
        rw [queueOf_cons]
        by_cases hg : g = f
        · subst hg; simp [hf, hq, hrest, queueOf_of_not_mem (hf ▸ hp)]
        · simp [queueOf_cons, hg, Ne.symm hg, hf]
      · refine ⟨{ p with channelSampleList := rest } :: ps,
          by simp [popFromPerCh, hf, hq, hrest, queueOf_cons],
          StoreInv.cons_iff.2 ⟨⟨hp, hrest⟩, hps⟩, by simp, fun g => ?_⟩
        simp only [queueOf_cons, hf]
        by_cases hg : g = f
        · simp [hg, hq]
        · simp [hg, Ne.symm hg]
    · obtain ⟨ps', hpop, hinv, hsub, hq⟩ := popFromPerCh_spec hps f
      refine ⟨p :: ps', by simp [popFromPerCh, hf, hpop, queueOf_cons, Except.map],
        StoreInv.cons_iff.2 ⟨⟨fun hk => hp (hsub.subset hk), hpne⟩, hinv⟩,
        by simpa using hsub, fun g => ?_⟩
      simp only [queueOf_cons, hq]
      by_cases hg : p.ch.frequencyKhz = g
      · subst hg; simp [Ne.symm hf, hf]
      · simp [hf, hg]

/-- **A pop refines the specified pop**: from a store of the invariant that holds `rs`, it hands
out what `specPop` hands out, signals `mmsm_halt` exactly when nothing remains, keeps the
invariant, and holds what remains. -/
theorem popChannelMeasurement_refines {ps : List ChannelMeasurementListPerCh}
    {rs : List LoggedSample} (hs : StoreInv ps) (h : Holds ps rs) (f : UInt32) :
    ∃ ps', popChannelMeasurement ps f =
        .ok ((specPop rs f).1, ps', (specPop rs f).2.isEmpty) ∧
      StoreInv ps' ∧ Holds ps' (specPop rs f).2 := by
  obtain ⟨ps', hpop, hinv, -, hq⟩ := popFromPerCh_spec hs f
  have hholds : Holds ps' (specPop rs f).2 := fun g => by
    rw [hq, h, h, specPop, samplesOf_eraseP]
  refine ⟨ps', ?_, hinv, hholds⟩
  have hempty : ps'.isEmpty = (specPop rs f).2.isEmpty :=
    Bool.eq_iff_iff.2 (by simp only [List.isEmpty_iff]; exact hholds.eq_nil_iff hinv)
  simp [popChannelMeasurement, hpop, Except.map, h f, specPop_fst, hempty]

/-- **Every run of pops refines the specified run**, and the store keeps its invariant. -/
theorem popRun_refines : ∀ (fs : List UInt32) {ps : List ChannelMeasurementListPerCh}
    {rs : List LoggedSample}, StoreInv ps → Holds ps rs →
    ∃ last, popRun ps fs = .ok (specPopRun rs fs, last) ∧ StoreInv last
  | [], ps, _, hs, _ => ⟨ps, rfl, hs⟩
  | f :: fs, ps, rs, hs, h => by
    obtain ⟨ps', hpop, hinv, hholds⟩ := popChannelMeasurement_refines hs h f
    obtain ⟨last, hrun, hlast⟩ := popRun_refines fs hinv hholds
    exact ⟨last, by simp [popRun, hpop, hrun, specPopRun, Except.bind, Except.map], hlast⟩

end SmartManager.Dcs
