/-
# `SmartManager.Dcs.ScanRounds` — what the scan loop calls in each round

`measurement_schedule_thread_fn` (`dcs.c`) walks the scan list with a cursor, retries a channel
whose measurement failed with one counter shared by all channels, removes a channel at its third
failure in a row while stepping the cursor past it, and evaluates the channels when the cursor
runs off the end.  The calls a run makes are those its iterations return (`scanRunCalls`), and
`RoundCalls` is their grammar: each channel of the round is measured, after at most two
failures, or removed at its third failure, in scan-list order, and the evaluation that ends the
round sees exactly the channels that were measured.

The loop's calls follow the grammar along every run (`scanRunCalls_roundCalls`), and the grammar
gives a round's calls one round at a time (`RoundCalls.round`): between two evaluations, and from
the start to the first, `process_measurement` is called once for each channel of the scan list
the second evaluation reads, in its order, and for no other, and every other channel of the
round's list had exactly three failed measurements in a row and its removal.  This holds for
every thread started on a scan list without repeats (`scanRun_rounds`), as `dcs_create` starts
it both from the driver and from a log.

The scan list is a `List` here; in `dcs.c` it is a `list.h` ring, and on a ring whose view is
the scan list the two operations the loop performs on it, `list_get_next_item_or_null` and
`list_remove`, are `listGetNextItemOrNull` and `List.erase` of the view (`scanList_ring`).
-/
import SmartManager.Dcs.ScanThread
import SmartManager.Misc.List

namespace SmartManager.Dcs

open SmartManager.Data

/-! ## §1 — the calls of the loop -/

/-- The channel `process_measurement` is called on, with the metric it is given. -/
def ScanCall.measurement? : ScanCall → Option (Nat × UInt8)
  | .processMeasurement ch m => some (ch, m)
  | _ => none

/-- The channel `process_measurement` is called on. -/
def ScanCall.processed? (x : ScanCall) : Option Nat :=
  x.measurement?.map Prod.fst

/-- The channel a call of the measurement half concerns. -/
def ScanCall.channel? : ScanCall → Option Nat
  | .processMeasurement ch _ | .measurementFailed ch | .remove ch => some ch
  | _ => none

/-- The calls of the switch at the end of a round: none, `do_channel_switch`, or
`do_channel_switch` and the hook. -/
def SwitchCalls (sw : List ScanCall) : Prop :=
  sw = [] ∨ (∃ c, sw = [.doChannelSwitch c]) ∨ ∃ c, sw = [.doChannelSwitch c, .postCsaHook c]

theorem scanSwitchCalls_fst (algo : AlgoState) (ctx : DcsContext) (cand : Option Nat) (r : Int) :
    SwitchCalls (scanSwitchCalls algo ctx cand r).1 := by
  unfold scanSwitchCalls
  split
  · split_ifs
    · split
      · exact .inr (.inl ⟨_, rfl⟩)
      · split_ifs
        · exact .inr (.inr ⟨_, rfl⟩)
        · exact .inr (.inl ⟨_, rfl⟩)
    · exact .inl rfl
  · exact .inl rfl

/-- What follows the call of `evaluate_channels` at the end of a round: nothing when the
evaluation faults, and otherwise the candidate it returned and the switch's calls. -/
def EndCalls (ec : List ScanCall) : Prop :=
  ec = [] ∨ ∃ cand sw, ec = .evaluated cand :: sw ∧ SwitchCalls sw

/-- What the end of a round calls: `evaluate_channels` on the context the round ends with, then
what follows it. -/
theorem scanEndOfRoundCalls_fst (s : ScanThread) (r : Int) :
    ∃ ec, (scanEndOfRoundCalls s r).1 = .evaluateChannels s.ctx :: ec ∧ EndCalls ec := by
  unfold scanEndOfRoundCalls
  cases dcsAlgoOpsEvaluateChannels s.algo s.ctx with
  | error e => exact ⟨[], rfl, .inl rfl⟩
  | ok v => exact ⟨_, rfl, .inr ⟨v.1, _, rfl, scanSwitchCalls_fst _ _ _ _⟩⟩

/-- The calls that end a round hold no evaluation, no measurement and no removal. -/
theorem EndCalls.quiet {ec : List ScanCall} (h : EndCalls ec) :
    ∀ x ∈ ec, (∀ ctx, x ≠ .evaluateChannels ctx) ∧ x.processed? = none ∧ x.channel? = none := by
  rcases h with rfl | ⟨cand, sw, rfl, hsw⟩
  · simp
  · rcases hsw with rfl | ⟨c, rfl⟩ | ⟨c, rfl⟩ <;>
      simp [ScanCall.processed?, ScanCall.measurement?, ScanCall.channel?]

/-- An evaluation that follows calls holding none lies in what comes after them. -/
theorem append_eq_evaluate {ec cs pre post : List ScanCall} {ctx : DcsContext}
    (hec : ∀ x ∈ ec, ∀ ctx, x ≠ .evaluateChannels ctx)
    (h : ec ++ cs = pre ++ .evaluateChannels ctx :: post) :
    ∃ pre', pre = ec ++ pre' ∧ cs = pre' ++ .evaluateChannels ctx :: post := by
  rcases List.append_eq_append_iff.1 h with ⟨a', rfl, h'⟩ | ⟨c', rfl, h'⟩
  · exact ⟨a', rfl, h'⟩
  · cases c' with
    | nil => exact ⟨[], by simp, by simpa using h'.symm⟩
    | cons x c' =>
      simp only [List.cons_append, List.cons.injEq] at h'
      exact absurd h'.1.symm (hec x (by simp) ctx)

/-! ## §2 — the grammar of a round -/

/-- The calls that may follow a point of a round where the scan list is `done ++ todo`: the
channels of `done` were measured in this round, the cursor is at the head of `todo`, and `a`
measurements of it have failed in a row.  The evaluation that ends the round reads `done`, and
the switch's calls follow it.  A run may stop after any iteration. -/
inductive RoundCalls : List Nat → Nat → List Nat → List ScanCall → Prop
  | stop {done a todo} : RoundCalls done a todo []
  | fail {done a c todo cs} : a + 1 < maxChannelMeasureRetries →
      RoundCalls done (a + 1) (c :: todo) cs →
      RoundCalls done a (c :: todo) (.measurementFailed c :: cs)
  | remove {done a c todo cs} : a + 1 = maxChannelMeasureRetries →
      RoundCalls done 0 todo cs →
      RoundCalls done a (c :: todo) (.measurementFailed c :: .remove c :: cs)
  | process {done a c todo m cs} : RoundCalls (done ++ [c]) 0 todo cs →
      RoundCalls done a (c :: todo) (.processMeasurement c m :: cs)
  | evaluate {done a ctx ec cs} : ctx.scanList = done → EndCalls ec →
      RoundCalls [] 0 done cs →
      RoundCalls done a [] (.evaluateChannels ctx :: (ec ++ cs))

/-! ## §3 — the loop follows the grammar -/

/-- On a scan list without repeats, the cursor after `c` is the head of what follows `c`. -/
theorem listGetNextItemOrNull_append {done todo : List Nat} {c : Nat} (hc : c ∉ done) :
    listGetNextItemOrNull (done ++ c :: todo) c = todo.head? := by
  induction done with
  | nil => simp [listGetNextItemOrNull]
  | cons d done ih =>
    simp only [List.mem_cons, not_or] at hc
    simp [listGetNextItemOrNull, Ne.symm hc.1, ih hc.2]

/-- The end of a round on an empty scan list faults. -/
theorem scanEndOfRound_nil {s : ScanThread} (h : s.ctx.scanList = []) (r : Int) :
    ∃ e, scanEndOfRound s r = .error e := by
  simp [scanEndOfRound_eq, dcsAlgoOpsEvaluateChannels_nil s.algo h, Except.bind]

/-- A point of a round: the scan list is `done ++ c :: todo` without repeats, the cursor is at
`c`, and fewer than `MAX_CHANNEL_MEASURE_RETRIES` measurements of it have failed. -/
structure RoundPoint (s : ScanThread) (done : List Nat) (c : Nat) (todo : List Nat) : Prop where
  scanList : s.ctx.scanList = done ++ c :: todo
  nodup : (done ++ c :: todo).Nodup
  channel : s.channel = some c
  attempts : s.attemptCount < maxChannelMeasureRetries

theorem RoundPoint.not_mem {s : ScanThread} {done todo : List Nat} {c : Nat}
    (h : RoundPoint s done c todo) : c ∉ done :=
  fun hc => (List.nodup_append.1 h.nodup).2.2 hc (List.mem_cons_self c todo)

/-- The rest of an iteration once the cursor has moved to the head of `todo`, given the grammar
for the runs that follow: the evaluation of the list, the switch and a new round when the cursor
has run off its end, the calls of the next iteration otherwise. -/
theorem roundCalls_advance {inputs : List ScanInput}
    (ih : ∀ (s : ScanThread) (done : List Nat) (c : Nat) (todo : List Nat),
      RoundPoint s done c todo → RoundCalls done s.attemptCount (c :: todo) (scanRunCalls s inputs))
    {s₁ : ScanThread} {done todo : List Nat} (hl : s₁.ctx.scanList = done ++ todo)
    (hnd : (done ++ todo).Nodup) (hch : s₁.channel = todo.head?) (ha : s₁.attemptCount = 0)
    (r : Int) :
    RoundCalls done 0 todo
      ((if s₁.channel = none then (scanEndOfRoundCalls s₁ r).1 else []) ++
        match (if s₁.channel = none then scanEndOfRound s₁ r else .ok s₁) with
        | .ok s' => scanRunCalls s' inputs
        | .error _ => []) := by
  cases todo with
  | nil =>
    rw [List.append_nil] at hl hnd
    simp only [hch, List.head?_nil, if_true]
    obtain ⟨ec, hcalls, hec⟩ := scanEndOfRoundCalls_fst s₁ r
    rw [hcalls, List.cons_append]
    refine .evaluate hl hec ?_
    cases he : scanEndOfRound s₁ r with
    | error e => exact .stop
    | ok s' =>
      -- a new round starts at the head of the list, which a faulting end of round leaves non-empty
      obtain ⟨hm, hch', ha'⟩ := scanEndOfRound_cases he
      cases done with
      | nil => obtain ⟨e, he'⟩ := scanEndOfRound_nil hl r; rw [he] at he'; cases he'
      | cons d rest =>
        rw [hl] at hch'
        have := ih s' [] d rest ⟨hm.scanList.trans hl, hnd, hch', by rw [ha', ha]; decide⟩
        rwa [ha', ha] at this
  | cons c' todo' =>
    simp only [hch, List.head?_cons, Option.some_ne_none, if_false, List.nil_append]
    have := ih s₁ done c' todo' ⟨hl, hnd, hch, by rw [ha]; decide⟩
    rwa [ha] at this

/-- **The loop's calls follow the grammar** from every point of a round, along every run. -/
theorem scanRunCalls_roundCalls : ∀ (inputs : List ScanInput) (s : ScanThread) (done : List Nat)
    (c : Nat) (todo : List Nat), RoundPoint s done c todo →
    RoundCalls done s.attemptCount (c :: todo) (scanRunCalls s inputs)
  | [], _, _, _, _, _ => .stop
  | inp :: inputs, s, done, c, todo, hp => by
    have ih := scanRunCalls_roundCalls inputs
    have hc := hp.not_mem
    simp only [scanRunCalls, scanIteration, scanIterationCalls, hp.channel]
    rcases hcalls : scanMeasureCalls s c inp.meas with ⟨calls, res⟩
    rcases scanMeasureCalls_cases hcalls with ⟨m, -, rfl, hs⟩ | ⟨-, hge, rfl, rfl⟩ |
      ⟨-, hlt, rfl, rfl⟩
    · -- processed: the cursor moves on, `c` joins the channels measured in the round
      cases res with
      | error e => exact .process .stop
      | ok s₁ =>
        obtain ⟨hm₁, hch₁, ha₁⟩ := hs s₁ rfl
        rw [hp.scanList, listGetNextItemOrNull_append hc] at hch₁
        have hl₁ : s₁.ctx.scanList = (done ++ [c]) ++ todo := by
          rw [hm₁.scanList, hp.scanList]; simp
        have := roundCalls_advance ih hl₁ (by simpa using hp.nodup) hch₁ ha₁ inp.switchRet
        dsimp only
        split_ifs at this ⊢ <;> exact .process (by simpa using this)
    · -- third failure: `c` is removed and the cursor moves on
      have hl₁ : (s.ctx.scanList.erase c) = done ++ todo := by
        rw [hp.scanList, List.erase_append_right _ hc, List.erase_cons_head]
      have hch₁ : listGetNextItemOrNull s.ctx.scanList c = todo.head? := by
        rw [hp.scanList, listGetNextItemOrNull_append hc]
      have := @roundCalls_advance inputs ih
        ⟨{ s.ctx with scanList := s.ctx.scanList.erase c }, s.algo,
          listGetNextItemOrNull s.ctx.scanList c, 0⟩ done todo hl₁
        (hp.nodup.sublist (by simp)) hch₁ rfl inp.switchRet
      have ha₃ : s.attemptCount + 1 = maxChannelMeasureRetries := by
        have := hp.attempts; omega
      dsimp only
      split_ifs at this ⊢ <;> exact .remove ha₃ (by simpa using this)
    · -- an earlier failure: the cursor stays
      have h := ih ⟨s.ctx, s.algo, some c, s.attemptCount + 1⟩ done c todo
        ⟨hp.scanList, hp.nodup, rfl, hlt⟩
      simp only [hp.channel, Option.some_ne_none, if_false, List.singleton_append]
      exact .fail hlt h

/-! ## §4 — a round, from the grammar -/

/-- `c` was removed at its `MAX_CHANNEL_MEASURE_RETRIES - a`-th failure, the first calls of
`seg`, and no later call concerns it. -/
def RemovedAt (c a : Nat) (seg : List ScanCall) : Prop :=
  ∃ post, seg = List.replicate (maxChannelMeasureRetries - a) (.measurementFailed c) ++
    .remove c :: post ∧ ∀ x ∈ post, x.channel? ≠ some c

/-- **`c` was removed after exactly `MAX_CHANNEL_MEASURE_RETRIES` failed measurements of it in a
row**, and no other call of `seg` concerns it. -/
def RemovedIn (c : Nat) (seg : List ScanCall) : Prop :=
  ∃ pre post, seg = pre ++ List.replicate maxChannelMeasureRetries (.measurementFailed c) ++
    .remove c :: post ∧ ∀ x ∈ pre ++ post, x.channel? ≠ some c

theorem RemovedAt.removedIn {c : Nat} {seg : List ScanCall} (h : RemovedAt c 0 seg) :
    RemovedIn c seg := by
  obtain ⟨post, rfl, hpost⟩ := h
  exact ⟨[], post, rfl, by simpa using hpost⟩

theorem RemovedIn.cons {c : Nat} {x : ScanCall} {seg : List ScanCall} (hx : x.channel? ≠ some c)
    (h : RemovedIn c seg) : RemovedIn c (x :: seg) := by
  obtain ⟨pre, post, rfl, hc⟩ := h
  refine ⟨x :: pre, post, rfl, ?_⟩
  simp only [List.cons_append, List.mem_cons, forall_eq_or_imp]
  exact ⟨hx, hc⟩

/-- What the calls of a round say, from a point of it up to the evaluation of `L'`: the channels
`process_measurement` sees are what `L'` adds to `done`, in order, and a sublist of `todo`; the
head of `todo`, when left out, was removed at its `MAX_CHANNEL_MEASURE_RETRIES - a`-th further
failure, and every other channel left out at three failures in a row; and every call concerns a
channel of `todo`. -/
structure RoundSeg (done : List Nat) (a : Nat) (todo : List Nat) (seg : List ScanCall)
    (L' : List Nat) : Prop where
  scanList : L' = done ++ seg.filterMap ScanCall.processed?
  sublist : (seg.filterMap ScanCall.processed?).Sublist todo
  head : ∀ c, todo.head? = some c → c ∉ L' → RemovedAt c a seg
  tail : ∀ c ∈ todo.tail, c ∉ L' → RemovedIn c seg
  channels : ∀ x ∈ seg, ∀ c, x.channel? = some c → c ∈ todo

/-- A channel of the rest of a round left out of its evaluation was removed in the round. -/
theorem RoundSeg.removedIn {done todo : List Nat} {c : Nat} {seg : List ScanCall} {L' : List Nat}
    (h : RoundSeg done 0 todo seg L') (hc : c ∈ todo) (hL : c ∉ L') : RemovedIn c seg := by
  cases todo with
  | nil => cases hc
  | cons d todo =>
    rcases List.mem_cons.1 hc with rfl | hc
    · exact (h.head c rfl hL).removedIn
    · exact h.tail c hc hL

/-- The calls of a round from a point of it, up to the first evaluation. -/
theorem RoundCalls.roundSeg {done : List Nat} {a : Nat} {todo : List Nat} {cs : List ScanCall}
    (h : RoundCalls done a todo cs) (hnd : todo.Nodup) :
    ∀ seg ctx' rest, cs = seg ++ .evaluateChannels ctx' :: rest →
      (∀ c, .evaluateChannels c ∉ seg) → RoundSeg done a todo seg ctx'.scanList := by
  induction h with
  | stop => intro seg _ rest hcs; simp at hcs
  | @fail done a c todo cs ha _ ih =>
    rintro (_ | ⟨y, seg⟩) ctx' rest hcs hseg
    · cases hcs
    · simp only [List.cons_append, List.cons.injEq] at hcs
      obtain ⟨rfl, hcs⟩ := hcs
      have hs := ih hnd seg ctx' rest hcs fun c hM => hseg c (List.mem_cons_of_mem _ hM)
      have hc : c ∉ todo := (List.nodup_cons.1 hnd).1
      refine ⟨hs.scanList, hs.sublist, fun d hd hL => ?_, fun d hd hL => ?_, ?_⟩
      · cases hd
        obtain ⟨post, hpost, hc'⟩ := hs.head c rfl hL
        refine ⟨post, ?_, hc'⟩
        rw [hpost, show maxChannelMeasureRetries - a = maxChannelMeasureRetries - (a + 1) + 1 by
          omega, List.replicate_succ, List.cons_append]
      · exact (hs.tail d hd hL).cons (by rintro ⟨⟩; exact hc hd)
      · rw [List.forall_mem_cons]
        exact ⟨fun d hd => by cases hd; exact List.mem_cons_self c todo, hs.channels⟩
  | @remove done a c todo cs ha _ ih =>
    rintro (_ | ⟨y, _ | ⟨y', seg⟩⟩) ctx' rest hcs hseg
    · cases hcs
    · simp only [List.singleton_append, List.cons.injEq] at hcs; cases hcs.2.1
    · simp only [List.cons_append, List.cons.injEq] at hcs
      obtain ⟨rfl, rfl, hcs⟩ := hcs
      obtain ⟨hc, hnd'⟩ := List.nodup_cons.1 hnd
      have hs := ih hnd' seg ctx' rest hcs fun c hM => hseg c (by simp [hM])
      have hseg₀ : ∀ x ∈ seg, x.channel? ≠ some c := fun x hx hxc => hc (hs.channels x hx c hxc)
      refine ⟨by simpa [ScanCall.processed?, ScanCall.measurement?] using hs.scanList,
        by simpa [ScanCall.processed?, ScanCall.measurement?] using hs.sublist.cons c,
        fun d hd _ => ?_, fun d hd hL => ?_, ?_⟩
      · cases hd
        exact ⟨seg, by rw [show maxChannelMeasureRetries - a = 1 by omega]; rfl, hseg₀⟩
      · have hdc : d ≠ c := fun h => hc (h ▸ hd)
        have := (hs.removedIn hd hL).cons (x := .remove c) (by simp [ScanCall.channel?, Ne.symm hdc])
        exact this.cons (by simp [ScanCall.channel?, Ne.symm hdc])
      · rw [List.forall_mem_cons, List.forall_mem_cons]
        refine ⟨?_, ?_, fun x hx d hd => List.mem_cons_of_mem c (hs.channels x hx d hd)⟩ <;>
          intro d hd <;> cases hd <;> exact List.mem_cons_self c todo
  | @process done a c todo m cs _ ih =>
    rintro (_ | ⟨y, seg⟩) ctx' rest hcs hseg
    · cases hcs
    · simp only [List.cons_append, List.cons.injEq] at hcs
      obtain ⟨rfl, hcs⟩ := hcs
      obtain ⟨hc, hnd'⟩ := List.nodup_cons.1 hnd
      have hs := ih hnd' seg ctx' rest hcs fun c hM => hseg c (List.mem_cons_of_mem _ hM)
      have hcL : c ∈ ctx'.scanList := by rw [hs.scanList]; simp
      refine ⟨by simpa [ScanCall.processed?, ScanCall.measurement?] using hs.scanList,
        by simpa [ScanCall.processed?, ScanCall.measurement?] using hs.sublist.cons₂ c,
        fun d hd hL => ?_, fun d hd hL => ?_, ?_⟩
      · cases hd; exact absurd hcL hL
      · exact (hs.removedIn hd hL).cons (by rintro ⟨⟩; exact hL hcL)
      · rw [List.forall_mem_cons]
        exact ⟨fun d hd => by cases hd; exact List.mem_cons_self c todo,
          fun x hx d hd => List.mem_cons_of_mem c (hs.channels x hx d hd)⟩
  | @evaluate done a ctx ec cs hl _ _ _ =>
    rintro (_ | ⟨y, seg⟩) ctx' rest hcs hseg
    · simp only [List.nil_append, List.cons.injEq, ScanCall.evaluateChannels.injEq] at hcs
      obtain ⟨rfl, -⟩ := hcs
      exact ⟨by simp [hl], by simp, fun _ h => (nomatch h), fun _ h => (nomatch h),
        fun _ h => (nomatch h)⟩
    · simp only [List.cons_append, List.cons.injEq] at hcs
      exact absurd (hcs.1 ▸ List.mem_cons_self _ _) (hseg ctx)

/-- After an evaluation of a context come what ends the round, then the calls of a new round of
its scan list, which has no repeats. -/
theorem RoundCalls.after_evaluate {done : List Nat} {a : Nat} {todo : List Nat}
    {cs : List ScanCall} (h : RoundCalls done a todo cs) (hnd : (done ++ todo).Nodup) :
    ∀ pre ctx post, cs = pre ++ .evaluateChannels ctx :: post →
      ∃ ec rest, post = ec ++ rest ∧ EndCalls ec ∧ RoundCalls [] 0 ctx.scanList rest ∧
        ctx.scanList.Nodup := by
  induction h with
  | stop => intro pre _ post hcs; simp at hcs
  | fail _ _ ih =>
    rintro (_ | ⟨y, pre⟩) ctx post hcs
    · cases hcs
    · simp only [List.cons_append, List.cons.injEq] at hcs
      exact ih hnd pre ctx post hcs.2
  | remove _ _ ih =>
    rintro (_ | ⟨y, _ | ⟨y', pre⟩⟩) ctx post hcs
    · cases hcs
    · simp only [List.singleton_append, List.cons.injEq] at hcs; cases hcs.2.1
    · simp only [List.cons_append, List.cons.injEq] at hcs
      exact ih (hnd.sublist (by simp)) pre ctx post hcs.2.2
  | process _ ih =>
    rintro (_ | ⟨y, pre⟩) ctx post hcs
    · cases hcs
    · simp only [List.cons_append, List.cons.injEq] at hcs
      exact ih (by simpa using hnd) pre ctx post hcs.2
  | @evaluate done a ctx₀ ec cs hl hec h ih =>
    rintro (_ | ⟨y, pre⟩) ctx post hcs
    · simp only [List.nil_append, List.cons.injEq, ScanCall.evaluateChannels.injEq] at hcs
      obtain ⟨rfl, rfl⟩ := hcs
      exact ⟨ec, cs, rfl, hec, hl ▸ h, by simpa [hl] using hnd⟩
    · simp only [List.cons_append, List.cons.injEq] at hcs
      -- what ends the round holds no evaluation, so the one sought lies in the new round
      obtain ⟨pre', -, hcs'⟩ := append_eq_evaluate (fun x hx => (hec.quiet x hx).1) hcs.2
      exact ih (by simpa [hl] using hnd) pre' ctx post hcs'

/-- **A round of the scan loop**, the calls from its start on the scan list `L` to the evaluation
of `L'`: `process_measurement` is called once for each channel of `L'`, in its order, and for no
other channel; `L'` is what the round kept of `L`, in order, with nothing added; and every other
channel of `L` was removed after exactly `MAX_CHANNEL_MEASURE_RETRIES` failed measurements of it
in a row. -/
structure Round (L : List Nat) (seg : List ScanCall) (L' : List Nat) : Prop where
  processed : seg.filterMap ScanCall.processed? = L'
  nodup : L'.Nodup
  sublist : L'.Sublist L
  removed : ∀ c ∈ L, c ∉ L' → RemovedIn c seg

theorem RoundCalls.round {L : List Nat} {cs seg : List ScanCall} {ctx' : DcsContext}
    {rest : List ScanCall} (h : RoundCalls [] 0 L cs) (hnd : L.Nodup)
    (hcs : cs = seg ++ .evaluateChannels ctx' :: rest)
    (hseg : ∀ c, .evaluateChannels c ∉ seg) : Round L seg ctx'.scanList := by
  have hs := h.roundSeg hnd seg ctx' rest hcs hseg
  have hp : seg.filterMap ScanCall.processed? = ctx'.scanList := by simpa using hs.scanList.symm
  exact ⟨hp, hnd.sublist (hp ▸ hs.sublist), hp ▸ hs.sublist, fun c hc hL => hs.removedIn hc hL⟩

/-- Calls that measure, fail and remove nothing before a round change none of what it says. -/
theorem Round.quiet {L L' : List Nat} {seg : List ScanCall} :
    ∀ {ec : List ScanCall}, (∀ x ∈ ec, x.processed? = none ∧ x.channel? = none) →
      Round L seg L' → Round L (ec ++ seg) L'
  | [], _, h => h
  | x :: ec, hec, h => by
    obtain ⟨⟨hp, hc⟩, hec⟩ := List.forall_mem_cons.1 hec
    have h' := Round.quiet hec h
    exact ⟨by simp [hp, h'.processed], h'.nodup, h'.sublist,
      fun c hc' hL => (h'.removed c hc' hL).cons (by simp [hc])⟩

/-- The rounds of the calls of a run that starts on the scan list `L`: the first, up to the first
evaluation, and each between two evaluations, with what ends the earlier one. -/
structure TraceRounds (L : List Nat) (t : List ScanCall) : Prop where
  first : ∀ seg ctx' rest, t = seg ++ .evaluateChannels ctx' :: rest →
    (∀ c, .evaluateChannels c ∉ seg) → Round L seg ctx'.scanList
  next : ∀ pre ctx₀ seg ctx' rest,
    t = pre ++ .evaluateChannels ctx₀ :: (seg ++ .evaluateChannels ctx' :: rest) →
    (∀ c, .evaluateChannels c ∉ seg) → Round ctx₀.scanList seg ctx'.scanList

theorem RoundCalls.traceRounds {L : List Nat} {cs : List ScanCall} (h : RoundCalls [] 0 L cs)
    (hnd : L.Nodup) : TraceRounds L cs where
  first _ _ _ hcs hseg := h.round hnd hcs hseg
  next pre ctx₀ seg ctx' rest hcs hseg := by
    obtain ⟨ec, rest₀, hpost, hec, h₀, hnd₀⟩ :=
      h.after_evaluate (by simpa using hnd) pre ctx₀ _ hcs
    -- what ends the round holds no evaluation, so it opens the segment
    obtain ⟨seg', rfl, hrest⟩ := append_eq_evaluate (fun x hx => (hec.quiet x hx).1) hpost.symm
    exact Round.quiet (fun x hx => (hec.quiet x hx).2)
      (h₀.round hnd₀ hrest fun c hm => hseg c (List.mem_append_right _ hm))

/-! ## §5 — a fresh thread -/

/-- **The rounds of the scan loop**, along every run of a thread started on a scan list without
repeats, whatever its measurements and however they fail. -/
theorem scanRun_rounds (ctx : DcsContext) (algo : AlgoState) (hnd : ctx.scanList.Nodup)
    (inputs : List ScanInput) :
    TraceRounds ctx.scanList (scanRunCalls (ScanThread.start ctx algo) inputs) := by
  cases hl : ctx.scanList with
  | nil =>
    -- the loop's first iteration dereferences the `NULL` cursor
    have ht : scanRunCalls (ScanThread.start ctx algo) inputs = [] := by
      cases inputs <;> simp [scanRunCalls, scanIteration, scanIterationCalls, ScanThread.start, hl]
    rw [ht]
    exact ⟨fun _ _ _ h => by simp at h, fun _ _ _ _ _ h => by simp at h⟩
  | cons c todo =>
    have hp : RoundPoint (ScanThread.start ctx algo) [] c todo :=
      ⟨hl, hl ▸ hnd, by simp [ScanThread.start, hl], (by decide : 0 < maxChannelMeasureRetries)⟩
    have hr := scanRunCalls_roundCalls inputs _ [] c todo hp
    exact RoundCalls.traceRounds hr (hl ▸ hnd)

theorem scanRun_rounds_single_channel :
    ∃ s, dcsCreateLive ⟨true⟩ (.ewma 10 50 1) singleChannelTable statusOn902500 = .ok (some s) ∧
      s.ctx.scanList.Nodup ∧ TraceRounds s.ctx.scanList (scanRunCalls (ScanThread.start s.ctx s.algo)
        [⟨some 100, 0⟩, ⟨none, 0⟩, ⟨none, 0⟩, ⟨none, 0⟩]) :=
  ⟨_, rfl, by decide, scanRun_rounds _ _ (by decide) _⟩

/-- The calls of that run, each evaluation shown by the scan list it reads: a round that measures
the channel, and one that removes it, whose evaluation faults on the empty scan list. -/
example : (match dcsCreateLive ⟨true⟩ (.ewma 10 50 1) singleChannelTable statusOn902500 with
    | .ok (some s) => (scanRunCalls s [⟨some 100, 0⟩, ⟨none, 0⟩, ⟨none, 0⟩, ⟨none, 0⟩]).map
        fun | .evaluateChannels ctx => .inl ctx.scanList | x => .inr x
    | _ => ([] : List (List Nat ⊕ ScanCall))) =
    [.inr (.processMeasurement 0 100), .inl [0], .inr (.evaluated none),
      .inr (.measurementFailed 0), .inr (.measurementFailed 0), .inr (.measurementFailed 0),
      .inr (.remove 0), .inl []] := by decide

/-! ## §6 — the scan list in memory -/

/-- **The scan list is the view of its ring.**  For a channel of the scan list, the cursor step
and the removal the loop performs on the `list.h` ring are those of the list model. -/
theorem scanList_ring {m : Misc.ListMem} {head c : Nat} {L : List Nat} (h : Misc.Ring m head L)
    (hc : c ∈ L) :
    Misc.listGetNextItemOrNull m head c = listGetNextItemOrNull L c ∧
      Misc.Ring (Misc.listRemove m c) head (L.erase c) := by
  refine ⟨?_, h.remove hc⟩
  obtain ⟨K, R, rfl⟩ := List.append_of_mem hc
  have hcK : c ∉ K := fun hk =>
    (List.nodup_cons.1 (List.nodup_middle.1 (List.nodup_cons.1 h.nodup).2)).1
      (List.mem_append_left _ hk)
  rw [h.getNextItemOrNull, listGetNextItemOrNull_append hcK]

end SmartManager.Dcs
