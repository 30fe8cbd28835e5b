/-
# `SmartManager.Dcs.HighestScore` — the best-channel helper against its arg-max specification

`dcs_algo_get_channel_with_highest_score` (`algo.c`) makes one pass over the scan list and compares
each channel with the running best only.  `highestScoreSpec` says what the pass is for, with no
reference to the loop: among the channels of maximal score, the first in scan-list order on the
current channel's frequency, and failing one the first whose distance from it is largest.  The
helper computes exactly that whenever the frequencies fit the `int32_t` difference its tie-break
forms (`dcsAlgoGetChannelWithHighestScore_eq_spec`).

The proof ranks a channel by one number (`highestScoreKey`: the score, then being on the current
frequency, then the distance), and goes in three stages:

* a step of the loop replaces the best exactly on a strictly larger key
  (`highestScoreStep_eq_argMaxStep`);
* a pass that replaces on a strictly larger key finds the first element of maximal key
  (`foldl_argMaxStep`);
* the first element of maximal key is the one the specification names
  (`highestScoreSpec_eq_firstMaxKey`).
-/
import SmartManager.Dcs.Algo

namespace SmartManager.Dcs

open SmartManager.Libc

/-! ## §1 — the first element of maximal key -/

section FirstMax

variable {α : Type} (key : α → Nat)

/-- One step of a running arg-max: the first element is taken, and only a strictly larger key
replaces the best. -/
def argMaxStep (best : Option α) (x : α) : Option α :=
  match best with
  | none => some x
  | some b => if key b < key x then some x else some b

/-- The first element of `l` whose key is at least every key of `l`. -/
def firstMaxKey (l : List α) : Option α :=
  l.find? fun i => l.all fun j => key j ≤ key i

theorem argMaxStep_eq_or {best : Option α} {x y : α} (h : argMaxStep key best x = some y) :
    y = x ∨ best = some y := by
  unfold argMaxStep at h
  split at h
  · exact .inl (Option.some.inj h).symm
  · split_ifs at h <;> cases h <;> simp

variable {key}

/-- `find?` reads its predicate only on the list's elements. -/
theorem find?_congr_mem {p q : α → Bool} :
    ∀ {l : List α}, (∀ x ∈ l, p x = q x) → l.find? p = l.find? q
  | [], _ => rfl
  | x :: l, h => by
    simp only [List.find?_cons, h x (List.mem_cons_self x l)]
    split
    · rfl
    · exact find?_congr_mem fun y hy => h y (List.mem_cons_of_mem x hy)

/-- An element no larger than the one before it is never the first maximal element. -/
theorem firstMaxKey_cons_cons_of_le {b x : α} {l : List α} (h : key x ≤ key b) :
    firstMaxKey key (b :: x :: l) = firstMaxKey key (b :: l) := by
  have hP : (fun i => (b :: x :: l).all fun j => key j ≤ key i) =
      fun i => (b :: l).all fun j => key j ≤ key i := by
    funext i
    by_cases hi : key b ≤ key i
    · simp [hi, show key x ≤ key i by omega]
    · simp [hi]
  simp only [firstMaxKey, hP, List.find?_cons]
  split
  · rfl
  · rename_i hb
    have hx : ((b :: l).all fun j => key j ≤ key x) = false := by
      simp only [Bool.eq_false_iff, ne_eq, List.all_eq_true, decide_eq_true_eq] at hb ⊢
      exact fun hx => hb fun j hj => (hx j hj).trans h
    rw [hx]

/-- A larger element after the first makes the first one no longer a candidate. -/
theorem firstMaxKey_cons_cons_of_lt {b x : α} {l : List α} (h : key b < key x) :
    firstMaxKey key (b :: x :: l) = firstMaxKey key (x :: l) := by
  have hP : (fun i => (b :: x :: l).all fun j => key j ≤ key i) =
      fun i => (x :: l).all fun j => key j ≤ key i := by
    funext i
    by_cases hi : key x ≤ key i
    · simp [hi, show key b ≤ key i by omega]
    · simp [hi]
  simp only [firstMaxKey, hP]
  rw [List.find?_cons_of_neg]
  simp [show ¬key x ≤ key b by omega]

/-- **The running arg-max finds the first maximal element** of the list it started on. -/
theorem foldl_argMaxStep :
    ∀ (l : List α) (b : α), l.foldl (argMaxStep key) (some b) = firstMaxKey key (b :: l)
  | [], b => by simp [firstMaxKey]
  | x :: l, b => by
    rw [List.foldl_cons]
    by_cases h : key b < key x
    · simp only [argMaxStep, h, if_true]
      rw [foldl_argMaxStep l x, firstMaxKey_cons_cons_of_lt h]
    · simp only [argMaxStep, h, if_false]
      rw [foldl_argMaxStep l b, firstMaxKey_cons_cons_of_le (by omega)]

theorem foldl_argMaxStep_none (l : List α) :
    l.foldl (argMaxStep key) none = firstMaxKey key l := by
  cases l with
  | nil => rfl
  | cons x l => exact foldl_argMaxStep l x

end FirstMax

/-! ## §2 — the rank of a channel -/

/-- The distance `|c - cur|` in exact arithmetic. -/
def freqGap (cur c : UInt32) : Nat := ((cur.toNat : Int) - c.toNat).natAbs

/-- The tie-break part of a channel's rank: being on the current frequency `cur` comes first,
then the distance from it. -/
def tieRank (ctx : DcsContext) (cur : UInt32) (i : Nat) : Nat :=
  if (ctx.channelAt i).ch.frequencyKhz = cur then 2 ^ 32
  else freqGap cur (ctx.channelAt i).ch.frequencyKhz

/-- The rank of a channel in the helper's loop as one number: the score first, then the
tie-break. -/
def highestScoreKey (ctx : DcsContext) (cur : UInt32) (i : Nat) : Nat :=
  (ctx.channelAt i).metric.accumulatedScore.toNat * 2 ^ 33 + tieRank ctx cur i

theorem freqGap_lt_size (cur c : UInt32) : freqGap cur c < 2 ^ 32 := by
  have : cur.toNat < 2 ^ 32 := cur.toBitVec.isLt
  have : c.toNat < 2 ^ 32 := c.toBitVec.isLt
  unfold freqGap; omega

theorem tieRank_le (ctx : DcsContext) (cur : UInt32) (i : Nat) : tieRank ctx cur i ≤ 2 ^ 32 := by
  have := freqGap_lt_size cur (ctx.channelAt i).ch.frequencyKhz
  unfold tieRank; split <;> omega

theorem tieRank_eq_top_iff {ctx : DcsContext} {cur : UInt32} {i : Nat} :
    tieRank ctx cur i = 2 ^ 32 ↔ (ctx.channelAt i).ch.frequencyKhz = cur := by
  have := freqGap_lt_size cur (ctx.channelAt i).ch.frequencyKhz
  unfold tieRank; split
  · simp_all
  · simp only [iff_false, *]; omega

theorem tieRank_of_ne {ctx : DcsContext} {cur : UInt32} {i : Nat}
    (h : (ctx.channelAt i).ch.frequencyKhz ≠ cur) :
    tieRank ctx cur i = freqGap cur (ctx.channelAt i).ch.frequencyKhz := if_neg h

/-- Ranks compare by score first and by the tie-break between equal scores. -/
theorem highestScoreKey_le_iff {ctx : DcsContext} {cur : UInt32} {i j : Nat} :
    highestScoreKey ctx cur j ≤ highestScoreKey ctx cur i ↔
      (ctx.channelAt j).metric.accumulatedScore.toNat <
        (ctx.channelAt i).metric.accumulatedScore.toNat ∨
      (ctx.channelAt j).metric.accumulatedScore.toNat =
        (ctx.channelAt i).metric.accumulatedScore.toNat ∧ tieRank ctx cur j ≤ tieRank ctx cur i := by
  have := tieRank_le ctx cur i
  have := tieRank_le ctx cur j
  unfold highestScoreKey; omega

/-- Between frequencies below `2^31` the `int32_t` difference is the exact one. -/
theorem freqDistance_eq {cur c : UInt32} (hcur : cur.toNat < 2 ^ 31) (hc : c.toNat < 2 ^ 31) :
    freqDistance cur c = (cur.toNat : Int) - c.toNat := by
  have h : (cur - c).toNat = (2 ^ 32 - c.toNat + cur.toNat) % 2 ^ 32 := BitVec.toNat_sub _ _
  rw [freqDistance, toInt32, Int.bmod_def, h]
  push_cast
  split <;> omega

section Distance

variable {cur c : UInt32} (hcur : cur.toNat < 2 ^ 31) (hc : c.toNat < 2 ^ 31)
include hcur hc

theorem freqDistance_natAbs : (freqDistance cur c).natAbs = freqGap cur c := by
  rw [freqDistance_eq hcur hc]; rfl

theorem freqDistance_eq_zero_iff : freqDistance cur c = 0 ↔ c = cur := by
  rw [freqDistance_eq hcur hc, uint32_eq_iff_toNat_eq]; omega

theorem freqGap_lt : freqGap cur c < 2 ^ 31 := by
  unfold freqGap; omega

end Distance

/-- **A step of the loop is a step of the running arg-max** over `highestScoreKey`. -/
theorem highestScoreStep_eq_argMaxStep {ctx : DcsContext} {cur next : Nat} {best : Option Nat}
    (hcur : ctx.currentChannel = some cur)
    (hf : (ctx.channelAt cur).ch.frequencyKhz.toNat < 2 ^ 31)
    (hb : ∀ b, best = some b → (ctx.channelAt b).ch.frequencyKhz.toNat < 2 ^ 31)
    (hn : (ctx.channelAt next).ch.frequencyKhz.toNat < 2 ^ 31) :
    highestScoreStep ctx best next =
      .ok (argMaxStep (highestScoreKey ctx (ctx.channelAt cur).ch.frequencyKhz) best next) := by
  cases best with
  | none => rfl
  | some b =>
    have hb := hb b rfl
    have := freqGap_lt hf hb
    have := freqGap_lt hf hn
    simp only [highestScoreStep, hcur, argMaxStep, highestScoreKey, tieRank, freqDistance_natAbs hf hb,
      freqDistance_natAbs hf hn, freqDistance_eq_zero_iff hf hb, freqDistance_eq_zero_iff hf hn]
    split_ifs <;> first | rfl |
      (exfalso; simp only [GT.gt, uint32_lt_iff_toNat_lt, uint32_eq_iff_toNat_eq] at *; omega)

/-! ## §3 — the loop -/

/-- The loop computes the running arg-max from any start whose channel fits. -/
theorem foldlM_highestScoreStep_eq {ctx : DcsContext} {cur : Nat}
    (hcur : ctx.currentChannel = some cur)
    (hf : (ctx.channelAt cur).ch.frequencyKhz.toNat < 2 ^ 31) :
    ∀ (l : List Nat) (best : Option Nat),
      (∀ i ∈ l, (ctx.channelAt i).ch.frequencyKhz.toNat < 2 ^ 31) →
      (∀ b, best = some b → (ctx.channelAt b).ch.frequencyKhz.toNat < 2 ^ 31) →
      l.foldlM (highestScoreStep ctx) best =
        .ok (l.foldl (argMaxStep (highestScoreKey ctx (ctx.channelAt cur).ch.frequencyKhz)) best)
  | [], _, _, _ => rfl
  | x :: l, best, hl, hb => by
    have hx := hl x (List.mem_cons_self x l)
    rw [List.foldlM_cons, highestScoreStep_eq_argMaxStep hcur hf hb hx, List.foldl_cons]
    exact foldlM_highestScoreStep_eq hcur hf l _ (fun i hi => hl i (List.mem_cons_of_mem x hi))
      fun y hy => (argMaxStep_eq_or _ hy).elim (fun h => h ▸ hx) (hb y)

/-! ## §4 — the specification -/

/-- **What the helper is for**, in the words of its comment: among the channels of the scan list
of maximal score, the first on the current frequency `cur`, and failing one the first whose
distance from `cur` is largest; `none` on an empty scan list. -/
def highestScoreSpec (ctx : DcsContext) (cur : UInt32) : Option Nat :=
  let score := fun i => (ctx.channelAt i).metric.accumulatedScore
  let freq := fun i => (ctx.channelAt i).ch.frequencyKhz
  let tops := ctx.scanList.filter fun i => ctx.scanList.all fun j => score j ≤ score i
  match tops.find? fun i => freq i = cur with
  | some i => some i
  | none => tops.find? fun i => tops.all fun j => freqGap cur (freq j) ≤ freqGap cur (freq i)

/-- A channel has maximal rank exactly when its score is maximal and its tie-break is the best
among the channels of maximal score. -/
theorem highestScoreKey_max_iff {ctx : DcsContext} {cur : UInt32} {i : Nat}
    (hi : i ∈ ctx.scanList) :
    (∀ j ∈ ctx.scanList, highestScoreKey ctx cur j ≤ highestScoreKey ctx cur i) ↔
      (∀ j ∈ ctx.scanList, (ctx.channelAt j).metric.accumulatedScore ≤
        (ctx.channelAt i).metric.accumulatedScore) ∧
      ∀ j ∈ ctx.scanList, (∀ k ∈ ctx.scanList, (ctx.channelAt k).metric.accumulatedScore ≤
        (ctx.channelAt j).metric.accumulatedScore) → tieRank ctx cur j ≤ tieRank ctx cur i := by
  constructor
  · intro hmax
    refine ⟨fun j hj => ?_, fun j hj hjtop => ?_⟩
    · have := highestScoreKey_le_iff.1 (hmax j hj)
      show (ctx.channelAt j).metric.accumulatedScore.toNat ≤
        (ctx.channelAt i).metric.accumulatedScore.toNat
      omega
    · have h₁ := highestScoreKey_le_iff.1 (hmax j hj)
      have h₂ : (ctx.channelAt i).metric.accumulatedScore.toNat ≤
          (ctx.channelAt j).metric.accumulatedScore.toNat := hjtop i hi
      omega
  · rintro ⟨htop, htie⟩ j hj
    have hji : (ctx.channelAt j).metric.accumulatedScore.toNat ≤
        (ctx.channelAt i).metric.accumulatedScore.toNat := htop j hj
    rw [highestScoreKey_le_iff]
    by_cases hlt : (ctx.channelAt j).metric.accumulatedScore.toNat <
        (ctx.channelAt i).metric.accumulatedScore.toNat
    · exact .inl hlt
    · refine .inr ⟨by omega, htie j hj fun k hk => ?_⟩
      have : (ctx.channelAt k).metric.accumulatedScore.toNat ≤
          (ctx.channelAt i).metric.accumulatedScore.toNat := htop k hk
      show (ctx.channelAt k).metric.accumulatedScore.toNat ≤
        (ctx.channelAt j).metric.accumulatedScore.toNat
      omega

/-- **The first channel of maximal rank is the one the specification names.** -/
theorem highestScoreSpec_eq_firstMaxKey (ctx : DcsContext) (cur : UInt32) :
    highestScoreSpec ctx cur = firstMaxKey (highestScoreKey ctx cur) ctx.scanList := by
  unfold highestScoreSpec firstMaxKey
  dsimp only
  split
  · -- a channel `t` of maximal score is on the current frequency: the tie-break's top decides
    rename_i t ht
    rw [List.find?_filter] at ht
    have htL := List.mem_of_find?_eq_some ht
    obtain ⟨httop, hft⟩ : (∀ j ∈ ctx.scanList, (ctx.channelAt j).metric.accumulatedScore ≤
        (ctx.channelAt t).metric.accumulatedScore) ∧ (ctx.channelAt t).ch.frequencyKhz = cur := by
      simpa only [List.all_eq_true, decide_eq_true_eq] using List.find?_some ht
    rw [← ht]
    refine (find?_congr_mem fun i hi => ?_).symm
    rw [Bool.eq_iff_iff]
    simp only [List.all_eq_true, decide_eq_true_eq, highestScoreKey_max_iff hi]
    refine and_congr_right fun _ => ⟨fun h => tieRank_eq_top_iff.1 ?_, fun h j _ _ => ?_⟩
    · have := h t htL httop
      rw [tieRank_eq_top_iff.2 hft] at this
      exact le_antisymm (tieRank_le ctx cur i) this
    · rw [tieRank_eq_top_iff.2 h]
      exact tieRank_le ctx cur j
  · -- no channel of maximal score is on the current frequency: the distance decides
    rename_i ht
    rw [List.find?_filter, List.find?_eq_none] at ht
    rw [List.find?_filter]
    refine (find?_congr_mem fun i hi => ?_).symm
    rw [Bool.eq_iff_iff]
    simp only [List.all_eq_true, decide_eq_true_eq, List.mem_filter, and_imp,
      highestScoreKey_max_iff hi] at ht ⊢
    refine and_congr_right fun hitop => forall₂_congr fun j hj => imp_congr_right fun hjtop => ?_
    rw [tieRank_of_ne fun e => ht j hj ⟨hjtop, e⟩, tieRank_of_ne fun e => ht i hi ⟨hitop, e⟩]

/-- **The helper computes its specification**: for every scan list and every current channel
whose frequencies are below `2^31` kHz, `dcs_algo_get_channel_with_highest_score` returns the
channel `highestScoreSpec` names, which is `NULL` exactly on an empty scan list. -/
theorem dcsAlgoGetChannelWithHighestScore_eq_spec {ctx : DcsContext} {cur : Nat}
    (hcur : ctx.currentChannel = some cur)
    (hf : (ctx.channelAt cur).ch.frequencyKhz.toNat < 2 ^ 31)
    (hl : ∀ i ∈ ctx.scanList, (ctx.channelAt i).ch.frequencyKhz.toNat < 2 ^ 31) :
    dcsAlgoGetChannelWithHighestScore ctx =
        .ok (highestScoreSpec ctx (ctx.channelAt cur).ch.frequencyKhz) ∧
      (highestScoreSpec ctx (ctx.channelAt cur).ch.frequencyKhz = none ↔ ctx.scanList = []) := by
  have h : dcsAlgoGetChannelWithHighestScore ctx =
      .ok (highestScoreSpec ctx (ctx.channelAt cur).ch.frequencyKhz) := by
    rw [highestScoreSpec_eq_firstMaxKey, ← foldl_argMaxStep_none]
    exact foldlM_highestScoreStep_eq hcur hf _ none hl fun _ h => nomatch h
  exact ⟨h, (dcsAlgoGetChannelWithHighestScore_ok h).1⟩

/-- Three channels, the current one on 902.5 MHz and the other two tied on the best score. -/
def tiedContext : DcsContext :=
  { twoChannelContext with
    numChans := 3
    allChannels := [⟨⟨902500, 1, 1⟩, ⟨3, 1, 0⟩⟩, ⟨⟨903500, 1, 3⟩, ⟨7, 1, 0⟩⟩,
      ⟨⟨905500, 1, 7⟩, ⟨7, 1, 0⟩⟩]
    scanList := [0, 1, 2] }

theorem dcsAlgoGetChannelWithHighestScore_tiedContext :
    tiedContext.currentChannel = some 0 ∧
      (tiedContext.channelAt 0).ch.frequencyKhz.toNat < 2 ^ 31 ∧
      (∀ i ∈ tiedContext.scanList, (tiedContext.channelAt i).ch.frequencyKhz.toNat < 2 ^ 31) ∧
      dcsAlgoGetChannelWithHighestScore tiedContext =
        .ok (highestScoreSpec tiedContext (tiedContext.channelAt 0).ch.frequencyKhz) ∧
      (highestScoreSpec tiedContext (tiedContext.channelAt 0).ch.frequencyKhz = none ↔
        tiedContext.scanList = []) :=
  ⟨rfl, by decide, by decide, dcsAlgoGetChannelWithHighestScore_eq_spec rfl (by decide) (by decide)⟩

example : highestScoreSpec tiedContext 902500 = some 2 := by decide

end SmartManager.Dcs
