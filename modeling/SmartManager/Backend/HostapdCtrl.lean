/-
# `SmartManager.Backend.HostapdCtrl` — parsing hostapd's replies (`backend/hostapd_ctrl.c`)

A hostapd control-interface reply is text in the stack array `out_buf`: `NUL`-terminated lines
such as `<3>AP-STA-CONNECTED 02:00:00:00:01:00` or `ssid=halow`.  `parse_output` cuts the buffer
into lines with `strtok_r(…, "\n", …)` and hands each to `parse_item`, which cuts the line once
on `"= "` for the key (skipping a `<…>` tag by scanning for `>`) and once more on `"="` for the
value.  One line that `parse_item` rejects frees the chain built so far, and the reply is `NULL`.

The model keeps the code's pointers as indices into the array and its stores as `List.set`, so
that `strtok_r`'s `NUL`s are where glibc writes them.  A scan that leaves the array is a fault
(`CFault.outOfBounds`).  The results:

* `parseOutput_response_lines`: every reply of well-formed lines parses to one item per line,
  keyed by the line's key, whose value is the first `=`-free run of the text after the first
  `=` — the text itself exactly when it holds no further `=`;
* `parseOutput_overrun_or_dropped`: a tag without `>` sends the skip past the terminating `NUL`
  (the key then comes from whatever follows it, or the scan leaves the array), and one line of
  spaces and `=` turns the whole reply into `NULL`.
-/
import SmartManager.Engine.Helpers

namespace SmartManager.Backend

open SmartManager.Data SmartManager.Engine

/-! ## §1 — the C library's scans -/

/-- The scan loop of `strspn`, `strcspn`, `strlen` and `parse_item`'s tag skip: from `p`, the
first index whose byte satisfies `stop`.  Running off the end of the array is a fault at the
first index outside it. -/
def scanFrom (stop : Char → Bool) (buf : List Char) (p : Nat) : Except CFault Nat :=
  let n := ((buf.drop p).takeWhile fun c => !stop c).length
  if p + n < buf.length then .ok (p + n) else .error (.outOfBounds (max p buf.length))

/-- `strdup`/`strlen` of the C string at `p`: its bytes up to the `NUL`. -/
def cStringAt (buf : List Char) (p : Nat) : Except CFault (List Char) := do
  let e ← scanFrom (· = '\x00') buf p
  return (buf.drop p).take (e - p)

/-- glibc's `strtok_r(s, delim, &save_ptr)`, from the index `s` (the caller's `s` or
`save_ptr`): the token (`none` for `NULL`), the array after the store, and the new `save_ptr`.
glibc tests `*s` before `s += strspn(s, delim)`; with a `NUL`-free `delim` that scan stops at a
`NUL` at once, so the one test after it returns the same. -/
def strtokR (delim : List Char) (buf : List Char) (s : Nat) :
    Except CFault (Option Nat × List Char × Nat) := do
  let s ← scanFrom (fun c => decide (c ∉ delim)) buf s
  if buf.getD s '\x00' = '\x00' then return (none, buf, s)
  let e ← scanFrom (fun c => decide (c ∈ delim ∨ c = '\x00')) buf s
  if buf.getD e '\x00' = '\x00' then return (some s, buf, e)
  return (some s, buf.set e '\x00', e + 1)

/-! ## §2 — `parse_item` and `parse_output` -/

/-- `parse_item`'s tag skip: a token that starts with `<` moves to the byte after the first `>`,
wherever that is. -/
def skipTag (buf : List Char) (token : Nat) : Except CFault Nat :=
  if buf.getD token '\x00' = '<' then (· + 1) <$> scanFrom (· = '>') buf token else pure token

/-- `parse_item(line, item)`: the array after its stores, and the item (`none` when it returns
`1`). -/
def parseItem (buf : List Char) (line : Nat) (item : MmsmDataItem) :
    Except CFault (List Char × Option MmsmDataItem) := do
  let (token, buf, savePtr) ← strtokR ['=', ' '] buf line
  match token with
  | none => return (buf, none)
  | some token =>
    let token ← skipTag buf token
    let item := item.setKeyStr (String.mk (← cStringAt buf token))
    let (value, buf, _) ← strtokR ['='] buf savePtr
    match value with
    | none => return (buf, some item)
    | some value => return (buf, some (item.setValString (String.mk (← cStringAt buf value))))

/-- The loop of `parse_output`, from `save_ptr` with the chain `head` built so far; each turn
consumes a byte of the array, so `fuel` past its length never runs out. -/
def parseOutputFrom (buf : List Char) (savePtr : Nat) (head : List MmsmDataItem) :
    Nat → Except CFault (Option (List MmsmDataItem))
  | 0 => .ok (some head)
  | fuel + 1 => do
    let (token, buf, savePtr) ← strtokR ['\n'] buf savePtr
    match token with
    | none => return some head
    | some token =>
      let (buf, item) ← parseItem buf token mmsmDataItemAlloc
      match item with
      | none => return none
      | some item => parseOutputFrom buf savePtr (head ++ [item]) fuel

/-- `parse_output(buf)`: the chain (`none` for `NULL`). -/
def parseOutput (buf : List Char) : Except CFault (Option (List MmsmDataItem)) :=
  parseOutputFrom buf 0 [] (buf.length + 1)

/-! ## §3 — the scans on a buffer of known shape -/

@[simp] theorem getD_append_cons (l rest : List Char) (c d : Char) :
    (l ++ c :: rest).getD l.length d = c := by
  rw [List.getD_eq_getElem?_getD, List.getElem?_append_right (Nat.le_refl _), Nat.sub_self,
    List.getElem?_cons_zero, Option.getD_some]

theorem set_append_cons (l rest : List Char) (c x : Char) :
    (l ++ c :: rest).set l.length x = l ++ x :: rest := by
  rw [List.set_append_right _ _ (Nat.le_refl _), Nat.sub_self, List.set_cons_zero]

theorem scanFrom_eq {stop : Char → Bool} {pre mid rest : List Char} {c : Char}
    (hmid : ∀ x ∈ mid, stop x = false) (hc : stop c = true) :
    scanFrom stop (pre ++ mid ++ c :: rest) pre.length = .ok (pre.length + mid.length) := by
  have hdrop : (pre ++ mid ++ c :: rest).drop pre.length = mid ++ c :: rest := by simp
  have htake : ((mid ++ c :: rest).takeWhile fun c => !stop c) = mid := by
    rw [List.takeWhile_append_of_pos (by simpa using hmid), List.takeWhile_cons_of_neg (by simpa),
      List.append_nil]
  rw [scanFrom, hdrop, htake, if_pos (by simp)]

theorem scanFrom_outOfBounds {stop : Char → Bool} {pre mid : List Char}
    (hmid : ∀ x ∈ mid, stop x = false) :
    scanFrom stop (pre ++ mid) pre.length = .error (.outOfBounds (pre ++ mid).length) := by
  have htake : ((mid).takeWhile fun c => !stop c) = mid :=
    List.takeWhile_eq_self_iff.mpr (by simpa using hmid)
  rw [scanFrom, List.drop_left, htake, if_neg (by simp), List.length_append,
    Nat.max_eq_right (Nat.le_add_right _ _)]

theorem cStringAt_eq {pre s rest : List Char} (hs : '\x00' ∉ s) :
    cStringAt (pre ++ s ++ '\x00' :: rest) pre.length = .ok s := by
  rw [cStringAt, scanFrom_eq (fun x hx => by simpa using ne_of_mem_of_not_mem hx hs) (by simp)]
  simp

section Strtok

variable {delim : List Char}

/-- `strtok_r` on delimiters up to the `NUL`: no token, and `save_ptr` left on the `NUL`. -/
theorem strtokR_none (hdelim : '\x00' ∉ delim) {pre ds rest : List Char}
    (hds : ∀ x ∈ ds, x ∈ delim) :
    strtokR delim (pre ++ ds ++ '\x00' :: rest) pre.length =
      .ok (none, pre ++ ds ++ '\x00' :: rest, pre.length + ds.length) := by
  rw [strtokR, scanFrom_eq (by simpa using hds) (by simpa using hdelim)]
  simp only [bind, Except.bind, pure, Except.pure]
  rw [← List.length_append, getD_append_cons, if_pos rfl]

/-- `strtok_r` from a `NUL`. -/
theorem strtokR_at_nul (hdelim : '\x00' ∉ delim) (pre rest : List Char) :
    strtokR delim (pre ++ '\x00' :: rest) pre.length = .ok (none, pre ++ '\x00' :: rest, pre.length) := by
  simpa using @strtokR_none _ hdelim pre [] rest (by simp)

/-- `strtok_r` on delimiters, then a token ended by a delimiter or the `NUL`: the token, the
`NUL` stored over its end, and `save_ptr` past a delimiter or on the `NUL`. -/
theorem strtokR_token {pre ds tok rest : List Char} {c : Char} (hds : ∀ x ∈ ds, x ∈ delim)
    (htok : ∀ x ∈ tok, x ∉ delim ∧ x ≠ '\x00') (hne : tok ≠ []) (hc : c ∈ delim ∨ c = '\x00') :
    strtokR delim (pre ++ ds ++ tok ++ c :: rest) pre.length =
      .ok (some (pre.length + ds.length), pre ++ ds ++ tok ++ '\x00' :: rest,
        pre.length + ds.length + tok.length + if c = '\x00' then 0 else 1) := by
  obtain ⟨t, ts, rfl⟩ := List.exists_cons_of_ne_nil hne
  have ht := htok t (List.mem_cons_self _ _)
  have hbuf : pre ++ ds ++ (t :: ts) ++ c :: rest = pre ++ ds ++ t :: (ts ++ c :: rest) := by simp
  rw [strtokR, hbuf, scanFrom_eq (by simpa using hds) (by simpa using ht.1)]
  simp only [bind, Except.bind, pure, Except.pure]
  rw [← List.length_append, getD_append_cons, if_neg ht.2, ← hbuf,
    scanFrom_eq (fun x hx => by simpa using htok x hx) (by simpa using hc)]
  simp only [bind, Except.bind, pure, Except.pure]
  rw [← List.length_append, getD_append_cons]
  by_cases hc0 : c = '\x00'
  · subst hc0; simp
  · rw [if_neg hc0, set_append_cons]; simp [hc0]

/-- `strtok_r` on a token at the pointer. -/
theorem strtokR_token_here {pre tok rest : List Char} {c : Char}
    (htok : ∀ x ∈ tok, x ∉ delim ∧ x ≠ '\x00') (hne : tok ≠ []) (hc : c ∈ delim ∨ c = '\x00') :
    strtokR delim (pre ++ tok ++ c :: rest) pre.length =
      .ok (some pre.length, pre ++ tok ++ '\x00' :: rest,
        pre.length + tok.length + if c = '\x00' then 0 else 1) := by
  simpa using @strtokR_token _ pre [] _ rest _ (by simp) htok hne hc

/-- `strtok_r(…, "=", …)` on a `NUL`-terminated text: the token is its first `=`-free run after
the leading `=`s, or there is none. -/
def firstField (v : List Char) : List Char := (v.dropWhile (· = '=')).takeWhile (· ≠ '=')

theorem dropWhile_eq_cons_head {p : Char → Bool} {l xs : List Char} {x : Char}
    (h : l.dropWhile p = x :: xs) : p x = false := by
  simpa [h] using List.head_dropWhile_not p l (by simp [h])

/-- A text of `=` only leaves `strtok_r(…, "=", …)` without a token. -/
theorem strtokR_firstField_nil {pre v after : List Char} (h : firstField v = []) :
    strtokR ['='] (pre ++ v ++ '\x00' :: after) pre.length =
      .ok (none, pre ++ v ++ '\x00' :: after, pre.length + v.length) := by
  have hr : v.dropWhile (· = '=') = [] := by
    cases hr : v.dropWhile (fun c => decide (c = '=')) with
    | nil => rfl
    | cons x xs =>
      have hx : x ≠ '=' := by simpa using dropWhile_eq_cons_head hr
      simp [firstField, hr, hx] at h
  exact strtokR_none (by simp) (by simpa using List.dropWhile_eq_nil_iff.mp hr)

/-- Otherwise the token is `firstField v`, and the `NUL` goes over the `=` after it, if any. -/
theorem strtokR_firstField_cons {pre v after : List Char} (hv : '\x00' ∉ v)
    (h : firstField v ≠ []) :
    ∃ w q save, w.length = v.length ∧
      strtokR ['='] (pre ++ v ++ '\x00' :: after) pre.length =
        .ok (some q, pre ++ w ++ '\x00' :: after, save) ∧
      cStringAt (pre ++ w ++ '\x00' :: after) q = .ok (firstField v) := by
  have hsplit : v = v.takeWhile (· = '=') ++ firstField v ++ (v.dropWhile (· = '=')).dropWhile
      (· ≠ '=') := by
    rw [firstField, List.append_assoc, List.takeWhile_append_dropWhile,
      List.takeWhile_append_dropWhile]
  have heqs : ∀ x ∈ v.takeWhile (· = '='), x ∈ ['='] := fun x hx => by
    simpa using List.mem_takeWhile_imp hx
  have hrun : ∀ x ∈ firstField v, x ∉ ['='] ∧ x ≠ '\x00' := fun x hx =>
    ⟨by simpa using List.mem_takeWhile_imp hx,
      ne_of_mem_of_not_mem ((List.dropWhile_sublist _).subset
        ((List.takeWhile_sublist _).subset hx)) hv⟩
  have hq := fun rest => @cStringAt_eq (pre ++ v.takeWhile (· = '=')) (firstField v) rest
    (fun h0 => (hrun _ h0).2 rfl)
  generalize htl : (v.dropWhile (· = '=')).dropWhile (· ≠ '=') = tl at hsplit
  generalize v.takeWhile (· = '=') = eqs at hsplit heqs hq
  generalize firstField v = run at hsplit hrun hq h ⊢
  subst hsplit
  rcases tl with _ | ⟨c, tl⟩
  · have ht : strtokR ['='] (pre ++ (eqs ++ run ++ []) ++ '\x00' :: after) pre.length =
        .ok (some (pre.length + eqs.length), pre ++ (eqs ++ run) ++ '\x00' :: after,
          pre.length + eqs.length + run.length) := by
      simpa using @strtokR_token _ pre _ _ after _ heqs hrun h (Or.inr rfl)
    exact ⟨_, _, _, by simp, ht, by simpa using hq after⟩
  · have hc : c = '=' := by simpa using dropWhile_eq_cons_head htl
    subst hc
    have ht : strtokR ['='] (pre ++ (eqs ++ run ++ '=' :: tl) ++ '\x00' :: after) pre.length =
        .ok (some (pre.length + eqs.length), pre ++ (eqs ++ run ++ '\x00' :: tl) ++ '\x00' :: after,
          pre.length + eqs.length + run.length + 1) := by
      simpa using @strtokR_token _ pre _ _ (tl ++ '\x00' :: after) _ heqs hrun h
        (Or.inl (List.mem_singleton_self _))
    exact ⟨_, _, _, by simp, ht, by simpa using hq (tl ++ '\x00' :: after)⟩

end Strtok

/-! ## §4 — well-formed lines -/

/-- A reply line of the documented shape `[<digits>]K[=V]`: the digits of the tag, the key and
the value text. -/
structure HostapdLine where
  tag : Option (List Char)
  key : List Char
  value : Option (List Char)
  deriving DecidableEq, Repr

/-- The text of a tag, `<digits>`. -/
def tagText : Option (List Char) → List Char
  | none => []
  | some d => '<' :: d ++ ['>']

/-- The text of a value, `=V`. -/
def valueText : Option (List Char) → List Char
  | none => []
  | some v => '=' :: v

/-- The line as it stands in the reply. -/
def HostapdLine.render (l : HostapdLine) : List Char := tagText l.tag ++ l.key ++ valueText l.value

/-- The documented shape: digits in the tag; a non-empty key without `=`, space, newline or
`NUL` (and, untagged, not starting with `<`, or it would read as a tag); a non-empty value
without newline or `NUL`. -/
structure HostapdLine.Valid (l : HostapdLine) : Prop where
  tag_digits : ∀ d ∈ l.tag, ∀ c ∈ d, c.isDigit
  key_ne_nil : l.key ≠ []
  key_chars : ∀ c ∈ l.key, c ∉ ['=', ' ', '\n', '\x00']
  untagged_key : l.tag = none → l.key.head? ≠ some '<'
  value_ne_nil : ∀ v ∈ l.value, v ≠ []
  value_chars : ∀ v ∈ l.value, ∀ c ∈ v, c ∉ ['\n', '\x00']

instance : DecidablePred HostapdLine.Valid := fun l =>
  decidable_of_iff ((∀ d ∈ l.tag, ∀ c ∈ d, c.isDigit) ∧ l.key ≠ [] ∧
      (∀ c ∈ l.key, c ∉ ['=', ' ', '\n', '\x00']) ∧ (l.tag = none → l.key.head? ≠ some '<') ∧
      (∀ v ∈ l.value, v ≠ []) ∧ ∀ v ∈ l.value, ∀ c ∈ v, c ∉ ['\n', '\x00'])
    ⟨fun ⟨a, b, c, d, e, f⟩ => ⟨a, b, c, d, e, f⟩, fun ⟨a, b, c, d, e, f⟩ => ⟨a, b, c, d, e, f⟩⟩

/-- The value `parse_item` stores for the line: the first field of its value text, if any. -/
def HostapdLine.storedValue (l : HostapdLine) : Option (List Char) :=
  l.value.bind fun v => if firstField v = [] then none else some (firstField v)

/-- The item `parse_item` builds for the line. -/
def HostapdLine.parsed (l : HostapdLine) : MmsmDataItem :=
  match l.storedValue with
  | none => mmsmDataItemAlloc.setKeyStr (String.mk l.key)
  | some v => (mmsmDataItemAlloc.setKeyStr (String.mk l.key)).setValString (String.mk v)

/-- A reply of `'\n'`-separated lines. -/
def responseText (lines : List HostapdLine) : List Char :=
  List.intercalate ['\n'] (lines.map HostapdLine.render)

/-- The same lines, each ended by `'\n'`. -/
def terminatedText (lines : List HostapdLine) : List Char :=
  (lines.map fun l => l.render ++ ['\n']).flatten

theorem responseText_concat (ls : List HostapdLine) (l : HostapdLine) :
    responseText (ls ++ [l]) = terminatedText ls ++ l.render := by
  induction ls with
  | nil => simp [responseText, terminatedText, List.intercalate]
  | cons a ls ih =>
    obtain ⟨b, bs, hb⟩ := List.exists_cons_of_ne_nil
      (by simp : (ls ++ [l]).map HostapdLine.render ≠ [])
    simp only [responseText, List.intercalate, List.cons_append, List.map_cons, hb,
      List.intersperse_cons₂, List.flatten_cons] at ih ⊢
    simp [ih, terminatedText]

theorem ne_of_isDigit {x c : Char} (hx : x.isDigit) (hc : c.isDigit = false) : x ≠ c := by
  rintro rfl; simp [hx] at hc

/-- The tag and key of a valid line hold no `=`, space, newline or `NUL`. -/
theorem HostapdLine.Valid.head_chars {l : HostapdLine} (hl : l.Valid) :
    ∀ x ∈ tagText l.tag ++ l.key, x ∉ ['=', ' ', '\n', '\x00'] := by
  intro x hx
  rcases List.mem_append.mp hx with hx | hx
  · rcases ht : l.tag with _ | d
    · simp [ht, tagText] at hx
    · simp only [ht, tagText, List.cons_append, List.mem_cons, List.mem_append,
        List.mem_singleton] at hx
      rcases hx with rfl | hx | rfl | hx
      · decide
      · have hd := hl.tag_digits d ht x hx
        simp only [List.mem_cons, List.not_mem_nil, or_false]
        rintro (rfl | rfl | rfl | rfl) <;> exact absurd hd (by decide)
      · decide
      · simp at hx
  · exact hl.key_chars x hx

/-- The first token of a valid line, its tag and key, holds no `strtok_r` delimiter. -/
theorem HostapdLine.Valid.token_chars {l : HostapdLine} (hl : l.Valid) :
    ∀ x ∈ tagText l.tag ++ l.key, x ∉ ['=', ' '] ∧ x ≠ '\x00' := fun x hx => by
  have := hl.head_chars x hx
  simp only [List.mem_cons, List.not_mem_nil, or_false, not_or] at this ⊢
  exact ⟨⟨this.1, this.2.1⟩, this.2.2.2⟩

/-- A valid line's tag skip lands on its key. -/
theorem skipTag_eq {l : HostapdLine} (hl : l.Valid) (pre rest : List Char) :
    skipTag (pre ++ tagText l.tag ++ l.key ++ rest) pre.length =
      .ok (pre.length + (tagText l.tag).length) := by
  obtain ⟨k, ks, hk⟩ := List.exists_cons_of_ne_nil hl.key_ne_nil
  rcases ht : l.tag with _ | d
  · have hk' : k ≠ '<' := by simpa [hk] using hl.untagged_key ht
    rw [skipTag, tagText, hk, List.append_nil, List.append_assoc, List.cons_append,
      getD_append_cons, if_neg hk']
    rfl
  · have hd : ∀ x ∈ '<' :: d, decide (x = '>') = false := by
      intro x hx
      rcases List.mem_cons.mp hx with rfl | hx
      · decide
      · simpa using ne_of_isDigit (hl.tag_digits d ht x hx) (c := '>') (by decide)
    have hbuf : pre ++ tagText (some d) ++ l.key ++ rest =
        pre ++ ('<' :: d) ++ '>' :: (l.key ++ rest) := by simp [tagText]
    have hget : (pre ++ ('<' :: d) ++ '>' :: (l.key ++ rest)).getD pre.length '\x00' = '<' := by
      rw [List.append_assoc, List.cons_append, getD_append_cons]
    rw [skipTag, hbuf, hget, if_pos rfl, scanFrom_eq hd (by simp)]
    simp [tagText, Functor.map, Except.map]; omega

/-- **`parse_item` on a valid line.** The item is `HostapdLine.parsed`, and the stores stay
inside the line. -/
theorem parseItem_line {l : HostapdLine} (hl : l.Valid) (pre after : List Char) :
    ∃ w, w.length = l.render.length ∧
      parseItem (pre ++ l.render ++ '\x00' :: after) pre.length mmsmDataItemAlloc =
        .ok (pre ++ w ++ '\x00' :: after, some l.parsed) := by
  have hT := hl.token_chars
  have hTne : tagText l.tag ++ l.key ≠ [] := by simp [hl.key_ne_nil]
  have hkey : '\x00' ∉ l.key := fun h => by simpa using hl.key_chars _ h
  have hkeyAt := fun rest => @cStringAt_eq (pre ++ tagText l.tag) _ rest hkey
  rcases hv : l.value with _ | v
  · have ht : strtokR ['=', ' '] (pre ++ l.render ++ '\x00' :: after) pre.length =
        .ok (some pre.length, pre ++ l.render ++ '\x00' :: after,
          pre.length + (tagText l.tag ++ l.key).length) := by
      simpa [HostapdLine.render, hv, valueText] using
        @strtokR_token _ pre [] _ after _ (by simp) hT hTne (Or.inr rfl)
    have hbuf : pre ++ l.render ++ '\x00' :: after = pre ++ tagText l.tag ++ l.key ++ '\x00' :: after := by
      simp [HostapdLine.render, hv, valueText]
    refine ⟨l.render, rfl, ?_⟩
    rw [parseItem, ht]
    simp only [bind, Except.bind]
    rw [hbuf, skipTag_eq hl]
    simp only [bind, Except.bind]
    rw [← List.length_append, hkeyAt]
    simp only [bind, Except.bind]
    rw [show pre.length + (tagText l.tag ++ l.key).length = (pre ++ tagText l.tag ++ l.key).length
      by simp [Nat.add_assoc], strtokR_at_nul (by simp)]
    simp [HostapdLine.parsed, HostapdLine.storedValue, hv, pure, Except.pure]
  · have hv' : '\x00' ∉ v := fun h => by simpa using hl.value_chars v hv _ h
    have ht : strtokR ['=', ' '] (pre ++ l.render ++ '\x00' :: after) pre.length =
        .ok (some pre.length, pre ++ tagText l.tag ++ l.key ++ '\x00' :: (v ++ '\x00' :: after),
          (pre ++ tagText l.tag ++ l.key ++ ['\x00']).length) := by
      simpa [HostapdLine.render, hv, valueText, Nat.add_assoc] using
        @strtokR_token _ pre [] _ (v ++ '\x00' :: after) _ (by simp) hT hTne
          (Or.inl (List.mem_cons_self _ _))
    have hbuf : ∀ w, pre ++ tagText l.tag ++ l.key ++ '\x00' :: (w ++ '\x00' :: after) =
        pre ++ tagText l.tag ++ l.key ++ ['\x00'] ++ w ++ '\x00' :: after := by simp
    rw [parseItem, ht]
    simp only [bind, Except.bind]
    rw [skipTag_eq hl]
    simp only [bind, Except.bind]
    rw [← List.length_append, hkeyAt]
    simp only [bind, Except.bind]
    by_cases hf : firstField v = []
    · refine ⟨tagText l.tag ++ l.key ++ '\x00' :: v, by simp [HostapdLine.render, hv, valueText], ?_⟩
      rw [hbuf, strtokR_firstField_nil hf]
      simp [HostapdLine.parsed, HostapdLine.storedValue, hv, hf, pure, Except.pure]
    · obtain ⟨w, q, save, hw, hs, hq⟩ := @strtokR_firstField_cons
        (pre ++ tagText l.tag ++ l.key ++ ['\x00']) _ after hv' hf
      refine ⟨tagText l.tag ++ l.key ++ '\x00' :: w, by simp [HostapdLine.render, hv, valueText, hw], ?_⟩
      rw [hbuf, hs]
      simp only [bind, Except.bind]
      rw [hq]
      simp [HostapdLine.parsed, HostapdLine.storedValue, hv, hf, pure, Except.pure]

/-! ## §5 — `parse_output`, line by line -/

/-- A valid line holds no newline or `NUL`. -/
theorem HostapdLine.Valid.render_chars {l : HostapdLine} (hl : l.Valid) :
    ∀ x ∈ l.render, x ∉ ['\n'] ∧ x ≠ '\x00' := by
  intro x hx
  rcases List.mem_append.mp hx with hx | hx
  · have := hl.head_chars x hx
    simp only [List.mem_cons, List.not_mem_nil, or_false, not_or] at this ⊢
    exact ⟨this.2.2.1, this.2.2.2⟩
  · rcases hv : l.value with _ | v
    · simp [hv, valueText] at hx
    · simp only [hv, valueText, List.mem_cons] at hx
      rcases hx with rfl | hx
      · decide
      · simpa using hl.value_chars v hv x hx

/-- One turn of the loop on a valid line ended by `'\n'` or the `NUL`: its item is appended,
and the rest of the buffer is as it was. -/
theorem parseOutputFrom_line {l : HostapdLine} (hl : l.Valid) {c : Char}
    (hc : c = '\n' ∨ c = '\x00') (pre after : List Char) (head : List MmsmDataItem) (fuel : Nat) :
    ∃ w, w.length = l.render.length ∧
      parseOutputFrom (pre ++ l.render ++ c :: after) pre.length head (fuel + 1) =
        parseOutputFrom (pre ++ w ++ '\x00' :: after)
          (pre.length + l.render.length + if c = '\x00' then 0 else 1) (head ++ [l.parsed]) fuel := by
  have ht := @strtokR_token _ pre [] _ after _ (by simp) hl.render_chars
    (by simp [HostapdLine.render, hl.key_ne_nil]) (hc.imp_left fun h => by simp [h])
  simp only [List.append_nil, List.length_nil, Nat.add_zero] at ht
  obtain ⟨w, hw, hi⟩ := parseItem_line hl pre after
  refine ⟨w, hw, ?_⟩
  rw [parseOutputFrom, ht]
  simp only [bind, Except.bind]
  rw [hi]

/-- The loop on `'\n'`s up to the `NUL` ends with the chain built so far. -/
theorem parseOutputFrom_end {pre nls after : List Char} (hnls : ∀ x ∈ nls, x = '\n')
    (head : List MmsmDataItem) (fuel : Nat) :
    parseOutputFrom (pre ++ nls ++ '\x00' :: after) pre.length head (fuel + 1) = .ok (some head) := by
  rw [parseOutputFrom, strtokR_none (by simp) (by simpa using hnls)]
  rfl

/-- **Run of the loop.** Over valid lines, each ended by `'\n'`, the loop appends their items in
order and leaves the rest of the buffer as it was. -/
theorem parseOutputFrom_terminated (rest : List Char) :
    ∀ (lines : List HostapdLine), (∀ l ∈ lines, l.Valid) →
      ∀ (pre : List Char) (head : List MmsmDataItem) (fuel : Nat), ∃ pre' : List Char,
        pre'.length = pre.length + (terminatedText lines).length ∧
        parseOutputFrom (pre ++ terminatedText lines ++ rest) pre.length head (lines.length + fuel) =
          parseOutputFrom (pre' ++ rest) pre'.length (head ++ lines.map HostapdLine.parsed) fuel
  | [], _, pre, head, fuel => ⟨pre, by simp [terminatedText]⟩
  | l :: ls, hv, pre, head, fuel => by
    have hl := hv l (List.mem_cons_self _ _)
    obtain ⟨w, hw, hstep⟩ := parseOutputFrom_line hl (Or.inl rfl) pre (terminatedText ls ++ rest)
      head (ls.length + fuel)
    obtain ⟨pre', hpre', hrun⟩ := parseOutputFrom_terminated rest ls
      (fun l hl => hv l (List.mem_cons_of_mem _ hl)) (pre ++ w ++ ['\x00']) (head ++ [l.parsed]) fuel
    refine ⟨pre', by simp [hpre', hw, terminatedText]; omega, ?_⟩
    have hbuf : pre ++ terminatedText (l :: ls) ++ rest =
        pre ++ l.render ++ '\n' :: (terminatedText ls ++ rest) := by simp [terminatedText]
    rw [hbuf, List.length_cons, Nat.add_right_comm, hstep]
    simpa [hw, Nat.add_assoc] using hrun

theorem length_le_terminatedText (lines : List HostapdLine) :
    lines.length ≤ (terminatedText lines).length := by
  induction lines with
  | nil => simp [terminatedText]
  | cons l ls ih =>
    simp only [terminatedText, List.map_cons, List.flatten_cons, List.length_append,
      List.length_singleton, List.length_cons] at ih ⊢
    omega

theorem firstField_of_not_mem {v : List Char} (hv : '=' ∉ v) : firstField v = v := by
  have hdrop : v.dropWhile (· = '=') = v := by
    cases v with
    | nil => rfl
    | cons x xs =>
      exact List.dropWhile_cons_of_neg (by
        simp only [decide_eq_true_eq]; rintro rfl; exact hv (List.mem_cons_self _ _))
  rw [firstField, hdrop, List.takeWhile_eq_self_iff]
  intro x hx; simpa using ne_of_mem_of_not_mem hx hv

/-- The stored value is the line's value text exactly when that text holds no `=`. -/
theorem HostapdLine.Valid.storedValue_eq_iff {l : HostapdLine} (hl : l.Valid) :
    l.storedValue = l.value ↔ ∀ v ∈ l.value, '=' ∉ v := by
  rcases hv : l.value with _ | v
  · simp [HostapdLine.storedValue, hv]
  · simp only [HostapdLine.storedValue, hv, Option.some_bind, Option.mem_def, Option.some.injEq,
      forall_eq']
    by_cases hf : firstField v = []
    · rw [if_pos hf]
      refine ⟨fun h => absurd h (by simp), fun h => absurd ?_ (hl.value_ne_nil v hv)⟩
      rw [← firstField_of_not_mem h, hf]
    · rw [if_neg hf, Option.some.injEq]
      refine ⟨fun h hmem => ?_, fun h => firstField_of_not_mem h⟩
      rw [← h] at hmem
      simpa using List.mem_takeWhile_imp hmem

/-- **The reply parser on well-formed replies.** A reply of valid lines, separated by `'\n'` and
followed by any newlines and the `NUL`, parses to one item per line, in order: the line's key,
and as value the first field of its value text — which is that text exactly when it holds no
`=`. -/
theorem parseOutput_response_lines (lines : List HostapdLine) (hv : ∀ l ∈ lines, l.Valid)
    (nls rest : List Char) (hnls : ∀ x ∈ nls, x = '\n') :
    parseOutput (responseText lines ++ nls ++ '\x00' :: rest) =
        .ok (some (lines.map HostapdLine.parsed)) ∧
      ∀ l ∈ lines, (l.storedValue = l.value ↔ ∀ v ∈ l.value, '=' ∉ v) := by
  refine ⟨?_, fun l hl => (hv l hl).storedValue_eq_iff⟩
  rcases List.eq_nil_or_concat lines with rfl | ⟨ls, l, rfl⟩
  · simpa [parseOutput, responseText, List.intercalate] using
      @parseOutputFrom_end [] _ _ hnls [] _
  rw [List.concat_eq_append] at hv ⊢
  have hl := hv l (by simp)
  have hbuf : responseText (ls ++ [l]) ++ nls ++ '\x00' :: rest =
      [] ++ terminatedText ls ++ (l.render ++ nls ++ '\x00' :: rest) := by
    rw [responseText_concat]; simp
  have hlen : ls.length + 2 ≤ (responseText (ls ++ [l]) ++ nls ++ '\x00' :: rest).length + 1 := by
    have := length_le_terminatedText ls
    have := List.length_pos.mpr hl.key_ne_nil
    rw [hbuf]
    simp only [HostapdLine.render, List.length_append, List.length_nil, List.length_cons]
    omega
  obtain ⟨f, hf⟩ := Nat.exists_eq_add_of_le hlen
  obtain ⟨pre', -, hrun⟩ := parseOutputFrom_terminated (l.render ++ nls ++ '\x00' :: rest) ls
    (fun l hl => hv l (by simp [hl])) [] [] (f + 2)
  rw [parseOutput, hf, show ls.length + 2 + f = ls.length + (f + 2) by omega, hbuf]
  refine hrun.trans ?_
  rcases nls with _ | ⟨n, nls⟩
  · obtain ⟨w, hw, hstep⟩ := parseOutputFrom_line hl (Or.inr rfl) pre' rest
      ([] ++ ls.map HostapdLine.parsed) (f + 1)
    rw [show pre' ++ (l.render ++ [] ++ '\x00' :: rest) = pre' ++ l.render ++ '\x00' :: rest by simp,
      hstep, if_pos rfl, Nat.add_zero, ← hw, ← List.length_append]
    have hend := @parseOutputFrom_end (pre' ++ w) [] rest (by simp)
      ([] ++ ls.map HostapdLine.parsed ++ [l.parsed]) f
    rw [List.append_nil] at hend
    rw [hend]; simp
  · have hn : n = '\n' := hnls n (List.mem_cons_self _ _)
    subst hn
    obtain ⟨w, hw, hstep⟩ := parseOutputFrom_line hl (Or.inl rfl) pre' (nls ++ '\x00' :: rest)
      ([] ++ ls.map HostapdLine.parsed) (f + 1)
    rw [show pre' ++ (l.render ++ '\n' :: nls ++ '\x00' :: rest) =
        pre' ++ l.render ++ '\n' :: (nls ++ '\x00' :: rest) by simp,
      hstep, if_neg (by decide), ← hw,
      show pre' ++ w ++ '\x00' :: (nls ++ '\x00' :: rest) = pre' ++ w ++ ['\x00'] ++ nls ++ '\x00' :: rest
        by simp, show pre'.length + w.length + 1 = (pre' ++ w ++ ['\x00']).length by
        simp only [List.length_append, List.length_singleton],
      parseOutputFrom_end (fun x hx => hnls x (List.mem_cons_of_mem _ hx))]
    simp

theorem parseOutput_response_lines_ssid :
    HostapdLine.Valid ⟨none, ['s', 's', 'i', 'd'], some ['a', '=', 'b']⟩ ∧
      HostapdLine.storedValue ⟨none, ['s', 's', 'i', 'd'], some ['a', '=', 'b']⟩ = some ['a'] ∧
      parseOutput (responseText [⟨none, ['s', 's', 'i', 'd'], some ['a', '=', 'b']⟩] ++ ['\n'] ++
        ['\x00']) = .ok (some [HostapdLine.parsed ⟨none, ['s', 's', 'i', 'd'], some ['a', '=', 'b']⟩]) :=
  ⟨by decide, by decide,
    (parseOutput_response_lines [⟨none, ['s', 's', 'i', 'd'], some ['a', '=', 'b']⟩] (by decide)
      ['\n'] [] (by decide)).1⟩

/-! ## §6 — what the parser does with other replies -/

/-- The line `<t` of an unclosed tag holds no delimiter of either `strtok_r` and no `NUL`. -/
theorem tagLine_chars (delim : List Char) {t : List Char}
    (ht : ∀ x ∈ t, x ∉ ['>', '=', ' ', '\n', '\x00']) (hd : ∀ c ∈ delim, c ∈ ['=', ' ', '\n']) :
    ∀ x ∈ '<' :: t, x ∉ delim ∧ x ≠ '\x00' := by
  have hx : ∀ x ∈ '<' :: t, x ∉ ['>', '=', ' ', '\n', '\x00'] :=
    List.forall_mem_cons.mpr ⟨by decide, ht⟩
  refine fun x h => ⟨fun hxd => hx x h ?_, fun e => hx x h (by simp [e])⟩
  have := hd x hxd
  simp only [List.mem_cons, List.not_mem_nil, or_false] at this ⊢
  tauto

/-- From `<` to the end of `r`, the text of an unclosed tag holds no `>`. -/
theorem unclosedTag_no_gt {t r : List Char} (ht : ∀ x ∈ t, x ∉ ['>', '=', ' ', '\n', '\x00'])
    (hr : '>' ∉ r) : ∀ x ∈ '<' :: t ++ '\x00' :: r, decide (x = '>') = false := by
  intro x h
  simp only [List.cons_append, List.mem_cons, List.mem_append] at h
  rcases h with rfl | h | rfl | h
  · decide
  · simpa using fun e => ht x h (by simp [e])
  · decide
  · simpa using fun (e : x = '>') => hr (e ▸ h)

/-- A line `<t` whose tag has no `>`: the skip runs over the line's `NUL` to the next `>`, and
the key is the string after it. -/
theorem parseOutputFrom_unclosed_tag {t r k : List Char}
    (ht : ∀ x ∈ t, x ∉ ['>', '=', ' ', '\n', '\x00']) (hr : '>' ∉ r) (hk : '\x00' ∉ k)
    (pre rest : List Char) (head : List MmsmDataItem) (fuel : Nat) :
    parseOutputFrom (pre ++ '<' :: t ++ '\x00' :: (r ++ '>' :: k ++ '\x00' :: rest)) pre.length head
      (fuel + 2) = .ok (some (head ++ [mmsmDataItemAlloc.setKeyStr (String.mk k)])) := by
  have hline := tagLine_chars ['\n'] ht (by decide)
  have hword := tagLine_chars ['=', ' '] ht (by decide)
  generalize hB : pre ++ '<' :: t ++ '\x00' :: (r ++ '>' :: k ++ '\x00' :: rest) = B
  have hskip : skipTag B pre.length = .ok (pre ++ '<' :: t ++ '\x00' :: r ++ ['>']).length := by
    have hget : B.getD pre.length '\x00' = '<' := by
      rw [← hB, List.append_assoc, List.cons_append, getD_append_cons]
    have hscan : scanFrom (· = '>') B pre.length = .ok (pre.length + ('<' :: t ++ '\x00' :: r).length) := by
      rw [show B = pre ++ ('<' :: t ++ '\x00' :: r) ++ '>' :: (k ++ '\x00' :: rest) by rw [← hB]; simp]
      exact scanFrom_eq (unclosedTag_no_gt ht hr) (by simp)
    rw [skipTag, hget, if_pos rfl, hscan]
    simp [Functor.map, Except.map]; omega
  have hkey : cStringAt B (pre ++ '<' :: t ++ '\x00' :: r ++ ['>']).length = .ok k := by
    rw [show B = pre ++ '<' :: t ++ '\x00' :: r ++ ['>'] ++ k ++ '\x00' :: rest by rw [← hB]; simp]
    exact cStringAt_eq hk
  have hnul := @strtokR_at_nul ['='] (by simp) (pre ++ '<' :: t) (r ++ '>' :: k ++ '\x00' :: rest)
  have hnul' := @strtokR_at_nul ['\n'] (by simp) (pre ++ '<' :: t) (r ++ '>' :: k ++ '\x00' :: rest)
  rw [hB] at hnul hnul'
  rw [← hB, parseOutputFrom, strtokR_token_here hline (List.cons_ne_nil _ _) (Or.inr rfl), hB]
  simp only [bind, Except.bind, if_pos, Nat.add_zero]
  rw [parseItem, ← hB, strtokR_token_here hword (List.cons_ne_nil _ _) (Or.inr rfl), hB]
  simp only [bind, Except.bind, if_pos, Nat.add_zero]
  rw [hskip]
  simp only [bind, Except.bind]
  rw [hkey]
  simp only [bind, Except.bind]
  rw [← List.length_append, hnul]
  simp only [bind, Except.bind, pure, Except.pure]
  rw [parseOutputFrom, hnul']
  rfl

/-- The same line with no `>` anywhere after it: the skip leaves the array. -/
theorem parseOutputFrom_unclosed_tag_outOfBounds {t r : List Char}
    (ht : ∀ x ∈ t, x ∉ ['>', '=', ' ', '\n', '\x00']) (hr : '>' ∉ r)
    (pre : List Char) (head : List MmsmDataItem) (fuel : Nat) :
    parseOutputFrom (pre ++ '<' :: t ++ '\x00' :: r) pre.length head (fuel + 1) =
      .error (.outOfBounds (pre ++ '<' :: t ++ '\x00' :: r).length) := by
  have hline := tagLine_chars ['\n'] ht (by decide)
  have hword := tagLine_chars ['=', ' '] ht (by decide)
  generalize hB : pre ++ '<' :: t ++ '\x00' :: r = B
  have hskip : skipTag B pre.length = .error (.outOfBounds B.length) := by
    have hget : B.getD pre.length '\x00' = '<' := by
      rw [← hB, List.append_assoc, List.cons_append, getD_append_cons]
    have hscan : scanFrom (· = '>') B pre.length = .error (.outOfBounds B.length) := by
      rw [show B = pre ++ ('<' :: t ++ '\x00' :: r) by rw [← hB]; simp]
      exact scanFrom_outOfBounds (unclosedTag_no_gt ht hr)
    rw [skipTag, hget, if_pos rfl, hscan]
    rfl
  rw [← hB, parseOutputFrom, strtokR_token_here hline (List.cons_ne_nil _ _) (Or.inr rfl), hB]
  simp only [bind, Except.bind, if_pos, Nat.add_zero]
  rw [parseItem, ← hB, strtokR_token_here hword (List.cons_ne_nil _ _) (Or.inr rfl), hB]
  simp only [bind, Except.bind, if_pos, Nat.add_zero]
  rw [hskip]

/-- A line of spaces and `=` only: `parse_item` finds no token, and the reply is `NULL`. -/
theorem parseOutputFrom_blank_line {bad : List Char} (hne : bad ≠ [])
    (hbad : ∀ x ∈ bad, x = ' ' ∨ x = '=') {c : Char} (hc : c = '\n' ∨ c = '\x00')
    (pre after : List Char) (head : List MmsmDataItem) (fuel : Nat) :
    parseOutputFrom (pre ++ bad ++ c :: after) pre.length head (fuel + 1) = .ok none := by
  have hline : ∀ x ∈ bad, x ∉ ['\n'] ∧ x ≠ '\x00' := fun x h => by
    rcases hbad x h with rfl | rfl <;> decide
  rw [parseOutputFrom, strtokR_token_here hline hne (hc.imp_left fun h => by simp [h])]
  simp only [bind, Except.bind]
  rw [parseItem, strtokR_none (by simp) (fun x h => by rcases hbad x h with rfl | rfl <;> simp)]
  rfl

/-- `parse_output` on valid lines ended by `'\n'`, then anything: it reaches what follows them
with their items and enough fuel for the rest of the buffer. -/
theorem parseOutput_terminated (lines : List HostapdLine) (hv : ∀ l ∈ lines, l.Valid)
    (tail : List Char) :
    ∃ pre' fuel, pre'.length = (terminatedText lines).length ∧ tail.length < fuel ∧
      parseOutput (terminatedText lines ++ tail) =
        parseOutputFrom (pre' ++ tail) pre'.length (lines.map HostapdLine.parsed) fuel := by
  obtain ⟨pre', hpre', hrun⟩ := parseOutputFrom_terminated tail lines hv [] []
    (tail.length + 1 + ((terminatedText lines).length - lines.length))
  have := length_le_terminatedText lines
  refine ⟨pre', _, by simpa using hpre', by omega, Eq.trans ?_ hrun⟩
  rw [parseOutput, List.length_append, List.nil_append]
  congr 1; omega

/-- **Reads past the reply, and replies dropped whole.** After any valid lines: a line `<t`
whose tag has no `>` sends the tag skip over the reply's terminating `NUL`, so the last item's
key is the string after the next `>` beyond it, or the skip leaves the array; and a line of
spaces and `=` only makes the whole reply `NULL`. -/
theorem parseOutput_overrun_or_dropped :
    (∀ (lines : List HostapdLine) (t r k rest : List Char), (∀ l ∈ lines, l.Valid) →
      (∀ x ∈ t, x ∉ ['>', '=', ' ', '\n', '\x00']) → '>' ∉ r → '\x00' ∉ k →
      parseOutput (terminatedText lines ++ '<' :: t ++ '\x00' :: (r ++ '>' :: k ++ '\x00' :: rest)) =
        .ok (some (lines.map HostapdLine.parsed ++ [mmsmDataItemAlloc.setKeyStr (String.mk k)]))) ∧
    (∀ (lines : List HostapdLine) (t r : List Char), (∀ l ∈ lines, l.Valid) →
      (∀ x ∈ t, x ∉ ['>', '=', ' ', '\n', '\x00']) → '>' ∉ r →
      parseOutput (terminatedText lines ++ '<' :: t ++ '\x00' :: r) =
        .error (.outOfBounds (terminatedText lines ++ '<' :: t ++ '\x00' :: r).length)) ∧
    (∀ (lines : List HostapdLine) (bad : List Char) (c : Char) (rest : List Char),
      (∀ l ∈ lines, l.Valid) → bad ≠ [] → (∀ x ∈ bad, x = ' ' ∨ x = '=') →
      (c = '\n' ∨ c = '\x00') → parseOutput (terminatedText lines ++ bad ++ c :: rest) = .ok none) := by
  refine ⟨fun lines t r k rest hv ht hr hk => ?_, fun lines t r hv ht hr => ?_,
    fun lines bad c rest hv hne hbad hc => ?_⟩
  · obtain ⟨pre', fuel, -, hfuel, h⟩ :=
      parseOutput_terminated lines hv ('<' :: t ++ '\x00' :: (r ++ '>' :: k ++ '\x00' :: rest))
    obtain ⟨f, rfl⟩ : ∃ f, fuel = f + 2 := ⟨fuel - 2, by simp at hfuel; omega⟩
    rw [List.append_assoc, h, ← List.append_assoc, parseOutputFrom_unclosed_tag ht hr hk]
  · obtain ⟨pre', fuel, hpre', hfuel, h⟩ := parseOutput_terminated lines hv ('<' :: t ++ '\x00' :: r)
    obtain ⟨f, rfl⟩ : ∃ f, fuel = f + 1 := ⟨fuel - 1, by simp at hfuel; omega⟩
    rw [List.append_assoc, h, ← List.append_assoc, parseOutputFrom_unclosed_tag_outOfBounds ht hr]
    simp [hpre']
  · obtain ⟨pre', fuel, -, hfuel, h⟩ := parseOutput_terminated lines hv (bad ++ c :: rest)
    obtain ⟨f, rfl⟩ : ∃ f, fuel = f + 1 := ⟨fuel - 1, by omega⟩
    rw [List.append_assoc, h, ← List.append_assoc, parseOutputFrom_blank_line hne hbad hc]

theorem parseOutput_unclosed_tag_blank_line :
    parseOutput (terminatedText [] ++ '<' :: ['1'] ++ '\x00' :: ([] ++ '>' :: ['k'] ++ '\x00' :: [])) =
        .ok (some (([] : List HostapdLine).map HostapdLine.parsed ++
          [mmsmDataItemAlloc.setKeyStr (String.mk ['k'])])) ∧
      parseOutput (terminatedText [] ++ '<' :: ['1'] ++ '\x00' :: []) =
        .error (.outOfBounds (terminatedText [] ++ '<' :: ['1'] ++ '\x00' :: []).length) ∧
      parseOutput (terminatedText [⟨none, ['o', 'k'], none⟩] ++ [' '] ++ '\n' :: ['a', '=', '1', '\x00']) =
        .ok none :=
  ⟨parseOutput_overrun_or_dropped.1 [] ['1'] [] ['k'] [] (by decide) (by decide) (by decide)
      (by decide),
    parseOutput_overrun_or_dropped.2.1 [] ['1'] [] (by decide) (by decide) (by decide),
    parseOutput_overrun_or_dropped.2.2 [⟨none, ['o', 'k'], none⟩] [' '] '\n' ['a', '=', '1', '\x00']
      (by decide) (by decide) (by decide) (by decide)⟩

/-! ## §7 — `backend_hostapd_ctrl_command` -/

/-- `sizeof(out_buf)`. -/
def outBufSize : Nat := 2048

/-- What `wpa_ctrl_request` leaves to its caller: its return value, the reply bytes written at the
start of `out_buf`, and `out_buf_len` (still `sizeof(out_buf) - 1` when it fails before a
reply). -/
structure WpaCtrlRequest where
  ret : Int
  reply : List Char
  replyLen : Nat

/-- A store of one character into the array, or a fault outside it. -/
def storeChar (buf : List Char) (i : Nat) (c : Char) : Except CFault (List Char) :=
  if i < buf.length then .ok (buf.set i c) else .error (.outOfBounds i)

/-- `out_buf` after a reply: the reply's bytes over the indeterminate content, and
`out_buf[out_buf_len] = 0`. -/
def outBufWith (undef : Fin outBufSize → Char) (reply : List Char) (len : Nat) :
    Except CFault (List Char) :=
  storeChar ((reply ++ (List.ofFn undef).drop reply.length).take outBufSize) len '\x00'

/-- `backend_hostapd_ctrl_command` once the request is sent (`opened` is `wpa_ctrl_open`'s
success; `undef` the indeterminate content of `out_buf`): the code it returns, and what it
writes to `*result` (`none` when it writes nothing).  It parses the buffer whatever
`wpa_ctrl_request` returned. -/
def backendHostapdCtrlCommand (undef : Fin outBufSize → Char) (opened : Bool)
    (req : WpaCtrlRequest) : Except CFault (MmsmErrorCode × Option (Option (List MmsmDataItem))) := do
  if !opened then return (.unknownError, none)
  let outBuf ← outBufWith undef req.reply req.replyLen
  let result ← parseOutput outBuf
  return (if req.ret = 0 then .success else .unknownError, some result)

end SmartManager.Backend
