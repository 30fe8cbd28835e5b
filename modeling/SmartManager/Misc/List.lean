/-
# `SmartManager.Misc.List` — the intrusive ring of `misc/list.c` and `include/list.h`

A list is a `list_head_t` whose `next` and `prev` pointers close a ring through the
`list_entry_t` fields embedded in the items.  Memory is modelled as the two pointer fields at
every address (`ListMem`), and `list_add`, `list_add_tail`, `list_add_head`, `list_reset` and
`list_remove` update them in the order `list.c` writes them.  The loops of `list_size`,
`list_for_each_entry` and `list_for_each_entry_safe` walk the pointers with a fuel bound, so a
walk that never returns to the head is `none` rather than a non-terminating definition.  Heads
are never `NULL` here (`list_is_empty`'s `NULL` test is the only place the code allows one).

The abstract model is the `List` of entry addresses in ring order.  `Ring m head L` says that
the pointers of `m` form the ring `head, L…, head`: distinct addresses, each `next` pointing to
the following address and each `prev` back to the preceding one.  Each operation keeps a ring
and moves its view as the abstract operation does (`Ring.addTail`, `Ring.addHead`,
`Ring.remove`), under the contract of `list.h`: an added entry is in no list, a removed entry is
in this one.  By induction every run of operations does (`listRun_ring`), and on a ring the walks
see exactly the view: `list_for_each_entry` visits it and comes back to the head, `list_size` is
its length, `list_is_empty` tests it for `[]`, and `list_for_each_entry_safe` visits every entry
once even when its body removes the entry it is at (`listForEachEntrySafe_ring`).

§6 says which pointers each operation writes (`ListMem.AgreeOff`): the added entry, the head and
its last entry for `list_add_tail`, the two neighbours for `list_remove`, the ring itself for
`list_for_each_entry_safe`.  A ring none of whose addresses is written survives (`Ring.frame`), so
several lists can share one memory, as the buckets of `hashmap.h` do.
-/
import Mathlib.Data.List.Chain
import Mathlib.Data.List.Nodup

namespace SmartManager.Misc

/-! ## §1 — pointers in memory and the operations of `list.c` -/

/-- The `next` and `prev` fields of the `list_entry_t` at every address. -/
structure ListMem where
  next : Nat → Nat
  prev : Nat → Nat

/-- `a->next = v`. -/
def ListMem.setNext (m : ListMem) (a v : Nat) : ListMem :=
  { m with next := Function.update m.next a v }

/-- `a->prev = v`. -/
def ListMem.setPrev (m : ListMem) (a v : Nat) : ListMem :=
  { m with prev := Function.update m.prev a v }

/-- `list_add(item, prev, next)`: `item->prev`, `item->next`, `prev->next`, `next->prev`, in
this order. -/
def listAdd (m : ListMem) (item prev next : Nat) : ListMem :=
  (((m.setPrev item prev).setNext item next).setNext prev item).setPrev next item

/-- `list_add_tail(head, item)`. -/
def listAddTail (m : ListMem) (head item : Nat) : ListMem := listAdd m item (m.prev head) head

/-- `list_add_head(head, item)`. -/
def listAddHead (m : ListMem) (head item : Nat) : ListMem := listAdd m item head (m.next head)

/-- `list_reset(head)`. -/
def listReset (m : ListMem) (head : Nat) : ListMem := (m.setNext head head).setPrev head head

/-- `list_is_empty(head)` for a head that is not `NULL`. -/
def listIsEmpty (m : ListMem) (head : Nat) : Bool := m.next head == head

/-- `list_is_end(head, item)`. -/
def listIsEnd (m : ListMem) (head item : Nat) : Bool := m.next item == head

/-- `list_remove(item)`: unlink `item` unless it points to itself; its own pointers are left
as they were. -/
def listRemove (m : ListMem) (item : Nat) : ListMem :=
  let prev := m.prev item
  let next := m.next item
  if listIsEmpty m item then m else (m.setNext prev next).setPrev next prev

/-- `list_get_next_item_or_null(item, head, …)`: the entry after `item`, `NULL` at the end. -/
def listGetNextItemOrNull (m : ListMem) (head item : Nat) : Option Nat :=
  if listIsEnd m head item then none else some (m.next item)

/-- `list_for_each_entry(pos, head)` from `pos`: the entries the loop body is run on, in order;
`none` when `fuel` iterations do not bring `pos` back to `head`. -/
def listForEachEntry (m : ListMem) (head : Nat) : Nat → Nat → Option (List Nat)
  | 0, _ => none
  | fuel + 1, pos =>
    if pos = head then some [] else (listForEachEntry m head fuel (m.next pos)).map (pos :: ·)

/-- `list_size(head)`: one count per iteration of `list_for_each_entry`. -/
def listSize (m : ListMem) (head fuel : Nat) : Option Nat :=
  (listForEachEntry m head fuel (m.next head)).map List.length

/-- `list_for_each_entry_safe(pos, tmp, head)` whose body calls `list_remove(pos)` exactly when
`del pos`: `tmp` is read before the body and becomes the next `pos`.  The result is the entries
visited and the memory the loop leaves. -/
def listForEachEntrySafe (head : Nat) (del : Nat → Bool) :
    Nat → ListMem → Nat → Nat → Option (List Nat × ListMem)
  | 0, _, _, _ => none
  | fuel + 1, m, pos, tmp =>
    if pos = head then some ([], m)
    else
      let m := if del pos then listRemove m pos else m
      (listForEachEntrySafe head del fuel m tmp (m.next tmp)).map fun r => (pos :: r.1, r.2)

@[simp] theorem ListMem.setNext_next (m : ListMem) (a v x : Nat) :
    (m.setNext a v).next x = if x = a then v else m.next x := Function.update_apply _ _ _ _

@[simp] theorem ListMem.setNext_prev (m : ListMem) (a v : Nat) : (m.setNext a v).prev = m.prev :=
  rfl

@[simp] theorem ListMem.setPrev_prev (m : ListMem) (a v x : Nat) :
    (m.setPrev a v).prev x = if x = a then v else m.prev x := Function.update_apply _ _ _ _

@[simp] theorem ListMem.setPrev_next (m : ListMem) (a v : Nat) : (m.setPrev a v).next = m.next :=
  rfl

@[simp] theorem listAdd_next (m : ListMem) (item prev next x : Nat) :
    (listAdd m item prev next).next x =
      if x = prev then item else if x = item then next else m.next x := by
  simp only [listAdd, ListMem.setPrev_next, ListMem.setNext_next]

@[simp] theorem listAdd_prev (m : ListMem) (item prev next x : Nat) :
    (listAdd m item prev next).prev x =
      if x = next then item else if x = item then prev else m.prev x := by
  simp only [listAdd, ListMem.setPrev_prev, ListMem.setNext_prev]

/-! ## §2 — the ring and what each operation does to it -/

/-- `x->next == y` and `y->prev == x`. -/
def Link (m : ListMem) (x y : Nat) : Prop := m.next x = y ∧ m.prev y = x

/-- **The invariant of a list head**: the addresses `head, L…` are distinct, and along
`head, L…, head` every `next` points to the following address and every `prev` back. -/
structure Ring (m : ListMem) (head : Nat) (L : List Nat) : Prop where
  nodup : (head :: L).Nodup
  chain : (head :: L ++ [head]).Chain' (Link m)

/-- A chain of links survives updates of the pointers it does not read: the `next` of every
address but the last, the `prev` of every address but the first. -/
theorem chain'_link_frame {m m' : ListMem} : ∀ {l : List Nat}, l.Chain' (Link m) →
    (∀ x ∈ l.dropLast, m'.next x = m.next x) → (∀ y ∈ l.tail, m'.prev y = m.prev y) →
    l.Chain' (Link m')
  | [], _, _, _ => List.chain'_nil
  | [_], _, _, _ => List.chain'_singleton _
  | a :: b :: l, h, hn, hp => by
    rw [List.dropLast_cons₂] at hn
    rw [List.chain'_cons] at h ⊢
    refine ⟨⟨(hn a (List.mem_cons_self _ _)).trans h.1.1,
      (hp b (List.mem_cons_self _ _)).trans h.1.2⟩, chain'_link_frame h.2
      (fun x hx => hn x (List.mem_cons_of_mem _ hx))
      (fun y hy => hp y (List.mem_cons_of_mem _ hy))⟩

/-- Along a chain, `prev` undoes `next` and `next` undoes `prev`. -/
theorem chain'_link_inverse {m : ListMem} : ∀ {l : List Nat}, l.Chain' (Link m) →
    (∀ x ∈ l.dropLast, m.prev (m.next x) = x) ∧ (∀ y ∈ l.tail, m.next (m.prev y) = y)
  | [], _ => ⟨by simp, by simp⟩
  | [_], _ => ⟨by simp, by simp⟩
  | a :: b :: l, h => by
    rw [List.chain'_cons] at h
    obtain ⟨hn, hp⟩ := chain'_link_inverse h.2
    rw [List.dropLast_cons₂, List.tail_cons]
    refine ⟨List.forall_mem_cons.2 ⟨by rw [h.1.1, h.1.2], hn⟩,
      List.forall_mem_cons.2 ⟨by rw [h.1.2, h.1.1], fun y hy => hp y hy⟩⟩

/-- `head->next` is the first entry, or `head` itself on an empty ring. -/
theorem Ring.next_head {m : ListMem} {head : Nat} {L : List Nat} (h : Ring m head L) :
    m.next head = L.headD head := by
  have hc := h.chain
  cases L with
  | nil => exact (List.chain'_pair.1 hc).1
  | cons x L => exact (List.chain'_cons.1 hc).1.1

/-- The `next` of an entry is the entry after it, or the head after the last. -/
theorem Ring.next_entry {m : ListMem} {head : Nat} {K R : List Nat} {x : Nat}
    (h : Ring m head (K ++ x :: R)) : m.next x = R.headD head := by
  have hc := h.chain
  rw [show head :: (K ++ x :: R) ++ [head] = (head :: K) ++ x :: (R ++ [head]) by simp,
    List.chain'_split] at hc
  cases R with
  | nil => exact (List.chain'_pair.1 hc.2).1
  | cons y R => exact (List.chain'_cons.1 hc.2).1.1

theorem Ring.reset (m : ListMem) (head : Nat) : Ring (listReset m head) head [] :=
  ⟨List.nodup_singleton head, List.chain'_pair.2 (by
    simp [Link, listReset, ListMem.setNext, ListMem.setPrev])⟩

/-- The ring cut before its last address: `head :: L = A ++ [p]`. -/
theorem exists_eq_concat (head : Nat) (L : List Nat) : ∃ A p, head :: L = A ++ [p] :=
  ⟨_, _, (List.dropLast_append_getLast (List.cons_ne_nil head L)).symm⟩

/-- **`list_add_tail` appends** an entry that is in no list. -/
theorem Ring.addTail {m : ListMem} {head e : Nat} {L : List Nat} (h : Ring m head L)
    (he : e ≠ head) (hL : e ∉ L) : Ring (listAddTail m head e) head (L ++ [e]) := by
  obtain ⟨A, p, hA⟩ := exists_eq_concat head L
  have heA : e ∉ A ++ [p] := hA ▸ List.not_mem_cons_of_ne_of_not_mem he hL
  have hpA : p ∉ A :=
    List.disjoint_singleton.1 (List.nodup_append.1 (by rw [← hA]; exact h.nodup)).2.2
  have hep : e ≠ p := fun h => heA (by simp [h])
  have hc := h.chain
  rw [hA, List.append_assoc, List.singleton_append, List.chain'_split] at hc
  have hp : Link m p head := List.chain'_pair.1 hc.2
  refine ⟨by
    rw [← List.cons_append]
    exact List.nodup_append.2 ⟨h.nodup, List.nodup_singleton e,
      List.disjoint_singleton.2 (List.not_mem_cons_of_ne_of_not_mem he hL)⟩, ?_⟩
  rw [show head :: (L ++ [e]) ++ [head] = A ++ p :: e :: [head] by
    rw [← List.cons_append, hA]; simp, List.chain'_append_cons_cons, List.chain'_pair,
    listAddTail, hp.2]
  refine ⟨chain'_link_frame hc.1 (fun x hx => ?_) (fun y hy => ?_), by simp [Link, hep, he],
    by simp [Link, hep]⟩
  · rw [List.dropLast_concat] at hx
    have hxe : x ≠ e := fun hxe => heA (List.mem_append_left _ (hxe ▸ hx))
    simp [ne_of_mem_of_not_mem hx hpA, hxe]
  · rw [← hA, List.tail_cons] at hy
    simp [ne_of_mem_of_not_mem hy (List.Nodup.not_mem h.nodup), ne_of_mem_of_not_mem hy hL]

/-- **`list_add_head` prepends** an entry that is in no list. -/
theorem Ring.addHead {m : ListMem} {head e : Nat} {L : List Nat} (h : Ring m head L)
    (he : e ≠ head) (hL : e ∉ L) : Ring (listAddHead m head e) head (e :: L) := by
  obtain ⟨n, Y, hB⟩ : ∃ n Y, L ++ [head] = n :: Y := List.exists_cons_of_ne_nil (by simp)
  have hBnd : (n :: Y).Nodup := hB ▸ List.nodup_append.2 ⟨(List.nodup_cons.1 h.nodup).2,
    List.nodup_singleton head, List.disjoint_singleton.2 (List.Nodup.not_mem h.nodup)⟩
  have heB : e ∉ n :: Y := hB ▸ by simp [hL, he]
  have hen : e ≠ n := fun h => heB (h ▸ List.mem_cons_self e Y)
  have hc := h.chain
  rw [List.cons_append, hB, List.chain'_cons] at hc
  refine ⟨List.nodup_cons.2 ⟨List.not_mem_cons_of_ne_of_not_mem he.symm
    (List.Nodup.not_mem h.nodup), List.nodup_cons.2 ⟨hL, (List.nodup_cons.1 h.nodup).2⟩⟩, ?_⟩
  rw [List.cons_append, List.cons_append, hB, List.chain'_cons, List.chain'_cons, listAddHead,
    hc.1.1]
  refine ⟨by simp [Link, he.symm, hen], by simp [Link, he, hen], chain'_link_frame hc.2
    (fun x hx => ?_) (fun y hy => ?_)⟩
  · rw [← hB, List.dropLast_concat] at hx
    simp [ne_of_mem_of_not_mem hx (List.Nodup.not_mem h.nodup), ne_of_mem_of_not_mem hx hL]
  · rw [List.tail_cons] at hy
    simp [ne_of_mem_of_not_mem hy (List.nodup_cons.1 hBnd).1,
      ne_of_mem_of_not_mem (List.mem_cons_of_mem n hy) heB]

/-- **`list_remove` deletes exactly that entry** and keeps the others in order. -/
theorem Ring.remove {m : ListMem} {head e : Nat} {L : List Nat} (h : Ring m head L)
    (he : e ∈ L) : Ring (listRemove m e) head (L.erase e) := by
  have hnd' := h.nodup.sublist ((List.erase_sublist e L).cons₂ head)
  obtain ⟨L₁, L₂, rfl⟩ := List.append_of_mem he
  have hnd := h.nodup
  rw [← List.cons_append, List.nodup_middle, List.nodup_cons, List.nodup_append] at hnd
  obtain ⟨heAB, hA₁, hL₂, hdisj⟩ := hnd
  obtain ⟨A, p, hA⟩ := exists_eq_concat head L₁
  obtain ⟨n, Y, hB⟩ : ∃ n Y, L₂ ++ [head] = n :: Y := List.exists_cons_of_ne_nil (by simp)
  have hpA : p ∉ A :=
    List.disjoint_singleton.1 (List.nodup_append.1 (by rw [← hA]; exact hA₁)).2.2
  have hpL : p ∈ head :: L₁ := hA ▸ List.mem_append_right _ (List.mem_singleton_self p)
  have hnB : n ∈ L₂ ++ [head] := hB ▸ List.mem_cons_self n Y
  have hBnd : (n :: Y).Nodup := hB ▸ List.nodup_append.2 ⟨hL₂, List.nodup_singleton head,
    List.disjoint_singleton.2 fun h => hdisj (List.mem_cons_self head L₁) h⟩
  have hnL₁ : n ∉ L₁ := fun hn => by
    rcases List.mem_append.1 hnB with h₂ | h₂
    · exact hdisj (List.mem_cons_of_mem head hn) h₂
    · exact (List.nodup_cons.1 hA₁).1 (List.mem_singleton.1 h₂ ▸ hn)
  have hne : n ≠ e := fun hn => heAB (by
    rcases List.mem_append.1 hnB with h₂ | h₂
    · exact List.mem_append_right _ (hn ▸ h₂)
    · exact List.mem_append_left _ (by simp [← hn, List.mem_singleton.1 h₂]))
  have hc := h.chain
  rw [show head :: (L₁ ++ e :: L₂) ++ [head] = A ++ p :: e :: n :: Y by
    rw [show A ++ p :: e :: n :: Y = (A ++ [p]) ++ e :: n :: Y by simp, ← hA, ← hB]; simp,
    List.chain'_append_cons_cons, List.chain'_cons] at hc
  obtain ⟨hcA, hpe, hen, hcB⟩ := hc
  have hrem : listRemove m e = (m.setNext p n).setPrev n p := by
    simp [listRemove, listIsEmpty, hpe.2, hen.1, hne]
  rw [List.erase_append_right _ (fun h => heAB (List.mem_append_left _ (List.mem_cons_of_mem _ h))),
    List.erase_cons_head] at hnd' ⊢
  refine ⟨hnd', ?_⟩
  rw [show head :: (L₁ ++ L₂) ++ [head] = A ++ p :: n :: Y by
    rw [show A ++ p :: n :: Y = (A ++ [p]) ++ n :: Y by simp, ← hA, ← hB]; simp,
    List.chain'_append_cons_cons, hrem]
  refine ⟨chain'_link_frame hcA (fun x hx => ?_) (fun y hy => ?_), by simp [Link],
    chain'_link_frame hcB (fun x hx => ?_) (fun y hy => ?_)⟩
  · rw [List.dropLast_concat] at hx
    simp [ne_of_mem_of_not_mem hx hpA]
  · rw [← hA, List.tail_cons] at hy
    simp [(ne_of_mem_of_not_mem hy hnL₁)]
  · rw [← hB, List.dropLast_concat] at hx
    have hxp : x ≠ p := fun hxp => hdisj hpL (hxp ▸ hx)
    simp [hxp]
  · simp [ne_of_mem_of_not_mem hy (List.nodup_cons.1 hBnd).1]

/-! ## §3 — what the walks see on a ring -/

/-- `list_for_each_entry` started at the `next` of `a`, along a chain `a, xs…, b` that does not
meet `b` early, visits `xs` and stops at `b`. -/
theorem listForEachEntry_chain {m : ListMem} {b : Nat} : ∀ {a : Nat} {xs : List Nat} {fuel : Nat},
    (a :: xs ++ [b]).Chain' (Link m) → b ∉ xs → xs.length < fuel →
    listForEachEntry m b fuel (m.next a) = some xs
  | _, _, 0, _, _, hf => absurd hf (Nat.not_lt_zero _)
  | _, [], _ + 1, h, _, _ => by rw [(List.chain'_pair.1 h).1]; simp [listForEachEntry]
  | a, x :: xs, fuel + 1, h, hb, hf => by
    have h' : (a :: x :: (xs ++ [b])).Chain' (Link m) := h
    rw [List.chain'_cons] at h'
    rw [h'.1.1, listForEachEntry, if_neg fun (e : x = b) => hb (e ▸ List.mem_cons_self x xs),
      listForEachEntry_chain h'.2 (fun h => hb (List.mem_cons_of_mem x h))
        (Nat.lt_of_succ_lt_succ hf)]
    rfl

/-- **Following `next` from the head visits the entries in order and comes back.** -/
theorem Ring.forEachEntry {m : ListMem} {head : Nat} {L : List Nat} (h : Ring m head L)
    {fuel : Nat} (hf : L.length < fuel) : listForEachEntry m head fuel (m.next head) = some L :=
  listForEachEntry_chain h.chain (List.Nodup.not_mem h.nodup) hf

theorem Ring.size {m : ListMem} {head : Nat} {L : List Nat} (h : Ring m head L) {fuel : Nat}
    (hf : L.length < fuel) : listSize m head fuel = some L.length := by
  rw [listSize, h.forEachEntry hf]; rfl

theorem Ring.isEmpty_iff {m : ListMem} {head : Nat} {L : List Nat} (h : Ring m head L) :
    listIsEmpty m head = true ↔ L = [] := by
  rw [listIsEmpty, h.next_head]
  cases L with
  | nil => simp
  | cons x L =>
    simp only [List.headD_cons, beq_iff_eq, List.cons_ne_nil, iff_false]
    exact fun e => List.Nodup.not_mem h.nodup (e ▸ List.mem_cons_self x L)

/-- On the ring, `prev` is the inverse of `next`. -/
theorem Ring.prev_next {m : ListMem} {head : Nat} {L : List Nat} (h : Ring m head L) :
    ∀ x ∈ head :: L, m.prev (m.next x) = x ∧ m.next (m.prev x) = x := by
  obtain ⟨hn, hp⟩ := chain'_link_inverse h.chain
  rw [List.dropLast_concat] at hn
  intro x hx
  refine ⟨hn x hx, hp x ?_⟩
  rw [List.cons_append, List.tail_cons]
  rcases List.mem_cons.1 hx with rfl | hx
  · exact List.mem_append_right _ (List.mem_singleton_self x)
  · exact List.mem_append_left _ hx

/-- `list_get_next_item_or_null` on the ring is the entry after `x` in the view. -/
theorem Ring.getNextItemOrNull {m : ListMem} {head x : Nat} {K R : List Nat}
    (h : Ring m head (K ++ x :: R)) : listGetNextItemOrNull m head x = R.head? := by
  rw [listGetNextItemOrNull, listIsEnd, h.next_entry]
  cases R with
  | nil => simp
  | cons y R =>
    have hy : y ≠ head := fun e => List.Nodup.not_mem h.nodup (by simp [e])
    simp [hy]

/-- One iteration of `list_for_each_entry_safe` at `x`: a removed `x` leaves the ring, a kept
one joins the entries already passed. -/
theorem Ring.safeStep {m : ListMem} {head x : Nat} {K R : List Nat} (del : Nat → Bool)
    (h : Ring m head (K ++ x :: R)) :
    Ring (if del x then listRemove m x else m) head ((if del x then K else K ++ [x]) ++ R) := by
  have hxK : x ∉ K := fun hk => (List.nodup_middle.1 (List.nodup_cons.1 h.nodup).2 |>
    List.nodup_cons.1).1 (List.mem_append_left _ hk)
  by_cases hd : del x
  · simpa [hd, List.erase_append_right _ hxK] using
      h.remove (List.mem_append_right _ (List.mem_cons_self x R))
  · simpa [hd] using h

/-- **`list_for_each_entry_safe` visits every entry once**, from a point where `K` was kept and
`R` remains, even when the body removes the entry it is at; the ring keeps what was not
removed. -/
theorem listForEachEntrySafe_ring (head : Nat) (del : Nat → Bool) :
    ∀ (R K : List Nat) (m : ListMem) (fuel : Nat), Ring m head (K ++ R) → R.length < fuel →
      ∃ m', listForEachEntrySafe head del fuel m (R.headD head) (m.next (R.headD head)) =
        some (R, m') ∧ Ring m' head (K ++ R.filter fun x => !del x)
  | _, _, _, 0, _, hf => absurd hf (Nat.not_lt_zero _)
  | [], K, m, _ + 1, h, _ => ⟨m, by simp [listForEachEntrySafe], by simpa using h⟩
  | x :: R, K, m, fuel + 1, h, hf => by
    have hx : x ≠ head := fun e => List.Nodup.not_mem h.nodup (by simp [e])
    obtain ⟨m', hrun, hring⟩ := listForEachEntrySafe_ring head del R _ _ fuel (h.safeStep del)
      (Nat.lt_of_succ_lt_succ hf)
    refine ⟨m', ?_, ?_⟩
    · rw [List.headD_cons, listForEachEntrySafe, if_neg hx, h.next_entry]
      simp only [hrun, Option.map_some']
    · by_cases hd : del x <;> simpa [hd, List.filter_cons] using hring

/-! ## §4 — runs of operations -/

/-- The operations of `list.c` on one list head. -/
inductive ListOp where
  | reset
  | addTail (item : Nat)
  | addHead (item : Nat)
  | remove (item : Nat)
  deriving DecidableEq, Repr

/-- An operation on memory. -/
def ListOp.exec (head : Nat) (m : ListMem) : ListOp → ListMem
  | .reset => listReset m head
  | .addTail item => listAddTail m head item
  | .addHead item => listAddHead m head item
  | .remove item => listRemove m item

/-- What an operation does to the sequence of entries. -/
def ListOp.view (L : List Nat) : ListOp → List Nat
  | .reset => []
  | .addTail item => L ++ [item]
  | .addHead item => item :: L
  | .remove item => L.erase item

/-- The contract of `list.h`: an added entry is in no list (neither the head nor an entry), a
removed entry is in this list. -/
def ListOp.Allowed (head : Nat) (L : List Nat) : ListOp → Prop
  | .reset => True
  | .addTail item | .addHead item => item ≠ head ∧ item ∉ L
  | .remove item => item ∈ L

instance ListOp.decAllowed (head : Nat) (L : List Nat) : DecidablePred (ListOp.Allowed head L)
  | .reset => inferInstanceAs (Decidable True)
  | .addTail item => inferInstanceAs (Decidable (item ≠ head ∧ item ∉ L))
  | .addHead item => inferInstanceAs (Decidable (item ≠ head ∧ item ∉ L))
  | .remove item => inferInstanceAs (Decidable (item ∈ L))

/-- A run on memory. -/
def listRun (head : Nat) (m : ListMem) (ops : List ListOp) : ListMem :=
  ops.foldl (ListOp.exec head) m

/-- The same run on the sequence of entries. -/
def viewRun (L : List Nat) (ops : List ListOp) : List Nat := ops.foldl ListOp.view L

/-- Every operation of a run keeps the contract at the sequence it meets. -/
def RunAllowed (head : Nat) : List Nat → List ListOp → Prop
  | _, [] => True
  | L, op :: ops => op.Allowed head L ∧ RunAllowed head (op.view L) ops

instance decRunAllowed (head : Nat) : ∀ L ops, Decidable (RunAllowed head L ops)
  | _, [] => isTrue trivial
  | L, op :: ops =>
    @instDecidableAnd _ _ (ListOp.decAllowed head L op) (decRunAllowed head (op.view L) ops)

/-- One operation keeps the ring and moves its view. -/
theorem ListOp.exec_ring {m : ListMem} {head : Nat} {L : List Nat} (h : Ring m head L) :
    ∀ op : ListOp, op.Allowed head L → Ring (op.exec head m) head (op.view L)
  | .reset, _ => Ring.reset m head
  | .addTail _, ⟨he, hL⟩ => h.addTail he hL
  | .addHead _, ⟨he, hL⟩ => h.addHead he hL
  | .remove _, he => h.remove he

/-- A run keeps the ring and moves its view as the run on the sequence does. -/
theorem listRun_ring {head : Nat} :
    ∀ (ops : List ListOp) {m : ListMem} {L : List Nat}, Ring m head L → RunAllowed head L ops →
      Ring (listRun head m ops) head (viewRun L ops)
  | [], _, _, h, _ => h
  | op :: ops, _, _, h, ⟨hop, hops⟩ => listRun_ring ops (ListOp.exec_ring h op hop) hops

/-! ## §5 — what the code observes of a list -/

/-- What the code can observe of a head whose entries are `L`: the ring, `prev` inverting
`next` on it, the walks of `list_for_each_entry` and `list_size`, `list_is_empty`, and
`list_for_each_entry_safe` with a body that removes the entries `del` picks. -/
structure ListObservations (m : ListMem) (head : Nat) (L : List Nat) : Prop where
  ring : Ring m head L
  prev_next : ∀ x ∈ head :: L, m.prev (m.next x) = x ∧ m.next (m.prev x) = x
  forEachEntry : ∀ fuel, L.length < fuel → listForEachEntry m head fuel (m.next head) = some L
  size : ∀ fuel, L.length < fuel → listSize m head fuel = some L.length
  isEmpty : listIsEmpty m head = true ↔ L = []
  forEachEntrySafe : ∀ (del : Nat → Bool) fuel, L.length < fuel →
    ∃ m', listForEachEntrySafe head del fuel m (m.next head) (m.next (m.next head)) =
      some (L, m') ∧ Ring m' head (L.filter fun x => !del x)

/-- A ring is observed as its view. -/
theorem Ring.observations {m : ListMem} {head : Nat} {L : List Nat} (h : Ring m head L) :
    ListObservations m head L where
  ring := h
  prev_next := h.prev_next
  forEachEntry _ hf := h.forEachEntry hf
  size _ hf := h.size hf
  isEmpty := h.isEmpty_iff
  forEachEntrySafe del fuel hf := by
    rw [h.next_head]
    exact listForEachEntrySafe_ring head del L [] m fuel h hf

/-- **`list.c` keeps a well-formed ring along every run.**  From any memory, after the
`list_reset` a head must start with, every run of `list_reset`, `list_add_tail`,
`list_add_head` and `list_remove` that keeps the contract of `list.h` leaves a ring whose view is
the run's sequence of entries (appended, prepended, erased), and the code observes exactly that
sequence. -/
theorem listRun_observations (m₀ : ListMem) (head : Nat) (ops : List ListOp)
    (hops : RunAllowed head [] ops) :
    ListObservations (listRun head m₀ (.reset :: ops)) head (viewRun [] ops) :=
  (listRun_ring ops (Ring.reset m₀ head) hops).observations

/-- Three entries added at both ends and the first one removed again. -/
theorem listRun_observations_three_entries :
    RunAllowed 0 [] [.addTail 1, .addTail 2, .addHead 3, .remove 1] ∧
      ListObservations (listRun 0 ⟨id, id⟩ [.reset, .addTail 1, .addTail 2, .addHead 3, .remove 1])
        0 (viewRun [] [.addTail 1, .addTail 2, .addHead 3, .remove 1]) :=
  ⟨by decide, listRun_observations ⟨id, id⟩ 0 _ (by decide)⟩

/-- The walk of that run, computed on the pointers. -/
example : let m := listRun 0 ⟨id, id⟩ [.reset, .addTail 1, .addTail 2, .addHead 3, .remove 1]
    listForEachEntry m 0 4 (m.next 0) = some [3, 2] := by decide

/-! ## §6 — what an operation leaves alone -/

/-- `m'` has the pointers of `m` at every address outside `S`. -/
def ListMem.AgreeOff (m m' : ListMem) (S : List Nat) : Prop :=
  ∀ x, x ∉ S → m'.next x = m.next x ∧ m'.prev x = m.prev x

theorem ListMem.AgreeOff.refl (m : ListMem) (S : List Nat) : m.AgreeOff m S :=
  fun _ _ => ⟨rfl, rfl⟩

theorem ListMem.AgreeOff.trans {m₁ m₂ m₃ : ListMem} {S : List Nat} (h₁ : m₁.AgreeOff m₂ S)
    (h₂ : m₂.AgreeOff m₃ S) : m₁.AgreeOff m₃ S :=
  fun x hx => ⟨(h₂ x hx).1.trans (h₁ x hx).1, (h₂ x hx).2.trans (h₁ x hx).2⟩

theorem ListMem.AgreeOff.mono {m m' : ListMem} {S T : List Nat} (h : m.AgreeOff m' S)
    (hST : S ⊆ T) : m.AgreeOff m' T :=
  fun x hx => h x fun hs => hx (hST hs)

theorem listReset_agreeOff (m : ListMem) (head : Nat) : m.AgreeOff (listReset m head) [head] :=
  fun x hx => by simp [listReset, List.ne_of_not_mem_cons hx]

/-- `list_add_tail` writes the pointers of the entry, of the last address and of the head. -/
theorem listAddTail_agreeOff (m : ListMem) (head e : Nat) :
    m.AgreeOff (listAddTail m head e) [e, m.prev head, head] := fun x hx => by
  simp only [List.mem_cons, List.not_mem_nil, or_false, not_or] at hx
  simp [listAddTail, hx.1, hx.2.1, hx.2.2]

/-- `list_remove` writes the pointers of the two neighbours only. -/
theorem listRemove_agreeOff (m : ListMem) (e : Nat) :
    m.AgreeOff (listRemove m e) [m.prev e, m.next e] := fun x hx => by
  simp only [List.mem_cons, List.not_mem_nil, or_false, not_or] at hx
  unfold listRemove
  split <;> simp [hx.1, hx.2]

/-- Along a chain, `next` and `prev` stay on the chain. -/
theorem chain'_link_mem {m : ListMem} : ∀ {l : List Nat}, l.Chain' (Link m) →
    (∀ x ∈ l.dropLast, m.next x ∈ l) ∧ (∀ y ∈ l.tail, m.prev y ∈ l)
  | [], _ => ⟨by simp, by simp⟩
  | [_], _ => ⟨by simp, by simp⟩
  | a :: b :: l, h => by
    rw [List.chain'_cons] at h
    obtain ⟨hn, hp⟩ := chain'_link_mem h.2
    rw [List.dropLast_cons₂, List.tail_cons]
    exact ⟨List.forall_mem_cons.2 ⟨by simp [h.1.1], fun x hx => List.mem_cons_of_mem a (hn x hx)⟩,
      List.forall_mem_cons.2 ⟨by simp [h.1.2], fun y hy => List.mem_cons_of_mem a (hp y hy)⟩⟩

/-- The neighbours of an address of the ring are on the ring. -/
theorem Ring.neighbours_mem {m : ListMem} {head : Nat} {L : List Nat} (h : Ring m head L) :
    ∀ x ∈ head :: L, m.next x ∈ head :: L ∧ m.prev x ∈ head :: L := by
  obtain ⟨hn, hp⟩ := chain'_link_mem h.chain
  have hsub : head :: L ++ [head] ⊆ head :: L := fun y hy => by
    simpa [or_comm] using List.mem_append.1 hy
  refine fun x hx => ⟨hsub (hn x (by rwa [List.dropLast_concat])), hsub (hp x ?_)⟩
  rw [List.cons_append, List.tail_cons]
  exact (List.perm_append_singleton head L).symm.subset hx

/-- **A ring survives any update away from its addresses.** -/
theorem Ring.frame {m m' : ListMem} {head : Nat} {L S : List Nat} (h : Ring m head L)
    (hm : m.AgreeOff m' S) (hS : ∀ x ∈ head :: L, x ∉ S) : Ring m' head L := by
  refine ⟨h.nodup, chain'_link_frame h.chain (fun x hx => (hm x (hS x ?_)).1)
    fun y hy => (hm y (hS y ?_)).2⟩
  · rwa [List.dropLast_concat] at hx
  · rw [List.cons_append, List.tail_cons] at hy
    exact (List.perm_append_singleton head L).subset hy

/-- **`list_for_each_entry_safe` writes only the pointers of its own ring.** -/
theorem listForEachEntrySafe_agreeOff (head : Nat) (del : Nat → Bool) :
    ∀ (R K : List Nat) (m : ListMem) (fuel : Nat) (r : List Nat × ListMem),
      Ring m head (K ++ R) →
      listForEachEntrySafe head del fuel m (R.headD head) (m.next (R.headD head)) = some r →
      m.AgreeOff r.2 (head :: (K ++ R))
  | _, _, _, 0, _, _, hr => by simp [listForEachEntrySafe] at hr
  | [], K, m, _ + 1, r, _, hr => by
    simp only [List.headD_nil, listForEachEntrySafe, if_true, Option.some.injEq] at hr
    exact hr ▸ ListMem.AgreeOff.refl m _
  | x :: R, K, m, fuel + 1, r, h, hr => by
    have hx : x ≠ head := fun e => List.Nodup.not_mem h.nodup (by simp [e])
    rw [List.headD_cons, listForEachEntrySafe, if_neg hx, h.next_entry] at hr
    obtain ⟨r', hr', rfl⟩ := Option.map_eq_some'.1 hr
    have hall := listForEachEntrySafe_agreeOff head del R _ _ fuel r' (h.safeStep del) hr'
    have hx : x ∈ head :: (K ++ x :: R) := by simp
    by_cases hd : del x
    · simp only [hd, if_true] at hall
      refine ((listRemove_agreeOff m x).mono fun y hy => ?_).trans (hall.mono fun y hy => ?_)
      · have hn := h.neighbours_mem x hx
        simp only [List.mem_cons, List.not_mem_nil, or_false] at hy
        rcases hy with rfl | rfl
        exacts [hn.2, hn.1]
      · simp only [List.mem_cons, List.mem_append] at hy ⊢
        tauto
    · simp only [hd, if_false, Bool.false_eq_true] at hall
      exact hall.mono fun y hy => by simpa using hy

end SmartManager.Misc
