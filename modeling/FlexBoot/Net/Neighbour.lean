import FlexBoot.Infra.Bytes

/-!
# 近所の cache（`net/neighbour.c`）

network-layer address から link-layer address を引く cache。entry は一つの list `neighbours` に
並び、FlexBoot はその数を `total_neighbours` に数える。

* `neighbour_find` — network device と network-layer address の合う entry を探し、先頭に移す
* `neighbour_create` — 0 で埋めた entry を先頭に足す
* `neighbour_tx` — entry を探すか作り、link-layer address があれば送り、なければ待たせる
* `neighbour_update` — entry があれば link-layer address を書き、timer を止める
* `neighbour_discard_last` — 3 個以上あれば、最後の entry を、link-layer address が 0 でなければ消す
* `neighbour_discard` — link-layer address の長さと中身が合う最初の entry を消す
* `neighbour_flush` — network device が閉じると、どの device の entry も全部消す

## model

entry は list の中の値で、指す entry は list の中の位置で表す。`list_del` は位置の entry を
外すこと、`list_add` は先頭に足すことである。`neighbour_find` と `neighbour_create` の返す entry は
先頭にあるので、その pointer を通した書き換えは先頭の entry の書き換えになる。
network-layer protocol は一つ（IPv4）とし、network-layer address は byte 列のまま比べる。
retransmission timer は動いているかどうかだけを持ち、待っている I/O buffer は持たない。
-/

namespace FlexBoot.Net

open Infra

/-- `MAX_LL_ADDR_LEN`。 -/
def maxLlAddrLen : Nat := 20

/-- `NEIGHBOUR_DROP_MIN_CACHE_ENTRY`。 -/
def neighbourDropMinCacheEntry : Nat := 3

/-- `struct neighbour` のうち cache の操作が読み書きする field。`D` は network device。 -/
structure Neighbour (D : Type) where
  netdev : D
  netDest : Bytes
  /-- `ll_dest`。`MAX_LL_ADDR_LEN` byte。 -/
  llDest : Bytes
  /-- retransmission timer が動いている。 -/
  timerRunning : Bool
  deriving DecidableEq, Repr

/-- `neighbours` と `total_neighbours`。 -/
structure NeighbourCache (D : Type) where
  neighbours : List (Neighbour D)
  totalNeighbours : Nat
  deriving DecidableEq, Repr

/-- `neighbour_tx` の決めたこと。 -/
inductive TxDecision
  /-- entry を作れなかった（`-ENOMEM`）。 -/
  | enomem
  /-- link-layer address が分かるまで待たせた（`-EAGAIN`）。 -/
  | deferred
  /-- `net_tx` にこの link-layer address を渡した。 -/
  | transmit (llDest : Bytes)
  deriving DecidableEq, Repr

variable {D : Type}

/-- 空の cache（`LIST_HEAD_INIT` と 0）。 -/
def NeighbourCache.empty : NeighbourCache D := ⟨[], 0⟩

/-- 先頭の entry を書き換える。 -/
def NeighbourCache.modifyHead (c : NeighbourCache D) (f : Neighbour D → Neighbour D) :
    NeighbourCache D :=
  { c with neighbours := c.neighbours.modifyHead f }

/-- `neighbour_has_ll_dest`。timer が止まっていれば link-layer address がある。 -/
def neighbourHasLlDest (n : Neighbour D) : Bool := !n.timerRunning

/-! ## list と数 -/

/-- `neighbor_add_to_list`。 -/
def neighborAddToList (c : NeighbourCache D) (n : Neighbour D) : NeighbourCache D :=
  ⟨n :: c.neighbours, c.totalNeighbours + 1⟩

/-- `neighbor_remove_from_list`。位置 `i` の entry を外す。数が 0 なら何もしない。 -/
def neighborRemoveFromList (c : NeighbourCache D) (i : Nat) : NeighbourCache D :=
  if 0 < c.totalNeighbours then ⟨c.neighbours.eraseIdx i, c.totalNeighbours - 1⟩ else c

/-- `neighbour_destroy` のうち cache に及ぶところ。 -/
def neighbourDestroy (c : NeighbourCache D) (i : Nat) : NeighbourCache D :=
  neighborRemoveFromList c i

/-- `neighbour_create`。`zalloc` した entry（link-layer address は 0、timer は止まっている）を
先頭に足す。`allocOk` は `zalloc` の成否。 -/
def neighbourCreate (allocOk : Bool) (c : NeighbourCache D) (netdev : D) (netDest : Bytes) :
    Option (NeighbourCache D) :=
  if allocOk then some (neighborAddToList c ⟨netdev, netDest, List.replicate maxLlAddrLen 0, false⟩)
  else none

/-- `neighbour_discover`。timer を動かす。 -/
def neighbourDiscover (n : Neighbour D) : Neighbour D := { n with timerRunning := true }

/-- `neighbour_discovered`。link-layer address の前の `llAddrLen` byte を書き、timer を止める。 -/
def neighbourDiscovered (n : Neighbour D) (llDest : Bytes) (llAddrLen : Nat) : Neighbour D :=
  { n with llDest := llDest.take llAddrLen ++ n.llDest.drop llAddrLen, timerRunning := false }

/-! ## 探す・送る・書く -/

section Find

variable [DecidableEq D]

/-- `neighbour_find`。device と network-layer address の合う最初の entry を先頭に移す。 -/
def neighbourFind (c : NeighbourCache D) (netdev : D) (netDest : Bytes) :
    Option (Neighbour D) × NeighbourCache D :=
  let i := c.neighbours.findIdx fun n => n.netdev = netdev ∧ n.netDest = netDest
  match c.neighbours[i]? with
  | some n => (some n, { c with neighbours := n :: c.neighbours.eraseIdx i })
  | none => (none, c)

/-- `neighbour_tx`。見つけた entry に link-layer address があれば送る。作った entry は
`neighbour_discover` が timer を動かすので、待たせる。 -/
def neighbourTx (allocOk : Bool) (c : NeighbourCache D) (netdev : D) (netDest : Bytes) :
    NeighbourCache D × TxDecision :=
  match neighbourFind c netdev netDest with
  | (some n, c) => if neighbourHasLlDest n then (c, .transmit n.llDest) else (c, .deferred)
  | (none, c) =>
    match neighbourCreate allocOk c netdev netDest with
    | none => (c, .enomem)
    | some c => (c.modifyHead neighbourDiscover, .deferred)

/-- `neighbour_update`。entry がなければ `-ENOENT`（`false`）。 -/
def neighbourUpdate (c : NeighbourCache D) (netdev : D) (netDest llDest : Bytes) (llAddrLen : Nat) :
    NeighbourCache D × Bool :=
  match neighbourFind c netdev netDest with
  | (some _, c) => (c.modifyHead (neighbourDiscovered · llDest llAddrLen), true)
  | (none, c) => (c, false)

/-- `neighbour_find` は、合う entry を見つけて先頭に移すか、合う entry がなく何もしない。 -/
theorem neighbourFind_cases (c : NeighbourCache D) (netdev : D) (netDest : Bytes) :
    (∃ i n, c.neighbours[i]? = some n ∧ n.netdev = netdev ∧ n.netDest = netDest ∧
      neighbourFind c netdev netDest = (some n, { c with neighbours := n :: c.neighbours.eraseIdx i })) ∨
    ((∀ n ∈ c.neighbours, ¬ (n.netdev = netdev ∧ n.netDest = netDest)) ∧
      neighbourFind c netdev netDest = (none, c)) := by
  unfold neighbourFind
  dsimp only
  split
  · next n hn =>
    refine .inl ⟨_, n, hn, ?_⟩
    obtain ⟨hi, hget⟩ := List.getElem?_eq_some_iff.mp hn
    have hmatch := List.findIdx_getElem (w := hi)
    rw [hget] at hmatch
    simpa using hmatch
  · next hn =>
    refine .inr ⟨?_, rfl⟩
    intro n hmem hmatch
    have hlt : c.neighbours.findIdx (fun n => decide (n.netdev = netdev ∧ n.netDest = netDest)) <
        c.neighbours.length := List.findIdx_lt_length_of_exists ⟨n, hmem, by simpa using hmatch⟩
    rw [List.getElem?_eq_getElem hlt] at hn
    cases hn

end Find

/-! ## 捨てる -/

/-- `neighbour_discard_last`。3 個未満なら捨てない。最後の entry は、link-layer address が
`MAX_LL_ADDR_LEN` byte とも 0 なら捨てない。 -/
def neighbourDiscardLast [DecidableEq D] (c : NeighbourCache D) : NeighbourCache D × Nat :=
  if c.totalNeighbours < neighbourDropMinCacheEntry then (c, 0)
  else
    match c.neighbours.getLast? with
    | some n =>
      if n.llDest ≠ List.replicate maxLlAddrLen 0 then (neighbourDestroy c (c.neighbours.length - 1), 1)
      else (c, 0)
    | none => (c, 0)

/-- `neighbour_discard`。device の link-layer address の長さが `len` で、link-layer address の前の
`len` byte が `llAddr` と同じ最初の entry を捨てる。`llAddrLen` は device の
`ll_protocol->ll_addr_len`。 -/
def neighbourDiscard (llAddrLen : D → Nat) (c : NeighbourCache D) (llAddr : Bytes) (len : Nat) :
    NeighbourCache D × Nat :=
  let i := c.neighbours.findIdx fun n => llAddrLen n.netdev = len ∧ n.llDest.take len = llAddr.take len
  if i < c.neighbours.length then (neighbourDestroy c i, 1) else (c, 0)

/-- `neighbour_flush` の loop。元の list の entry を順に消す。前の entry が消えているので、消す
entry はいつも先頭にある。 -/
def neighbourFlushLoop : List (Neighbour D) → NeighbourCache D → NeighbourCache D
  | [], c => c
  | _ :: rest, c => neighbourFlushLoop rest (neighbourDestroy c 0)

/-- `neighbour_flush`（network device が閉じている場合）。 -/
def neighbourFlush (c : NeighbourCache D) : NeighbourCache D := neighbourFlushLoop c.neighbours c

/-! ## 数と長さ

`total_neighbours` は entry の数に等しい（`Counted`）。`neighbor_remove_from_list` は
list の中の entry にしか呼ばれないので、どの操作もこれを保つ。
-/

/-- `total_neighbours` が entry の数に等しい。 -/
def NeighbourCache.Counted (c : NeighbourCache D) : Prop := c.totalNeighbours = c.neighbours.length

namespace NeighbourCache

theorem Counted.empty : Counted (NeighbourCache.empty : NeighbourCache D) := rfl

theorem Counted.modifyHead {c : NeighbourCache D} (h : Counted c) (f : Neighbour D → Neighbour D) :
    Counted (c.modifyHead f) := by
  simpa [Counted, NeighbourCache.modifyHead] using h

theorem Counted.add {c : NeighbourCache D} (h : Counted c) (n : Neighbour D) :
    Counted (neighborAddToList c n) := by
  unfold Counted at h ⊢
  simp [neighborAddToList, h]

/-- 数えた数が長さに等しければ、list の中の entry は本当に外れる。 -/
theorem neighbourDestroy_neighbours {c : NeighbourCache D} (h : Counted c) {i : Nat}
    (hi : i < c.neighbours.length) : (neighbourDestroy c i).neighbours = c.neighbours.eraseIdx i := by
  have hpos : 0 < c.totalNeighbours := by rw [h]; omega
  simp only [neighbourDestroy, neighborRemoveFromList, if_pos hpos]

theorem Counted.destroy {c : NeighbourCache D} (h : Counted c) {i : Nat} (hi : i < c.neighbours.length) :
    Counted (neighbourDestroy c i) := by
  have hpos : 0 < c.totalNeighbours := by rw [h]; omega
  have hn := neighbourDestroy_neighbours h hi
  unfold Counted at h ⊢
  rw [hn, List.length_eraseIdx_of_lt hi]
  simp only [neighbourDestroy, neighborRemoveFromList, if_pos hpos]
  omega

theorem Counted.create {c c' : NeighbourCache D} (h : Counted c) {allocOk : Bool} {netdev : D}
    {netDest : Bytes} (hc : neighbourCreate allocOk c netdev netDest = some c') : Counted c' := by
  unfold neighbourCreate at hc
  split at hc
  · cases hc; exact h.add _
  · cases hc

theorem Counted.find [DecidableEq D] {c : NeighbourCache D} (h : Counted c) (netdev : D)
    (netDest : Bytes) : Counted (neighbourFind c netdev netDest).2 := by
  rcases neighbourFind_cases c netdev netDest with ⟨i, n, hn, -, -, hf⟩ | ⟨-, hf⟩
  · -- 見つけた entry を外して先頭に戻すので、長さは変わらない
    obtain ⟨hi, -⟩ := List.getElem?_eq_some_iff.mp hn
    rw [hf]
    unfold Counted at h ⊢
    simp only [List.length_cons, List.length_eraseIdx_of_lt hi, h]
    omega
  · rw [hf]
    exact h

theorem Counted.tx [DecidableEq D] {c : NeighbourCache D} (h : Counted c) (allocOk : Bool)
    (netdev : D) (netDest : Bytes) : Counted (neighbourTx allocOk c netdev netDest).1 := by
  have hf := h.find netdev netDest
  unfold neighbourTx
  split
  · next n c' heq =>
    rw [heq] at hf
    split <;> exact hf
  · next c' heq =>
    rw [heq] at hf
    split
    · exact hf
    · next c'' hc => exact (hf.create hc).modifyHead _

theorem Counted.update [DecidableEq D] {c : NeighbourCache D} (h : Counted c) (netdev : D)
    (netDest llDest : Bytes) (llAddrLen : Nat) :
    Counted (neighbourUpdate c netdev netDest llDest llAddrLen).1 := by
  have hf := h.find netdev netDest
  unfold neighbourUpdate
  split
  · next n c' heq =>
    rw [heq] at hf
    exact hf.modifyHead _
  · next c' heq =>
    rw [heq] at hf
    exact hf

theorem Counted.discardLast [DecidableEq D] {c : NeighbourCache D} (h : Counted c) :
    Counted (neighbourDiscardLast c).1 := by
  unfold neighbourDiscardLast
  split
  · exact h
  split
  · next n hn =>
    -- 最後の entry があるので list は空でない
    have hlen : 0 < c.neighbours.length := List.length_pos_iff.mpr (by rintro h0; simp [h0] at hn)
    split
    · exact h.destroy (by omega)
    · exact h
  · exact h

theorem Counted.discard {c : NeighbourCache D} (h : Counted c) (llAddrLen : D → Nat) (llAddr : Bytes)
    (len : Nat) : Counted (neighbourDiscard llAddrLen c llAddr len).1 := by
  unfold neighbourDiscard
  dsimp only
  split
  · next hi => exact h.destroy hi
  · exact h

/-- entry の数だけ先頭を消せば、cache は空になる。 -/
theorem neighbourFlushLoop_of_counted : ∀ (l : List (Neighbour D)) {c : NeighbourCache D},
    Counted c → l.length = c.neighbours.length → neighbourFlushLoop l c = .empty
  | [], ⟨ns, k⟩, h, hl => by
    have hns : ns = [] := List.length_eq_zero_iff.mp hl.symm
    subst hns
    simp only [Counted, List.length_nil] at h
    subst h
    rfl
  | _ :: rest, c, h, hl => by
    have h0 : 0 < c.neighbours.length := by simp only [List.length_cons] at hl; omega
    rw [neighbourFlushLoop]
    refine neighbourFlushLoop_of_counted rest (h.destroy h0) ?_
    rw [neighbourDestroy_neighbours h h0, List.length_eraseIdx_of_lt h0]
    simp only [List.length_cons] at hl
    omega

theorem neighbourFlush_of_counted {c : NeighbourCache D} (h : Counted c) : neighbourFlush c = .empty :=
  neighbourFlushLoop_of_counted c.neighbours h rfl

end NeighbourCache

/-! ## 残る entry

`neighbour_discard` は合う最初の entry だけを消すので、合う entry の後ろの entry は残る。
`neighbour_find` は同じ device と network-layer address の entry が一つしかなければ、それを返す。
-/

/-- `p` を満たす位置より前に、最初に `p` を満たす位置がある。 -/
theorem findIdx_le_of_match {α : Type} {l : List α} {p : α → Bool} {i : Nat} {a : α}
    (hi : l[i]? = some a) (hp : p a = true) : l.findIdx p ≤ i := by
  obtain ⟨hlt, rfl⟩ := List.getElem?_eq_some_iff.mp hi
  by_contra hgt
  have := List.not_of_lt_findIdx (Nat.lt_of_not_le hgt)
  rw [hp] at this
  cases this

theorem neighbourDiscard_sublist {c : NeighbourCache D} (h : c.Counted) (llAddrLen : D → Nat)
    (llAddr : Bytes) (len : Nat) :
    List.Sublist (neighbourDiscard llAddrLen c llAddr len).1.neighbours c.neighbours := by
  unfold neighbourDiscard
  dsimp only
  split
  · next hi =>
    rw [NeighbourCache.neighbourDestroy_neighbours h hi]
    exact List.eraseIdx_sublist _ _
  · exact List.Sublist.refl _

theorem mem_neighbourDiscard_of_lt {c : NeighbourCache D} (h : c.Counted) {llAddrLen : D → Nat}
    {llAddr : Bytes} {len i j : Nat} {n₁ n₂ : Neighbour D} (hi : c.neighbours[i]? = some n₁)
    (hmatch : llAddrLen n₁.netdev = len ∧ n₁.llDest.take len = llAddr.take len)
    (hj : c.neighbours[j]? = some n₂) (hij : i < j) :
    n₂ ∈ (neighbourDiscard llAddrLen c llAddr len).1.neighbours := by
  have hk := findIdx_le_of_match
    (p := fun n => decide (llAddrLen n.netdev = len ∧ n.llDest.take len = llAddr.take len)) hi
    (by simpa using hmatch)
  have hilen := (List.getElem?_eq_some_iff.mp hi).1
  obtain ⟨hjlen, hget⟩ := List.getElem?_eq_some_iff.mp hj
  unfold neighbourDiscard
  dsimp only
  rw [if_pos (by omega), NeighbourCache.neighbourDestroy_neighbours h (by omega)]
  -- 消えるのは `j` より前の位置の entry である
  exact List.mem_eraseIdx_iff_getElem.mpr ⟨j, hjlen, by omega, hget⟩

/-- 同じ device と network-layer address の entry が一つだけで、link-layer address があれば、
`neighbour_tx` はその link-layer address に送る。 -/
theorem neighbourTx_of_unique [DecidableEq D] {c : NeighbourCache D} {n : Neighbour D}
    (hn : n ∈ c.neighbours) (hkey : ∀ m ∈ c.neighbours, m.netdev = n.netdev → m.netDest = n.netDest → m = n)
    (hres : n.timerRunning = false) (allocOk : Bool) :
    (neighbourTx allocOk c n.netdev n.netDest).2 = .transmit n.llDest := by
  rcases neighbourFind_cases c n.netdev n.netDest with ⟨i, m, hm, hd, ha, hf⟩ | ⟨hnone, -⟩
  · obtain rfl := hkey m (List.mem_of_getElem? hm) hd ha
    simp only [neighbourTx, hf, neighbourHasLlDest, hres, Bool.not_false, if_true]
  · exact absurd ⟨rfl, rfl⟩ (hnone n hn)


end FlexBoot.Net
