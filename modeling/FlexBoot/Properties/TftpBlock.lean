import FlexBoot.Properties.Tftp

/-!
# DATA の block 番号の巻き戻し

DATA の block 番号は 16 bit で、`tftp_rx_data` は最初の空き `first_gap` の窓
`( first_gap + 1 ) & ~0xffff` に番号を足して全体での位置にする（`dataBlock_eq`）。

1. 窓の中の block は正しい位置に置かれる（`dataBlock_of_window`）。lock-step の server が
   新しく送る block はいつもここに入る。
2. 窓の始まりより前の block の再送は、一つ以上先の窓の位置に置かれる
   （`dataBlock_retransmission_window_ahead`）。その block はもう受け取っている。
3. 受け入れた DATA は、その位置の bit を bitmap に立てる（`tftpRxData_marks_dataBlock`）。
   再送が先の窓に置かれると、まだ受け取っていない block が受け取ったことになる。
-/

namespace FlexBoot.Tftp

open Infra FlexBoot

/-- `( bitmap_first_gap ( &tftp->bitmap ) + 1 ) & ~0xffff`。 -/
def windowBase (t : TftpRequest) : Nat := (t.bitmap.firstGap + 1) / 65536 * 65536

section Window

variable {t : TftpRequest} {pkt : Bytes}

/-- `first_gap + 1` が `unsigned int` に収まれば、DATA の位置は窓の始まりに番号を足して 1 を
引いたものである。 -/
theorem dataBlock_eq (hfit : t.bitmap.firstGap + 1 < 2 ^ 32) (hpos : 0 < windowBase t + be16 pkt 2) :
    dataBlock t pkt = windowBase t + be16 pkt 2 - 1 := by
  have hw := be16_lt pkt 2
  unfold dataBlock
  unfold windowBase at hpos ⊢
  rw [Nat.mod_eq_of_lt hfit]
  -- 窓の始まりは 65536 の倍数なので、足しても `unsigned int` を越えない
  omega

/-- 窓の始まりから 65536 個の block は、番号から正しく位置が決まる。 -/
theorem dataBlock_of_window {k : Nat} (hfit : t.bitmap.firstGap + 1 < 2 ^ 32) (hk1 : 1 ≤ k)
    (hk : windowBase t ≤ k ∧ k < windowBase t + 65536) (hwire : be16 pkt 2 = k % 65536) :
    dataBlock t pkt = k - 1 := by
  have hbase : windowBase t % 65536 = 0 := Nat.mul_mod_left _ _
  rw [dataBlock_eq hfit (by omega), hwire]
  omega

/-- 窓の始まり以下で 65536 の倍数でない block `k` の番号の DATA は、もう受け取った block の再送で
あり、`k - 1` ではなく一つ以上先の窓の同じ位置に置かれる。 -/
theorem dataBlock_retransmission_window_ahead (k : Nat) (hfit : t.bitmap.firstGap + 1 < 2 ^ 32)
    (hk : 1 ≤ k ∧ k ≤ windowBase t) (hw : k % 65536 ≠ 0) (hwire : be16 pkt 2 = k % 65536) :
    k ≤ t.bitmap.firstGap ∧ ∃ j, 1 ≤ j ∧ dataBlock t pkt = k - 1 + 65536 * j := by
  have hbase : windowBase t % 65536 = 0 := Nat.mul_mod_left _ _
  have hle : windowBase t ≤ t.bitmap.firstGap + 1 := Nat.div_mul_le_self _ _
  refine ⟨by omega, (windowBase t - k / 65536 * 65536) / 65536, ?_, ?_⟩
  · -- `k` の窓は窓の始まりより前にある
    omega
  · rw [dataBlock_eq hfit (by omega), hwire]
    omega

end Window

/-- 受け入れた DATA（戻り値 0）は、その位置の bit を bitmap に立てる。 -/
theorem tftpRxData_marks_dataBlock {arch : Arch} {env : Env} {t t' : TftpRequest} {pkt : Bytes}
    (h : tftpRxData arch env t pkt = .ok (t', .ok)) (hlen : dataBlock t pkt < t'.bitmap.length) :
    bitmapTest arch t'.bitmap (dataBlock t pkt) = .ok true := by
  unfold tftpRxData at h
  split at h
  · cases h
  split at h
  · cases h
  split at h
  · cases h
  -- 受け入れない枝は戻り値が 0 でない
  by_cases hl : t.blksize < pkt.length - 4
  · rw [if_pos hl] at h; cases h
  rw [if_neg hl] at h
  by_cases hdel : (!env.deliverOk) = true
  · rw [if_pos hdel] at h; cases h
  rw [if_neg hdel] at h
  rcases hp : tftpPresize arch env t
      ((dataBlock t pkt * t.blksize % 2 ^ 32 + (pkt.length - 4)) % 2 ^ arch.longBits)
    with f | ⟨t₂, rc₂⟩
  · rw [hp] at h; cases h
  rw [hp] at h
  cases rc₂ with
  | ok =>
    rcases hs : bitmapSet arch t₂.bitmap (dataBlock t pkt) with f | b
    · simp only [hs] at h; cases h
    · simp only [hs] at h
      -- `bitmap_set` は `length` を変えないので、立てた bit は読める
      have hb : t'.bitmap = b := by
        split at h <;> cases h <;> rfl
      rw [hb] at hlen ⊢
      exact bitmapTest_bitmapSet hs (by rw [← (bitmapSet_frame hs).2]; exact hlen)
  | _ => cases h

/-- block 65535 まで受け取った後に届いた block 65535 の再送は、block 131071 の位置に置かれる。 -/
theorem dataBlock_retransmission_65535 :
    let t := { TftpRequest.init tftpOpen with bitmap := { Bitmap.empty with firstGap := 65535 } }
    65535 ≤ t.bitmap.firstGap ∧ ∃ j, 1 ≤ j ∧ dataBlock t [0, 3, 0xFF, 0xFF] = 65535 - 1 + 65536 * j :=
  dataBlock_retransmission_window_ahead 65535 (by decide) (by decide) (by decide) (by decide)

end FlexBoot.Tftp
