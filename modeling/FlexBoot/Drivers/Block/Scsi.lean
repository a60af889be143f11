import FlexBoot.Core.Misc

/-!
# SCSI の LUN と sense data（`drivers/block/scsi.c`）

`struct scsi_lun` は四つの 16 bit の値 `u16[0..3]` で、それぞれ `htons` して入れる。
ここでは `htons` の前の値を並べる。

`scsi_parse_sense` は受け取った sense data の長さ `len` を信じて読む。descriptor 形式の
先頭 4 byte は `len` が 4 以上なら、fixed 形式の 14 byte は 14 以上なら読む。
-/

namespace FlexBoot.Scsi

open Infra FlexBoot

/-- `scsi_parse_lun` の loop。`i` は残りの回数で、読んだ値を `acc` に足していく。
値は `strtoul ( p, &p, 16 )` で、`-` で区切る。NUL で止まれば成功する。 -/
def scsiParseLunLoop (arch : Arch) : Nat → List Nat → Bytes → Option (List Nat)
  | 0, acc, p => if p.headD 0 ≠ 0 then none else some acc
  | i + 1, acc, p =>
    let (v, q) := strtoul arch p 16
    let acc := acc ++ [v % 2 ^ 16]
    if q.headD 0 = 0 then some acc
    else if q.headD 0 ≠ 0x2D then none
    else scsiParseLunLoop arch i acc q.tail

/-- `scsi_parse_lun`。成功すれば `u16[0..3]` の値を返す。読まなかった欄は `memset` の 0 である。 -/
def scsiParseLun (arch : Arch) (lunString : Bytes) : Option (List Nat) :=
  (scsiParseLunLoop arch 4 [] lunString).map fun l => l ++ List.replicate (4 - l.length) 0

/-- `SCSI_SENSE_FIXED`。 -/
def scsiSenseFixed (code : UInt8) : Bool := (code &&& 0x7e) == 0x70

/-- `sizeof ( sns->desc )` と `sizeof ( sns->fixed )`。 -/
def snsDescLen : Nat := 4
def snsFixedLen : Nat := 14

/-- `scsi_parse_sense ( data + off, len, sense )`。`data` は受け取った buffer 全体で、
読み出しが buffer の外に出ると止まる。返すのは descriptor 形式の先頭 4 byte である。 -/
def scsiParseSense (data : Bytes) (off len : Nat) : Except Fault Bytes := do
  if len < snsDescLen then return List.replicate snsDescLen 0
  let desc ← rd data off snsDescLen
  if len < snsFixedLen then return desc
  if !scsiSenseFixed (desc.headD 0) then return desc
  -- `sense->additional = sns->fixed.additional`
  let additional ← rd data (off + 12) 2
  return desc.take 2 ++ additional

/-- `scsi_parse_sense` は `data` の `off` から `len` byte の中だけを読む。その範囲が受け取った
buffer に収まれば止まらない。 -/
theorem scsiParseSense_ok {data : Bytes} {off len : Nat} (h : off + len ≤ data.length) :
    ∃ sense, scsiParseSense data off len = .ok sense := by
  have hd : snsDescLen = 4 := rfl
  have hf : snsFixedLen = 14 := rfl
  unfold scsiParseSense
  by_cases hdesc : len < snsDescLen
  · exact ⟨_, by rw [if_pos hdesc]; rfl⟩
  rw [if_neg hdesc, rd_ok (by omega), ok_bind]
  by_cases hfixed : len < snsFixedLen
  · exact ⟨_, by rw [if_pos hfixed]; rfl⟩
  rw [if_neg hfixed]
  split
  · exact ⟨_, rfl⟩
  · rw [rd_ok (by omega), ok_bind]
    exact ⟨_, rfl⟩

/-- 長さが 4 以上なのに descriptor 形式の 4 byte が buffer に収まらなければ、その外を読む。 -/
theorem scsiParseSense_overread {data : Bytes} {off len : Nat} (hlen : snsDescLen ≤ len)
    (h : data.length < off + snsDescLen) :
    scsiParseSense data off len = .error (.outOfBounds (off + snsDescLen) data.length) := by
  unfold scsiParseSense
  rw [if_neg (Nat.not_lt.mpr hlen)]
  unfold rd
  rw [if_neg (by decide), sliceAt_eq_none h]
  rfl

end FlexBoot.Scsi
