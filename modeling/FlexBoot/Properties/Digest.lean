import FlexBoot.Properties.Hmac
import FlexBoot.Properties.Fips180
import FlexBoot.Properties.Rfc1321

/-!
# digest は標準の hash である

`sha256_update`、`sha1_update`、`md5_update` は byte を一つずつ溜め、`*_final` は詰め物の loop と
長さで終える（`Infra.Absorber`）。ここでは、それが標準の書き方で定めた hash
（`Properties/Fips180`、`Properties/Rfc1321`）になることを示す。

1. 流れ：初めの状態から列を足して終えた連鎖値は、詰めた列の block を順に圧縮したものである
   （`finish_push_state`。`Infra.Absorber.Holds` から）
2. 圧縮：`sha256_digest` と `sha1_digest` は標準の一つの block の処理を語ごとに写す
   （message schedule は `Infra.getD_foldl_set`、step は `Infra.foldl_range'_view`）。
   `md5_digest` は値を変数の間で回し、RFC は書き換える register を回す。二つは `regsView` で
   対応する
3. 1 と 2 から、足した長さが `size_t` に収まれば `sha256` と `sha1` は FIPS 180-4 の hash であり
   （`sha256_eq_fips180`、`sha1_eq_fips180`）、`md5_update` の流れは `md5` を返し、`md5` は
   RFC 1321 の MD5 である（`md5Final_md5Update`、`md5_eq_rfc1321`）
4. HMAC は、取り替えた digest がどれも一致する長さの入力でしか digest を呼ばない
   （`Hmac.hmacFinal_foldl_congr`）

長さの前提は `size_t` の幅から来る。i386 では `len` が 32 bit で巻き戻るので、合わせて `2 ^ 32`
byte 以上を足すと長さの field が標準と違う。
-/

namespace FlexBoot.Digest

open Infra FlexBoot.Md5 FlexBoot.Sha256 FlexBoot.Sha1

section Stream

variable {σ : Type} (A : Absorber σ UInt8)

/-- 64 byte の block と 56 byte 目の長さの field では、`0x80` の後の 0 の数は標準の数である。 -/
theorem padCount_sixtyfour (L : Nat) : Absorber.padCount 64 56 L = (119 - L % 64) % 64 := by
  unfold Absorber.padCount
  omega

/-- 初めの状態から `m` を足して終えた連鎖値は、`m` に `0x80`、0、長さの field を足した列の
block を順に圧縮したものである。 -/
theorem finish_push_state (hB : A.B = 64) (h : σ) {buf : Bytes} (hbuf : buf.length = 64) (m : Bytes)
    (lenField : Nat → Bytes) {P : Bytes}
    (hP : m ++ 0x80 :: List.replicate ((119 - m.length % 64) % 64) 0 ++ lenField (m.length % A.M) = P) :
    (A.finish 56 0x80 0x00 lenField (A.push ⟨h, buf, 0⟩ m)).state = absorb A.chain 64 (P.length / 64) h P := by
  have hs : A.Holds h m (A.push ⟨h, buf, 0⟩ m) := by
    simpa using (A.holds_init h buf (hB ▸ hbuf)).push m
  have hf := hs.finish (show 56 < A.B by rw [hB]; decide) 0x80 0x00 lenField
  rw [hf.state, hB, hs.len, padCount_sixtyfour, hP]

end Stream

/-! ## SHA-256 -/

section Sha256

open Fips180

/-- 標準の八つの語を `struct sha256_variables` の `a`〜`h` として見る。 -/
def ofWords8 (v : Words8) : Sha256Variables := ⟨v.a, v.b, v.c, v.d, v.e, v.f, v.g, v.h⟩

/-- 表の初めの 16 語は、block の big-endian の語である。 -/
theorem getD_words_append (blk : Bytes) (k : Nat) {j : Nat} (hj : j < 16) :
    ((List.range 16).map (sha256Word blk) ++ List.replicate k 0).getD j 0 = word blk j := by
  have hlen : j < ((List.range 16).map (sha256Word blk)).length := by
    rw [List.length_map, List.length_range]
    exact hj
  rw [List.getD_eq_getElem?_getD, List.getElem?_append_left hlen, List.getElem?_map, List.getElem?_range hj]
  rfl

theorem getD_sha256Schedule (blk : Bytes) {t : Nat} (ht : t < 64) :
    (sha256Schedule blk).getD t 0 = W256 blk t := by
  refine getD_foldl_set (W256 blk) sha256W 16 ?_ 48 16 _ (Nat.le_refl 16) (by simp) ?_ t ht
  · intro w i hi hw
    rw [W256, if_neg (by omega)]
    unfold sha256W
    dsimp only
    rw [hw (i - 16) (by omega), hw (i - 15) (by omega), hw (i - 7) (by omega), hw (i - 2) (by omega)]
    -- 実装は `W_{t-16}` から足し、標準は `σ_1(W_{t-2})` から足す
    show W256 blk (i - 16) + sigma0 (W256 blk (i - 15)) + W256 blk (i - 7) + sigma1 (W256 blk (i - 2)) = _
    ac_rfl
  · intro j hj
    rw [W256, if_pos hj, getD_words_append blk 48 hj]

theorem sha256Round_ofWords8 {w : List UInt32} {blk : Bytes} {t : Nat} (hw : w.getD t 0 = W256 blk t)
    (v : Words8) : sha256Round w (ofWords8 v) t = ofWords8 (step256 blk v t) := by
  simp only [sha256Round, step256, ofWords8, hw]
  rfl

/-- `sha256_digest` の連鎖値は、標準の一つの block の処理である。 -/
theorem sha256Digest_ofWords8 (H : Words8) (blk : Bytes) :
    (sha256Digest (ofWords8 H) blk).1 = ofWords8 (compress256 H blk) := by
  -- 主 loop は標準の 64 の step を一つずつ写す
  have hloop : (List.range 64).foldl (sha256Round (sha256Schedule blk)) (ofWords8 H) =
      ofWords8 ((List.range 64).foldl (step256 blk) H) := by
    rw [List.range_eq_range']
    exact foldl_range'_view (fun _ => ofWords8) _ _ 64 0 H
      (fun i v _ hi => sha256Round_ofWords8 (getD_sha256Schedule blk hi) v)
  simp only [sha256Digest, compress256]
  rw [hloop]
  -- 実装は `h[i] + a`、標準は `a + H_i` と足す
  simp only [ofWords8, UInt32.add_comm]

/-- **`sha256_init`、`sha256_update`、`sha256_final` は FIPS 180-4 の SHA-256 を返す。** 足した
長さは `size_t` に収まるとする。 -/
theorem sha256_eq_fips180 (arch : Arch) {m : Bytes} (hm : m.length < 2 ^ arch.longBits) :
    Sha256.sha256 arch m = Fips180.sha256 m := by
  -- 詰め物の前に覚えた長さは `|m|` そのものである
  have hP : m ++ 0x80 :: List.replicate ((119 - m.length % 64) % 64) 0 ++
      (fun len => toBe64 (len * 8 % 2 ^ 64)) (m.length % (sha256Absorber arch).M) = pad m := by
    show m ++ _ ++ toBe64 (m.length % 2 ^ arch.longBits * 8 % 2 ^ 64) = pad m
    rw [Nat.mod_eq_of_lt hm, Nat.mul_comm]
    rfl
  have hchain : ∀ H b, ofWords8 (compress256 H b) = (sha256Absorber arch).chain (ofWords8 H) b :=
    fun H b => (sha256Digest_ofWords8 H b).symm
  calc Sha256.sha256 arch m
      = sha256Out (absorb (sha256Absorber arch).chain 64 ((pad m).length / 64) (ofWords8 H256) (pad m)) :=
        congrArg sha256Out (finish_push_state (sha256Absorber arch) rfl sha256InitH
          (List.length_replicate (a := (0 : UInt8))) m _ hP)
    _ = sha256Out (ofWords8 (absorb compress256 64 ((pad m).length / 64) H256 (pad m))) := by
        rw [absorb_map ofWords8 hchain]
    _ = Fips180.sha256 m := rfl

end Sha256

/-! ## SHA-1 -/

section Sha1

open Fips180

/-- 標準の五つの語を `struct sha1_variables` の `a`〜`e` として見る。 -/
def ofWords5 (v : Words5) : Sha1Variables := ⟨v.a, v.b, v.c, v.d, v.e⟩

theorem getD_sha1Schedule (blk : Bytes) {t : Nat} (ht : t < 80) :
    (sha1Schedule blk).getD t 0 = W1 blk t := by
  refine getD_foldl_set (W1 blk) sha1W 16 ?_ 64 16 _ (Nat.le_refl 16) (by simp) ?_ t ht
  · intro w i hi hw
    rw [W1, if_neg (by omega)]
    unfold sha1W
    rw [hw (i - 3) (by omega), hw (i - 8) (by omega), hw (i - 14) (by omega), hw (i - 16) (by omega)]
    rfl
  · intro j hj
    rw [W1, if_pos hj, getD_words_append blk 64 hj]

/-- `sha1_steps[ i / 20 ]` は、step `i` の標準の `f_t` と `K_t` である。`f` は `|||` で書いてあるが、
二つの項が重ならないので `^^^` と同じになる。 -/
theorem sha1Steps_spec {t : Nat} (ht : t < 80) :
    (∀ v, (sha1Steps (t / 20)).1 (ofWords5 v) = f t v.b v.c v.d) ∧ (sha1Steps (t / 20)).2 = K1 t := by
  rcases (by omega : (t / 20 = 0 ∧ t ≤ 19) ∨ (t / 20 = 1 ∧ ¬ t ≤ 19 ∧ t ≤ 39) ∨
      (t / 20 = 2 ∧ ¬ t ≤ 19 ∧ ¬ t ≤ 39 ∧ t ≤ 59) ∨ (t / 20 = 3 ∧ ¬ t ≤ 19 ∧ ¬ t ≤ 39 ∧ ¬ t ≤ 59))
    with ⟨hq, h1⟩ | ⟨hq, h1, h2⟩ | ⟨hq, h1, h2, h3⟩ | ⟨hq, h1, h2, h3⟩
  · rw [hq]
    refine ⟨fun v => ?_, by rw [K1, if_pos h1]; rfl⟩
    rw [f, if_pos h1]
    exact and_or_not_and_eq_xor _ _ _
  · rw [hq]
    refine ⟨fun v => ?_, by rw [K1, if_neg h1, if_pos h2]; rfl⟩
    rw [f, if_neg h1, if_pos h2]
    rfl
  · rw [hq]
    refine ⟨fun v => ?_, by rw [K1, if_neg h1, if_neg h2, if_pos h3]; rfl⟩
    rw [f, if_neg h1, if_neg h2, if_pos h3]
    exact maj_or_eq_xor _ _ _
  · rw [hq]
    refine ⟨fun v => ?_, by rw [K1, if_neg h1, if_neg h2, if_neg h3]; rfl⟩
    rw [f, if_neg h1, if_neg h2, if_neg h3]
    rfl

theorem sha1Round_ofWords5 {w : List UInt32} {blk : Bytes} {t : Nat} (ht : t < 80)
    (hw : w.getD t 0 = W1 blk t) (v : Words5) : sha1Round w (ofWords5 v) t = ofWords5 (step1 blk v t) := by
  obtain ⟨hf, hk⟩ := sha1Steps_spec ht
  simp only [sha1Round, step1, hf, hk, hw]
  rfl

/-- `sha1_digest` の連鎖値は、標準の一つの block の処理である。 -/
theorem sha1Digest_ofWords5 (H : Words5) (blk : Bytes) :
    (sha1Digest (ofWords5 H) blk).1 = ofWords5 (compress1 H blk) := by
  -- 主 loop は標準の 80 の step を一つずつ写す
  have hloop : (List.range 80).foldl (sha1Round (sha1Schedule blk)) (ofWords5 H) =
      ofWords5 ((List.range 80).foldl (step1 blk) H) := by
    rw [List.range_eq_range']
    exact foldl_range'_view (fun _ => ofWords5) _ _ 80 0 H
      (fun i v _ hi => sha1Round_ofWords5 hi (getD_sha1Schedule blk hi) v)
  simp only [sha1Digest, compress1]
  rw [hloop]
  simp only [ofWords5, UInt32.add_comm]

/-- **`sha1_init`、`sha1_update`、`sha1_final` は FIPS 180-4 の SHA-1 を返す。** 足した長さは
`size_t` に収まるとする。 -/
theorem sha1_eq_fips180 (arch : Arch) {m : Bytes} (hm : m.length < 2 ^ arch.longBits) :
    Sha1.sha1 arch m = Fips180.sha1 m := by
  have hP : m ++ 0x80 :: List.replicate ((119 - m.length % 64) % 64) 0 ++
      (fun len => toBe64 (len * 8 % 2 ^ 64)) (m.length % (sha1Absorber arch).M) = pad m := by
    show m ++ _ ++ toBe64 (m.length % 2 ^ arch.longBits * 8 % 2 ^ 64) = pad m
    rw [Nat.mod_eq_of_lt hm, Nat.mul_comm]
    rfl
  have hchain : ∀ H b, ofWords5 (compress1 H b) = (sha1Absorber arch).chain (ofWords5 H) b :=
    fun H b => (sha1Digest_ofWords5 H b).symm
  calc Sha1.sha1 arch m
      = sha1Out (absorb (sha1Absorber arch).chain 64 ((pad m).length / 64) (ofWords5 H1) (pad m)) :=
        congrArg sha1Out (finish_push_state (sha1Absorber arch) rfl sha1InitH
          (List.length_replicate (a := (0 : UInt8))) m _ hP)
    _ = sha1Out (ofWords5 (absorb compress1 64 ((pad m).length / 64) H1 (pad m))) := by
        rw [absorb_map ofWords5 hchain]
    _ = Fips180.sha1 m := rfl

end Sha1

/-! ## MD5 -/

section Md5

/-- `md5Blocks` は `md5_digest` で block を順に圧縮したものである。 -/
theorem md5Blocks_eq_absorb : ∀ (n : Nat) (h : Md5Variables) (data : Bytes),
    md5Blocks n h data = absorb md5Digest 64 n h data
  | 0, _, _ => rfl
  | n + 1, h, data => by
    simp only [md5Blocks, absorb]
    exact md5Blocks_eq_absorb n _ _

/-- **`md5_init`、`md5_update`、`md5_final` は、足した byte 列全体の `md5` を返す。** 足した
長さは `size_t` に収まるとする。他の module が使う `md5` は、これで実装の流れに結びつく。 -/
theorem md5Final_md5Update (arch : Arch) {m : Bytes} (hm : m.length < 2 ^ arch.longBits) :
    md5Final arch (md5Update arch md5InitContext m) = md5 m := by
  have hP : m ++ 0x80 :: List.replicate ((119 - m.length % 64) % 64) 0 ++
      (fun len => leBytes 8 (len * 8 % 2 ^ 64)) (m.length % (md5Absorber arch).M) = m ++ md5Pad m.length := by
    show m ++ _ ++ leBytes 8 (m.length % 2 ^ arch.longBits * 8 % 2 ^ 64) = _
    rw [Nat.mod_eq_of_lt hm, md5Pad, List.append_assoc]
  calc md5Final arch (md5Update arch md5InitContext m)
      = md5Out (absorb (md5Absorber arch).chain 64 ((m ++ md5Pad m.length).length / 64) md5Init
          (m ++ md5Pad m.length)) :=
        congrArg md5Out (finish_push_state (md5Absorber arch) rfl md5Init
          (List.length_replicate (a := (0 : UInt8))) m _ hP)
    _ = md5 m := by
        rw [md5, md5Blocks_eq_absorb]
        rfl

open Rfc1321

/-- RFC の register を、`j` 番目の操作の前の `struct md5_variables` として見る。実装は操作ごとに
値を `a`、`b`、`c`、`d` の間で回し、RFC は書き換える register を `A`、`D`、`C`、`B` と回す。 -/
def regsView (j : Nat) (r : Regs) : Md5Variables :=
  match j % 4 with
  | 0 => ⟨r.A, r.B, r.C, r.D⟩
  | 1 => ⟨r.D, r.A, r.B, r.C⟩
  | 2 => ⟨r.C, r.D, r.A, r.B⟩
  | _ => ⟨r.B, r.C, r.D, r.A⟩

/-- 実装の `g` と `r`、`k` の表は、RFC の `[abcd k s i]` の `k`、`s`、`T[i]` である。 -/
theorem md5Tables_eq {j : Nat} (hj : j < 64) :
    md5G j = kTable.getD j 0 ∧ md5G j < 16 ∧ md5R.getD j 0 = sTable.getD j 0 ∧ md5K.getD j 0 = T.getD j 0 := by
  have hall : ∀ j ∈ List.range 64, md5G j = kTable.getD j 0 ∧ md5G j < 16 ∧
      md5R.getD j 0 = sTable.getD j 0 ∧ md5K.getD j 0 = T.getD j 0 := by decide
  exact hall j (List.mem_range.mpr hj)

/-- round の関数 `md5_f_*` は RFC の `F`、`G`、`H`、`I` である。`F` と `G` は `^^^` と `&&&` で
書き換えてある。 -/
theorem md5F_eq_roundFun {j : Nat} (hj : j < 64) (v : Md5Variables) :
    md5F v (j / 16) = roundFun (j / 16) v.b v.c v.d := by
  rcases (by omega : j / 16 = 0 ∨ j / 16 = 1 ∨ j / 16 = 2 ∨ j / 16 = 3) with hq | hq | hq | hq <;>
    rw [hq]
  · exact xor_and_xor_eq_select v.b v.c v.d
  · show v.c ^^^ (v.d &&& (v.b ^^^ v.c)) = (v.b &&& v.d) ||| (v.c &&& ~~~v.d)
    rw [xor_and_xor_eq_select, UInt32.and_comm v.d, UInt32.and_comm (~~~v.d)]
  · rfl
  · rfl

/-- **一つの操作の模倣。** 実装の `j` 番目の一回は、RFC の `j` 番目の操作を `regsView` で写す。 -/
theorem md5Round_regsView {j : Nat} (hj : j < 64) (blk : Bytes) (r : Regs) :
    md5Round ((List.range 16).map (le32At blk)) (regsView j r) j = regsView (j + 1) (step (word blk) r j) := by
  obtain ⟨hg, hg16, hs, hk⟩ := md5Tables_eq hj
  -- 実装が読む語 `w[g]` は、RFC の `X[k]` である
  have hw : ((List.range 16).map (le32At blk)).getD (md5G j) 0 = word blk (kTable.getD j 0) := by
    rw [List.getD_eq_getElem?_getD, List.getElem?_map, List.getElem?_range hg16, ← hg]
    rfl
  have hf := md5F_eq_roundFun hj (regsView j r)
  have hsub : j + 1 - 1 = j := Nat.add_sub_cancel j 1
  unfold md5Round step op
  dsimp only
  rw [hf, hw, hs, hk, hsub]
  -- 書き換える register は `j % 4` で決まり、次の見方は一つ回る。実装は `T[i]` を `X[k]` の
  -- 前に足す
  rcases (by omega : (j % 4 = 0 ∧ (j + 1) % 4 = 1) ∨ (j % 4 = 1 ∧ (j + 1) % 4 = 2) ∨
      (j % 4 = 2 ∧ (j + 1) % 4 = 3) ∨ (j % 4 = 3 ∧ (j + 1) % 4 = 0))
    with ⟨h0, h1⟩ | ⟨h0, h1⟩ | ⟨h0, h1⟩ | ⟨h0, h1⟩ <;>
    simp only [regsView, h0, h1, rol32, rotl] <;> ac_rfl

/-- `md5_digest` の連鎖値は、RFC の一つの block の処理である。 -/
theorem md5Digest_regsView (r : Regs) (blk : Bytes) :
    md5Digest (regsView 0 r) blk = regsView 0 (compress r blk) := by
  have hloop : (List.range 64).foldl (md5Round ((List.range 16).map (le32At blk))) (regsView 0 r) =
      regsView 64 ((List.range 64).foldl (step (word blk)) r) := by
    rw [List.range_eq_range']
    exact foldl_range'_view regsView _ _ 64 0 r (fun i y _ hi => md5Round_regsView hi blk y)
  simp only [md5Digest]
  rw [hloop]
  simp only [regsView, compress, Nat.zero_mod, Nat.reduceMod, UInt32.add_comm]

/-- **`md5` は RFC 1321 の MD5 である。** 長さの field は RFC のとおり下位 64 bit なので、
長さに前提はいらない。 -/
theorem md5_eq_rfc1321 (m : Bytes) : Md5.md5 m = Rfc1321.md5 m := by
  have hP : m ++ md5Pad m.length = pad m := by
    rw [pad, padZeros, md5Pad, Nat.mul_comm, List.append_assoc]
    rfl
  have hchain : ∀ r b, regsView 0 (compress r b) = md5Digest (regsView 0 r) b :=
    fun r b => (md5Digest_regsView r b).symm
  calc Md5.md5 m
      = md5Out (absorb md5Digest 64 ((pad m).length / 64) (regsView 0 init) (pad m)) := by
        rw [Md5.md5, md5Blocks_eq_absorb, hP]
        rfl
    _ = md5Out (regsView 0 (absorb compress 64 ((pad m).length / 64) init (pad m))) := by
        rw [absorb_map (regsView 0) hchain]
    _ = Rfc1321.md5 m := rfl

end Md5

/-! ## HMAC -/

section Hmac

open FlexBoot.Hmac

/-- FIPS 180-4 の SHA-256 を block 64 byte の digest として見たもの。 -/
def fips256BlockDigest : BlockDigest := ⟨⟨32, Fips180.sha256, fun _ => rfl⟩, 64, by decide, by decide⟩

/-- FIPS 180-4 の SHA-1 を block 64 byte の digest として見たもの。 -/
def fips1BlockDigest : BlockDigest := ⟨⟨20, Fips180.sha1, fun _ => rfl⟩, 64, by decide, by decide⟩

/-- RFC 1321 の MD5 を block 64 byte の digest として見たもの。 -/
def rfc1321BlockDigest : BlockDigest := ⟨⟨16, Rfc1321.md5, fun _ => rfl⟩, 64, by decide, by decide⟩

end Hmac

/-! ## 標準との一致 -/

open FlexBoot.Hmac in
theorem digests_and_hmac_match_standards (arch : Arch) :
    (∀ parts : List Bytes, parts.flatten.length < 2 ^ 32 →
      sha256Final arch (parts.foldl (sha256Update arch) sha256Init) = Fips180.sha256 parts.flatten ∧
      sha1Final arch (parts.foldl (sha1Update arch) sha1Init) = Fips180.sha1 parts.flatten ∧
      md5Final arch (parts.foldl (md5Update arch) md5InitContext) = Rfc1321.md5 parts.flatten) ∧
    (∀ (key : Bytes) (parts : List Bytes), key.length < 2 ^ 32 → 64 + parts.flatten.length < 2 ^ 32 →
      hmacFinal (sha256BlockDigest arch) (parts.foldl hmacUpdate (hmacInit (sha256BlockDigest arch) key).1)
          (hmacInit (sha256BlockDigest arch) key).2 =
        (hmacRfc2104 fips256BlockDigest key parts.flatten, if 64 < key.length then Fips180.sha256 key else key) ∧
      hmacFinal (sha1BlockDigest arch) (parts.foldl hmacUpdate (hmacInit (sha1BlockDigest arch) key).1)
          (hmacInit (sha1BlockDigest arch) key).2 =
        (hmacRfc2104 fips1BlockDigest key parts.flatten, if 64 < key.length then Fips180.sha1 key else key) ∧
      hmacFinal md5BlockDigest (parts.foldl hmacUpdate (hmacInit md5BlockDigest key).1)
          (hmacInit md5BlockDigest key).2 =
        (hmacRfc2104 rfc1321BlockDigest key parts.flatten, if 64 < key.length then Rfc1321.md5 key else key)) := by
  -- `2 ^ 32` 未満の長さは、どちらの build でも `size_t` に収まる
  have hwide : ∀ n : Nat, n < 2 ^ 32 → n < 2 ^ arch.longBits := fun n hn =>
    lt_of_lt_of_le hn (Nat.pow_le_pow_right (by decide) arch.longBits_ge)
  have h256 : ∀ m : Bytes, m.length < 2 ^ 32 → (sha256BlockDigest arch).digest m = fips256BlockDigest.digest m :=
    fun m hm => sha256_eq_fips180 arch (hwide _ hm)
  have h1 : ∀ m : Bytes, m.length < 2 ^ 32 → (sha1BlockDigest arch).digest m = fips1BlockDigest.digest m :=
    fun m hm => sha1_eq_fips180 arch (hwide _ hm)
  have h5 : ∀ m : Bytes, m.length < 2 ^ 32 → md5BlockDigest.digest m = rfc1321BlockDigest.digest m :=
    fun m _ => md5_eq_rfc1321 m
  refine ⟨fun parts hlen => ⟨?_, ?_, ?_⟩, fun key parts hkey htext => ⟨?_, ?_, ?_⟩⟩
  · -- 断片に分けて足しても、つないで一度に足したのと同じ
    calc sha256Final arch (parts.foldl (sha256Update arch) sha256Init)
        = Sha256.sha256 arch parts.flatten := congrArg (sha256Final arch) ((sha256Absorber arch).foldl_push _ parts)
      _ = Fips180.sha256 parts.flatten := sha256_eq_fips180 arch (hwide _ hlen)
  · calc sha1Final arch (parts.foldl (sha1Update arch) sha1Init)
        = Sha1.sha1 arch parts.flatten := congrArg (sha1Final arch) ((sha1Absorber arch).foldl_push _ parts)
      _ = Fips180.sha1 parts.flatten := sha1_eq_fips180 arch (hwide _ hlen)
  · calc md5Final arch (parts.foldl (md5Update arch) md5InitContext)
        = md5Final arch (md5Update arch md5InitContext parts.flatten) :=
          congrArg (md5Final arch) ((md5Absorber arch).foldl_push _ parts)
      _ = Md5.md5 parts.flatten := md5Final_md5Update arch (hwide _ hlen)
      _ = Rfc1321.md5 parts.flatten := md5_eq_rfc1321 _
  -- HMAC は digest を取り替えても、長さが `2 ^ 32` 未満の入力でしか digest を呼ばない
  · refine @hmacFinal_foldl_congr (sha256BlockDigest arch) fips256BlockDigest _ rfl h256 key parts hkey htext ?_
    show 64 + 32 < 2 ^ 32
    decide
  · refine @hmacFinal_foldl_congr (sha1BlockDigest arch) fips1BlockDigest _ rfl h1 key parts hkey htext ?_
    show 64 + 20 < 2 ^ 32
    decide
  · refine @hmacFinal_foldl_congr md5BlockDigest rfc1321BlockDigest _ rfl h5 key parts hkey htext ?_
    show 64 + 16 < 2 ^ 32
    decide

open FlexBoot.Hmac in
theorem digests_and_hmac_split_abc :
    sha256Final .i386 ([ascii "a", ascii "bc"].foldl (sha256Update .i386) sha256Init) =
        Fips180.sha256 [ascii "a", ascii "bc"].flatten ∧
      hmacFinal (sha256BlockDigest .i386)
          ([ascii "a", ascii "bc"].foldl hmacUpdate (hmacInit (sha256BlockDigest .i386) (ascii "key")).1)
          (hmacInit (sha256BlockDigest .i386) (ascii "key")).2 =
        (hmacRfc2104 fips256BlockDigest (ascii "key") [ascii "a", ascii "bc"].flatten,
          if 64 < (ascii "key").length then Fips180.sha256 (ascii "key") else ascii "key") :=
  ⟨((digests_and_hmac_match_standards .i386).1 _ (by decide +kernel)).1,
    ((digests_and_hmac_match_standards .i386).2 _ _ (by decide +kernel) (by decide +kernel)).1⟩

end FlexBoot.Digest
