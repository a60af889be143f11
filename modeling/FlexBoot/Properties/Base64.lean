import FlexBoot.Core.Base64

/-!
# base64 の往復

`base64_encode` と `base64_decode` を RFC 4648 の base64（3 byte を 4 文字にし、足りない byte を
`=` で埋める）と比べる。

* `base64Encode_eq_rfc4648` — `unsigned int` の `bit` が回らない長さなら、`base64_encode` は
  RFC 4648 の文字列を書き、その長さは `base64_encoded_len` である
* `base64Decode_rfc4648_maxLen` — その文字列を `base64_decoded_max_len` byte の領域に復号する。`=` で
  終われば元の byte 列に戻る。長さが 3 の倍数の空でない byte 列の文字列は `=` で終わらず、最後の文字が
  `raw[ base64_decoded_max_len ]` に触れて止まる
* `base64Decode_rfc4648_zeros` — 0 の領域がそれより長ければ、いつも元の byte 列に戻る
* `base64Decode_zeros_filter_isspace` — 空白はどこに入っても復号の結果を変えない
* `base64Decode_ok_of_length` — 領域が `strlen ( encoded ) + 2` byte あれば、`base64_decode` はその外に
  触れない
* `base64Encode_loops_on_x86_64` — 64 bit の build で `8 * len` が `2 ^ 32` 以上なら、`bit` は
  `raw_bit_len` に届かず、`base64_encode` の loop は終わらない

復号は 4 文字の組ごとに進める。領域 `raw` は `memset` で 0 にしてから `|=` で書くので、読み終えた
byte 列 `P` との関係は「0 で埋めた先まで含めて同じ値」（`Agrees`）で持ち、領域の長さは書いても変わらない。
一文字は `raw_bytes[ bit / 8 + 1 ]` まで書くので、組を読むには組の次の byte まで領域が要る。
-/

namespace FlexBoot

open Infra

/-- 表の `d` 番目の文字。 -/
def base64Char (d : Nat) : UInt8 := base64Alphabet.getD d 0

/-- RFC 4648 の base64。3 byte を上の bit から 6 bit ずつ 4 文字にし、足りない byte は `=` で埋める。 -/
def rfc4648Encode : Bytes → Bytes
  | [] => []
  | [a] => [base64Char (a.toNat / 4), base64Char (a.toNat % 4 * 16), 0x3D, 0x3D]
  | [a, b] =>
    [base64Char (a.toNat / 4), base64Char (a.toNat % 4 * 16 + b.toNat / 16), base64Char (b.toNat % 16 * 4), 0x3D]
  | a :: b :: c :: rest =>
    [base64Char (a.toNat / 4), base64Char (a.toNat % 4 * 16 + b.toNat / 16),
      base64Char (b.toNat % 16 * 4 + c.toNat / 64), base64Char (c.toNat % 64)] ++ rfc4648Encode rest

/-- 符号化した長さは `base64_encoded_len` である。 -/
theorem length_rfc4648Encode : ∀ x : Bytes, (rfc4648Encode x).length = base64EncodedLen x.length
  | [] => rfl
  | [_] => by simp [rfc4648Encode, base64EncodedLen]
  | [_, _] => by simp [rfc4648Encode, base64EncodedLen]
  | _ :: _ :: _ :: rest => by
    rw [rfc4648Encode, List.length_append, length_rfc4648Encode rest]
    simp only [base64EncodedLen, List.length_cons, List.length_nil]
    omega

/-! ## 表 -/

/-- 表の 64 文字は NUL でも空白でも `=` でもなく、`strchr ( base64, c )` はその位置を返す。 -/
theorem base64Char_facts : ∀ d < 64, base64Char d ≠ 0 ∧ isspace (base64Char d) = false ∧
    base64Char d ≠ 0x3D ∧ base64Alphabet.findIdx? (· == base64Char d) = some d := by
  decide +kernel

/-! ## 領域の中の `|=` -/

/-- 領域の中の `raw_bytes[i] |= v`。 -/
def orSet (raw : Bytes) (i : Nat) (v : UInt8) : Bytes := raw.set i (raw.getD i 0 ||| v)

theorem orAt_of_lt {raw : Bytes} {i : Nat} (h : i < raw.length) (v : UInt8) : orAt raw i v = .ok (orSet raw i v) :=
  if_pos h

theorem orAt_of_le {raw : Bytes} {i : Nat} (h : raw.length ≤ i) (v : UInt8) :
    orAt raw i v = .error (.outOfBounds i raw.length) :=
  if_neg (Nat.not_lt.mpr h)

@[simp] theorem length_orSet (raw : Bytes) (i : Nat) (v : UInt8) : (orSet raw i v).length = raw.length :=
  List.length_set

theorem orSet_getD_self {raw : Bytes} {i : Nat} (h : i < raw.length) (v : UInt8) :
    (orSet raw i v).getD i 0 = raw.getD i 0 ||| v := by
  rw [orSet, List.getD_eq_getElem?_getD, List.getElem?_set_self h, Option.getD_some]

theorem orSet_getD_of_ne (raw : Bytes) {i j : Nat} (v : UInt8) (h : j ≠ i) :
    (orSet raw i v).getD j 0 = raw.getD j 0 := by
  rw [orSet, List.getD_eq_getElem?_getD, List.getElem?_set_ne (Ne.symm h), ← List.getD_eq_getElem?_getD]

/-! ## 0 にした領域に書いた byte -/

/-- 復号した領域は、0 で埋めた先まで含めて `P` と同じ値を持つ。 -/
def Agrees (raw P : Bytes) : Prop := ∀ j, raw.getD j 0 = P.getD j 0

/-- `memset` で 0 にした領域は、まだ何も読んでいない。 -/
theorem agrees_replicate_zero (n : Nat) : Agrees (List.replicate n 0) [] := by
  intro j
  rw [List.getD_eq_getElem?_getD, List.getElem?_replicate]
  split <;> rfl

/-- 読み終えた byte 列より先は 0 のままである。 -/
theorem Agrees.getD_eq_zero {raw P : Bytes} (h : Agrees raw P) {k : Nat} (hk : P.length ≤ k) : raw.getD k 0 = 0 := by
  rw [h k, List.getD_eq_getElem?_getD, List.getElem?_eq_none hk, Option.getD_none]

/-- 読み終えた `P` の後ろに `x` を復号した領域：`P` の中は前のまま、`x` の位置にはその byte、
その先は 0 なら、領域は `P ++ x` と同じ値を持つ。 -/
theorem Agrees.append {raw raw' P x : Bytes} (h : Agrees raw P)
    (hlow : ∀ j < P.length, raw'.getD j 0 = raw.getD j 0)
    (hmid : ∀ i < x.length, raw'.getD (P.length + i) 0 = x.getD i 0)
    (hhigh : ∀ j, P.length + x.length ≤ j → raw'.getD j 0 = 0) : Agrees raw' (P ++ x) := by
  intro j
  by_cases hj : j < P.length
  · rw [hlow j hj, h j, List.getD_append _ _ _ _ hj]
  · obtain ⟨i, rfl⟩ := Nat.exists_eq_add_of_le (Nat.le_of_not_lt hj)
    rw [List.getD_append_right _ _ _ _ (Nat.le_add_right _ _), Nat.add_sub_cancel_left]
    by_cases hi : i < x.length
    · exact hmid i hi
    · rw [hhigh _ (by omega), List.getD_eq_default _ _ (by omega)]

/-- 長さが分かれば、領域は `P` の後ろに 0 を並べたものである。 -/
theorem Agrees.eq_append_replicate {raw P : Bytes} (h : Agrees raw P) (hl : P.length ≤ raw.length) :
    raw = P ++ List.replicate (raw.length - P.length) 0 := by
  apply List.ext_getElem
  · simp only [List.length_append, List.length_replicate]
    omega
  · intro j h1 h2
    have hj := h j
    rw [List.getD_eq_getElem _ _ h1] at hj
    rw [hj]
    by_cases hjP : j < P.length
    · rw [List.getElem_append_left hjP, List.getD_eq_getElem _ _ hjP]
    · rw [List.getElem_append_right (by omega), List.getElem_replicate, List.getD_eq_default _ _ (by omega)]

/-! ## byte の組み立て

一つの byte は二つの文字から、上の bit と下の bit に分けて `|=` で組み立てられる。 -/

theorem ofNat_congr {n m : Nat} (h : n % 256 = m % 256) : UInt8.ofNat n = UInt8.ofNat m := by
  rw [← UInt8.ofNat_mod_size', h, UInt8.ofNat_mod_size']

theorem byte_split_four : ∀ n < 256, (0 ||| UInt8.ofNat (n / 4 * 4)) ||| UInt8.ofNat (n % 4) = UInt8.ofNat n := by
  decide +kernel

theorem byte_split_sixteen :
    ∀ n < 256, ((0 ||| UInt8.ofNat 0) ||| UInt8.ofNat (n / 16 * 16)) ||| UInt8.ofNat (n % 16) = UInt8.ofNat n := by
  decide +kernel

theorem byte_split_sixtyfour :
    ∀ n < 256, (0 ||| UInt8.ofNat (n / 64 * 64)) ||| UInt8.ofNat (n % 64) = UInt8.ofNat n := by
  decide +kernel

/-- 最初の byte：一文字目の 6 bit と二文字目の上の 2 bit。 -/
theorem byte_first (a b : UInt8) :
    0 ||| UInt8.ofNat (a.toNat / 4 * 4 / 2 ^ 0) ||| UInt8.ofNat ((a.toNat % 4 * 16 + b.toNat / 16) * 4 / 2 ^ 6) = a := by
  have ha := a.toNat_lt
  have hb := b.toNat_lt
  rw [show a.toNat / 4 * 4 / 2 ^ 0 = a.toNat / 4 * 4 by omega,
    show (a.toNat % 4 * 16 + b.toNat / 16) * 4 / 2 ^ 6 = a.toNat % 4 by omega,
    byte_split_four a.toNat ha, UInt8.ofNat_toNat]

/-- 二つめの byte：二文字目の下の 4 bit と三文字目の上の 4 bit。一文字目は 0 を足す。 -/
theorem byte_second (a b c : UInt8) :
    0 ||| UInt8.ofNat (a.toNat / 4 * 4 * 2 ^ (8 - 0)) ||| UInt8.ofNat ((a.toNat % 4 * 16 + b.toNat / 16) * 4 * 2 ^ (8 - 6)) |||
      UInt8.ofNat ((b.toNat % 16 * 4 + c.toNat / 64) * 4 / 2 ^ 4) = b := by
  have hb := b.toNat_lt
  have hc := c.toNat_lt
  rw [ofNat_congr (show a.toNat / 4 * 4 * 2 ^ (8 - 0) % 256 = 0 % 256 by omega),
    ofNat_congr (show (a.toNat % 4 * 16 + b.toNat / 16) * 4 * 2 ^ (8 - 6) % 256 = b.toNat / 16 * 16 % 256 by omega),
    show (b.toNat % 16 * 4 + c.toNat / 64) * 4 / 2 ^ 4 = b.toNat % 16 by omega]
  exact (byte_split_sixteen b.toNat hb).trans UInt8.ofNat_toNat

/-- 三つめの byte：三文字目の下の 2 bit と四文字目の 6 bit。 -/
theorem byte_third (b c : UInt8) :
    0 ||| UInt8.ofNat ((b.toNat % 16 * 4 + c.toNat / 64) * 4 * 2 ^ (8 - 4)) ||| UInt8.ofNat (c.toNat % 64 * 4 / 2 ^ 2) = c := by
  have hc := c.toNat_lt
  rw [ofNat_congr (show (b.toNat % 16 * 4 + c.toNat / 64) * 4 * 2 ^ (8 - 4) % 256 = c.toNat / 64 * 64 % 256 by omega),
    show c.toNat % 64 * 4 / 2 ^ 2 = c.toNat % 64 by omega]
  exact (byte_split_sixtyfour c.toNat hc).trans UInt8.ofNat_toNat

/-- 四文字目は次の byte に 0 を足す。 -/
theorem byte_next (c : UInt8) : 0 ||| UInt8.ofNat (c.toNat % 64 * 4 * 2 ^ (8 - 2)) = 0 := by
  rw [ofNat_congr (show c.toNat % 64 * 4 * 2 ^ (8 - 2) % 256 = 0 % 256 by omega)]
  rfl

/-- 1 byte だけの組の最初の byte：二文字目は上の 2 bit だけを持つ。 -/
theorem byte_only (a : UInt8) :
    0 ||| UInt8.ofNat (a.toNat / 4 * 4 / 2 ^ 0) ||| UInt8.ofNat (a.toNat % 4 * 16 * 4 / 2 ^ 6) = a := by
  have ha := a.toNat_lt
  rw [show a.toNat / 4 * 4 / 2 ^ 0 = a.toNat / 4 * 4 by omega,
    show a.toNat % 4 * 16 * 4 / 2 ^ 6 = a.toNat % 4 by omega, byte_split_four a.toNat ha, UInt8.ofNat_toNat]

/-- 1 byte だけの組の次の byte には 0 しか足さない。 -/
theorem byte_only_next (a : UInt8) :
    0 ||| UInt8.ofNat (a.toNat / 4 * 4 * 2 ^ (8 - 0)) ||| UInt8.ofNat (a.toNat % 4 * 16 * 4 * 2 ^ (8 - 6)) = 0 := by
  rw [ofNat_congr (show a.toNat / 4 * 4 * 2 ^ (8 - 0) % 256 = 0 % 256 by omega),
    ofNat_congr (show a.toNat % 4 * 16 * 4 * 2 ^ (8 - 6) % 256 = 0 % 256 by omega)]
  rfl

/-- 2 byte の組の二つめの byte：三文字目は上の 4 bit だけを持つ。 -/
theorem byte_second_last (a b : UInt8) :
    0 ||| UInt8.ofNat (a.toNat / 4 * 4 * 2 ^ (8 - 0)) ||| UInt8.ofNat ((a.toNat % 4 * 16 + b.toNat / 16) * 4 * 2 ^ (8 - 6)) |||
      UInt8.ofNat (b.toNat % 16 * 4 * 4 / 2 ^ 4) = b := by
  have hb := b.toNat_lt
  rw [ofNat_congr (show a.toNat / 4 * 4 * 2 ^ (8 - 0) % 256 = 0 % 256 by omega),
    ofNat_congr (show (a.toNat % 4 * 16 + b.toNat / 16) * 4 * 2 ^ (8 - 6) % 256 = b.toNat / 16 * 16 % 256 by omega),
    show b.toNat % 16 * 4 * 4 / 2 ^ 4 = b.toNat % 16 by omega]
  exact (byte_split_sixteen b.toNat hb).trans UInt8.ofNat_toNat

/-- 2 byte の組の次の byte には 0 しか足さない。 -/
theorem byte_second_last_next (b : UInt8) : 0 ||| UInt8.ofNat (b.toNat % 16 * 4 * 4 * 2 ^ (8 - 4)) = 0 := by
  rw [ofNat_congr (show b.toNat % 16 * 4 * 4 * 2 ^ (8 - 4) % 256 = 0 % 256 by omega)]
  rfl

/-! ## 復号の一歩

`base64_decode` の loop を一文字ずつ開く式。後の証明はこの二つだけを使い、定義を開かない。 -/

theorem base64DecodeLoop_nil (bit padCount : Nat) (raw : Bytes) :
    base64DecodeLoop [] bit padCount raw = .ok (some (bit, raw)) := rfl

theorem base64DecodeLoop_cons (c : UInt8) (cs : Bytes) (bit padCount : Nat) (raw : Bytes) :
    base64DecodeLoop (c :: cs) bit padCount raw =
      if c = 0 then .ok (some (bit, raw))
      else if isspace c then base64DecodeLoop cs bit padCount raw
      else if c = 0x3D then
        if 2 ≤ padCount then .ok none
        else base64DecodeLoop cs ((bit + 2 ^ 32 - 2) % 2 ^ 32) (padCount + 1) raw
      else if padCount ≠ 0 then .ok none
      else match base64Alphabet.findIdx? (· == c) with
        | none => .ok none
        | some d => (do
          let raw ← orAt raw (bit / 8) (UInt8.ofNat (d * 4 / 2 ^ (bit % 8)))
          let raw ← orAt raw (bit / 8 + 1) (UInt8.ofNat (d * 4 * 2 ^ (8 - bit % 8)))
          base64DecodeLoop cs ((bit + 6) % 2 ^ 32) padCount raw) := rfl

/-! ## 復号の一文字 -/

/-- 表の文字は、`decoded <<= 2` の上の bit を `bit / 8` の byte に、下の bit を次の byte に足す。
どちらの byte も領域の中にあるときである。 -/
theorem base64DecodeLoop_char {d : Nat} (hd : d < 64) (cs : Bytes) {bit : Nat} {raw : Bytes}
    (hfit : bit / 8 + 1 < raw.length) :
    base64DecodeLoop (base64Char d :: cs) bit 0 raw =
      base64DecodeLoop cs ((bit + 6) % 2 ^ 32) 0
        (orSet (orSet raw (bit / 8) (UInt8.ofNat (d * 4 / 2 ^ (bit % 8)))) (bit / 8 + 1)
          (UInt8.ofNat (d * 4 * 2 ^ (8 - bit % 8)))) := by
  obtain ⟨h0, hsp, heq, hidx⟩ := base64Char_facts d hd
  simp only [base64DecodeLoop_cons, h0, hsp, heq, hidx, if_false, Bool.false_eq_true, ne_eq, not_true_eq_false]
  rw [orAt_of_lt (by omega), ok_bind, orAt_of_lt (by rw [length_orSet]; exact hfit), ok_bind]

/-- 次の byte が領域の一つ先なら、二つめの `|=` がそこに触れて止まる。 -/
theorem base64DecodeLoop_char_overrun {d : Nat} (hd : d < 64) (cs : Bytes) {bit : Nat} {raw : Bytes}
    (hlen : raw.length = bit / 8 + 1) :
    base64DecodeLoop (base64Char d :: cs) bit 0 raw = .error (.outOfBounds (bit / 8 + 1) raw.length) := by
  obtain ⟨h0, hsp, heq, hidx⟩ := base64Char_facts d hd
  simp only [base64DecodeLoop_cons, h0, hsp, heq, hidx, if_false, Bool.false_eq_true, ne_eq, not_true_eq_false]
  rw [orAt_of_lt (by omega), ok_bind, orAt_of_le (by rw [length_orSet]; omega), length_orSet]
  rfl

/-- `=` は `bit` から 2 を引き、`pad_count` を数える。 -/
theorem base64DecodeLoop_pad (cs : Bytes) (bit pad : Nat) (raw : Bytes) (hpad : pad < 2) :
    base64DecodeLoop (0x3D :: cs) bit pad raw =
      base64DecodeLoop cs ((bit + 2 ^ 32 - 2) % 2 ^ 32) (pad + 1) raw := by
  rw [base64DecodeLoop_cons, if_neg (by decide), if_neg (by decide), if_pos rfl, if_neg (by omega)]

/-- 4 文字の組は、読み終えた byte 列の後ろに 3 byte を足す。最後の文字は組の次の byte に 0 を足すので、
領域はその byte まで要る。 -/
theorem base64DecodeLoop_group {P raw : Bytes} (hraw : Agrees raw P) (a b c : UInt8) (cs : Bytes)
    (hbit : 8 * P.length + 24 < 2 ^ 32) (hfit : P.length + 3 < raw.length) :
    ∃ raw', base64DecodeLoop ([base64Char (a.toNat / 4), base64Char (a.toNat % 4 * 16 + b.toNat / 16),
          base64Char (b.toNat % 16 * 4 + c.toNat / 64), base64Char (c.toNat % 64)] ++ cs) (8 * P.length) 0 raw =
        base64DecodeLoop cs (8 * (P.length + 3)) 0 raw' ∧
      Agrees raw' (P ++ [a, b, c]) ∧ raw'.length = raw.length := by
  have ha := a.toNat_lt
  have hb := b.toNat_lt
  have hc := c.toNat_lt
  have h1 : (8 * P.length + 6) % 2 ^ 32 = 8 * P.length + 6 := by omega
  have h2 : (8 * P.length + 6 + 6) % 2 ^ 32 = 8 * P.length + 12 := by omega
  have h3 : (8 * P.length + 12 + 6) % 2 ^ 32 = 8 * P.length + 18 := by omega
  have h4 : (8 * P.length + 18 + 6) % 2 ^ 32 = 8 * (P.length + 3) := by omega
  simp only [List.cons_append, List.nil_append]
  rw [base64DecodeLoop_char (by omega) _ (by omega), h1,
    base64DecodeLoop_char (by omega) _ (by simp only [length_orSet]; omega), h2,
    base64DecodeLoop_char (by omega) _ (by simp only [length_orSet]; omega), h3,
    base64DecodeLoop_char (by omega) _ (by simp only [length_orSet]; omega), h4]
  have e0 : 8 * P.length / 8 = P.length := by omega
  have m0 : 8 * P.length % 8 = 0 := by omega
  have e1 : (8 * P.length + 6) / 8 = P.length := by omega
  have m1 : (8 * P.length + 6) % 8 = 6 := by omega
  have e2 : (8 * P.length + 12) / 8 = P.length + 1 := by omega
  have m2 : (8 * P.length + 12) % 8 = 4 := by omega
  have e3 : (8 * P.length + 18) / 8 = P.length + 2 := by omega
  have m3 : (8 * P.length + 18) % 8 = 2 := by omega
  have hP : ∀ k, P.length ≤ k → raw.getD k 0 = 0 := fun k hk => hraw.getD_eq_zero hk
  refine ⟨_, rfl, hraw.append (fun j hj => ?_) (fun i hi => ?_) (fun j hj => ?_), by simp only [length_orSet]⟩
  all_goals simp only [e0, m0, e1, m1, e2, m2, e3, m3]
  · simp (disch := omega) only [orSet_getD_of_ne]
  · -- 組の 3 byte には、それぞれ二つの文字の `|=` が重なる
    rcases (show i = 0 ∨ i = 1 ∨ i = 2 by simp only [List.length_cons, List.length_nil] at hi; omega)
      with rfl | rfl | rfl
    · simp (disch := ((try simp only [length_orSet]); omega)) only [Nat.add_zero, orSet_getD_self, orSet_getD_of_ne]
      rw [hP _ le_rfl]
      exact byte_first a b
    · simp (disch := ((try simp only [length_orSet]); omega)) only [orSet_getD_self, orSet_getD_of_ne]
      rw [hP _ (by omega)]
      exact byte_second a b c
    · simp (disch := ((try simp only [length_orSet]); omega)) only [orSet_getD_self, orSet_getD_of_ne]
      rw [hP _ (by omega)]
      exact byte_third b c
  · -- 組の次の byte には最後の文字が 0 を足すだけで、その先には書かない
    simp only [List.length_cons, List.length_nil] at hj
    by_cases hnext : j = P.length + 2 + 1
    · subst hnext
      simp (disch := ((try simp only [length_orSet]); omega)) only [orSet_getD_self, orSet_getD_of_ne]
      rw [hP _ (by omega)]
      exact byte_next c
    · simp (disch := omega) only [orSet_getD_of_ne]
      exact hP j (by omega)

/-- 領域が組の 3 byte で終わっていれば、最後の文字が組の次の byte に触れて止まる。 -/
theorem base64DecodeLoop_group_overrun {P raw : Bytes} (a b c : UInt8) (cs : Bytes)
    (hbit : 8 * P.length + 24 < 2 ^ 32) (hlen : raw.length = P.length + 3) :
    base64DecodeLoop ([base64Char (a.toNat / 4), base64Char (a.toNat % 4 * 16 + b.toNat / 16),
        base64Char (b.toNat % 16 * 4 + c.toNat / 64), base64Char (c.toNat % 64)] ++ cs) (8 * P.length) 0 raw =
      .error (.outOfBounds (P.length + 3) (P.length + 3)) := by
  have ha := a.toNat_lt
  have hb := b.toNat_lt
  have hc := c.toNat_lt
  generalize hL : P.length = L at hbit hlen
  have h1 : (8 * L + 6) % 2 ^ 32 = 8 * L + 6 := by omega
  have h2 : (8 * L + 6 + 6) % 2 ^ 32 = 8 * L + 12 := by omega
  have h3 : (8 * L + 12 + 6) % 2 ^ 32 = 8 * L + 18 := by omega
  simp only [List.cons_append, List.nil_append]
  rw [base64DecodeLoop_char (by omega) _ (by omega), h1,
    base64DecodeLoop_char (by omega) _ (by simp only [length_orSet]; omega), h2,
    base64DecodeLoop_char (by omega) _ (by simp only [length_orSet]; omega), h3,
    base64DecodeLoop_char_overrun (by omega) _ (by simp only [length_orSet]; omega)]
  simp only [length_orSet, hlen]
  rw [show (8 * L + 18) / 8 + 1 = L + 3 by omega]

/-- 1 byte だけの組：二文字と `==`。 -/
theorem base64DecodeLoop_one {P raw : Bytes} (hraw : Agrees raw P) (a : UInt8) (hbit : 8 * P.length + 12 < 2 ^ 32)
    (hfit : P.length + 1 < raw.length) :
    ∃ raw', base64DecodeLoop (rfc4648Encode [a]) (8 * P.length) 0 raw = .ok (some (8 * (P.length + 1), raw')) ∧
      Agrees raw' (P ++ [a]) ∧ raw'.length = raw.length := by
  have ha := a.toNat_lt
  have h1 : (8 * P.length + 6) % 2 ^ 32 = 8 * P.length + 6 := by omega
  have h2 : (8 * P.length + 6 + 6) % 2 ^ 32 = 8 * P.length + 12 := by omega
  have h3 : (8 * P.length + 12 + 2 ^ 32 - 2) % 2 ^ 32 = 8 * P.length + 10 := by omega
  have h4 : (8 * P.length + 10 + 2 ^ 32 - 2) % 2 ^ 32 = 8 * (P.length + 1) := by omega
  rw [rfc4648Encode, base64DecodeLoop_char (by omega) _ (by omega), h1,
    base64DecodeLoop_char (by omega) _ (by simp only [length_orSet]; omega), h2,
    base64DecodeLoop_pad _ _ _ _ (by omega), h3, base64DecodeLoop_pad _ _ _ _ (by omega), h4, base64DecodeLoop_nil]
  have e0 : 8 * P.length / 8 = P.length := by omega
  have m0 : 8 * P.length % 8 = 0 := by omega
  have e1 : (8 * P.length + 6) / 8 = P.length := by omega
  have m1 : (8 * P.length + 6) % 8 = 6 := by omega
  have hP : ∀ k, P.length ≤ k → raw.getD k 0 = 0 := fun k hk => hraw.getD_eq_zero hk
  refine ⟨_, rfl, hraw.append (fun j hj => ?_) (fun i hi => ?_) (fun j hj => ?_), by simp only [length_orSet]⟩
  all_goals simp only [e0, m0, e1, m1]
  · simp (disch := omega) only [orSet_getD_of_ne]
  · obtain rfl : i = 0 := by simpa using hi
    simp (disch := ((try simp only [length_orSet]); omega)) only [Nat.add_zero, orSet_getD_self, orSet_getD_of_ne]
    rw [hP _ le_rfl]
    exact byte_only a
  · simp only [List.length_cons, List.length_nil] at hj
    by_cases hnext : j = P.length + 1
    · subst hnext
      simp (disch := ((try simp only [length_orSet]); omega)) only [orSet_getD_self, orSet_getD_of_ne]
      rw [hP _ (by omega)]
      exact byte_only_next a
    · simp (disch := omega) only [orSet_getD_of_ne]
      exact hP j (by omega)

/-- 2 byte の組：三文字と `=`。 -/
theorem base64DecodeLoop_two {P raw : Bytes} (hraw : Agrees raw P) (a b : UInt8) (hbit : 8 * P.length + 18 < 2 ^ 32)
    (hfit : P.length + 2 < raw.length) :
    ∃ raw', base64DecodeLoop (rfc4648Encode [a, b]) (8 * P.length) 0 raw = .ok (some (8 * (P.length + 2), raw')) ∧
      Agrees raw' (P ++ [a, b]) ∧ raw'.length = raw.length := by
  have ha := a.toNat_lt
  have hb := b.toNat_lt
  have h1 : (8 * P.length + 6) % 2 ^ 32 = 8 * P.length + 6 := by omega
  have h2 : (8 * P.length + 6 + 6) % 2 ^ 32 = 8 * P.length + 12 := by omega
  have h3 : (8 * P.length + 12 + 6) % 2 ^ 32 = 8 * P.length + 18 := by omega
  have h4 : (8 * P.length + 18 + 2 ^ 32 - 2) % 2 ^ 32 = 8 * (P.length + 2) := by omega
  rw [rfc4648Encode, base64DecodeLoop_char (by omega) _ (by omega), h1,
    base64DecodeLoop_char (by omega) _ (by simp only [length_orSet]; omega), h2,
    base64DecodeLoop_char (by omega) _ (by simp only [length_orSet]; omega), h3,
    base64DecodeLoop_pad _ _ _ _ (by omega), h4, base64DecodeLoop_nil]
  have e0 : 8 * P.length / 8 = P.length := by omega
  have m0 : 8 * P.length % 8 = 0 := by omega
  have e1 : (8 * P.length + 6) / 8 = P.length := by omega
  have m1 : (8 * P.length + 6) % 8 = 6 := by omega
  have e2 : (8 * P.length + 12) / 8 = P.length + 1 := by omega
  have m2 : (8 * P.length + 12) % 8 = 4 := by omega
  have hP : ∀ k, P.length ≤ k → raw.getD k 0 = 0 := fun k hk => hraw.getD_eq_zero hk
  refine ⟨_, rfl, hraw.append (fun j hj => ?_) (fun i hi => ?_) (fun j hj => ?_), by simp only [length_orSet]⟩
  all_goals simp only [e0, m0, e1, m1, e2, m2]
  · simp (disch := omega) only [orSet_getD_of_ne]
  · rcases (show i = 0 ∨ i = 1 by simp only [List.length_cons, List.length_nil] at hi; omega) with rfl | rfl
    · simp (disch := ((try simp only [length_orSet]); omega)) only [Nat.add_zero, orSet_getD_self, orSet_getD_of_ne]
      rw [hP _ le_rfl]
      exact byte_first a b
    · simp (disch := ((try simp only [length_orSet]); omega)) only [orSet_getD_self, orSet_getD_of_ne]
      rw [hP _ (by omega)]
      exact byte_second_last a b
  · simp only [List.length_cons, List.length_nil] at hj
    by_cases hnext : j = P.length + 2
    · subst hnext
      simp (disch := ((try simp only [length_orSet]); omega)) only [orSet_getD_self, orSet_getD_of_ne]
      rw [hP _ (by omega)]
      exact byte_second_last_next b
    · simp (disch := omega) only [orSet_getD_of_ne]
      exact hP j (by omega)

/-- RFC 4648 の文字列を、読み終えた byte 列 `P` の後から読むと、`P` の後ろに元の byte 列を足す。
領域は元の byte 列の一つ先の byte まで要る。 -/
theorem base64DecodeLoop_rfc4648 : ∀ (x P raw : Bytes), Agrees raw P → 8 * (P.length + x.length) + 24 ≤ 2 ^ 32 →
    (x ≠ [] → P.length + x.length < raw.length) →
    ∃ raw', base64DecodeLoop (rfc4648Encode x) (8 * P.length) 0 raw = .ok (some (8 * (P.length + x.length), raw')) ∧
      Agrees raw' (P ++ x) ∧ raw'.length = raw.length
  | [], P, raw, hraw, _, _ => ⟨raw, rfl, by rw [List.append_nil]; exact hraw, rfl⟩
  | [a], _, _, hraw, hbit, hfit => by
    have hfit' := hfit (List.cons_ne_nil _ _)
    simp only [List.length_cons, List.length_nil] at hbit hfit'
    exact base64DecodeLoop_one hraw a (by omega) (by omega)
  | [a, b], _, _, hraw, hbit, hfit => by
    have hfit' := hfit (List.cons_ne_nil _ _)
    simp only [List.length_cons, List.length_nil] at hbit hfit'
    exact base64DecodeLoop_two hraw a b (by omega) (by omega)
  | a :: b :: c :: rest, P, raw, hraw, hbit, hfit => by
    have hfit' := hfit (List.cons_ne_nil _ _)
    simp only [List.length_cons] at hbit hfit'
    obtain ⟨raw1, e1, h1, l1⟩ := base64DecodeLoop_group hraw a b c (rfc4648Encode rest) (by omega) (by omega)
    obtain ⟨raw2, e2, h2, l2⟩ := base64DecodeLoop_rfc4648 rest (P ++ [a, b, c]) raw1 h1
      (by simp only [List.length_append, List.length_cons, List.length_nil]; omega)
      (fun _ => by simp only [List.length_append, List.length_cons, List.length_nil]; omega)
    refine ⟨raw2, ?_, by rw [List.append_assoc] at h2; exact h2, l2.trans l1⟩
    rw [rfc4648Encode, e1, show P.length + 3 = (P ++ [a, b, c]).length by simp, e2]
    simp only [List.length_append, List.length_cons, List.length_nil]
    congr 4
    omega

/-- 長さが 3 の倍数の空でない byte 列の文字列は `=` で終わらない。領域が元の byte 列の長さで
終わっていれば、最後の文字がその一つ先の byte に触れて止まる。 -/
theorem base64DecodeLoop_rfc4648_overrun : ∀ (x P raw : Bytes), Agrees raw P →
    8 * (P.length + x.length) + 24 ≤ 2 ^ 32 → x ≠ [] → x.length % 3 = 0 → raw.length = P.length + x.length →
    base64DecodeLoop (rfc4648Encode x) (8 * P.length) 0 raw = .error (.outOfBounds (P.length + x.length) raw.length)
  | [], _, _, _, _, hne, _, _ => absurd rfl hne
  | [_], _, _, _, _, _, h3, _ => by simp at h3
  | [_, _], _, _, _, _, _, h3, _ => by simp at h3
  | [a, b, c], P, raw, _, hbit, _, _, hlen => by
    simp only [List.length_cons, List.length_nil] at hbit hlen ⊢
    rw [rfc4648Encode, base64DecodeLoop_group_overrun a b c _ (by omega) hlen, hlen]
  | a :: b :: c :: d :: rest, P, raw, hraw, hbit, _, h3, hlen => by
    simp only [List.length_cons] at hbit h3 hlen
    obtain ⟨raw1, e1, h1, l1⟩ := base64DecodeLoop_group hraw a b c (rfc4648Encode (d :: rest)) (by omega) (by omega)
    have ih := base64DecodeLoop_rfc4648_overrun (d :: rest) (P ++ [a, b, c]) raw1 h1
      (by simp only [List.length_append, List.length_cons, List.length_nil]; omega) (List.cons_ne_nil _ _)
      (by simp only [List.length_cons]; omega)
      (by simp only [List.length_append, List.length_cons, List.length_nil]; omega)
    rw [rfc4648Encode, e1, show P.length + 3 = (P ++ [a, b, c]).length by simp, ih, l1]
    simp only [List.length_append, List.length_cons, List.length_nil]
    congr 2
    omega

/-! ## `base64_decode` -/

/-- `memset ( raw, 0, m )` は先頭の `m` byte を 0 にする。 -/
theorem wr_replicate_zero {raw : Bytes} {m : Nat} (h : m ≤ raw.length) :
    wr raw 0 (List.replicate m 0) = .ok (List.replicate m 0 ++ raw.drop m) := by
  rw [wr_ok (by simpa using h)]
  simp [splice]

/-- 0 だけの領域の `memset` は何も変えない。 -/
theorem wr_zeros {m n : Nat} (h : m ≤ n) : wr (List.replicate n 0) 0 (List.replicate m 0) = .ok (List.replicate n 0) := by
  rw [wr_replicate_zero (by simpa using h), List.drop_replicate, List.replicate_append_replicate,
    Nat.add_sub_cancel' h]

/-- loop が `bit = 8 * k` で読み終えれば、`base64_decode` は `k` byte を返す。 -/
theorem base64Decode_of_loop {encoded raw buf raw' : Bytes} {k : Nat}
    (hmemset : wr raw 0 (List.replicate (base64DecodedMaxLen encoded) 0) = .ok buf)
    (hloop : base64DecodeLoop encoded 0 0 buf = .ok (some (8 * k, raw'))) :
    base64Decode encoded raw = .ok (some (k, raw')) := by
  rw [base64Decode, hmemset, ok_bind, hloop, ok_bind]
  simp only [Nat.mul_mod_right, ne_eq, not_true_eq_false, if_false, Nat.mul_div_cancel_left _ (show 0 < 8 by decide)]
  rfl

/-- loop が領域の外に触れれば、`base64_decode` もそこで止まる。 -/
theorem base64Decode_of_loop_error {encoded raw buf : Bytes} {f : Fault}
    (hmemset : wr raw 0 (List.replicate (base64DecodedMaxLen encoded) 0) = .ok buf)
    (hloop : base64DecodeLoop encoded 0 0 buf = .error f) :
    base64Decode encoded raw = .error f := by
  rw [base64Decode, hmemset, ok_bind, hloop]
  rfl

theorem cstr_cons (c : UInt8) (cs : Bytes) : cstr (c :: cs) = if c = 0 then [] else c :: cstr cs := by
  by_cases h : c = 0 <;> simp [cstr, h]

theorem base64Char_ne_zero {d : Nat} (hd : d < 64) : base64Char d ≠ 0 := (base64Char_facts d hd).1

/-- RFC 4648 の文字列に NUL はないので、`strlen` はその長さである。 -/
theorem zero_not_mem_rfc4648Encode : ∀ x : Bytes, (0 : UInt8) ∉ rfc4648Encode x
  | [] => List.not_mem_nil
  | [a] => by
    have ha := a.toNat_lt
    simp only [rfc4648Encode, List.mem_cons, List.not_mem_nil, or_false, not_or]
    exact ⟨(base64Char_ne_zero (by omega)).symm, (base64Char_ne_zero (by omega)).symm, by decide, by decide⟩
  | [a, b] => by
    have ha := a.toNat_lt
    have hb := b.toNat_lt
    simp only [rfc4648Encode, List.mem_cons, List.not_mem_nil, or_false, not_or]
    exact ⟨(base64Char_ne_zero (by omega)).symm, (base64Char_ne_zero (by omega)).symm,
      (base64Char_ne_zero (by omega)).symm, by decide⟩
  | a :: b :: c :: rest => by
    have ha := a.toNat_lt
    have hb := b.toNat_lt
    have hc := c.toNat_lt
    simp only [rfc4648Encode, List.cons_append, List.nil_append, List.mem_cons, not_or]
    exact ⟨(base64Char_ne_zero (by omega)).symm, (base64Char_ne_zero (by omega)).symm,
      (base64Char_ne_zero (by omega)).symm, (base64Char_ne_zero (by omega)).symm, zero_not_mem_rfc4648Encode rest⟩

/-- `base64_decoded_max_len` は元の byte 列の長さを 3 の倍数に切り上げたものである。 -/
theorem base64DecodedMaxLen_rfc4648Encode (x : Bytes) :
    base64DecodedMaxLen (rfc4648Encode x) = (x.length + 2) / 3 * 3 := by
  rw [base64DecodedMaxLen, cstr_eq_self (zero_not_mem_rfc4648Encode x), length_rfc4648Encode, base64EncodedLen]
  omega

/-- `base64_decoded_max_len` byte の領域に RFC 4648 の文字列を復号する。`=` で終われば元の byte 列に戻る。
`=` で終わらなければ（長さが 3 の倍数の空でない byte 列）、最後の文字が領域の一つ先の byte に触れて止まる。 -/
theorem base64Decode_rfc4648_maxLen (x : Bytes) (hx : 8 * x.length + 24 ≤ 2 ^ 32) {raw : Bytes}
    (hraw : raw.length = base64DecodedMaxLen (rfc4648Encode x)) :
    base64Decode (rfc4648Encode x) raw =
      if x ≠ [] ∧ x.length % 3 = 0 then .error (.outOfBounds x.length x.length)
      else .ok (some (x.length, x ++ List.replicate (raw.length - x.length) 0)) := by
  -- `memset` は領域のすべてを 0 にする
  have hmemset : wr raw 0 (List.replicate (base64DecodedMaxLen (rfc4648Encode x)) 0) =
      .ok (List.replicate raw.length 0) := by
    rw [← hraw, wr_replicate_zero le_rfl, List.drop_length, List.append_nil]
  rw [base64DecodedMaxLen_rfc4648Encode] at hraw
  have hz := agrees_replicate_zero raw.length
  split
  · next hbad =>
    obtain ⟨hne, h3⟩ := hbad
    have hlen : raw.length = x.length := by omega
    apply base64Decode_of_loop_error hmemset
    have hover := base64DecodeLoop_rfc4648_overrun x [] _ hz (by simpa using hx) hne h3 (by simp [hlen])
    simpa [hlen] using hover
  · next hok =>
    have hfit : x ≠ [] → x.length < raw.length := by
      intro hne
      have h3 : x.length % 3 ≠ 0 := fun h => hok ⟨hne, h⟩
      omega
    obtain ⟨raw', hloop, hagree, hlen'⟩ :=
      base64DecodeLoop_rfc4648 x [] _ hz (by simpa using hx) (by simpa using hfit)
    simp only [List.length_nil, Nat.zero_add, Nat.mul_zero, List.nil_append, List.length_replicate] at hloop hagree hlen'
    have hr : raw' = x ++ List.replicate (raw.length - x.length) 0 := by
      rw [← hlen']
      exact hagree.eq_append_replicate (by omega)
    rw [base64Decode_of_loop hmemset hloop, hr]

/-- 0 の領域が `base64_decoded_max_len` より長ければ、RFC 4648 の文字列はいつも元の byte 列に戻る。 -/
theorem base64Decode_rfc4648_zeros (x : Bytes) (hx : 8 * x.length + 24 ≤ 2 ^ 32) {n : Nat}
    (hn : base64DecodedMaxLen (rfc4648Encode x) < n) :
    base64Decode (rfc4648Encode x) (List.replicate n 0) =
      .ok (some (x.length, x ++ List.replicate (n - x.length) 0)) := by
  have hmax := base64DecodedMaxLen_rfc4648Encode x
  obtain ⟨raw', hloop, hagree, hlen'⟩ :=
    base64DecodeLoop_rfc4648 x [] _ (agrees_replicate_zero n) (by simpa using hx) (fun _ => by simp; omega)
  simp only [List.length_nil, Nat.zero_add, Nat.mul_zero, List.nil_append, List.length_replicate] at hloop hagree hlen'
  have hr : raw' = x ++ List.replicate (n - x.length) 0 := by
    rw [← hlen']
    exact hagree.eq_append_replicate (by omega)
  rw [base64Decode_of_loop (wr_zeros (Nat.le_of_lt hn)) hloop, hr]

/-! ## 空白 -/

/-- 空白は読み飛ばされる：空白を除いた文字列を読んでも、どの状態からでも同じ結果になる。 -/
theorem base64DecodeLoop_filter_isspace : ∀ (s : Bytes) (bit pad : Nat) (raw : Bytes),
    base64DecodeLoop (s.filter fun c => !isspace c) bit pad raw = base64DecodeLoop s bit pad raw
  | [], _, _, _ => rfl
  | c :: cs, bit, pad, raw => by
    by_cases hc : isspace c = true
    · have h0 : c ≠ 0 := by rintro rfl; exact absurd hc (by decide)
      rw [List.filter_cons_of_neg (by simp [hc]), base64DecodeLoop_filter_isspace cs]
      conv_rhs => rw [base64DecodeLoop_cons, if_neg h0, if_pos hc]
    · rw [List.filter_cons_of_pos (by simpa using hc)]
      simp only [base64DecodeLoop_cons, base64DecodeLoop_filter_isspace cs]

/-- NUL は空白でないので、空白を除いてから NUL で切っても、NUL で切ってから空白を除いても同じである。 -/
theorem cstr_filter_isspace : ∀ s : Bytes, cstr (s.filter fun c => !isspace c) = (cstr s).filter fun c => !isspace c
  | [] => rfl
  | c :: cs => by
    by_cases h0 : c = 0
    · subst h0
      rw [List.filter_cons_of_pos (by decide), cstr_cons, if_pos rfl, cstr_cons, if_pos rfl, List.filter_nil]
    · by_cases hc : isspace c = true
      · rw [List.filter_cons_of_neg (by simp [hc]), cstr_filter_isspace cs, cstr_cons, if_neg h0,
          List.filter_cons_of_neg (by simp [hc])]
      · rw [List.filter_cons_of_pos (by simpa using hc), cstr_cons, if_neg h0, cstr_filter_isspace cs, cstr_cons,
          if_neg h0, List.filter_cons_of_pos (by simpa using hc)]

theorem base64DecodedMaxLen_filter_isspace_le (s : Bytes) :
    base64DecodedMaxLen (s.filter fun c => !isspace c) ≤ base64DecodedMaxLen s := by
  have hle := List.length_filter_le (fun c => !isspace c) (cstr s)
  unfold base64DecodedMaxLen
  rw [cstr_filter_isspace]
  exact Nat.mul_le_mul_right _ (Nat.div_le_div_right (by omega))

/-- 0 の領域が空白を含む文字列の `base64_decoded_max_len` 以上あれば、空白を除いた文字列を復号しても
同じ結果になる。 -/
theorem base64Decode_zeros_filter_isspace (s : Bytes) {n : Nat} (hn : base64DecodedMaxLen s ≤ n) :
    base64Decode (s.filter fun c => !isspace c) (List.replicate n 0) = base64Decode s (List.replicate n 0) := by
  unfold base64Decode
  rw [wr_zeros hn, wr_zeros ((base64DecodedMaxLen_filter_isspace_le s).trans hn), ok_bind, ok_bind,
    base64DecodeLoop_filter_isspace]

/-! ## 領域の外に触れない長さ -/

/-- 普通の文字は `bit / 8 + 1` までにしか書かない。残りの文字がすべて書いても領域に収まるなら、
loop は止まらない。`=` の後は何も書かない。 -/
theorem base64DecodeLoop_ok : ∀ (s : Bytes) (bit pad : Nat) (raw : Bytes),
    (pad = 0 → bit + 6 * (cstr s).length + 3 ≤ 8 * raw.length) → ∃ r, base64DecodeLoop s bit pad raw = .ok r
  | [], _, _, _, _ => ⟨_, rfl⟩
  | c :: cs, bit, pad, raw, hfit => by
    rw [base64DecodeLoop_cons]
    by_cases h0 : c = 0
    · rw [if_pos h0]
      exact ⟨_, rfl⟩
    have hcs : (cstr (c :: cs)).length = (cstr cs).length + 1 := by
      rw [cstr_cons, if_neg h0, List.length_cons]
    rw [if_neg h0]
    by_cases hsp : isspace c = true
    · rw [if_pos hsp]
      exact base64DecodeLoop_ok cs bit pad raw fun hp => by have := hfit hp; omega
    rw [if_neg hsp]
    by_cases heq : c = 0x3D
    · rw [if_pos heq]
      split
      · exact ⟨_, rfl⟩
      · exact base64DecodeLoop_ok cs _ (pad + 1) raw fun hp => absurd hp (Nat.succ_ne_zero pad)
    rw [if_neg heq]
    by_cases hpad : pad ≠ 0
    · rw [if_pos hpad]
      exact ⟨_, rfl⟩
    rw [if_neg hpad]
    have hf := hfit (not_not.mp hpad)
    split
    · exact ⟨_, rfl⟩
    · -- 二つの `|=` は `bit / 8 + 1` までで、領域の中にある
      rw [orAt_of_lt (by omega), ok_bind, orAt_of_lt (by rw [length_orSet]; omega), ok_bind]
      refine base64DecodeLoop_ok cs _ pad _ fun _ => ?_
      simp only [length_orSet]
      omega

/-- 領域が `strlen ( encoded ) + 2` byte あれば、`base64_decode` はその外に触れない。 -/
theorem base64Decode_ok_of_length {encoded raw : Bytes} (h : (cstr encoded).length + 2 ≤ raw.length) :
    ∃ r, base64Decode encoded raw = .ok r := by
  have hmax : base64DecodedMaxLen encoded ≤ raw.length := by
    unfold base64DecodedMaxLen
    omega
  obtain ⟨r, hr⟩ := base64DecodeLoop_ok encoded 0 0
    (List.replicate (base64DecodedMaxLen encoded) 0 ++ raw.drop (base64DecodedMaxLen encoded)) fun _ => by
      simp only [List.length_append, List.length_replicate, List.length_drop]
      omega
  rw [base64Decode, wr_replicate_zero hmax, ok_bind, hr, ok_bind]
  rcases r with _ | ⟨bit, raw'⟩
  · exact ⟨_, rfl⟩
  · exact ⟨_, rfl⟩

/-! ## 符号化の一文字 -/

/-- `bit` から始まる 6 bit：`bit / 8` の byte を `shift` だけ上げ、次の byte があればその上の
`shift` bit を足して、上から 6 bit を取る。 -/
theorem base64EncodeChar_eq (raw : Bytes) (bit : Nat) :
    base64EncodeChar raw bit = base64Char (((raw.getD (bit / 8) 0).toNat * 2 ^ (bit % 8) +
      (if bit / 8 + 1 < raw.length then (raw.getD (bit / 8 + 1) 0).toNat / 2 ^ (8 - bit % 8) else 0)) / 4 % 64) := by
  have hs : bit % 8 < 8 := Nat.mod_lt _ (by decide)
  -- 次の byte から取る bit は `shift` 桁に収まるので、`|` は足し算である
  have hnext : ∀ y : UInt8, y.toNat / 2 ^ (8 - bit % 8) < 2 ^ (bit % 8) := by
    intro y
    have hy := y.toNat_lt
    rw [Nat.div_lt_iff_lt_mul (Nat.two_pow_pos _), ← Nat.pow_add, show bit % 8 + (8 - bit % 8) = 8 by omega]
    exact hy
  have h63 : (0x3f : Nat) = 2 ^ 6 - 1 := rfl
  unfold base64EncodeChar base64Char
  dsimp only
  rw [h63, Nat.and_two_pow_sub_one_eq_mod, Nat.shiftRight_eq_div_pow]
  split
  · rw [Nat.shiftRight_eq_div_pow, ← Nat.shiftLeft_add_eq_or_of_lt (hnext _), Nat.shiftLeft_eq]
  · rw [Nat.shiftLeft_eq, Nat.add_zero]

/-- 3 byte 先の `bit` は、先頭の 3 byte を除いた列の同じ `bit` である。 -/
theorem base64EncodeChar_cons3 (a b c : UInt8) (rest : Bytes) (bit : Nat) :
    base64EncodeChar (a :: b :: c :: rest) (24 + bit) = base64EncodeChar rest bit := by
  have h1 : (24 + bit) / 8 = bit / 8 + 2 + 1 := by omega
  have h2 : (24 + bit) % 8 = bit % 8 := by omega
  have h3 : bit / 8 + 2 + 1 + 1 < rest.length + 1 + 1 + 1 ↔ bit / 8 + 1 < rest.length := by omega
  rw [base64EncodeChar_eq, base64EncodeChar_eq, h1, h2]
  simp only [List.getD_cons_succ, List.length_cons, h3]

/-- 最初の loop が書く文字：`bit = 6 * i` ごとに一文字。 -/
def encChars (raw : Bytes) : Bytes := (List.range ((8 * raw.length + 5) / 6)).map fun i => base64EncodeChar raw (6 * i)

@[simp] theorem length_encChars (raw : Bytes) : (encChars raw).length = (8 * raw.length + 5) / 6 := by
  simp [encChars]

theorem encChars_one (a : UInt8) : encChars [a] = [base64Char (a.toNat / 4), base64Char (a.toNat % 4 * 16)] := by
  have ha := a.toNat_lt
  simp [encChars, List.range_succ, base64EncodeChar_eq]
  exact ⟨congrArg base64Char (by omega), congrArg base64Char (by omega)⟩

theorem encChars_two (a b : UInt8) :
    encChars [a, b] =
      [base64Char (a.toNat / 4), base64Char (a.toNat % 4 * 16 + b.toNat / 16), base64Char (b.toNat % 16 * 4)] := by
  have ha := a.toNat_lt
  have hb := b.toNat_lt
  simp [encChars, List.range_succ, base64EncodeChar_eq]
  exact ⟨congrArg base64Char (by omega), congrArg base64Char (by omega), congrArg base64Char (by omega)⟩

/-- 3 byte ごとに 4 文字を書き、残りは 3 byte 先から同じように読む。 -/
theorem encChars_cons3 (a b c : UInt8) (rest : Bytes) :
    encChars (a :: b :: c :: rest) =
      [base64Char (a.toNat / 4), base64Char (a.toNat % 4 * 16 + b.toNat / 16),
        base64Char (b.toNat % 16 * 4 + c.toNat / 64), base64Char (c.toNat % 64)] ++ encChars rest := by
  have hn : (8 * (a :: b :: c :: rest).length + 5) / 6 = 4 + (8 * rest.length + 5) / 6 := by
    simp only [List.length_cons]
    omega
  rw [encChars, encChars, hn, List.range_add, List.map_append, List.map_map]
  congr 1
  · have ha := a.toNat_lt
    have hb := b.toNat_lt
    have hc := c.toNat_lt
    simp [List.range_succ, base64EncodeChar_eq]
    refine ⟨congrArg base64Char (by omega), congrArg base64Char (by omega), congrArg base64Char (by omega),
      congrArg base64Char ?_⟩
    -- 四文字目は次の byte の上の 2 bit を足すが、`>> 2` で消える
    have hd := (rest[0]?.getD 0).toNat_lt
    split <;> omega
  · apply List.map_congr_left
    intro i _
    rw [Function.comp_apply, show 6 * (4 + i) = 24 + 6 * i by omega, base64EncodeChar_cons3]

/-- 符号化した文字数を 4 の倍数にする `=` の数。 -/
def base64PadLen (n : Nat) : Nat := (4 - n % 4) % 4

/-- 最初の loop の文字列に `=` を足すと、RFC 4648 の文字列になる。 -/
theorem encChars_append_pad : ∀ raw : Bytes,
    encChars raw ++ List.replicate (base64PadLen (encChars raw).length) 0x3D = rfc4648Encode raw
  | [] => rfl
  | [a] => by rw [encChars_one]; rfl
  | [a, b] => by rw [encChars_two]; rfl
  | a :: b :: c :: rest => by
    rw [encChars_cons3, rfc4648Encode, ← encChars_append_pad rest, List.append_assoc, List.length_append]
    congr 3
    simp only [base64PadLen, List.length_cons, List.length_nil]
    omega

/-! ## 符号化の loop -/

section Encode

variable {arch : Arch} {raw : Bytes}

/-- `raw_bit_len = 8 * len` は、`bit` が回らない長さでは `size_t` でも回らない。 -/
theorem rawBitLen_eq (hlen : 8 * raw.length < 2 ^ 32) : 8 * raw.length % 2 ^ arch.longBits = 8 * raw.length :=
  Nat.mod_eq_of_lt (Nat.lt_of_lt_of_le hlen (Nat.pow_le_pow_right (by decide) arch.longBits_ge))

/-- 最初の loop は `i` 回で `bit = 6 * i` まで進み、`encChars` の最初の `i` 文字を書く。 -/
theorem follow_base64EncodeStep (hlen : 8 * raw.length + 6 ≤ 2 ^ 32) :
    ∀ i ≤ (8 * raw.length + 5) / 6, follow (base64EncodeStep arch raw) i ⟨0, []⟩ =
      some ⟨6 * i, (List.range i).map fun k => base64EncodeChar raw (6 * k)⟩
  | 0, _ => rfl
  | i + 1, hi => by
    rw [follow_succ_right, follow_base64EncodeStep hlen i (by omega), Option.bind_some, base64EncodeStep,
      rawBitLen_eq (by omega), if_pos (by dsimp only; omega)]
    simp only [List.range_succ, List.map_append, List.map_cons, List.map_nil]
    congr 2
    omega

theorem base64EncodeStep_stop (hlen : 8 * raw.length < 2 ^ 32) (cs : Bytes) :
    base64EncodeStep arch raw ⟨6 * ((8 * raw.length + 5) / 6), cs⟩ = none := by
  rw [base64EncodeStep, rawBitLen_eq hlen, if_neg (by dsimp only; omega)]

/-- `=` の loop は `bit` が 8 の倍数になるまで、`j` 回で `j` 個の `=` を書く。 -/
theorem follow_base64EncodePadStep {n : Nat} (cs : Bytes) (hn : 6 * n + 18 < 2 ^ 32) :
    ∀ j ≤ base64PadLen n, follow base64EncodePadStep j ⟨6 * n, cs⟩ = some ⟨6 * (n + j), cs ++ List.replicate j 0x3D⟩
  | 0, _ => by simp [follow]
  | j + 1, hj => by
    unfold base64PadLen at hj
    rw [follow_succ_right, follow_base64EncodePadStep cs hn j (by unfold base64PadLen; omega), Option.bind_some,
      base64EncodePadStep, if_pos (by dsimp only; omega)]
    simp only [List.replicate_succ', List.append_assoc]
    congr 2
    omega

theorem base64EncodePadStep_stop (n : Nat) (cs : Bytes) :
    base64EncodePadStep ⟨6 * (n + base64PadLen n), cs⟩ = none := by
  rw [base64EncodePadStep, if_neg (by unfold base64PadLen; dsimp only; omega)]

/-- `bit` が回らない長さなら、`base64_encode` は RFC 4648 の文字列を書く。燃料は文字数より多ければよい。 -/
theorem base64Encode_eq_rfc4648 (hlen : 8 * raw.length + 24 ≤ 2 ^ 32) {fuel : Nat} (hfuel : 2 * raw.length + 4 ≤ fuel) :
    base64Encode arch fuel raw = some (rfc4648Encode raw) := by
  have hp : base64PadLen ((8 * raw.length + 5) / 6) ≤ 3 := by unfold base64PadLen; omega
  have h1 : whileSome (base64EncodeStep arch raw) fuel ⟨0, []⟩ = some ⟨6 * ((8 * raw.length + 5) / 6), encChars raw⟩ := by
    rw [show fuel = (8 * raw.length + 5) / 6 + (fuel - (8 * raw.length + 5) / 6 - 1) + 1 by omega]
    exact whileSome_of_follow (base64EncodeStep_stop (by omega) _) (follow_base64EncodeStep (by omega) _ le_rfl) _
  have h2 : whileSome base64EncodePadStep fuel ⟨6 * ((8 * raw.length + 5) / 6), encChars raw⟩ =
      some ⟨6 * ((8 * raw.length + 5) / 6 + base64PadLen ((8 * raw.length + 5) / 6)),
        encChars raw ++ List.replicate (base64PadLen (encChars raw).length) 0x3D⟩ := by
    rw [length_encChars, show fuel = base64PadLen ((8 * raw.length + 5) / 6) +
      (fuel - base64PadLen ((8 * raw.length + 5) / 6) - 1) + 1 by omega]
    exact whileSome_of_follow (base64EncodePadStep_stop _ _) (follow_base64EncodePadStep _ (by omega) _ le_rfl) _
  rw [base64Encode, h1, Option.bind_some, h2, Option.map_some, encChars_append_pad]

/-- 64 bit の build で `8 * len` が `2 ^ 32` 以上なら、`unsigned int` の `bit` は `raw_bit_len` に届かず、
最初の loop は終わらない。 -/
theorem base64Encode_loops_on_x86_64 (hlong : 2 ^ 32 ≤ 8 * raw.length) (hshort : 8 * raw.length < 2 ^ 64) (fuel : Nat) :
    base64Encode .x86_64 fuel raw = none := by
  have hbits : 8 * raw.length % 2 ^ Arch.x86_64.longBits = 8 * raw.length := Nat.mod_eq_of_lt hshort
  -- 不変条件は `bit < 2 ^ 32`：`bit += 6` は `2 ^ 32` で回る
  have hloop : whileSome (base64EncodeStep .x86_64 raw) fuel ⟨0, []⟩ = none := by
    refine whileSome_eq_none_of_invariant (I := fun s => s.bit < 2 ^ 32) ?_ fuel _ (by decide)
    intro s hs
    refine ⟨⟨(s.bit + 6) % 2 ^ 32, s.encoded ++ [base64EncodeChar raw s.bit]⟩, ?_, Nat.mod_lt _ (by decide)⟩
    rw [base64EncodeStep, hbits, if_pos (by omega)]
  rw [base64Encode, hloop, Option.bind_none]

end Encode

/-! ## 往復 -/

/-- `bit` が `unsigned int` で回らない長さなら、`base64_encode` は `base64_encoded_len` 文字を書く。
`base64_decoded_max_len` byte の領域に復号すると、`=` で終わる文字列は元の byte 列に戻るが、長さが 3 の
倍数の空でない byte 列では最後の文字が `raw[ base64_decoded_max_len ]` に触れて止まる。0 の領域がそれより
長ければ、いつも元の byte 列に戻る。空白は復号の結果を変えない。64 bit の build で `8 * len` が
`2 ^ 32` 以上なら、`base64_encode` は終わらない。 -/
theorem base64_decode_writes_past_max_len :
    (∀ (arch : Arch) (x : Bytes) (fuel : Nat), 8 * x.length + 24 ≤ 2 ^ 32 → 2 * x.length + 4 ≤ fuel →
      ∃ e, base64Encode arch fuel x = some e ∧ e.length = base64EncodedLen x.length ∧
        x.length ≤ base64DecodedMaxLen e ∧
        (∀ raw : Bytes, raw.length = base64DecodedMaxLen e →
          base64Decode e raw =
            if x ≠ [] ∧ x.length % 3 = 0 then .error (.outOfBounds x.length x.length)
            else .ok (some (x.length, x ++ List.replicate (raw.length - x.length) 0))) ∧
        ∀ n, base64DecodedMaxLen e < n →
          base64Decode e (List.replicate n 0) = .ok (some (x.length, x ++ List.replicate (n - x.length) 0))) ∧
    (∀ (s : Bytes) (n : Nat), base64DecodedMaxLen s ≤ n →
      base64Decode (s.filter fun c => !isspace c) (List.replicate n 0) = base64Decode s (List.replicate n 0)) ∧
    (∀ (x : Bytes) (fuel : Nat), 2 ^ 32 ≤ 8 * x.length → 8 * x.length < 2 ^ 64 →
      base64Encode .x86_64 fuel x = none) := by
  refine ⟨?_, ?_, ?_⟩
  · intro arch x fuel hlen hfuel
    refine ⟨rfc4648Encode x, base64Encode_eq_rfc4648 hlen hfuel, length_rfc4648Encode x, ?_,
      fun raw hraw => base64Decode_rfc4648_maxLen x hlen hraw, fun n hn => base64Decode_rfc4648_zeros x hlen hn⟩
    rw [base64DecodedMaxLen_rfc4648Encode]
    omega
  · intro s n hn
    exact base64Decode_zeros_filter_isspace s hn
  · intro x fuel hlong hshort
    exact base64Encode_loops_on_x86_64 hlong hshort fuel

/-- `"abc"` の符号 `YWJj` を、`base64_test.c` のように `base64_decoded_max_len` の 3 byte の領域に復号すると、
最後の `j` が `raw[3]` に触れる。 -/
theorem base64Decode_abc_overruns : base64Decode (ascii "YWJj") [0, 0, 0] = .error (.outOfBounds 3 3) := by
  obtain ⟨e, he, -, -, hdec, -⟩ :=
    base64_decode_writes_past_max_len.1 .x86_64 (ascii "abc") 10 (by decide) (by decide)
  have habc : base64Encode .x86_64 10 (ascii "abc") = some (ascii "YWJj") := by decide
  obtain rfl : e = ascii "YWJj" := Option.some.inj (he.symm.trans habc)
  rw [hdec [0, 0, 0] (by decide)]
  decide

end FlexBoot
