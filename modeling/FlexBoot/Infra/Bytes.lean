import Mathlib

/-!
# byte 列

通信路から来るデータは byte の列である。C の構造体はその上の決まった位置の field として
読むので、ここでは big-endian の field 読み出しと、NUL 終端の C 文字列を用意する。

C 文字列は「最初の NUL まで」を値とする。列の終わりは NUL と同じに扱う。
-/

namespace Infra

/-- byte の列。 -/
abbrev Bytes := List UInt8

/-- ASCII の文字列を byte 列にする。例を書くときに使う。 -/
def ascii (s : String) : Bytes := s.toList.map (fun c => UInt8.ofNat c.toNat)

/-- 位置 `i` から 16 bit の big-endian 値を読む（`ntohs`）。範囲外は 0 として読む。 -/
def be16 (b : Bytes) (i : Nat) : Nat := (b.getD i 0).toNat * 256 + (b.getD (i + 1) 0).toNat

/-- 位置 `i` から 24 bit の big-endian 値を読む。 -/
def be24 (b : Bytes) (i : Nat) : Nat := (b.getD i 0).toNat * 65536 + be16 b (i + 1)

/-- 位置 `i` から 32 bit の big-endian 値を読む（`ntohl`）。 -/
def be32 (b : Bytes) (i : Nat) : Nat := (b.getD i 0).toNat * 16777216 + be24 b (i + 1)

/-- 値を 16 bit の big-endian 二 byte にする（`htons`）。 -/
def toBe16 (n : Nat) : Bytes := [UInt8.ofNat (n / 256), UInt8.ofNat n]

/-- 値を 32 bit の big-endian 四 byte にする（`htonl`）。 -/
def toBe32 (n : Nat) : Bytes :=
  [UInt8.ofNat (n / 16777216), UInt8.ofNat (n / 65536), UInt8.ofNat (n / 256), UInt8.ofNat n]

/-- 値を 64 bit の big-endian 八 byte にする（`cpu_to_be64`）。 -/
def toBe64 (n : Nat) : Bytes := toBe32 (n / 4294967296) ++ toBe32 n

/-- 四 byte の語ごとに byte の順を逆にする。little-endian の x86 で、領域の語ごとに
`be32_to_cpus` をかけた後の byte である。 -/
def be32ToCpus (b : Bytes) : Bytes :=
  (List.range (b.length / 4)).flatMap fun i => ((b.drop (4 * i)).take 4).reverse

/-- C 文字列としての値。最初の NUL の手前までである。 -/
def cstr (b : Bytes) : Bytes := b.takeWhile (· != 0)

theorem be16_lt (b : Bytes) (i : Nat) : be16 b i < 65536 := by
  have h1 := (b.getD i 0).toNat_lt
  have h2 := (b.getD (i + 1) 0).toNat_lt
  unfold be16
  omega

theorem be24_lt (b : Bytes) (i : Nat) : be24 b i < 16777216 := by
  have h1 := (b.getD i 0).toNat_lt
  have h2 := be16_lt b (i + 1)
  unfold be24
  omega

theorem be32_lt (b : Bytes) (i : Nat) : be32 b i < 2 ^ 32 := by
  have h1 := (b.getD i 0).toNat_lt
  have h2 := be24_lt b (i + 1)
  unfold be32
  omega

theorem be16_toBe16 {n : Nat} (h : n < 65536) (rest : Bytes) : be16 (toBe16 n ++ rest) 0 = n := by
  simp only [be16, toBe16, List.cons_append, List.nil_append, List.getD_cons_zero,
    List.getD_cons_succ, UInt8.toNat_ofNat']
  omega

theorem cstr_append_zero (a rest : Bytes) (h : ∀ x ∈ a, x ≠ 0) : cstr (a ++ 0 :: rest) = a := by
  unfold cstr
  rw [List.takeWhile_append_of_pos (by simpa using h)]
  simp

/-- 後ろの列の C 文字列が空なら、つないだ列の C 文字列は前の列のものである。 -/
theorem cstr_append_of_cstr_eq_nil : ∀ (a : Bytes) {rest : Bytes}, cstr rest = [] → cstr (a ++ rest) = cstr a
  | [], _, h => h
  | c :: a, rest, h => by
    have ih := cstr_append_of_cstr_eq_nil a h
    unfold cstr at ih ⊢
    by_cases hc : c = 0
    · simp [hc]
    · simp [hc, ih]

theorem cstr_eq_self : ∀ {raw : Bytes}, 0 ∉ raw → cstr raw = raw
  | [], _ => rfl
  | c :: raw, h => by
    have hc : c ≠ 0 := fun hc => h (hc ▸ List.mem_cons_self)
    have ih := cstr_eq_self (fun hm => h (List.mem_cons_of_mem c hm))
    unfold cstr at ih ⊢
    simp [hc, ih]

/-- C 文字列は元の列の先頭の部分なので、文字の数は増えない。 -/
theorem zero_not_mem_cstr : ∀ b : Bytes, (0 : UInt8) ∉ cstr b
  | [] => by simp [cstr]
  | c :: b => by
    by_cases hc : c = 0
    · simp [cstr, hc]
    · have ih := zero_not_mem_cstr b
      simp only [cstr] at ih ⊢
      simp [hc, ih, Ne.symm hc]

/-- NUL から後ろは、空か NUL で始まる。 -/
theorem headD_dropWhile_cstr : ∀ b : Bytes, (b.dropWhile (· != 0)).headD 0 = 0
  | [] => rfl
  | c :: b => by
    by_cases hc : c = 0
    · simp [hc]
    · simpa [List.dropWhile_cons, hc] using headD_dropWhile_cstr b

/-- 列は、C の文字列として読む部分と、NUL から後ろに分かれる。 -/
theorem cstr_append_dropWhile (b : Bytes) : cstr b ++ b.dropWhile (· != 0) = b :=
  List.takeWhile_append_dropWhile

theorem count_cstr_le (c : UInt8) (raw : Bytes) : (cstr raw).count c ≤ raw.count c :=
  (List.takeWhile_prefix _).sublist.count_le c

theorem length_toBe64 (n : Nat) : (toBe64 n).length = 8 := rfl

theorem length_be32ToCpus {b : Bytes} (h : b.length % 4 = 0) : (be32ToCpus b).length = b.length := by
  unfold be32ToCpus
  rw [List.length_flatMap]
  -- どの語も四 byte ある
  have hword : ∀ i ∈ List.range (b.length / 4), (((b.drop (4 * i)).take 4).reverse).length = 4 := by
    intro i hi
    rw [List.mem_range] at hi
    rw [List.length_reverse, List.length_take, List.length_drop]
    omega
  rw [List.map_congr_left hword, List.map_const', List.length_range, List.sum_replicate_nat]
  omega

end Infra
