import FlexBoot.Infra.Bytes

/-!
# C 文字列の比較と文字分類

`core/string.c` と `core/ctype.c` のうち、この開発が使う関数。x86 の build では
`strncmp` と `strlen` が `arch/x86/core/x86_string.c` の実装に置き換わる。

x86 の `char` は符号付きなので、`0x80` 以上の byte は負の `int` に昇格する。
`strcasecmp` はその値に `& ~0x20` をかけて比べる。大文字小文字の区別だけでなく、
bit 5 しか違わない文字（`@` と `` ` ``、NUL と空白など）も同じに見える。
-/

namespace FlexBoot

open Infra

/-- `char` を `int` に昇格した値。x86 では符号付きである。 -/
def schar (c : UInt8) : Int := if c.toNat < 128 then c.toNat else c.toNat - 256

/-- `isdigit ( c )`（`include/ctype.h`）。 -/
def isdigit (c : Nat) : Bool := c ≥ 0x30 ∧ c ≤ 0x39

/-- `isspace`（`core/ctype.c`）。 -/
def isspace (c : UInt8) : Bool :=
  c == 0x20 || c == 0x0c || c == 0x0a || c == 0x0d || c == 0x09 || c == 0x0b

/-- `strcasecmp` が比べる値 `*a & ~0x20`。 -/
def caseFold (c : UInt8) : Int := schar (c &&& 0xDF)

/--
`strcasecmp`（`core/string.c`）。

`while (*a && *b && (*a & ~0x20) == (*b & ~0x20)) { a++; b++; }` の後で
`(*a & ~0x20) - (*b & ~0x20)` を返す。列の終わりは NUL として読む。
-/
def strcasecmp : Bytes → Bytes → Int
  | a :: as, b :: bs =>
    if a != 0 && b != 0 && caseFold a == caseFold b then strcasecmp as bs
    else caseFold a - caseFold b
  | a, b => caseFold (a.headD 0) - caseFold (b.headD 0)

/-- `int` の値を `signed char` に切り詰める。 -/
def truncSchar (v : Int) : Int := schar (UInt8.ofNat (v % 256).toNat)

/-- `strcmp`（`core/string.c`）。`__res = *cs - *ct` を `signed char` に入れ、0 でないか
`*cs` が NUL なら止まってそれを返す。 -/
def strcmp : Bytes → Bytes → Int
  | [], b => truncSchar (0 - schar (b.headD 0))
  | x :: xs, b =>
    let res := truncSchar (schar x - schar (b.headD 0))
    if res ≠ 0 ∨ x = 0 then res else strcmp xs b.tail

/-- `memcmp`（`core/string.c`）。`unsigned char` の差を返す。 -/
def memcmp : Nat → Bytes → Bytes → Int
  | 0, _, _ => 0
  | n + 1, a, b =>
    let res : Int := (a.headD 0).toNat - (b.headD 0).toNat
    if res ≠ 0 then res else memcmp n a.tail b.tail

/-- 長さ `n` の二つの列を `memcmp` で比べると、等しいときだけ 0 になる。 -/
theorem memcmp_eq_zero_iff : ∀ {n : Nat} {a b : Bytes}, a.length = n → b.length = n →
    (memcmp n a b = 0 ↔ a = b)
  | 0, a, b, ha, hb => by simp_all [memcmp]
  | n + 1, x :: a, y :: b, ha, hb => by
    simp only [List.length_cons, Nat.add_right_cancel_iff] at ha hb
    have ih := memcmp_eq_zero_iff ha hb
    dsimp only [memcmp, List.headD_cons, List.tail_cons]
    rw [List.cons.injEq]
    by_cases heq : (x.toNat : Int) - y.toNat = 0
    · have hxy : x = y := UInt8.toNat_inj.mp (by omega)
      simp [hxy, ih]
    · -- 先頭の byte が違う
      have hxy : x ≠ y := fun h => heq (by rw [h]; omega)
      simp [heq, hxy]
  | n + 1, [], _, ha, _ => by simp at ha
  | n + 1, _ :: _, [], _, hb => by simp at hb

/-- `strnlen`（`core/string.c`）。 -/
def strnlen : Bytes → Nat → Nat
  | [], _ => 0
  | _, 0 => 0
  | c :: cs, n + 1 => if c = 0 then 0 else strnlen cs n + 1

/-- `strchr`（`core/string.c`）。文字 `c`（NUL でない）の最初の出現の前と後ろに分ける。
NUL より先は見ない。 -/
def strchr (c : UInt8) : Bytes → Option (Bytes × Bytes)
  | [] => none
  | x :: xs =>
    if x = c then some ([], xs)
    else if x = 0 then none
    else (strchr c xs).map fun p => (x :: p.1, p.2)

/-- NUL も `c` もない `k` の後の最初の `c` で分ける。 -/
theorem strchr_append (c : UInt8) :
    ∀ (k rest : Bytes), (∀ x ∈ k, x ≠ c ∧ x ≠ 0) → strchr c (k ++ c :: rest) = some (k, rest)
  | [], rest, _ => by simp [strchr]
  | x :: xs, rest, hk => by
    have hx := hk x List.mem_cons_self
    rw [List.cons_append, strchr, if_neg hx.1, if_neg hx.2,
      strchr_append c xs rest (fun y hy => hk y (List.mem_cons_of_mem x hy))]
    rfl

/-- `strchr` が分けた前と後ろの間には `c` がある。 -/
theorem strchr_eq_some {c : UInt8} : ∀ {s a b : Bytes}, strchr c s = some (a, b) → s = a ++ c :: b
  | [], _, _, h => by cases h
  | x :: xs, a, b, h => by
    rw [strchr] at h
    split_ifs at h with hxc
    · cases h
      rw [hxc]
      rfl
    · -- 前の部分に `x` を足して、残りの `strchr` に戻る
      cases hp : strchr c xs with
      | none => simp [hp] at h
      | some p =>
        simp only [hp, Option.map_some, Option.some.injEq, Prod.mk.injEq] at h
        obtain ⟨rfl, rfl⟩ := h
        rw [strchr_eq_some hp]
        rfl

/-- `strncmp`（`arch/x86/core/x86_string.c`）。

`dec %ecx; js` で数を減らし、符号 bit が立ったら等しいとする。`lodsb; scasb` で一 byte
ずつ比べ、違えば符号なしの比較で小さい側なら -1、大きい側なら 1 を返す。同じ byte が
NUL ならそこで等しい。`w` は数を入れる register の幅である。 -/
def strncmp (w : Nat) : Nat → Bytes → Bytes → Int
  | len, [], b =>
    if 2 ^ (w - 1) ≤ (len + 2 ^ w - 1) % 2 ^ w then 0
    else if b.headD 0 = 0 then 0 else -1
  | len, x :: xs, b =>
    let n := (len + 2 ^ w - 1) % 2 ^ w
    if 2 ^ (w - 1) ≤ n then 0
    else if x ≠ b.headD 0 then (if x < b.headD 0 then -1 else 1)
    else if x = 0 then 0
    else strncmp w n xs b.tail

/-- `strstr` の探索。`n` で始まる最初の位置で、前と後ろ（`n` を含む）に分ける。 -/
def strstrFrom (n : Bytes) : Bytes → Option (Bytes × Bytes)
  | [] => if n = [] then some ([], []) else none
  | c :: cs =>
    if n.isPrefixOf (c :: cs) then some ([], c :: cs)
    else (strstrFrom n cs).map fun p => (c :: p.1, p.2)

/-- `strstr`（`core/string.c`）。どちらも C 文字列として読む。 -/
def strstr (s1 s2 : Bytes) : Option (Bytes × Bytes) := strstrFrom (cstr s2) (cstr s1)

end FlexBoot
