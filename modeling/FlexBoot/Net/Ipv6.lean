import FlexBoot.Core.Base16

/-!
# IPv6 アドレスの文字列（`net/ipv6.c`）

* `inet6_ntoa` — 八つの 16 bit の語を `":%x"` で並べ、二語以上続く 0 のうち一番長い並び
  （同じ長さなら前のもの）を `::` に縮める（RFC 5952）
* `inet6_aton` — `strtoul ( nptr, &endptr, 16 )` で語を読み、`:` で区切る。数字のない語が
  先頭以外にあればそこが `::` で、足りない語の数だけ 0 を入れる

## model

アドレスは network byte order の 16 byte で、語は `ntohs` した値の列である。`inet6_ntoa` は
static buffer に書いた後、`strcpy` で同じ buffer の後ろの部分を前へ写して縮める。
`core/string.c` の `strcpy` は前から一 byte ずつ写すので、重なっていても結果は決まる。
-/

namespace FlexBoot.Ipv6

open Infra FlexBoot

/-! ## 語と byte -/

/-- `ntohs ( in->s6_addr16[i] )` を順に並べたもの。 -/
def ntohsWords : Bytes → List Nat
  | hi :: lo :: rest => be16 [hi, lo] 0 :: ntohsWords rest
  | _ => []

/-- `*(word++) = htons ( value )` で並べた byte。 -/
def htonsBytes (ws : List Nat) : Bytes := ws.flatMap toBe16

/-! ## `inet6_ntoa` -/

/-- `inet6_ntoa` の loop の変数。`out` は書いた文字、`start` と `len` は今続いている 0 の並びの
始まりと長さ、`longestStart` と `longestLen` はそれまでで一番長い並び。 -/
structure NtoaState where
  out : Bytes
  start : Nat
  len : Nat
  longestStart : Option Nat
  longestLen : Nat

/-- loop の一回。 -/
def inet6NtoaStep (st : NtoaState) (value : Nat) : NtoaState :=
  if value = 0 then
    -- `if ( len++ == 0 ) start = out;`
    let start := if st.len = 0 then st.out.length else st.start
    let len := st.len + 1
    let (longestStart, longestLen) :=
      if len > st.longestLen then (some start, len) else (st.longestStart, st.longestLen)
    ⟨st.out ++ ascii ":" ++ hexDigits value, start, len, longestStart, longestLen⟩
  else { st with out := st.out ++ ascii ":" ++ hexDigits value, len := 0 }

/-- loop の始まり。`longest_len = 1` なので、縮めるのは二語以上の並びだけである。 -/
def NtoaState.init : NtoaState := ⟨[], 0, 0, none, 1⟩

/-- `inet6_ntoa ( in )`。 -/
def inet6Ntoa (raw : Bytes) : Bytes :=
  let st := run inet6NtoaStep NtoaState.init (ntohsWords (raw.take 16))
  match st.longestStart with
  | none => st.out.drop 1
  | some longestStart =>
    -- `strcpy ( longest_start + 1, longest_start + 2 * longest_len )` の後、`dest[0] = ':'`。
    -- 写したものが空なら `dest[1]` に NUL を置くので、どちらでも `:` の後に残りが続く
    let rest := st.out.drop (longestStart + 2 * st.longestLen)
    let buf := st.out.take (longestStart + 1) ++ 0x3A :: rest.drop 1
    if longestStart = 0 then buf else buf.drop 1

/-! ## `inet6_aton` -/

section Aton

variable (arch : Arch)

/-- `inet6_aton` の loop。`k` はまだ置ける語の数、`nptr` は残りの文字列、`words` は読んだ語、
`pad` は `::` の位置である。`endptr == nptr` は数字を一つも読まなかったことで、長さで比べる。
`none` は `-EINVAL` である。 -/
def inet6AtonWords (string : Bytes) : Nat → Bytes → List Nat → Option Nat →
    Option (List Nat × Option Nat)
  | k, nptr, words, pad =>
    let (value, endptr) := strtoul arch nptr 16
    if value > 0xffff then none
    else
      let words := words ++ [value]
      if endptr.headD 0 = 0 then some (words, pad)
      else if endptr.headD 0 ≠ 0x3A then none
      else
        let empty := endptr.length = nptr.length ∧ nptr.length ≠ string.length
        if empty ∧ pad.isSome then none
        else
          let pad := if empty then some words.length else pad
          -- `if ( word == end )`：八つ目の語の後に区切りがある
          match k with
          | 0 => none
          | k + 1 => inet6AtonWords string k (endptr.drop 1) words pad

/-- `inet6_aton ( string, in )`。読んだ語の値を返す。 -/
def inet6Aton (string : Bytes) : Option (List Nat) := do
  let (words, pad) ← inet6AtonWords arch string 7 string [] none
  match pad with
  | some pad =>
    -- `memmove` で `pad` からの語を後ろへ寄せ、空いたところを `memset` で 0 にする
    some (words.take pad ++ List.replicate (8 - words.length) 0 ++ words.drop pad)
  | none => if words.length ≠ 8 then none else some words

end Aton

end FlexBoot.Ipv6
