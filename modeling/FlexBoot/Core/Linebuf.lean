import FlexBoot.Core.Misc

/-!
# 行の buffer（`core/linebuf.c`）

`line_buffer` は受け取った data の最初の `'\n'` までを（なければ全部を）buffer の後ろに足し、
`'\n'` まで読めたなら `'\n'` と、その直前の `'\r'` 一つを落として行を ready にする。ready な行は
次の呼び出しの最初に捨てる。

CR の検査 `linebuf->data[linebuf->len - 1]` は、`'\n'` を落とした後の長さ `len` が 0 のとき
`size_t` で回った添字、つまり確保した領域の前の byte を読む。この model はそこで
`Fault.bufferUnderrun` で止まる。

`linebuf_test` は data の残りがある間 `line_buffer` を呼び、返った長さだけ進み、その度に
`buffered_line` の行を集める（`linebufFeed`）。一回の呼び出しは少なくとも 1 byte を消費するので、
燃料は data の長さで足りる。
-/

namespace FlexBoot

open Infra

/-- `struct line_buffer`。`data` は先頭の `len` byte で、終わりの NUL は含めない。 -/
structure LineBuffer where
  data : Bytes
  ready : Bool
  deriving DecidableEq, Repr

/-- `buffered_line ( linebuf )`。 -/
def bufferedLine (lb : LineBuffer) : Option Bytes := if lb.ready then some lb.data else none

/-- `empty_line_buffer ( linebuf )` の後の状態。 -/
def emptyLineBuffer : LineBuffer := ⟨[], false⟩

/-- `line_buffer ( linebuf, data, len )`。`alloc n` は `realloc` が `n` byte を確保できるかを表す。
結果は消費した長さ（`-ENOMEM` なら `none`）と新しい状態である。 -/
def lineBuffer (alloc : Nat → Bool) (lb : LineBuffer) (data : Bytes) : Except Fault (Option Nat × LineBuffer) :=
  let lb := if lb.ready then emptyLineBuffer else lb
  let eol := data.idxOf? 10
  let consume := match eol with
    | some i => i + 1
    | none => data.length
  let newLen := lb.data.length + consume
  if alloc (newLen + 1) = false then .ok (none, lb)
  else
    let buf := lb.data ++ data.take consume
    match eol with
    | none => .ok (some consume, ⟨buf, false⟩)
    | some _ =>
      -- `linebuf->data[--linebuf->len] = '\0';` で NL を落とす
      let len := newLen - 1
      -- `len = 0` なら `linebuf->data[linebuf->len - 1]` は `data[-1]` である
      if len = 0 then .error .bufferUnderrun
      else if buf[len - 1]? = some 13 then .ok (some consume, ⟨buf.take (len - 1), true⟩)
      else .ok (some consume, ⟨buf.take len, true⟩)

/-- `linebuf_test` の `while ( len )` の loop。`line_buffer` が返した長さだけ進み、その度に
`buffered_line` の行を集める。`-ENOMEM` か燃料切れなら `none`。 -/
def linebufFeed (alloc : Nat → Bool) (fuel : Nat) (lb : LineBuffer) (data : Bytes) :
    Except Fault (Option (LineBuffer × List Bytes)) :=
  if data = [] then .ok (some (lb, []))
  else match fuel with
    | 0 => .ok none
    | fuel + 1 => do
      let (consumed, lb) ← lineBuffer alloc lb data
      match consumed with
      | none => .ok none
      | some n =>
        let rest ← linebufFeed alloc fuel lb (data.drop n)
        .ok (rest.map fun r => (r.1, (bufferedLine lb).toList ++ r.2))

theorem linebufFeed_nil (alloc : Nat → Bool) (fuel : Nat) (lb : LineBuffer) :
    linebufFeed alloc fuel lb [] = .ok (some (lb, [])) := by
  unfold linebufFeed
  rw [if_pos rfl]

/-- 受け取った断片ごとに `linebuf_test` の loop を回す。燃料は断片の長さ。 -/
def linebufFeedAll (alloc : Nat → Bool) (lb : LineBuffer) : List Bytes → Except Fault (Option (LineBuffer × List Bytes))
  | [] => .ok (some (lb, []))
  | f :: fs => do
    match ← linebufFeed alloc f.length lb f with
    | none => .ok none
    | some (lb, lines) =>
      let rest ← linebufFeedAll alloc lb fs
      .ok (rest.map fun r => (r.1, lines ++ r.2))

end FlexBoot
