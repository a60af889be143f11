import FlexBoot.Infra.Bytes

/-!
# CHAP の応答（`crypto/chap.c`, `include/ipxe/chap.h`）

CHAP の応答は、identifier の一 byte、secret、challenge をこの順に digest に通した値である。
`struct chap_response` は digest の文脈と応答の領域を持ち、`chap_init` で確保し、
`chap_finish` で解放して 0 にする。

digest の文脈は、それまでに `chap_update` した byte 列で表す。`chap_respond` はその列の
digest を応答の領域に書く。digest の関数とその長さは引数として与える。

`chap_update` と `chap_respond` は、文脈がない（`chap_init` の前か `chap_finish` の後）と
何もしない。`assert` は外して build するので、ここでは検査しない。
-/

namespace FlexBoot.Chap

open Infra

/-- `struct chap_response`。 -/
structure ChapResponse where
  /-- `digest_context`。`NULL` なら `none`。 -/
  context : Option Bytes
  /-- `response` の指す領域の中身。 -/
  response : Bytes
  /-- `response_len`。 -/
  responseLen : Nat
  deriving DecidableEq, Repr

/-- `memset ( chap, 0, sizeof ( *chap ) )` の後の状態。 -/
def ChapResponse.empty : ChapResponse := ⟨none, [], 0⟩

/-- `chap_init ( chap, digest )`。`digestsize` は `digest->digestsize`。`malloc` に失敗すると
`-ENOMEM`（`none`）で、`chap` は変わらない。確保した応答の領域の中身は決まっていないので、
0 として置く。 -/
def chapInit (digestsize : Nat) (allocOk : Bool) : Option ChapResponse :=
  if allocOk then
    some { context := some [], response := List.replicate digestsize 0, responseLen := digestsize }
  else none

/-- `chap_update`。 -/
def chapUpdate (chap : ChapResponse) (data : Bytes) : ChapResponse :=
  match chap.context with
  | none => chap
  | some ctx => { chap with context := some (ctx ++ data) }

/-- `chap_set_identifier`。`unsigned int` を `uint8_t` に切り詰めて一 byte 足す。 -/
def chapSetIdentifier (chap : ChapResponse) (identifier : Nat) : ChapResponse :=
  chapUpdate chap [UInt8.ofNat identifier]

/-- `chap_respond`。`digest` は `digest_init` から `digest_final` までを通した関数である。 -/
def chapRespond (digest : Bytes → Bytes) (chap : ChapResponse) : ChapResponse :=
  match chap.context with
  | none => chap
  | some ctx => { chap with response := digest ctx }

/-- `chap_finish`。 -/
def chapFinish (_chap : ChapResponse) : ChapResponse := ChapResponse.empty

@[simp] theorem chapUpdate_responseLen (chap : ChapResponse) (data : Bytes) :
    (chapUpdate chap data).responseLen = chap.responseLen := by
  unfold chapUpdate
  split <;> rfl

@[simp] theorem chapRespond_responseLen (digest : Bytes → Bytes) (chap : ChapResponse) :
    (chapRespond digest chap).responseLen = chap.responseLen := by
  unfold chapRespond
  split <;> rfl

end FlexBoot.Chap
