import FlexBoot.Crypto.Inflate
import FlexBoot.Properties.DeflateHuffman

/-!
# `deflate_inflate` は必ず返る

`deflate_inflate` の `goto` の loop に終わりがあることを示す。

* `Label.rank` — label の順位。bit を読まずに移る `goto` は、どれも順位の高い label へ移る
* `Inv` — `deflate_decode` を呼ぶ label では、使う表が `deflate_alphabet` で作り終えてある。
  作り終えた表で読めば記号は少なくとも 1 bit 読む（`Built.deflateDecode_length`）
* `inflateStep_next` — 一歩で次の label へ移れば、残りの bit の数は増えず、減らなければ順位が上がる
* `inflateRun_stable` — 残りの bit の数の 5 倍と順位で測った量より fuel が多ければ、fuel を
  増やしても結果は変わらない
* `Reachable` — `deflate_init` から `deflate_inflate` を何度呼んでも、再開点の label では `Inv` が
  成り立つ。だから `deflate_inflate` の fuel は足りている（`deflateInflate_stable`）
-/

namespace FlexBoot.Inflate

open Infra

/-- label の順位。bit を読まずに移る `goto` は順位の高い label へ移る。 -/
def Label.rank : Label → Nat
  | .literalData | .literalBlock | .staticBlock | .dynamicCodelen | .dynamicLitlenDistanceExtra
  | .lzhufLitlenExtra | .lzhufDistanceExtra | .zlibHeader | .dynamicHeader | .literalNlen => 0
  | .blockDone | .literalLen | .dynamicLitlenDistance | .constructAlphabets | .lzhufDistance => 1
  | .blockHeader | .zlibFooter | .lzhufLitlen => 2
  | .zlibAdler32 => 3
  | .finished => 4

theorem rank_le (l : Label) : l.rank ≤ 4 := by
  cases l <;> decide

/-- 表が符号を読める：長さで決まる符号の表として作り終えてある。 -/
def Decoding (a : Alphabet) : Prop := ∃ len n, Built len n a

/-- label `l` で使う表。`deflate_decode` を呼ぶ label とその間の label では、表が作り終えてある。 -/
def Inv : Label → Inflater → Prop
  | .dynamicLitlenDistance, st | .dynamicLitlenDistanceExtra, st => Decoding st.distanceCodelen
  | .lzhufLitlen, st | .lzhufLitlenExtra, st | .lzhufDistance, st | .lzhufDistanceExtra, st =>
    Decoding st.litlen ∧ Decoding st.distanceCodelen
  | _, _ => True

/-- 再開点の label で `Inv` が成り立つ。 -/
def InvResume (st : Inflater) : Prop := ∀ l, st.resume = some l → Inv l st

/-- `Inv` は二つの表しか見ない。 -/
theorem inv_congr {l : Label} {st st' : Inflater} (h1 : st'.litlen = st.litlen)
    (h2 : st'.distanceCodelen = st.distanceCodelen) : Inv l st' ↔ Inv l st := by
  cases l <;> simp [Inv, h1, h2]

/-- 一歩で移る前と後の、残りの bit と label の順位。 -/
structure Progress (l : Label) (st : Inflater) (inp : DeflateChunk) (l' : Label) (st' : Inflater)
    (inp' : DeflateChunk) : Prop where
  le : (stream st'.reader inp').length ≤ (stream st.reader inp).length
  lt_or : (stream st'.reader inp').length < (stream st.reader inp).length ∨ l.rank < l'.rank

/-! ## 読んでから続ける -/

section Then

variable {l l' : Label} {st st' : Inflater} {inp inp' out out' : DeflateChunk} {k : Nat → Inflater → DeflateChunk → Step}

/-- `deflate_extract` の後に次の label へ移るのは、`target` bit 読んで続きへ渡した時。 -/
theorem extractThen_next {t : Nat} (h : extractThen l st inp out t k = .next l' st' inp' out') :
    ∃ v d inp₁, k v { st with reader := d } inp₁ = .next l' st' inp' out' ∧
      (stream d inp₁).length + t = (stream st.reader inp).length := by
  obtain ⟨hl, -, -⟩ := deflateExtract_length st.reader inp t
  unfold extractThen at h
  dsimp only at h
  split at h
  · cases h
  · next hneg =>
    rw [if_neg hneg] at hl
    exact ⟨_, _, _, h, hl⟩

/-- `deflate_extract` の後に 0 を返すのは、足りずに `l` で中断したか、続きが返した時。 -/
theorem extractThen_stop {t : Nat} (h : extractThen l st inp out t k = .stop st' inp' out') :
    (∃ d, st' = { st with reader := d, resume := some l }) ∨
      ∃ v d inp₁, k v { st with reader := d } inp₁ = .stop st' inp' out' := by
  unfold extractThen at h
  dsimp only at h
  split at h
  · cases h
    exact .inl ⟨_, rfl⟩
  · exact .inr ⟨_, _, _, h⟩

/-- 作り終えた表で `deflate_decode` の後に次の label へ移るのは、1 bit 以上読んで続きへ渡した時。 -/
theorem decodeThen_next {a : Alphabet} (ha : Decoding a) (h : decodeThen l st inp out a k = .next l' st' inp' out') :
    ∃ v d inp₁, k v { st with reader := d } inp₁ = .next l' st' inp' out' ∧
      (stream d inp₁).length < (stream st.reader inp).length := by
  obtain ⟨len, n, hb⟩ := ha
  unfold decodeThen at h
  split at h
  · cases h
  · next code d₁ inp₁ hdec =>
    obtain ⟨hl, -, -⟩ := hb.deflateDecode_length hdec
    split at h
    · cases h
    · next hneg =>
      rw [if_neg hneg] at hl
      exact ⟨_, _, _, h, hl⟩

theorem decodeThen_stop {a : Alphabet} (h : decodeThen l st inp out a k = .stop st' inp' out') :
    (∃ d, st' = { st with reader := d, resume := some l }) ∨
      ∃ v d inp₁, k v { st with reader := d } inp₁ = .stop st' inp' out' := by
  unfold decodeThen at h
  split at h
  · cases h
  · split at h
    · cases h
      exact .inl ⟨_, rfl⟩
    · exact .inr ⟨_, _, _, h⟩

end Then

/-! ## 一歩 -/

section Step

variable {l l' : Label} {st st' : Inflater} {inp inp' out out' : DeflateChunk}

theorem progress_of_lt (h : (stream st'.reader inp').length < (stream st.reader inp).length) :
    Progress l st inp l' st' inp' :=
  ⟨Nat.le_of_lt h, .inl h⟩

theorem progress_of_rank (hle : (stream st'.reader inp').length ≤ (stream st.reader inp).length)
    (hr : l.rank < l'.rank) : Progress l st inp l' st' inp' :=
  ⟨hle, .inr hr⟩

/-- byte の境目までの bit を捨てても、残りの bit は増えない。 -/
theorem length_discardToByte (d : Deflate) (inp : DeflateChunk) :
    (stream (deflateDiscardToByte d) inp).length ≤ (stream d inp).length := by
  rw [length_stream, length_stream]
  simp only [deflateDiscardToByte, deflateConsume]
  omega

/-- 表を作り直す `construct_alphabets` が成功すれば、二つの表は作り終えてある。 -/
theorem constructAlphabets_decoding (h : constructAlphabets st = some st') :
    Decoding st'.litlen ∧ Decoding st'.distanceCodelen ∧ st'.reader = st.reader := by
  unfold constructAlphabets at h
  simp only [Option.bind_eq_bind, Option.bind_eq_some_iff, Option.pure_def, Option.some.injEq] at h
  obtain ⟨litlen, hlit, dist, hdist, rfl⟩ := h
  exact ⟨⟨_, _, deflateAlphabet_built hlit⟩, ⟨_, _, deflateAlphabet_built hdist⟩, rfl⟩

/-- **一歩で次の label へ移る。** 残りの bit は増えず、減らなければ label の順位が上がる。移った先の
label で使う表は作り終えてある。label ごとに本体を開く。 -/
theorem inflateStep_next (hinv : Inv l st) (h : inflateStep l st inp out = .next l' st' inp' out') :
    Progress l st inp l' st' inp' ∧ Inv l' st' := by
  delta inflateStep at h
  cases l with
  | zlibHeader =>
    dsimp only at h
    obtain ⟨v, d, inp₁, hk, hl⟩ := extractThen_next h
    split at hk
    · cases hk
    split at hk
    · cases hk
    cases hk
    exact ⟨progress_of_lt (show (stream d inp').length < _ by omega), trivial⟩
  | blockHeader =>
    dsimp only at h
    obtain ⟨v, d, inp₁, hk, hl⟩ := extractThen_next h
    dsimp only at hk
    split at hk <;> cases hk <;> exact ⟨progress_of_lt (show (stream d inp').length < _ by omega), trivial⟩
  | literalBlock =>
    dsimp only at h
    cases h
    exact ⟨progress_of_rank (length_discardToByte _ _) (by decide), trivial⟩
  | literalLen =>
    dsimp only at h
    obtain ⟨v, d, inp₁, hk, hl⟩ := extractThen_next h
    cases hk
    exact ⟨progress_of_lt (show (stream d inp').length < _ by omega), trivial⟩
  | literalNlen =>
    dsimp only at h
    obtain ⟨v, d, inp₁, hk, hl⟩ := extractThen_next h
    split at hk
    · cases hk
    cases hk
    exact ⟨progress_of_lt (show (stream d inp').length < _ by omega), trivial⟩
  | literalData =>
    dsimp only at h
    split at h
    · cases h
    cases h
    -- 写した byte の分だけ入力が進む
    refine ⟨progress_of_rank ?_ (by decide), trivial⟩
    rw [length_stream, length_stream]
    dsimp only
    omega
  | staticBlock =>
    dsimp only at h
    cases h
    exact ⟨progress_of_rank (Nat.le_refl _) (by decide), trivial⟩
  | dynamicHeader =>
    dsimp only at h
    obtain ⟨v, d, inp₁, hk, hl⟩ := extractThen_next h
    cases hk
    exact ⟨progress_of_lt (show (stream d inp').length < _ by omega), trivial⟩
  | dynamicCodelen =>
    dsimp only at h
    split at h
    · obtain ⟨v, d, inp₁, hk, hl⟩ := extractThen_next h
      cases hk
      exact ⟨progress_of_lt (show (stream d inp').length < _ by omega), trivial⟩
    · split at h
      · cases h
      · next alphabet halpha =>
        cases h
        exact ⟨progress_of_rank (Nat.le_refl _) (by decide), ⟨_, _, deflateAlphabet_built halpha⟩⟩
  | dynamicLitlenDistance =>
    dsimp only at h
    obtain ⟨v, d, inp₁, hk, hl⟩ := decodeThen_next hinv h
    split at hk
    · cases hk
      exact ⟨progress_of_lt hl, hinv⟩
    · dsimp only at hk
      split at hk <;> cases hk <;> exact ⟨progress_of_lt hl, hinv⟩
  | dynamicLitlenDistanceExtra =>
    dsimp only at h
    obtain ⟨v, d, inp₁, hk, hl⟩ := extractThen_next h
    dsimp only at hk
    split at hk <;> cases hk
    · exact ⟨progress_of_rank (show (stream d inp').length ≤ _ by omega) (by decide), hinv⟩
    · exact ⟨progress_of_rank (show (stream d inp').length ≤ _ by omega) (by decide), trivial⟩
  | constructAlphabets =>
    dsimp only at h
    split at h
    · cases h
    · next st₁ hst =>
      cases h
      obtain ⟨hlit, hdist, hreader⟩ := constructAlphabets_decoding hst
      exact ⟨progress_of_rank (by rw [hreader]) (by decide), hlit, hdist⟩
  | lzhufLitlen =>
    dsimp only at h
    obtain ⟨v, d, inp₁, hk, hl⟩ := decodeThen_next hinv.1 h
    split at hk
    · cases hk
      exact ⟨progress_of_lt hl, hinv⟩
    split at hk
    · cases hk
      exact ⟨progress_of_lt hl, trivial⟩
    split at hk <;> cases hk <;> exact ⟨progress_of_lt hl, hinv⟩
  | lzhufLitlenExtra =>
    dsimp only at h
    obtain ⟨v, d, inp₁, hk, hl⟩ := extractThen_next h
    cases hk
    exact ⟨progress_of_rank (show (stream d inp').length ≤ _ by omega) (by decide), hinv⟩
  | lzhufDistance =>
    dsimp only at h
    obtain ⟨v, d, inp₁, hk, hl⟩ := decodeThen_next hinv.2 h
    cases hk
    exact ⟨progress_of_lt hl, hinv⟩
  | lzhufDistanceExtra =>
    dsimp only at h
    obtain ⟨v, d, inp₁, hk, hl⟩ := extractThen_next h
    dsimp only at hk
    split at hk
    · cases hk
    cases hk
    exact ⟨progress_of_rank (show (stream d inp').length ≤ _ by omega) (by decide), hinv⟩
  | blockDone =>
    dsimp only at h
    split at h
    · cases h
      exact ⟨progress_of_rank (Nat.le_refl _) (by decide), trivial⟩
    · split at h <;> cases h <;> exact ⟨progress_of_rank (Nat.le_refl _) (by decide), trivial⟩
  | zlibFooter =>
    dsimp only at h
    cases h
    exact ⟨progress_of_rank (length_discardToByte _ _) (by decide), trivial⟩
  | zlibAdler32 =>
    dsimp only at h
    split at h
    · cases h
    cases h
    obtain ⟨hl, -, -⟩ := deflateAccumulate_length st.reader inp 32
    exact ⟨progress_of_rank (Nat.le_of_eq hl) (by decide), trivial⟩
  | finished =>
    dsimp only at h
    cases h

/-- 中断した時の状態：再開点は中断した label で、二つの表はそのまま。 -/
def Suspended (l : Label) (st st' : Inflater) : Prop :=
  st'.resume = some l ∧ st'.litlen = st.litlen ∧ st'.distanceCodelen = st.distanceCodelen

theorem suspended_with {l : Label} {st : Inflater} (d : Deflate) :
    Suspended l st { st with reader := d, resume := some l } :=
  ⟨rfl, rfl, rfl⟩

/-- **一歩で 0 を返す。** 読み足りずに中断して再開点に今の label を書いたか、`finished` で再開点を
消したかである。label の続きが 0 を返すことはない。 -/
theorem inflateStep_stop (h : inflateStep l st inp out = .stop st' inp' out') :
    Suspended l st st' ∨ st'.resume = none := by
  delta inflateStep at h
  cases l with
  | zlibHeader =>
    dsimp only at h
    rcases extractThen_stop h with ⟨d, rfl⟩ | ⟨v, d, inp₁, hk⟩
    · exact .inl (suspended_with d)
    · split at hk
      · cases hk
      split at hk <;> cases hk
  | blockHeader =>
    dsimp only at h
    rcases extractThen_stop h with ⟨d, rfl⟩ | ⟨v, d, inp₁, hk⟩
    · exact .inl (suspended_with d)
    · dsimp only at hk
      split at hk <;> cases hk
  | literalBlock | staticBlock | zlibFooter =>
    dsimp only at h
    cases h
  | literalLen | dynamicHeader =>
    dsimp only at h
    rcases extractThen_stop h with ⟨d, rfl⟩ | ⟨v, d, inp₁, hk⟩
    · exact .inl (suspended_with d)
    · cases hk
  | literalNlen =>
    dsimp only at h
    rcases extractThen_stop h with ⟨d, rfl⟩ | ⟨v, d, inp₁, hk⟩
    · exact .inl (suspended_with d)
    · split at hk <;> cases hk
  | literalData =>
    dsimp only at h
    split at h
    · cases h
      exact .inl ⟨rfl, rfl, rfl⟩
    · cases h
  | dynamicCodelen =>
    dsimp only at h
    split at h
    · rcases extractThen_stop h with ⟨d, rfl⟩ | ⟨v, d, inp₁, hk⟩
      · exact .inl (suspended_with d)
      · cases hk
    · split at h <;> cases h
  | dynamicLitlenDistance =>
    dsimp only at h
    rcases decodeThen_stop h with ⟨d, rfl⟩ | ⟨v, d, inp₁, hk⟩
    · exact .inl (suspended_with d)
    · split at hk
      · cases hk
      · dsimp only at hk
        split at hk <;> cases hk
  | dynamicLitlenDistanceExtra =>
    dsimp only at h
    rcases extractThen_stop h with ⟨d, rfl⟩ | ⟨v, d, inp₁, hk⟩
    · exact .inl (suspended_with d)
    · dsimp only at hk
      split at hk <;> cases hk
  | constructAlphabets =>
    dsimp only at h
    split at h <;> cases h
  | lzhufLitlen =>
    dsimp only at h
    rcases decodeThen_stop h with ⟨d, rfl⟩ | ⟨v, d, inp₁, hk⟩
    · exact .inl (suspended_with d)
    · split at hk
      · cases hk
      split at hk
      · cases hk
      split at hk <;> cases hk
  | lzhufLitlenExtra =>
    dsimp only at h
    rcases extractThen_stop h with ⟨d, rfl⟩ | ⟨v, d, inp₁, hk⟩
    · exact .inl (suspended_with d)
    · cases hk
  | lzhufDistance =>
    dsimp only at h
    rcases decodeThen_stop h with ⟨d, rfl⟩ | ⟨v, d, inp₁, hk⟩
    · exact .inl (suspended_with d)
    · cases hk
  | lzhufDistanceExtra =>
    dsimp only at h
    rcases extractThen_stop h with ⟨d, rfl⟩ | ⟨v, d, inp₁, hk⟩
    · exact .inl (suspended_with d)
    · dsimp only at hk
      split at hk <;> cases hk
  | blockDone =>
    dsimp only at h
    split at h
    · cases h
    · split at h <;> cases h
  | zlibAdler32 =>
    dsimp only at h
    split at h
    · cases h
      exact .inl ⟨rfl, rfl, rfl⟩
    · cases h
  | finished =>
    dsimp only at h
    cases h
    exact .inr rfl

/-- 中断した状態の再開点では `Inv` が成り立つ。 -/
theorem Suspended.invResume (hinv : Inv l st) (h : Suspended l st st') : InvResume st' := by
  obtain ⟨hres, hlit, hdist⟩ := h
  intro l' hl'
  rw [hres, Option.some.injEq] at hl'
  subst hl'
  exact (inv_congr hlit hdist).2 hinv

theorem invResume_of_none (h : st.resume = none) : InvResume st := by
  intro l hl
  rw [h] at hl
  cases hl

end Step

/-! ## 走り

`measure` は残りの bit の数の 5 倍に順位の残りを足した量で、`goto` の一歩ごとに減る。fuel がこれより
多ければ、途中で fuel が尽きることはない。 -/

section Run

/-- 次の label へ移る一歩は、fuel を一つ使う。 -/
theorem inflateRun_next {l l' : Label} {st st' : Inflater} {inp inp' out out' : DeflateChunk}
    (h : inflateStep l st inp out = .next l' st' inp' out') (fuel : Nat) :
    inflateRun (fuel + 1) l st inp out = inflateRun fuel l' st' inp' out' := by
  rw [inflateRun_succ, h]

theorem inflateRun_stop {l : Label} {st st' : Inflater} {inp inp' out out' : DeflateChunk}
    (h : inflateStep l st inp out = .stop st' inp' out') (fuel : Nat) :
    inflateRun (fuel + 1) l st inp out = .ok (st', inp', out') := by
  rw [inflateRun_succ, h]

theorem inflateRun_fail {l : Label} {st : Inflater} {inp out : DeflateChunk} {rc : Rc}
    (h : inflateStep l st inp out = .fail rc) (fuel : Nat) :
    inflateRun (fuel + 1) l st inp out = .error rc := by
  rw [inflateRun_succ, h]

/-- 走り終えるまでの一歩の数の上界。 -/
def measure (l : Label) (st : Inflater) (inp : DeflateChunk) : Nat :=
  5 * (stream st.reader inp).length + (4 - l.rank)

theorem Progress.measure_lt {l l' : Label} {st st' : Inflater} {inp inp' : DeflateChunk}
    (hp : Progress l st inp l' st' inp') : measure l' st' inp' < measure l st inp := by
  have hr := rank_le l'
  have hle := hp.le
  unfold measure
  rcases hp.lt_or with hlt | hlt <;> omega

/-- **fuel は足りる。** `Inv` の下で fuel が `measure` より多ければ、それ以上 fuel を足しても結果は
変わらない。fuel についての帰納法で、一歩ごとに `measure` が減ることを使う。 -/
theorem inflateRun_stable : ∀ (fuel : Nat) (l : Label) (st : Inflater) (inp out : DeflateChunk),
    Inv l st → measure l st inp < fuel → ∀ k, inflateRun (fuel + k) l st inp out = inflateRun fuel l st inp out := by
  intro fuel
  induction fuel with
  | zero => intro l st inp out _ hf; omega
  | succ fuel ih =>
    intro l st inp out hinv hf k
    rw [Nat.add_right_comm, inflateRun_succ, inflateRun_succ]
    cases hstep : inflateStep l st inp out with
    | next l₁ st₁ inp₁ out₁ =>
      obtain ⟨hp, hinv₁⟩ := inflateStep_next hinv hstep
      have hlt := hp.measure_lt
      exact ih l₁ st₁ inp₁ out₁ hinv₁ (by omega) k
    | stop st₁ inp₁ out₁ => rfl
    | fail rc => rfl

/-- 走りが成功して返れば、再開点の label では `Inv` が成り立つ。fuel が尽きた時も今の label で
中断した形なので成り立つ。 -/
theorem inflateRun_invResume : ∀ (fuel : Nat) (l : Label) (st : Inflater) (inp out : DeflateChunk)
    {st' : Inflater} {inp' out' : DeflateChunk},
    Inv l st → inflateRun fuel l st inp out = .ok (st', inp', out') → InvResume st' := by
  intro fuel
  induction fuel with
  | zero =>
    intro l st inp out st' inp' out' hinv h
    simp only [inflateRun, Except.ok.injEq, Prod.mk.injEq] at h
    obtain ⟨rfl, -, -⟩ := h
    exact Suspended.invResume hinv ⟨rfl, rfl, rfl⟩
  | succ fuel ih =>
    intro l st inp out st' inp' out' hinv h
    rw [inflateRun_succ] at h
    cases hstep : inflateStep l st inp out with
    | next l₁ st₁ inp₁ out₁ =>
      rw [hstep] at h
      exact ih l₁ st₁ inp₁ out₁ (inflateStep_next hinv hstep).2 h
    | stop st₁ inp₁ out₁ =>
      rw [hstep] at h
      simp only [Except.ok.injEq, Prod.mk.injEq] at h
      obtain ⟨rfl, -, -⟩ := h
      rcases inflateStep_stop hstep with hs | hnone
      · exact hs.invResume hinv
      · exact invResume_of_none hnone
    | fail rc =>
      rw [hstep] at h
      cases h

end Run

/-! ## 呼び出しを重ねる -/

/-- `deflate_init` の後に `deflate_inflate` を何度か呼んで届く状態。 -/
inductive Reachable : Inflater → Prop
  | init (format : DeflateFormat) : Reachable (deflateInit format)
  | inflate {st st' : Inflater} {inp out inp' out' : DeflateChunk} :
      Reachable st → deflateInflate st inp out = .ok (st', inp', out') → Reachable st'

theorem inv_entryLabel {st : Inflater} (h : InvResume st) : Inv (entryLabel st) st := by
  unfold entryLabel
  split
  · next l hl => exact h l hl
  · split <;> trivial

theorem Reachable.invResume {st : Inflater} (h : Reachable st) : InvResume st := by
  induction h with
  | init format => exact invResume_of_none rfl
  | inflate _ hrun ih => exact inflateRun_invResume _ _ _ _ _ (inv_entryLabel ih) hrun

theorem measure_lt_inflateFuel (l : Label) (st : Inflater) (inp : DeflateChunk) :
    measure l st inp < inflateFuel st inp := by
  have hr := rank_le l
  unfold measure inflateFuel
  rw [length_stream]
  omega

/-- **`deflate_inflate` の fuel は足りている。** `deflate_init` から何度呼んだ後でも、`deflate_inflate`
の結果は fuel をいくら足しても変わらない。C の `goto` の loop は必ず返り、その結果を model は計算する。 -/
theorem deflateInflate_stable {st : Inflater} (hr : Reachable st) (inp out : DeflateChunk) (k : Nat) :
    inflateRun (inflateFuel st inp + k) (entryLabel st) st inp out = deflateInflate st inp out :=
  inflateRun_stable _ _ _ _ _ (inv_entryLabel hr.invResume) (measure_lt_inflateFuel _ _ _) k

theorem deflateInflate_stable_empty_stored :
    Reachable (deflateInit .raw) ∧
      inflateRun (inflateFuel (deflateInit .raw) ⟨[1, 0, 0, 255, 255], 0, 5⟩ + 100) (entryLabel (deflateInit .raw))
          (deflateInit .raw) ⟨[1, 0, 0, 255, 255], 0, 5⟩ ⟨[], 0, 0⟩ =
        deflateInflate (deflateInit .raw) ⟨[1, 0, 0, 255, 255], 0, 5⟩ ⟨[], 0, 0⟩ :=
  ⟨.init .raw, deflateInflate_stable (.init .raw) _ _ 100⟩

end FlexBoot.Inflate
