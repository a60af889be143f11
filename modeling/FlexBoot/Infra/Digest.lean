import Mathlib

/-!
# block を溜めて圧縮する hash の形

MD5 や SHA-1、SHA-256 の実装は、入力を一つずつ長さ `B` の block の領域に溜め、満ちるたびに
圧縮関数で連鎖値を更新する。溜めた数は幅のある整数で数えるので、法 `M` で巻き戻る。
最後は `do { 足す } while ( len % B ≠ target )` の loop で詰め物をし、長さを足して終える。
ここではその形だけを取り出し、特定の hash には触れない。

* `absorb` — 列の先頭から `n` 個の block を順に圧縮した連鎖値（標準の書き方）
* `Absorber` — block の長さ、数の法、圧縮。`M` は `B` の倍数で、圧縮は領域の長さを保つ
* `Absorber.push1` / `push` — 一つ足す／列を足す
* `Absorber.padLoop` — 詰め物の loop
* `Absorber.Holds` — 流れの状態が、それまでに足した列全体の `absorb` を持つこと

`Holds` は一つ足すごとに保たれ（`Holds.push1`）、だから列をどう分けて足しても保たれる
（`Holds.push`）。詰め物の loop が足すものは、止まる位置で決まる（`padLoop_eq_push`）。

後半は、前の語から次の語を作って表を埋める loop（hash の message schedule）が、
漸化式で定めた列に一致すること（`getD_foldl_set`）である。
-/

namespace Infra

variable {σ α : Type}

/-! ## 標準の側：block ごとの圧縮 -/

/-- 列の先頭から `n` 個の長さ `B` の block を順に `f` で圧縮する。 -/
def absorb (f : σ → List α → σ) (B : Nat) : Nat → σ → List α → σ
  | 0, h, _ => h
  | n + 1, h, l => absorb f B n (f h (l.take B)) (l.drop B)

section Absorb

variable {f : σ → List α → σ} {B : Nat}

/-- `n` 個の block が揃っていれば、後ろに何を足しても圧縮は変わらない。 -/
theorem absorb_append_of_le :
    ∀ (n : Nat) (h : σ) (l l' : List α), n * B ≤ l.length → absorb f B n h (l ++ l') = absorb f B n h l
  | 0, _, _, _, _ => rfl
  | n + 1, h, l, l', hn => by
    rw [Nat.succ_mul] at hn
    have hB : B ≤ l.length := by omega
    simp only [absorb, List.take_append_of_le_length hB, List.drop_append_of_le_length hB]
    exact absorb_append_of_le n _ _ _ (by rw [List.length_drop]; omega)

/-- `n + 1` 個目の block まで揃っていれば、`n` 個の圧縮の後にその block を圧縮する。 -/
theorem absorb_succ_eq :
    ∀ (n : Nat) (h : σ) (l : List α), (n + 1) * B ≤ l.length →
      absorb f B (n + 1) h l = f (absorb f B n h l) ((l.drop (n * B)).take B)
  | 0, _, _, _ => by simp [absorb]
  | n + 1, h, l, hn => by
    have hrest : (n + 1) * B ≤ (l.drop B).length := by
      rw [List.length_drop]
      rw [Nat.succ_mul] at hn ⊢
      rw [Nat.succ_mul] at hn
      omega
    rw [absorb, absorb_succ_eq n _ _ hrest, List.drop_drop, Nat.succ_mul, Nat.add_comm B]
    rfl

/-- 連鎖値の表し方を `g` で変えても、各 block の圧縮が対応すれば全体も対応する。 -/
theorem absorb_map {τ : Type} (g : σ → τ) {f' : τ → List α → τ} (hg : ∀ h b, g (f h b) = f' (g h) b) :
    ∀ (n : Nat) (h : σ) (l : List α), g (absorb f B n h l) = absorb f' B n (g h) l
  | 0, _, _ => rfl
  | n + 1, h, l => by
    simp only [absorb]
    rw [absorb_map g hg n, hg]

end Absorb

/-! ## 実装の側：一つずつ溜める流れ -/

/-- 流れの形。block の長さ `B`、溜めた数を数える法 `M`、圧縮 `compress`。圧縮は連鎖値と
block の領域から、次の連鎖値と処理の後の領域を返す（実装によっては領域をその場で書き換える）。 -/
structure Absorber (σ α : Type) where
  B : Nat
  M : Nat
  compress : σ → List α → σ × List α
  pos : 0 < B
  dvd : B ∣ M
  length_compress : ∀ h b, b.length = B → (compress h b).2.length = B

/-- 流れの状態：連鎖値、block の領域、溜めた数。 -/
structure BlockStream (σ α : Type) where
  state : σ
  buf : List α
  len : Nat
  deriving DecidableEq, Repr

namespace Absorber

variable (A : Absorber σ α)

/-- 一つ足す：領域の `len % B` に書き、数を一つ増やし、block が満ちたら圧縮する。 -/
def push1 (s : BlockStream σ α) (x : α) : BlockStream σ α :=
  let buf := s.buf.set (s.len % A.B) x
  let len := (s.len + 1) % A.M
  if len % A.B = 0 then
    let r := A.compress s.state buf
    ⟨r.1, r.2, len⟩
  else ⟨s.state, buf, len⟩

/-- 列を先頭から一つずつ足す。 -/
def push (s : BlockStream σ α) (xs : List α) : BlockStream σ α := xs.foldl A.push1 s

/-- `do { 足す x; x := y } while ( len % B ≠ target )`。`fuel` は回る回数の上限である。 -/
def padLoop (target : Nat) (y : α) : Nat → BlockStream σ α → α → BlockStream σ α
  | 0, s, _ => s
  | fuel + 1, s, x =>
    let s := A.push1 s x
    if s.len % A.B = target then s else padLoop target y fuel s y

/-- 圧縮の連鎖値の部分。 -/
def chain (h : σ) (b : List α) : σ := (A.compress h b).1

/-- `s` は連鎖値 `h` から列 `m` を足した状態である：数は `|m|` を法 `M` で数えたもの、
連鎖値は満ちた block をすべて圧縮したもの、残りは領域の先頭にある。 -/
structure Holds (h : σ) (m : List α) (s : BlockStream σ α) : Prop where
  len : s.len = m.length % A.M
  state : s.state = absorb A.chain A.B (m.length / A.B) h m
  length_buf : s.buf.length = A.B
  buf : s.buf.take (m.length % A.B) = m.drop (m.length / A.B * A.B)

theorem push1_len (s : BlockStream σ α) (x : α) : (A.push1 s x).len = (s.len + 1) % A.M := by
  unfold push1
  dsimp only
  split <;> rfl

theorem push1_len_mod (s : BlockStream σ α) (x : α) :
    (A.push1 s x).len % A.B = (s.len + 1) % A.B := by
  rw [push1_len, Nat.mod_mod_of_dvd _ A.dvd]

@[simp] theorem push_nil (s : BlockStream σ α) : A.push s [] = s := rfl

theorem push_cons (s : BlockStream σ α) (x : α) (xs : List α) :
    A.push s (x :: xs) = A.push (A.push1 s x) xs := rfl

theorem push_append (s : BlockStream σ α) (xs ys : List α) :
    A.push s (xs ++ ys) = A.push (A.push s xs) ys := List.foldl_append

/-- 断片に分けて順に足すのは、つないで一度に足すのと同じである。 -/
theorem foldl_push (s : BlockStream σ α) (parts : List (List α)) :
    parts.foldl A.push s = A.push s parts.flatten := by
  induction parts generalizing s with
  | nil => rfl
  | cons p ps ih => rw [List.foldl_cons, ih, List.flatten_cons, push_append]

/-! ### `Holds` は足すたびに保たれる -/

/-- 一つ足したときの商と余り。余りが `B - 1` なら商が一つ増えて余りは 0 になり、
そうでなければ余りが一つ増える。 -/
theorem succ_div_mod_cases {L B : Nat} (hB : 0 < B) :
    (L % B + 1 = B ∧ (L + 1) / B = L / B + 1 ∧ (L + 1) % B = 0) ∨
    (L % B + 1 < B ∧ (L + 1) / B = L / B ∧ (L + 1) % B = L % B + 1) := by
  have hL : L + 1 = L % B + 1 + B * (L / B) := by
    have := Nat.mod_add_div L B
    omega
  have hr : L % B < B := Nat.mod_lt L hB
  rcases Nat.lt_or_eq_of_le (show L % B + 1 ≤ B by omega) with hlt | heq
  · right
    refine ⟨hlt, ?_, ?_⟩
    · rw [hL, Nat.add_mul_div_left _ _ hB, Nat.div_eq_of_lt hlt, Nat.zero_add]
    · rw [hL, Nat.add_mul_mod_self_left, Nat.mod_eq_of_lt hlt]
  · left
    refine ⟨heq, ?_, ?_⟩
    · rw [hL, heq, Nat.add_mul_div_left _ _ hB, Nat.div_self hB, Nat.add_comm]
    · rw [hL, heq, Nat.add_mul_mod_self_left, Nat.mod_self]

theorem holds_init (h : σ) (buf : List α) (hbuf : buf.length = A.B) :
    A.Holds h [] ⟨h, buf, 0⟩ := by
  refine ⟨rfl, ?_, hbuf, ?_⟩ <;> simp [absorb]

variable {A} {h : σ} {m : List α} {s : BlockStream σ α}

/-- **一つ足しても `Holds` は保たれる。** 書く位置は残りの直後で、block が満ちたときは
圧縮する block がちょうど最後の block である。 -/
theorem Holds.push1 (hs : A.Holds h m s) (x : α) : A.Holds h (m ++ [x]) (A.push1 s x) := by
  have hoff : s.len % A.B = m.length % A.B := by rw [hs.len, Nat.mod_mod_of_dvd _ A.dvd]
  have hr : m.length % A.B < s.buf.length := by rw [hs.length_buf]; exact Nat.mod_lt _ A.pos
  have hq : m.length / A.B * A.B + m.length % A.B = m.length := Nat.div_add_mod' _ _
  -- 書いた後の領域は、残りと `x` の後に古い領域の続きが来る
  have hset : s.buf.set (s.len % A.B) x =
      m.drop (m.length / A.B * A.B) ++ x :: s.buf.drop (m.length % A.B + 1) := by
    rw [List.set_eq_take_append_cons_drop, if_pos (hoff ▸ hr), hoff, hs.buf]
  have hlen' : (s.len + 1) % A.M = (m ++ [x]).length % A.M := by
    rw [hs.len, Nat.mod_add_mod, List.length_append, List.length_singleton]
  have hmodB : (s.len + 1) % A.M % A.B = (m.length + 1) % A.B := by
    rw [hlen', Nat.mod_mod_of_dvd _ A.dvd, List.length_append, List.length_singleton]
  have hlenset : (s.buf.set (s.len % A.B) x).length = A.B := by
    rw [List.length_set, hs.length_buf]
  have hdropm : (m ++ [x]).drop (m.length / A.B * A.B) = m.drop (m.length / A.B * A.B) ++ [x] :=
    List.drop_append_of_le_length (by omega)
  have hxl : (m ++ [x]).length = m.length + 1 := by rw [List.length_append, List.length_singleton]
  unfold Absorber.push1
  dsimp only
  rcases succ_div_mod_cases (L := m.length) A.pos with ⟨hfull, hdiv, hmod⟩ | ⟨hpart, hdiv, hmod⟩
  · -- block が満ちる：書いた後の領域がちょうど最後の block で、それを圧縮する
    rw [if_pos (hmodB.trans hmod)]
    have hblock : s.buf.set (s.len % A.B) x = ((m ++ [x]).drop (m.length / A.B * A.B)).take A.B := by
      have hrest : s.buf.drop (m.length % A.B + 1) = [] :=
        List.drop_eq_nil_of_le (by rw [hs.length_buf]; omega)
      rw [hset, hrest, hdropm, List.take_of_length_le]
      rw [List.length_append, List.length_drop, List.length_singleton]
      omega
    refine ⟨hlen', ?_, A.length_compress _ _ hlenset, ?_⟩
    · rw [hxl, hdiv, absorb_succ_eq _ _ _ (by rw [Nat.succ_mul, List.length_append, List.length_singleton]; omega),
        absorb_append_of_le _ _ _ _ (Nat.div_mul_le_self _ _), ← hs.state, ← hblock]
      rfl
    · rw [hxl, hmod, List.take_zero, List.drop_eq_nil_of_le]
      rw [hdiv, Nat.succ_mul, hxl]
      omega
  · -- block は満ちない：連鎖値はそのままで、残りに `x` が加わる
    rw [if_neg (by rw [hmodB, hmod]; omega)]
    refine ⟨hlen', ?_, hlenset, ?_⟩
    · rw [hxl, hdiv, absorb_append_of_le _ _ _ _ (Nat.div_mul_le_self _ _)]
      exact hs.state
    · rw [hxl, hmod, hdiv, hset, hdropm, List.take_append, List.take_of_length_le (by rw [List.length_drop]; omega)]
      rw [List.length_drop, show m.length % A.B + 1 - (m.length - m.length / A.B * A.B) = 1 by omega]
      rfl

/-- **列を足しても `Holds` は保たれる。** -/
theorem Holds.push (hs : A.Holds h m s) (xs : List α) : A.Holds h (m ++ xs) (A.push s xs) := by
  induction xs generalizing m s with
  | nil => simpa using hs
  | cons x xs ih =>
    rw [push_cons, show m ++ x :: xs = (m ++ [x]) ++ xs by simp]
    exact ih (hs.push1 x)

/-! ### 詰め物の loop -/

/-- **詰め物の loop。** 最初に足した後の位置から数えて `j` 個目で初めて `target` に着くなら、
loop は `x` の後に `y` を `j` 個足したところで止まる。`fuel` は `j` より多ければよい。 -/
theorem padLoop_eq_push (A : Absorber σ α) (target : Nat) (y : α) :
    ∀ (j fuel : Nat) (s : BlockStream σ α) (x : α), j < fuel →
      (∀ i < j, (s.len + 1 + i) % A.B ≠ target) → (s.len + 1 + j) % A.B = target →
      A.padLoop target y fuel s x = A.push s (x :: List.replicate j y)
  | _, 0, _, _, hfuel, _, _ => absurd hfuel (Nat.not_lt_zero _)
  | 0, fuel + 1, s, x, _, _, hstop => by
    simp only [padLoop, push1_len_mod, hstop, if_true]
    rfl
  | j + 1, fuel + 1, s, x, hfuel, hpass, hstop => by
    have hnext : ¬ (s.len + 1) % A.B = target := hpass 0 (Nat.succ_pos j)
    simp only [padLoop, push1_len_mod, hnext, if_false]
    -- 次の周は、足した後の状態から `y` を足す
    have hshift : ∀ i, ((A.push1 s x).len + 1 + i) % A.B = (s.len + 1 + (i + 1)) % A.B := by
      intro i
      have h := Nat.mod_add_mod (A.push1 s x).len A.B (1 + i)
      rw [push1_len_mod, Nat.mod_add_mod] at h
      rw [Nat.add_assoc, ← h]
      congr 1
      omega
    rw [padLoop_eq_push A target y j fuel (A.push1 s x) y (by omega)
      (fun i hi => by rw [hshift]; exact hpass (i + 1) (by omega)) (by rw [hshift]; exact hstop)]
    rfl

/-- `*_final` の形。溜めた数を長さの field `lenField` にしておき、`x` の後に `y` を足して
`len % B = target` まで詰め、長さの field を足す。詰め物の loop は `B` 回のうちに止まる。 -/
def finish (target : Nat) (x y : α) (lenField : Nat → List α) (s : BlockStream σ α) : BlockStream σ α :=
  A.push (A.padLoop target y A.B s x) (lenField s.len)

/-- 詰め物の `y` の数。数 `L` の後に `x` を足した位置から、余りが `target` に着くまでである。 -/
def padCount (B target L : Nat) : Nat := (target + B - (L + 1) % B) % B

/-- `padCount` 個の `y` の後で初めて余りが `target` に着く。 -/
theorem padCount_spec {B target : Nat} (hB : 0 < B) (ht : target < B) (L : Nat) :
    (L + 1 + padCount B target L) % B = target ∧
      ∀ i < padCount B target L, (L + 1 + i) % B ≠ target := by
  -- 数えるのは `x` を足した後の余り `c` からである
  have hshift : ∀ i, (L + 1 + i) % B = ((L + 1) % B + i) % B := fun i => (Nat.mod_add_mod _ _ _).symm
  have hcB : (L + 1) % B < B := Nat.mod_lt _ hB
  unfold padCount
  generalize (L + 1) % B = c at hshift hcB
  rcases Nat.lt_or_ge target c with hlt | hle
  · -- `target` は次の block にある
    have hk : (target + B - c) % B = target + B - c := Nat.mod_eq_of_lt (by omega)
    rw [hk]
    refine ⟨by rw [hshift, show c + (target + B - c) = target + B by omega, Nat.add_mod_right,
      Nat.mod_eq_of_lt ht], ?_⟩
    intro i hi
    rw [hshift]
    rcases Nat.lt_or_ge (c + i) B with hin | hover
    · rw [Nat.mod_eq_of_lt hin]
      omega
    · rw [Nat.mod_eq_sub_mod hover, Nat.mod_eq_of_lt (by omega)]
      omega
  · -- `target` は同じ block の中にある
    have hk : (target + B - c) % B = target - c := by
      rw [show target + B - c = target - c + B by omega, Nat.add_mod_right, Nat.mod_eq_of_lt (by omega)]
    rw [hk]
    refine ⟨by rw [hshift, show c + (target - c) = target by omega, Nat.mod_eq_of_lt ht], ?_⟩
    intro i hi
    rw [hshift, Nat.mod_eq_of_lt (by omega)]
    omega

/-- **`*_final` の後も `Holds` は保たれる。** 足したのは `x`、`padCount` 個の `y`、
詰め物の前の数から作った長さの field である。 -/
theorem Holds.finish (hs : A.Holds h m s) {target : Nat} (ht : target < A.B) (x y : α)
    (lenField : Nat → List α) :
    A.Holds h (m ++ x :: List.replicate (padCount A.B target m.length) y ++ lenField s.len)
      (A.finish target x y lenField s) := by
  have h1 : (s.len + 1) % A.B = (m.length + 1) % A.B := by
    rw [hs.len, ← Nat.mod_add_mod, Nat.mod_mod_of_dvd _ A.dvd, Nat.mod_add_mod]
  have hL : ∀ i, (s.len + 1 + i) % A.B = (m.length + 1 + i) % A.B := by
    intro i
    rw [← Nat.mod_add_mod, h1, Nat.mod_add_mod]
  obtain ⟨hstop, hpass⟩ := padCount_spec A.pos ht m.length
  unfold Absorber.finish
  rw [padLoop_eq_push A target y (padCount A.B target m.length) A.B s x (Nat.mod_lt _ A.pos)
    (fun i hi => by rw [hL]; exact hpass i hi) (by rw [hL]; exact hstop), ← push_append,
    List.append_assoc]
  exact hs.push _

end Absorber

/-! ## 漸化式で表を埋める loop -/

/-- **表を埋める loop は漸化式の列になる。** 表 `w` の `s` より前が列 `W` に一致し、
`s₀` 以降の `i` 番目に書く値 `F w i` が `i` より前の値だけから `W i` を作るなら、`s` から `n` 個を
順に書いた後の表は `s + n` より前で `W` に一致する。 -/
theorem getD_foldl_set {d : α} (W : Nat → α) (F : List α → Nat → α) (s₀ : Nat)
    (hF : ∀ w i, s₀ ≤ i → (∀ j < i, w.getD j d = W j) → F w i = W i) :
    ∀ (n s : Nat) (w : List α), s₀ ≤ s → s + n ≤ w.length → (∀ j < s, w.getD j d = W j) →
      ∀ j < s + n, ((List.range' s n).foldl (fun w i => w.set i (F w i)) w).getD j d = W j
  | 0, _, _, _, _, hw => by simpa using hw
  | n + 1, s, w, hs, hlen, hw => by
    rw [List.range'_succ, List.foldl_cons]
    -- `s` 番目を書いた後は、`s + 1` より前で一致する
    have hw' : ∀ j < s + 1, (w.set s (F w s)).getD j d = W j := by
      intro j hj
      rw [List.getD_eq_getElem?_getD, List.getElem?_set]
      by_cases hjs : s = j
      · subst hjs
        rw [if_pos rfl, if_pos (by omega), Option.getD_some, hF w s hs hw]
      · rw [if_neg hjs, ← List.getD_eq_getElem?_getD]
        exact hw j (by omega)
    intro j hj
    exact getD_foldl_set W F s₀ hF n (s + 1) _ (by omega) (by rw [List.length_set]; omega) hw' j (by omega)

/-! ## 添字つきの loop の模倣 -/

/-- **loop の模倣。** `i` 回目の `f` が、`view i` を通して `g` の `i` 回目を写すなら、
`s` から `n` 回の loop 全体も `view` で写る。`view` が回ごとに変わるのは、作業変数の役を
回ごとに入れ替える実装を、入れ替えない書き方で見るときである。 -/
theorem foldl_range'_view {β γ : Type} (view : Nat → γ → β) (f : β → Nat → β) (g : γ → Nat → γ) :
    ∀ (n s : Nat) (x : γ), (∀ i y, s ≤ i → i < s + n → f (view i y) i = view (i + 1) (g y i)) →
      (List.range' s n).foldl f (view s x) = view (s + n) ((List.range' s n).foldl g x)
  | 0, _, _, _ => rfl
  | n + 1, s, x, hstep => by
    rw [List.range'_succ, List.foldl_cons, List.foldl_cons, hstep s x (Nat.le_refl s) (by omega),
      foldl_range'_view view f g n (s + 1) (g x s) (fun i y hi hin => hstep i y (by omega) (by omega)),
      show s + 1 + n = s + (n + 1) by omega]

/-! ## 語の bit の演算

hash の関数には、`|||` で書いても `^^^` で書いても同じになる形がある。二つの語は、どの bit でも
等しければ等しい。 -/

theorem uint32_eq_of_getElem {x y : UInt32} (h : ∀ i (hi : i < 32), x.toBitVec[i] = y.toBitVec[i]) :
    x = y :=
  UInt32.toBitVec_inj.mp (BitVec.eq_of_getElem_eq h)

/-- 選択：`x` の bit が 1 なら `y`、0 なら `z`。二つの項は重ならない。 -/
theorem and_or_not_and_eq_xor (x y z : UInt32) :
    (x &&& y) ||| (~~~x &&& z) = (x &&& y) ^^^ (~~~x &&& z) :=
  uint32_eq_of_getElem fun i hi => by
    simp only [UInt32.toBitVec_or, UInt32.toBitVec_xor, UInt32.toBitVec_and, UInt32.toBitVec_not,
      BitVec.getElem_or, BitVec.getElem_xor, BitVec.getElem_and, BitVec.getElem_not]
    cases x.toBitVec[i] <;> cases y.toBitVec[i] <;> cases z.toBitVec[i] <;> rfl

/-- 多数決は、二つずつの積の `|||` でも `^^^` でもよい。 -/
theorem maj_or_eq_xor (x y z : UInt32) :
    (x &&& y) ||| (x &&& z) ||| (y &&& z) = (x &&& y) ^^^ (x &&& z) ^^^ (y &&& z) :=
  uint32_eq_of_getElem fun i hi => by
    simp only [UInt32.toBitVec_or, UInt32.toBitVec_xor, UInt32.toBitVec_and,
      BitVec.getElem_or, BitVec.getElem_xor, BitVec.getElem_and]
    cases x.toBitVec[i] <;> cases y.toBitVec[i] <;> cases z.toBitVec[i] <;> rfl

/-- 選択を `^^^` と `&&&` だけで書いた形。 -/
theorem xor_and_xor_eq_select (x y z : UInt32) :
    z ^^^ (x &&& (y ^^^ z)) = (x &&& y) ||| (~~~x &&& z) :=
  uint32_eq_of_getElem fun i hi => by
    simp only [UInt32.toBitVec_or, UInt32.toBitVec_xor, UInt32.toBitVec_and, UInt32.toBitVec_not,
      BitVec.getElem_or, BitVec.getElem_xor, BitVec.getElem_and, BitVec.getElem_not]
    cases x.toBitVec[i] <;> cases y.toBitVec[i] <;> cases z.toBitVec[i] <;> rfl

end Infra
