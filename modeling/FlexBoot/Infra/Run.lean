import Mathlib

/-!
# 状態機械の実行と不変条件

プロトコルの受信側やキャッシュは、どれも「状態に事象を一つずつ適用する」形で書ける。
ここではその形だけを取り出し、特定のプロトコルには触れない。

* `run` — 事象の列を左から順に適用する
* `Invariant` — 一歩で保たれる性質。初期状態で成り立てば、どの事象列の実行の後でも成り立つ
* `follow` — 止まるかもしれない「次の位置」を繰り返したどる。輪に入れば止まらない
* `whileSome` — 次がなくなるまで繰り返す loop。止まらないことを不変条件から、止まることを
  一歩ごとに減る量か、`follow` で数えた回数から言う

安全性の主張は「到達可能なすべての状態で `P`」であり、反例は
「ある事象列の実行結果で `¬ P`」である。どちらもこの語彙で書く。
-/

namespace Infra

variable {σ ε α : Type*}

/-! ## 実行 -/

/-- 事象の列を左から順に適用する。 -/
def run (step : σ → ε → σ) (s : σ) (es : List ε) : σ := es.foldl step s

@[simp] theorem run_nil (step : σ → ε → σ) (s : σ) : run step s [] = s := rfl

@[simp] theorem run_cons (step : σ → ε → σ) (s : σ) (e : ε) (es : List ε) :
    run step s (e :: es) = run step (step s e) es := rfl

theorem run_append (step : σ → ε → σ) (s : σ) (es fs : List ε) :
    run step s (es ++ fs) = run step (run step s es) fs := List.foldl_append

/-! ## 不変条件 -/

/-- 一歩で保たれる性質。 -/
def Invariant (step : σ → ε → σ) (P : σ → Prop) : Prop := ∀ s e, P s → P (step s e)

theorem Invariant.run {step : σ → ε → σ} {P : σ → Prop} (h : Invariant step P) {s : σ}
    (hs : P s) : ∀ es, P (Infra.run step s es) := by
  intro es
  induction es generalizing s with
  | nil => exact hs
  | cons e es ih => exact ih (h s e hs)

/-- 事象に条件 `E` が付いた不変条件。`E` を満たす事象だけからなる列の実行で保たれる。 -/
theorem run_of_step {step : σ → ε → σ} {P : σ → Prop} {E : ε → Prop}
    (h : ∀ s e, E e → P s → P (step s e)) {s : σ} (hs : P s) :
    ∀ es, (∀ e ∈ es, E e) → P (Infra.run step s es) := by
  intro es hes
  induction es generalizing s with
  | nil => exact hs
  | cons e es ih =>
    exact ih (h s e (hes e List.mem_cons_self) hs) (fun e' he' => hes e' (List.mem_cons_of_mem e he'))

/-- 処理した事象の列を添字に持つ不変条件。一歩ごとに、それまでの列に事象を一つ足した列で
成り立つなら、実行の後は事象をすべて足した列で成り立つ。 -/
theorem run_history {step : σ → ε → σ} {I : List ε → σ → Prop}
    (h : ∀ past s e, I past s → I (past ++ [e]) (step s e)) :
    ∀ (es past : List ε) (s : σ), I past s → I (past ++ es) (run step s es)
  | [], past, s, hs => by simpa using hs
  | e :: es, past, s, hs => by
    have := run_history h es (past ++ [e]) (step s e) (h past s e hs)
    simpa using this

/-! ## 状態で決まる事象の条件

相手が送ってよいものが、その時の状態で決まることがある（受信窓の中の segment など）。
`Admits step G s es` は、列の各事象がそれの届く時の状態で `G` を満たすことである。
-/

def Admits (step : σ → ε → σ) (G : σ → ε → Prop) : σ → List ε → Prop
  | _, [] => True
  | s, e :: es => G s e ∧ Admits step G (step s e) es

def Admits.decide {step : σ → ε → σ} {G : σ → ε → Prop} [∀ s e, Decidable (G s e)] :
    ∀ s es, Decidable (Admits step G s es)
  | _, [] => isTrue trivial
  | s, e :: es =>
    haveI : Decidable (Admits step G (step s e) es) := Admits.decide (step s e) es
    inferInstanceAs (Decidable (G s e ∧ Admits step G (step s e) es))

instance {step : σ → ε → σ} {G : σ → ε → Prop} [∀ s e, Decidable (G s e)] (s : σ) (es : List ε) :
    Decidable (Admits step G s es) :=
  Admits.decide s es

/-- `run_history` の、条件の付いた形。一歩ごとの保存には、その事象が条件を満たすことを
使ってよい。 -/
theorem run_history_admits {step : σ → ε → σ} {G : σ → ε → Prop} {I : List ε → σ → Prop}
    (h : ∀ past s e, G s e → I past s → I (past ++ [e]) (step s e)) :
    ∀ (es past : List ε) (s : σ), Admits step G s es → I past s → I (past ++ es) (run step s es)
  | [], past, s, _, hs => by simpa using hs
  | e :: es, past, s, ⟨he, hes⟩, hs => by
    have := run_history_admits h es (past ++ [e]) (step s e) hes (h past s e he hs)
    simpa using this

theorem run_map (step : σ → ε → σ) (f : α → ε) (s : σ) (as : List α) :
    run step s (as.map f) = run (fun s a => step s (f a)) s as := List.foldl_map

/-! ## 失敗しうる一歩

一歩が `Except` を返すとき、`do` の各行は `>>=` でつながる。成功した結果からは、
各行が成功したことと、その値が分かる。
-/

theorem bind_eq_ok {ε α β : Type _} {x : Except ε α} {f : α → Except ε β} {b : β} :
    x >>= f = .ok b ↔ ∃ a, x = .ok a ∧ f a = .ok b := by
  cases x with
  | error e => simp [bind, Except.bind]
  | ok a => simp [bind, Except.bind]

@[simp] theorem ok_bind {ε α β : Type _} (a : α) (f : α → Except ε β) :
    (Except.ok a >>= f) = f a := rfl

/-- 失敗しうる一歩が保つ性質は、列の終わりまで進んだ状態でも成り立つ。 -/
theorem foldlM_invariant {φ : Type _} {step : σ → ε → Except φ σ} {P : σ → Prop}
    (h : ∀ s e s', P s → step s e = .ok s' → P s') :
    ∀ (es : List ε) {s r : σ}, P s → es.foldlM step s = .ok r → P r
  | [], _, _, hs, hr => by
    rw [List.foldlM_nil] at hr
    cases hr
    exact hs
  | e :: es, s, _, hs, hr => by
    rw [List.foldlM_cons, bind_eq_ok] at hr
    obtain ⟨s', hs', hr⟩ := hr
    exact foldlM_invariant h es (h s e s' hs hs') hr

/-! ## 止まるかもしれない繰り返し

次の位置を `Option` で返す関数（止まれば `none`）を `k` 回たどる。一度来た所にまた来れば、
そこからどこまでたどっても止まらない（`follow_ne_none_of_cycle`）。
-/

/-- `next` を `k` 回たどった先。途中で止まれば `none`。 -/
def follow (next : α → Option α) : Nat → α → Option α
  | 0, a => some a
  | k + 1, a => (next a).bind (follow next k)

theorem follow_add (next : α → Option α) : ∀ (m n : Nat) (a : α),
    follow next (m + n) a = (follow next m a).bind (follow next n)
  | 0, n, a => by simp [follow]
  | m + 1, n, a => by
    rw [Nat.add_right_comm, follow, follow, Option.bind_assoc]
    congr 1
    funext b
    exact follow_add next m n b

/-- 最後の一歩を後ろに出す。 -/
theorem follow_succ_right (next : α → Option α) (k : Nat) (a : α) :
    follow next (k + 1) a = (follow next k a).bind next := by
  rw [follow_add]
  congr 1
  funext b
  simp [follow]

theorem follow_ne_none_of_le {next : α → Option α} {a : α} {k m : Nat} (hk : k ≤ m)
    (h : follow next m a ≠ none) : follow next k a ≠ none := by
  intro hnone
  rw [show m = k + (m - k) by omega, follow_add, hnone, Option.bind_none] at h
  exact h rfl

/-- 輪を回り続ける：`n` 回で戻る位置から `q * n` 回たどれば、また同じ位置にいる。 -/
theorem follow_mul_of_cycle {next : α → Option α} {p : α} {n : Nat} (h : follow next n p = some p) :
    ∀ q, follow next (q * n) p = some p
  | 0 => by simp [follow]
  | q + 1 => by rw [Nat.succ_mul, follow_add, follow_mul_of_cycle h q, Option.bind_some, h]

/-- 輪になった所にたどり着けば、何回たどっても止まらない。 -/
theorem follow_ne_none_of_cycle {next : α → Option α} {a p : α} {m n : Nat} (hn : 0 < n)
    (ha : follow next m a = some p) (hp : follow next n p = some p) (k : Nat) :
    follow next k a ≠ none := by
  by_cases hk : k ≤ m
  · exact follow_ne_none_of_le hk (by rw [ha]; exact Option.some_ne_none p)
  · -- 輪に入ってから `k - m` 回：それは `(k - m) * n` 回の手前にある
    have hcycle : follow next (k - m) p ≠ none :=
      follow_ne_none_of_le (Nat.le_mul_of_pos_right _ hn)
        (by rw [follow_mul_of_cycle hp]; exact Option.some_ne_none p)
    rw [show k = m + (k - m) by omega, follow_add, ha, Option.bind_some]
    exact hcycle

/-! ## 見つからなくなるまで繰り返す

`while ( 1 ) { ...; if ( ! found ) break; ... }` の形の loop。`next` が `none` を返した時の状態が
結果である。回数 `k` を燃料とし、`k` 回のうちに止まらなければ `none` とする。止まらないことは
「どの `k` でも `none`」と書き、止まることは「ある `k` で `some`」と書く。
-/

/-- `next` が `none` を返すまで繰り返し、その時の状態を返す。`k` 回のうちに止まらなければ `none`。 -/
def whileSome (next : α → Option α) : Nat → α → Option α
  | 0, _ => none
  | k + 1, a =>
    match next a with
    | none => some a
    | some b => whileSome next k b

theorem whileSome_of_next_eq_none {next : α → Option α} {a : α} (h : next a = none) (k : Nat) :
    whileSome next (k + 1) a = some a := by
  simp only [whileSome, h]

theorem whileSome_of_next_eq_some {next : α → Option α} {a b : α} (h : next a = some b) (k : Nat) :
    whileSome next (k + 1) a = whileSome next k b := by
  simp only [whileSome, h]

/-- 止まった時の状態には、もう次がない。 -/
theorem next_eq_none_of_whileSome {next : α → Option α} :
    ∀ {k : Nat} {a r : α}, whileSome next k a = some r → next r = none
  | 0, _, _, h => nomatch h
  | k + 1, a, r, h => by
    cases hn : next a with
    | none =>
      rw [whileSome_of_next_eq_none hn, Option.some.injEq] at h
      exact h ▸ hn
    | some b =>
      rw [whileSome_of_next_eq_some hn] at h
      exact next_eq_none_of_whileSome h

/-- 一歩で保たれる性質は、止まった時の状態でも成り立つ。 -/
theorem whileSome_invariant {next : α → Option α} {I : α → Prop} (h : ∀ a b, I a → next a = some b → I b) :
    ∀ {k : Nat} {a r : α}, I a → whileSome next k a = some r → I r
  | 0, _, _, _, hr => nomatch hr
  | k + 1, a, r, ha, hr => by
    cases hn : next a with
    | none =>
      rw [whileSome_of_next_eq_none hn, Option.some.injEq] at hr
      exact hr ▸ ha
    | some b =>
      rw [whileSome_of_next_eq_some hn] at hr
      exact whileSome_invariant h (h a b ha hn) hr

/-- 止まらない：不変条件 `I` を満たす状態には必ず次があり、次も `I` を満たすなら、何回回しても
終わらない。 -/
theorem whileSome_eq_none_of_invariant {next : α → Option α} {I : α → Prop}
    (h : ∀ a, I a → ∃ b, next a = some b ∧ I b) : ∀ (k : Nat) (a : α), I a → whileSome next k a = none
  | 0, _, _ => rfl
  | k + 1, a, ha => by
    obtain ⟨b, hb, hI⟩ := h a ha
    rw [whileSome_of_next_eq_some hb]
    exact whileSome_eq_none_of_invariant h k b hI

/-- 止まる：一歩ごとに減る量 `μ` があれば、`μ a` より多く回せば終わる。 -/
theorem whileSome_isSome_of_measure {next : α → Option α} (μ : α → Nat)
    (h : ∀ a b, next a = some b → μ b < μ a) :
    ∀ (k : Nat) (a : α), μ a < k → ∃ r, whileSome next k a = some r
  | 0, _, hk => absurd hk (Nat.not_lt_zero _)
  | k + 1, a, hk => by
    cases hn : next a with
    | none => exact ⟨a, whileSome_of_next_eq_none hn k⟩
    | some b =>
      have hb : μ b < k := Nat.lt_of_lt_of_le (h a b hn) (Nat.le_of_lt_succ hk)
      rw [whileSome_of_next_eq_some hn]
      exact whileSome_isSome_of_measure μ h k b hb

/-- 回数の決まった loop：`n` 回たどった先で次がなければ、`n` より多い燃料で必ずそこで止まる。 -/
theorem whileSome_of_follow {next : α → Option α} {r : α} (hr : next r = none) :
    ∀ {n : Nat} {a : α}, follow next n a = some r → ∀ k, whileSome next (n + k + 1) a = some r
  | 0, a, h, k => by
    rw [follow, Option.some.injEq] at h
    subst h
    rw [Nat.zero_add]
    exact whileSome_of_next_eq_none hr k
  | n + 1, a, h, k => by
    cases hn : next a with
    | none => rw [follow, hn, Option.bind_none] at h; exact nomatch h
    | some b =>
      rw [follow, hn, Option.bind_some] at h
      rw [show n + 1 + k + 1 = (n + k + 1) + 1 by omega, whileSome_of_next_eq_some hn]
      exact whileSome_of_follow hr h k

end Infra
