import Mathlib

/-!
# 前から一つずつ写す copy と LZ77 の back-reference

一要素ずつ前から写す loop は、写し元と写し先が重なっていると、書いたばかりの要素をまた読む。
LZ77 の back-reference はこれを使い、`dist` 戻った所から `dist` より長く写すと、その `dist` 個を
繰り返した列になる。

* `forwardCopy` — 一つずつ読んで書く loop。読み方 `read` は書いている列を見てもよい
* `backref` — back-reference の意味：`dist` 戻った所からの周期 `dist` の繰り返しを足す
* `backref_succ` — 繰り返しを足すのは、`dist` 戻った要素を一つ足すことを重ねるのと同じ
* `forwardCopy_self` — 同じ列から読む loop は `backref` を書く
* `forwardCopy_external` — 別の列から読む loop は、その列の区間を書く
-/

namespace Infra

variable {α : Type}

/-- 前から一つずつ写す：`k` 回、`read` で `s` 番目を読んで `o` 番目に書く。`read` は書いている列も
受け取る。 -/
def forwardCopy (read : List α → Nat → α) : Nat → List α → Nat → Nat → List α
  | 0, data, _, _ => data
  | k + 1, data, o, s => forwardCopy read k (data.set o (read data s)) (o + 1) (s + 1)

theorem forwardCopy_succ (read : List α → Nat → α) (k : Nat) (data : List α) (o s : Nat) :
    forwardCopy read (k + 1) data o s = forwardCopy read k (data.set o (read data s)) (o + 1) (s + 1) :=
  rfl

/-- LZ77 の back-reference：列 `out` の後ろから `dist` 戻った所から `k` 個を足す。`k` が `dist` より
長ければ周期 `dist` で繰り返す。 -/
def backref (dflt : α) (out : List α) (dist k : Nat) : List α :=
  out ++ (List.range k).map fun i => out.getD (out.length - dist + i % dist) dflt

/-- 一つ書いた列の、書いた所までの頭。 -/
theorem take_succ_set {data : List α} {o : Nat} (ho : o < data.length) (x : α) :
    (data.set o x).take (o + 1) = data.take o ++ [x] := by
  rw [List.set_eq_take_append_cons_drop, if_pos ho, List.take_append, List.take_of_length_le (by simp),
    List.length_take, Nat.min_eq_left (Nat.le_of_lt ho), Nat.add_sub_cancel_left, List.take_succ_cons,
    List.take_zero]

/-! ## 書く位置の外 -/

section Frame

variable (read : List α → Nat → α)

@[simp] theorem length_forwardCopy : ∀ (k : Nat) (data : List α) (o s : Nat),
    (forwardCopy read k data o s).length = data.length
  | 0, _, _, _ => rfl
  | k + 1, data, o, s => by
    rw [forwardCopy_succ, length_forwardCopy k, List.length_set]

/-- 書き始める位置より前は変わらない。 -/
theorem take_forwardCopy : ∀ (k : Nat) (data : List α) (o s : Nat),
    (forwardCopy read k data o s).take o = data.take o
  | 0, _, _, _ => rfl
  | k + 1, data, o, s => by
    have ih := take_forwardCopy k (data.set o (read data s)) (o + 1) (s + 1)
    rw [forwardCopy_succ]
    calc (forwardCopy read k (data.set o (read data s)) (o + 1) (s + 1)).take o
        = ((forwardCopy read k (data.set o (read data s)) (o + 1) (s + 1)).take (o + 1)).take o := by
          rw [List.take_take, Nat.min_eq_left (Nat.le_succ o)]
      _ = data.take o := by
          rw [ih, List.take_take, Nat.min_eq_left (Nat.le_succ o), List.take_set_of_le (Nat.le_refl o)]

end Frame

/-! ## 繰り返し -/

/-- 周期 `dist` の繰り返しを `k + 1` 個足すのは、`dist` 戻った要素を一つ足してから `k` 個足すのと同じ。 -/
theorem backref_succ (dflt : α) {out : List α} {dist : Nat} (hd : 0 < dist) (hdo : dist ≤ out.length) (k : Nat) :
    backref dflt out dist (k + 1) =
      backref dflt (out ++ [out.getD (out.length - dist) dflt]) dist k := by
  unfold backref
  rw [List.range_succ_eq_map, List.map_cons, List.map_map, Nat.zero_mod, Nat.add_zero, List.length_append,
    List.length_singleton, List.append_assoc, List.singleton_append]
  congr 2
  apply List.map_congr_left
  intro i _
  simp only [Function.comp_apply, Nat.succ_eq_add_one]
  have hlt := Nat.mod_lt i hd
  -- `i % dist` が周期の最後なら、足したばかりの要素を読む
  by_cases hlast : i % dist + 1 = dist
  · rw [← Nat.mod_add_mod, hlast, Nat.mod_self, Nat.add_zero, List.getD_append_right _ _ _ _ (by omega),
      show out.length + 1 - dist + i % dist - out.length = 0 by omega, List.getD_cons_zero]
  · rw [← Nat.mod_add_mod, Nat.mod_eq_of_lt (show i % dist + 1 < dist by omega),
      List.getD_append _ _ _ _ (by omega)]
    congr 1
    omega

/-! ## 写す loop の意味 -/

/-- **重なる copy。** 同じ列の `dist` 前から読んで書く loop は、書き始める位置までの列に `backref` を
足した列を書く。`k` についての帰納法で、一回りごとに `backref_succ` を使う。 -/
theorem forwardCopy_self (dflt : α) {dist : Nat} (hd : 0 < dist) :
    ∀ (k : Nat) (data : List α) (o : Nat), dist ≤ o → o + k ≤ data.length →
      forwardCopy (fun data i => data.getD i dflt) k data o (o - dist) =
        backref dflt (data.take o) dist k ++ data.drop (o + k)
  | 0, data, o, _, _ => by
    simp [forwardCopy, backref]
  | k + 1, data, o, hdo, hk => by
    have ho : o < data.length := by omega
    have hlen : (data.take o).length = o := List.length_take_of_le (Nat.le_of_lt ho)
    have ih := forwardCopy_self dflt hd k (data.set o (data.getD (o - dist) dflt)) (o + 1) (by omega)
      (by rw [List.length_set]; omega)
    -- 読んだ要素は、書き始める位置までの列の `dist` 前
    have hread : (data.take o).getD ((data.take o).length - dist) dflt = data.getD (o - dist) dflt := by
      rw [hlen, List.getD_eq_getElem?_getD, List.getD_eq_getElem?_getD, List.getElem?_take_of_lt (by omega)]
    rw [forwardCopy_succ, show o - dist + 1 = o + 1 - dist by omega, ih, take_succ_set ho,
      List.drop_set_of_lt (by omega), backref_succ dflt hd (by omega), hread,
      show o + 1 + k = o + (k + 1) by omega]

/-- 別の列 `src` から読む loop は、`src` の `s` からの `k` 個を書く。 -/
theorem forwardCopy_external (src : List α) (dflt : α) :
    ∀ (k : Nat) (data : List α) (o s : Nat), o + k ≤ data.length →
      forwardCopy (fun _ i => src.getD i dflt) k data o s =
        data.take o ++ (List.range k).map (fun i => src.getD (s + i) dflt) ++ data.drop (o + k)
  | 0, data, o, _, _ => by
    simp [forwardCopy]
  | k + 1, data, o, s, hk => by
    have ho : o < data.length := by omega
    have ih := forwardCopy_external src dflt k (data.set o (src.getD s dflt)) (o + 1) (s + 1)
      (by rw [List.length_set]; omega)
    -- 残りの `k` 個は、読む位置が一つ進んだ区間
    have hmap : (List.range k).map (fun i => src.getD (s + 1 + i) dflt) =
        (List.range k).map ((fun i => src.getD (s + i) dflt) ∘ Nat.succ) := by
      apply List.map_congr_left
      intro i _
      simp only [Function.comp_apply, Nat.succ_eq_add_one, Nat.add_assoc, Nat.add_comm 1 i]
    rw [forwardCopy_succ, ih, take_succ_set ho, List.drop_set_of_lt (by omega), hmap, List.range_succ_eq_map,
      List.map_cons, List.map_map, show o + 1 + k = o + (k + 1) by omega]
    simp only [List.append_assoc, List.cons_append, List.nil_append, Nat.add_zero]

end Infra
