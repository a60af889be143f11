import FlexBoot.Properties.IscsiLogin

/-!
# login response の文字列の振り分け

`iscsi_handle_strings` は data を NUL で区切って順に `iscsi_handle_string` に渡し、NUL のない
残りは読まない。`iscsi_handle_string` は最初の `=` の前を key とし、表の entry を
`strncmp ( string, type->key, key_len )` で探す。比べるのは受け取った key の長さだけなので、
受け取った key が表の key の先頭の部分であれば、その entry の処理が呼ばれる。

1. C 文字列の比較：`strcmp` は NUL の前が等しいときだけ 0 で（`strcmp_append_zero_eq_zero_iff`）、
   `strncmp` を key の長さで呼ぶと、key が相手の先頭の部分であるときに 0 になる
   （`strncmp_append_eq_zero_iff`）。
2. 一つの文字列 `key=value`：表は key を先頭に持つ最初の entry を選ぶ（`iscsiStringTypes_find`）。
   `=` がなければ誤り、値が `Reject` なら誤りである。
3. 空の key や `CHAP` のような key も、表の key の先頭なのでその処理が呼ばれる
   （`iscsiHandleString_prefix_key`）。
4. 文字列の並び：NUL で終わる文字列は順に処理され、誤りで止まり、NUL のない残りは読まれない
   （`iscsiHandleStrings_textData`）。
-/

namespace FlexBoot.Iscsi

open Infra FlexBoot

/-! ## C 文字列の比較 -/

/-- `signed char` に切り詰めた差は、二つの byte が等しいときだけ 0 である。 -/
theorem truncSchar_sub_eq_zero_iff (x y : UInt8) : truncSchar (schar x - schar y) = 0 ↔ x = y := by
  have hx := x.toNat_lt
  have hy := y.toNat_lt
  rw [← UInt8.toNat_inj]
  unfold truncSchar schar
  simp only [UInt8.toNat_ofNat', Nat.reducePow]
  constructor
  · intro h
    split_ifs at h <;> omega
  · intro h
    rw [h]
    simp

-- 一 byte 進める `strcmp` の式。`headD` を書き換えても `if` の instance がずれないように、
-- 相手の列は形を決めずに書く
theorem strcmp_cons (x : UInt8) (xs b : Bytes) :
    strcmp (x :: xs) b =
      if truncSchar (schar x - schar (b.headD 0)) ≠ 0 ∨ x = 0 then truncSchar (schar x - schar (b.headD 0))
      else strcmp xs b.tail := rfl

/-- NUL のない `a` の C 文字列と NUL のない `b` を `strcmp` で比べると、等しいときだけ 0 である。 -/
theorem strcmp_append_zero_eq_zero_iff :
    ∀ (a b : Bytes), 0 ∉ a → 0 ∉ b → (strcmp (a ++ [0]) b = 0 ↔ a = b)
  | [], b, _, hb => by
    rw [List.nil_append, strcmp_cons, if_pos (.inr rfl), truncSchar_sub_eq_zero_iff]
    cases b with
    | nil => simp
    | cons y ys =>
      have hy : y ≠ 0 := fun h => hb (h ▸ List.mem_cons_self)
      simp only [List.headD_cons, reduceCtorEq, iff_false]
      exact fun h => hy h.symm
  | x :: xs, b, ha, hb => by
    have hx : x ≠ 0 := fun h => ha (h ▸ List.mem_cons_self)
    have hxs : 0 ∉ xs := fun h => ha (List.mem_cons_of_mem x h)
    rw [List.cons_append, strcmp_cons]
    by_cases hxy : x = b.headD 0
    · -- 同じ byte なら次へ進む。`x` は NUL でないので `b` は空でない
      have h0 := (truncSchar_sub_eq_zero_iff x (b.headD 0)).mpr hxy
      rw [if_neg (by rw [h0]; simp [hx])]
      cases b with
      | nil => exact absurd hxy hx
      | cons y ys =>
        rw [List.tail_cons, strcmp_append_zero_eq_zero_iff xs ys hxs (fun h => hb (List.mem_cons_of_mem y h))]
        simp [show x = y from hxy]
    · -- 違う byte で止まる
      have hne : truncSchar (schar x - schar (b.headD 0)) ≠ 0 :=
        fun h => hxy ((truncSchar_sub_eq_zero_iff x _).mp h)
      rw [if_pos (.inl hne)]
      refine iff_of_false hne ?_
      rintro rfl
      cases xs <;> simp at hxy

-- 数の符号 bit が立てば `strncmp` は止まって等しいとする
theorem strncmp_of_sign {w len : Nat} (a b : Bytes) (h : 2 ^ (w - 1) ≤ (len + 2 ^ w - 1) % 2 ^ w) :
    strncmp w len a b = 0 := by
  cases a <;> rw [strncmp] <;> exact if_pos h

-- 符号 bit が立たなければ一 byte 比べる
theorem strncmp_cons {w len : Nat} (x : UInt8) (xs b : Bytes) (h : ¬2 ^ (w - 1) ≤ (len + 2 ^ w - 1) % 2 ^ w) :
    strncmp w len (x :: xs) b =
      if x ≠ b.headD 0 then (if x < b.headD 0 then -1 else 1)
      else if x = 0 then 0 else strncmp w ((len + 2 ^ w - 1) % 2 ^ w) xs b.tail := by
  rw [strncmp]
  exact if_neg h

/-- `strncmp` を `k` の長さで呼ぶと、`k` が相手の先頭の部分であるときだけ 0 になる。 -/
theorem strncmp_append_eq_zero_iff {w : Nat} (hw : 0 < w) :
    ∀ (k rest key : Bytes), 0 ∉ k → 0 ∉ key → k.length < 2 ^ (w - 1) →
      (strncmp w k.length (k ++ rest) key = 0 ↔ k <+: key)
  | [], rest, key, _, _, _ => by
    -- 長さ 0 の比較は `dec` の後の符号で止まり、等しいとする
    have h2 : 2 ^ w = 2 * 2 ^ (w - 1) := by
      rw [← Nat.pow_succ', Nat.succ_eq_add_one, Nat.sub_add_cancel hw]
    have hsign : 2 ^ (w - 1) ≤ (0 + 2 ^ w - 1) % 2 ^ w := by
      rw [Nat.mod_eq_of_lt (by omega)]
      omega
    rw [List.length_nil, strncmp_of_sign _ _ hsign]
    simp
  | x :: xs, rest, key, hk, hkey, hlen => by
    have hx : x ≠ 0 := fun h => hk (h ▸ List.mem_cons_self)
    simp only [List.length_cons] at hlen
    have hn : (xs.length + 1 + 2 ^ w - 1) % 2 ^ w = xs.length := by
      have : 2 ^ (w - 1) ≤ 2 ^ w := Nat.pow_le_pow_right (by decide) (by omega)
      rw [show xs.length + 1 + 2 ^ w - 1 = xs.length + 2 ^ w by omega, Nat.add_mod_right,
        Nat.mod_eq_of_lt (by omega)]
    rw [List.length_cons, List.cons_append, strncmp_cons x _ key (by omega), hn]
    by_cases hxy : x = key.headD 0
    · -- 同じ byte なら次へ進む。`x` は NUL でないので `key` は空でない
      rw [if_neg (not_not.mpr hxy), if_neg hx]
      cases key with
      | nil => exact absurd hxy hx
      | cons y ys =>
        rw [List.tail_cons, strncmp_append_eq_zero_iff hw xs rest ys (fun h => hk (List.mem_cons_of_mem x h))
          (fun h => hkey (List.mem_cons_of_mem y h)) (by omega)]
        simp [show x = y from hxy]
    · -- 違う byte では -1 か 1 を返す
      rw [if_pos hxy]
      refine iff_of_false (by split <;> decide) ?_
      rintro ⟨t, rfl⟩
      simp at hxy

/-! ## 一つの文字列 -/

/-- 表の key には NUL がない。 -/
theorem zero_not_mem_key (t : StringType) : (0 : UInt8) ∉ t.key := by
  cases t <;> decide

/-- key の長さで `strncmp` する表の探索は、key を先頭に持つ最初の entry を選ぶ。 -/
theorem iscsiStringTypes_find {w : Nat} (hw : 0 < w) {k rest : Bytes} (hk : 0 ∉ k)
    (hlen : k.length < 2 ^ (w - 1)) :
    iscsiStringTypes.find? (fun t => strncmp w k.length (k ++ rest) t.key = 0) =
      iscsiStringTypes.find? (fun t => k.isPrefixOf t.key) := by
  congr 1
  funext t
  rw [Bool.eq_iff_iff, decide_eq_true_iff, strncmp_append_eq_zero_iff hw k rest t.key hk (zero_not_mem_key t) hlen,
    List.isPrefixOf_iff_prefix]

section Handle

variable (arch : Arch) (env : Env) (s : IscsiSession)

/-- NUL も `=` もない key `k` と NUL のない値 `v` の文字列 `k=v`。値が `Reject` でなければ、`k` を先頭に
持つ最初の entry の処理に `v` を渡し、そのような entry がなければ何もしない。 -/
theorem iscsiHandleString_keyValue (k v : Bytes) (hk : ∀ x ∈ k, x ≠ 0x3D ∧ x ≠ 0) (hv : 0 ∉ v)
    (hrej : v ≠ ascii "Reject") (hlen : k.length < 2 ^ (arch.longBits - 1)) :
    iscsiHandleString arch env s (k ++ 0x3D :: (v ++ [0])) =
      match iscsiStringTypes.find? (fun t => k.isPrefixOf t.key) with
      | none => (s, .ok)
      | some t => t.handle arch env s v := by
  have hk0 : 0 ∉ k := fun h => (hk 0 h).2 rfl
  have hw : 0 < arch.longBits := by cases arch <;> decide
  have hstr : strcmp (v ++ [0]) (ascii "Reject") ≠ 0 := fun h =>
    hrej ((strcmp_append_zero_eq_zero_iff v _ hv (by decide)).mp h)
  rw [iscsiHandleString, strchr_append 0x3D k _ hk]
  dsimp only
  rw [if_neg hstr, iscsiStringTypes_find hw hk0 hlen]
  -- 見つかった entry には、`=` の後の C 文字列、つまり `v` が渡る
  cases iscsiStringTypes.find? (fun t => k.isPrefixOf t.key) with
  | none => rfl
  | some t => rw [cstr_append_zero v [] (fun x hx h => hv (h ▸ hx))]

/-- 受け取った key が表の key の先頭の部分であれば、それが等しくなくても、その entry の処理が
呼ばれる。空の key は最初の `TargetAddress` を、`CHAP` は `CHAP_A` を選ぶ。 -/
theorem iscsiHandleString_prefix_key (k v : Bytes) (t : StringType) (hk : ∀ x ∈ k, x ≠ 0x3D ∧ x ≠ 0)
    (hv : 0 ∉ v) (hrej : v ≠ ascii "Reject") (hlen : k.length < 2 ^ (arch.longBits - 1))
    (hfirst : iscsiStringTypes.find? (fun t => k.isPrefixOf t.key) = some t) :
    iscsiHandleString arch env s (k ++ 0x3D :: (v ++ [0])) = t.handle arch env s v := by
  rw [iscsiHandleString_keyValue arch env s k v hk hv hrej hlen, hfirst]

/-! ## 文字列の並び -/

/-- 文字列を順に処理し、誤りが出ればそこで止める。 -/
def iscsiHandleEach (s : IscsiSession) : List Bytes → IscsiSession × Rc
  | [] => (s, .ok)
  | x :: xs =>
    let r := iscsiHandleString arch env s (x ++ [0])
    if r.2 = .ok then iscsiHandleEach r.1 xs else r

end Handle

/-- NUL のない `x` の後の NUL までの長さ。 -/
theorem strnlen_append_zero : ∀ (x rest : Bytes) (n : Nat), 0 ∉ x → x.length ≤ n →
    strnlen (x ++ 0 :: rest) n = x.length
  | [], rest, n, _, _ => by cases n <;> simp [strnlen]
  | c :: cs, rest, n + 1, hx, hn => by
    have hc : c ≠ 0 := fun h => hx (h ▸ List.mem_cons_self)
    rw [List.cons_append, strnlen, if_neg hc,
      strnlen_append_zero cs rest n (fun h => hx (List.mem_cons_of_mem c h)) (by simpa using hn)]
    rfl

/-- NUL のない残りの長さは、その長さまで数えた `strnlen` である。 -/
theorem strnlen_of_zero_not_mem : ∀ (x : Bytes), 0 ∉ x → strnlen x x.length = x.length
  | [] , _ => rfl
  | c :: cs, hx => by
    have hc : c ≠ 0 := fun h => hx (h ▸ List.mem_cons_self)
    rw [List.length_cons, strnlen, if_neg hc, strnlen_of_zero_not_mem cs (fun h => hx (List.mem_cons_of_mem c h))]

/-- NUL で終わる文字列 `strs` の後に NUL のない残り `frag` が続く data は、文字列を順に処理し、
残りは読まない。 -/
theorem iscsiHandleStringsLoop_textData (arch : Arch) (env : Env) (frag : Bytes) (hfrag : 0 ∉ frag) :
    ∀ (strs : List Bytes) (fuel : Nat) (s : IscsiSession), (∀ x ∈ strs, 0 ∉ x) → strs.length ≤ fuel →
      iscsiHandleStringsLoop arch env fuel s (textData strs ++ frag) = iscsiHandleEach arch env s strs
  | [], 0, s, _, _ => rfl
  | [], fuel + 1, s, _, _ => by
    -- NUL のない残りは `strnlen` が長さいっぱいに数え、読まずに止まる
    rw [show textData [] ++ frag = frag from rfl, iscsiHandleStringsLoop]
    dsimp only
    rw [strnlen_of_zero_not_mem frag hfrag, if_pos (by omega)]
    rfl
  | _ :: _, 0, _, _, hfuel => absurd hfuel (by simp)
  | x :: xs, fuel + 1, s, hstrs, hfuel => by
    have hx := hstrs x List.mem_cons_self
    have hdata : textData (x :: xs) ++ frag = x ++ 0 :: (textData xs ++ frag) := by
      simp [textData]
    -- 一つ目の文字列は NUL までで、残りは次の文字列から始まる
    have htake : (x ++ 0 :: (textData xs ++ frag)).take (x.length + 1) = x ++ [0] := by
      rw [List.take_append, List.take_of_length_le (by omega)]
      simp
    have hdrop : (x ++ 0 :: (textData xs ++ frag)).drop (x.length + 1) = textData xs ++ frag := by
      rw [List.drop_append]
      simp
    rw [hdata, iscsiHandleStringsLoop]
    dsimp only
    rw [strnlen_append_zero x _ _ hx (by simp), if_neg (by simp), htake, hdrop, iscsiHandleEach]
    split
    · exact iscsiHandleStringsLoop_textData arch env frag hfrag xs fuel _
        (fun y hy => hstrs y (List.mem_cons_of_mem x hy)) (by simpa using hfuel)
    · rfl

/-- 文字列はどれも NUL を一つ含むので、data の長さは文字列の数以上である。 -/
theorem length_le_length_textData : ∀ (strs : List Bytes), strs.length ≤ (textData strs).length
  | [] => le_refl 0
  | x :: xs => by
    have ih := length_le_length_textData xs
    simp only [textData, List.map_cons, List.flatten_cons, List.length_append, List.length_cons,
      List.length_nil] at ih ⊢
    omega

/-- `iscsi_handle_strings` は、NUL で終わる文字列を順に処理し、NUL のない残りは読まない。 -/
theorem iscsiHandleStrings_textData (arch : Arch) (env : Env) (s : IscsiSession) (strs : List Bytes)
    (frag : Bytes) (hstrs : ∀ x ∈ strs, 0 ∉ x) (hfrag : 0 ∉ frag) :
    iscsiHandleStrings arch env s (textData strs ++ frag) = iscsiHandleEach arch env s strs := by
  refine iscsiHandleStringsLoop_textData arch env frag hfrag strs _ s hstrs ?_
  have := length_le_length_textData strs
  rw [List.length_append]
  omega

/-- 空の key の文字列 `=10.0.0.66` は `TargetAddress` として処理され、接続先を書き換える。 -/
theorem iscsiHandleString_empty_key :
    (iscsiHandleString .x86_64 okEnv (IscsiSession.new exampleTarget replayCreds)
        ([] ++ 0x3D :: (ascii "10.0.0.66" ++ [0]))).1.targetAddress = ascii "10.0.0.66" := by
  rw [iscsiHandleString_prefix_key .x86_64 okEnv _ [] (ascii "10.0.0.66") .targetAddress (by simp)
    (by decide) (by decide) (by decide) (by decide)]
  rfl

end FlexBoot.Iscsi
