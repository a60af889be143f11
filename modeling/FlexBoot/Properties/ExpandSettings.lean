import FlexBoot.Core.Settings

/-!
# `expand_settings` の繰り返し

`expand_settings` は、文字列の先頭から最初の `}` とその前の最後の `${` を探し、その間の名前の
値で置き換えることを、見つからなくなるまで繰り返す。置き換えた値は次の回に元の文字列と
区別なく読まれる。

* `findExpansion_settingRef` — `}` のない前置きの後の `${name}` が、展開される組である
* `expandSettingsStep_settingRef` — 一回で `${name}` が値に置き換わる
* `expandSettingsStep_count_close` — 値が `}` を持たなければ、一回ごとに `}` が一つ減る

値が自分自身を `${name}` で指せば、同じ文字列に戻って止まらない。`${name}${name}` を指せば、
文字列は一回ごとに `${name}` 一つ分長くなり、使う記憶も限りなく増える。値が `}` を持たなければ、
`}` の数より多く回す前に止まる。
-/

namespace FlexBoot.Settings

open Infra FlexBoot

/-- 名前 `name` を参照する `${name}`。 -/
def settingRef (name : Bytes) : Bytes := 0x24 :: 0x7B :: (name ++ [0x7D])

/-- `$` も `}` も NUL も含まない名前。`${` の後から最初の `}` までがそのまま名前になる。 -/
def PlainName (name : Bytes) : Prop := ∀ c ∈ name, c ≠ 0x24 ∧ c ≠ 0x7D ∧ c ≠ 0

instance (name : Bytes) : Decidable (PlainName name) :=
  inferInstanceAs (Decidable (∀ c ∈ name, c ≠ 0x24 ∧ c ≠ 0x7D ∧ c ≠ 0))

theorem settingRef_append (name tail : Bytes) :
    settingRef name ++ tail = 0x24 :: 0x7B :: (name ++ 0x7D :: tail) := by
  simp [settingRef]

theorem zero_not_mem_settingRef {name : Bytes} (hname : PlainName name) : (0 : UInt8) ∉ settingRef name := by
  simp only [settingRef, List.mem_cons, List.mem_append, not_or]
  exact ⟨by decide, by decide, fun h => (hname 0 h).2.2 rfl, by decide⟩

theorem cstr_settingRef {name : Bytes} (hname : PlainName name) : cstr (settingRef name) = settingRef name :=
  cstr_eq_self (zero_not_mem_settingRef hname)

/-! ## 探す loop -/

section Scan

/-- `}` でない byte では止まらず、`${` の始まりなら `start` をそこに移す。 -/
theorem findExpansionLoop_cons_of_ne {c : UInt8} (hc : c ≠ 0x7D) (rest : Bytes) (i : Nat) (start : Option Nat) :
    findExpansionLoop (c :: rest) i start =
      findExpansionLoop rest (i + 1) (if c = 0x24 ∧ rest.head? = some 0x7B then some i else start) := by
  rw [findExpansionLoop]
  generalize (if c = 0x24 ∧ rest.head? = some 0x7B then some i else start) = st
  cases st with
  | none => rfl
  | some s => exact if_neg hc

theorem findExpansionLoop_close_some (rest : Bytes) (i s : Nat) :
    findExpansionLoop (0x7D :: rest) i (some s) = some (s, i) := rfl

theorem findExpansionLoop_close_none (rest : Bytes) (i : Nat) :
    findExpansionLoop (0x7D :: rest) i none = findExpansionLoop rest (i + 1) none := rfl

/-- 名前の byte を読む間、`start` は変わらない。 -/
theorem findExpansionLoop_plain {name : Bytes} (hname : PlainName name) (rest : Bytes) :
    ∀ i s : Nat, findExpansionLoop (name ++ rest) i (some s) =
      findExpansionLoop rest (i + name.length) (some s) := by
  induction name with
  | nil => intro i s; rfl
  | cons c name ih =>
    intro i s
    have hc := hname c List.mem_cons_self
    rw [List.cons_append, findExpansionLoop_cons_of_ne hc.2.1, if_neg (fun h => hc.1 h.1),
      ih (fun d hd => hname d (List.mem_cons_of_mem c hd)), List.length_cons]
    congr 1
    omega

/-- `}` のない前置きを読み終えても止まっておらず、`start` が何かになっているだけである。 -/
theorem findExpansionLoop_append_of_no_close {head : Bytes} (hhead : ∀ c ∈ head, c ≠ 0x7D) (rest : Bytes) :
    ∀ (i : Nat) (start : Option Nat), ∃ st,
      findExpansionLoop (head ++ rest) i start = findExpansionLoop rest (i + head.length) st := by
  induction head with
  | nil => intro i start; exact ⟨start, rfl⟩
  | cons c head ih =>
    intro i start
    rw [List.cons_append, findExpansionLoop_cons_of_ne (hhead c List.mem_cons_self)]
    obtain ⟨st, hst⟩ := ih (fun d hd => hhead d (List.mem_cons_of_mem c hd)) (i + 1) _
    refine ⟨st, ?_⟩
    rw [hst, List.length_cons]
    congr 1
    omega

theorem findExpansionLoop_settingRef {name : Bytes} (hname : PlainName name) (tail : Bytes) (i : Nat)
    (start : Option Nat) :
    findExpansionLoop (settingRef name ++ tail) i start = some (i, i + name.length + 2) := by
  -- `$` で `start` が `i` になり、`{` と名前ではそのまま、`}` で止まる
  have hopen : findExpansionLoop (settingRef name ++ tail) i start =
      findExpansionLoop (name ++ 0x7D :: tail) (i + 2) (some i) := by
    rw [settingRef_append, findExpansionLoop_cons_of_ne (by decide), if_pos ⟨rfl, rfl⟩,
      findExpansionLoop_cons_of_ne (by decide), if_neg (fun h => absurd h.1 (by decide))]
  rw [hopen, findExpansionLoop_plain hname, findExpansionLoop_close_some, Nat.add_right_comm]

/-- 止まった所は `}` で、`start` はそれより前にある。 -/
theorem findExpansionLoop_close : ∀ {l : Bytes} {i : Nat} {st : Option Nat} {a b : Nat},
    findExpansionLoop l i st = some (a, b) → (∀ s, st = some s → s ≤ i) →
      a ≤ b ∧ i ≤ b ∧ l[b - i]? = some 0x7D
  | [], _, _, _, _, h, _ => nomatch h
  | c :: rest, i, st, a, b, h, hst => by
    by_cases hc : c = 0x7D
    · subst hc
      cases st with
      | some s =>
        -- ここで止まる：結果は `(s, i)`
        rw [findExpansionLoop_close_some, Option.some.injEq, Prod.mk.injEq] at h
        obtain ⟨rfl, rfl⟩ := h
        exact ⟨hst s rfl, Nat.le_refl _, by rw [Nat.sub_self]; rfl⟩
      | none =>
        rw [findExpansionLoop_close_none] at h
        obtain ⟨hab, hib, hget⟩ := findExpansionLoop_close h (fun _ h => nomatch h)
        exact ⟨hab, by omega, by rw [show b - i = b - (i + 1) + 1 by omega]; exact hget⟩
    · rw [findExpansionLoop_cons_of_ne hc] at h
      have hst' : ∀ s, (if c = 0x24 ∧ rest.head? = some 0x7B then some i else st) = some s → s ≤ i + 1 := by
        intro s hs
        split at hs
        · cases hs; omega
        · exact Nat.le_succ_of_le (hst s hs)
      obtain ⟨hab, hib, hget⟩ := findExpansionLoop_close h hst'
      exact ⟨hab, by omega, by rw [show b - i = b - (i + 1) + 1 by omega]; exact hget⟩

theorem findExpansion_close {expstr : Bytes} {start stop : Nat} (h : findExpansion expstr = some (start, stop)) :
    start ≤ stop ∧ expstr[stop]? = some 0x7D := by
  obtain ⟨hab, -, hget⟩ := findExpansionLoop_close h (fun _ h => nomatch h)
  exact ⟨hab, by rwa [Nat.sub_zero] at hget⟩

/-- `}` のない前置きの後の `${name}` が、展開される組である。 -/
theorem findExpansion_settingRef {head name : Bytes} (hhead : ∀ c ∈ head, c ≠ 0x7D) (hname : PlainName name)
    (tail : Bytes) :
    findExpansion (head ++ settingRef name ++ tail) = some (head.length, head.length + name.length + 2) := by
  obtain ⟨st, hst⟩ := findExpansionLoop_append_of_no_close hhead (settingRef name ++ tail) 0 none
  rw [findExpansion, List.append_assoc, hst, findExpansionLoop_settingRef hname, Nat.zero_add]

end Scan

/-! ## 一回の置き換え -/

section Step

variable (fetchValue : Bytes → Option Bytes)

theorem expandSettingsStep_of_findExpansion {expstr : Bytes} {start stop : Nat}
    (h : findExpansion expstr = some (start, stop)) :
    expandSettingsStep fetchValue expstr =
      some (expstr.take start ++ cstr ((fetchValue ((expstr.take stop).drop (start + 2))).getD []) ++
        expstr.drop (stop + 1)) := by
  rw [expandSettingsStep, h]

theorem expandSettingsStep_eq_none_iff (expstr : Bytes) :
    expandSettingsStep fetchValue expstr = none ↔ findExpansion expstr = none := by
  cases hf : findExpansion expstr with
  | none => simp only [expandSettingsStep, hf]
  | some p =>
    obtain ⟨start, stop⟩ := p
    rw [expandSettingsStep_of_findExpansion fetchValue hf]
    simp only [reduceCtorEq]

/-- 一回で `${name}` が値に置き換わる。値の中の `${` や `}` はそのまま次の回に残る。 -/
theorem expandSettingsStep_settingRef {head name : Bytes} (hhead : ∀ c ∈ head, c ≠ 0x7D) (hname : PlainName name)
    (tail : Bytes) :
    expandSettingsStep fetchValue (head ++ settingRef name ++ tail) =
      some (head ++ cstr ((fetchValue name).getD []) ++ tail) := by
  have hlen : (head ++ [0x24, 0x7B] ++ name).length = head.length + name.length + 2 := by
    simp only [List.length_append, List.length_cons, List.length_nil]
    omega
  have hsplit : head ++ settingRef name ++ tail = (head ++ [0x24, 0x7B] ++ name) ++ 0x7D :: tail := by
    simp [settingRef]
  have hhead' : (head ++ settingRef name ++ tail).take head.length = head := by
    rw [List.append_assoc]
    exact List.take_left' rfl
  have hname' : ((head ++ settingRef name ++ tail).take (head.length + name.length + 2)).drop (head.length + 2) =
      name := by
    rw [hsplit, List.take_left' hlen]
    exact List.drop_left' (by simp)
  have htail : (head ++ settingRef name ++ tail).drop (head.length + name.length + 2 + 1) = tail :=
    List.drop_left' (by simp only [settingRef, List.length_append, List.length_cons, List.length_nil]; omega)
  rw [expandSettingsStep_of_findExpansion fetchValue (findExpansion_settingRef hhead hname tail), hhead', hname',
    htail]

theorem expandSettingsStep_settingRef_append {name : Bytes} (hname : PlainName name) (tail : Bytes) :
    expandSettingsStep fetchValue (settingRef name ++ tail) = some (cstr ((fetchValue name).getD []) ++ tail) :=
  @expandSettingsStep_settingRef fetchValue [] name (fun _ h => nomatch h) hname tail

/-- 値が `}` を持たなければ、一回ごとに `}` が一つ減る。 -/
theorem expandSettingsStep_count_close (hv : ∀ name v, fetchValue name = some v → (0x7D : UInt8) ∉ cstr v)
    {expstr next : Bytes} (h : expandSettingsStep fetchValue expstr = some next) :
    next.count 0x7D < expstr.count 0x7D := by
  cases hf : findExpansion expstr with
  | none => rw [(expandSettingsStep_eq_none_iff fetchValue expstr).mpr hf] at h; cases h
  | some p =>
    obtain ⟨start, stop⟩ := p
    obtain ⟨hle, hget⟩ := findExpansion_close hf
    rw [expandSettingsStep_of_findExpansion fetchValue hf, Option.some.injEq] at h
    subst h
    have hval : ∀ o : Option Bytes, (∀ v, o = some v → (0x7D : UInt8) ∉ cstr v) → (cstr (o.getD [])).count 0x7D = 0
      | none, _ => rfl
      | some v, ho => List.count_eq_zero.mpr (ho v rfl)
    have hstop : stop < expstr.length := (List.getElem?_eq_some_iff.mp hget).1
    have hclose : expstr[stop] = 0x7D := by
      rw [List.getElem?_eq_getElem hstop] at hget
      exact Option.some.inj hget
    have hsplit : expstr = expstr.take stop ++ 0x7D :: expstr.drop (stop + 1) := by
      rw [← hclose, ← List.drop_eq_getElem_cons hstop, List.take_append_drop]
    have htake : (expstr.take start).count 0x7D ≤ (expstr.take stop).count 0x7D := by
      have : expstr.take start = (expstr.take stop).take start := by rw [List.take_take, Nat.min_eq_left hle]
      rw [this]
      exact (List.take_sublist _ _).count_le _
    calc (expstr.take start ++ cstr ((fetchValue ((expstr.take stop).drop (start + 2))).getD []) ++
          expstr.drop (stop + 1)).count 0x7D
        = (expstr.take start).count 0x7D + (expstr.drop (stop + 1)).count 0x7D := by
          rw [List.count_append, List.count_append, hval _ (hv _), Nat.add_zero]
      _ < (expstr.take stop).count 0x7D + ((expstr.drop (stop + 1)).count 0x7D + 1) := by omega
      _ = expstr.count 0x7D := by
          conv_rhs => rw [hsplit]
          rw [List.count_append, List.count_cons_self]

end Step

/-! ## 繰り返し全体 -/

section Run

variable {fetchValue : Bytes → Option Bytes}

/-- 値が自分自身を指せば、一回で同じ文字列に戻る。 -/
theorem expandSettingsStep_self {name : Bytes} (hname : PlainName name)
    (hv : fetchValue name = some (settingRef name)) :
    expandSettingsStep fetchValue (settingRef name) = some (settingRef name) := by
  have h := expandSettingsStep_settingRef_append fetchValue hname []
  rwa [List.append_nil, hv, Option.getD_some, cstr_settingRef hname, List.append_nil] at h

/-- 値が自分を二つ並べたものなら、`${name}` が一回ごとに一つ増える。 -/
theorem expandSettingsStep_doubling {name : Bytes} (hname : PlainName name)
    (hv : fetchValue name = some (settingRef name ++ settingRef name)) (k : Nat) :
    expandSettingsStep fetchValue (List.replicate (k + 1) (settingRef name)).flatten =
      some (List.replicate (k + 2) (settingRef name)).flatten := by
  have hcstr : cstr (settingRef name ++ settingRef name) = settingRef name ++ settingRef name :=
    cstr_eq_self (by rw [List.mem_append, or_self]; exact zero_not_mem_settingRef hname)
  rw [List.replicate_succ, List.flatten_cons, expandSettingsStep_settingRef_append fetchValue hname, hv,
    Option.getD_some, hcstr, List.append_assoc]
  -- 右辺の `k + 2` 個を、先頭の二つと残りの `k` 個に分ける
  rw [List.replicate_succ, List.flatten_cons, List.replicate_succ, List.flatten_cons]

theorem follow_expandSettingsStep_doubling {name : Bytes} (hname : PlainName name)
    (hv : fetchValue name = some (settingRef name ++ settingRef name)) :
    ∀ n k : Nat, follow (expandSettingsStep fetchValue) n (List.replicate (k + 1) (settingRef name)).flatten =
      some (List.replicate (n + k + 1) (settingRef name)).flatten
  | 0, k => by rw [follow, Nat.zero_add]
  | n + 1, k => by
    rw [follow, expandSettingsStep_doubling hname hv k, Option.bind_some,
      follow_expandSettingsStep_doubling hname hv n (k + 1), show n + (k + 1) + 1 = n + 1 + k + 1 by omega]

end Run

theorem expandSettings_loops_on_self_reference :
    (∀ (fetchValue : Bytes → Option Bytes) (name : Bytes), PlainName name →
      fetchValue name = some (settingRef name) →
      ∀ fuel, expandSettings fetchValue fuel (settingRef name) = none) ∧
    (∀ (fetchValue : Bytes → Option Bytes) (name : Bytes), PlainName name →
      fetchValue name = some (settingRef name ++ settingRef name) →
      (∀ n, follow (expandSettingsStep fetchValue) n (settingRef name) =
        some (List.replicate (n + 1) (settingRef name)).flatten) ∧
      ∀ fuel, expandSettings fetchValue fuel (settingRef name) = none) ∧
    ∀ fetchValue : Bytes → Option Bytes, (∀ name v, fetchValue name = some v → (0x7D : UInt8) ∉ cstr v) →
      ∀ string : Bytes, ∃ r, expandSettings fetchValue ((cstr string).count 0x7D + 1) string = some r ∧
        findExpansion r = none := by
  have hone : ∀ name : Bytes, (List.replicate (0 + 1) (settingRef name)).flatten = settingRef name := by
    intro name
    simp
  refine ⟨fun fetchValue name hname hv fuel => ?_, fun fetchValue name hname hv => ⟨fun n => ?_, fun fuel => ?_⟩,
    fun fetchValue hv string => ?_⟩
  · -- 同じ文字列に戻り続ける
    rw [expandSettings, cstr_settingRef hname]
    exact whileSome_eq_none_of_invariant (I := (· = settingRef name))
      (fun a ha => ⟨settingRef name, ha ▸ expandSettingsStep_self hname hv, rfl⟩) fuel _ rfl
  · have h := follow_expandSettingsStep_doubling hname hv n 0
    rwa [hone, Nat.add_zero] at h
  · -- `${name}` が一つ以上並んだ形が続く
    rw [expandSettings, cstr_settingRef hname]
    exact whileSome_eq_none_of_invariant
      (I := fun s => ∃ k, s = (List.replicate (k + 1) (settingRef name)).flatten)
      (fun a ⟨k, hk⟩ => ⟨_, hk ▸ expandSettingsStep_doubling hname hv k, k + 1, rfl⟩) fuel _ ⟨0, (hone name).symm⟩
  · -- `}` の数が一回ごとに減る
    obtain ⟨r, hr⟩ := whileSome_isSome_of_measure (fun s => s.count 0x7D)
      (fun _ _ h => expandSettingsStep_count_close fetchValue hv h) _ (cstr string) (Nat.lt_succ_self _)
    exact ⟨r, hr, (expandSettingsStep_eq_none_iff fetchValue r).mp (next_eq_none_of_whileSome hr)⟩

theorem expandSettings_hostname_loops :
    PlainName (ascii "hostname") ∧
      expandSettings (fun name => if name = ascii "hostname" then some (settingRef (ascii "hostname")) else none)
        1000000 (settingRef (ascii "hostname")) = none :=
  ⟨by decide +kernel, expandSettings_loops_on_self_reference.1 _ _ (by decide +kernel) (if_pos rfl) 1000000⟩

end FlexBoot.Settings
