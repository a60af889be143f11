import FlexBoot.Core.SettingsTree

/-!
# settings block の名前の往復

`settings_name` は block から根まで上りながら `".%s%s"` で名前を前に足し、`find_settings` は名前を
`'.'` で区切って根から下る。

* `settingsName_eq_take` — `settings_name` は、根の子から block までの名前を `'.'` でつないだ
  ものの最初の 13 文字である。一つ上に進む度の切り詰めは、最後に一度切り詰めるのと同じ
* `splitLines_joinDots` — `'.'` を含まない名前をつないだものは、`'.'` で区切ると元の名前に戻る
* `findSettings_settingsName` — つないだ名前が 13 文字に収まれば、`find_settings` は block までの
  名前を根から順にたどる
-/

namespace FlexBoot.Settings

open Infra FlexBoot

/-- 根の子から block までの名前を `'.'` でつなぐ。 -/
def joinDots : List Bytes → Bytes
  | [] => []
  | n :: rest => n ++ (rest.map (46 :: ·)).flatten

theorem joinDots_singleton (n : Bytes) : joinDots [n] = n := by
  simp [joinDots]

theorem joinDots_cons_cons (n m : Bytes) (rest : List Bytes) :
    joinDots (n :: m :: rest) = n ++ 46 :: joinDots (m :: rest) := by
  simp [joinDots]

/-- 根から順に名前を `find_child_settings` でたどって着く block。 -/
def settingsAt (t : SettingsBlock) (ns : List Bytes) : Option Nat :=
  ns.foldl (fun s n => s.bind fun p => findChildSettings t p n) (some settingsRoot.id)

/-! ## `snprintf` の切り詰め -/

/-- 後ろを先に `n` 文字に切り詰めても、つないでから切り詰めるのと同じ。 -/
theorem take_append_take {α : Type} (n : Nat) (x y : List α) : (x ++ y.take n).take n = (x ++ y).take n := by
  rw [List.take_append, List.take_append, List.take_take,
    Nat.min_eq_left (Nat.sub_le n x.length)]

/-- 一つ上に進む度に 15 文字に切り詰めても、名前を全部前に足してから一度切り詰めるのと同じ。 -/
theorem foldl_settingsName (names : List Bytes) (buf : Bytes) :
    names.foldl (fun buf name => (46 :: name ++ buf).take 15) (buf.take 15) =
      ((names.reverse.map (46 :: ·)).flatten ++ buf).take 15 := by
  induction names generalizing buf with
  | nil => simp
  | cons n ns ih =>
    rw [List.foldl_cons, take_append_take, ih]
    simp

theorem settingsName_eq_take (ns : List Bytes) : settingsName (ns.reverse ++ [[]]) = (joinDots ns).take 13 := by
  have h := foldl_settingsName (ns.reverse ++ [[]]) []
  rw [List.take_nil] at h
  rw [settingsName, h]
  -- 根の空の名前が先頭に `".."` を作る
  cases ns with
  | nil => rfl
  | cons n rest => simp [joinDots]

/-! ## `'.'` で区切る -/

/-- `'.'` を含まない名前をつないだものを `'.'` で区切ると、最後の名前の前までが行になり、最後の名前が
残る。 -/
theorem run_lineStep_joinDots (L : List Bytes) (n : Bytes) (rest : List Bytes) (h : ∀ m ∈ n :: rest, 46 ∉ m) :
    run (lineStep 46) (L, []) (joinDots (n :: rest)) =
      (L ++ (n :: rest).dropLast, (n :: rest).getLast (List.cons_ne_nil n rest)) := by
  induction rest generalizing L n with
  | nil =>
    rw [joinDots_singleton, run_lineStep_open (h n List.mem_cons_self)]
    simp
  | cons m rest ih =>
    rw [joinDots_cons_cons, run_lineStep_line (h n List.mem_cons_self),
      ih _ _ (fun k hk => h k (List.mem_cons_of_mem n hk))]
    simp

theorem splitLines_joinDots {ns : List Bytes} (hne : ns ≠ []) (h : ∀ n ∈ ns, 46 ∉ n) :
    (splitLines 46 (joinDots ns)).1 ++ [(splitLines 46 (joinDots ns)).2] = ns := by
  obtain ⟨n, rest, rfl⟩ := List.exists_cons_of_ne_nil hne
  rw [splitLines, run_lineStep_joinDots [] n rest h, List.nil_append]
  exact List.dropLast_append_getLast _

/-- 空の名前は根を指す。 -/
theorem findSettings_nil (t : SettingsBlock) (ht : t.id = settingsRoot.id) :
    findSettings t [] = some settingsRoot.id := by
  obtain ⟨i, name, generics, children⟩ := t
  simp only [SettingsBlock.id_node] at ht
  subst ht
  rfl

theorem findSettings_joinDots (t : SettingsBlock) (ht : t.id = settingsRoot.id) {ns : List Bytes}
    (h : ∀ n ∈ ns, 46 ∉ n) : findSettings t (joinDots ns) = settingsAt t ns := by
  by_cases hne : ns = []
  · subst hne
    exact findSettings_nil t ht
  · unfold findSettings parseSettingsName
    dsimp only
    rw [splitLines_joinDots hne h]
    rfl

/-- つないだ名前が 13 文字に収まれば、`find_settings ( NULL, settings_name ( settings ) )` は block
までの名前を根から順にたどる。 -/
theorem findSettings_settingsName (t : SettingsBlock) (ht : t.id = settingsRoot.id) {ns : List Bytes}
    (h : ∀ n ∈ ns, 46 ∉ n) (hlen : (joinDots ns).length ≤ 13) :
    findSettings t (settingsName (ns.reverse ++ [[]])) = settingsAt t ns := by
  rw [settingsName_eq_take, List.take_of_length_le hlen, findSettings_joinDots t ht h]

/-- `settings_name` は block までの名前を `'.'` でつないだものを 13 文字に切り詰める。収まる名前なら
`find_settings` はそれを区切って block までの道をたどるが、長い名前では別の名前をたどる。 -/
theorem settingsName_round_trip_needs_short_path :
    (∀ ns : List Bytes, settingsName (ns.reverse ++ [[]]) = (joinDots ns).take 13) ∧
    (∀ t : SettingsBlock, t.id = settingsRoot.id → ∀ ns : List Bytes, (∀ n ∈ ns, 46 ∉ n) →
      (joinDots ns).length ≤ 13 → findSettings t (settingsName (ns.reverse ++ [[]])) = settingsAt t ns) :=
  ⟨settingsName_eq_take, fun t ht _ h hlen => findSettings_settingsName t ht h hlen⟩

/-- 根の下に 14 文字の名前の block が一つだけある木。 -/
def longChildTree : SettingsBlock := .node 0 [] [] [.node 1 (ascii "abcdefghijklmn") [] []]

/-- 14 文字の名前の block の `settings_name` は 13 文字に切られ、`find_settings` はそれを見つけない。 -/
theorem settingsName_loses_long_child :
    settingsName [ascii "abcdefghijklmn", []] = ascii "abcdefghijklm" ∧
      findSettings longChildTree (settingsName [ascii "abcdefghijklmn", []]) = none ∧
      settingsAt longChildTree [ascii "abcdefghijklmn"] = some 1 := by
  have h : settingsName [ascii "abcdefghijklmn", []] = (joinDots [ascii "abcdefghijklmn"]).take 13 :=
    settingsName_round_trip_needs_short_path.1 [ascii "abcdefghijklmn"]
  rw [h]
  decide

end FlexBoot.Settings
