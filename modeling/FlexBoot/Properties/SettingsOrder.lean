import FlexBoot.Core.SettingsTree

/-!
# settings block の優先度の順

`fetch_setting ( NULL, setting )` は block の木を深さ優先でたどり、最初に値を持つ block の値を
返す（`fetchSetting_eq_findSome`）。どの block の値が勝つかは兄弟の順で決まり、その順は
`priority` の大きい順に保たれるはずである（`Ordered`）。

`reprioritise_settings` は `store_setting` と `register_settings` の後に呼ばれ、入れ直した block
から根へ上る。ところが `unregister_settings` は呼ばない。block の優先度は子孫の値でも決まるので、
子孫を外すと先祖の優先度が下がり、兄弟の順が崩れたまま残る
（`unregister_leaves_parent_misordered`）。
-/

namespace FlexBoot.Settings

open Infra FlexBoot SettingsBlock

/-! ## 深さ優先の列 -/

mutual
/-- block 自身、子の順に深さ優先で並べた block の列。 -/
def preorder : SettingsBlock → List SettingsBlock
  | .node i name generics children => .node i name generics children :: preorderList children

def preorderList : List SettingsBlock → List SettingsBlock
  | [] => []
  | c :: cs => preorder c ++ preorderList cs
end

mutual
/-- `fetch_setting` は、深さ優先の列で最初に値を持つ block の値を返す。 -/
theorem fetchSetting_eq_findSome (setting : Setting) :
    ∀ t : SettingsBlock,
      fetchSetting setting t = (preorder t).findSome? (genericSettingsFetch ·.generics setting)
  | .node i name generics children => by
    rw [fetchSetting, preorder, List.findSome?_cons, generics_node,
      fetchSettingChildren_eq_findSome setting children]
    cases genericSettingsFetch generics setting <;> rfl

theorem fetchSettingChildren_eq_findSome (setting : Setting) :
    ∀ cs : List SettingsBlock,
      fetchSettingChildren setting cs = (preorderList cs).findSome? (genericSettingsFetch ·.generics setting)
  | [] => rfl
  | c :: cs => by
    rw [fetchSettingChildren, preorderList, List.findSome?_append, fetchSetting_eq_findSome setting c,
      fetchSettingChildren_eq_findSome setting cs]
end

/-! ## 兄弟の順 -/

mutual
/-- どの block の子も、`fetch_intz_setting ( child, &priority_setting )` の大きい順に並ぶ。 -/
def Ordered (arch : Arch) : SettingsBlock → Prop
  | .node _ _ _ children =>
    (children.map (fetchIntzSetting arch prioritySetting)).Pairwise (· ≥ ·) ∧ OrderedList arch children

def OrderedList (arch : Arch) : List SettingsBlock → Prop
  | [] => True
  | c :: cs => Ordered arch c ∧ OrderedList arch cs
end

mutual
def Ordered.decide (arch : Arch) : (t : SettingsBlock) → Decidable (Ordered arch t)
  | .node _ _ _ children =>
    haveI := OrderedList.decide arch children
    inferInstanceAs (Decidable (_ ∧ OrderedList arch children))

def OrderedList.decide (arch : Arch) : (cs : List SettingsBlock) → Decidable (OrderedList arch cs)
  | [] => inferInstanceAs (Decidable True)
  | c :: cs =>
    haveI := Ordered.decide arch c
    haveI := OrderedList.decide arch cs
    inferInstanceAs (Decidable (Ordered arch c ∧ OrderedList arch cs))
end

instance (arch : Arch) (t : SettingsBlock) : Decidable (Ordered arch t) := Ordered.decide arch t

/-! ## 子孫を外すと先祖の順が崩れる -/

/-- `filename` setting（DHCP option 67）。 -/
def filenameSetting : Setting := ⟨ascii "filename", 67, 0⟩

/-- 優先度 3 の block。`filename` に `"a"` を持つ。 -/
def priorityThreeBlock : SettingsBlock :=
  .node 1 [] [(prioritySetting, [3]), (filenameSetting, ascii "a")] []

/-- 優先度を持たない block。`filename` に `"b"` を持つ。 -/
def unprioritisedBlock : SettingsBlock := .node 2 [] [(filenameSetting, ascii "b")] []

/-- 優先度 5 の block。 -/
def priorityFiveBlock : SettingsBlock := .node 3 [] [(prioritySetting, [5])] []

/-- 根の下に優先度 3 の `a` と優先度のない `b` を登録し、`b` の下に優先度 5 の `c` を登録する。 -/
def priorityOps : List SettingsOp :=
  [.register priorityThreeBlock 0 (ascii "a"), .register unprioritisedBlock 0 (ascii "b"),
    .register priorityFiveBlock 2 (ascii "c")]

/-- **`c` を登録すると `b` は子孫の優先度 5 で `a` の前に移り、順は保たれる。`c` を外すと `b` の
優先度は 0 に戻るが、`b` は `a` の前に残る。** そのため `fetch_setting ( NULL, filename )` は、
優先度 3 の `a` ではなく優先度 0 の `b` の値を返す。 -/
theorem unregister_leaves_parent_misordered (arch : Arch) :
    let t := run (settingsStep arch) settingsRoot priorityOps
    let t' := settingsStep arch t (.unregister 3)
    Ordered arch t ∧ (t.children.map SettingsBlock.id = [2, 1]) ∧
      ¬Ordered arch t' ∧ t'.children.map SettingsBlock.id = [2, 1] ∧
      t'.children.map (fetchIntzSetting arch prioritySetting) = [0, 3] ∧
      fetchSetting filenameSetting t' = some (ascii "b") := by
  cases arch <;> decide

end FlexBoot.Settings
