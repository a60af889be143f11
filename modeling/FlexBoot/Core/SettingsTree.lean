import FlexBoot.Core.Settings
import FlexBoot.Infra.SortedList
import FlexBoot.Infra.Lines

/-!
# settings block の木（`core/settings.c`）

settings block は `settings_root` を根とする木をなす。`fetch_setting ( NULL, setting )` は根から
始めて、block 自身を先に、次に子を `children` の順に深さ優先で探す。子の順は `priority` setting
の値で決まり、`reprioritise_settings` が block を兄弟の中で入れ直してから、親へ上って同じことを
繰り返す。

## model

* block は `generic_settings` の block である。`op->applies` も `op->redirect` もなく、値は
  `generic_settings_store` の作る `(setting, data)` の列に持つ。
* 木は登録された block だけを持つ。block は C の pointer の代わりに番号 `id` で指す。
  登録する block は、それまでに組まれた部分木ごと渡す。
* `apply_settings` は木を変えないので、その返す値は扱わない。

## 優先度

`fetch_intz_setting ( block, &priority_setting )` は `fetch_setting` で block とその子孫を
探すので、block の優先度は、自身になければ子孫の中で最初に見つかった値である。
-/

namespace FlexBoot.Settings

open Infra FlexBoot

/-- `struct setting` のうち、`setting_cmp` が比べるもの。`scope` は `struct settings_scope` の
pointer の代わりの番号で、`NULL` は 0 である。 -/
structure Setting where
  name : Bytes
  tag : Nat
  scope : Nat
  deriving DecidableEq, Repr

/-- `setting_cmp ( a, b ) == 0`。tag があって tag と scope が同じか、`a` に名前があって名前が
同じときに一致する。 -/
def settingCmp (a b : Setting) : Bool :=
  (a.tag != 0 && a.tag == b.tag && a.scope == b.scope) || (a.name != [] && a.name == b.name)

/-- `DHCP_EB_PRIORITY`（`DHCP_ENCAP_OPT ( DHCP_EB_ENCAP, 0x01 )`）。 -/
def dhcpEbPriority : Nat := 175 * 256 + 1

/-- `priority_setting`。型は `setting_type_int8` で、scope は持たない。 -/
def prioritySetting : Setting := ⟨ascii "priority", dhcpEbPriority, 0⟩

/-! ## generic settings -/

/-- `find_generic_setting`。列の先頭から `setting_cmp` で一致する最初のもの。 -/
def findGenericSetting (generics : List (Setting × Bytes)) (setting : Setting) : Option (Setting × Bytes) :=
  generics.find? (fun g => settingCmp g.1 setting)

/-- `generic_settings_fetch`。 -/
def genericSettingsFetch (generics : List (Setting × Bytes)) (setting : Setting) : Option Bytes :=
  (findGenericSetting generics setting).map Prod.snd

/-- `generic_settings_store`。長さ 0 の値は setting を消す。新しい値の確保（`zalloc`）が
失敗すれば `-ENOMEM` で、何も変えない。成功すれば古い値を消し、新しい値を先頭に置く。 -/
def genericSettingsStore (alloc : Bool) (generics : List (Setting × Bytes)) (setting : Setting)
    (data : Bytes) : Option (List (Setting × Bytes)) :=
  if data ≠ [] ∧ alloc = false then none
  else
    let rest := generics.eraseP (fun g => settingCmp g.1 setting)
    some (if data = [] then rest else (setting, data) :: rest)

/-! ## 木 -/

/-- 登録された settings block とその子。 -/
inductive SettingsBlock where
  | node (id : Nat) (name : Bytes) (generics : List (Setting × Bytes)) (children : List SettingsBlock)

namespace SettingsBlock

def id : SettingsBlock → Nat
  | node id _ _ _ => id

def name : SettingsBlock → Bytes
  | node _ name _ _ => name

def generics : SettingsBlock → List (Setting × Bytes)
  | node _ _ generics _ => generics

def children : SettingsBlock → List SettingsBlock
  | node _ _ _ children => children

@[simp] theorem id_node (i : Nat) (name : Bytes) (generics : List (Setting × Bytes))
    (children : List SettingsBlock) : (node i name generics children).id = i := rfl

@[simp] theorem generics_node (i : Nat) (name : Bytes) (generics : List (Setting × Bytes))
    (children : List SettingsBlock) : (node i name generics children).generics = generics := rfl

@[simp] theorem children_node (i : Nat) (name : Bytes) (generics : List (Setting × Bytes))
    (children : List SettingsBlock) : (node i name generics children).children = children := rfl

/-- `settings->name = name`。 -/
def withName (name : Bytes) : SettingsBlock → SettingsBlock
  | node id _ generics children => node id name generics children

mutual
/-- 部分木の block の番号を、block 自身、子の順に深さ優先で並べる。 -/
def ids : SettingsBlock → List Nat
  | node id _ _ children => id :: idsList children

def idsList : List SettingsBlock → List Nat
  | [] => []
  | c :: cs => ids c ++ idsList cs
end

mutual
/-- 番号 `x` の block。 -/
def find? (x : Nat) : SettingsBlock → Option SettingsBlock
  | node id name generics children =>
    if id = x then some (node id name generics children) else findList? x children

def findList? (x : Nat) : List SettingsBlock → Option SettingsBlock
  | [] => none
  | c :: cs => (find? x c).or (findList? x cs)
end

end SettingsBlock

open SettingsBlock

/-! ## `fetch_setting` -/

mutual
/-- `fetch_setting ( settings, setting, ... )` の返す値。block 自身に値があればそれを、なければ
子を順に探す。 -/
def fetchSetting (setting : Setting) : SettingsBlock → Option Bytes
  | node _ _ generics children =>
    (genericSettingsFetch generics setting).or (fetchSettingChildren setting children)

/-- `list_for_each_entry ( child, &settings->children, siblings )` の loop。 -/
def fetchSettingChildren (setting : Setting) : List SettingsBlock → Option Bytes
  | [] => none
  | c :: cs => (fetchSetting setting c).or (fetchSettingChildren setting cs)
end

/-- `unsigned long` の値を `long` として読む。 -/
def signedLong (arch : Arch) (value : Nat) : Int :=
  if value < 2 ^ (arch.longBits - 1) then value else (value : Int) - 2 ^ arch.longBits

/-- `fetch_intz_setting ( settings, setting )`。見つからなければ 0 である。値が `unsigned long`
より長いと、C は `fetch_numeric_setting` の `tmp` の外を読む。model はそこで 0 を返す。 -/
def fetchIntzSetting (arch : Arch) (setting : Setting) (b : SettingsBlock) : Int :=
  match fetchSetting setting b with
  | none => 0
  | some raw =>
    match numericSettingValue arch true raw with
    | .ok value => signedLong arch value
    | .error _ => 0

/-! ## `reprioritise_settings` -/

/-- `reprioritise_settings` の入れ直し。兄弟を順に見て、`priority > tmp_priority` となる最初の
兄弟の前に入れる。なければ最後に入れる。 -/
def reinsertSettings (arch : Arch) (b : SettingsBlock) (siblings : List SettingsBlock) :
    List SettingsBlock :=
  insertBefore
    (fun tmp => decide (fetchIntzSetting arch prioritySetting tmp < fetchIntzSetting arch prioritySetting b))
    b siblings

mutual
/-- 番号 `x` の block に `reprioritise_settings` を呼んだ後の木。`x` を兄弟の中で入れ直し、
親、その親と上って、根の子まで入れ直す。根には親がないので止まる。 -/
def reprioritiseSettings (arch : Arch) (x : Nat) : SettingsBlock → SettingsBlock
  | node i name generics children => node i name generics (reprioritiseChildren arch x [] children)

/-- 子の列を見て、`x` を含む子を（`x` 自身でなければその中を直してから）入れ直す。`pre` は
既に見た子である。 -/
def reprioritiseChildren (arch : Arch) (x : Nat) (pre : List SettingsBlock) :
    List SettingsBlock → List SettingsBlock
  | [] => pre
  | c :: cs =>
    if c.id = x then reinsertSettings arch c (pre ++ cs)
    else if x ∈ c.ids then reinsertSettings arch (reprioritiseSettings arch x c) (pre ++ cs)
    else reprioritiseChildren arch x (pre ++ [c]) cs
end

/-! ## 登録と削除 -/

mutual
/-- `unregister_settings`。番号 `x` の block を子孫ごと木から外す。外しても、親や兄弟の順は
直さない。根を外そうとすると C は `NULL` の親を読むが、model は木を変えない。 -/
def unregisterSettings (x : Nat) : SettingsBlock → SettingsBlock
  | node i name generics children => node i name generics (unregisterChildren x children)

def unregisterChildren (x : Nat) : List SettingsBlock → List SettingsBlock
  | [] => []
  | c :: cs => if c.id = x then cs else unregisterSettings x c :: unregisterChildren x cs
end

mutual
/-- `list_add_tail ( &settings->siblings, &parent->children )`。 -/
def addChild (parent : Nat) (b : SettingsBlock) : SettingsBlock → SettingsBlock
  | node i name generics children =>
    if i = parent then node i name generics (children ++ [b])
    else node i name generics (addChildList parent b children)

def addChildList (parent : Nat) (b : SettingsBlock) : List SettingsBlock → List SettingsBlock
  | [] => []
  | c :: cs => addChild parent b c :: addChildList parent b cs
end

/-- `find_child_settings ( parent, name )`。空の名前は親自身を指す。 -/
def findChildSettings (t : SettingsBlock) (parent : Nat) (name : Bytes) : Option Nat :=
  match t.find? parent with
  | none => none
  | some p => if name = [] then some p.id else (p.children.find? (·.name = name)).map SettingsBlock.id

/-- `register_settings ( settings, parent, name )`。同じ名前の子があれば先に外し、親の子の最後に
足してから `reprioritise_settings` を呼ぶ。 -/
def registerSettings (arch : Arch) (b : SettingsBlock) (parent : Nat) (name : Bytes)
    (t : SettingsBlock) : SettingsBlock :=
  let b := b.withName name
  let t :=
    match findChildSettings t parent name with
    | some old => unregisterSettings old t
    | none => t
  reprioritiseSettings arch b.id (addChild parent b t)

/-! ## `store_setting` -/

mutual
/-- 番号 `x` の block の値の列を置き換える。 -/
def setGenerics (x : Nat) (generics : List (Setting × Bytes)) : SettingsBlock → SettingsBlock
  | node i name gs children =>
    if i = x then node i name generics children
    else node i name gs (setGenericsList x generics children)

def setGenericsList (x : Nat) (generics : List (Setting × Bytes)) :
    List SettingsBlock → List SettingsBlock
  | [] => []
  | c :: cs => setGenerics x generics c :: setGenericsList x generics cs
end

/-- `store_setting ( settings, setting, data, len )` の後の木。確保に失敗すれば `none`
（`-ENOMEM`）で、木は変わらない。`priority` を書いたときだけ `reprioritise_settings` を呼ぶ。
登録されていない block への書き込みは、木を変えない。 -/
def storeSetting (arch : Arch) (alloc : Bool) (x : Nat) (setting : Setting) (data : Bytes)
    (t : SettingsBlock) : Option SettingsBlock :=
  match t.find? x with
  | none => some t
  | some b =>
    match genericSettingsStore alloc b.generics setting data with
    | none => none
    | some generics =>
      let t := setGenerics x generics t
      some (if settingCmp setting prioritySetting then reprioritiseSettings arch x t else t)

/-! ## 操作の列 -/

/-- 木に対する操作。 -/
inductive SettingsOp where
  | register (b : SettingsBlock) (parent : Nat) (name : Bytes)
  | unregister (x : Nat)
  | store (x : Nat) (setting : Setting) (data : Bytes) (alloc : Bool)

/-- 操作を一つ行った後の木。失敗した `store_setting` は木を変えない。 -/
def settingsStep (arch : Arch) (t : SettingsBlock) : SettingsOp → SettingsBlock
  | .register b parent name => registerSettings arch b parent name t
  | .unregister x => unregisterSettings x t
  | .store x setting data alloc => (storeSetting arch alloc x setting data t).getD t

/-- `settings_root`。名前は空で、番号は 0 とする。 -/
def settingsRoot : SettingsBlock := .node 0 [] [] []

/-! ## block の名前

`settings_name` は block から根まで上りながら、`".%s%s"` で名前を前に足していく。16 byte の
`buf` には 15 文字までしか入らず、`snprintf` はそれより後を捨てる。根の名前は空なので、最後の
文字列は `".."` で始まり、`buf + 2` を返す。`find_settings` はその逆で、名前を `'.'` で区切って
根から順に `find_child_settings` でたどる。
-/

/-- `settings_name ( settings )`。`names` は block から根までの名前で、根の空の名前で終わる。 -/
def settingsName (names : List Bytes) : Bytes :=
  (names.foldl (fun buf name => (46 :: name ++ buf).take 15) []).drop 2

/-- `parse_settings_name ( NULL, name, get_child )`。`strchr ( subname, '.' )` で切った部分を根から
順に `get_child` でたどり、見つからなければそこで止まる。 -/
def parseSettingsName (getChild : Nat → Bytes → Option Nat) (name : Bytes) : Option Nat :=
  let parts := splitLines 46 name
  (parts.1 ++ [parts.2]).foldl (fun s sub => s.bind fun p => getChild p sub) (some settingsRoot.id)

/-- `find_settings ( NULL, name )`。 -/
def findSettings (t : SettingsBlock) (name : Bytes) : Option Nat :=
  parseSettingsName (findChildSettings t) name

end FlexBoot.Settings
