import FlexBoot.Properties.Http

/-!
# `Content-Length: 0` の応答の終わり

`remaining` の 0 は「長さが分からない」ことも表す。`Content-Length: 0` の応答は `remaining` を 0 に
するので、header の後は長さの分からない本体と同じに扱われ、接続が閉じるまで終わらない。

1. `remaining` も `chunk_remaining` も 0 の `HTTP_RX_DATA`（`Unbounded`）では、一回の処理は
   iob を全部本体として渡し、状態はそのままである（`rxData_unbounded`）。
2. したがって何回届いても `http_done` は呼ばれない（`deliverLoop_unbounded`、
   `runDeliveries_unbounded`）。
3. `http_open` の要求に `Content-Length: 0` の応答が届いた後、続く byte はどれも本体として
   渡され、要求は終わらない（`http_content_length_zero_never_completes`）。
-/

namespace FlexBoot.Http

open Infra FlexBoot

/-- 長さの分からない本体を受け取っている状態。chunk の途中でもない。 -/
def Unbounded (h : HttpRequest) : Prop :=
  h.rxState = .data ∧ h.remaining = 0 ∧ h.chunkRemaining = 0

instance : DecidablePred Unbounded := fun _ => inferInstanceAs (Decidable (_ ∧ _ ∧ _))

section Unbounded

variable {arch : Arch} {env : Env} {h : HttpRequest}

theorem dataLen_unbounded (hu : Unbounded h) (iob : Bytes) : dataLen h iob = iob.length := by
  simp [dataLen, hu.2.1, hu.2.2]

/-- 渡し先が受け取れば、iob は全部渡り、変わるのは `copies` だけである。 -/
theorem dataDeliver_all (hlow : env.lowerOk = true) (h : HttpRequest) (iob : Bytes) :
    ∃ copies, dataDeliver env h iob iob.length = some ({ h with copies }, []) := by
  unfold dataDeliver
  split
  · exact ⟨h.copies, by simp⟩
  · split
    · exact ⟨h.copies ++ [(h.rxLen, iob)], by simp⟩
    · exact ⟨h.copies, by simp⟩

/-- 長さの分からない本体では、一回の処理は iob を全部渡し、状態は変わらない。 -/
theorem rxData_unbounded (hlow : env.lowerOk = true) (hu : Unbounded h) (iob : Bytes) :
    ∃ h', rxData arch env h iob = (h', .more []) ∧ Unbounded h' := by
  obtain ⟨copies, hd⟩ := dataDeliver_all hlow h iob
  refine ⟨dataAccount arch { h with copies } iob.length, ?_, ?_⟩
  · rw [rxData, dataLen_unbounded hu, hd]
  · -- `remaining` と `chunk_remaining` が 0 なので、`rx_len` を足すだけである
    simp [Unbounded, dataAccount, hu.1, hu.2.1, hu.2.2]

/-- 何回処理しても、長さの分からない本体のままで、`http_done` は呼ばれない。 -/
theorem deliverLoop_unbounded (hlow : env.lowerOk = true) :
    ∀ (fuel : Nat) (h : HttpRequest) (iob : Bytes), Unbounded h →
      ∃ h', deliverLoop arch env fuel h iob = .ok (h', .ok) ∧ Unbounded h'
  | 0, h, _, hu => ⟨h, rfl, hu⟩
  | fuel + 1, h, iob, hu => by
    rw [deliverLoop]
    split
    · exact ⟨h, rfl, hu⟩
    · obtain ⟨h', hrx, hu'⟩ : ∃ h', rxData arch env h iob = (h', .more []) ∧ Unbounded h' :=
        rxData_unbounded hlow hu iob
      have honce : deliverOnce arch env h iob = .ok (h', .more []) := by
        rw [deliverOnce, hu.1]
        exact congrArg Except.ok hrx
      obtain ⟨h'', hloop, hu''⟩ := deliverLoop_unbounded hlow fuel h' [] hu'
      exact ⟨h'', by simp only [honce, bind, Except.bind, hloop], hu''⟩

theorem httpSocketDeliver_unbounded (hlow : env.lowerOk = true) (hu : Unbounded h) (iob : Bytes) :
    ∃ h', httpSocketDeliver arch env h iob = .ok h' ∧ Unbounded h' := by
  obtain ⟨h', hloop, hu'⟩ : ∃ h', deliverLoop arch env iob.length h iob = .ok (h', .ok) ∧ Unbounded h' :=
    deliverLoop_unbounded hlow iob.length h iob hu
  refine ⟨h', ?_, hu'⟩
  simp only [httpSocketDeliver, hloop, bind, Except.bind, ne_eq, not_true_eq_false, if_false]
  rfl

end Unbounded

/-- 止まらずに長さの分からない本体を受け取っている実行の状態。 -/
def UnboundedState : Except Fault HttpRequest → Prop
  | .ok h => Unbounded h
  | .error _ => False

instance : DecidablePred UnboundedState
  | .ok h => inferInstanceAs (Decidable (Unbounded h))
  | .error _ => isFalse id

/-- 下の層が受け取る I/O buffer が何回届いても、長さの分からない本体のままである。 -/
theorem runDeliveries_unbounded (arch : Arch) {env : Env} (hlow : env.lowerOk = true) {s : Except Fault HttpRequest}
    (hs : UnboundedState s) (iobs : List Bytes) :
    UnboundedState (run (step arch) s (iobs.map fun iob => .deliver iob env)) := by
  refine run_of_step (E := fun e => ∃ iob, e = .deliver iob env) ?_ hs _ ?_
  · rintro (f | h) e ⟨iob, rfl⟩ hs
    · exact hs.elim
    · obtain ⟨h', hd, hu'⟩ : ∃ h', httpSocketDeliver arch env h iob = .ok h' ∧ Unbounded h' :=
        httpSocketDeliver_unbounded hlow hs iob
      show UnboundedState (httpSocketDeliver arch env h iob)
      rw [hd]
      exact hu'
  · intro e he
    obtain ⟨iob, -, rfl⟩ := List.mem_map.mp he
    exact ⟨iob, rfl⟩

/-- 本体の長さが 0 の `200` の応答。 -/
def emptyBodyResponse : Bytes := ascii "HTTP/1.1 200 OK\r\nContent-Length: 0\r\n\r\n"

/-- `http_open` の要求を送り、`Content-Length: 0` の応答を受け取った後、続けてどんな byte が
届いても、要求は `HTTP_RX_DATA` に留まり、届いた byte は本体として渡される。 -/
theorem http_content_length_zero_never_completes (arch : Arch) (more : List Bytes) :
    (run (step arch) (.ok (HttpRequest.opened false))
        ([.tx envAllOk, .deliver emptyBodyResponse envAllOk] ++ more.map fun iob => .deliver iob envAllOk)).map
      HttpRequest.rxState = .ok .data := by
  have hstart : UnboundedState
      (run (step arch) (.ok (HttpRequest.opened false)) [.tx envAllOk, .deliver emptyBodyResponse envAllOk]) := by
    cases arch <;> decide +kernel
  have hrun := runDeliveries_unbounded arch (show envAllOk.lowerOk = true from rfl) hstart more
  rw [run_append]
  -- 止まっていない状態の `rx_state` は `HTTP_RX_DATA` である
  cases hs : run (step arch) (run (step arch) (.ok (HttpRequest.opened false))
      [.tx envAllOk, .deliver emptyBodyResponse envAllOk]) (more.map fun iob => .deliver iob envAllOk) with
  | error f =>
    rw [hs] at hrun
    exact hrun.elim
  | ok h =>
    rw [hs] at hrun
    exact congrArg Except.ok hrun.1

end FlexBoot.Http
