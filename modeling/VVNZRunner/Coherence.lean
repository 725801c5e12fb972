import VVNZRunner.CallBlock
import VVNZRunner.Library.Cache
import VVNZRunner.StepLog
import VVNZRunner.UnmapMemory

/-!
The plugin on a processor whose cache Venezia does not see.

* `Event.onCache`: what a call of a service or a store does to memory and the cache. `onLog` is a
  log with whatever the cache does on its own in between.
* `Wired`: the plugin together with memory and the cache.
* `headerSettled_run`: along every run the header of the comm heap is not lost in the cache.
* `request_reaches_venezia`: `vnzBridgeExecCore` cleans the cache, so the program on Venezia finds
  the header and the caller's bytes in memory.
* `reply_through_cache`: the cache is not invalidated before the copy out. Each byte the caller
  gets back is the program's or the caller's own; all are the program's, whatever the cache does,
  exactly if each line with a byte that the program changed was given up.
-/

namespace VVNZRunner

open ByteMemory Machine WriteBack

/-! ### The log on memory and the cache -/

section Log

variable {ι : Type} [DecidableEq ι] (line : Word → ι)

/-- What an event does to memory and the cache. Venezia answers `sv` and sees memory only;
`mapped` is what lies behind a new kernel mapping. -/
def Event.onCache (sv : Services) (mapped c : CachedMemory 32 ι) : Event → CachedMemory 32 ι
  | .store addr bytes => WriteBack.store line addr bytes c
  | .sceKernelCopyFromUser dst _ size reply => WriteBack.store line dst (reply.bytes.take size.toNat) c
  | .sceKernelDcacheCleanRange base size => clean line base size c
  | .sceKernelDcacheInvalidateRange base size => invalidate line base size.toNat c
  | .sceVeneziaRpcCallGenericThunk _ arg =>
      device (sv.sceVeneziaRpcCallGenericThunk arg c.ram).2 c
  | .sceKernelUserMap .. => mapped
  | _ => c

/-- A log, oldest event first; `ds i` is what the cache does before event `i`. -/
def onLog (sv : Services) (mapped : CachedMemory 32 ι) :
    (ℕ → List (Drift ι)) → List Event → CachedMemory 32 ι → CachedMemory 32 ι
  | ds, [], c => run (drift line) c (ds 0)
  | ds, e :: es, c =>
      onLog sv mapped (fun i => ds (i + 1)) es (e.onCache line sv mapped (run (drift line) c (ds 0)))

/-- The event does not change the byte at `x` and does not drop its line. -/
def Event.KeepsByte (sv : Services) (x : Word) : Event → Prop
  | .sceKernelDcacheInvalidateRange base size => ¬ Touches line base size.toNat (line x)
  | .sceVeneziaRpcCallGenericThunk _ arg =>
      ∀ m, (sv.sceVeneziaRpcCallGenericThunk arg m).2 x = m x
  | .sceKernelUserMap .. => False
  | e => ∀ r ∈ e.kernelStore, ¬ InRange r.1 r.2.length x

variable {line} {sv : Services} {mapped c : CachedMemory 32 ι} {x : Word} {b : Byte}

lemma settled_onCache (h : Settled line c x b) {e : Event} (he : e.KeepsByte line sv x) :
    Settled line (e.onCache line sv mapped c) x b := by
  cases e with
  | store addr bytes => exact h.store (he _ rfl)
  | sceKernelCopyFromUser dst src size reply => exact h.store (he _ rfl)
  | sceKernelDcacheCleanRange base size => exact h.writeBack
  | sceKernelDcacheInvalidateRange base size => exact h.drop fun htouch => absurd htouch he
  | sceVeneziaRpcCallGenericThunk id arg => exact h.device (he _)
  | sceKernelUserMap name prot addr size uid page offset => exact he.elim
  | _ => exact h

/-- **Events that keep a byte keep it settled**, whatever the cache does in between. -/
lemma settled_onLog_of_keeps (h : Settled line c x b) {es : List Event}
    (hes : ∀ e ∈ es, e.KeepsByte line sv x) (ds : ℕ → List (Drift ι)) :
    Settled line (onLog line sv mapped ds es c) x b := by
  induction es generalizing ds c with
  | nil => exact h.drifts _
  | cons e es ih =>
      refine ih (settled_onCache (h.drifts _) (hes e List.mem_cons_self)) (fun e' he' => ?_) _
      exact hes e' (List.mem_cons_of_mem _ he')

/-- A stored byte that later events keep is settled. -/
lemma settled_onLog {e : Event} {a : Word} {bs : List Byte} (hstore : e.kernelStore = some (a, bs))
    {i : ℕ} (hi : i < bs.length) (hn : bs.length ≤ 2 ^ 32) (pre : List Event) {post : List Event}
    (hpost : ∀ e ∈ post, e.KeepsByte line sv (a + BitVec.ofNat 32 i)) (ds : ℕ → List (Drift ι)) :
    Settled line (onLog line sv mapped ds (pre ++ e :: post) c) (a + BitVec.ofNat 32 i) bs[i] := by
  induction pre generalizing ds c with
  | nil =>
      refine settled_onLog_of_keeps ?_ hpost _
      cases e with
      | store addr bytes =>
          cases hstore
          exact settled_store _ hi hn
      | sceKernelCopyFromUser dst src size reply =>
          cases hstore
          exact settled_store _ hi hn
      | _ => cases hstore
  | cons e' pre ih => exact ih _

/-- Behind the last event, a range that was cleaned is not dirty. -/
lemma onLog_clean_state {a : Word} {k : ℕ} (hx : InRange a k x) (es : List Event)
    (ds : ℕ → List (Drift ι)) :
    (onLog line sv mapped ds (es ++ [.sceKernelDcacheCleanRange a k]) c).state (line x) ≠ .dirty := by
  induction es generalizing ds c with
  | nil => exact drifts_state_ne (writeBack_state_ne (touches_of_inRange line hx)) _
  | cons e es ih => exact ih _

end Log

/-! ### The plugin with memory and the cache -/

/-- The answers of the services during a step. -/
def Step.services : Step → Services
  | .call _ _ sv => sv
  | .exit _ sv => sv
  | .kill _ sv => sv
  | _ => {}

/-- A step of the plugin, what the cache does before each of its events and behind the last, and
what lies behind a kernel mapping that it makes. -/
structure CacheStep (ι : Type) where
  step : Step
  drifts : ℕ → List (Drift ι)
  mapped : CachedMemory 32 ι

/-- The plugin with its session, memory and the cache. -/
structure Wired (ι : Type) extends Tracked where
  cached : CachedMemory 32 ι

namespace Wired

variable {ι : Type} [DecidableEq ι] (line : Word → ι)

/-- A step, and what its events do to memory and the cache. -/
def step (t : Wired ι) (e : CacheStep ι) : Wired ι where
  toTracked := t.toTracked.step e.step
  cached := onLog line e.step.services e.mapped e.drifts (newEvents t.world e.step).reverse t.cached

/-- The state after `module_start`, with anything in memory and in the cache. -/
def boot (clock : Word) (mem : Mem) (c : CachedMemory 32 ι) : Wired ι :=
  ⟨Tracked.boot clock mem, c⟩

/-- A step leaves the header of the open session alone, and drops none of its lines. -/
def Allowed (t : Wired ι) (e : CacheStep ι) : Prop :=
  SparesHeader t.toTracked e.step ∧
    ∀ pid vaddr size wr sv, e.step = .call pid (.vnzBridgeUnmapMemory vaddr size wr) sv → wr ≠ 0 →
      ∀ s ∈ t.session, ∀ i < 12, ¬ Touches line (unmapRangeBase vaddr)
        (unmapInvalidateSize vaddr size).toNat (line (s.at (256 + i)))

/-- The header of the open session is settled. -/
def HeaderSettled (t : Wired ι) : Prop :=
  ∀ s ∈ t.session, ∀ i (hi : i < s.commParam.length),
    Settled line t.cached (s.at (256 + i)) s.commParam[i]

end Wired

/-! ### The header along a run -/

section Header

variable {ι : Type} {line : Word → ι} {s : Session} {w : World} {sv : Services} {x : Word}

lemma Event.Plain.keepsByte {e : Event} (h : e.Plain) : e.KeepsByte line sv x := by
  cases e <;> first | exact h.elim | (intro r hr; cases hr)

lemma keepsByte_processId (pid : Word) :
    (Event.sceKernelGetProcessId pid).KeepsByte line sv x := fun r hr => by cases hr

/-- The address of a header byte. -/
lemma inRange_header {i : ℕ} (hi : i < 12) : InRange (s.at 256) 12 (s.at (256 + i)) := by
  rw [s.inRange_at (by omega), s.at_offset (by omega)]
  omega

/-- A word stored elsewhere in the block keeps a byte. -/
lemma keepsByte_store {p k : ℕ} (v : Word) (hp : p + 4 ≤ 2 ^ 32) (hk : k < 2 ^ 32)
    (h : k < p ∨ p + 4 ≤ k) : (Event.store (s.at p) (wordBytes v)).KeepsByte line sv (s.at k) := by
  rintro r ⟨⟩
  dsimp only
  rw [wordBytes_length, s.inRange_at hp, s.at_offset hk]
  omega

/-- **Within a session** every event of an allowed step keeps the header. -/
lemma keepsByte_step {t : Wired ι} {e : CacheStep ι} (hcons : Consistent t.world s)
    (hs : t.session = some s) (hok : t.Allowed line e) {i : ℕ} (hi : i < 12) :
    Logs (Event.KeepsByte line e.step.services (s.at (256 + i))) t.world (step t.world e.step) := by
  have hx : InRange (s.at 256) 12 (s.at (256 + i)) := inRange_header hi
  obtain ⟨hspares, hlines⟩ := hok
  have hplain : ∀ sv e, Event.Plain e → e.KeepsByte line sv (s.at (256 + i)) :=
    fun _ _ he => he.keepsByte
  have hsingle : ∀ {P : Event → Prop} {ev : Event}, P ev → Logs P t.world (t.world.emit ev) :=
    fun hev => (Logs.refl t.world).emit hev
  generalize hstep : e.step = st at hspares hlines ⊢
  cases step_log t.world st with
  | plain hstatics hlogs => exact hlogs.mono (hplain _)
  | @exec _ pUserArg userArgSize useCoreSuspend sv he hw =>
      rw [hw]
      have hsv : st.services = sv := by cases he <;> rfl
      rw [hsv]
      refine logs_exec ?_ (fun _ r hr => by cases hr) (fun r hr => by cases hr) ?_
        (fun _ r hr => by cases hr) (hplain _)
      · rintro - hsize r ⟨⟩
        rw [hcons.commHeapVaddr_add]
        refine not_inRange_args_of_header hx ((List.length_take_le _ _).trans hsize)
      · exact fun _ => hspares.rpc he hs hx
  | lock pid sv => exact hsingle fun r hr => by cases hr
  | unlock pid sv => exact hsingle fun r hr => by cases hr
  | spramWrite pid src size off sv =>
      change Logs _ t.world (vnzBridgeMemcpyToSpram src size off sv t.world).2
      rw [vnzBridgeMemcpyToSpram]
      split_ifs with hrange
      · refine .single ?_ rfl
        rintro r ⟨⟩
        exact hspares hrange s hs _ hx
      · exact .refl _
  | inject pid addr size sv =>
      change Logs _ t.world (vnzBridgeInject addr size pid sv t.world).2
      rw [inject_of_registered addr size pid sv hcons.registered]
      exact .refl _
  | unmap pid vaddr size wr sv =>
      refine logs_unmap vaddr size wr (fun hwr => ?_) (hplain _)
      exact hlines pid vaddr size wr sv rfl hwr s hs i hi
  | restore hreg hstatics hlogs hw =>
      rw [hw]
      refine (hlogs.mono (hplain _)).trans (logs_restored ?_ ?_ ?_ ?_ (hplain _))
      · exact fun _ r hr => by cases hr
      · exact fun _ r hr => by cases hr
      · exact fun _ _ r hr => by cases hr
      · exact fun _ _ r hr => by cases hr

variable [DecidableEq ι]

/-- The three stores of an injection settle the header. -/
lemma settled_header {mapped c : CachedMemory 32 ι} (pre : List Event) (pid : Word)
    (ds : ℕ → List (Drift ι)) {i : ℕ} (hi : i < s.commParam.length) :
    Settled line (onLog line sv mapped ds (pre ++ [.store (s.at 256) (wordBytes vramBase),
      .store (s.at 260) (wordBytes s.entry), .store (s.at 264) (wordBytes s.size),
      .sceKernelGetProcessId pid]) c)
        (s.at (256 + i)) s.commParam[i] := by
  have hget : ∀ (j : ℕ) (v : Word) (hj : j < (wordBytes v).length),
      s.commParam[i]? = (wordBytes v)[j]? → s.commParam[i] = (wordBytes v)[j] := by
    intro j v hj h
    rw [List.getElem?_eq_getElem hi, List.getElem?_eq_getElem hj] at h
    exact Option.some.inj h
  rw [s.commParam_length] at hi
  by_cases h8 : 8 ≤ i
  · obtain ⟨j, rfl⟩ := Nat.exists_eq_add_of_le h8
    have hj : j < 4 := by omega
    rw [hget j s.size hj s.commParam_size, ← Nat.add_assoc, ← s.at_add,
      List.append_cons pre, List.append_cons (pre ++ [_])]
    refine settled_onLog rfl hj (by simp) _ ?_ ds
    simpa using keepsByte_processId pid
  by_cases h4 : 4 ≤ i
  · obtain ⟨j, rfl⟩ := Nat.exists_eq_add_of_le h4
    have hj : j < 4 := by omega
    rw [hget j s.entry hj (s.commParam_entry hj), ← Nat.add_assoc, ← s.at_add,
      List.append_cons pre]
    refine settled_onLog rfl hj (by simp) _ ?_ ds
    rw [s.at_add]
    simp only [List.forall_mem_cons, List.not_mem_nil, false_implies, implies_true, and_true]
    exact ⟨keepsByte_store s.size (by omega) (by omega) (by omega), keepsByte_processId pid⟩
  · have hj : i < 4 := by omega
    rw [hget i vramBase hj (s.commParam_base hj), ← s.at_add]
    refine settled_onLog rfl hj (by simp) _ ?_ ds
    rw [s.at_add]
    simp only [List.forall_mem_cons, List.not_mem_nil, false_implies, implies_true, and_true]
    exact ⟨keepsByte_store s.entry (by omega) (by omega) (by omega),
      keepsByte_store s.size (by omega) (by omega) (by omega),
      keepsByte_processId pid⟩

/-- A step of the plugin with memory and the cache keeps the header settled. -/
lemma headerSettled_step (t : Wired ι) (e : CacheStep ι) (href : Refines t.world t.session)
    (h : t.HeaderSettled line) (hok : t.Allowed line e) : (t.step line e).HeaderSettled line := by
  intro s hs i hi
  rcases nextSession_eq_some hs with hopen | ⟨hnone, sv, hstep, hacc, heq⟩
  · obtain ⟨log, htrace, hkeeps⟩ := keepsByte_step (href.consistent hopen) hopen hok hi
    change Settled line (onLog line _ _ _ (newEvents t.world e.step).reverse t.cached) _ _
    rw [newEvents_eq htrace]
    refine settled_onLog_of_keeps (h s hopen i hi) (fun ev hev => ?_) _
    exact hkeeps ev (List.mem_reverse.mp hev)
  · change Settled line (onLog line _ _ _ (newEvents t.world e.step).reverse t.cached) _ _
    have hnew : newEvents t.world (.call s.pid (.vnzBridgeInject s.vaddr s.size) sv) = _ :=
      newEvents_eq (inject_trace s.pid (href.free hnone) hacc heq.symm)
    rw [hstep, hnew]
    exact settled_header [_, _] _ _ hi

/-- **The header is not lost in the cache**: along every run it is settled as long as the session
is open. -/
theorem headerSettled_run {clock : Word} {mem : Mem} {c : CachedMemory 32 ι}
    {es : List (CacheStep ι)}
    (hok : Admissible (Wired.step line) (Wired.Allowed line) (Wired.boot clock mem c) es) :
    Refines (run (Wired.step line) (Wired.boot clock mem c) es).world
        (run (Wired.step line) (Wired.boot clock mem c) es).session ∧
      (run (Wired.step line) (Wired.boot clock mem c) es).HeaderSettled line := by
  refine run_invariant (P := fun t : Wired ι => Refines t.world t.session ∧ t.HeaderSettled line)
    (fun t e ht he => ?_) ⟨boot_not_registered clock mem, fun s hs => by cases hs⟩ hok
  exact ⟨refines_step e.step ht.1, headerSettled_step t e ht.1 ht.2 he⟩

end Header

/-! ### One execution -/

section Exec

/-- The events between the copy in of an execution and its RPC, oldest first. -/
def lockEvents (useCoreSuspend : Bool) (sv : Services) (w : World) : List Event :=
  (if useCoreSuspend then [.sceVeneziaLockProcessSuspend sv.sceVeneziaLockProcessSuspend]
    else []) ++
    [.sceVeneziaGetVThreadProcessingResource 0 sv.sceVeneziaGetVThreadProcessingResource,
      .sceKernelDcacheCleanRange w.commHeapVaddr commHeapSize]

/-- The events of an execution of a block up to the RPC. -/
def requestEvents (pUserArg userArgSize : Word) (useCoreSuspend : Bool) (sv : Services)
    (w : World) : List Event :=
  .sceKernelCopyFromUser (w.commHeapVaddr + 12) pUserArg userArgSize sv.sceKernelCopyFromUser ::
    lockEvents useCoreSuspend sv w

/-- The events behind the RPC up to the copy out. -/
def replyEvents (useCoreSuspend : Bool) (sv : Services) : List Event :=
  if useCoreSuspend then [.sceVeneziaUnlockProcessSuspend sv.sceVeneziaUnlockProcessSuspend]
  else []

variable {w : World} {s : Session} {pUserArg userArgSize : Word} {useCoreSuspend : Bool}
  {sv : Services} {e : Step}

variable (userArgSize useCoreSuspend sv) in
/-- The log of an execution that reaches the copy out. -/
lemma afterExec_trace (hcons : Consistent w s) (harg : pUserArg ≠ 0) :
    ∃ bytes, (afterExec pUserArg userArgSize useCoreSuspend sv w).trace =
      (requestEvents pUserArg userArgSize useCoreSuspend sv w ++
        Event.sceVeneziaRpcCallGenericThunk thunkCmdId (execThunkArg pUserArg userArgSize sv w) ::
          (replyEvents useCoreSuspend sv ++ [Event.sceKernelCopyToUser pUserArg
            (.kernel (s.at 268)) bytes sv.sceKernelCopyToUser])).reverse ++ w.trace := by
  rw [← hcons.commHeapVaddr_add]
  cases useCoreSuspend with
  | false =>
      rw [afterExec, execCopyOut, if_pos harg, execReply, if_neg (by decide), afterRpc,
        afterRequest, afterLock, if_neg (by decide), afterCopyIn, if_pos harg]
      exact ⟨_, rfl⟩
  | true =>
      rw [afterExec, execCopyOut, if_pos harg, execReply, if_pos rfl, afterRpc,
        afterRequest, afterLock, if_pos rfl, afterCopyIn, if_pos harg]
      exact ⟨_, rfl⟩

/-- The events of an execution that makes an RPC. -/
lemma exec_events (he : e.IsExec pUserArg userArgSize useCoreSuspend sv) (hcons : Consistent w s)
    (harg : pUserArg ≠ 0) {before after : List Event} {arg : SceVeneziaThunkArg}
    (hlog : (newEvents w e).reverse =
      before ++ .sceVeneziaRpcCallGenericThunk thunkCmdId arg :: after) :
    before = requestEvents pUserArg userArgSize useCoreSuspend sv w ∧
      arg = execThunkArg pUserArg userArgSize sv w ∧
      ∃ bytes, after = replyEvents useCoreSuspend sv ++ [.sceKernelCopyToUser pUserArg
        (.kernel (s.at 268)) bytes sv.sceKernelCopyToUser] := by
  have hmem : .sceVeneziaRpcCallGenericThunk thunkCmdId arg ∈ newEvents w e := by
    rw [← List.mem_reverse, hlog]
    simp
  have hw : step w e = (vnzBridgeExecCore pUserArg userArgSize useCoreSuspend sv w).2 := by
    cases he <;> rfl
  have hlogged : ∀ log : List Event, (step w e).trace = log ++ w.trace →
      .sceVeneziaRpcCallGenericThunk thunkCmdId arg ∈ log := by
    intro log htrace
    rw [newEvents_eq htrace] at hmem
    exact hmem
  have hout := exec_outcome pUserArg userArgSize useCoreSuspend sv w
  generalize vnzBridgeExecCore pUserArg userArgSize useCoreSuspend sv w = r at hw hout
  cases hout with
  | notRegistered hfree => exact absurd hcons.registered hfree
  | tooBig hreg _ hsize =>
      have hnone := hlogged [] (by rw [hw]; rfl)
      cases hnone
  | lockFailed hreg hsize hlock =>
      have hno := hlogged [.sceVeneziaLockProcessSuspend sv.sceVeneziaLockProcessSuspend,
        .sceKernelCopyFromUser (w.commHeapVaddr + 12) pUserArg userArgSize
          sv.sceKernelCopyFromUser] (by
        rw [hw, afterLock, if_pos hlock.1, afterCopyIn, if_pos harg]
        rfl)
      simp at hno
  | ran hreg hsize hlock =>
      obtain ⟨bytes, htrace⟩ := afterExec_trace userArgSize useCoreSuspend sv hcons harg
      have hnew : newEvents w e = _ := newEvents_eq ((congrArg World.trace hw).trans htrace)
      rw [hnew, List.reverse_reverse] at hlog
      have hbefore : .sceVeneziaRpcCallGenericThunk thunkCmdId arg ∉
          requestEvents pUserArg userArgSize useCoreSuspend sv w := by
        rw [requestEvents, lockEvents]
        split_ifs <;> simp
      have hafter : .sceVeneziaRpcCallGenericThunk thunkCmdId arg ∉
          replyEvents useCoreSuspend sv ++ [.sceKernelCopyToUser pUserArg (.kernel (s.at 268))
            bytes sv.sceKernelCopyToUser] := by
        rw [replyEvents]
        split_ifs <;> simp
      obtain ⟨hrequest, harg', hreply⟩ := (List.append_cons_inj_of_notMem hbefore hafter).mp hlog
      refine ⟨hrequest.symm, ?_, bytes, hreply.symm⟩
      injection harg'.symm

variable {ι : Type} {line : Word → ι} {mapped c : CachedMemory 32 ι} {user : Mem}

lemma keepsByte_lockEvents {x : Word} :
    ∀ e ∈ lockEvents useCoreSuspend sv w, e.KeepsByte line sv x := by
  rw [lockEvents]
  cases useCoreSuspend <;> simp [Event.KeepsByte, Event.kernelStore]

variable [DecidableEq ι]

/-- When the RPC is made, the header is settled, as it was before. -/
lemma request_header (hcons : Consistent w s) (hsize : userArgSize.toNat ≤ 500) {i : ℕ} {b : Byte}
    (hi : i < 12) (h : Settled line c (s.at (256 + i)) b) (ds : ℕ → List (Drift ι)) :
    Settled line (onLog line sv mapped ds
      (requestEvents pUserArg userArgSize useCoreSuspend sv w) c) (s.at (256 + i)) b := by
  refine settled_onLog_of_keeps h (List.forall_mem_cons.mpr ⟨?_, keepsByte_lockEvents⟩) ds
  rintro r ⟨⟩
  rw [hcons.commHeapVaddr_add]
  exact not_inRange_args_of_header (inRange_header hi) ((List.length_take_le _ _).trans hsize)

/-- So are the caller's bytes. -/
lemma request_args (hcons : Consistent w s)
    (hin : sv.sceKernelCopyFromUser.bytes = user.read pUserArg userArgSize.toNat) {i : ℕ}
    (hi : i < userArgSize.toNat) (ds : ℕ → List (Drift ι)) :
    Settled line (onLog line sv mapped ds
      (requestEvents pUserArg userArgSize useCoreSuspend sv w) c) (s.at (268 + i))
        (user (pUserArg + BitVec.ofNat 32 i)) := by
  have hbytes : sv.sceKernelCopyFromUser.bytes.take userArgSize.toNat =
      user.read pUserArg userArgSize.toNat := by
    rw [hin, List.take_of_length_le (by rw [read_length])]
  have hlen : i < (user.read pUserArg userArgSize.toNat).length := by
    rw [read_length]
    exact hi
  have hstore : (Event.sceKernelCopyFromUser (w.commHeapVaddr + 12) pUserArg userArgSize
      sv.sceKernelCopyFromUser).kernelStore =
        some (s.at 268, user.read pUserArg userArgSize.toNat) := by
    rw [Event.kernelStore, hcons.commHeapVaddr_add, hbytes]
  have hn : (user.read pUserArg userArgSize.toNat).length ≤ 2 ^ 32 := by
    rw [read_length]
    exact userArgSize.isLt.le
  have hsettled : Settled line (onLog line sv mapped ds
      ([] ++ _ :: lockEvents useCoreSuspend sv w) c) (s.at 268 + BitVec.ofNat 32 i)
        (user.read pUserArg userArgSize.toNat)[i] :=
    settled_onLog hstore hlen hn [] keepsByte_lockEvents ds
  rw [read_getElem, s.at_add] at hsettled
  exact hsettled

/-- And no line of the comm heap is dirty. -/
lemma request_clean (hcons : Consistent w s) {x : Word} (hx : InRange (s.at 256) commHeapSize x)
    (ds : ℕ → List (Drift ι)) :
    (onLog line sv mapped ds (requestEvents pUserArg userArgSize useCoreSuspend sv w) c).state
      (line x) ≠ .dirty := by
  obtain ⟨pre, hpre⟩ : ∃ pre, requestEvents pUserArg userArgSize useCoreSuspend sv w =
      pre ++ [.sceKernelDcacheCleanRange w.commHeapVaddr commHeapSize] := by
    cases useCoreSuspend with
    | false => exact ⟨[_, _], rfl⟩
    | true => exact ⟨[_, _, _], rfl⟩
  rw [← hcons.commHeapVaddr_eq] at hx
  rw [hpre]
  exact onLog_clean_state hx pre ds

/-- The bytes of the comm heap. -/
lemma inRange_commHeap {i : ℕ} (hi : i < 512) : InRange (s.at 256) commHeapSize (s.at (256 + i)) := by
  rw [s.inRange_at (by rw [commHeapSize]; omega), s.at_offset (by omega), commHeapSize]
  omega

/-- What is settled and not dirty lies in memory. -/
lemma request_ram (hcons : Consistent w s) (hsize : userArgSize.toNat ≤ 500)
    (hheader : ∀ i (hi : i < s.commParam.length),
      Settled line c (s.at (256 + i)) s.commParam[i])
    (hin : sv.sceKernelCopyFromUser.bytes = user.read pUserArg userArgSize.toNat)
    (ds : ℕ → List (Drift ι)) :
    (onLog line sv mapped ds (requestEvents pUserArg userArgSize useCoreSuspend sv w) c).ram.read
      (s.at 256) (12 + userArgSize.toNat) =
        s.commParam ++ user.read pUserArg userArgSize.toNat := by
  rw [read_add, s.at_add]
  congr 1
  · refine List.ext_getElem (by simp) fun i hi hi' => ?_
    rw [read_getElem, s.at_add]
    rw [s.commParam_length] at hi'
    refine (request_header hcons hsize hi' (hheader i _) ds).ram ?_
    exact request_clean hcons (inRange_commHeap (by omega)) ds
  · refine List.ext_getElem (by simp) fun i hi hi' => ?_
    rw [read_getElem, read_getElem, s.at_add]
    rw [read_length] at hi
    refine (request_args hcons hin hi ds).ram ?_
    have hx : InRange (s.at 256) commHeapSize (s.at (256 + (12 + i))) :=
      inRange_commHeap (by omega)
    rw [← Nat.add_assoc] at hx
    exact request_clean hcons hx ds

section Reply

variable (useCoreSuspend sv mapped)

/-- Behind the RPC the cache may go on, up to the copy out. -/
lemma onLog_reply (c : CachedMemory 32 ι) (ds : ℕ → List (Drift ι)) :
    ∃ ds', onLog line sv mapped ds (replyEvents useCoreSuspend sv) c = run (drift line) c ds' := by
  cases useCoreSuspend with
  | false => exact ⟨ds 0, rfl⟩
  | true => exact ⟨ds 0 ++ ds 1, (run_append c (ds 0) (ds 1)).symm⟩

lemma exists_onLog_reply (c : CachedMemory 32 ι) (ds' : List (Drift ι)) :
    ∃ ds, onLog line sv mapped ds (replyEvents useCoreSuspend sv) c = run (drift line) c ds' := by
  refine ⟨fun i => if i = 0 then ds' else [], ?_⟩
  cases useCoreSuspend <;> rfl

/-- What the copy out reads where the caller's byte was settled and memory now holds `m`. -/
lemma reply_byte {x : Word} {b : Byte} (h : Settled line c x b)
    (hclean : c.state (line x) ≠ .dirty) (m : Mem) :
    (∀ ds, (onLog line sv mapped ds (replyEvents useCoreSuspend sv) (device m c)).view line x =
        m x ∨
      (onLog line sv mapped ds (replyEvents useCoreSuspend sv) (device m c)).view line x = b) ∧
    ((∀ ds, (onLog line sv mapped ds (replyEvents useCoreSuspend sv) (device m c)).view line x =
        m x) ↔ (m x ≠ b → c.state (line x) = .absent)) := by
  have hheld : c.state (line x) ≠ .absent → c.data x = b := by
    intro habsent
    have hview := h.view
    rw [CachedMemory.view, if_neg habsent] at hview
    exact hview
  constructor
  · intro ds
    obtain ⟨ds', hds⟩ := onLog_reply useCoreSuspend sv mapped (device m c) ds
    have hbehind : Behind line (device m c) x (m x) b :=
      ⟨hclean, rfl, fun habsent => .inr (hheld habsent)⟩
    rw [hds]
    exact hbehind.view_drifts ds'
  · have hdrifts : (∀ ds, (onLog line sv mapped ds (replyEvents useCoreSuspend sv)
        (device m c)).view line x = m x) ↔
          ∀ ds', (run (drift line) (device m c) ds').view line x = m x := by
      constructor
      · intro hall ds'
        obtain ⟨ds, hds⟩ := exists_onLog_reply useCoreSuspend sv mapped (device m c) ds'
        rw [← hds]
        exact hall ds
      · intro hall ds
        obtain ⟨ds', hds⟩ := onLog_reply useCoreSuspend sv mapped (device m c) ds
        rw [hds]
        exact hall ds'
    have hcache : (∀ ds', (run (drift line) (device m c) ds').view line x = m x) ↔
        (c.state (line x) ≠ .absent → c.data x = m x) := view_drifts_iff
    rw [hdrifts, hcache]
    constructor
    · intro hdata hne
      by_contra habsent
      exact hne ((hdata habsent).symm.trans (hheld habsent))
    · intro habsent hline
      by_contra hne
      exact hline (habsent fun hb => hne ((hheld hline).trans hb.symm))

end Reply

end Exec

/-- An execution of a block of up to 500 bytes of the caller's memory that makes an RPC, with its
log cut at the RPC, oldest event first. -/
structure BlockExec (w : World) (user : Mem) where
  step : Step
  pUserArg : Word
  userArgSize : Word
  useCoreSuspend : Bool
  sv : Services
  isExec : step.IsExec pUserArg userArgSize useCoreSuspend sv
  pUserArg_ne : pUserArg ≠ 0
  size_le : userArgSize.toNat ≤ 500
  copied : sv.sceKernelCopyFromUser.bytes = user.read pUserArg userArgSize.toNat
  before : List Event
  thunkArg : SceVeneziaThunkArg
  after : List Event
  log : (newEvents w step).reverse =
    before ++ .sceVeneziaRpcCallGenericThunk thunkCmdId thunkArg :: after

section Runs

variable {ι : Type} [DecidableEq ι] (line : Word → ι)

/-- **The request reaches Venezia**: behind every run, whatever the cache held and did, the memory
that `_start` is told to open holds the header of the session and the caller's bytes when the RPC
is made. -/
theorem request_reaches_venezia (clock : Word) (mem : Mem) (c : CachedMemory 32 ι)
    (es : List (CacheStep ι))
    (hok : Admissible (Wired.step line) (Wired.Allowed line) (Wired.boot clock mem c) es)
    (s : Session) (hs : (run (Wired.step line) (Wired.boot clock mem c) es).session = some s)
    (user : Mem) (x : BlockExec (run (Wired.step line) (Wired.boot clock mem c) es).world user)
    (mapped : CachedMemory 32 ι) (ds : ℕ → List (Drift ι)) (physical : Mem) :
    (s.block.view (onLog line x.sv mapped ds x.before
        (run (Wired.step line) (Wired.boot clock mem c) es).cached).ram physical).read
          x.thunkArg.userArg4 (12 + x.userArgSize.toNat) =
      s.commParam ++ user.read x.pUserArg x.userArgSize.toNat := by
  obtain ⟨href, hheader⟩ := headerSettled_run hok
  have hcons : Consistent _ s := href.consistent hs
  obtain ⟨hbefore, harg, -⟩ := exec_events x.isExec hcons x.pUserArg_ne x.log
  have hpaddr : x.thunkArg.userArg4 = vramBase + BitVec.ofNat 32 256 := by
    rw [harg]
    exact hcons.commHeapPaddr
  have hsize := x.size_le
  rw [hpaddr, Session.read_block (by omega), hbefore]
  exact request_ram hcons hsize (hheader s hs) x.copied ds

/-- **The reply comes through the cache**, which is not invalidated before the copy out. Behind
every run each byte that the caller gets back is the one the program left or the caller's own.
All are the program's, whatever the cache does on its own, exactly if no line with a byte that
the program changed is held when the RPC is made. -/
theorem reply_through_cache (clock : Word) (mem : Mem) (c : CachedMemory 32 ι)
    (es : List (CacheStep ι))
    (hok : Admissible (Wired.step line) (Wired.Allowed line) (Wired.boot clock mem c) es)
    (s : Session) (hs : (run (Wired.step line) (Wired.boot clock mem c) es).session = some s)
    (user : Mem) (x : BlockExec (run (Wired.step line) (Wired.boot clock mem c) es).world user)
    (mapped : CachedMemory 32 ι) (ds : ℕ → List (Drift ι)) :
    ∃ mid src bytes,
      x.after = mid ++
        [.sceKernelCopyToUser x.pUserArg (.kernel src) bytes x.sv.sceKernelCopyToUser] ∧
      let atRpc := onLog line x.sv mapped ds x.before
        (run (Wired.step line) (Wired.boot clock mem c) es).cached
      let left := (x.sv.sceVeneziaRpcCallGenericThunk x.thunkArg atRpc.ram).2
      let got := fun ds' i => (onLog line x.sv mapped ds' mid (device left atRpc)).view line
        (src + BitVec.ofNat 32 i)
      (∀ ds', ∀ i < x.userArgSize.toNat, got ds' i = left (src + BitVec.ofNat 32 i) ∨
        got ds' i = user (x.pUserArg + BitVec.ofNat 32 i)) ∧
      ((∀ ds', ∀ i < x.userArgSize.toNat, got ds' i = left (src + BitVec.ofNat 32 i)) ↔
        ∀ i < x.userArgSize.toNat,
          left (src + BitVec.ofNat 32 i) ≠ user (x.pUserArg + BitVec.ofNat 32 i) →
            atRpc.state (line (src + BitVec.ofNat 32 i)) = .absent) := by
  obtain ⟨href, -⟩ := headerSettled_run hok
  have hcons : Consistent _ s := href.consistent hs
  obtain ⟨hbefore, -, bytes, hafter⟩ := exec_events x.isExec hcons x.pUserArg_ne x.log
  refine ⟨replyEvents x.useCoreSuspend x.sv, s.at 268, bytes, hafter, ?_⟩
  intro atRpc left got
  have hbyte : ∀ i < x.userArgSize.toNat,
      (∀ ds', got ds' i = left (s.at 268 + BitVec.ofNat 32 i) ∨
        got ds' i = user (x.pUserArg + BitVec.ofNat 32 i)) ∧
      ((∀ ds', got ds' i = left (s.at 268 + BitVec.ofNat 32 i)) ↔
        (left (s.at 268 + BitVec.ofNat 32 i) ≠ user (x.pUserArg + BitVec.ofNat 32 i) →
          atRpc.state (line (s.at 268 + BitVec.ofNat 32 i)) = .absent)) := by
    intro i hi
    have hsize := x.size_le
    have hx : InRange (s.at 256) commHeapSize (s.at (256 + (12 + i))) :=
      inRange_commHeap (by omega)
    rw [← Nat.add_assoc] at hx
    rw [s.at_add]
    have hsettled : Settled line atRpc (s.at (268 + i)) (user (x.pUserArg + BitVec.ofNat 32 i)) := by
      change Settled line (onLog line x.sv mapped ds x.before _) _ _
      rw [hbefore]
      exact request_args hcons x.copied hi ds
    have hclean : atRpc.state (line (s.at (268 + i))) ≠ .dirty := by
      change (onLog line x.sv mapped ds x.before _).state _ ≠ _
      rw [hbefore]
      exact request_clean hcons hx ds
    have hreply := reply_byte x.useCoreSuspend x.sv mapped hsettled hclean left
    rw [← s.at_add] at hreply ⊢
    exact hreply
  constructor
  · exact fun ds' i hi => (hbyte i hi).1 ds'
  · constructor
    · exact fun hall i hi => (hbyte i hi).2.mp fun ds' => hall ds' i hi
    · exact fun hall ds' i hi => (hbyte i hi).2.mpr (hall i hi) ds'

end Runs

/-- Lines of 32 bytes. -/
def sampleLine (x : Word) : ℕ := x.toNat / 32

/-- Memory behind an empty cache. -/
def sampleCached : CachedMemory 32 ℕ := ⟨fun _ => 0, fun _ => 0, fun _ => .absent⟩

/-- The injection of the small image, with a cache that does nothing on its own. -/
def cachedInject : CacheStep ℕ := ⟨acceptedInject, fun _ => [], sampleCached⟩

/-- The plugin behind it. -/
def sampleWired : Wired ℕ :=
  run (Wired.step sampleLine) (Wired.boot 166 (fun _ => 0) sampleCached) [cachedInject]

lemma admissible_cachedInject : Admissible (Wired.step sampleLine) (Wired.Allowed sampleLine)
    (Wired.boot 166 (fun _ => 0) sampleCached) [cachedInject] :=
  ⟨⟨trivial, fun _ _ _ _ _ h => by cases h⟩, trivial⟩

lemma sampleBlock_ne : (0x81100000 : Word) ≠ 0 := by decide

lemma sampleSize_le : (4 : Word).toNat ≤ 500 := by decide

lemma copied_sampleAnswers :
    sampleAnswers.sceKernelCopyFromUser.bytes = sampleUser.read 0x81100000 (4 : Word).toNat := by
  decide

lemma newEvents_sampleExec :
    (newEvents sampleWired.world
        (.call samplePid (.vnzBridgeExec 0x81100000 4) sampleAnswers)).reverse =
      requestEvents 0x81100000 4 true sampleAnswers sampleWired.world ++
        .sceVeneziaRpcCallGenericThunk thunkCmdId
          (execThunkArg 0x81100000 4 sampleAnswers sampleWired.world) ::
        [.sceVeneziaUnlockProcessSuspend 0,
          .sceKernelCopyToUser 0x81100000 (.kernel (sampleSession.at 268)) [0, 1, 2, 3] 0] := by
  decide

/-- An execution of four bytes behind it. -/
def sampleExec : BlockExec sampleWired.world sampleUser where
  step := .call samplePid (.vnzBridgeExec 0x81100000 4) sampleAnswers
  pUserArg := 0x81100000
  userArgSize := 4
  useCoreSuspend := true
  sv := sampleAnswers
  isExec := .exec samplePid
  pUserArg_ne := sampleBlock_ne
  size_le := sampleSize_le
  copied := copied_sampleAnswers
  before := requestEvents 0x81100000 4 true sampleAnswers sampleWired.world
  thunkArg := execThunkArg 0x81100000 4 sampleAnswers sampleWired.world
  after := [.sceVeneziaUnlockProcessSuspend 0,
    .sceKernelCopyToUser 0x81100000 (.kernel (sampleSession.at 268)) [0, 1, 2, 3] 0]
  log := newEvents_sampleExec

theorem request_reaches_venezia_sampleExec :
    (sampleSession.block.view (onLog sampleLine sampleAnswers sampleCached (fun _ => [])
        sampleExec.before sampleWired.cached).ram fun _ => 0).read
          sampleExec.thunkArg.userArg4 (12 + 4) =
      sampleSession.commParam ++ sampleUser.read 0x81100000 4 :=
  request_reaches_venezia sampleLine 166 (fun _ => 0) sampleCached [cachedInject]
    admissible_cachedInject sampleSession (by decide) sampleUser sampleExec sampleCached
    (fun _ => []) fun _ => 0

theorem reply_through_cache_sampleExec :
    ∃ mid src bytes,
      sampleExec.after = mid ++ [.sceKernelCopyToUser 0x81100000 (.kernel src) bytes 0] ∧
      let atRpc := onLog sampleLine sampleAnswers sampleCached (fun _ => []) sampleExec.before
        sampleWired.cached
      let left := (sampleAnswers.sceVeneziaRpcCallGenericThunk sampleExec.thunkArg atRpc.ram).2
      let got := fun ds' i => (onLog sampleLine sampleAnswers sampleCached ds' mid
        (device left atRpc)).view sampleLine (src + BitVec.ofNat 32 i)
      (∀ ds', ∀ i < 4, got ds' i = left (src + BitVec.ofNat 32 i) ∨
        got ds' i = sampleUser (0x81100000 + BitVec.ofNat 32 i)) ∧
      ((∀ ds', ∀ i < 4, got ds' i = left (src + BitVec.ofNat 32 i)) ↔
        ∀ i < 4, left (src + BitVec.ofNat 32 i) ≠ sampleUser (0x81100000 + BitVec.ofNat 32 i) →
          atRpc.state (sampleLine (src + BitVec.ofNat 32 i)) = .absent) :=
  reply_through_cache sampleLine 166 (fun _ => 0) sampleCached [cachedInject]
    admissible_cachedInject sampleSession (by decide) sampleUser sampleExec sampleCached
    fun _ => []

end VVNZRunner
