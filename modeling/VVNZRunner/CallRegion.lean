import VVNZRunner.Crt0
import VVNZRunner.Session

/-!
What an execution tells Venezia to open.

* `mainPointer`: the argument pointer that `_start` hands to `main`. The ARM side decides by
  `pUserArg` whether there are arguments, `_start` by `userArgSize`.
* `CallRegionOk`: the region stays inside the comm heap, the pointer is never stale, and a size
  above 500 is refused.
* `ArgumentsAgree`: the condition on a call, both sides decide the same.
* `call_region_iff`: a call in an open session is right exactly if it meets the condition.
-/

namespace VVNZRunner

open ByteMemory Machine

/-! ### The pointer of `main` -/

section Pointer

variable {vnzMemoryOpenPublic : VnzMemory → Word} {arg : SceVeneziaThunkArg}

/-- The argument pointer `_start` hands to `main`, which it calls once the view is open. -/
def mainPointer (vnzMemoryOpenPublic : VnzMemory → Word) (arg : SceVeneziaThunkArg) :
    Option Word :=
  if vnzMemoryOpenPublic (argMem arg) = 0 then none
  else
    some (if arg.userArg3 ≠ 0 then
      vnzMemoryOpenPublic (argMem arg) + BitVec.ofNat 32 vnzSizeofCommParam else 0)

/-- `_start` calls `main` with that pointer, or not at all. -/
lemma start_eq (main : VeneziaMain) (z : Venezia) :
    start vnzMemoryOpenPublic main arg z =
      match mainPointer vnzMemoryOpenPublic arg with
      | none => (sceErrorErrnoEINVAL, z)
      | some pUserArg =>
          let r := main.call arg.pVThreadProcessingResource pUserArg arg.userArg3
            (entered vnzMemoryOpenPublic arg z)
          (r.1, r.2.closePublic) := by
  rw [start, mainPointer]
  by_cases hopen : vnzMemoryOpenPublic (argMem arg) = 0
  · rw [if_pos hopen]
    dsimp only
    rw [if_pos hopen]
  · rw [if_neg hopen]
    dsimp only
    rw [if_neg hopen]
    rfl

end Pointer

/-! ### One execution -/

variable {pUserArg n : Word} {useCoreSuspend : Bool} {sv : Services} {w w' : World}

/-- Between `w` and `w'` the user block is copied behind the header, all of it. -/
def CopiesIn (pUserArg n : Word) (w w' : World) : Prop :=
  ∃ log reply, w'.trace = log ++ w.trace ∧
    .sceKernelCopyFromUser (w.commHeapVaddr + 12) pUserArg n reply ∈ log ∧
    0 ≤ reply.ret.toInt ∧ n.toNat ≤ reply.bytes.length

/-- What the execution passes to Venezia is right. -/
structure CallRegionOk (pUserArg n : Word) (useCoreSuspend : Bool) (sv : Services)
    (w : World) : Prop where
  /-- The size of the region does not wrap, and the region lies inside the comm heap. -/
  region : ∀ arg, (execStart pUserArg n useCoreSuspend sv w).1 = .ok arg →
    (argMem arg).size.toNat = sizeofCommParam + n.toNat ∧
      ∀ x, InRange (argMem arg).paddr (argMem arg).size.toNat x →
        InRange w.commHeapPaddr commHeapSize x
  /-- Whatever is opened, `main` gets a pointer only to a block that this call copied in. -/
  fresh : ∀ arg vnzMemoryOpenPublic pArg,
    (execStart pUserArg n useCoreSuspend sv w).1 = .ok arg →
      mainPointer vnzMemoryOpenPublic arg = some pArg → pArg ≠ 0 →
        CopiesIn pUserArg n w (execStart pUserArg n useCoreSuspend sv w).2
  tooBig : 500 < n.toNat →
    vnzBridgeExecCore pUserArg n useCoreSuspend sv w = (sceErrorErrnoE2BIG, w)

/-- The copy of the user block succeeds. -/
def CopySucceeds (n : Word) (sv : Services) : Prop :=
  0 ≤ sv.sceKernelCopyFromUser.ret.toInt ∧ n.toNat ≤ sv.sceKernelCopyFromUser.bytes.length

/-- Both sides agree on whether there are arguments: without a block the size is zero, or at
least not too big with the call failing at the lock; a block that is not refused is copied in. -/
def ArgumentsAgree (pUserArg n : Word) (useCoreSuspend : Bool) (sv : Services) : Prop :=
  n = 0 ∨
    if pUserArg = 0 then n.toNat ≤ 500 ∧ LockFails useCoreSuspend sv
    else 500 < n.toNat ∨ LockFails useCoreSuspend sv ∨ CopySucceeds n sv

/-- The events of a call that reaches the RPC, newest first. -/
lemma afterCall_trace (pUserArg n : Word) (useCoreSuspend : Bool) (sv : Services) (w : World) :
    (afterCall pUserArg n useCoreSuspend sv w).trace =
    [.sceVeneziaRpcCallGenericThunk thunkCmdId (execThunkArg pUserArg n sv w),
        .sceKernelDcacheCleanRange w.commHeapVaddr commHeapSize,
        .sceVeneziaGetVThreadProcessingResource 0 sv.sceVeneziaGetVThreadProcessingResource] ++
      (if useCoreSuspend then
        [.sceVeneziaLockProcessSuspend sv.sceVeneziaLockProcessSuspend] else []) ++
      (if pUserArg ≠ 0 then
        [.sceKernelCopyFromUser (w.commHeapVaddr + 12) pUserArg n sv.sceKernelCopyFromUser]
        else []) ++ w.trace := by
  rw [afterCall, afterRequest, afterLock, afterCopyIn]
  split_ifs <;> rfl

/-- A call that reaches the RPC copies its block in exactly if it has one and the copy
succeeds. -/
lemma copiesIn_afterCall : CopiesIn pUserArg n w (afterCall pUserArg n useCoreSuspend sv w) ↔
    pUserArg ≠ 0 ∧ CopySucceeds n sv := by
  have htrace := afterCall_trace pUserArg n useCoreSuspend sv w
  constructor
  · rintro ⟨log, reply, hlog, hmem, hret, hlen⟩
    rw [htrace, List.append_cancel_right_eq] at hlog
    rw [← hlog] at hmem
    by_cases harg : pUserArg = 0
    · rw [if_neg (not_not.mpr harg)] at hmem
      cases useCoreSuspend <;> simp at hmem
    · rw [if_pos harg] at hmem
      have hreply : reply = sv.sceKernelCopyFromUser := by
        cases useCoreSuspend <;> simpa using hmem
      rw [hreply] at hret hlen
      exact ⟨harg, hret, hlen⟩
  · rintro ⟨harg, hret, hlen⟩
    refine ⟨_, sv.sceKernelCopyFromUser, htrace, ?_, hret, hlen⟩
    rw [if_pos harg]
    simp

/-- A call that reaches the RPC, with what it has passed on the way. -/
lemma execStart_eq_ok {arg : SceVeneziaThunkArg}
    (h : (execStart pUserArg n useCoreSuspend sv w).1 = .ok arg) :
    (pUserArg ≠ 0 → n.toNat ≤ 500) ∧ ¬ LockFails useCoreSuspend sv ∧
      arg = execThunkArg pUserArg n sv w ∧
      (execStart pUserArg n useCoreSuspend sv w).2 = afterCall pUserArg n useCoreSuspend sv w := by
  have hout := start_outcome pUserArg n useCoreSuspend sv w
  generalize execStart pUserArg n useCoreSuspend sv w = r at hout h ⊢
  cases hout with
  | notRegistered hfree => cases h
  | tooBig hreg harg hsize => cases h
  | lockFailed hreg hsize hlock => cases h
  | blocked hreg hsize hlock =>
      cases h
      exact ⟨hsize, hlock, rfl, rfl⟩

/-- A call in an open session that is not refused reaches the RPC. -/
lemma execStart_of_ok (hreg : w.Registered) (hsize : pUserArg ≠ 0 → n.toNat ≤ 500)
    (hlock : ¬ LockFails useCoreSuspend sv) :
    execStart pUserArg n useCoreSuspend sv w =
      (.ok (execThunkArg pUserArg n sv w), afterCall pUserArg n useCoreSuspend sv w) := by
  have hout := start_outcome pUserArg n useCoreSuspend sv w
  generalize execStart pUserArg n useCoreSuspend sv w = r at hout ⊢
  cases hout with
  | notRegistered hfree => exact absurd hreg hfree
  | tooBig hreg harg hbig => exact absurd (hsize harg) (by omega)
  | lockFailed hreg hsize hfails => exact absurd hfails hlock
  | blocked hreg hsize hlock => rfl

/-- The region of a size up to 500 lies inside the comm heap. -/
lemma region_inside (hn : n.toNat ≤ 500) :
    (argMem (execThunkArg pUserArg n sv w)).size.toNat = sizeofCommParam + n.toNat ∧
      ∀ x, InRange (argMem (execThunkArg pUserArg n sv w)).paddr
          (argMem (execThunkArg pUserArg n sv w)).size.toNat x →
        InRange w.commHeapPaddr commHeapSize x := by
  have hsize : (argMem (execThunkArg pUserArg n sv w)).size.toNat =
      sizeofCommParam + n.toNat := argMem_size (by change n.toNat + 12 < 2 ^ 32; omega)
  refine ⟨hsize, fun x hx => ?_⟩
  rw [hsize, sizeofCommParam, InRange] at hx
  rw [commHeapSize, InRange]
  change (x - w.commHeapPaddr).toNat < 12 + n.toNat at hx
  omega

/-- With a size that is not zero, `main` gets a pointer behind the header. -/
lemma mainPointer_execThunkArg (hn : n ≠ 0) :
    mainPointer (fun _ => 0x60000000) (execThunkArg pUserArg n sv w) = some 0x6000000C := by
  rw [mainPointer, if_neg (by decide)]
  exact congrArg some (if_pos hn)

/-- With a size of zero it gets `NULL`. -/
lemma mainPointer_of_zero {vnzMemoryOpenPublic : VnzMemory → Word} {pArg : Word}
    (h : mainPointer vnzMemoryOpenPublic (execThunkArg pUserArg 0 sv w) = some pArg) :
    pArg = 0 := by
  rw [mainPointer] at h
  split_ifs at h with hopen hne
  · exact absurd rfl hne
  · exact (Option.some.inj h).symm

/-- A call that asks for the suspend lock or reaches the RPC leaves something in the log. -/
lemma exec_trace_ne (useCoreSuspend : Bool) (sv : Services) (hreg : w.Registered)
    (hsize : pUserArg ≠ 0 → n.toNat ≤ 500) :
    (vnzBridgeExecCore pUserArg n useCoreSuspend sv w).2.trace.length ≠ w.trace.length := by
  have hin := (frame_afterCopyIn sv w pUserArg n).logs.length_le
  have hout := exec_outcome pUserArg n useCoreSuspend sv w
  generalize vnzBridgeExecCore pUserArg n useCoreSuspend sv w = r at hout ⊢
  cases hout with
  | notRegistered hfree => exact absurd hreg hfree
  | tooBig hreg harg hbig => exact absurd (hsize harg) (by omega)
  | lockFailed hreg hsize hlock =>
      rw [afterLock, if_pos hlock.1, World.emit_trace, List.length_cons]
      omega
  | ran hreg hsize hlock =>
      have hrequest := (passive_afterRequest sv w pUserArg n useCoreSuspend).logs.length_le
      have hrpc : (afterRpc pUserArg n useCoreSuspend sv w).2.trace.length =
          (afterRequest pUserArg n useCoreSuspend sv w).trace.length + 1 := rfl
      have hexec := (passive_afterExec sv w pUserArg n useCoreSuspend).logs.length_le
      dsimp only
      omega

/-- A big block is refused, a big size without one is not. -/
lemma refused_iff (hreg : w.Registered) (hbig : 500 < n.toNat) :
    vnzBridgeExecCore pUserArg n useCoreSuspend sv w = (sceErrorErrnoE2BIG, w) ↔
      pUserArg ≠ 0 := by
  constructor
  · rintro h rfl
    have hne : (vnzBridgeExecCore 0 n useCoreSuspend sv w).2.trace.length ≠ w.trace.length :=
      exec_trace_ne useCoreSuspend sv hreg fun harg => absurd rfl harg
    rw [h] at hne
    exact hne rfl
  · intro harg
    have hout := exec_outcome pUserArg n useCoreSuspend sv w
    generalize vnzBridgeExecCore pUserArg n useCoreSuspend sv w = r at hout ⊢
    cases hout with
    | notRegistered hfree => exact absurd hreg hfree
    | tooBig hreg harg hsize => rfl
    | lockFailed hreg hsize hlock => exact absurd (hsize harg) (by omega)
    | ran hreg hsize hlock => exact absurd (hsize harg) (by omega)

/-- A call with a size of zero is right. -/
lemma callRegionOk_zero (pUserArg : Word) (useCoreSuspend : Bool) (sv : Services) (w : World) :
    CallRegionOk pUserArg 0 useCoreSuspend sv w := by
  refine ⟨fun arg harg => ?_, fun arg vnzMemoryOpenPublic pArg harg hp hne => ?_,
    fun hbig => absurd hbig (by decide)⟩
  · obtain ⟨-, -, rfl, -⟩ := execStart_eq_ok harg
    exact region_inside (by decide)
  · obtain ⟨-, -, rfl, -⟩ := execStart_eq_ok harg
    exact absurd (mainPointer_of_zero hp) hne

/-- A right call that reaches the RPC with a size has copied its block in. -/
lemma CallRegionOk.copies (h : CallRegionOk pUserArg n useCoreSuspend sv w) (hreg : w.Registered)
    (hzero : n ≠ 0) (hsize : pUserArg ≠ 0 → n.toNat ≤ 500) (hlock : ¬ LockFails useCoreSuspend sv) :
    pUserArg ≠ 0 ∧ CopySucceeds n sv := by
  have hok := execStart_of_ok hreg hsize hlock
  have hfresh := h.fresh _ _ _ (congrArg Prod.fst hok) (mainPointer_execThunkArg hzero) (by decide)
  rw [hok] at hfresh
  exact copiesIn_afterCall.mp hfresh

/-- A call without a block but with a size is right exactly if it fails at the lock. -/
lemma callRegionOk_null_iff (hreg : w.Registered) (hzero : n ≠ 0) :
    CallRegionOk 0 n useCoreSuspend sv w ↔ n.toNat ≤ 500 ∧ LockFails useCoreSuspend sv := by
  constructor
  · intro h
    refine ⟨?_, ?_⟩
    · by_contra hbig
      exact (refused_iff hreg (by omega)).mp (h.tooBig (by omega)) rfl
    · by_contra hlock
      exact (h.copies hreg hzero (fun hne => absurd rfl hne) hlock).1 rfl
  · rintro ⟨hn, hlock⟩
    refine ⟨fun arg hok => ?_, fun arg vnzMemoryOpenPublic pArg hok hp hne => ?_,
      fun hbig => absurd hn (by omega)⟩
    · exact absurd hlock (execStart_eq_ok hok).2.1
    · exact absurd hlock (execStart_eq_ok hok).2.1

/-- A call with a block and a size is right exactly if it is refused, fails at the lock or copies
its block in. -/
lemma callRegionOk_block_iff (hreg : w.Registered) (hzero : n ≠ 0) (harg : pUserArg ≠ 0) :
    CallRegionOk pUserArg n useCoreSuspend sv w ↔
      500 < n.toNat ∨ LockFails useCoreSuspend sv ∨ CopySucceeds n sv := by
  constructor
  · intro h
    by_contra hno
    simp only [not_or, not_lt] at hno
    exact hno.2.2 (h.copies hreg hzero (fun _ => hno.1) hno.2.1).2
  · intro hcond
    refine ⟨fun arg hok => ?_, fun arg vnzMemoryOpenPublic pArg hok hp hne => ?_,
      fun hbig => (refused_iff hreg hbig).mpr harg⟩
    · obtain ⟨hsize, -, rfl, -⟩ := execStart_eq_ok hok
      exact region_inside (hsize harg)
    · obtain ⟨hsize, hlock, -, hstate⟩ := execStart_eq_ok hok
      have hn := hsize harg
      have hcopy : CopySucceeds n sv := by
        rcases hcond with hbig | hfails | hcopy
        · omega
        · exact absurd hfails hlock
        · exact hcopy
      rw [hstate]
      exact copiesIn_afterCall.mpr ⟨harg, hcopy⟩

/-- **What an execution tells Venezia to open is right exactly if** both sides agree on whether
there are arguments, for every open session, every pointer and every 32-bit size. -/
theorem call_region_iff (pUserArg n : Word) (useCoreSuspend : Bool) (sv : Services)
    (hreg : w.Registered) :
    CallRegionOk pUserArg n useCoreSuspend sv w ↔
      ArgumentsAgree pUserArg n useCoreSuspend sv := by
  by_cases hzero : n = 0
  · rw [hzero]
    exact iff_of_true (callRegionOk_zero pUserArg useCoreSuspend sv w) (.inl rfl)
  · rw [ArgumentsAgree, or_iff_right hzero]
    by_cases harg : pUserArg = 0
    · rw [harg, if_pos rfl]
      exact callRegionOk_null_iff hreg hzero
    · rw [if_neg harg]
      exact callRegionOk_block_iff hreg hzero harg

/-- An execution without a block but with a size of 4096 reaches Venezia, and tells it to open
more than the comm heap. -/
theorem null_with_size_accepted :
    (run step (boot 166 fun _ => 0) [acceptedInject]).Registered ∧
      (execStart 0 0x1000 true {} (run step (boot 166 fun _ => 0) [acceptedInject])).1 =
        .ok ⟨0, 0, 0x1000, 0x20000100⟩ ∧
      ¬ CallRegionOk 0 0x1000 true {} (run step (boot 166 fun _ => 0) [acceptedInject]) := by
  have hreg : (run step (boot 166 fun _ => 0) [acceptedInject]).Registered := by decide
  refine ⟨hreg, by decide, fun h => ?_⟩
  exact (refused_iff hreg (by decide)).mp (h.tooBig (by decide)) rfl

/-- An execution with a block of four bytes that are copied in. -/
theorem call_region_iff_block :
    CallRegionOk 0x81100000 4 true { sceKernelCopyFromUser := { bytes := [0, 1, 2, 3] } }
        (run step (boot 166 fun _ => 0) [acceptedInject]) ↔
      ArgumentsAgree 0x81100000 4 true
        { sceKernelCopyFromUser := { bytes := [0, 1, 2, 3] } } :=
  call_region_iff 0x81100000 4 true { sceKernelCopyFromUser := { bytes := [0, 1, 2, 3] } }
    (by decide)

end VVNZRunner
