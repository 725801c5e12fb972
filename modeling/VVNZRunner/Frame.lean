import VVNZRunner.Outcomes

/-!
What calls leave alone.

* `Event.kernelStore`: the bytes an event stores through a kernel pointer.
* `Logs`: which events are logged on the way. `Logs.observe`: what reads the log and skips
  them sees no difference.
* `Frame`: nothing but memory and quiet events differs. `quiet_frame` has one case per exported
  function outside the session.
* `Passive`: nothing but events without an effect on the plugin differs; `passive_call` covers
  the quiet calls other than the executions and the writes to SPRAM.
* `ClockOnly`, `KeepsStatics`, `LeavesMemory`: what the process events and the other calls
  leave alone. `memory_cases`: the steps that change memory.
-/

namespace VVNZRunner

open ByteMemory

/-! ### Events -/

/-- The kernel address and the bytes an event stores there. -/
def Event.kernelStore : Event → Option (Word × List Byte)
  | .store addr bytes => some (addr, bytes)
  | .sceKernelCopyFromUser dst _ size reply => some (dst, reply.bytes.take size.toNat)
  | _ => none

/-- The event neither maps, unmaps or references memory nor stores the clock. -/
def Event.Quiet : Event → Prop
  | .sceKernelUserMap .. => False
  | .sceKernelUserUnmap .. => False
  | .sceAvcodecMapMemoryToVenezia .. => False
  | .sceKernelMemRangeReleaseWithPerm .. => False
  | .storeExecClockFrequency .. => False
  | _ => True

/-- The event is quiet and stores nothing. -/
def Event.Passive : Event → Prop
  | .store .. => False
  | .sceKernelCopyFromUser .. => False
  | e => e.Quiet

lemma Event.Passive.quiet {e : Event} (h : e.Passive) : e.Quiet := by
  cases e <;> first | exact h | exact h.elim

lemma Event.Passive.kernelStore {e : Event} (h : e.Passive) : e.kernelStore = none := by
  cases e <;> first | rfl | exact h.elim

/-! ### Frames -/

/-- Between `w` and `w'` only events with `P` are logged. -/
def Logs (P : Event → Prop) (w w' : World) : Prop :=
  ∃ es, w'.trace = es ++ w.trace ∧ ∀ e ∈ es, P e

namespace Logs

variable {P Q : Event → Prop} {u v w w' : World}

lemma refl (w : World) : Logs P w w := ⟨[], rfl, by simp⟩

lemma trans (h : Logs P u v) (h' : Logs P v w) : Logs P u w := by
  obtain ⟨es, hes, hp⟩ := h
  obtain ⟨fs, hfs, hp'⟩ := h'
  refine ⟨fs ++ es, by rw [hfs, hes, List.append_assoc], ?_⟩
  intro e he
  rcases List.mem_append.mp he with he | he
  · exact hp' e he
  · exact hp e he

lemma single {e : Event} (he : P e) (ht : w'.trace = e :: w.trace) : Logs P w w' :=
  ⟨[e], ht, by simpa using he⟩

lemma mono (hPQ : ∀ e, P e → Q e) (h : Logs P w w') : Logs Q w w' := by
  obtain ⟨es, hes, hp⟩ := h
  exact ⟨es, hes, fun e he => hPQ e (hp e he)⟩

/-- Nothing is taken off the log. -/
lemma length_le (h : Logs P w w') : w.trace.length ≤ w'.trace.length := by
  obtain ⟨es, hes, -⟩ := h
  rw [hes, List.length_append]
  exact Nat.le_add_left _ _

/-- An observer of the log that skips the events with `P` sees no difference. -/
lemma observe {α : Type*} {f : List Event → α} (h : Logs P w w')
    (hf : ∀ e t, P e → f (e :: t) = f t) : f w'.trace = f w.trace := by
  obtain ⟨es, hes, hp⟩ := h
  rw [hes]
  clear hes
  induction es with
  | nil => rfl
  | cons e es ih =>
      rw [List.cons_append, hf e _ (hp e (by simp))]
      exact ih fun e' he' => hp e' (by simp [he'])

end Logs

/-- `w'` differs from `w` in memory and in quiet events only. -/
structure Frame (w w' : World) : Prop where
  statics : w'.toStatics = w.toStatics
  target : w'.targetExecClockFrequency = w.targetExecClockFrequency
  clock : w'.vnzExecClockFrequency = w.vnzExecClockFrequency
  logs : Logs Event.Quiet w w'

/-- `w'` differs from `w` in passive events only. -/
structure Passive (w w' : World) : Prop where
  eq : w' = { w with trace := w'.trace }
  logs : Logs Event.Passive w w'

namespace Frame

lemma refl (w : World) : Frame w w := ⟨rfl, rfl, rfl, .refl w⟩

lemma trans {u v w : World} (h : Frame u v) (h' : Frame v w) : Frame u w :=
  ⟨h'.statics.trans h.statics, h'.target.trans h.target, h'.clock.trans h.clock,
    h.logs.trans h'.logs⟩

/-- A quiet event, which may come with a change of memory. -/
lemma emit {e : Event} (he : e.Quiet) (w : World) (m : Mem) :
    Frame w { w.emit e with mem := m } :=
  ⟨rfl, rfl, rfl, .single he rfl⟩

end Frame

namespace Passive

lemma refl (w : World) : Passive w w := ⟨rfl, .refl w⟩

lemma trans {u v w : World} (h : Passive u v) (h' : Passive v w) : Passive u w := by
  refine ⟨?_, h.logs.trans h'.logs⟩
  rw [h'.eq, h.eq]

lemma emit {e : Event} (he : e.Passive) (w : World) : Passive w (w.emit e) :=
  ⟨rfl, .single he rfl⟩

lemma mem {w w' : World} (h : Passive w w') : w'.mem = w.mem := by
  rw [h.eq]

lemma frame {w w' : World} (h : Passive w w') : Frame w w' := by
  have hlogs := h.logs.mono fun _ he => he.quiet
  refine ⟨?_, ?_, ?_, hlogs⟩ <;> rw [h.eq]

end Passive

/-! ### The exported functions -/

/-- The quiet calls that store nothing and do not run Venezia. -/
def Call.Passive : Call → Prop
  | .vnzBridgeExec .. => False
  | .vnzBridgeExecNoSuspend .. => False
  | .vnzBridgeMemcpyToSpram .. => False
  | c => c.Quiet

/-- A quiet call is passive, an execution or a write to SPRAM. -/
lemma Call.Quiet.passive_or {c : Call} (h : c.Quiet) :
    c.Passive ∨ (∃ pUserArg userArgSize, c = .vnzBridgeExec pUserArg userArgSize) ∨
      (∃ pUserArg userArgSize, c = .vnzBridgeExecNoSuspend pUserArg userArgSize) ∨
      ∃ src size off, c = .vnzBridgeMemcpyToSpram src size off := by
  cases c with
  | vnzBridgeExec pUserArg userArgSize => exact .inr (.inl ⟨_, _, rfl⟩)
  | vnzBridgeExecNoSuspend pUserArg userArgSize => exact .inr (.inr (.inl ⟨_, _, rfl⟩))
  | vnzBridgeMemcpyToSpram src size off => exact .inr (.inr (.inr ⟨_, _, _, rfl⟩))
  | _ => exact .inl h

section Calls

variable (sv : Services) (w : World)

lemma passive_afterLock (useCoreSuspend : Bool) : Passive w (afterLock useCoreSuspend sv w) := by
  rw [afterLock]
  split_ifs
  · exact .emit (by trivial) w
  · exact .refl w

lemma passive_execReply (useCoreSuspend : Bool) : Passive w (execReply useCoreSuspend sv w) := by
  rw [execReply]
  split_ifs
  · exact .emit (by trivial) w
  · exact .refl w

lemma passive_execCopyOut (pUserArg userArgSize : Word) :
    Passive w (execCopyOut pUserArg userArgSize sv w) := by
  rw [execCopyOut]
  split_ifs
  · exact .emit (by trivial) w
  · exact .refl w

/-- Behind the copy in, everything up to the RPC is passive. -/
lemma passive_afterRequest (pUserArg userArgSize : Word) (useCoreSuspend : Bool) :
    Passive (afterCopyIn pUserArg userArgSize sv w)
      (afterRequest pUserArg userArgSize useCoreSuspend sv w) :=
  ((passive_afterLock sv _ useCoreSuspend).trans (.emit (by trivial) _)).trans
    (.emit (by trivial) _)

/-- Behind the RPC, everything is passive. -/
lemma passive_afterExec (pUserArg userArgSize : Word) (useCoreSuspend : Bool) :
    Passive (afterRpc pUserArg userArgSize useCoreSuspend sv w).2
      (afterExec pUserArg userArgSize useCoreSuspend sv w) :=
  (passive_execReply sv _ useCoreSuspend).trans (passive_execCopyOut sv _ _ _)

/-- The request of a call that gets the suspend lock, from any state. -/
lemma passive_execRequest (userArg2 userArgSize : Word) (useCoreSuspend : Bool)
    (hlock : ¬ (useCoreSuspend ∧ sv.sceVeneziaLockProcessSuspend.toInt < 0)) :
    ∃ w', execRequest userArg2 userArgSize useCoreSuspend sv w =
        (.ok
          { pVThreadProcessingResource := sv.sceVeneziaGetVThreadProcessingResource
            userArg2 := userArg2
            userArg3 := userArgSize
            userArg4 := (afterLock useCoreSuspend sv w).commHeapPaddr }, w') ∧
      Passive w w' :=
  ⟨_, if_neg hlock, ((passive_afterLock sv w useCoreSuspend).trans (.emit (by trivial) _)).trans
    (.emit (by trivial) _)⟩

lemma frame_afterCopyIn (pUserArg userArgSize : Word) :
    Frame w (afterCopyIn pUserArg userArgSize sv w) := by
  rw [afterCopyIn]
  split_ifs
  · exact .emit (by trivial) w _
  · exact .refl w

lemma frame_afterRpc (pUserArg userArgSize : Word) (useCoreSuspend : Bool) :
    Frame w (afterRpc pUserArg userArgSize useCoreSuspend sv w).2 := by
  have hrequest : Frame w (afterRequest pUserArg userArgSize useCoreSuspend sv w) :=
    (frame_afterCopyIn sv w pUserArg userArgSize).trans
      (passive_afterRequest sv w pUserArg userArgSize useCoreSuspend).frame
  exact hrequest.trans (.emit (by trivial) _ _)

lemma frame_execStart (pUserArg userArgSize : Word) (useCoreSuspend : Bool) :
    Frame w (execStart pUserArg userArgSize useCoreSuspend sv w).2 := by
  have hout := start_outcome pUserArg userArgSize useCoreSuspend sv w
  generalize execStart pUserArg userArgSize useCoreSuspend sv w = r at hout ⊢
  cases hout with
  | notRegistered hfree => exact .refl w
  | tooBig hreg harg hsize => exact .refl w
  | lockFailed hreg hsize hlock =>
      exact (frame_afterCopyIn sv w _ _).trans (passive_afterLock sv _ _).frame
  | blocked hreg hsize hlock =>
      exact ((frame_afterCopyIn sv w _ _).trans
        (passive_afterRequest sv w _ _ _).frame).trans (.emit (by trivial) _ _)

lemma frame_execFinish (pUserArg userArgSize : Word) (useCoreSuspend : Bool)
    (thunkArg : SceVeneziaThunkArg) :
    Frame w (execFinish pUserArg userArgSize useCoreSuspend sv w thunkArg).2 := by
  have hmem : Frame w { w with mem := (sv.sceVeneziaRpcCallGenericThunk thunkArg w.mem).2 } :=
    ⟨rfl, rfl, rfl, .refl w⟩
  exact hmem.trans ((passive_execReply sv _ useCoreSuspend).trans
    (passive_execCopyOut sv _ pUserArg userArgSize)).frame

lemma frame_vnzBridgeExecCore (pUserArg userArgSize : Word) (useCoreSuspend : Bool) :
    Frame w (vnzBridgeExecCore pUserArg userArgSize useCoreSuspend sv w).2 := by
  have hout := exec_outcome pUserArg userArgSize useCoreSuspend sv w
  generalize vnzBridgeExecCore pUserArg userArgSize useCoreSuspend sv w = r at hout ⊢
  cases hout with
  | notRegistered hfree => exact .refl w
  | tooBig hreg harg hsize => exact .refl w
  | lockFailed hreg hsize hlock =>
      exact (frame_afterCopyIn sv w _ _).trans (passive_afterLock sv _ _).frame
  | ran hreg hsize hlock =>
      exact (frame_afterRpc sv w _ _ _).trans (passive_afterExec sv w _ _ _).frame

lemma frame_vnzBridgeMemcpyToSpram (src size off : Word) :
    Frame w (vnzBridgeMemcpyToSpram src size off sv w).2 := by
  rw [vnzBridgeMemcpyToSpram]
  split_ifs
  · exact .emit (by trivial) w _
  · exact .refl w

lemma passive_vnzBridgeAllocUnmapMemory (uid size alignment vnzVaddr : Word) :
    Passive w (vnzBridgeAllocUnmapMemory uid size alignment vnzVaddr sv w).2 := by
  rw [vnzBridgeAllocUnmapMemory]
  dsimp only
  split_ifs
  · exact .refl w
  · exact .emit (by trivial) w
  · exact ((Passive.emit (by trivial) w).trans (.emit (by trivial) _)).trans
      (.emit (by trivial) _)
  · exact (((Passive.emit (by trivial) w).trans (.emit (by trivial) _)).trans
      (.emit (by trivial) _)).trans (.emit (by trivial) _)
  · exact (((Passive.emit (by trivial) w).trans (.emit (by trivial) _)).trans
      (.emit (by trivial) _)).trans (.emit (by trivial) _)

lemma passive_vnzBridgeFreeUnmapMemory (uid vnzVaddr size : Word) :
    Passive w (vnzBridgeFreeUnmapMemory uid vnzVaddr size sv w).2 := by
  rw [vnzBridgeFreeUnmapMemory]
  dsimp only
  split_ifs
  · exact .refl w
  · exact .emit (by trivial) w
  · exact (Passive.emit (by trivial) w).trans (.emit (by trivial) _)
  · exact ((Passive.emit (by trivial) w).trans (.emit (by trivial) _)).trans
      (.emit (by trivial) _)

lemma passive_unmapTranslationWrapper (kind : UnmapTranslation) (arg dst : Word) :
    Passive w (unmapTranslationWrapper kind arg dst sv w).2 :=
  (Passive.emit (by trivial) w).trans (.emit (by trivial) _)

lemma passive_vnzBridgeGetSpramValue (offset : Word) :
    Passive w (vnzBridgeGetSpramValue offset w).2 := by
  rw [vnzBridgeGetSpramValue]
  split_ifs <;> exact .refl w

lemma passive_vnzBridgeMemcpyFromSpram (dst size off : Word) :
    Passive w (vnzBridgeMemcpyFromSpram dst size off sv w).2 := by
  rw [vnzBridgeMemcpyFromSpram]
  split_ifs
  · exact .emit (by trivial) w
  · exact .refl w

/-- **A passive call changes nothing but the log.** -/
theorem passive_call (pid : Pid) {c : Call} (hc : c.Passive) :
    Passive w (c.perform pid sv w).2 := by
  cases c with
  | vnzBridgeInject addr size => exact hc.elim
  | vnzBridgeRestore => exact hc.elim
  | vnzBridgeMapMemory vaddr size vnzPaddr wr => exact hc.elim
  | vnzBridgeUnmapMemory vaddr size wr => exact hc.elim
  | vnzBridgeSetVeneziaExecClockFrequency clock => exact hc.elim
  | vnzBridgeExec pUserArg userArgSize => exact hc.elim
  | vnzBridgeExecNoSuspend pUserArg userArgSize => exact hc.elim
  | vnzBridgeMemcpyToSpram src size off => exact hc.elim
  | vnzLockProcessSuspend => exact .emit (by trivial) w
  | vnzUnlockProcessSuspend => exact .emit (by trivial) w
  | vnzBridgeGetSpramValue offset => exact passive_vnzBridgeGetSpramValue w offset
  | vnzBridgeMemcpyFromSpram dst size off =>
      exact passive_vnzBridgeMemcpyFromSpram sv w dst size off
  | vnzBridgeGetVeneziaExecClockFrequency => exact .refl w
  | vnzBridgeAllocUnmapMemory uid size alignment vnzVaddr =>
      exact passive_vnzBridgeAllocUnmapMemory sv w uid size alignment vnzVaddr
  | vnzBridgeFreeUnmapMemory uid vnzVaddr size =>
      exact passive_vnzBridgeFreeUnmapMemory sv w uid vnzVaddr size
  | sceVeneziaOpenPublicMemory paddr size => exact .emit (by trivial) w
  | sceVeneziaClosePublicMemory vnzVaddr size => exact .emit (by trivial) w
  | sceCodecEngineUnmapPAtoUserVA paddr memory =>
      exact passive_unmapTranslationWrapper sv w _ _ _
  | sceCodecEngineUnmapUserVAtoPA memory paddr =>
      exact passive_unmapTranslationWrapper sv w _ _ _
  | sceCodecEngineUnmapKernelVAtoUserVA kernelMemory memory =>
      exact passive_unmapTranslationWrapper sv w _ _ _
  | sceCodecEngineUnmapUserVAtoKernelVA memory kernelMemory =>
      exact passive_unmapTranslationWrapper sv w _ _ _
  | sceCodecEngineRegisterUnmapMemory memory size => exact .emit (by trivial) w
  | sceCodecEngineUnregisterUnmapMemory memory size => exact .emit (by trivial) w
  | sceCodecEnginePmonGetProcessorLoadExt data =>
      exact (Passive.emit (by trivial) w).trans (.emit (by trivial) _)

/-- **A quiet call leaves the session, the clock and the mappings alone.** -/
theorem quiet_frame (pid : Pid) {c : Call} (hc : c.Quiet) : Frame w (c.perform pid sv w).2 := by
  rcases hc.passive_or with hp | ⟨pUserArg, userArgSize, rfl⟩ | ⟨pUserArg, userArgSize, rfl⟩ |
    ⟨src, size, off, rfl⟩
  · exact (passive_call sv w pid hp).frame
  · exact frame_vnzBridgeExecCore sv w pUserArg userArgSize true
  · exact frame_vnzBridgeExecCore sv w pUserArg userArgSize false
  · exact frame_vnzBridgeMemcpyToSpram sv w src size off

end Calls

variable {w w' : World}

/-! ### What only touches the clock -/

/-- The event stores the clock. -/
def Event.ClockStore : Event → Prop
  | .storeExecClockFrequency _ => True
  | _ => False

/-- `w'` differs from `w` in the clock, its target and stores of the clock only. -/
structure ClockOnly (w w' : World) : Prop where
  statics : w'.toStatics = w.toStatics
  mem : w'.mem = w.mem
  logs : Logs Event.ClockStore w w'

lemma ClockOnly.refl (w : World) : ClockOnly w w := ⟨rfl, rfl, .refl w⟩

lemma clockOnly_clockReset (w : World) : ClockOnly w (clockReset w) := by
  rw [clockReset]
  split_ifs
  · exact ⟨rfl, rfl, .single (by trivial) rfl⟩
  · exact .refl w

lemma clockOnly_procEvHandler (pid : Pid) (eventType : Word) (w : World) :
    ClockOnly w (procEvHandler pid.val eventType w).2 := by
  rcases procEvHandler_cases pid eventType w with ⟨clock, hw⟩ | hw
  · rw [hw]
    exact ⟨rfl, rfl, .single (by trivial) rfl⟩
  · rw [hw]
    exact .refl w

lemma clockOnly_setClock (clock : Word) (w : World) :
    ClockOnly w (vnzBridgeSetVeneziaExecClockFrequency clock w).2 := by
  rw [vnzBridgeSetVeneziaExecClockFrequency]
  split_ifs
  · exact ⟨rfl, rfl, .single (by trivial) rfl⟩
  · exact .refl w

/-! ### What keeps the statics and the kernel mappings -/

/-- The event neither makes nor removes a kernel mapping. -/
def Event.NoMapping : Event → Prop
  | .sceKernelUserMap .. => False
  | .sceKernelUserUnmap .. => False
  | _ => True

/-- `w'` has the statics of `w`, and no kernel mapping is made or removed on the way. -/
structure KeepsStatics (w w' : World) : Prop where
  statics : w'.toStatics = w.toStatics
  logs : Logs Event.NoMapping w w'

lemma Frame.keepsStatics (h : Frame w w') : KeepsStatics w w' := by
  refine ⟨h.statics, h.logs.mono fun e he => ?_⟩
  cases e <;> trivial

lemma ClockOnly.keepsStatics (h : ClockOnly w w') : KeepsStatics w w' := by
  refine ⟨h.statics, h.logs.mono fun e he => ?_⟩
  cases e <;> trivial

lemma keepsStatics_map (vaddr size vnzPaddr wr : Word) (sv : Services) (w : World) :
    KeepsStatics w (vnzBridgeMapMemory vaddr size vnzPaddr wr sv w).2 := by
  rw [vnzBridgeMapMemory_eq]
  exact ⟨rfl, (Logs.single (by trivial) rfl).trans (.single (by trivial) rfl)⟩

lemma keepsStatics_unmap (vaddr size wr : Word) (sv : Services) (w : World) :
    KeepsStatics w (vnzBridgeUnmapMemory vaddr size wr sv w).2 := by
  obtain ⟨w', hw', heq⟩ := vnzBridgeUnmapMemory_cases vaddr size wr sv w
  rw [heq]
  rcases hw' with rfl | rfl
  · exact ⟨rfl, .single (by trivial) rfl⟩
  · exact ⟨rfl, (Logs.single (by trivial) rfl).trans (.single (by trivial) rfl)⟩

/-- **Only injections and restores among the calls change the statics or the mappings.** -/
theorem keepsStatics_or (pid : Pid) (c : Call) (sv : Services) (w : World) :
    (∃ addr size, c = .vnzBridgeInject addr size) ∨ c = .vnzBridgeRestore ∨
      (∀ addr size, c ≠ .vnzBridgeInject addr size) ∧ c ≠ .vnzBridgeRestore ∧
        KeepsStatics w (c.perform pid sv w).2 := by
  rcases c.quiet_or with hc | ⟨addr, size, rfl⟩ | rfl | ⟨vaddr, size, vnzPaddr, wr, rfl⟩ |
    ⟨vaddr, size, wr, rfl⟩ | ⟨clock, rfl⟩
  · refine .inr (.inr ⟨?_, ?_, (quiet_frame sv w pid hc).keepsStatics⟩)
    · rintro addr size rfl
      exact hc
    · rintro rfl
      exact hc
  · exact .inl ⟨addr, size, rfl⟩
  · exact .inr (.inl rfl)
  · exact .inr (.inr ⟨by simp, by simp, keepsStatics_map vaddr size vnzPaddr wr sv w⟩)
  · exact .inr (.inr ⟨by simp, by simp, keepsStatics_unmap vaddr size wr sv w⟩)
  · exact .inr (.inr ⟨by simp, by simp, (clockOnly_setClock clock w).keepsStatics⟩)

/-! ### What leaves memory alone -/

/-- The step stores nothing through a kernel pointer and does not run Venezia. -/
structure LeavesMemory (w w' : World) : Prop where
  mem : w'.mem = w.mem
  logs : Logs (fun e => e.kernelStore = none) w w'

lemma LeavesMemory.refl (w : World) : LeavesMemory w w := ⟨rfl, .refl w⟩

lemma LeavesMemory.trans {u v : World} (h : LeavesMemory u v) (h' : LeavesMemory v w) :
    LeavesMemory u w :=
  ⟨h'.mem.trans h.mem, h.logs.trans h'.logs⟩

lemma LeavesMemory.emit {e : Event} (he : e.kernelStore = none) (w : World) :
    LeavesMemory w (w.emit e) :=
  ⟨rfl, .single he rfl⟩

lemma Passive.leavesMemory (h : Passive w w') : LeavesMemory w w' :=
  ⟨h.mem, h.logs.mono fun _ he => he.kernelStore⟩

lemma ClockOnly.leavesMemory (h : ClockOnly w w') : LeavesMemory w w' := by
  refine ⟨h.mem, h.logs.mono fun e he => ?_⟩
  cases e <;> first | rfl | exact he.elim

lemma leavesMemory_map (vaddr size vnzPaddr wr : Word) (sv : Services) (w : World) :
    LeavesMemory w (vnzBridgeMapMemory vaddr size vnzPaddr wr sv w).2 := by
  rw [vnzBridgeMapMemory_eq]
  exact (LeavesMemory.emit rfl w).trans (.emit rfl _)

lemma leavesMemory_unmap (vaddr size wr : Word) (sv : Services) (w : World) :
    LeavesMemory w (vnzBridgeUnmapMemory vaddr size wr sv w).2 := by
  obtain ⟨w', hw', heq⟩ := vnzBridgeUnmapMemory_cases vaddr size wr sv w
  rw [heq]
  rcases hw' with rfl | rfl
  · exact .emit rfl w'
  · exact (LeavesMemory.emit rfl w).trans (.emit rfl _)

lemma leavesMemory_restored (sv : Services) (w : World) : LeavesMemory w (restored sv w) := by
  refine (leavesMemory_unmap w.requestedCodeBaseVaddr w.requestedCodeSize 0 sv w).trans ?_
  refine ⟨closeSession_mem sv _, _, closeSession_trace sv _, ?_⟩
  simp [Event.kernelStore]

lemma leavesMemory_restore (sv : Services) (w : World) :
    LeavesMemory w (vnzBridgeRestore sv w).2 := by
  by_cases hreg : w.Registered
  · rw [vnzBridgeRestore_of_registered hreg]
    exact leavesMemory_restored sv w
  · rw [vnzBridgeRestore_of_free hreg]
    exact .refl w

lemma leavesMemory_exit (pid : Pid) (sv : Services) (w : World) :
    LeavesMemory w (procEvExitHandler pid.val sv w).2 := by
  by_cases howner : w.registeredPid = pid.val
  · rw [procEvExitHandler_of_owner howner]
    exact (clockOnly_clockReset w).leavesMemory.trans (leavesMemory_restored sv _)
  · rw [procEvExitHandler_of_not_owner howner]
    exact .refl w

/-- Memory changes by executions, writes to SPRAM and injections only. -/
theorem memory_cases (w : World) (e : Step) :
    (∃ pUserArg userArgSize useCoreSuspend sv,
      step w e = (vnzBridgeExecCore pUserArg userArgSize useCoreSuspend sv w).2 ∧
        e.IsExec pUserArg userArgSize useCoreSuspend sv) ∨
      (∃ pid src size off sv, e = .call pid (.vnzBridgeMemcpyToSpram src size off) sv) ∨
      (∃ pid addr size sv, e = .call pid (.vnzBridgeInject addr size) sv) ∨
      LeavesMemory w (step w e) := by
  cases e with
  | call pid c sv =>
      rcases c.quiet_or with hc | ⟨addr, size, rfl⟩ | rfl | ⟨vaddr, size, vnzPaddr, wr, rfl⟩ |
        ⟨vaddr, size, wr, rfl⟩ | ⟨clock, rfl⟩
      · rcases hc.passive_or with hp | ⟨pUserArg, userArgSize, rfl⟩ |
          ⟨pUserArg, userArgSize, rfl⟩ | ⟨src, size, off, rfl⟩
        · exact .inr (.inr (.inr (passive_call sv w pid hp).leavesMemory))
        · exact .inl ⟨pUserArg, userArgSize, true, sv, rfl, .exec pid⟩
        · exact .inl ⟨pUserArg, userArgSize, false, sv, rfl, .execNoSuspend pid⟩
        · exact .inr (.inl ⟨pid, src, size, off, sv, rfl⟩)
      · exact .inr (.inr (.inl ⟨pid, addr, size, sv, rfl⟩))
      · exact .inr (.inr (.inr (leavesMemory_restore sv w)))
      · exact .inr (.inr (.inr (leavesMemory_map vaddr size vnzPaddr wr sv w)))
      · exact .inr (.inr (.inr (leavesMemory_unmap vaddr size wr sv w)))
      · exact .inr (.inr (.inr (clockOnly_setClock clock w).leavesMemory))
  | stop pid eventType =>
      exact .inr (.inr (.inr (clockOnly_procEvHandler pid eventType w).leavesMemory))
  | start pid eventType =>
      exact .inr (.inr (.inr (clockOnly_procEvHandler pid eventType w).leavesMemory))
  | exit pid sv => exact .inr (.inr (.inr (leavesMemory_exit pid sv w)))
  | kill pid sv => exact .inr (.inr (.inr (leavesMemory_exit pid sv w)))

end VVNZRunner
