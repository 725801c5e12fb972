import VVNZRunner.Session

/-!
The comm heap of a session: where it lies, what its header holds, and what an execution
touches.

* `Session.at`: the kernel address of a byte of the injected block. The comm heap is the 512
  bytes from offset 256 on, its header `Session.commParam` the first twelve of them.
* `storedByte`: what the plugin last stored at an address, read off the log.
* `Event.InHeap`: an event that touches kernel memory inside the comm heap only.
* `session_consistent`: in every reachable state with a registered process the statics, the
  header and the accesses of an execution fit the block that was injected.
-/

namespace VVNZRunner

open ByteMemory Machine

/-! ### The block and its comm heap -/

/-- The kernel address of byte `o` of the block. -/
def Session.at (s : Session) (o : ℕ) : Word := s.kernelBase + BitVec.ofNat 32 o

lemma Session.at_add (s : Session) (o i : ℕ) : s.at o + BitVec.ofNat 32 i = s.at (o + i) := by
  rw [Session.at, Session.at, BitVec.add_assoc, BitVec.ofNat_add]

/-- `SceVeneziaCommParam` as `vnzBridgeInject` fills it: the code base, the entry and the
size. -/
def Session.commParam (s : Session) : List Byte :=
  wordBytes vramBase ++ wordBytes s.entry ++ wordBytes s.size

@[simp] lemma Session.commParam_length (s : Session) : s.commParam.length = 12 := rfl

lemma Session.commParam_base (s : Session) {i : ℕ} (hi : i < 4) :
    s.commParam[i]? = (wordBytes vramBase)[i]? := by
  simp [Session.commParam, List.getElem?_append, hi]

lemma Session.commParam_entry (s : Session) {i : ℕ} (hi : i < 4) :
    s.commParam[4 + i]? = (wordBytes s.entry)[i]? := by
  simp [Session.commParam, List.getElem?_append, hi]

lemma Session.commParam_size (s : Session) {i : ℕ} :
    s.commParam[8 + i]? = (wordBytes s.size)[i]? := by
  have h4 : ¬ 8 + i < 4 := by omega
  have h8 : ¬ 8 + i - 4 < 4 := by omega
  have hi : 8 + i - 4 - 4 = i := by omega
  simp [Session.commParam, List.getElem?_append, h4, h8, hi]

variable {w w' : World} {s : Session} {σ : Option Session}

/-- `IS_SIZE_ALIGNED` to 256 KiB is divisibility. -/
lemma dvd_of_isSizeAligned {size : Word} (h : IsSizeAligned size sceKernel256KiB) :
    2 ^ 18 ∣ size.toNat := by
  have hand : (size &&& 0x3FFFF#32).toNat = 0 := congrArg BitVec.toNat h
  rw [BitVec.toNat_and] at hand
  have hmod : size.toNat % 2 ^ 18 = 0 := by
    rw [← Nat.and_two_pow_sub_one_eq_mod]
    exact hand
  exact Nat.dvd_of_mod_eq_zero hmod

/-- An injected block has at least 256 KiB. -/
lemma Session.le_size (s : Session) : 2 ^ 18 ≤ s.size.toNat := by
  refine Nat.le_of_dvd ?_ (dvd_of_isSizeAligned s.size_aligned)
  have hne : s.size.toNat ≠ 0 := fun h => s.size_ne_zero (BitVec.eq_of_toNat_eq h)
  omega

lemma Consistent.commHeapVaddr_eq (h : Consistent w s) : w.commHeapVaddr = s.at 256 :=
  h.commHeapVaddr

/-- The argument bytes follow the header. -/
lemma Consistent.commHeapVaddr_add (h : Consistent w s) : w.commHeapVaddr + 12 = s.at 268 := by
  rw [h.commHeapVaddr_eq, Session.at, Session.at, BitVec.add_assoc]
  rfl

/-- A range of the block, seen from its base. -/
lemma Session.inRange_at {o k : ℕ} {x : Word} (h : o + k ≤ 2 ^ 32) :
    InRange (s.at o) k x ↔ o ≤ (x - s.kernelBase).toNat ∧ (x - s.kernelBase).toNat < o + k :=
  inRange_add h

lemma Session.at_offset {o : ℕ} (ho : o < 2 ^ 32) : (s.at o - s.kernelBase).toNat = o :=
  offset_toNat ho

/-- The distance of two bytes of the block. -/
lemma Session.at_sub_at {o i : ℕ} (hi : i < 2 ^ 32) : (s.at (o + i) - s.at o).toNat = i :=
  offset_sub_toNat hi

/-! ### What the plugin stored -/

/-- The byte the plugin last stored at the kernel address `x`. -/
def storedByte : List Event → Word → Option Byte
  | [], _ => none
  | e :: t, x =>
      match e.kernelStore with
      | some (a, bs) => bs[(x - a).toNat]?.or (storedByte t x)
      | none => storedByte t x

lemma storedByte_of_none {e : Event} (h : e.kernelStore = none) (t : List Event) (x : Word) :
    storedByte (e :: t) x = storedByte t x := by
  rw [storedByte, h]

/-- A store elsewhere does not show. -/
lemma storedByte_of_not_inRange {e : Event} {a x : Word} {bs : List Byte}
    (h : e.kernelStore = some (a, bs)) (hx : ¬ InRange a bs.length x) (t : List Event) :
    storedByte (e :: t) x = storedByte t x := by
  rw [InRange, not_lt] at hx
  rw [storedByte, h]
  dsimp only
  rw [List.getElem?_eq_none hx, Option.none_or]

/-- A store shows where it is made. -/
lemma storedByte_store {o i : ℕ} {bs : List Byte} (h : i < bs.length)
    (ho : o + bs.length ≤ 2 ^ 32) (t : List Event) :
    storedByte (.store (s.at o) bs :: t) (s.at (o + i)) = bs[i]? := by
  rw [storedByte]
  dsimp only [Event.kernelStore]
  rw [s.at_sub_at (by omega), List.getElem?_eq_getElem h, Option.some_or]

/-- A store elsewhere in the block does not show. -/
lemma storedByte_store_of_disjoint {o p : ℕ} {bs : List Byte} (hp : p < 2 ^ 32)
    (ho : o + bs.length ≤ 2 ^ 32) (h : p < o ∨ o + bs.length ≤ p) (t : List Event) :
    storedByte (.store (s.at o) bs :: t) (s.at p) = storedByte t (s.at p) := by
  refine storedByte_of_not_inRange rfl ?_ t
  rw [s.inRange_at ho, s.at_offset hp]
  omega

/-- The header of the comm heap holds what the injection stored there, as far as the stores of
the plugin go. -/
def HeaderStored (log : List Event) (s : Session) : Prop :=
  ∀ i (hi : i < s.commParam.length), storedByte log (s.at (256 + i)) = some s.commParam[i]

/-- The three stores at the end of `vnzBridgeInject` fill the header. -/
lemma headerStored_stores (s : Session) (t : List Event) :
    HeaderStored (.store (s.at 264) (wordBytes s.size) ::
      .store (s.at 260) (wordBytes s.entry) :: .store (s.at 256) (wordBytes vramBase) :: t)
      s := by
  intro i hi
  rw [← List.getElem?_eq_getElem hi]
  rw [s.commParam_length] at hi
  by_cases h8 : 8 ≤ i
  · obtain ⟨j, rfl⟩ := Nat.exists_eq_add_of_le h8
    rw [show 256 + (8 + j) = 264 + j by omega, storedByte_store (by simp; omega) (by simp),
      s.commParam_size]
  · rw [storedByte_store_of_disjoint (by omega) (by simp) (by omega)]
    by_cases h4 : 4 ≤ i
    · obtain ⟨j, rfl⟩ := Nat.exists_eq_add_of_le h4
      rw [show 256 + (4 + j) = 260 + j by omega, storedByte_store (by simp; omega) (by simp),
        s.commParam_entry (by omega)]
    · rw [storedByte_store_of_disjoint (by omega) (by simp) (by omega),
        storedByte_store (by simp; omega) (by simp), s.commParam_base (by omega)]

/-- The event stores nothing in the header. -/
def Event.SparesHeader (s : Session) (e : Event) : Prop :=
  ∀ r ∈ e.kernelStore, ∀ i < 12, ¬ InRange r.1 r.2.length (s.at (256 + i))

lemma Event.sparesHeader_of_none {e : Event} (h : e.kernelStore = none) : e.SparesHeader s := by
  intro r hr
  rw [h] at hr
  cases hr

/-- Events that store nothing in the header keep it. -/
lemma HeaderStored.of_logs (h : HeaderStored w.trace s)
    (hlogs : Logs (Event.SparesHeader s) w w') : HeaderStored w'.trace s := by
  intro i hi
  have hskip : ∀ e t, e.SparesHeader s →
      storedByte (e :: t) (s.at (256 + i)) = storedByte t (s.at (256 + i)) := by
    intro e t he
    cases hstore : e.kernelStore with
    | none => exact storedByte_of_none hstore t _
    | some r => exact storedByte_of_not_inRange hstore (he r hstore i hi) t
  rw [hlogs.observe (f := fun t => storedByte t (s.at (256 + i))) hskip]
  exact h i hi

/-! ### What an execution touches -/

/-- The kernel range an event reads, writes or cleans. -/
def Event.kernelRange : Event → Option (Word × ℕ)
  | .store addr bytes => some (addr, bytes.length)
  | .sceKernelCopyFromUser dst _ size _ => some (dst, size.toNat)
  | .sceKernelCopyToUser _ (.kernel src) bytes _ => some (src, bytes.length)
  | .sceKernelDcacheCleanRange base size => some (base, size)
  | _ => none

/-- What a store names is part of what its event touches. -/
lemma Event.kernelRange_of_kernelStore {e : Event} {r : Word × List Byte}
    (h : e.kernelStore = some r) : ∃ k, e.kernelRange = some (r.1, k) ∧ r.2.length ≤ k := by
  cases e with
  | store addr bytes =>
      cases h
      exact ⟨_, rfl, le_rfl⟩
  | sceKernelCopyFromUser dst src size reply =>
      cases h
      exact ⟨_, rfl, List.length_take_le _ _⟩
  | _ => cases h

/-- The event touches kernel memory inside the comm heap of the block only. -/
def Event.InHeap (s : Session) (e : Event) : Prop :=
  ∀ r ∈ e.kernelRange, ∀ x, InRange r.1 r.2 x →
    InRange (s.at 256) commHeapSize x ∧ InRange s.kernelBase s.size.toNat x

lemma Event.inHeap_of_none {e : Event} (h : e.kernelRange = none) : e.InHeap s := by
  intro r hr
  rw [h] at hr
  cases hr

/-- Offsets from 256 to 768 of the block are its comm heap. -/
lemma Event.inHeap_of_range {e : Event} {o k : ℕ} (h : e.kernelRange = some (s.at o, k))
    (ho : 256 ≤ o) (hk : o + k ≤ 768) : e.InHeap s := by
  intro r hr x hx
  rw [h] at hr
  cases hr
  rw [s.inRange_at (by omega)] at hx
  have hsize := s.le_size
  refine ⟨(s.inRange_at (by rw [commHeapSize]; omega)).mpr (by rw [commHeapSize]; omega), ?_⟩
  rw [InRange]
  omega

/-- What `vnzBridgeExecCore` may do to the comm heap of the session. -/
def Event.ExecOk (s : Session) (e : Event) : Prop := e.InHeap s ∧ e.SparesHeader s

section Exec

variable {pUserArg userArgSize : Word} {useCoreSuspend : Bool} {sv : Services}

lemma Event.execOk_of_none {e : Event} (h : e.kernelStore = none) (h' : e.kernelRange = none) :
    e.ExecOk s :=
  ⟨Event.inHeap_of_none h', Event.sparesHeader_of_none h⟩

lemma logs_afterCopyIn (h : Consistent w s) (hsize : pUserArg ≠ 0 → userArgSize.toNat ≤ 500) :
    Logs (Event.ExecOk s) w (afterCopyIn pUserArg userArgSize sv w) := by
  rw [afterCopyIn]
  by_cases harg : pUserArg = 0
  · rw [if_neg (not_not.mpr harg)]
    exact .refl w
  · rw [if_pos harg]
    have h500 := hsize harg
    refine .single ⟨?_, ?_⟩ rfl
    · refine Event.inHeap_of_range (o := 268) (k := userArgSize.toNat) ?_ (by omega) (by omega)
      rw [Event.kernelRange, h.commHeapVaddr_add]
    · intro r hr i hi
      cases hr
      have hlen : (sv.sceKernelCopyFromUser.bytes.take userArgSize.toNat).length ≤ 500 := by
        rw [List.length_take]
        omega
      dsimp only
      rw [h.commHeapVaddr_add, s.inRange_at (by omega), s.at_offset (by omega)]
      omega

lemma logs_afterLock (w : World) :
    Logs (Event.ExecOk s) w (afterLock useCoreSuspend sv w) := by
  rw [afterLock]
  split_ifs
  · exact .single (Event.execOk_of_none rfl rfl) rfl
  · exact .refl w

lemma logs_afterRequest (h : Consistent w s) (hsize : pUserArg ≠ 0 → userArgSize.toNat ≤ 500) :
    Logs (Event.ExecOk s) w (afterRequest pUserArg userArgSize useCoreSuspend sv w) := by
  have hclean : Event.ExecOk s (.sceKernelDcacheCleanRange w.commHeapVaddr commHeapSize) := by
    refine ⟨Event.inHeap_of_range (o := 256) (k := commHeapSize) ?_ le_rfl le_rfl,
      Event.sparesHeader_of_none rfl⟩
    rw [Event.kernelRange, h.commHeapVaddr_eq]
  have hlock : Logs (Event.ExecOk s) w
      (afterLock useCoreSuspend sv (afterCopyIn pUserArg userArgSize sv w)) :=
    (logs_afterCopyIn h hsize).trans (logs_afterLock _)
  exact (hlock.trans (.single (Event.execOk_of_none rfl rfl) rfl)).trans (.single hclean rfl)

/-- Behind the answer of the RPC. -/
lemma logs_execFinish (h : Consistent w s) (hsize : pUserArg ≠ 0 → userArgSize.toNat ≤ 500)
    (thunkArg : SceVeneziaThunkArg) :
    Logs (Event.ExecOk s) w
      (execFinish pUserArg userArgSize useCoreSuspend sv w thunkArg).2 := by
  rw [execFinish]
  dsimp only
  have hmem : Logs (Event.ExecOk s) w
      { w with mem := (sv.sceVeneziaRpcCallGenericThunk thunkArg w.mem).2 } := ⟨[], rfl, by simp⟩
  generalize hu : ({ w with
    mem := (sv.sceVeneziaRpcCallGenericThunk thunkArg w.mem).2 } : World) = u at hmem ⊢
  have hheap : u.commHeapVaddr = w.commHeapVaddr := by rw [← hu]
  have hreply : Logs (Event.ExecOk s) u (execReply useCoreSuspend sv u) := by
    rw [execReply]
    split_ifs
    · exact .single (Event.execOk_of_none rfl rfl) rfl
    · exact .refl _
  refine (hmem.trans hreply).trans ?_
  rw [execCopyOut]
  by_cases harg : pUserArg = 0
  · rw [if_neg (not_not.mpr harg)]
    exact .refl _
  · rw [if_pos harg]
    have h500 := hsize harg
    refine .single ⟨?_, Event.sparesHeader_of_none rfl⟩ rfl
    refine Event.inHeap_of_range (o := 268) (k := userArgSize.toNat) ?_ (by omega) (by omega)
    rw [Event.kernelRange, (passive_execReply sv u useCoreSuspend).frame.statics, hheap,
      h.commHeapVaddr_add, read_length]

lemma logs_afterExec (h : Consistent w s) (hsize : pUserArg ≠ 0 → userArgSize.toNat ≤ 500) :
    Logs (Event.ExecOk s) w (afterExec pUserArg userArgSize useCoreSuspend sv w) := by
  have hcall : Logs (Event.ExecOk s) w (afterCall pUserArg userArgSize useCoreSuspend sv w) :=
    (logs_afterRequest h hsize).trans (.single (Event.execOk_of_none rfl rfl) rfl)
  have hcons : Consistent (afterCall pUserArg userArgSize useCoreSuspend sv w) s :=
    Refines.congr (σ := some s) h
      (afterRequest_toStatics pUserArg userArgSize useCoreSuspend sv w)
  exact hcall.trans (logs_execFinish hcons hsize (execThunkArg pUserArg userArgSize sv w))

/-- **An execution touches kernel memory inside the comm heap only**, and leaves its header
alone. -/
theorem exec_logs (pUserArg userArgSize : Word) (useCoreSuspend : Bool) (sv : Services)
    (h : Consistent w s) :
    Logs (Event.ExecOk s) w (vnzBridgeExecCore pUserArg userArgSize useCoreSuspend sv w).2 := by
  have hout := exec_outcome pUserArg userArgSize useCoreSuspend sv w
  generalize vnzBridgeExecCore pUserArg userArgSize useCoreSuspend sv w = r at hout ⊢
  cases hout with
  | notRegistered hfree => exact .refl w
  | tooBig hreg harg hsize => exact .refl w
  | lockFailed hreg hsize hlock => exact (logs_afterCopyIn h hsize).trans (logs_afterLock _)
  | ran hreg hsize hlock => exact logs_afterExec h hsize

lemma afterCopyIn_mem (h : Consistent w s) (hsize : pUserArg ≠ 0 → userArgSize.toNat ≤ 500)
    {x : Word} (hx : ¬ InRange (s.at 268) 500 x) :
    (afterCopyIn pUserArg userArgSize sv w).mem x = w.mem x := by
  rw [afterCopyIn]
  by_cases harg : pUserArg = 0
  · rw [if_neg (not_not.mpr harg)]
  · rw [if_pos harg]
    refine write_apply_outside ?_
    have h500 := hsize harg
    have hlen : (sv.sceKernelCopyFromUser.bytes.take userArgSize.toNat).length ≤ 500 := by
      rw [List.length_take]
      omega
    rw [h.commHeapVaddr_add]
    rw [InRange] at hx ⊢
    omega

/-- **An execution changes the argument bytes of the comm heap only**, and what the program on
Venezia changes. -/
theorem exec_mem (pUserArg userArgSize : Word) (useCoreSuspend : Bool) (h : Consistent w s)
    {x : Word} (hx : ¬ InRange (s.at 268) 500 x)
    (hrpc : ∀ m, (sv.sceVeneziaRpcCallGenericThunk
      (execThunkArg pUserArg userArgSize sv w) m).2 x = m x) :
    (vnzBridgeExecCore pUserArg userArgSize useCoreSuspend sv w).2.mem x = w.mem x := by
  have hout := exec_outcome pUserArg userArgSize useCoreSuspend sv w
  generalize vnzBridgeExecCore pUserArg userArgSize useCoreSuspend sv w = r at hout ⊢
  cases hout with
  | notRegistered hfree => rfl
  | tooBig hreg harg hsize => rfl
  | lockFailed hreg hsize hlock =>
      rw [afterLock_mem]
      exact afterCopyIn_mem h hsize hx
  | ran hreg hsize hlock =>
      rw [(passive_afterExec sv w pUserArg userArgSize useCoreSuspend).mem]
      calc (afterRpc pUserArg userArgSize useCoreSuspend sv w).2.mem x
          = (afterRequest pUserArg userArgSize useCoreSuspend sv w).mem x := hrpc _
        _ = (afterCopyIn pUserArg userArgSize sv w).mem x := by rw [afterRequest_mem]
        _ = w.mem x := afterCopyIn_mem h hsize hx

end Exec

/-! ### Whole runs -/

/-- The step does not write to SPRAM. -/
def NoSpramWrite (_ : Tracked) : Step → Prop
  | .call _ (.vnzBridgeMemcpyToSpram ..) _ => False
  | _ => True

/-- Whatever session is open, its header is stored. -/
def HeaderKept (t : Tracked) : Prop := ∀ s ∈ t.session, HeaderStored t.world.trace s

/-- The events of an accepted injection, newest first. -/
lemma inject_trace (pid : Pid) {addr size : Word} {sv : Services} (hfree : ¬ w.Registered)
    (h : InjectAccepted addr size sv w) (hs : openedSession pid addr size sv w h = s) :
    (vnzBridgeInject addr size pid sv w).2.trace =
      [.sceKernelGetProcessId pid.val, .store (s.at 264) (wordBytes s.size),
        .store (s.at 260) (wordBytes s.entry), .store (s.at 256) (wordBytes vramBase),
        .sceAvcodecMapMemoryToVenezia addr size .kernR 1 1 sv.sceAvcodecMapMemoryToVenezia,
        .sceKernelUserMap "SceVeneziaMepExec" 3 addr size sv.sceKernelUserMap.uid
          sv.sceKernelUserMap.kernelPage sv.sceKernelUserMap.kernelOffset] ++ w.trace := by
  subst hs
  rw [inject_of_accepted pid hfree h]
  have hw : (injectComm sv.kernelPage (injectEntry addr size sv w)
      sv.sceAvcodecMapMemoryToVenezia.ret pid (afterVeneziaMap addr size sv w)).2.trace =
      .sceKernelGetProcessId pid.val ::
        .store (sv.kernelPage + commHeapOffset + 8) (wordBytes size) ::
        .store (sv.kernelPage + commHeapOffset + 4)
          (wordBytes (injectEntry addr size sv w)) ::
        .store (sv.kernelPage + commHeapOffset)
          (wordBytes (sv.codeBase w.requestedCodeBase)) ::
        (afterVeneziaMap addr size sv w).trace := rfl
  rw [hw, h.base, BitVec.add_assoc, BitVec.add_assoc]
  rfl

/-- An accepted injection stores the header of the session it opens. -/
lemma headerStored_opened (pid : Pid) (addr size : Word) (sv : Services) (hfree : ¬ w.Registered)
    (h : InjectAccepted addr size sv w) :
    HeaderStored (vnzBridgeInject addr size pid sv w).2.trace
      (openedSession pid addr size sv w h) := by
  rw [inject_trace pid hfree h rfl]
  intro i hi
  rw [List.cons_append, storedByte_of_none rfl]
  exact headerStored_stores (openedSession pid addr size sv w h) _ i hi

/-- Steps other than writes to SPRAM keep the header of the open session. -/
lemma headerKept_step (t : Tracked) (e : Step) (href : Refines t.world t.session)
    (h : HeaderKept t) (hok : NoSpramWrite t e) : HeaderKept (Tracked.step t e) := by
  intro s hs
  rcases nextSession_eq_some hs with hopen | ⟨hnone, sv, rfl, hacc, heq⟩
  · have hcons : Consistent t.world s := href.consistent hopen
    have hlogs : Logs (Event.SparesHeader s) t.world (step t.world e) := by
      rcases stays_cases e hcons with ⟨pUserArg, userArgSize, useCoreSuspend, sv, hw, -⟩ |
        ⟨pid, src, size, off, sv, rfl⟩ | hmem
      · rw [hw]
        exact (exec_logs pUserArg userArgSize useCoreSuspend sv hcons).mono fun _ he => he.2
      · exact hok.elim
      · exact hmem.logs.mono fun _ he => Event.sparesHeader_of_none he
    exact (h s hopen).of_logs hlogs
  · rw [heq]
    exact headerStored_opened s.pid s.vaddr s.size sv (href.free hnone) hacc

/-- What holds of the plugin's state while the session `s` is open. -/
structure SessionConsistent (w : World) (s : Session) : Prop where
  registeredPid : w.registeredPid = s.pid.val
  requestedCodeBase : w.requestedCodeBase = 0x20000000
  requestedCodeBaseVaddr : w.requestedCodeBaseVaddr = s.vaddr
  requestedCodeSize : w.requestedCodeSize = s.size
  size_ne_zero : s.size ≠ 0
  size_dvd : 0x40000 ∣ s.size.toNat
  /-- Both pointers are byte `COMM_HEAP_OFFSET` of the block, for the kernel and for Venezia. -/
  commHeapVaddr : w.commHeapVaddr = s.at 256
  commHeapPaddr : w.commHeapPaddr = w.requestedCodeBase + 256
  veneziaBase : ∀ base ∈ s.veneziaBase, w.requestedCodeBase = base
  header : HeaderStored w.trace s
  /-- An execution touches kernel memory inside the comm heap and inside the block only. -/
  accesses : ∀ pUserArg userArgSize useCoreSuspend sv,
    Logs (Event.InHeap s) w (vnzBridgeExecCore pUserArg userArgSize useCoreSuspend sv w).2

/-- **Session consistency**: in every state that any calls but writes to SPRAM and any process
events lead to, a registered process holds a session that one accepted injection opened, and
the statics, the header of the comm heap and the accesses of every execution fit it. -/
theorem session_consistent (clock : Word) (mem : Mem) (es : List Step)
    (hok : Admissible Tracked.step NoSpramWrite (Tracked.boot clock mem) es)
    (hreg : (run step (boot clock mem) es).Registered) :
    ∃ s, OpenedBy (Tracked.boot clock mem) es s ∧
      SessionConsistent (run step (boot clock mem) es) s := by
  have hboot : HeaderKept (Tracked.boot clock mem) := by
    intro s hs
    cases hs
  have hheader := run_session_invariant headerKept_step hboot hok
  have href := run_refines clock mem es
  rw [Tracked.run_world] at href
  cases hs : (run Tracked.step (Tracked.boot clock mem) es).session with
  | none => exact absurd hreg (href.free hs)
  | some s =>
      have hstored := hheader s hs
      rw [Tracked.run_world] at hstored
      have hcons : Consistent (run step (boot clock mem) es) s := href.consistent hs
      refine ⟨s, openedBy_of_session rfl hs, ?_⟩
      exact {
        registeredPid := hcons.registeredPid
        requestedCodeBase := hcons.requestedCodeBase
        requestedCodeBaseVaddr := hcons.requestedCodeBaseVaddr
        requestedCodeSize := hcons.requestedCodeSize
        size_ne_zero := s.size_ne_zero
        size_dvd := dvd_of_isSizeAligned s.size_aligned
        commHeapVaddr := hcons.commHeapVaddr_eq
        commHeapPaddr := by rw [hcons.commHeapPaddr, hcons.requestedCodeBase]; rfl
        veneziaBase := fun base hbase =>
          hcons.requestedCodeBase.trans (s.veneziaBase_eq base hbase).symm
        header := hstored
        accesses := fun pUserArg userArgSize useCoreSuspend sv =>
          (exec_logs pUserArg userArgSize useCoreSuspend sv hcons).mono fun _ he => he.1 }

theorem session_consistent_acceptedInject :
    (run step (boot 166 fun _ => 0) [acceptedInject]).Registered ∧
      ∃ s, OpenedBy (Tracked.boot 166 fun _ => 0) [acceptedInject] s ∧
        SessionConsistent (run step (boot 166 fun _ => 0) [acceptedInject]) s :=
  have hreg : (run step (boot 166 fun _ => 0) [acceptedInject]).Registered := by decide
  ⟨hreg, session_consistent 166 (fun _ => 0) [acceptedInject] ⟨trivial, trivial⟩ hreg⟩

end VVNZRunner
