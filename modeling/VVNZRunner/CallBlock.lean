import VVNZRunner.Crt0
import VVNZRunner.CommHeap

/-!
The call block: what an execution of the ARM side and `_start` on Venezia pass each other.

* `Session.block`: the injected block as a window, through which the kernel's bytes are
  Venezia's physical memory. `crt0Rpc`: the RPC that runs `_start` over it.
* `userMemory`: what the copies out of the log make of the caller's memory.
* `HeaderInMemory`: the header lies in memory as the injection stored it.
  `headerInMemory_of_session`: it does in every reachable state, as long as writes to SPRAM
  and the programs on Venezia leave it alone.
* `call_block_agrees`: one execution hands the caller's bytes to `main` and `main`'s bytes back.
-/

namespace VVNZRunner

open ByteMemory Machine

variable {w w' : World} {s : Session}

/-! ### The RPC -/

/-- The injected block: its kernel mapping, seen from `VRAM_BASE` on in physical memory. -/
def Session.block (s : Session) : Window 32 := ⟨s.kernelBase, vramBase, s.size.toNat⟩

/-- The RPC runs `_start` with the four words of the thunk argument. Around the block, physical
memory and the rest of the core are as `idle` has them. -/
def crt0Rpc (s : Session) (idle : Venezia) (vnzMemoryOpenPublic : VnzMemory → Word)
    (main : VeneziaMain) (arg : SceVeneziaThunkArg) (m : Mem) : Word × Mem :=
  let r := start vnzMemoryOpenPublic main arg { idle with
    physical := s.block.view m idle.physical }
  (r.1, s.block.swap.view r.2.physical m)

/-- The header of the comm heap lies in memory as the injection stored it. -/
def HeaderInMemory (m : Mem) (s : Session) : Prop := m.read (s.at 256) 12 = s.commParam

lemma Session.block_size (s : Session) : 2 ^ 18 ≤ s.block.size ∧ s.block.size ≤ 2 ^ 32 :=
  ⟨s.le_size, s.size.isLt.le⟩

/-- A range behind the start of the block, read in physical memory. -/
lemma Session.read_block {m rest : Mem} {o k : ℕ} (h : o + k ≤ 768) :
    (s.block.view m rest).read (vramBase + BitVec.ofNat 32 o) k = m.read (s.at o) k := by
  have hblock := s.block_size
  exact Window.read_view (v := s.block) (by omega) hblock.2

/-- A write behind the start of the block, as the kernel sees it. -/
lemma Session.write_block {m rest : Mem} {o : ℕ} {bs : List Byte} (h : o + bs.length ≤ 768) :
    s.block.swap.view ((s.block.view m rest).write (vramBase + BitVec.ofNat 32 o) bs) m =
      m.write (s.at o) bs := by
  have hblock := s.block_size
  exact Window.swap_view_write (v := s.block) (by omega) hblock.2

/-- The argument bytes in physical memory. -/
lemma userArg4_add {arg : SceVeneziaThunkArg}
    (hcomm : arg.userArg4 = vramBase + BitVec.ofNat 32 256) :
    arg.userArg4 + BitVec.ofNat 32 12 = vramBase + BitVec.ofNat 32 268 := by
  rw [hcomm, BitVec.add_assoc]
  rfl

section Rpc

variable {vnzMemoryOpenPublic : VnzMemory → Word} {arg : SceVeneziaThunkArg} {m : Mem}

/-- The RPC changes the argument bytes only. -/
lemma crt0Rpc_write (idle : Venezia) (main : VeneziaMain)
    (hcomm : arg.userArg4 = vramBase + BitVec.ofNat 32 256)
    (hopen : vnzMemoryOpenPublic (argMem arg) ≠ 0) (hne : arg.userArg3 ≠ 0)
    (hle : arg.userArg3.toNat ≤ 500) :
    ∃ bs, bs.length = arg.userArg3.toNat ∧
      (crt0Rpc s idle vnzMemoryOpenPublic main arg m).2 = m.write (s.at 268) bs := by
  let z : Venezia := { idle with physical := s.block.view m idle.physical }
  let v := (entered vnzMemoryOpenPublic arg z).mainView arg.pVThreadProcessingResource
    (vnzMemoryOpenPublic (argMem arg) + BitVec.ofNat 32 12) arg.userArg3
  have hphysical : (start vnzMemoryOpenPublic main arg z).2.physical =
      z.physical.write (arg.userArg4 + BitVec.ofNat 32 12) (main.run v).2 :=
    (start_physical main hopen hne (by omega)).2
  have hlen : (main.run v).2.length = arg.userArg3.toNat := by
    rw [main.length_run]
    exact read_length _ _ _
  refine ⟨(main.run v).2, hlen, ?_⟩
  rw [crt0Rpc]
  dsimp only
  rw [hphysical, userArg4_add hcomm]
  exact Session.write_block (by omega)

/-- **The RPC hands `main` the bytes behind the header, and writes its bytes there.** -/
theorem crt0Rpc_spec (idle : Venezia) (main : VeneziaMain)
    (hcomm : arg.userArg4 = vramBase + BitVec.ofNat 32 256)
    (hopen : vnzMemoryOpenPublic (argMem arg) ≠ 0) (hne : arg.userArg3 ≠ 0)
    (hle : arg.userArg3.toNat ≤ 500) (hheader : HeaderInMemory m s) :
    let v := startView vnzMemoryOpenPublic arg vramBase s.entry s.size
      (m.read (s.at 268) arg.userArg3.toNat)
    crt0Rpc s idle vnzMemoryOpenPublic main arg m =
      ((main.run v).1, m.write (s.at 268) (main.run v).2) := by
  intro v
  have hhead : (s.block.view m idle.physical).read arg.userArg4 12 =
      wordBytes vramBase ++ wordBytes s.entry ++ wordBytes s.size := by
    rw [hcomm, Session.read_block (by omega)]
    exact hheader
  have hspec := start_spec (z := { idle with physical := s.block.view m idle.physical }) main
    hopen hne (by omega) hhead
  dsimp only at hspec
  rw [userArg4_add hcomm, Session.read_block (by omega)] at hspec
  have hlen : (main.run v).2.length = arg.userArg3.toNat := by
    rw [main.length_run]
    exact read_length _ _ _
  have hend : 268 + (main.run v).2.length ≤ 768 := by omega
  rw [crt0Rpc]
  refine Prod.ext hspec.1 ?_
  dsimp only
  rw [hspec.2]
  exact Session.write_block hend

end Rpc

/-! ### The header along a run -/

lemma HeaderInMemory.congr {m m' : Mem} (h : HeaderInMemory m s)
    (heq : ∀ x, InRange (s.at 256) 12 x → m' x = m x) : HeaderInMemory m' s :=
  (read_congr_of_inRange (by omega) heq).trans h

/-- The argument bytes are not the header. -/
lemma not_inRange_args_of_header {x : Word} (hx : InRange (s.at 256) 12 x) {k : ℕ}
    (hk : k ≤ 500) : ¬ InRange (s.at 268) k x := by
  rw [s.inRange_at (by omega)] at hx ⊢
  omega

/-- Bytes behind the header leave it alone. -/
lemma HeaderInMemory.write {m : Mem} (h : HeaderInMemory m s) {bs : List Byte}
    (hbs : bs.length ≤ 500) : HeaderInMemory (m.write (s.at 268) bs) s :=
  h.congr fun _ hx => write_apply_outside (not_inRange_args_of_header hx hbs)

/-- The step leaves the header of the open session alone: a write to SPRAM misses it, and the
program on Venezia does not change it. -/
def SparesHeader (t : Tracked) : Step → Prop
  | .call _ (.vnzBridgeMemcpyToSpram _ size off) sv =>
      SpramRangeOk size off → ∀ s ∈ t.session, ∀ x, InRange (s.at 256) 12 x →
        ¬ InRange (vaddrVeneziaSpram + off)
          (sv.sceKernelCopyFromUser.bytes.take size.toNat).length x
  | .call _ (.vnzBridgeExec pUserArg userArgSize) sv
  | .call _ (.vnzBridgeExecNoSuspend pUserArg userArgSize) sv =>
      ∀ s ∈ t.session, ∀ x, InRange (s.at 256) 12 x → ∀ m,
        (sv.sceVeneziaRpcCallGenericThunk (execThunkArg pUserArg userArgSize sv t.world) m).2 x =
          m x
  | _ => True

/-- A program that `_start` runs on a block of 1 to 500 bytes spares the header. -/
lemma sparesHeader_crt0 {t : Tracked} {pUserArg n : Word} {sv : Services} (idle : Venezia)
    {vnzMemoryOpenPublic : VnzMemory → Word} (main : VeneziaMain) (pid : Pid)
    (h : Consistent t.world s) (hs : t.session = some s)
    (hopen : ∀ memory, vnzMemoryOpenPublic memory ≠ 0) (hne : n ≠ 0) (hle : n.toNat ≤ 500)
    (hrpc : sv.sceVeneziaRpcCallGenericThunk = crt0Rpc s idle vnzMemoryOpenPublic main) :
    SparesHeader t (.call pid (.vnzBridgeExec pUserArg n) sv) := by
  intro s' hs' x hx m
  rw [hs] at hs'
  cases hs'
  let arg := execThunkArg pUserArg n sv t.world
  obtain ⟨bs, hlen, hbs⟩ : ∃ bs, bs.length = arg.userArg3.toNat ∧
      (crt0Rpc s idle vnzMemoryOpenPublic main arg m).2 = m.write (s.at 268) bs :=
    crt0Rpc_write idle main h.commHeapPaddr (hopen _) hne hle
  rw [hrpc, hbs]
  exact write_apply_outside (not_inRange_args_of_header hx (hlen.trans_le hle))

lemma SparesHeader.rpc {t : Tracked} {e : Step} (h : SparesHeader t e)
    {pUserArg userArgSize : Word} {useCoreSuspend : Bool} {sv : Services}
    (he : e.IsExec pUserArg userArgSize useCoreSuspend sv) (hs : t.session = some s) {x : Word}
    (hx : InRange (s.at 256) 12 x) (m : Mem) :
    (sv.sceVeneziaRpcCallGenericThunk (execThunkArg pUserArg userArgSize sv t.world) m).2 x =
      m x := by
  cases he with
  | exec pid => exact h s hs x hx m
  | execNoSuspend pid => exact h s hs x hx m

/-- An accepted injection leaves the header of its session in memory. -/
lemma headerInMemory_opened (pid : Pid) (addr size : Word) (sv : Services) (hfree : ¬ w.Registered)
    (h : InjectAccepted addr size sv w) :
    HeaderInMemory (vnzBridgeInject addr size pid sv w).2.mem
      (openedSession pid addr size sv w h) := by
  rw [inject_of_accepted pid hfree h]
  generalize hs : openedSession pid addr size sv w h = s
  have hkernel : s.kernelBase = sv.kernelPage := by rw [← hs]; rfl
  have hparam : s.commParam = wordBytes (sv.codeBase w.requestedCodeBase) ++
      wordBytes (injectEntry addr size sv w) ++ wordBytes size := by
    rw [h.base, ← hs]
    rfl
  have hmem : (injectComm sv.kernelPage (injectEntry addr size sv w)
      sv.sceAvcodecMapMemoryToVenezia.ret pid (afterVeneziaMap addr size sv w)).2.mem =
      (afterVeneziaMap addr size sv w).mem.write (s.at 256) s.commParam := by
    rw [hparam, ← write_write_append (by simp), ← write_write_append (by simp)]
    rw [Session.at, hkernel]
    rfl
  rw [HeaderInMemory, hmem]
  exact read_write_self (by simp)

/-- The header of the open session is in memory. -/
def HeaderKeptInMemory (t : Tracked) : Prop := ∀ s ∈ t.session, HeaderInMemory t.world.mem s

/-- A write to SPRAM that misses the header keeps it. -/
lemma headerInMemory_spram {size off src : Word} {sv : Services}
    (h : HeaderInMemory w.mem s) (hmiss : SpramRangeOk size off → ∀ x, InRange (s.at 256) 12 x →
      ¬ InRange (vaddrVeneziaSpram + off)
        (sv.sceKernelCopyFromUser.bytes.take size.toNat).length x) :
    HeaderInMemory (vnzBridgeMemcpyToSpram src size off sv w).2.mem s := by
  rw [vnzBridgeMemcpyToSpram]
  split_ifs with hrange
  · exact h.congr fun x hx => write_apply_outside (hmiss hrange x hx)
  · exact h

/-- A step that spares the header keeps it in memory. -/
lemma headerInMemory_step (t : Tracked) (e : Step) (href : Refines t.world t.session)
    (h : HeaderKeptInMemory t) (hok : SparesHeader t e) :
    HeaderKeptInMemory (Tracked.step t e) := by
  intro s hs
  rcases nextSession_eq_some hs with hopen | ⟨hnone, sv, rfl, hacc, heq⟩
  · have hcons : Consistent t.world s := href.consistent hopen
    change HeaderInMemory (step t.world e).mem s
    rcases stays_cases e hcons with ⟨pUserArg, userArgSize, useCoreSuspend, sv, hw, he⟩ |
      ⟨pid, src, size, off, sv, rfl⟩ | hmem
    · rw [hw]
      refine (h s hopen).congr fun x hx => ?_
      refine exec_mem pUserArg userArgSize useCoreSuspend hcons ?_ (hok.rpc he hopen hx)
      exact not_inRange_args_of_header hx le_rfl
    · exact headerInMemory_spram (h s hopen) fun hrange x hx => hok hrange s hopen x hx
    · rw [hmem.mem]
      exact h s hopen
  · rw [heq]
    exact headerInMemory_opened s.pid s.vaddr s.size sv (href.free hnone) hacc

/-- **The header of the open session stays in memory** along every run whose steps spare it. -/
theorem headerInMemory_of_session {clock : Word} {mem : Mem} {es : List Step}
    (hok : Admissible Tracked.step SparesHeader (Tracked.boot clock mem) es)
    (hs : (run Tracked.step (Tracked.boot clock mem) es).session = some s) :
    Consistent (run step (boot clock mem) es) s ∧
      HeaderInMemory (run step (boot clock mem) es).mem s := by
  have hboot : HeaderKeptInMemory (Tracked.boot clock mem) := by
    intro s hs
    cases hs
  have hheader := run_session_invariant headerInMemory_step hboot hok s hs
  rw [Tracked.run_world] at hheader
  exact ⟨consistent_of_session hs, hheader⟩

/-! ### One execution -/

/-- The user address and the bytes an event copies there. -/
def Event.copyOut : Event → Option (Word × List Byte)
  | .sceKernelCopyToUser dst _ bytes ret => if ret.toInt < 0 then none else some (dst, bytes)
  | _ => none

/-- The caller's memory after the copies out that a log records, newest event first. -/
def userMemory (user : Mem) : List Event → Mem
  | [] => user
  | e :: t =>
      match e.copyOut with
      | some (dst, bytes) => (userMemory user t).write dst bytes
      | none => userMemory user t

lemma userMemory_of_none {user : Mem} {log : List Event} (h : ∀ e ∈ log, e.copyOut = none) :
    userMemory user log = user := by
  induction log with
  | nil => rfl
  | cons e t ih =>
      rw [userMemory, h e List.mem_cons_self]
      exact ih fun e' he' => h e' (List.mem_cons_of_mem _ he')

section Exec

variable {pUserArg n : Word} {useCoreSuspend : Bool} {sv : Services}

/-- Up to the copy out of an execution nothing is copied out. -/
lemma logs_beforeCopyOut (pUserArg n : Word) (useCoreSuspend : Bool) (sv : Services) (w : World) :
    Logs (fun e => e.copyOut = none) w
      (execReply useCoreSuspend sv (afterRpc pUserArg n useCoreSuspend sv w).2) := by
  have hcopy : Logs (fun e => e.copyOut = none) w (afterCopyIn pUserArg n sv w) := by
    rw [afterCopyIn]
    split_ifs
    · exact .single rfl rfl
    · exact .refl w
  have hlock : ∀ u, Logs (fun e => e.copyOut = none) u (afterLock useCoreSuspend sv u) := by
    intro u
    rw [afterLock]
    split_ifs
    · exact .single rfl rfl
    · exact .refl u
  have hrequest : Logs (fun e => e.copyOut = none) w
      (afterRequest pUserArg n useCoreSuspend sv w) :=
    ((hcopy.trans (hlock _)).trans (.single rfl rfl)).trans (.single rfl rfl)
  have hrpc : Logs (fun e => e.copyOut = none) w
      (afterRpc pUserArg n useCoreSuspend sv w).2 := hrequest.trans (.single rfl rfl)
  refine hrpc.trans ?_
  rw [execReply]
  split_ifs
  · exact .single rfl rfl
  · exact .refl _

/-- The copy out of an execution is its last event, and the only one of its kind. -/
lemma afterExec_copyOut (h : Consistent w s) (harg : pUserArg ≠ 0)
    (hout : 0 ≤ sv.sceKernelCopyToUser.toInt) :
    ∃ log, (afterExec pUserArg n useCoreSuspend sv w).trace = log ++ w.trace ∧
      ∀ user, userMemory user log = user.write pUserArg
        ((afterRpc pUserArg n useCoreSuspend sv w).2.mem.read (s.at 268) n.toNat) := by
  obtain ⟨log, hlog, hnone⟩ := logs_beforeCopyOut pUserArg n useCoreSuspend sv w
  have hframe := (frame_afterRpc sv w pUserArg n useCoreSuspend).trans
    (passive_execReply sv _ useCoreSuspend).frame
  have hmem := (passive_execReply sv (afterRpc pUserArg n useCoreSuspend sv w).2
    useCoreSuspend).mem
  have hheap : (execReply useCoreSuspend sv
      (afterRpc pUserArg n useCoreSuspend sv w).2).commHeapVaddr + 12 = s.at 268 := by
    rw [hframe.statics]
    exact h.commHeapVaddr_add
  refine ⟨.sceKernelCopyToUser pUserArg (.kernel (s.at 268))
    ((afterRpc pUserArg n useCoreSuspend sv w).2.mem.read (s.at 268) n.toNat)
    sv.sceKernelCopyToUser :: log, ?_, fun user => ?_⟩
  · rw [afterExec, execCopyOut, if_pos harg, World.sceKernelCopyToUser, hheap, hmem,
      World.emit_trace, hlog, List.cons_append]
  · rw [userMemory, Event.copyOut, if_neg (by omega)]
    dsimp only
    rw [userMemory_of_none hnone]

/-- Memory when the RPC is made: the caller's bytes lie behind the header. -/
lemma afterRequest_args (h : Consistent w s) (harg : pUserArg ≠ 0) {user : Mem}
    (hin : sv.sceKernelCopyFromUser.bytes = user.read pUserArg n.toNat) :
    (afterRequest pUserArg n useCoreSuspend sv w).mem =
      w.mem.write (s.at 268) (user.read pUserArg n.toNat) := by
  rw [afterRequest_mem, afterCopyIn, if_pos harg, World.sceKernelCopyFromUser,
    h.commHeapVaddr_add, hin]
  dsimp only
  rw [List.take_of_length_le (by rw [read_length])]

/-- The memory `_start` opens is the comm heap up to the end of the argument bytes. -/
lemma argMem_execThunkArg (h : Consistent w s) :
    argMem (execThunkArg pUserArg n sv w) = vnzMemoryCreate (vramBase + 256) (12 + n) := by
  rw [argMem, execThunkArg, h.commHeapPaddr]
  rfl

end Exec

/-- What `main` finds, for a session and the caller's block. -/
structure HandedOver (v : MainView) (s : Session) (n : Word) (bytes : List Byte) : Prop where
  pUserArg : v.pUserArg ≠ 0
  userArgSize : v.userArgSize = n
  argBytes : v.argBytes = bytes
  codeBase : v.codeBase = vramBase
  codeOffset : v.codeOffset = s.entry
  codeSize : v.codeSize = s.size

/-- What `main` finds in an execution of the block. -/
def execView (vnzMemoryOpenPublic : VnzMemory → Word) (s : Session) (pUserArg n : Word)
    (sv : Services) (w : World) (bytes : List Byte) : MainView :=
  startView vnzMemoryOpenPublic (execThunkArg pUserArg n sv w) vramBase s.entry s.size bytes

section Exec

variable {pUserArg n : Word} {useCoreSuspend : Bool} {sv : Services} {user : Mem}
  {vnzMemoryOpenPublic : VnzMemory → Word}

lemma handedOver_execView (h : Consistent w s) (hpos : 1 ≤ n.toNat) (hle : n.toNat ≤ 500)
    (hopen : OpensPublic vnzMemoryOpenPublic (vnzMemoryCreate (vramBase + 256) (12 + n)))
    (bytes : List Byte) :
    HandedOver (execView vnzMemoryOpenPublic s pUserArg n sv w bytes) s n bytes := by
  have hmem : argMem (execThunkArg pUserArg n sv w) = vnzMemoryCreate (vramBase + 256) (12 + n) :=
    argMem_execThunkArg h
  rw [← hmem] at hopen
  have hne : n ≠ 0 := by
    intro h0
    rw [h0] at hpos
    exact absurd hpos (by decide)
  have hn : n.toNat + 12 < 2 ^ 32 := by omega
  exact ⟨startView_pUserArg_ne hopen hne hn, rfl, rfl, rfl, rfl, rfl⟩

/-- The RPC of an execution: `main` finds the caller's bytes, and its bytes replace them. -/
lemma afterRpc_crt0 (h : Consistent w s) (hheader : HeaderInMemory w.mem s) (harg : pUserArg ≠ 0)
    (hpos : 1 ≤ n.toNat) (hle : n.toNat ≤ 500)
    (hin : sv.sceKernelCopyFromUser.bytes = user.read pUserArg n.toNat) (idle : Venezia)
    (hopen : vnzMemoryOpenPublic (vnzMemoryCreate (vramBase + 256) (12 + n)) ≠ 0)
    (main : VeneziaMain)
    (hrpc : sv.sceVeneziaRpcCallGenericThunk = crt0Rpc s idle vnzMemoryOpenPublic main) :
    let v := execView vnzMemoryOpenPublic s pUserArg n sv w (user.read pUserArg n.toNat)
    (afterRpc pUserArg n useCoreSuspend sv w).1 = (main.run v).1 ∧
      (afterRpc pUserArg n useCoreSuspend sv w).2.mem =
        (w.mem.write (s.at 268) (user.read pUserArg n.toNat)).write (s.at 268) (main.run v).2 := by
  intro v
  have hne : n ≠ 0 := by
    intro h0
    rw [h0] at hpos
    exact absurd hpos (by decide)
  have hlen : (user.read pUserArg n.toNat).length = n.toNat := read_length _ _ _
  have hmem : (afterRequest pUserArg n useCoreSuspend sv w).mem =
      w.mem.write (s.at 268) (user.read pUserArg n.toNat) := afterRequest_args h harg hin
  have hopen' : vnzMemoryOpenPublic (argMem (execThunkArg pUserArg n sv w)) ≠ 0 := by
    rw [argMem_execThunkArg h]
    exact hopen
  have hheader' : HeaderInMemory (afterRequest pUserArg n useCoreSuspend sv w).mem s := by
    rw [hmem]
    exact hheader.write (hlen.trans_le hle)
  have hargs : (w.mem.write (s.at 268) (user.read pUserArg n.toNat)).read (s.at 268) n.toNat =
      user.read pUserArg n.toNat := by
    rw [read_write_take hlen.ge (by omega), List.take_of_length_le hlen.le]
  have hspec : crt0Rpc s idle vnzMemoryOpenPublic main (execThunkArg pUserArg n sv w)
      (afterRequest pUserArg n useCoreSuspend sv w).mem = ((main.run v).1,
        (afterRequest pUserArg n useCoreSuspend sv w).mem.write (s.at 268) (main.run v).2) := by
    have hview : v = execView vnzMemoryOpenPublic s pUserArg n sv w
        ((afterRequest pUserArg n useCoreSuspend sv w).mem.read (s.at 268) n.toNat) := by
      rw [hmem, hargs]
    rw [hview]
    exact crt0Rpc_spec idle main h.commHeapPaddr hopen' hne hle hheader'
  rw [← hrpc] at hspec
  rw [← hmem]
  exact ⟨congrArg Prod.fst hspec, congrArg Prod.snd hspec⟩

/-- An execution in a state with a session and its header in memory. -/
theorem exec_call_block (sv : Services) (h : Consistent w s) (hheader : HeaderInMemory w.mem s)
    (harg : pUserArg ≠ 0) (hpos : 1 ≤ n.toNat) (hle : n.toNat ≤ 500)
    (hlock : useCoreSuspend → 0 ≤ sv.sceVeneziaLockProcessSuspend.toInt)
    (hin : sv.sceKernelCopyFromUser.bytes = user.read pUserArg n.toNat)
    (hout : 0 ≤ sv.sceKernelCopyToUser.toInt) (idle : Venezia)
    (hopen : vnzMemoryOpenPublic (vnzMemoryCreate (vramBase + 256) (12 + n)) ≠ 0)
    (main : VeneziaMain)
    (hrpc : sv.sceVeneziaRpcCallGenericThunk = crt0Rpc s idle vnzMemoryOpenPublic main) :
    let v := execView vnzMemoryOpenPublic s pUserArg n sv w (user.read pUserArg n.toNat)
    ∃ w' log, vnzBridgeExecCore pUserArg n useCoreSuspend sv w = ((main.run v).1, w') ∧
      w'.trace = log ++ w.trace ∧
      (userMemory user log).read pUserArg n.toNat = (main.run v).2 ∧
      HeaderInMemory w'.mem s := by
  intro v
  have hrun : vnzBridgeExecCore pUserArg n useCoreSuspend sv w =
      ((afterRpc pUserArg n useCoreSuspend sv w).1, afterExec pUserArg n useCoreSuspend sv w) :=
    vnzBridgeExecCore_ran h.registered (fun _ => hle) fun hfail =>
      absurd (hlock hfail.1) (by omega)
  obtain ⟨hret, hmem⟩ : (afterRpc pUserArg n useCoreSuspend sv w).1 = (main.run v).1 ∧
      (afterRpc pUserArg n useCoreSuspend sv w).2.mem =
        (w.mem.write (s.at 268) (user.read pUserArg n.toNat)).write (s.at 268) (main.run v).2 :=
    afterRpc_crt0 h hheader harg hpos hle hin idle hopen main hrpc
  obtain ⟨log, htrace, huser⟩ : ∃ log,
      (afterExec pUserArg n useCoreSuspend sv w).trace = log ++ w.trace ∧
        ∀ user, userMemory user log = user.write pUserArg
          ((afterRpc pUserArg n useCoreSuspend sv w).2.mem.read (s.at 268) n.toNat) :=
    afterExec_copyOut h harg hout
  have hlen : (main.run v).2.length = n.toNat := by
    rw [main.length_run]
    exact read_length _ _ _
  have hback : ∀ (m : Mem) a, (m.write a (main.run v).2).read a n.toNat = (main.run v).2 := by
    intro m a
    rw [← hlen]
    exact read_write_self (by omega)
  refine ⟨_, log, hrun.trans (Prod.ext hret rfl), htrace, ?_, ?_⟩
  · rw [huser user, hmem, hback, hback]
  · rw [(passive_afterExec sv w pUserArg n useCoreSuspend).mem, hmem]
    exact (hheader.write ((read_length _ _ _).trans_le hle)).write (hlen.trans_le hle)

end Exec

/-- **Both sides agree on the call block**: in every reachable state with a session `s` an
execution of a block of 1 to 500 bytes hands `main` a pointer to the caller's bytes and the
header of `s`; it returns what `main` returns, leaves the bytes `main` leaves in the caller's
block, and the header as it was. What `main` finds does not depend on `main`. -/
theorem call_block_agrees (clock : Word) (mem : Mem) (es : List Step)
    (hok : Admissible Tracked.step SparesHeader (Tracked.boot clock mem) es) (s : Session)
    (hs : (run Tracked.step (Tracked.boot clock mem) es).session = some s)
    (pUserArg n : Word) (harg : pUserArg ≠ 0) (hpos : 1 ≤ n.toNat) (hle : n.toNat ≤ 500)
    (user : Mem) (useCoreSuspend : Bool) (sv : Services)
    (hlock : useCoreSuspend → 0 ≤ sv.sceVeneziaLockProcessSuspend.toInt)
    (hin : sv.sceKernelCopyFromUser.bytes = user.read pUserArg n.toNat)
    (hout : 0 ≤ sv.sceKernelCopyToUser.toInt) (idle : Venezia)
    (vnzMemoryOpenPublic : VnzMemory → Word)
    (hopen : OpensPublic vnzMemoryOpenPublic (vnzMemoryCreate (vramBase + 256) (12 + n))) :
    ∃ v, HandedOver v s n (user.read pUserArg n.toNat) ∧
      ∀ main : VeneziaMain, ∃ w' log,
        vnzBridgeExecCore pUserArg n useCoreSuspend
            { sv with
              sceVeneziaRpcCallGenericThunk := crt0Rpc s idle vnzMemoryOpenPublic main }
            (run step (boot clock mem) es) = ((main.run v).1, w') ∧
          w'.trace = log ++ (run step (boot clock mem) es).trace ∧
          (userMemory user log).read pUserArg n.toNat = (main.run v).2 ∧
          HeaderInMemory w'.mem s := by
  obtain ⟨hcons, hheader⟩ := headerInMemory_of_session hok hs
  generalize run step (boot clock mem) es = w at hcons hheader ⊢
  refine ⟨execView vnzMemoryOpenPublic s pUserArg n sv w (user.read pUserArg n.toNat),
    handedOver_execView hcons hpos hle hopen _, fun main => ?_⟩
  let sv' : Services :=
    { sv with sceVeneziaRpcCallGenericThunk := crt0Rpc s idle vnzMemoryOpenPublic main }
  have hrpc : sv'.sceVeneziaRpcCallGenericThunk = crt0Rpc s idle vnzMemoryOpenPublic main := rfl
  exact exec_call_block sv' hcons hheader harg hpos hle hlock hin hout idle hopen.1 main hrpc

/-- The session that the sample injection opens. -/
def sampleSession : Session :=
  openedSession samplePid 0x81000000 0x40000 acceptingServices (boot 166 fun _ => 0) (by decide)

/-- A core that has done nothing, and the answers to an execution with the bytes of `sampleUser`. -/
def sampleIdle : Venezia := ⟨fun _ => 0, fun _ => 0, .empty, 0⟩

def sampleUser : Mem := fun x => x.truncate 8

def sampleAnswers : Services where
  sceKernelCopyFromUser := { bytes := [0, 1, 2, 3] }

theorem call_block_agrees_sampleSession :
    ∃ v, HandedOver v sampleSession 4 (sampleUser.read 0x81100000 4) ∧
      ∀ main : VeneziaMain, ∃ w' log,
        vnzBridgeExecCore 0x81100000 4 true
            { sampleAnswers with
              sceVeneziaRpcCallGenericThunk :=
                crt0Rpc sampleSession sampleIdle (fun _ => 0x60000000) main }
            (run step (boot 166 fun _ => 0) [acceptedInject]) = ((main.run v).1, w') ∧
          w'.trace = log ++ (run step (boot 166 fun _ => 0) [acceptedInject]).trace ∧
          (userMemory sampleUser log).read 0x81100000 4 = (main.run v).2 ∧
          HeaderInMemory w'.mem sampleSession :=
  call_block_agrees 166 (fun _ => 0) [acceptedInject] ⟨trivial, trivial⟩ sampleSession
    (by decide) 0x81100000 4 (by decide) (by decide) (by decide) sampleUser true sampleAnswers
    (fun _ => by decide) (by decide) (by decide) sampleIdle (fun _ => 0x60000000) (by
      exact ⟨by decide, by decide⟩)

end VVNZRunner
