import VVNZRunner.Library.Matching
import VVNZRunner.KernelStack

/-!
The memory that `vnzBridgeAllocUnmapMemory` allocates and opens on Venezia, and that
`vnzBridgeFreeUnmapMemory` closes and frees.

* `Ledger`: the allocated ranges and the ranges open as `PUBLIC`, kept from the log.
* `Event.Faithful`: what the services are taken to do, succeed with their effect or fail with
  none.
* `AllocOutcome`, `FreeOutcome`: the exits of the two functions with the events logged.
* `UnmapOk`: the ranges correspond, an error leaves both sets alone, a success delivers the
  address.
* `UndoSucceeds`: the condition on a call, what follows the first effect does not fail.
* `unmap_memory_iff`: every call of a run is right exactly if every call meets the condition.
-/

namespace VVNZRunner

open ByteMemory Machine Matching

/-! ### What is allocated and what is open -/

/-- A range that a process has allocated from a block, and the physical address it lies at. -/
structure AllocatedRange where
  pid : Pid
  uid : Word
  memory : Word
  paddr : Word
  size : Word
  deriving DecidableEq

/-- A range that is open as `PUBLIC` on Venezia. -/
structure PublicRange where
  vnzVaddr : Word
  paddr : Word
  size : Word
  deriving DecidableEq

/-- The ranges allocated and open. -/
structure Ledger where
  allocated : Finset AllocatedRange
  opened : Finset PublicRange
  deriving DecidableEq

/-- The process, the block and the address a range is freed by. -/
def AllocatedRange.IsAt (pid : Pid) (uid p : Word) (a : AllocatedRange) : Prop :=
  a.pid = pid ∧ a.uid = uid ∧ a.memory = p

instance (pid : Pid) (uid p : Word) : DecidablePred (AllocatedRange.IsAt pid uid p) :=
  fun a => inferInstanceAs (Decidable (a.pid = pid ∧ a.uid = uid ∧ a.memory = p))

/-- What a service call of the process `pid` does to the ledger; `paddr` is where the memory
lies that is allocated. -/
def Ledger.apply (pid : Pid) (paddr : Word) (e : Event) (l : Ledger) : Ledger :=
  match e with
  | .sceCodecEngineAllocMemoryFromUnmapMemBlock uid size _ memory =>
      if memory = 0 then l
      else { l with allocated := insert ⟨pid, uid, memory, paddr, size⟩ l.allocated }
  | .sceCodecEngineFreeMemoryFromUnmapMemBlock uid p ret =>
      if ret.toInt < 0 then l
      else { l with allocated := l.allocated.filter fun a => ¬ a.IsAt pid uid p }
  | .sceVeneziaOpenPublicMemory pa size vnzVaddr =>
      if vnzVaddr = 0 then l else { l with opened := insert ⟨vnzVaddr, pa, size⟩ l.opened }
  | .sceVeneziaClosePublicMemory vnzVaddr size pa =>
      if pa = 0 then l else { l with opened := l.opened.erase ⟨vnzVaddr, pa, size⟩ }
  | _ => l

/-- What the events of a log, newest first, do to the ledger. -/
def Ledger.after (pid : Pid) (paddr : Word) (l : Ledger) (log : List Event) : Ledger :=
  log.foldr (Ledger.apply pid paddr) l

/-- The ranges correspond one to one: the same physical memory of the same size. -/
def Ledger.Corresponds (l : Ledger) : Prop :=
  Matched (fun a : AllocatedRange => (a.paddr, a.size)) (fun o : PublicRange => (o.paddr, o.size))
    l.allocated l.opened

/-! ### What the services do -/

/-- A service call succeeds with its effect only where there is one to have: memory is allocated
at an address and a place that are free, what is freed has been allocated and what is closed is
open. On allocated memory the translations are inverse to each other. -/
def Event.Faithful (pid : Pid) (paddr : Word) (l : Ledger) : Event → Prop
  | .sceCodecEngineAllocMemoryFromUnmapMemBlock _ _ _ memory =>
      memory ≠ 0 → ∀ a ∈ l.allocated, a.paddr ≠ paddr ∧ (a.pid = pid → a.memory ≠ memory)
  | .sceCodecEngineFreeMemoryFromUnmapMemBlock uid p ret =>
      0 ≤ ret.toInt → ∃ a ∈ l.allocated, a.IsAt pid uid p
  | .sceVeneziaClosePublicMemory vnzVaddr size pa =>
      pa ≠ 0 → ⟨vnzVaddr, pa, size⟩ ∈ l.opened
  | .sceCodecEngineUnmap .userVAtoPA _ memory reply =>
      0 ≤ reply.ret.toInt →
        ∀ a ∈ l.allocated, a.pid = pid → a.memory = memory → reply.out = some a.paddr
  | .sceCodecEngineUnmap .paToUserVA _ pa reply =>
      0 ≤ reply.ret.toInt →
        ∃ memory, reply.out = some memory ∧
          ∀ a ∈ l.allocated, a.pid = pid → (a.paddr = pa ↔ a.memory = memory)
  | _ => True

/-- Every event of the log is faithful in the ledger behind the events before it. -/
def FaithfulLog (pid : Pid) (paddr : Word) (l : Ledger) : List Event → Prop
  | [] => True
  | e :: log => e.Faithful pid paddr (l.after pid paddr log) ∧ FaithfulLog pid paddr l log

/-! ### Runs -/

/-- The two functions. -/
inductive UnmapCall where
  | vnzBridgeAllocUnmapMemory (uid size alignment vnzVaddr : Word)
  | vnzBridgeFreeUnmapMemory (uid vnzVaddr size : Word)

/-- A call of one of them as an exported function. -/
def UnmapCall.call : UnmapCall → Call
  | .vnzBridgeAllocUnmapMemory uid size alignment vnzVaddr =>
      .vnzBridgeAllocUnmapMemory uid size alignment vnzVaddr
  | .vnzBridgeFreeUnmapMemory uid vnzVaddr size => .vnzBridgeFreeUnmapMemory uid vnzVaddr size

/-- A call by a process, the answers of the services, and where the memory lies that it
allocates. -/
structure UnmapStep where
  pid : Pid
  call : UnmapCall
  sv : Services
  paddr : Word := 0

/-- It is a step of the plugin. -/
def UnmapStep.step (e : UnmapStep) : Step := .call e.pid e.call.call e.sv

/-- The events that a step logs, newest first. -/
def newEvents (w : World) (e : Step) : List Event :=
  (step w e).trace.take ((step w e).trace.length - w.trace.length)

lemma newEvents_eq {w : World} {e : Step} {log : List Event}
    (h : (step w e).trace = log ++ w.trace) : newEvents w e = log := by
  rw [newEvents, h]
  simp

/-- The plugin together with the ledger. -/
structure Ledgered where
  world : World
  ledger : Ledger

namespace Ledgered

/-- A step of the plugin, and what its events do to the ledger. -/
def step (t : Ledgered) (e : UnmapStep) : Ledgered :=
  ⟨VVNZRunner.step t.world e.step, t.ledger.after e.pid e.paddr (newEvents t.world e.step)⟩

/-- Nothing is allocated or open. -/
def start (w : World) : Ledgered := ⟨w, ∅, ∅⟩

/-- The services are faithful during the step. -/
def Faithful (t : Ledgered) (e : UnmapStep) : Prop :=
  FaithfulLog e.pid e.paddr t.ledger (newEvents t.world e.step)

end Ledgered

/-- The call is right: the ranges correspond behind it, an error leaves both sets as they were,
and an allocation that succeeds has delivered the address of the range it opened. -/
structure UnmapOk (t : Ledgered) (e : UnmapStep) : Prop where
  corresponds : (t.step e).ledger.Corresponds
  unchanged : (ret t.world e.step).toInt < 0 → (t.step e).ledger = t.ledger
  delivered : ∀ uid size alignment vnzVaddr,
    e.call = .vnzBridgeAllocUnmapMemory uid size alignment vnzVaddr →
      0 ≤ (ret t.world e.step).toInt →
        ∃ o ∉ t.ledger.opened, (t.step e).ledger.opened = insert o t.ledger.opened ∧
          (vnzVaddr, wordBytes o.vnzVaddr) ∈ userStores (newEvents t.world e.step)

/-- What follows the first effect of the call does not fail: the copy of the address of memory
that could be allocated and opened, the undo of memory that could be allocated only, and the
translation and the free of memory that could be closed. -/
def UnmapStep.UndoSucceeds (e : UnmapStep) : Prop :=
  match e.call with
  | .vnzBridgeAllocUnmapMemory _ _ _ vnzVaddr =>
      vnzVaddr ≠ 0 → e.sv.sceCodecEngineAllocMemoryFromUnmapMemBlock ≠ 0 →
        if 0 ≤ (e.sv.sceCodecEngineUnmap .userVAtoPA).ret.toInt ∧
          e.sv.sceVeneziaOpenPublicMemory ≠ 0 then 0 ≤ e.sv.sceKernelCopyToUser.toInt
        else 0 ≤ e.sv.sceCodecEngineFreeMemoryFromUnmapMemBlock.toInt
  | .vnzBridgeFreeUnmapMemory _ vnzVaddr size =>
      vnzVaddr ≠ 0 → size ≠ 0 → e.sv.sceVeneziaClosePublicMemory ≠ 0 →
        0 ≤ (e.sv.sceCodecEngineUnmap .paToUserVA).ret.toInt ∧
          0 ≤ e.sv.sceCodecEngineFreeMemoryFromUnmapMemBlock.toInt

/-! ### The ledger -/

variable {pid : Pid} {paddr : Word} {l : Ledger}

/-- Allocated ranges lie at different places. -/
def Ledger.Distinct (l : Ledger) : Prop :=
  ∀ a ∈ l.allocated, ∀ a' ∈ l.allocated, a.paddr = a'.paddr → a = a'

/-- A faithful service allocates at a place of its own. -/
lemma Ledger.Distinct.apply {e : Event} (h : l.Distinct) (he : e.Faithful pid paddr l) :
    (l.apply pid paddr e).Distinct := by
  cases e with
  | sceCodecEngineAllocMemoryFromUnmapMemBlock uid size alignment memory =>
      rw [Ledger.apply]
      split_ifs with hmem
      · exact h
      · have hfresh : ∀ a ∈ l.allocated, a.paddr ≠ paddr := fun a ha => (he hmem a ha).1
        intro a ha a' ha' heq
        rcases Finset.mem_insert.mp ha with rfl | ha <;>
          rcases Finset.mem_insert.mp ha' with rfl | ha'
        · rfl
        · exact absurd heq.symm (hfresh a' ha')
        · exact absurd heq (hfresh a ha)
        · exact h a ha a' ha' heq
  | sceCodecEngineFreeMemoryFromUnmapMemBlock uid p ret =>
      rw [Ledger.apply]
      split_ifs with hret
      · exact h
      · exact fun a ha a' ha' => h a (Finset.mem_filter.mp ha).1 a' (Finset.mem_filter.mp ha').1
  | sceVeneziaOpenPublicMemory pa size vnzVaddr =>
      rw [Ledger.apply]
      split_ifs <;> exact h
  | sceVeneziaClosePublicMemory vnzVaddr size pa =>
      rw [Ledger.apply]
      split_ifs <;> exact h
  | _ => exact h

/-- Behind a faithful log the allocated ranges lie at different places. -/
lemma Ledger.Distinct.after {log : List Event} (h : l.Distinct)
    (hlog : FaithfulLog pid paddr l log) : (l.after pid paddr log).Distinct := by
  induction log with
  | nil => exact h
  | cons e log ih => exact (ih hlog.2).apply hlog.1

/-! ### `vnzBridgeAllocUnmapMemory`, exit by exit -/

section Alloc

variable (uid size alignment vnzVaddr : Word) (sv : Services)

/-- The events of the function. -/
def allocEvent : Event :=
  .sceCodecEngineAllocMemoryFromUnmapMemBlock uid size alignment
    sv.sceCodecEngineAllocMemoryFromUnmapMemBlock

def toPhysicalEvent : Event :=
  .sceCodecEngineUnmap .userVAtoPA sceKernelProcessIdSelf
    sv.sceCodecEngineAllocMemoryFromUnmapMemBlock (sv.sceCodecEngineUnmap .userVAtoPA)

def openEvent : Event :=
  .sceVeneziaOpenPublicMemory ((sv.sceCodecEngineUnmap .userVAtoPA).out.getD 0) size
    sv.sceVeneziaOpenPublicMemory

def deliverEvent : Event :=
  .sceKernelCopyToUser vnzVaddr .local (wordBytes sv.sceVeneziaOpenPublicMemory)
    sv.sceKernelCopyToUser

def undoEvent : Event :=
  .sceCodecEngineFreeMemoryFromUnmapMemBlock uid
    sv.sceCodecEngineAllocMemoryFromUnmapMemBlock sv.sceCodecEngineFreeMemoryFromUnmapMemBlock

/-- The exits of `vnzBridgeAllocUnmapMemory`: the guards passed on the way, the value and the
events, newest first. -/
inductive AllocOutcome : Word → List Event → Prop
  | badPointer (hptr : vnzVaddr = 0) : AllocOutcome sceErrorErrnoEINVAL []
  | notAllocated (hptr : vnzVaddr ≠ 0)
      (hmem : sv.sceCodecEngineAllocMemoryFromUnmapMemBlock = 0) :
      AllocOutcome sceErrorErrnoEINVAL [allocEvent uid size alignment sv]
  | notTranslated (hptr : vnzVaddr ≠ 0)
      (hmem : sv.sceCodecEngineAllocMemoryFromUnmapMemBlock ≠ 0)
      (hret : (sv.sceCodecEngineUnmap .userVAtoPA).ret.toInt < 0) :
      AllocOutcome (sv.sceCodecEngineUnmap .userVAtoPA).ret
        [undoEvent uid sv, toPhysicalEvent sv, allocEvent uid size alignment sv]
  | notOpened (hptr : vnzVaddr ≠ 0)
      (hmem : sv.sceCodecEngineAllocMemoryFromUnmapMemBlock ≠ 0)
      (hret : 0 ≤ (sv.sceCodecEngineUnmap .userVAtoPA).ret.toInt)
      (hopen : sv.sceVeneziaOpenPublicMemory = 0) :
      AllocOutcome sceErrorErrnoEINVAL
        [undoEvent uid sv, openEvent size sv, toPhysicalEvent sv, allocEvent uid size alignment sv]
  | opened (hptr : vnzVaddr ≠ 0)
      (hmem : sv.sceCodecEngineAllocMemoryFromUnmapMemBlock ≠ 0)
      (hret : 0 ≤ (sv.sceCodecEngineUnmap .userVAtoPA).ret.toInt)
      (hopen : sv.sceVeneziaOpenPublicMemory ≠ 0) :
      AllocOutcome (sv.sceCodecEngineUnmap .userVAtoPA).ret
        [deliverEvent vnzVaddr sv, openEvent size sv, toPhysicalEvent sv,
          allocEvent uid size alignment sv]

/-- Every call of `vnzBridgeAllocUnmapMemory` leaves by one of the five exits. -/
theorem alloc_outcome (w : World) :
    ∃ log, AllocOutcome uid size alignment vnzVaddr sv
        (vnzBridgeAllocUnmapMemory uid size alignment vnzVaddr sv w).1 log ∧
      (vnzBridgeAllocUnmapMemory uid size alignment vnzVaddr sv w).2.trace = log ++ w.trace := by
  rw [vnzBridgeAllocUnmapMemory]
  by_cases hptr : vnzVaddr = 0
  · rw [if_pos hptr]
    exact ⟨[], .badPointer hptr, rfl⟩
  · rw [if_neg hptr]
    by_cases hmem : sv.sceCodecEngineAllocMemoryFromUnmapMemBlock = 0
    · dsimp only
      rw [if_pos hmem]
      exact ⟨_, .notAllocated hptr hmem, rfl⟩
    · dsimp only
      rw [if_neg hmem]
      by_cases hret : (sv.sceCodecEngineUnmap .userVAtoPA).ret.toInt < 0
      · rw [if_pos hret]
        exact ⟨_, .notTranslated hptr hmem hret, rfl⟩
      · rw [if_neg hret]
        rw [not_lt] at hret
        by_cases hopen : sv.sceVeneziaOpenPublicMemory = 0
        · rw [if_pos hopen]
          exact ⟨_, .notOpened hptr hmem hret hopen, rfl⟩
        · rw [if_neg hopen]
          exact ⟨_, .opened hptr hmem hret hopen, rfl⟩

end Alloc

/-! ### `vnzBridgeFreeUnmapMemory`, exit by exit -/

section Free

variable (uid vnzVaddr size : Word) (sv : Services)

/-- The events of the function. -/
def closeEvent : Event :=
  .sceVeneziaClosePublicMemory vnzVaddr size sv.sceVeneziaClosePublicMemory

def toUserEvent : Event :=
  .sceCodecEngineUnmap .paToUserVA sceKernelProcessIdSelf sv.sceVeneziaClosePublicMemory
    (sv.sceCodecEngineUnmap .paToUserVA)

def freeEvent : Event :=
  .sceCodecEngineFreeMemoryFromUnmapMemBlock uid ((sv.sceCodecEngineUnmap .paToUserVA).out.getD 0)
    sv.sceCodecEngineFreeMemoryFromUnmapMemBlock

/-- The exits of `vnzBridgeFreeUnmapMemory`: the guards passed on the way, the value and the
events, newest first. -/
inductive FreeOutcome : Word → List Event → Prop
  | badArgument (hargs : vnzVaddr = 0 ∨ size = 0) : FreeOutcome sceErrorErrnoEINVAL []
  | notClosed (hargs : ¬ (vnzVaddr = 0 ∨ size = 0)) (hpa : sv.sceVeneziaClosePublicMemory = 0) :
      FreeOutcome sceErrorErrnoEINVAL [closeEvent vnzVaddr size sv]
  | notTranslated (hargs : ¬ (vnzVaddr = 0 ∨ size = 0))
      (hpa : sv.sceVeneziaClosePublicMemory ≠ 0)
      (hret : (sv.sceCodecEngineUnmap .paToUserVA).ret.toInt < 0) :
      FreeOutcome (sv.sceCodecEngineUnmap .paToUserVA).ret
        [toUserEvent sv, closeEvent vnzVaddr size sv]
  | closed (hargs : ¬ (vnzVaddr = 0 ∨ size = 0)) (hpa : sv.sceVeneziaClosePublicMemory ≠ 0)
      (hret : 0 ≤ (sv.sceCodecEngineUnmap .paToUserVA).ret.toInt) :
      FreeOutcome sv.sceCodecEngineFreeMemoryFromUnmapMemBlock
        [freeEvent uid sv, toUserEvent sv, closeEvent vnzVaddr size sv]

/-- Every call of `vnzBridgeFreeUnmapMemory` leaves by one of the four exits. -/
theorem free_outcome (w : World) :
    ∃ log, FreeOutcome uid vnzVaddr size sv
        (vnzBridgeFreeUnmapMemory uid vnzVaddr size sv w).1 log ∧
      (vnzBridgeFreeUnmapMemory uid vnzVaddr size sv w).2.trace = log ++ w.trace := by
  rw [vnzBridgeFreeUnmapMemory]
  by_cases hargs : vnzVaddr = 0 ∨ size = 0
  · rw [if_pos hargs]
    exact ⟨[], .badArgument hargs, rfl⟩
  · rw [if_neg hargs]
    by_cases hpa : sv.sceVeneziaClosePublicMemory = 0
    · dsimp only
      rw [if_pos hpa]
      exact ⟨_, .notClosed hargs hpa, rfl⟩
    · dsimp only
      rw [if_neg hpa]
      by_cases hret : (sv.sceCodecEngineUnmap .paToUserVA).ret.toInt < 0
      · rw [if_pos hret]
        exact ⟨_, .notTranslated hargs hpa hret, rfl⟩
      · rw [if_neg hret]
        exact ⟨_, .closed hargs hpa (not_lt.mp hret), rfl⟩

end Free

/-! ### One call -/

section Call

variable {t : Ledgered} {uid size alignment vnzVaddr : Word} {sv : Services}

/-- The value a step returns and the events it logs. -/
structure Logged (t : Ledgered) (e : UnmapStep) (r : Word) (log : List Event) : Prop where
  ret : ret t.world e.step = r
  events : newEvents t.world e.step = log

lemma Logged.ledger {e : UnmapStep} {r : Word} {log : List Event} (h : Logged t e r log) :
    (t.step e).ledger = t.ledger.after e.pid e.paddr log := by
  rw [Ledgered.step, h.events]

lemma Logged.faithful {e : UnmapStep} {r : Word} {log : List Event} (h : Logged t e r log)
    (hfaith : t.Faithful e) : FaithfulLog e.pid e.paddr t.ledger log := by
  rw [← h.events]
  exact hfaith

lemma alloc_logged (t : Ledgered) (pid : Pid) (uid size alignment vnzVaddr : Word) (sv : Services)
    (paddr : Word) : ∃ r log, AllocOutcome uid size alignment vnzVaddr sv r log ∧
      Logged t ⟨pid, .vnzBridgeAllocUnmapMemory uid size alignment vnzVaddr, sv, paddr⟩ r log := by
  obtain ⟨log, hout, htrace⟩ := alloc_outcome uid size alignment vnzVaddr sv t.world
  exact ⟨_, log, hout, rfl, newEvents_eq htrace⟩

lemma free_logged (t : Ledgered) (pid : Pid) (uid vnzVaddr size : Word) (sv : Services)
    (paddr : Word) : ∃ r log, FreeOutcome uid vnzVaddr size sv r log ∧
      Logged t ⟨pid, .vnzBridgeFreeUnmapMemory uid vnzVaddr size, sv, paddr⟩ r log := by
  obtain ⟨log, hout, htrace⟩ := free_outcome uid vnzVaddr size sv t.world
  exact ⟨_, log, hout, rfl, newEvents_eq htrace⟩

/-- A call that returns an error is right exactly if it leaves the ledger as it was. -/
lemma Logged.ok_iff_of_neg {e : UnmapStep} {r : Word} {log : List Event} (h : Logged t e r log)
    (hcorr : t.ledger.Corresponds) (hneg : r.toInt < 0) :
    UnmapOk t e ↔ t.ledger.after e.pid e.paddr log = t.ledger := by
  have hret : (VVNZRunner.ret t.world e.step).toInt < 0 := by
    rw [h.ret]
    exact hneg
  rw [← h.ledger]
  constructor
  · exact fun hok => hok.unchanged hret
  · intro hsame
    refine ⟨?_, fun _ => hsame, fun _ _ _ _ _ hpos => absurd hret (by omega)⟩
    rw [hsame]
    exact hcorr

lemma apply_allocEvent (hmem : sv.sceCodecEngineAllocMemoryFromUnmapMemBlock ≠ 0) :
    l.apply pid paddr (allocEvent uid size alignment sv) =
      { l with
        allocated := insert
          ⟨pid, uid, sv.sceCodecEngineAllocMemoryFromUnmapMemBlock, paddr, size⟩ l.allocated } :=
  if_neg hmem

/-- **The undo of an allocation restores the ledger exactly if** it succeeds. -/
lemma undo_iff (hmem : sv.sceCodecEngineAllocMemoryFromUnmapMemBlock ≠ 0)
    (hfaith : (allocEvent uid size alignment sv).Faithful pid paddr l) :
    (l.apply pid paddr (allocEvent uid size alignment sv)).apply pid paddr (undoEvent uid sv) = l ↔
      0 ≤ sv.sceCodecEngineFreeMemoryFromUnmapMemBlock.toInt := by
  rw [apply_allocEvent hmem]
  by_cases hfail : sv.sceCodecEngineFreeMemoryFromUnmapMemBlock.toInt < 0
  · refine iff_of_false (fun hsame => ?_) (by omega)
    rw [undoEvent, Ledger.apply, if_pos hfail] at hsame
    have hold : (⟨pid, uid, sv.sceCodecEngineAllocMemoryFromUnmapMemBlock, paddr, size⟩ :
        AllocatedRange) ∈ l.allocated := by
      rw [← congrArg Ledger.allocated hsame]
      exact Finset.mem_insert_self _ _
    exact (hfaith hmem _ hold).1 rfl
  · refine iff_of_true ?_ (by omega)
    rw [undoEvent, Ledger.apply, if_neg hfail]
    have hkept : ∀ a ∈ l.allocated,
        ¬ a.IsAt pid uid sv.sceCodecEngineAllocMemoryFromUnmapMemBlock :=
      fun a ha hat => (hfaith hmem a ha).2 hat.1 hat.2.2
    dsimp only
    rw [Finset.filter_insert, if_neg (not_not.mpr ⟨rfl, rfl, rfl⟩),
      Finset.filter_true_of_mem hkept]

/-- What an allocation leaves that could be opened: the range on both sides. -/
lemma after_opened (hmem : sv.sceCodecEngineAllocMemoryFromUnmapMemBlock ≠ 0)
    (hpos : 0 ≤ (sv.sceCodecEngineUnmap .userVAtoPA).ret.toInt)
    (hopen : sv.sceVeneziaOpenPublicMemory ≠ 0)
    (hfaith : (toPhysicalEvent sv).Faithful pid paddr
      (l.apply pid paddr (allocEvent uid size alignment sv))) :
    l.after pid paddr [deliverEvent vnzVaddr sv, openEvent size sv, toPhysicalEvent sv,
        allocEvent uid size alignment sv] =
      ⟨insert ⟨pid, uid, sv.sceCodecEngineAllocMemoryFromUnmapMemBlock, paddr, size⟩ l.allocated,
        insert ⟨sv.sceVeneziaOpenPublicMemory, paddr, size⟩ l.opened⟩ := by
  rw [apply_allocEvent hmem] at hfaith
  have hout : (sv.sceCodecEngineUnmap .userVAtoPA).out = some paddr :=
    hfaith hpos _ (Finset.mem_insert_self _ _) rfl rfl
  calc l.after pid paddr [deliverEvent vnzVaddr sv, openEvent size sv, toPhysicalEvent sv,
        allocEvent uid size alignment sv]
      = (l.apply pid paddr (allocEvent uid size alignment sv)).apply pid paddr
          (openEvent size sv) := rfl
    _ = _ := by
        rw [apply_allocEvent hmem, openEvent, hout, Ledger.apply, if_neg hopen]
        rfl

/-- What an allocation stores in user memory that could be opened. -/
lemma userStores_opened : userStores [deliverEvent vnzVaddr sv, openEvent size sv,
      toPhysicalEvent sv, allocEvent uid size alignment sv] =
    localStore vnzVaddr (wordBytes sv.sceVeneziaOpenPublicMemory) sv := by
  rw [userStores, localStore, deliverEvent]
  split_ifs with hfail <;>
    simp [Event.copyOut, openEvent, toPhysicalEvent, allocEvent, hfail]

/-- An allocation that could be opened is right exactly if its address is copied out. -/
lemma unmapOk_opened_iff (hcorr : t.ledger.Corresponds)
    (hlog : Logged t ⟨pid, .vnzBridgeAllocUnmapMemory uid size alignment vnzVaddr, sv, paddr⟩
      (sv.sceCodecEngineUnmap .userVAtoPA).ret
      [deliverEvent vnzVaddr sv, openEvent size sv, toPhysicalEvent sv,
        allocEvent uid size alignment sv])
    (hpos : 0 ≤ (sv.sceCodecEngineUnmap .userVAtoPA).ret.toInt)
    (hfresh : ∀ a ∈ t.ledger.allocated, a.paddr ≠ paddr)
    (hafter : t.ledger.after pid paddr [deliverEvent vnzVaddr sv, openEvent size sv,
        toPhysicalEvent sv, allocEvent uid size alignment sv] =
      ⟨insert ⟨pid, uid, sv.sceCodecEngineAllocMemoryFromUnmapMemBlock, paddr, size⟩
          t.ledger.allocated,
        insert ⟨sv.sceVeneziaOpenPublicMemory, paddr, size⟩ t.ledger.opened⟩) :
    UnmapOk t ⟨pid, .vnzBridgeAllocUnmapMemory uid size alignment vnzVaddr, sv, paddr⟩ ↔
      0 ≤ sv.sceKernelCopyToUser.toInt := by
  have hledger := hlog.ledger.trans hafter
  constructor
  · intro hok
    obtain ⟨o, -, -, hstored⟩ := hok.delivered uid size alignment vnzVaddr rfl
      (by rw [hlog.ret]; exact hpos)
    rw [hlog.events, userStores_opened, localStore] at hstored
    split_ifs at hstored with hfail
    · cases hstored
    · omega
  · intro hcopy
    refine ⟨?_, fun hneg => ?_, ?_⟩
    · rw [hledger]
      refine Matched.insert hcorr rfl fun a ha hkey => ?_
      exact hfresh a ha (congrArg Prod.fst hkey)
    · rw [hlog.ret] at hneg
      omega
    · intro uid' size' alignment' vnzVaddr' hcall _
      cases hcall
      refine ⟨⟨sv.sceVeneziaOpenPublicMemory, paddr, size⟩, fun hold => ?_, by rw [hledger], ?_⟩
      · obtain ⟨a, ⟨ha, hkey⟩, -⟩ := hcorr.right _ hold
        exact hfresh a ha (congrArg Prod.fst hkey)
      · rw [hlog.events, userStores_opened, localStore, if_neg (by omega)]
        exact List.mem_singleton_self _

/-- **An allocation is right exactly if** what follows its first effect succeeds. -/
lemma unmapOk_alloc_iff (hcorr : t.ledger.Corresponds)
    (hfaith : t.Faithful
      ⟨pid, .vnzBridgeAllocUnmapMemory uid size alignment vnzVaddr, sv, paddr⟩) :
    UnmapOk t ⟨pid, .vnzBridgeAllocUnmapMemory uid size alignment vnzVaddr, sv, paddr⟩ ↔
      UnmapStep.UndoSucceeds
        ⟨pid, .vnzBridgeAllocUnmapMemory uid size alignment vnzVaddr, sv, paddr⟩ := by
  obtain ⟨r, log, hout, hlog⟩ := alloc_logged t pid uid size alignment vnzVaddr sv paddr
  have hfaith : FaithfulLog pid paddr t.ledger log := hlog.faithful hfaith
  have heinval : sceErrorErrnoEINVAL.toInt < 0 := by decide
  rw [UnmapStep.UndoSucceeds]
  dsimp only
  cases hout with
  | badPointer hptr =>
      rw [hlog.ok_iff_of_neg hcorr heinval]
      exact iff_of_true rfl fun hno => absurd hptr hno
  | notAllocated hptr hmem =>
      rw [hlog.ok_iff_of_neg hcorr heinval]
      have hsame : t.ledger.after pid paddr [allocEvent uid size alignment sv] = t.ledger :=
        if_pos hmem
      exact iff_of_true hsame fun _ hno => absurd hmem hno
  | notTranslated hptr hmem hneg =>
      rw [hlog.ok_iff_of_neg hcorr hneg, imp_iff_right hptr, imp_iff_right hmem,
        if_neg fun hno => absurd hno.1 (by omega)]
      exact undo_iff hmem hfaith.2.2.1
  | notOpened hptr hmem hpos hopen =>
      rw [hlog.ok_iff_of_neg hcorr heinval, imp_iff_right hptr, imp_iff_right hmem,
        if_neg fun hno => hno.2 hopen, ← undo_iff hmem hfaith.2.2.2.1]
      have hnone : ∀ l : Ledger, l.apply pid paddr (openEvent size sv) = l := fun l => if_pos hopen
      change ((t.ledger.after pid paddr
        [toPhysicalEvent sv, allocEvent uid size alignment sv]).apply pid paddr
          (openEvent size sv)).apply pid paddr (undoEvent uid sv) = t.ledger ↔ _
      rw [hnone]
      exact Iff.rfl
  | opened hptr hmem hpos hopen =>
      rw [imp_iff_right hptr, imp_iff_right hmem, if_pos ⟨hpos, hopen⟩]
      have hfresh : ∀ a ∈ t.ledger.allocated, a.paddr ≠ paddr :=
        fun a ha => (hfaith.2.2.2.1 hmem a ha).1
      exact unmapOk_opened_iff hcorr hlog hpos hfresh (after_opened hmem hpos hopen hfaith.2.2.1)

/-- What the close takes off the open ranges. -/
lemma apply_closeEvent (hpa : sv.sceVeneziaClosePublicMemory ≠ 0) :
    l.apply pid paddr (closeEvent vnzVaddr size sv) =
      { l with
        opened := l.opened.erase ⟨vnzVaddr, sv.sceVeneziaClosePublicMemory, size⟩ } :=
  if_neg hpa

/-- Once a range has been closed the open ranges are not what they were. -/
lemma erase_ne (hpa : sv.sceVeneziaClosePublicMemory ≠ 0)
    (hfaith : (closeEvent vnzVaddr size sv).Faithful pid paddr l) {A : Finset AllocatedRange} :
    (⟨A, l.opened.erase ⟨vnzVaddr, sv.sceVeneziaClosePublicMemory, size⟩⟩ : Ledger) ≠ l := by
  intro hsame
  have hin : ⟨vnzVaddr, sv.sceVeneziaClosePublicMemory, size⟩ ∈ l.opened := hfaith hpa
  rw [← congrArg Ledger.opened hsame] at hin
  exact Finset.notMem_erase _ _ hin

/-- The ranges that are not freed are the others. -/
lemma Ledger.Distinct.filter_isAt {uid memory : Word} {a : AllocatedRange} (h : l.Distinct)
    (ha : a ∈ l.allocated) (hat : a.IsAt pid uid memory)
    (hplace : ∀ x ∈ l.allocated, x.IsAt pid uid memory → x.paddr = a.paddr) :
    (l.allocated.filter fun x => ¬ x.IsAt pid uid memory) = l.allocated.erase a := by
  ext x
  rw [Finset.mem_filter, Finset.mem_erase]
  constructor
  · rintro ⟨hx, hno⟩
    refine ⟨?_, hx⟩
    rintro rfl
    exact hno hat
  · rintro ⟨hne, hx⟩
    exact ⟨hx, fun hxat => hne (h x hx a ha (hplace x hx hxat))⟩

/-- What a free leaves that closes the range and frees the memory: the range is gone on both
sides. -/
lemma corresponds_freed (hcorr : l.Corresponds) (hdist : l.Distinct)
    (hpa : sv.sceVeneziaClosePublicMemory ≠ 0)
    (hpos : 0 ≤ (sv.sceCodecEngineUnmap .paToUserVA).ret.toInt)
    (hfree : 0 ≤ sv.sceCodecEngineFreeMemoryFromUnmapMemBlock.toInt)
    (hfaith : FaithfulLog pid paddr l
      [freeEvent uid sv, toUserEvent sv, closeEvent vnzVaddr size sv]) :
    (l.after pid paddr
      [freeEvent uid sv, toUserEvent sv, closeEvent vnzVaddr size sv]).Corresponds := by
  have hin : ⟨vnzVaddr, sv.sceVeneziaClosePublicMemory, size⟩ ∈ l.opened := hfaith.2.2.1 hpa
  have hclosed : l.apply pid paddr (closeEvent vnzVaddr size sv) =
      { l with opened := l.opened.erase ⟨vnzVaddr, sv.sceVeneziaClosePublicMemory, size⟩ } :=
    apply_closeEvent hpa
  have hinverse : (toUserEvent sv).Faithful pid paddr
      (l.apply pid paddr (closeEvent vnzVaddr size sv)) := hfaith.2.1
  have hfreed : (freeEvent uid sv).Faithful pid paddr
      (l.apply pid paddr (closeEvent vnzVaddr size sv)) := hfaith.1
  rw [hclosed] at hinverse hfreed
  obtain ⟨memory, hout, hinverse⟩ := hinverse hpos
  obtain ⟨a, ha, hat⟩ := hfreed hfree
  rw [hout] at hat
  have hpaddr : a.paddr = sv.sceVeneziaClosePublicMemory := (hinverse a ha hat.1).mpr hat.2.2
  obtain ⟨b, ⟨hb, hkey⟩, -⟩ := hcorr.right _ hin
  have hba : b = a := hdist b hb a ha ((congrArg Prod.fst hkey).trans hpaddr.symm)
  have hfilter : (l.allocated.filter fun x => ¬ x.IsAt pid uid memory) = l.allocated.erase a :=
    hdist.filter_isAt ha hat fun x hx hxat =>
      ((hinverse x hx hxat.1).mpr hxat.2.2).trans hpaddr.symm
  have hafter : l.after pid paddr [freeEvent uid sv, toUserEvent sv, closeEvent vnzVaddr size sv] =
      ⟨l.allocated.erase a,
        l.opened.erase ⟨vnzVaddr, sv.sceVeneziaClosePublicMemory, size⟩⟩ := by
    calc l.after pid paddr [freeEvent uid sv, toUserEvent sv, closeEvent vnzVaddr size sv]
        = (l.apply pid paddr (closeEvent vnzVaddr size sv)).apply pid paddr
            (freeEvent uid sv) := rfl
      _ = ⟨l.allocated.filter fun x => ¬ x.IsAt pid uid memory,
            l.opened.erase ⟨vnzVaddr, sv.sceVeneziaClosePublicMemory, size⟩⟩ := by
          rw [hclosed, freeEvent, hout, Ledger.apply, if_neg (by omega)]
          rfl
      _ = _ := by rw [hfilter]
  rw [hafter]
  rw [hba] at hkey
  exact Matched.erase hcorr ha hin hkey

/-- **A free is right exactly if** what follows its first effect succeeds. -/
lemma unmapOk_free_iff (hcorr : t.ledger.Corresponds) (hdist : t.ledger.Distinct)
    (hfaith : t.Faithful ⟨pid, .vnzBridgeFreeUnmapMemory uid vnzVaddr size, sv, paddr⟩) :
    UnmapOk t ⟨pid, .vnzBridgeFreeUnmapMemory uid vnzVaddr size, sv, paddr⟩ ↔
      UnmapStep.UndoSucceeds ⟨pid, .vnzBridgeFreeUnmapMemory uid vnzVaddr size, sv, paddr⟩ := by
  obtain ⟨r, log, hout, hlog⟩ := free_logged t pid uid vnzVaddr size sv paddr
  have hfaith : FaithfulLog pid paddr t.ledger log := hlog.faithful hfaith
  have heinval : sceErrorErrnoEINVAL.toInt < 0 := by decide
  rw [UnmapStep.UndoSucceeds]
  dsimp only
  cases hout with
  | badArgument hargs =>
      rw [hlog.ok_iff_of_neg hcorr heinval]
      exact iff_of_true rfl fun hptr hsize => absurd hargs (not_or.mpr ⟨hptr, hsize⟩)
  | notClosed hargs hpa =>
      rw [hlog.ok_iff_of_neg hcorr heinval]
      have hsame : t.ledger.after pid paddr [closeEvent vnzVaddr size sv] = t.ledger := if_pos hpa
      exact iff_of_true hsame fun _ _ hno => absurd hpa hno
  | notTranslated hargs hpa hneg =>
      obtain ⟨hptr, hsize⟩ := not_or.mp hargs
      rw [hlog.ok_iff_of_neg hcorr hneg]
      refine iff_of_false ?_ fun hok => absurd (hok hptr hsize hpa).1 (by omega)
      change t.ledger.apply pid paddr (closeEvent vnzVaddr size sv) ≠ _
      rw [apply_closeEvent hpa]
      exact erase_ne hpa hfaith.2.1
  | closed hargs hpa hpos =>
      obtain ⟨hptr, hsize⟩ := not_or.mp hargs
      by_cases hfree : 0 ≤ sv.sceCodecEngineFreeMemoryFromUnmapMemBlock.toInt
      · refine iff_of_true ⟨?_, fun hneg => ?_, fun _ _ _ _ hcall => ?_⟩ fun _ _ _ => ⟨hpos, hfree⟩
        · rw [hlog.ledger]
          exact corresponds_freed hcorr hdist hpa hpos hfree hfaith
        · rw [hlog.ret] at hneg
          omega
        · cases hcall
      · rw [hlog.ok_iff_of_neg hcorr (by omega)]
        refine iff_of_false ?_ fun hok => hfree (hok hptr hsize hpa).2
        change (t.ledger.apply pid paddr (closeEvent vnzVaddr size sv)).apply pid paddr
          (freeEvent uid sv) ≠ _
        rw [apply_closeEvent hpa, freeEvent, Ledger.apply, if_pos (by omega)]
        exact erase_ne hpa hfaith.2.2.1

end Call

/-! ### Whole runs -/

/-- What the ledger is along a run whose calls are right. -/
structure Ledger.Sound (l : Ledger) : Prop where
  corresponds : l.Corresponds
  distinct : l.Distinct

/-- **A call is right exactly if** what follows its first effect succeeds. -/
theorem unmapOk_iff {t : Ledgered} {e : UnmapStep} (h : t.ledger.Sound) (hfaith : t.Faithful e) :
    UnmapOk t e ↔ e.UndoSucceeds := by
  obtain ⟨pid, c, sv, paddr⟩ := e
  cases c with
  | vnzBridgeAllocUnmapMemory uid size alignment vnzVaddr =>
      exact unmapOk_alloc_iff h.corresponds hfaith
  | vnzBridgeFreeUnmapMemory uid vnzVaddr size =>
      exact unmapOk_free_iff h.corresponds h.distinct hfaith

/-- **No memory is half allocated exactly if** in every call what follows the first effect
succeeds: along every run of the two functions, with any arguments and any failures of faithful
services, the ranges allocated and the ranges open correspond, an error changes neither, and a
successful allocation delivers its address. -/
theorem unmap_memory_iff (w : World) (es : List UnmapStep)
    (hfaith : Admissible Ledgered.step Ledgered.Faithful (Ledgered.start w) es) :
    Admissible Ledgered.step UnmapOk (Ledgered.start w) es ↔ ∀ e ∈ es, e.UndoSucceeds := by
  have hstart : (Ledgered.start w).ledger.Sound :=
    ⟨Matched.empty, fun a ha => absurd ha (Finset.notMem_empty a)⟩
  have hstep : ∀ (t : Ledgered) (e : UnmapStep), t.ledger.Sound → t.Faithful e →
      e.UndoSucceeds → (t.step e).ledger.Sound :=
    fun t e h hfaith he => ⟨((unmapOk_iff h hfaith).mpr he).corresponds, h.distinct.after hfaith⟩
  have hevery : Admissible Ledgered.step (fun _ e => e.UndoSucceeds) (Ledgered.start w) es ↔
      ∀ e ∈ es, e.UndoSucceeds := admissible_iff_forall
  rw [← hevery]
  exact admissible_iff_admissible (P := fun t : Ledgered => t.ledger.Sound)
    (fun t e h hfaith => unmapOk_iff h hfaith) hstep hstart hfaith

/-! ### A free with the wrong block -/

/-- An allocation from block `0x40` that succeeds. -/
def sampleAlloc : UnmapStep where
  pid := samplePid
  call := .vnzBridgeAllocUnmapMemory 0x40 0x1000 0x1000 0x81200000
  sv :=
    { sceCodecEngineAllocMemoryFromUnmapMemBlock := 0x90000000
      sceCodecEngineUnmap := fun _ => { ret := 0, out := some 0x30000000 }
      sceVeneziaOpenPublicMemory := 0x60000000 }
  paddr := 0x30000000

/-- The free of its memory from the block `uid`, which answers `ret`. -/
def sampleFree (uid ret : Word) : UnmapStep where
  pid := samplePid
  call := .vnzBridgeFreeUnmapMemory uid 0x60000000 0x1000
  sv :=
    { sceVeneziaClosePublicMemory := 0x30000000
      sceCodecEngineUnmap := fun _ => { ret := 0, out := some 0x90000000 }
      sceCodecEngineFreeMemoryFromUnmapMemBlock := ret }

lemma newEvents_sampleAlloc (w : World) : newEvents w sampleAlloc.step =
    [.sceKernelCopyToUser 0x81200000 .local (wordBytes 0x60000000) 0,
      .sceVeneziaOpenPublicMemory 0x30000000 0x1000 0x60000000,
      .sceCodecEngineUnmap .userVAtoPA sceKernelProcessIdSelf 0x90000000 ⟨0, some 0x30000000⟩,
      .sceCodecEngineAllocMemoryFromUnmapMemBlock 0x40 0x1000 0x1000 0x90000000] :=
  newEvents_eq rfl

lemma newEvents_sampleFree (w : World) (uid r : Word) : newEvents w (sampleFree uid r).step =
    [.sceCodecEngineFreeMemoryFromUnmapMemBlock uid 0x90000000 r,
      .sceCodecEngineUnmap .paToUserVA sceKernelProcessIdSelf 0x30000000 ⟨0, some 0x90000000⟩,
      .sceVeneziaClosePublicMemory 0x60000000 0x1000 0x30000000] :=
  newEvents_eq rfl

/-- The range that the sample allocates. -/
def sampleRange : AllocatedRange := ⟨samplePid, 0x40, 0x90000000, 0x30000000, 0x1000⟩

/-- The ledger behind the allocation. -/
lemma step_sampleAlloc (w : World) : ((Ledgered.start w).step sampleAlloc).ledger =
    ⟨{sampleRange}, {⟨0x60000000, 0x30000000, 0x1000⟩}⟩ := by
  have hlog : newEvents (Ledgered.start w).world sampleAlloc.step = _ := newEvents_sampleAlloc w
  rw [Ledgered.step, hlog]
  rfl

lemma faithful_sampleAlloc (w : World) : (Ledgered.start w).Faithful sampleAlloc := by
  have hlog : newEvents (Ledgered.start w).world sampleAlloc.step = _ := newEvents_sampleAlloc w
  rw [Ledgered.Faithful, hlog]
  refine ⟨trivial, trivial, fun _ a ha _ _ => ?_, fun _ a ha => ?_, trivial⟩
  · have hsample : a = sampleRange := Finset.mem_singleton.mp ha
    rw [hsample]
    rfl
  · exact absurd ha (Finset.notMem_empty a)

/-- Only block `0x40` can be freed from. -/
lemma faithful_sampleFree (w : World) {uid r : Word} (h : 0 ≤ r.toInt → uid = 0x40) :
    ((Ledgered.start w).step sampleAlloc).Faithful (sampleFree uid r) := by
  rw [Ledgered.Faithful, newEvents_sampleFree, step_sampleAlloc]
  refine ⟨fun hr => ?_, fun _ => ⟨0x90000000, rfl, fun a ha _ => ?_⟩, fun _ => ?_, trivial⟩
  · exact ⟨sampleRange, Finset.mem_singleton_self _, rfl, (h hr).symm, rfl⟩
  · have hsample : a = sampleRange := Finset.mem_singleton.mp ha
    rw [hsample]
    exact iff_of_true rfl rfl
  · exact Finset.mem_singleton_self _

/-- The free from another block fails, but the range is no longer open. -/
theorem wrong_block_closes :
    Admissible Ledgered.step Ledgered.Faithful (Ledgered.start (boot 166 fun _ => 0))
        [sampleAlloc, sampleFree 0x41 sceErrorErrnoEINVAL] ∧
      ret ((Ledgered.start (boot 166 fun _ => 0)).step sampleAlloc).world
        (sampleFree 0x41 sceErrorErrnoEINVAL).step = sceErrorErrnoEINVAL ∧
      (run Ledgered.step (Ledgered.start (boot 166 fun _ => 0))
        [sampleAlloc, sampleFree 0x41 sceErrorErrnoEINVAL]).ledger = ⟨{sampleRange}, ∅⟩ ∧
      ¬ Admissible Ledgered.step UnmapOk (Ledgered.start (boot 166 fun _ => 0))
        [sampleAlloc, sampleFree 0x41 sceErrorErrnoEINVAL] := by
  have hneg : ¬ 0 ≤ sceErrorErrnoEINVAL.toInt := by decide
  have hfaith : Admissible Ledgered.step Ledgered.Faithful (Ledgered.start (boot 166 fun _ => 0))
      [sampleAlloc, sampleFree 0x41 sceErrorErrnoEINVAL] :=
    ⟨faithful_sampleAlloc _, faithful_sampleFree _ fun h => absurd h hneg, trivial⟩
  have hledger : (run Ledgered.step (Ledgered.start (boot 166 fun _ => 0))
      [sampleAlloc, sampleFree 0x41 sceErrorErrnoEINVAL]).ledger = ⟨{sampleRange}, ∅⟩ := by
    rw [run_cons, run_cons, run_nil, Ledgered.step, newEvents_sampleFree, step_sampleAlloc]
    decide
  refine ⟨hfaith, rfl, hledger, fun hok => ?_⟩
  have hsame := hok.2.1.unchanged (by decide)
  rw [step_sampleAlloc] at hsame
  exact absurd (hledger.symm.trans hsame) (by decide)

theorem unmap_memory_iff_sampleFree :
    Admissible Ledgered.step UnmapOk (Ledgered.start (boot 166 fun _ => 0))
        [sampleAlloc, sampleFree 0x40 sceOk] ↔
      ∀ e ∈ [sampleAlloc, sampleFree 0x40 sceOk], e.UndoSucceeds :=
  unmap_memory_iff (boot 166 fun _ => 0) [sampleAlloc, sampleFree 0x40 sceOk]
    ⟨faithful_sampleAlloc _, faithful_sampleFree _ fun _ => rfl, trivial⟩

end VVNZRunner
