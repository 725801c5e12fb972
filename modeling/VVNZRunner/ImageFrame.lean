import VVNZRunner.SectionScan
import VVNZRunner.CallBlock

/-!
What the plugin stores over the program it runs.

* `Loaded`: the offsets in the image that belong to the file range of a `SHF_ALLOC`,
  `SHT_PROGBITS` section.
* `Event.Changes`: the event stores another byte at an address than memory has there.
* `ProgramKept`: neither the injection nor any execution of the session changes a loaded byte.
* `HeapFree`: the condition on the image, whose block is also where the comm heap lies.
* `program_kept_iff`: the program is kept exactly if the image leaves the comm heap free.
-/

namespace VVNZRunner

open ByteMemory Machine

/-! ### The loaded bytes of an image -/

def shdrOffset (m : Mem) (shdr : Word) : Word := readWord m (shdr + 16)
def shdrSize (m : Mem) (shdr : Word) : Word := readWord m (shdr + 20)

/-- Section `i` is loaded: it has the type `SHT_PROGBITS` and the flag `SHF_ALLOC`. -/
def IsLoaded (m : Mem) (hdr : Word) (i : ℕ) : Prop :=
  IsProgbits m hdr i ∧ shdrFlags m (shdrAddr m hdr i) &&& shfAlloc ≠ 0

/-- Byte `o` of the image belongs to the range `[sh_offset, sh_offset + sh_size)` of a loaded
section. -/
def Loaded (m : Mem) (hdr : Word) (o : ℕ) : Prop :=
  ∃ i < (ehdrShnum m hdr).toNat, IsLoaded m hdr i ∧
    (shdrOffset m (shdrAddr m hdr i)).toNat ≤ o ∧
    o < (shdrOffset m (shdrAddr m hdr i)).toNat + (shdrSize m (shdrAddr m hdr i)).toNat

/-! ### Stores that change a byte -/

/-- The event stores a byte at `x` that differs from the one `m` has there. -/
def Event.Changes (m : Mem) (x : Word) (e : Event) : Prop :=
  ∃ r ∈ e.kernelStore, InRange r.1 r.2.length x ∧ r.2[(x - r.1).toNat]? ≠ some (m x)

variable {m : Mem} {s : Session} {w w' : World} {x : Word} {o : ℕ}

lemma Event.not_changes_of_none {e : Event} (h : e.kernelStore = none) : ¬ e.Changes m x := by
  rintro ⟨r, hr, -⟩
  rw [h] at hr
  cases hr

/-- A store at byte `p` of the block changes byte `o` exactly if it covers it with another
byte. -/
lemma changes_store_iff {e : Event} {p : ℕ} {bs : List Byte} (ho : o < 2 ^ 32)
    (hp : p + bs.length ≤ 2 ^ 32) (h : e.kernelStore = some (s.at p, bs)) :
    e.Changes m (s.at o) ↔
      p ≤ o ∧ o < p + bs.length ∧ bs[o - p]? ≠ some (m (s.at o)) := by
  have hrange : InRange (s.at p) bs.length (s.at o) ↔ p ≤ o ∧ o < p + bs.length := by
    rw [s.inRange_at hp, s.at_offset ho]
  have hindex : p ≤ o → (s.at o - s.at p).toNat = o - p := by
    intro hle
    obtain ⟨j, rfl⟩ := Nat.exists_eq_add_of_le hle
    rw [s.at_sub_at (by omega), Nat.add_sub_cancel_left]
  rw [Event.Changes, h]
  constructor
  · rintro ⟨r, hr, hin, hne⟩
    cases hr
    obtain ⟨hle, hlt⟩ := hrange.mp hin
    rw [hindex hle] at hne
    exact ⟨hle, hlt, hne⟩
  · rintro ⟨hle, hlt, hne⟩
    refine ⟨_, rfl, hrange.mpr ⟨hle, hlt⟩, ?_⟩
    dsimp only
    rw [hindex hle]
    exact hne

/-- Between `w` and `w'` no store changes the byte at `x`, which `m` has. -/
def Spares (m : Mem) (x : Word) (w w' : World) : Prop := Logs (fun e => ¬ e.Changes m x) w w'

lemma spares_iff {log : List Event} (h : w'.trace = log ++ w.trace) :
    Spares m x w w' ↔ ∀ e ∈ log, ¬ e.Changes m x := by
  constructor
  · rintro ⟨es, hes, hspared⟩
    rw [h, List.append_cancel_right_eq] at hes
    rw [hes]
    exact hspared
  · exact fun hspared => ⟨log, h, hspared⟩

/-! ### The property and the condition -/

section Call

variable {addr size : Word} {pid : Pid} {sv : Services}

/-- The plugin does not damage the program: neither the injection of the image `m`, from `w` to
`w'`, nor, along any run in which the session `s` stays open, an execution changes a byte that
is loaded. -/
structure ProgramKept (m : Mem) (s : Session) (w w' : World) : Prop where
  inject : ∀ o < s.size.toNat, Loaded m s.kernelBase o → Spares m (s.at o) w w'
  exec : ∀ es, Always Tracked.step (fun t => t.session = some s) ⟨w', some s⟩ es →
    Admissible Tracked.step
      (fun t e => ∀ pUserArg n useCoreSuspend sv, e.IsExec pUserArg n useCoreSuspend sv →
        ∀ o < s.size.toNat, Loaded m s.kernelBase o →
          Spares t.world.mem (s.at o) t.world (step t.world e))
      ⟨w', some s⟩ es

/-- The image leaves the comm heap free: a loaded byte among the first 768 bytes lies below the
comm heap, or in its header and holds what the injection stores there. -/
def HeapFree (m : Mem) (s : Session) : Prop :=
  ∀ o, Loaded m s.kernelBase o → 256 ≤ o → o < 768 →
    o < 268 ∧ s.commParam[o - 256]? = some (m (s.at o))

/-! ### The injection -/

/-- A store of four bytes of the header changes a byte exactly if it is among them and differs. -/
lemma not_changes_header_iff (m : Mem) (s : Session) (p : ℕ) (bs : List Byte) (ho : o < 2 ^ 32)
    (hlow : 256 ≤ p) (hhigh : p ≤ 264) (hlen : bs.length = 4)
    (hbs : ∀ i < 4, bs[i]? = s.commParam[p - 256 + i]?) :
    ¬ Event.Changes m (s.at o) (.store (s.at p) bs) ↔
      (p ≤ o → o < p + 4 → s.commParam[o - 256]? = some (m (s.at o))) := by
  rw [changes_store_iff ho (by omega) rfl, hlen]
  have hbyte : p ≤ o → o < p + 4 → bs[o - p]? = s.commParam[o - 256]? := by
    intro hle hlt
    have hindex : p - 256 + (o - p) = o - 256 := by omega
    rw [hbs (o - p) (by omega), hindex]
  constructor
  · intro hno hle hlt
    by_contra hne
    rw [← hbyte hle hlt] at hne
    exact hno ⟨hle, hlt, hne⟩
  · rintro hspare ⟨hle, hlt, hne⟩
    rw [hbyte hle hlt] at hne
    exact hne (hspare hle hlt)

/-- **An accepted injection spares a byte exactly if** the header of the comm heap does not cover
it, or has the same byte there. -/
lemma spares_inject_iff (pid : Pid) (hfree : ¬ w.Registered) (h : InjectAccepted addr size sv w)
    (hs : openedSession pid addr size sv w h = s) (ho : o < 2 ^ 32) :
    Spares m (s.at o) w (vnzBridgeInject addr size pid sv w).2 ↔
      (256 ≤ o → o < 268 → s.commParam[o - 256]? = some (m (s.at o))) := by
  have hbase := not_changes_header_iff m s 256 (wordBytes vramBase) ho (by norm_num) (by norm_num)
    (by simp) fun i hi => by rw [Nat.sub_self, Nat.zero_add, s.commParam_base hi]
  have hentry := not_changes_header_iff m s 260 (wordBytes s.entry) ho (by norm_num) (by norm_num)
    (by simp) fun i hi => (s.commParam_entry hi).symm
  have hsize := not_changes_header_iff m s 264 (wordBytes s.size) ho (by norm_num) (by norm_num)
    (by simp) fun i hi => s.commParam_size.symm
  have hquiet : ∀ e : Event, e.kernelStore = none → ¬ e.Changes m (s.at o) :=
    fun e he => Event.not_changes_of_none he
  rw [spares_iff (inject_trace pid hfree h hs)]
  simp only [List.forall_mem_cons, hbase, hentry, hsize]
  constructor
  · rintro ⟨-, h3, h2, h1, -⟩ hlow hhigh
    by_cases h260 : o < 260
    · exact h1 hlow h260
    · by_cases h264 : o < 264
      · exact h2 (by omega) h264
      · exact h3 (by omega) hhigh
  · intro hspare
    refine ⟨hquiet _ rfl, fun hle hlt => hspare (by omega) (by omega),
      fun hle hlt => hspare (by omega) (by omega), fun hle hlt => hspare (by omega) (by omega),
      hquiet _ rfl, hquiet _ rfl, by simp⟩

/-! ### The executions -/

/-- An event that an execution may log changes no byte but the argument bytes. -/
lemma Event.ExecOk.not_changes {e : Event} (h : e.ExecOk s) (ho : o < 2 ^ 32)
    (hout : o < 268 ∨ 768 ≤ o) : ¬ e.Changes m (s.at o) := by
  rintro ⟨⟨a, bs⟩, hr, hin, -⟩
  obtain ⟨k, hk, hle⟩ := Event.kernelRange_of_kernelStore hr
  have hwide : InRange a k (s.at o) := lt_of_lt_of_le hin hle
  have hheap := (h.1 (a, k) hk (s.at o) hwide).1
  rw [s.inRange_at (by rw [commHeapSize]; norm_num), s.at_offset ho, commHeapSize] at hheap
  have hlow : o < 268 := by omega
  obtain ⟨i, rfl⟩ := Nat.exists_eq_add_of_le hheap.1
  exact h.2 (a, bs) hr i (by omega) hin

/-- An execution spares every byte but the argument bytes. -/
lemma spares_exec {e : Step} {pUserArg n : Word} {useCoreSuspend : Bool} {sv' : Services}
    (he : e.IsExec pUserArg n useCoreSuspend sv') (h : Consistent w s) (ho : o < 2 ^ 32)
    (hout : o < 268 ∨ 768 ≤ o) : Spares m (s.at o) w (step w e) := by
  have hstep : step w e = (vnzBridgeExecCore pUserArg n useCoreSuspend sv' w).2 := by
    cases he <;> rfl
  rw [hstep]
  exact (exec_logs pUserArg n useCoreSuspend sv' h).mono fun e he => he.not_changes ho hout

/-- The answers to the execution of a block of `n` bytes, all of them `b`. -/
def fillServices (n : ℕ) (b : Byte) : Services :=
  { sceKernelCopyFromUser := { bytes := List.replicate n b } }

/-- The execution of that block. -/
def fillExec (pid : Pid) (n : ℕ) (b : Byte) : Step :=
  .call pid (.vnzBridgeExecNoSuspend 1 (BitVec.ofNat 32 n)) (fillServices n b)

lemma isExec_fillExec (pid : Pid) (n : ℕ) (b : Byte) :
    (fillExec pid n b).IsExec 1 (BitVec.ofNat 32 n) false (fillServices n b) :=
  .execNoSuspend pid

/-- It copies its block in and logs four more events. -/
lemma fillExec_trace (pid : Pid) {n : ℕ} (b : Byte) (h : Consistent w s) (hn : n ≤ 500) :
    ∃ e₁ e₂ e₃ e₄, (step w (fillExec pid n b)).trace =
      [e₁, e₂, e₃, e₄, .sceKernelCopyFromUser (s.at 268) 1 (BitVec.ofNat 32 n)
        { bytes := List.replicate n b }] ++ w.trace := by
  have hsize : (1 : Word) ≠ 0 → (BitVec.ofNat 32 n).toNat ≤ 500 := by
    intro _
    rw [BitVec.toNat_ofNat]
    omega
  have hrun : vnzBridgeExecCore 1 (BitVec.ofNat 32 n) false (fillServices n b) w =
      (_, afterExec 1 (BitVec.ofNat 32 n) false (fillServices n b) w) :=
    vnzBridgeExecCore_ran h.registered hsize (by simp)
  have hstep : step w (fillExec pid n b) =
      afterExec 1 (BitVec.ofNat 32 n) false (fillServices n b) w := congrArg Prod.snd hrun
  rw [hstep, ← h.commHeapVaddr_add]
  exact ⟨_, _, _, _, rfl⟩

/-- **Every argument byte is changed by some execution.** -/
lemma not_spares_fillExec (pid : Pid) (h : Consistent w s) (hlow : 268 ≤ o) (hhigh : o < 768)
    {b : Byte} (hb : b ≠ w.mem (s.at o)) :
    ¬ Spares w.mem (s.at o) w (step w (fillExec pid (o - 267) b)) := by
  obtain ⟨e₁, e₂, e₃, e₄, htrace⟩ := fillExec_trace pid b h (show o - 267 ≤ 500 by omega)
  rw [spares_iff htrace]
  intro hspared
  refine hspared (.sceKernelCopyFromUser (s.at 268) 1 (BitVec.ofNat 32 (o - 267))
    { bytes := List.replicate (o - 267) b }) (by simp) ?_
  have hn : (BitVec.ofNat 32 (o - 267)).toNat = o - 267 := by
    rw [BitVec.toNat_ofNat]
    omega
  have hstored : Event.kernelStore (.sceKernelCopyFromUser (s.at 268) 1
      (BitVec.ofNat 32 (o - 267)) { bytes := List.replicate (o - 267) b }) =
        some (s.at 268, List.replicate (o - 267) b) := by
    rw [Event.kernelStore, hn]
    simp
  rw [changes_store_iff (by omega) (by simp; omega) hstored]
  have hget : (List.replicate (o - 267) b)[o - 268]? = some b :=
    List.getElem?_replicate_of_lt (by omega)
  rw [hget, List.length_replicate]
  exact ⟨hlow, by omega, fun heq => hb (Option.some.inj heq)⟩

/-! ### The whole session -/

/-- While the session is open its executions spare the loaded bytes of an image that leaves the
comm heap free. -/
lemma spares_of_heapFree (hfree : HeapFree m s) (hopen : Consistent w' s) (es : List Step)
    (hes : Always Tracked.step (fun t => t.session = some s) ⟨w', some s⟩ es) :
    Admissible Tracked.step
      (fun t e => ∀ pUserArg n useCoreSuspend sv, e.IsExec pUserArg n useCoreSuspend sv →
        ∀ o < s.size.toNat, Loaded m s.kernelBase o →
          Spares t.world.mem (s.at o) t.world (step t.world e))
      ⟨w', some s⟩ es := by
  have hstart : Refines (⟨w', some s⟩ : Tracked).world (⟨w', some s⟩ : Tracked).session := hopen
  have hrefines : Always Tracked.step (fun t => Refines t.world t.session) ⟨w', some s⟩ es :=
    always_of_invariant (fun t e href _ => refines_step e href) hstart (admissible_true _ _)
  refine (admissible_and.mpr ⟨hrefines.admissible, hes.admissible⟩).mono ?_
  rintro t e ⟨href, hsession⟩ pUserArg n useCoreSuspend sv he o ho hload
  have hout : o < 268 ∨ 768 ≤ o := by
    by_contra hin
    have hlow := (hfree o hload (by omega) (by omega)).1
    omega
  exact spares_exec he (href.consistent hsession) (by omega) hout

/-- **The program is kept exactly if its image leaves the comm heap free**: for every image that
is accepted and every run of the session, with any argument blocks. -/
theorem program_kept_iff (pid : Pid) (hfree : ¬ w.Registered) (h : InjectAccepted addr size sv w) :
    ProgramKept (imageMem addr size sv w) (openedSession pid addr size sv w h) w
        (vnzBridgeInject addr size pid sv w).2 ↔
      HeapFree (imageMem addr size sv w) (openedSession pid addr size sv w h) := by
  have hopen := consistent_inject pid hfree h
  have hinject := fun o => spares_inject_iff (o := o) (m := imageMem addr size sv w) pid hfree h rfl
  generalize openedSession pid addr size sv w h = s at hopen hinject ⊢
  generalize imageMem addr size sv w = m at hinject ⊢
  generalize (vnzBridgeInject addr size pid sv w).2 = w' at hopen hinject ⊢
  have hsize := s.le_size
  have hmax := s.size.isLt
  constructor
  · intro hkept o hload hlow hhigh
    have hhead : o < 268 := by
      by_contra hin
      have hb : w'.mem (s.at o) + 1 ≠ w'.mem (s.at o) := by bv_omega
      have hrun := hkept.exec [fillExec pid (o - 267) (w'.mem (s.at o) + 1)] ⟨rfl, rfl⟩
      have hspared : Spares w'.mem (s.at o) w'
          (step w' (fillExec pid (o - 267) (w'.mem (s.at o) + 1))) :=
        hrun.1 _ _ _ _ (isExec_fillExec pid _ _) o (by omega) hload
      exact not_spares_fillExec pid hopen (by omega) hhigh hb hspared
    have hspared := hkept.inject o (by omega) hload
    exact ⟨hhead, (hinject o (by omega)).mp hspared hlow hhead⟩
  · intro hheap
    refine ⟨fun o ho hload => ?_, fun es hes => spares_of_heapFree hheap hopen es hes⟩
    rw [hinject o (by omega)]
    exact fun hlow hhigh => (hheap o hload hlow (by omega)).2

end Call

/-! ### An image that is damaged -/

/-- An image of one section header at offset 64: the executable code at the offsets `0x100` to
`0x200`, with the entry at its start. -/
def textImage : Mem :=
  Memory.write (Memory.write (Memory.write (Memory.write (Memory.write (Memory.write (fun _ => 0)
    0 elfIdent) 24 [0, 1]) 32 [64]) 46 [40, 0, 1]) 68 [1, 0, 0, 0, 6]) 80
      [0, 1, 0, 0, 0, 1, 0, 0]

/-- Services that map it at `0x500000` and to Venezia. -/
def textServices : Services :=
  { acceptingServices with
    sceKernelUserMap := { uid := 0x10001, kernelPage := 0x500000, content := textImage } }

lemma textImage_accepted :
    InjectAccepted 0x81000000 0x40000 textServices (boot 166 fun _ => 0) := by decide

/-- The injection overwrites the first word of the code. -/
theorem text_section_overwritten :
    Loaded (imageMem 0x81000000 0x40000 textServices (boot 166 fun _ => 0)) 0x500000 0x103 ∧
      imageMem 0x81000000 0x40000 textServices (boot 166 fun _ => 0) 0x500103 = 0 ∧
      (vnzBridgeInject 0x81000000 0x40000 samplePid textServices
        (boot 166 fun _ => 0)).2.mem 0x500103 = 0x20 ∧
      ¬ ProgramKept (imageMem 0x81000000 0x40000 textServices (boot 166 fun _ => 0))
          (openedSession samplePid 0x81000000 0x40000 textServices (boot 166 fun _ => 0)
            textImage_accepted)
          (boot 166 fun _ => 0)
          (vnzBridgeInject 0x81000000 0x40000 samplePid textServices (boot 166 fun _ => 0)).2 := by
  have hload : Loaded (imageMem 0x81000000 0x40000 textServices (boot 166 fun _ => 0)) 0x500000
      0x103 := ⟨0, by decide, ⟨by decide, by decide⟩, by decide, by decide⟩
  refine ⟨hload, by decide, by decide, fun hkept => ?_⟩
  have hspared := hkept.inject 0x103 (by decide) hload
  rw [spares_inject_iff samplePid (by decide) textImage_accepted rfl (by norm_num)] at hspared
  exact absurd (hspared (by norm_num) (by norm_num)) (by decide)

theorem program_kept_iff_textImage :
    ProgramKept (imageMem 0x81000000 0x40000 textServices (boot 166 fun _ => 0))
        (openedSession samplePid 0x81000000 0x40000 textServices (boot 166 fun _ => 0)
          textImage_accepted)
        (boot 166 fun _ => 0)
        (vnzBridgeInject 0x81000000 0x40000 samplePid textServices (boot 166 fun _ => 0)).2 ↔
      HeapFree (imageMem 0x81000000 0x40000 textServices (boot 166 fun _ => 0))
        (openedSession samplePid 0x81000000 0x40000 textServices (boot 166 fun _ => 0)
          textImage_accepted) :=
  program_kept_iff samplePid (by decide) textImage_accepted

end VVNZRunner
