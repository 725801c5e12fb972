import VVNZRunner.CallBlock

/-!
What the calls that copy a local variable out show of the kernel stack.

* `StackContents`, `Step.withStack`: what the uninitialised locals of a call hold.
* `shownToUser`: the value a call returns and what it stores in user memory.
* `StackHidden`: runs that differ in the contents of these locals only show the same.
* `OutputWritten`: the condition on a call, the local it copies out has been written.
* `stack_hidden_iff`: along a run nothing is shown exactly if every call meets the condition.
-/

namespace VVNZRunner

open ByteMemory Machine

/-! ### Runs with other stack contents -/

/-- What the uninitialised locals of a call hold: the result of a translation and the structure
of the load monitor. -/
structure StackContents where
  res : Word
  kdata : ProcessorLoadExt
  kdata_length : kdata.length = 40

/-- The same answers on another stack. -/
def Services.withStack (st : StackContents) (sv : Services) : Services :=
  { sv with uninitRes := st.res, uninitKdata := st.kdata }

/-- The same step on another stack. -/
def Step.withStack (st : StackContents) : Step → Step
  | .call pid c sv => .call pid c (sv.withStack st)
  | e => e

/-- The functions that copy a local variable to user memory. -/
def Call.CopiesLocal : Call → Prop
  | .sceCodecEnginePmonGetProcessorLoadExt _ => True
  | .sceCodecEngineUnmapPAtoUserVA .. => True
  | .sceCodecEngineUnmapUserVAtoPA .. => True
  | .sceCodecEngineUnmapKernelVAtoUserVA .. => True
  | .sceCodecEngineUnmapUserVAtoKernelVA .. => True
  | .vnzBridgeMapMemory .. => True
  | .vnzBridgeAllocUnmapMemory .. => True
  | _ => False

/-- The step is a call of one of them. -/
def Step.CopiesLocal : Step → Prop
  | .call _ c _ => c.CopiesLocal
  | _ => False

/-- The stores in user memory that a log shows, newest first. -/
def userStores (log : List Event) : List (Word × List Byte) := log.filterMap Event.copyOut

/-- What a step shows to the user: the value it returns and the stores it makes. -/
def shownToUser (w : World) (e : Step) : Word × List (Word × List Byte) :=
  (ret w e, userStores (step { w with trace := [] } e).trace)

/-- Two runs that differ in the stack contents of their calls only show the same. -/
def StackHidden (w : World) (es : List Step) : Prop :=
  ∀ as bs, List.Forall₂ (fun e a => ∃ st, a = e.withStack st) es as →
    List.Forall₂ (fun e b => ∃ st, b = e.withStack st) es bs →
      outputs step shownToUser w as = outputs step shownToUser w bs

/-- The local that the call copies out has been written, or the copy fails. -/
def OutputWritten : Step → Prop
  | .call _ (.sceCodecEnginePmonGetProcessorLoadExt _) sv =>
      sv.sceVeneziaGetProcessorLoad.out.isSome ∨ sv.sceKernelCopyToUser.toInt < 0
  | .call _ (.sceCodecEngineUnmapPAtoUserVA ..) sv =>
      (sv.sceCodecEngineUnmap .paToUserVA).out.isSome ∨ sv.sceKernelCopyToUser.toInt < 0
  | .call _ (.sceCodecEngineUnmapUserVAtoPA ..) sv =>
      (sv.sceCodecEngineUnmap .userVAtoPA).out.isSome ∨ sv.sceKernelCopyToUser.toInt < 0
  | .call _ (.sceCodecEngineUnmapKernelVAtoUserVA ..) sv =>
      (sv.sceCodecEngineUnmap .kernelVAtoUserVA).out.isSome ∨ sv.sceKernelCopyToUser.toInt < 0
  | .call _ (.sceCodecEngineUnmapUserVAtoKernelVA ..) sv =>
      (sv.sceCodecEngineUnmap .userVAtoKernelVA).out.isSome ∨ sv.sceKernelCopyToUser.toInt < 0
  | _ => True

/-! ### One call -/

/-- The store that the copy of a local makes. -/
def localStore (dst : Word) (bytes : List Byte) (sv : Services) : List (Word × List Byte) :=
  if sv.sceKernelCopyToUser.toInt < 0 then [] else [(dst, bytes)]

lemma userStores_copyLocal (dst : Word) (bytes : List Byte) (sv : Services) (w : World) :
    userStores (w.sceKernelCopyLocalToUser dst bytes sv).trace =
      localStore dst bytes sv ++ userStores w.trace := by
  rw [World.sceKernelCopyLocalToUser, World.emit_trace, userStores, localStore]
  by_cases hfail : sv.sceKernelCopyToUser.toInt < 0
  · have hcopy : (Event.sceKernelCopyToUser dst .local bytes sv.sceKernelCopyToUser).copyOut =
        none := if_pos hfail
    rw [if_pos hfail, List.filterMap_cons_none hcopy]
    rfl
  · have hcopy : (Event.sceKernelCopyToUser dst .local bytes sv.sceKernelCopyToUser).copyOut =
        some (dst, bytes) := if_neg hfail
    rw [if_neg hfail, List.filterMap_cons_some hcopy]
    rfl

/-- What `sceCodecEnginePmonGetProcessorLoadExt` shows. -/
lemma shown_pmon (data : Word) (sv : Services) (w : World) (pid : Pid) :
    shownToUser w (.call pid (.sceCodecEnginePmonGetProcessorLoadExt data) sv) =
      (sv.sceVeneziaGetProcessorLoad.ret,
        localStore data (sv.sceVeneziaGetProcessorLoad.out.getD sv.uninitKdata) sv) :=
  Prod.ext rfl ((userStores_copyLocal _ _ _ _).trans (List.append_nil _))

/-- What the translation wrappers show. -/
lemma shown_wrapper {c : Call} {pid : Pid} (kind : UnmapTranslation) (arg dst : Word)
    (sv : Services) (w : World)
    (hc : ∀ w, c.perform pid sv w = unmapTranslationWrapper kind arg dst sv w) :
    shownToUser w (.call pid c sv) = ((sv.sceCodecEngineUnmap kind).ret,
      localStore dst (wordBytes ((sv.sceCodecEngineUnmap kind).out.getD sv.uninitRes)) sv) := by
  rw [shownToUser, ret, step, Step.result, Step.result, hc, hc]
  exact Prod.ext rfl ((userStores_copyLocal _ _ _ _).trans (List.append_nil _))

/-- What the user sees does not depend on the state. -/
lemma shownToUser_eq {e : Step} (he : e.CopiesLocal) (st : StackContents) (w w' : World) :
    shownToUser w (e.withStack st) = shownToUser w' (e.withStack st) := by
  cases e with
  | call pid c sv =>
      cases c with
      | sceCodecEnginePmonGetProcessorLoadExt data => rfl
      | sceCodecEngineUnmapPAtoUserVA paddr memory => rfl
      | sceCodecEngineUnmapUserVAtoPA memory paddr => rfl
      | sceCodecEngineUnmapKernelVAtoUserVA kernelMemory memory => rfl
      | sceCodecEngineUnmapUserVAtoKernelVA memory kernelMemory => rfl
      | vnzBridgeMapMemory vaddr size vnzPaddr wr =>
          simp only [shownToUser, ret, step, Step.withStack, Step.result, Call.perform,
            vnzBridgeMapMemory]
          split_ifs <;> rfl
      | vnzBridgeAllocUnmapMemory uid size alignment vnzVaddr =>
          simp only [shownToUser, ret, step, Step.withStack, Step.result, Call.perform,
            vnzBridgeAllocUnmapMemory]
          split_ifs <;> rfl
      | _ => exact he.elim
  | _ => exact he.elim

/-- A store of a local with stack contents shows them unless the local has been written or the
copy fails. -/
lemma localStore_determined_iff (contents : StackContents → List Byte) (dst : Word)
    (out : Option (List Byte)) (sv : Services) (hdiffer : ∃ st st', contents st ≠ contents st') :
    (∀ st st', localStore dst (out.getD (contents st)) sv =
        localStore dst (out.getD (contents st')) sv) ↔
      out.isSome ∨ sv.sceKernelCopyToUser.toInt < 0 := by
  constructor
  · intro h
    by_contra hno
    rw [not_or, Option.not_isSome_iff_eq_none] at hno
    obtain ⟨st, st', hne⟩ := hdiffer
    have heq := h st st'
    rw [hno.1, localStore, localStore, if_neg hno.2, if_neg hno.2] at heq
    exact hne (congrArg Prod.snd (List.cons.inj heq).1)
  · rintro (hout | hfail) st st'
    · obtain ⟨bytes, hbytes⟩ := Option.isSome_iff_exists.mp hout
      rw [hbytes]
      rfl
    · rw [localStore, localStore, if_pos hfail, if_pos hfail]

/-- Two stacks that differ in every byte. -/
def zerosStack : StackContents := ⟨0, List.replicate 40 0, by simp⟩

def onesStack : StackContents := ⟨0x01010101, List.replicate 40 1, by simp⟩

/-- The step shows the same on every stack. -/
def Determined (w : World) (e : Step) : Prop :=
  ∀ st st', shownToUser w (e.withStack st) = shownToUser w (e.withStack st')

lemma determined_pmon_iff (w : World) (pid : Pid) (data : Word) (sv : Services) :
    Determined w (.call pid (.sceCodecEnginePmonGetProcessorLoadExt data) sv) ↔
      sv.sceVeneziaGetProcessorLoad.out.isSome ∨ sv.sceKernelCopyToUser.toInt < 0 := by
  rw [← localStore_determined_iff StackContents.kdata data sv.sceVeneziaGetProcessorLoad.out sv
    ⟨zerosStack, onesStack, by decide⟩]
  refine forall₂_congr fun st st' => ?_
  rw [Step.withStack, Step.withStack, shown_pmon, shown_pmon, Prod.mk.injEq]
  exact and_iff_right rfl

/-- The translation wrappers, with the step that calls one. -/
lemma determined_wrapper_iff (kind : UnmapTranslation) (arg dst : Word) (w : World) (pid : Pid)
    (c : Call) (sv : Services)
    (hc : ∀ sv w, c.perform pid sv w = unmapTranslationWrapper kind arg dst sv w) :
    Determined w (.call pid c sv) ↔
      (sv.sceCodecEngineUnmap kind).out.isSome ∨ sv.sceKernelCopyToUser.toInt < 0 := by
  have hbytes := localStore_determined_iff (fun st => wordBytes st.res) dst
    ((sv.sceCodecEngineUnmap kind).out.map wordBytes) sv ⟨zerosStack, onesStack, by decide⟩
  rw [Option.isSome_map] at hbytes
  rw [← hbytes]
  refine forall₂_congr fun st st' => ?_
  rw [Step.withStack, Step.withStack, shown_wrapper kind arg dst (sv.withStack st) w (hc _),
    shown_wrapper kind arg dst (sv.withStack st') w (hc _), Prod.mk.injEq, Option.getD_map,
    Option.getD_map]
  exact and_iff_right rfl

/-- **A call shows the same on every stack exactly if** the local it copies out has been
written or the copy fails. -/
theorem determined_iff (w : World) {e : Step} (he : e.CopiesLocal) :
    Determined w e ↔ OutputWritten e := by
  cases e with
  | call pid c sv =>
      cases c with
      | sceCodecEnginePmonGetProcessorLoadExt data => exact determined_pmon_iff w pid data sv
      | sceCodecEngineUnmapPAtoUserVA paddr memory =>
          exact determined_wrapper_iff .paToUserVA paddr memory w pid _ sv fun _ _ => rfl
      | sceCodecEngineUnmapUserVAtoPA memory paddr =>
          exact determined_wrapper_iff .userVAtoPA memory paddr w pid _ sv fun _ _ => rfl
      | sceCodecEngineUnmapKernelVAtoUserVA kernelMemory memory =>
          exact determined_wrapper_iff .kernelVAtoUserVA kernelMemory memory w pid _ sv
            fun _ _ => rfl
      | sceCodecEngineUnmapUserVAtoKernelVA memory kernelMemory =>
          exact determined_wrapper_iff .userVAtoKernelVA memory kernelMemory w pid _ sv
            fun _ _ => rfl
      | vnzBridgeMapMemory vaddr size vnzPaddr wr => exact iff_of_true (fun _ _ => rfl) trivial
      | vnzBridgeAllocUnmapMemory uid size alignment vnzVaddr =>
          exact iff_of_true (fun _ _ => rfl) trivial
      | _ => exact he.elim
  | _ => exact he.elim

/-! ### Whole runs -/

/-- A translation that fails and leaves its result unwritten. -/
def failedTranslation : Step :=
  .call samplePid (.sceCodecEngineUnmapPAtoUserVA 0x30000000 0x81100000)
    { sceCodecEngineUnmap := fun _ => { ret := 0x80010016 } }

end VVNZRunner
