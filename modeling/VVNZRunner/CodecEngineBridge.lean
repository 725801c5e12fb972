import VVNZRunner.World

/-!
`codec_engine_bridge.c`: the unmapped memory blocks of the codec engine and its load monitor.

The four translation wrappers are one definition, `unmapTranslationWrapper`, applied to the
service each of them calls. `_sceVeneziaGetProcessorLoad` and the wrappers copy a local out
whatever the service answered; a local the service left unwritten holds `Services.uninitRes`
or `Services.uninitKdata`.
-/

namespace VVNZRunner

open ByteMemory

/-- `sceCodecEnginePmonGetProcessorLoadExt`. -/
def sceCodecEnginePmonGetProcessorLoadExt (data : Word) (sv : Services) (w : World) :
    Word × World :=
  let r := sv.sceVeneziaGetProcessorLoad
  let kdata := r.out.getD sv.uninitKdata
  (r.ret, (w.emit (.sceVeneziaGetProcessorLoad r)).sceKernelCopyLocalToUser data kdata sv)

/-- `vnzBridgeAllocUnmapMemory`. -/
def vnzBridgeAllocUnmapMemory (uid size alignment vnzVaddr : Word) (sv : Services) (w : World) :
    Word × World :=
  if vnzVaddr = 0 then (sceErrorErrnoEINVAL, w)
  else
    let memory := sv.sceCodecEngineAllocMemoryFromUnmapMemBlock
    let w := w.emit (.sceCodecEngineAllocMemoryFromUnmapMemBlock uid size alignment memory)
    let error (w : World) : World :=
      w.emit (.sceCodecEngineFreeMemoryFromUnmapMemBlock uid memory
        sv.sceCodecEngineFreeMemoryFromUnmapMemBlock)
    if memory = 0 then (sceErrorErrnoEINVAL, w)
    else
      let r := sv.sceCodecEngineUnmap .userVAtoPA
      let w := w.emit (.sceCodecEngineUnmap .userVAtoPA sceKernelProcessIdSelf memory r)
      if r.ret.toInt < 0 then (r.ret, error w)
      else
        let pa := r.out.getD 0
        let retMem := sv.sceVeneziaOpenPublicMemory
        let w := w.emit (.sceVeneziaOpenPublicMemory pa size retMem)
        if retMem = 0 then (sceErrorErrnoEINVAL, error w)
        else (r.ret, w.sceKernelCopyLocalToUser vnzVaddr (wordBytes retMem) sv)

/-- `vnzBridgeFreeUnmapMemory`. -/
def vnzBridgeFreeUnmapMemory (uid vnzVaddr size : Word) (sv : Services) (w : World) :
    Word × World :=
  if vnzVaddr = 0 ∨ size = 0 then (sceErrorErrnoEINVAL, w)
  else
    let pa := sv.sceVeneziaClosePublicMemory
    let w := w.emit (.sceVeneziaClosePublicMemory vnzVaddr size pa)
    if pa = 0 then (sceErrorErrnoEINVAL, w)
    else
      let r := sv.sceCodecEngineUnmap .paToUserVA
      let w := w.emit (.sceCodecEngineUnmap .paToUserVA sceKernelProcessIdSelf pa r)
      if r.ret.toInt < 0 then (r.ret, w)
      else
        let memory := r.out.getD 0
        (sv.sceCodecEngineFreeMemoryFromUnmapMemBlock,
          w.emit (.sceCodecEngineFreeMemoryFromUnmapMemBlock uid memory
            sv.sceCodecEngineFreeMemoryFromUnmapMemBlock))

/-- The body the four translation wrappers share: translate `arg` and copy the result out. -/
def unmapTranslationWrapper (kind : UnmapTranslation) (arg dst : Word) (sv : Services)
    (w : World) : Word × World :=
  let r := sv.sceCodecEngineUnmap kind
  let res := r.out.getD sv.uninitRes
  (r.ret, (w.emit (.sceCodecEngineUnmap kind sceKernelProcessIdSelf arg r)).sceKernelCopyLocalToUser
    dst (wordBytes res) sv)

/-- `_sceCodecEngineUnmapPAtoUserVA`. -/
def sceCodecEngineUnmapPAtoUserVA (paddr memory : Word) :=
  unmapTranslationWrapper .paToUserVA paddr memory

/-- `_sceCodecEngineUnmapUserVAtoPA`. -/
def sceCodecEngineUnmapUserVAtoPA (memory paddr : Word) :=
  unmapTranslationWrapper .userVAtoPA memory paddr

/-- `_sceCodecEngineUnmapKernelVAtoUserVA`. -/
def sceCodecEngineUnmapKernelVAtoUserVA (kernelMemory memory : Word) :=
  unmapTranslationWrapper .kernelVAtoUserVA kernelMemory memory

/-- `_sceCodecEngineUnmapUserVAtoKernelVA`. -/
def sceCodecEngineUnmapUserVAtoKernelVA (memory kernelMemory : Word) :=
  unmapTranslationWrapper .userVAtoKernelVA memory kernelMemory

/-- `_sceCodecEngineRegisterUnmapMemory`. -/
def sceCodecEngineRegisterUnmapMemory (memory size : Word) (sv : Services) (w : World) :
    Word × World :=
  (sv.sceCodecEngineRegisterUnmapMemory,
    w.emit (.sceCodecEngineRegisterUnmapMemory sceKernelProcessIdSelf memory size
      sv.sceCodecEngineRegisterUnmapMemory))

/-- `_sceCodecEngineUnregisterUnmapMemory`. -/
def sceCodecEngineUnregisterUnmapMemory (memory size : Word) (sv : Services) (w : World) :
    Word × World :=
  (sv.sceCodecEngineUnregisterUnmapMemory,
    w.emit (.sceCodecEngineUnregisterUnmapMemory sceKernelProcessIdSelf memory size
      sv.sceCodecEngineUnregisterUnmapMemory))

/-- `_sceVeneziaOpenPublicMemory`. -/
def sceVeneziaOpenPublicMemory (paddr size : Word) (sv : Services) (w : World) : Word × World :=
  (sv.sceVeneziaOpenPublicMemory,
    w.emit (.sceVeneziaOpenPublicMemory paddr size sv.sceVeneziaOpenPublicMemory))

/-- `_sceVeneziaClosePublicMemory`. -/
def sceVeneziaClosePublicMemory (vnzVaddr size : Word) (sv : Services) (w : World) :
    Word × World :=
  (sv.sceVeneziaClosePublicMemory,
    w.emit (.sceVeneziaClosePublicMemory vnzVaddr size sv.sceVeneziaClosePublicMemory))

end VVNZRunner
