import VVNZRunner.Library.Granule
import VVNZRunner.Session

/-!
The references on user memory that mapping to Venezia acquires and unmapping releases.

* `MemRef`, `heldRefs`: a reference of a permission class on a range, and the multiset of
  those the log shows held.
* `unmapSpan_eq_cover`: the arithmetic of `vnzBridgeUnmapMemory` names the least range with
  256-byte granules that covers the one mapped.
* `Accounts`: the plugin with its session and the outstanding maps of its callers.
* `refs_accounted`: along every run the held references are those of the outstanding maps and,
  while a session is open, one more on its block.
-/

namespace VVNZRunner

open ByteMemory Machine Granule

/-! ### References -/

/-- A reference of a permission class on a range of user memory. -/
structure MemRef where
  perm : MemoryRefPerm
  span : Span
  deriving DecidableEq

/-- The reference a mapping of `[vaddr, vaddr + size)` acquires: on the least range of 256-byte
granules around it. -/
def mappedRef (perm : MemoryRefPerm) (vaddr size : Word) : MemRef :=
  ⟨perm, cover 256 vaddr.toNat (vaddr.toNat + size.toNat)⟩

/-- That range is the smallest one with 256-byte-aligned ends that covers the mapped one. -/
lemma mappedRef_isLeast (perm : MemoryRefPerm) (vaddr size : Word) :
    (mappedRef perm vaddr size).span.Aligned 256 ∧
      (mappedRef perm vaddr size).span.Contains ⟨vaddr.toNat, vaddr.toNat + size.toNat⟩ ∧
        ∀ s : Span, s.Aligned 256 → s.Contains ⟨vaddr.toNat, vaddr.toNat + size.toNat⟩ →
          s.Contains (mappedRef perm vaddr size).span :=
  cover_isLeast (by decide)

/-- The reference a release of `[base, base + size)` drops. -/
def releasedRef (perm : MemoryRefPerm) (base size : Word) : MemRef :=
  ⟨perm, ⟨base.toNat, base.toNat + size.toNat⟩⟩

/-- The references held after the events of a log. -/
def heldRefs : List Event → Multiset MemRef
  | [] => 0
  | .sceAvcodecMapMemoryToVenezia vaddr size perm _ _ reply :: t =>
      if 0 ≤ reply.ret.toInt then mappedRef perm vaddr size ::ₘ heldRefs t else heldRefs t
  | .sceKernelMemRangeReleaseWithPerm perm base size _ :: t =>
      (heldRefs t).erase (releasedRef perm base size)
  | _ :: t => heldRefs t

lemma heldRefs_quiet (e : Event) (t : List Event) (he : e.Quiet) :
    heldRefs (e :: t) = heldRefs t := by
  cases e <;> first | rfl | exact he.elim

lemma ClockOnly.heldRefs {w w' : World} (h : ClockOnly w w') :
    heldRefs w'.trace = heldRefs w.trace := by
  refine h.logs.observe fun e t he => ?_
  cases e <;> first | rfl | exact he.elim

/-! ### The arithmetic of `vnzBridgeUnmapMemory` -/

/-- The range ends below the last 256 bytes of the address space. -/
def Fits (vaddr size : Word) : Prop := vaddr.toNat + size.toNat ≤ 2 ^ 32 - 256

instance (vaddr size : Word) : Decidable (Fits vaddr size) :=
  inferInstanceAs (Decidable (_ ≤ _))

lemma toNat_and_low (x : Word) : (x &&& 0xff#32).toNat = x.toNat % 256 := by
  rw [BitVec.toNat_and]
  exact Nat.and_two_pow_sub_one_eq_mod x.toNat 8

lemma toNat_and_high (x : Word) : (x &&& 0xffffff00#32).toNat = x.toNat / 256 * 256 := by
  have hmask : x &&& 0xffffff00#32 = x >>> 8 <<< 8 := by
    ext i hi
    interval_cases i <;> simp
  rw [hmask, toNat_mask]
  rfl

lemma unmapRangeBase_toNat (vaddr : Word) :
    (unmapRangeBase vaddr).toNat = vaddr.toNat / 256 * 256 :=
  toNat_and_high vaddr

lemma unmapRangeSize_toNat {vaddr size : Word} (h : Fits vaddr size) :
    (unmapRangeSize vaddr size).toNat =
      (size.toNat + 255 + vaddr.toNat % 256) / 256 * 256 := by
  rw [Fits] at h
  have hlow := toNat_and_low vaddr
  have hmod := Nat.mod_le vaddr.toNat 256
  have hsum : (size + 0xff + (vaddr &&& 0xff)).toNat =
      size.toNat + 255 + vaddr.toNat % 256 := by
    rw [BitVec.toNat_add, BitVec.toNat_add]
    change ((size.toNat + 255) % 2 ^ 32 + (vaddr &&& 0xff#32).toNat) % 2 ^ 32 = _
    rw [hlow]
    omega
  rw [unmapRangeSize, ← hsum]
  exact toNat_and_high _

/-- **What is released is what was acquired**: the base and the length `vnzBridgeUnmapMemory`
computes name the cover of the range that was mapped. -/
theorem unmapSpan_eq_cover (perm : MemoryRefPerm) {vaddr size : Word} (h : Fits vaddr size) :
    releasedRef perm (unmapRangeBase vaddr) (unmapRangeSize vaddr size) =
      mappedRef perm vaddr size := by
  rw [releasedRef, mappedRef, cover, unmapRangeBase_toNat, unmapRangeSize_toNat h]
  have hhi : vaddr.toNat / 256 * 256 + (size.toNat + 255 + vaddr.toNat % 256) / 256 * 256 =
      (vaddr.toNat + size.toNat + (256 - 1)) / 256 * 256 := by
    omega
  rw [hhi]

variable {w w' : World} {s : Session} {σ : Option Session}

/-- A call of `vnzBridgeUnmapMemory` drops the reference of the range it is called with. -/
lemma heldRefs_unmap {vaddr size : Word} (h : Fits vaddr size) (wr : Word) (sv : Services)
    (w : World) :
    heldRefs (vnzBridgeUnmapMemory vaddr size wr sv w).2.trace =
      (heldRefs w.trace).erase (mappedRef (mapPerm wr) vaddr size) := by
  obtain ⟨w', hw', heq⟩ := vnzBridgeUnmapMemory_cases vaddr size wr sv w
  have hrel : heldRefs (vnzBridgeUnmapMemory vaddr size wr sv w).2.trace =
      (heldRefs w'.trace).erase
        (releasedRef (mapPerm wr) (unmapRangeBase vaddr) (unmapRangeSize vaddr size)) := by
    rw [heq]
    rfl
  have hpre : heldRefs w'.trace = heldRefs w.trace := by
    rcases hw' with rfl | rfl <;> rfl
  rw [hrel, unmapSpan_eq_cover _ h, hpre]

/-- A call of `vnzBridgeMapMemory` acquires the reference of its range when it succeeds. -/
lemma heldRefs_map (vaddr size vnzPaddr wr : Word) (sv : Services) (w : World) :
    heldRefs (vnzBridgeMapMemory vaddr size vnzPaddr wr sv w).2.trace =
      if 0 ≤ sv.sceAvcodecMapMemoryToVenezia.ret.toInt then
        mappedRef (mapPerm wr) vaddr size ::ₘ heldRefs w.trace
      else heldRefs w.trace := by
  rw [vnzBridgeMapMemory_eq]
  rfl

/-! ### The accounts -/

/-- The arguments of a `vnzBridgeMapMemory` that succeeded. -/
structure MapArgs where
  vaddr : Word
  size : Word
  isVnzWritable : Word
  deriving DecidableEq

/-- The reference it acquired. -/
def MapArgs.ref (m : MapArgs) : MemRef := mappedRef (mapPerm m.isVnzWritable) m.vaddr m.size

/-- The outstanding maps after a step. -/
def nextMaps (maps : Multiset MapArgs) : Step → Multiset MapArgs
  | .call _ (.vnzBridgeMapMemory vaddr size _ wr) sv =>
      if 0 ≤ sv.sceAvcodecMapMemoryToVenezia.ret.toInt then ⟨vaddr, size, wr⟩ ::ₘ maps else maps
  | .call _ (.vnzBridgeUnmapMemory vaddr size wr) _ => maps.erase ⟨vaddr, size, wr⟩
  | _ => maps

/-- The plugin, its session and the outstanding maps of its callers. -/
structure Accounts extends Tracked where
  maps : Multiset MapArgs

namespace Accounts

/-- A step of the three machines. -/
def step (a : Accounts) (e : Step) : Accounts :=
  ⟨a.toTracked.step e, nextMaps a.maps e⟩

/-- The state after `module_start`. -/
def boot (clock : Word) (mem : Mem) : Accounts := ⟨Tracked.boot clock mem, 0⟩

/-- The ranges that are mapped stay below the top of the address space, and an unmap repeats
the arguments of an outstanding map. -/
def Allowed (a : Accounts) : Step → Prop
  | .call _ (.vnzBridgeMapMemory vaddr size _ _) _ => Fits vaddr size
  | .call _ (.vnzBridgeUnmapMemory vaddr size wr) _ => ⟨vaddr, size, wr⟩ ∈ a.maps
  | .call _ (.vnzBridgeInject addr size) _ => Fits addr size
  | _ => True

end Accounts

/-- The reference of an open session: a read reference on its block. -/
def sessionRefs : Option Session → Multiset MemRef
  | none => 0
  | some s => {mappedRef .kernR s.vaddr s.size}

/-- The references held are the accounted ones, and all accounted ranges fit. -/
structure Accounted (a : Accounts) : Prop where
  refines : Refines a.world a.session
  fits : ∀ m ∈ a.maps, Fits m.vaddr m.size
  sessionFits : ∀ s ∈ a.session, Fits s.vaddr s.size
  refs : heldRefs a.world.trace = a.maps.map MapArgs.ref + sessionRefs a.session

/-! ### One step -/

/-- Closing a session drops the reference of its block. -/
lemma heldRefs_restored (sv : Services) (h : Consistent w s) (hfits : Fits s.vaddr s.size) :
    heldRefs (restored sv w).trace =
      (heldRefs w.trace).erase (mappedRef .kernR s.vaddr s.size) := by
  calc heldRefs (restored sv w).trace
      = heldRefs (vnzBridgeUnmapMemory w.requestedCodeBaseVaddr w.requestedCodeSize 0 sv
          w).2.trace := rfl
    _ = heldRefs (vnzBridgeUnmapMemory s.vaddr s.size 0 sv w).2.trace := by
        rw [h.requestedCodeBaseVaddr, h.requestedCodeSize]
    _ = (heldRefs w.trace).erase (mappedRef .kernR s.vaddr s.size) := heldRefs_unmap hfits 0 sv w

/-- An injection acquires the reference of its block exactly if it opens a session. -/
lemma heldRefs_inject {addr size : Word} (pid : Pid) (sv : Services) (hfits : Fits addr size)
    (hfree : ¬ w.Registered) :
    heldRefs (vnzBridgeInject addr size pid sv w).2.trace = heldRefs w.trace +
      sessionRefs (nextSession w none (.call pid (.vnzBridgeInject addr size) sv)) := by
  have hafter : heldRefs (afterUserMap addr size sv w).trace = heldRefs w.trace := rfl
  have hvenezia : heldRefs (afterVeneziaMap addr size sv w).trace =
      if 0 ≤ sv.sceAvcodecMapMemoryToVenezia.ret.toInt then
        mappedRef .kernR addr size ::ₘ heldRefs w.trace
      else heldRefs w.trace := rfl
  have hout := inject_outcome addr size pid sv w
  rw [nextSession]
  generalize vnzBridgeInject addr size pid sv w = r at hout ⊢
  cases hout with
  | badArgument hargs =>
      rw [dif_neg fun h => hargs h.args, sessionRefs, add_zero]
  | alreadyRegistered hargs hreg => exact absurd hreg hfree
  | notMapped hargs hfree huid =>
      rw [dif_neg fun h => absurd h.mapped (by omega), sessionRefs, add_zero, hafter]
  | notExecutable hargs hfree huid himage =>
      rw [dif_neg fun h => himage h.image, sessionRefs, add_zero, hafter]
  | notMappedToVenezia hargs hfree huid himage hret =>
      rw [dif_neg fun h => absurd h.mappedToVenezia (by omega), sessionRefs, add_zero, hvenezia,
        if_neg (by omega)]
  | wrongBase hargs hfree huid himage hret hbase =>
      have hunmap := heldRefs_unmap hfits 0 sv (afterVeneziaMap addr size sv w)
      rw [hvenezia, if_pos hret] at hunmap
      rw [dif_neg fun h => hbase h.base, sessionRefs, add_zero, hunmap]
      exact Multiset.erase_cons_head _ _
  | opened hargs hfree huid himage hret hbase =>
      have hacc : InjectAccepted addr size sv w := ⟨hargs, huid, himage, hret, hbase⟩
      have hcomm : heldRefs (injectComm sv.kernelPage (injectEntry addr size sv w)
          sv.sceAvcodecMapMemoryToVenezia.ret pid (afterVeneziaMap addr size sv w)).2.trace =
            heldRefs (afterVeneziaMap addr size sv w).trace := rfl
      rw [dif_pos hacc, hcomm, hvenezia, if_pos hret, sessionRefs, add_comm]
      rfl

/-- `vnzBridgeRestore` and the end of the owner drop the reference of the session. -/
lemma heldRefs_close {w₀ : World} {M : Multiset MemRef} (sv : Services) (h : Consistent w₀ s)
    (hfits : Fits s.vaddr s.size) (hrefs : heldRefs w₀.trace = M + sessionRefs (some s)) :
    heldRefs (restored sv w₀).trace = M + sessionRefs none := by
  rw [heldRefs_restored sv h hfits, hrefs, sessionRefs, sessionRefs, add_zero,
    Multiset.erase_add_right_pos _ (Multiset.mem_singleton_self _), Multiset.erase_singleton,
    add_zero]

/-- The exit handler keeps the accounts. -/
lemma heldRefs_exit {M : Multiset MemRef} (pid : Pid) (sv : Services) (href : Refines w σ)
    (hfits : ∀ s ∈ σ, Fits s.vaddr s.size) (hrefs : heldRefs w.trace = M + sessionRefs σ) :
    heldRefs (procEvExitHandler pid.val sv w).2.trace =
      M + sessionRefs (nextSession w σ (.exit pid sv)) := by
  by_cases howner : w.registeredPid = pid.val
  · obtain ⟨s, rfl, hpid⟩ := Option.map_eq_some_iff.mp (href.registeredPid_iff.mp howner)
    have hreset : Consistent (clockReset w) s :=
      Refines.congr (σ := some s) href (clockReset_toStatics w)
    rw [nextSession, if_pos hpid, procEvExitHandler_of_owner howner]
    exact heldRefs_close sv hreset (hfits s rfl) ((clockOnly_clockReset w).heldRefs.trans hrefs)
  · rw [nextSession_exit_of_ne (mt href.registeredPid_iff.mpr howner),
      procEvExitHandler_of_not_owner howner]
    exact hrefs

/-- A call keeps the accounts. -/
lemma heldRefs_call {a : Accounts} (h : Accounted a) (pid : Pid) (c : Call) (sv : Services)
    (hok : a.Allowed (.call pid c sv)) :
    heldRefs (c.perform pid sv a.world).2.trace =
      (nextMaps a.maps (.call pid c sv)).map MapArgs.ref +
        sessionRefs (nextSession a.world a.session (.call pid c sv)) := by
  rcases c.quiet_or with hc | ⟨addr, size, rfl⟩ | rfl | ⟨vaddr, size, vnzPaddr, wr, rfl⟩ |
    ⟨vaddr, size, wr, rfl⟩ | ⟨clock, rfl⟩
  · have hmaps : nextMaps a.maps (.call pid c sv) = a.maps := by
      cases c <;> first | rfl | exact hc.elim
    rw [hmaps, hc.nextSession, (quiet_frame sv a.world pid hc).logs.observe heldRefs_quiet]
    exact h.refs
  · change heldRefs (vnzBridgeInject addr size pid sv a.world).2.trace = _
    have hrefs := h.refs
    cases hs : a.session with
    | none =>
        rw [hs] at hrefs
        rw [heldRefs_inject pid sv hok (h.refines.free hs), hrefs, sessionRefs, add_zero]
        rfl
    | some s =>
        have hcons : Consistent a.world s := h.refines.consistent hs
        rw [hs] at hrefs
        rw [inject_of_registered addr size pid sv hcons.registered]
        exact hrefs
  · change heldRefs (vnzBridgeRestore sv a.world).2.trace = _
    have hrefs := h.refs
    cases hs : a.session with
    | none =>
        rw [hs] at hrefs
        rw [vnzBridgeRestore_of_free (h.refines.free hs)]
        exact hrefs
    | some s =>
        have hcons : Consistent a.world s := h.refines.consistent hs
        rw [hs] at hrefs
        rw [vnzBridgeRestore_of_registered hcons.registered]
        exact heldRefs_close sv hcons (h.sessionFits s hs) hrefs
  · rw [nextSession_call (by simp) (by simp), nextMaps]
    refine (heldRefs_map vaddr size vnzPaddr wr sv a.world).trans ?_
    by_cases hret : 0 ≤ sv.sceAvcodecMapMemoryToVenezia.ret.toInt
    · rw [if_pos hret, if_pos hret, Multiset.map_cons, Multiset.cons_add, h.refs]
      rfl
    · rw [if_neg hret, if_neg hret, h.refs]
  · have hmem : (⟨vaddr, size, wr⟩ : MapArgs) ∈ a.maps := hok
    have hfits : Fits vaddr size := h.fits _ hmem
    have hmap : MapArgs.ref ⟨vaddr, size, wr⟩ ∈ a.maps.map MapArgs.ref :=
      Multiset.mem_map_of_mem _ hmem
    rw [nextSession_call (by simp) (by simp), nextMaps, Multiset.map_erase_of_mem _ _ hmem,
      ← Multiset.erase_add_left_pos _ hmap, ← h.refs]
    exact heldRefs_unmap hfits wr sv a.world
  · rw [nextSession_call (by simp) (by simp)]
    exact (clockOnly_setClock clock a.world).heldRefs.trans h.refs

/-- Outstanding maps are old ones or the one of the step. -/
lemma fits_nextMaps {a : Accounts} {e : Step} (h : ∀ m ∈ a.maps, Fits m.vaddr m.size)
    (hok : a.Allowed e) : ∀ m ∈ nextMaps a.maps e, Fits m.vaddr m.size := by
  intro m hm
  cases e with
  | call pid c sv =>
      cases c with
      | vnzBridgeMapMemory vaddr size vnzPaddr wr =>
          rw [nextMaps] at hm
          split_ifs at hm
          · rcases Multiset.mem_cons.mp hm with rfl | hm
            · exact hok
            · exact h m hm
          · exact h m hm
      | vnzBridgeUnmapMemory vaddr size wr => exact h m (Multiset.mem_of_mem_erase hm)
      | _ => exact h m hm
  | _ => exact h m hm

/-- Every allowed step keeps the accounts. -/
theorem accounted_step (a : Accounts) (e : Step) (h : Accounted a) (hok : a.Allowed e) :
    Accounted (a.step e) where
  refines := refines_step e h.refines
  fits := fits_nextMaps h.fits hok
  sessionFits := by
    intro s hs
    rcases nextSession_eq_some hs with hopen | ⟨-, sv, rfl, -, -⟩
    · exact h.sessionFits s hopen
    · exact hok
  refs := by
    cases e with
    | call pid c sv => exact heldRefs_call h pid c sv hok
    | stop pid eventType =>
        rw [Accounts.step, Tracked.step, nextSession_stop]
        exact (clockOnly_procEvHandler pid eventType a.world).heldRefs.trans h.refs
    | start pid eventType =>
        rw [Accounts.step, Tracked.step, nextSession_start]
        exact (clockOnly_procEvHandler pid eventType a.world).heldRefs.trans h.refs
    | exit pid sv => exact heldRefs_exit pid sv h.refines h.sessionFits h.refs
    | kill pid sv =>
        rw [Accounts.step, Tracked.step, nextSession_kill]
        exact heldRefs_exit pid sv h.refines h.sessionFits h.refs

lemma accounted_boot (clock : Word) (mem : Mem) : Accounted (Accounts.boot clock mem) where
  refines := boot_not_registered clock mem
  fits := by
    intro m hm
    exact absurd hm (Multiset.notMem_zero m)
  sessionFits := by
    intro s hs
    cases hs
  refs := rfl

/-- The accounts run along with the plugin. -/
lemma Accounts.run_world (a : Accounts) (es : List Step) :
    (run Accounts.step a es).world = run VVNZRunner.step a.world es :=
  run_comp (f := fun a => a.world) (fun _ _ => rfl) a es

lemma Refines.registered_iff (h : Refines w σ) : w.Registered ↔ σ.isSome := by
  cases σ with
  | none => exact iff_of_false h (by simp)
  | some s => exact iff_of_true (Consistent.registered h) rfl

/-- **The references are accounted for along every run**: those held are the references of the
outstanding maps and, exactly while a process is registered, one read reference on the block
it injected. -/
theorem refs_accounted (clock : Word) (mem : Mem) (es : List Step)
    (hok : Admissible Accounts.step Accounts.Allowed (Accounts.boot clock mem) es) :
    heldRefs (run step (boot clock mem) es).trace =
        (run Accounts.step (Accounts.boot clock mem) es).maps.map MapArgs.ref +
          sessionRefs (run Accounts.step (Accounts.boot clock mem) es).session ∧
      ((run step (boot clock mem) es).Registered ↔
        (run Accounts.step (Accounts.boot clock mem) es).session.isSome) := by
  have hinv : Accounted (run Accounts.step (Accounts.boot clock mem) es) :=
    run_invariant accounted_step (accounted_boot clock mem) hok
  have hworld : (run Accounts.step (Accounts.boot clock mem) es).world =
      run step (boot clock mem) es := Accounts.run_world _ es
  have hrefs := hinv.refs
  have href := hinv.refines
  rw [hworld] at hrefs href
  exact ⟨hrefs, href.registered_iff⟩

/-- The owner of a session maps a part of its own block, writable, and unmaps it again. -/
def ownBlockMapped : List Step :=
  [acceptedInject,
    .call samplePid (.vnzBridgeMapMemory 0x81000001 0x100 0 1) {},
    .call samplePid (.vnzBridgeUnmapMemory 0x81000001 0x100 1) {}]

theorem refs_accounted_ownBlockMapped :
    heldRefs (run step (boot 166 fun _ => 0) ownBlockMapped).trace =
        (run Accounts.step (Accounts.boot 166 fun _ => 0) ownBlockMapped).maps.map MapArgs.ref +
          sessionRefs (run Accounts.step (Accounts.boot 166 fun _ => 0) ownBlockMapped).session ∧
      ((run step (boot 166 fun _ => 0) ownBlockMapped).Registered ↔
        (run Accounts.step (Accounts.boot 166 fun _ => 0) ownBlockMapped).session.isSome) :=
  refs_accounted 166 (fun _ => 0) ownBlockMapped
    ⟨(by decide : Fits 0x81000000 0x40000), (by decide : Fits 0x81000001 0x100),
      (by decide : (⟨0x81000001, 0x100, 1⟩ : MapArgs) ∈ ({⟨0x81000001, 0x100, 1⟩} : Multiset _)),
      trivial⟩

end VVNZRunner
