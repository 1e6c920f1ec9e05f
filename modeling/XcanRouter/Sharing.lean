import XcanRouter.Refcount

/-!
# Groups of descriptors that share a payload

The descriptors made by `xcan_frame_copy` from one frame point to one payload
buffer and to one usage counter in it. The counter is a byte that wraps; the
call of `xcan_frame_discard` that brings it to zero frees the payload and the
descriptor it was called with.
-/

namespace XcanRouter

/-- The descriptors held are a group that shares the payload `b`, with the
counter at `p`, which is `c` up to wrapping. -/
structure Sharers (s : FrameRun) (b : Ptr) (p : BytePtr) (c : Nat) : Prop where
  nodup : s.live.Nodup
  data : ∀ f ∈ s.live, (s.mem.frame f).data.block = some b
  usageCount : ∀ f ∈ s.live, (s.mem.frame f).usageCount = p
  block : p.block = some b
  counter : (s.mem.byteAt p 0).toNat = c % 256
  older : ∀ f ∈ s.live, f < s.mem.heap.brk
  payload_older : b < s.mem.heap.brk
  apart : b ∉ s.live

section
variable {m : Mem} {s s' : FrameRun} {b f : Ptr} {p : BytePtr} {c : Nat}

theorem byteAt_block (h : p.block = some b) (m : Mem) :
    m.byteAt p 0 = m.byte b p.offset := by
  simp [Mem.byteAt, h]

/-- The byte at an address after it was written. -/
theorem splice_one (old : Bytes) (offset : Nat) (v : UInt8) :
    old.splice offset 1 (fun _ => v) offset = v := by
  simp [Bytes.splice]

/-- A copy that gets its descriptor. -/
theorem xcanFrameCopy_granted (hoom : m.heap.oom m.heap.calls = false)
    (hf : f ≠ m.heap.brk) (hp : (m.frame f).usageCount.block = some b) :
    (xcanFrameCopy (some f) m).1 = some m.heap.brk ∧
      (xcanFrameCopy (some f) m).2.frame =
        Function.update m.frame m.heap.brk { m.frame f with next := none } ∧
      (xcanFrameCopy (some f) m).2.byteAt (m.frame f).usageCount 0 =
        m.byteAt (m.frame f).usageCount 0 + 1 ∧
      (xcanFrameCopy (some f) m).2.heap = m.heap.grant 0 := by
  refine ⟨?_, ?_, ?_, ?_⟩
  · simp [xcanFrameCopy, hoom]
  · simp [xcanFrameCopy, hoom, whole, FrameField.usageCount, FrameField.next, Stored.put,
      storeByte, memcpy, loadByte, hf, hp]
  · rw [byteAt_block hp, byteAt_block hp]
    simp [xcanFrameCopy, hoom, whole, FrameField.usageCount, FrameField.next, Stored.put,
      storeByte, memcpy, loadByte, hf, hp, Mem.byteAt, splice_one]
  · simp [xcanFrameCopy, hoom, whole, FrameField.usageCount, FrameField.next, Stored.put,
      storeByte, memcpy, loadByte, hf, hp]

/-- A discard of a descriptor. -/
theorem xcanFrameDiscard_counts (hp : (m.frame f).usageCount.block = some b)
    (hd : (m.frame f).data.block = some b) :
    (xcanFrameDiscard (some f) m).2.byteAt (m.frame f).usageCount 0 =
        m.byteAt (m.frame f).usageCount 0 - 1 ∧
      (xcanFrameDiscard (some f) m).2.heap.frees =
        if m.byteAt (m.frame f).usageCount 0 - 1 = 0 then m.heap.frees ++ [b, f]
        else m.heap.frees := by
  rw [UInt8.sub_eq_add_neg]
  by_cases hzero : m.byteAt (m.frame f).usageCount 0 + (-1) = 0
  · rw [byteAt_block hp] at hzero
    rw [byteAt_block hp, byteAt_block hp]
    constructor
    · simp [xcanFrameDiscard, storeByte, memcpy, loadByte, FrameField.usageCount,
        FrameField.data, hp, hd, Mem.byteAt, splice_one, hzero]
    · simp [xcanFrameDiscard, storeByte, memcpy, loadByte, FrameField.usageCount,
        FrameField.data, hp, hd, Mem.byteAt, splice_one, hzero]
  · rw [byteAt_block hp] at hzero
    rw [byteAt_block hp, byteAt_block hp]
    constructor
    · simp [xcanFrameDiscard, storeByte, memcpy, loadByte, FrameField.usageCount,
        FrameField.data, hp, Mem.byteAt, splice_one, hzero]
    · simp [xcanFrameDiscard, storeByte, memcpy, loadByte, FrameField.usageCount,
        FrameField.data, hp, Mem.byteAt, splice_one, hzero]

/-- After a copy every descriptor points where one of those before it did: the
new one where `f` does, the others where they did themselves. -/
theorem exists_source {live : List Ptr} {new g : Ptr} {frame frame' : Ptr → XcanFrame}
    (hf : f ∈ live) (hframe : frame' = Function.update frame new { frame f with next := none })
    (hg : g ∈ live ++ [new]) :
    ∃ g₀ ∈ live, (frame' g).data = (frame g₀).data ∧
      (frame' g).usageCount = (frame g₀).usageCount := by
  subst hframe
  by_cases hnew : g = new
  · subst hnew
    exact ⟨f, hf, by simp, by simp⟩
  · have hg' : g ∈ live := by simpa [hnew] using hg
    exact ⟨g, hg', by simp [hnew], by simp [hnew]⟩

/-- A copy is one more descriptor of the group, and counts itself. -/
theorem Sharers.copy (h : Sharers s b p c) (hf : f ∈ s.live)
    (hoom : s.mem.heap.oom s.mem.heap.calls = false) :
    ∃ s', frameStep s (.copy f) = some s' ∧ Sharers s' b p (c + 1) ∧
      s'.live = s.live ++ [s.mem.heap.brk] ∧
      s'.mem.heap.frees = s.mem.heap.frees ∧
      s'.mem.heap.oom = s.mem.heap.oom ∧
      s'.mem.heap.calls = s.mem.heap.calls + 1 := by
  have hlt := h.older f hf
  have hp := h.usageCount f hf
  obtain ⟨hrc, hframe, hbyte, hheap⟩ := xcanFrameCopy_granted hoom (Nat.ne_of_lt hlt)
    (b := b) (by rw [hp, h.block])
  rw [hp] at hbyte
  have hlive : (s.hold (xcanFrameCopy (some f) s.mem)).live = s.live ++ [s.mem.heap.brk] := by
    simp [FrameRun.hold, hrc]
  refine ⟨s.hold (xcanFrameCopy (some f) s.mem), rfl, ?_, hlive, ?_, ?_, ?_⟩
  · constructor
    case nodup =>
      rw [hlive, List.nodup_append]
      refine ⟨h.nodup, by simp, ?_⟩
      rintro g hg _ hnew rfl
      exact Nat.lt_irrefl _ (List.mem_singleton.mp hnew ▸ h.older g hg)
    case data =>
      rw [hlive]
      intro g hg
      obtain ⟨g₀, hg₀, hdata, -⟩ := exists_source hf hframe hg
      show ((xcanFrameCopy (some f) s.mem).2.frame g).data.block = some b
      rw [hdata]
      exact h.data g₀ hg₀
    case usageCount =>
      rw [hlive]
      intro g hg
      obtain ⟨g₀, hg₀, -, hcount⟩ := exists_source hf hframe hg
      exact hcount.trans (h.usageCount g₀ hg₀)
    case block => exact h.block
    case counter =>
      show ((xcanFrameCopy (some f) s.mem).2.byteAt p 0).toNat = (c + 1) % 256
      rw [hbyte, UInt8.toNat_add, h.counter, UInt8.toNat_one]
      omega
    case older =>
      show ∀ g ∈ _, g < (xcanFrameCopy (some f) s.mem).2.heap.brk
      rw [hlive, hheap]
      intro g hg
      rcases List.mem_append.mp hg with hg | hg
      · exact Nat.lt_succ_of_lt (h.older g hg)
      · rw [List.mem_singleton.mp hg]
        exact Nat.lt_succ_self _
    case payload_older =>
      show b < (xcanFrameCopy (some f) s.mem).2.heap.brk
      rw [hheap]
      exact Nat.lt_succ_of_lt h.payload_older
    case apart =>
      rw [hlive]
      intro hb
      rcases List.mem_append.mp hb with hb | hb
      · exact h.apart hb
      · exact Nat.ne_of_lt h.payload_older (List.mem_singleton.mp hb)
  · simp [FrameRun.hold, hheap]
  · simp [FrameRun.hold, hheap]
  · simp [FrameRun.hold, hheap]

/-- A discard takes one descriptor out of the group, and frees it with the
payload when it brings the counter to zero. -/
theorem Sharers.discard (h : Sharers s b p (c + 1)) (hf : f ∈ s.live) :
    ∃ s', frameStep s (.discard f) = some s' ∧ Sharers s' b p c ∧
      s'.live = s.live.erase f ∧
      s'.mem.heap.frees =
        if 256 ∣ c then s.mem.heap.frees ++ [b, f] else s.mem.heap.frees := by
  have hp := h.usageCount f hf
  obtain ⟨hbyte, hfrees⟩ := xcanFrameDiscard_counts (b := b) (by rw [hp, h.block])
    (h.data f hf)
  obtain ⟨hframe, -, -, -, hbrk, -⟩ := xcanFrameDiscard_leaves s.mem f
  rw [hp] at hbyte hfrees
  have hcounter : (s.mem.byteAt p 0 - 1).toNat = c % 256 := by
    rw [UInt8.toNat_sub, h.counter, UInt8.toNat_one]
    omega
  have hzero : s.mem.byteAt p 0 - 1 = 0 ↔ 256 ∣ c := by
    rw [← UInt8.toNat_inj, hcounter, Nat.dvd_iff_mod_eq_zero]
    rfl
  have hmem : ∀ g ∈ s.live.erase f, g ∈ s.live := fun g hg => List.mem_of_mem_erase hg
  refine ⟨_, rfl, ?_, rfl, ?_⟩
  · constructor
    case nodup => exact h.nodup.erase f
    case data =>
      intro g hg
      show ((xcanFrameDiscard (some f) s.mem).2.frame g).data.block = some b
      rw [hframe]
      exact h.data g (hmem g hg)
    case usageCount =>
      intro g hg
      show ((xcanFrameDiscard (some f) s.mem).2.frame g).usageCount = p
      rw [hframe]
      exact h.usageCount g (hmem g hg)
    case block => exact h.block
    case counter =>
      show ((xcanFrameDiscard (some f) s.mem).2.byteAt p 0).toNat = c % 256
      rw [hbyte, hcounter]
    case older =>
      intro g hg
      show g < (xcanFrameDiscard (some f) s.mem).2.heap.brk
      rw [hbrk]
      exact h.older g (hmem g hg)
    case payload_older =>
      show b < (xcanFrameDiscard (some f) s.mem).2.heap.brk
      rw [hbrk]
      exact h.payload_older
    case apart => exact fun hb => h.apart (hmem b hb)
  · simp only [hfrees, hzero]

/-! ## Runs -/

section
variable {ops : List FrameOp} {copies discards order : List Ptr}

theorem run_cons_eq {op : FrameOp} (h : frameStep s op = some s') :
    Runs.run frameStep s (op :: ops) = Runs.run frameStep s' ops := by
  rw [Runs.run_cons, h, Option.bind_some]

/-- **Copies** add to the group and free nothing. -/
theorem Sharers.run_copies (h : Sharers s b p c)
    (hadm : Runs.Meets frameStep (fun s op => op.Admissible s) s (copies.map .copy ++ ops))
    (hoom : ∀ k, k < copies.length → s.mem.heap.oom (s.mem.heap.calls + k) = false) :
    ∃ s', Runs.run frameStep s (copies.map .copy ++ ops) = Runs.run frameStep s' ops ∧
      Sharers s' b p (c + copies.length) ∧
      Runs.Meets frameStep (fun s op => op.Admissible s) s' ops ∧
      s'.mem.heap.frees = s.mem.heap.frees := by
  induction copies generalizing s c with
  | nil => exact ⟨s, rfl, h, hadm, rfl⟩
  | cons f copies ih =>
      obtain ⟨s₁, hstep, h₁, -, hfrees₁, hoom₁, hcalls₁⟩ :=
        h.copy hadm.1 (hoom 0 (Nat.zero_lt_succ _))
      obtain ⟨s', hrun, h', hadm', hfrees⟩ := ih h₁ (hadm.2 s₁ hstep) (by
        intro k hk
        rw [hoom₁, hcalls₁, Nat.add_assoc, Nat.add_comm 1 k]
        exact hoom (k + 1) (Nat.succ_lt_succ hk))
      refine ⟨s', ?_, ?_, hadm', hfrees.trans hfrees₁⟩
      · rw [List.map_cons, List.cons_append, run_cons_eq hstep, hrun]
      · rw [List.length_cons, Nat.add_comm copies.length 1, ← Nat.add_assoc]
        exact h'

/-- **Discards** free the payload when the counter, taken modulo 256, passes
zero. -/
theorem Sharers.run_discards (h : Sharers s b p c) (hle : discards.length ≤ c)
    (hadm : Runs.Meets frameStep (fun s op => op.Admissible s) s (discards.map .discard)) :
    ∃ s', Runs.run frameStep s (discards.map .discard) = some s' ∧
      (b ∉ s'.mem.heap.frees ↔ b ∉ s.mem.heap.frees ∧
        ∀ k, c - discards.length ≤ k → k < c → ¬ 256 ∣ k) := by
  induction discards generalizing s c with
  | nil =>
      refine ⟨s, rfl, ⟨fun hb => ⟨hb, fun k hk hlt => ?_⟩, fun hb => hb.1⟩⟩
      simp only [List.length_nil] at hk
      omega
  | cons f discards ih =>
      obtain ⟨c, rfl⟩ : ∃ k, c = k + 1 := ⟨c - 1, by simp at hle; omega⟩
      obtain ⟨s₁, hstep, h₁, -, hfrees⟩ := h.discard hadm.1
      obtain ⟨s', hrun, hiff⟩ := ih h₁ (Nat.le_of_succ_le_succ hle) (hadm.2 s₁ hstep)
      refine ⟨s', ?_, hiff.trans ?_⟩
      · rw [List.map_cons, run_cons_eq hstep, hrun]
      · have hone : b ∉ s₁.mem.heap.frees ↔ b ∉ s.mem.heap.frees ∧ ¬ 256 ∣ c := by
          rw [hfrees]
          split
          · rename_i hdvd
            simp [hdvd]
          · rename_i hdvd
            simp [hdvd]
        rw [hone, List.length_cons, Nat.add_sub_add_right, and_assoc]
        refine and_congr_right fun _ => ⟨?_, ?_⟩
        · rintro ⟨hc, hrest⟩ k hk hlt
          rcases Nat.lt_or_eq_of_le (Nat.le_of_lt_succ hlt) with hlt | rfl
          · exact hrest k hk hlt
          · exact hc
        · intro hall
          exact ⟨hall c (Nat.sub_le _ _) (Nat.lt_succ_self c),
            fun k hk hlt => hall k hk (Nat.lt_succ_of_lt hlt)⟩

/-- A frame with one live descriptor and the counter 1, its payload not freed. -/
structure SoleHolder (s : FrameRun) (f b : Ptr) (p : BytePtr) : Prop where
  live : s.live = [f]
  sharers : Sharers s b p 1
  unfreed : b ∉ s.mem.heap.frees

/-- **The payload survives exactly when the counter does not pass a multiple of
256**: after `n` copies and `m ≤ n` discards it has not been freed if and only
if none of the numbers from `n + 1 - m` to `n` is one. -/
theorem payload_survives_iff (h : SoleHolder s f b p)
    (hle : discards.length ≤ copies.length)
    (hoom : ∀ k, k < copies.length → s.mem.heap.oom (s.mem.heap.calls + k) = false)
    (hadm : Runs.Meets frameStep (fun s op => op.Admissible s) s
      (copies.map .copy ++ discards.map .discard)) :
    ∃ s', Runs.run frameStep s (copies.map .copy ++ discards.map .discard) = some s' ∧
      (b ∉ s'.mem.heap.frees ↔
        ∀ k, copies.length + 1 - discards.length ≤ k → k ≤ copies.length → ¬ 256 ∣ k) := by
  obtain ⟨s₁, hrun₁, h₁, hadm₁, hfrees₁⟩ := h.sharers.run_copies hadm hoom
  obtain ⟨s', hrun, hiff⟩ := h₁.run_discards (by omega) hadm₁
  refine ⟨s', hrun₁.trans hrun, hiff.trans ?_⟩
  rw [hfrees₁, Nat.add_comm 1]
  simp only [h.unfreed, not_false_eq_true, true_and, Nat.lt_succ_iff]

/-- **The last discard** of a group frees the payload and its own descriptor,
the ones before it free nothing. -/
theorem Sharers.run_release (h : Sharers s b p order.length) (hperm : order.Perm s.live)
    (hlt : order.length < 256) (hne : order ≠ []) :
    ∃ s', Runs.run frameStep s (order.map .discard) = some s' ∧
      s'.mem.heap.frees = s.mem.heap.frees ++ [b, order.getLast hne] := by
  induction order generalizing s with
  | nil => exact absurd rfl hne
  | cons f order ih =>
      have hf : f ∈ s.live := hperm.subset List.mem_cons_self
      obtain ⟨s₁, hstep, h₁, hlive₁, hfrees₁⟩ := h.discard hf
      rw [List.map_cons, run_cons_eq hstep]
      by_cases hlast : order = []
      · subst hlast
        exact ⟨s₁, rfl, by simpa using hfrees₁⟩
      · have hpos := List.length_pos_iff.mpr hlast
        rw [List.length_cons] at hlt
        obtain ⟨s', hrun, hfrees⟩ := ih h₁
          (by rw [hlive₁]; exact (List.cons_perm_iff_perm_erase.mp hperm).2)
          (Nat.lt_of_succ_lt hlt) hlast
        refine ⟨s', hrun, ?_⟩
        rw [hfrees, hfrees₁, if_neg (by omega), List.getLast_cons hlast]

/-- After the discards in `order` the payload was freed once, by the last of
them, and every descriptor of the group was freed once. -/
structure ReleasesEachOnce (s : FrameRun) (b : Ptr) (order : List Ptr) : Prop where
  once : ∃ s', Runs.run frameStep s (order.map .discard) = some s' ∧
    s'.mem.heap.frees.count b = 1 ∧ ∀ f ∈ s.live, s'.mem.heap.frees.count f = 1
  not_earlier : ∀ before, before <+: order → before ≠ order →
    ∃ s', Runs.run frameStep s (before.map .discard) = some s' ∧ b ∉ s'.mem.heap.frees

/-- **A group is released exactly when it is one descriptor**: whatever the
order of the discards, the payload is freed by the last one, and so is the
descriptor of the last one; the others are not freed at all. -/
theorem sharers_released_iff (h : Sharers s b p s.live.length) (hpos : 1 ≤ s.live.length)
    (hlt : s.live.length ≤ 255) (hunfreed : ∀ x ∈ b :: s.live, x ∉ s.mem.heap.frees)
    (hperm : order.Perm s.live) :
    ReleasesEachOnce s b order ↔ s.live.length = 1 := by
  have hlen := hperm.length_eq
  have hne : order ≠ [] := List.length_pos_iff.mp (hlen ▸ hpos)
  obtain ⟨s', hrun, hfrees⟩ := Sharers.run_release (hlen ▸ h) hperm (by omega) hne
  have hlast : order.getLast hne ∈ s.live := hperm.subset (List.getLast_mem hne)
  have hcount : ∀ f ∈ s.live, s'.mem.heap.frees.count f =
      if f = order.getLast hne then 1 else 0 := by
    intro f hf
    have hzero := List.count_eq_zero.mpr (hunfreed f (List.mem_cons_of_mem b hf))
    have hbf : b ≠ f := fun heq => h.apart (heq ▸ hf)
    rw [hfrees, List.count_append, hzero, List.count_cons_of_ne hbf, Nat.zero_add]
    by_cases hf : f = order.getLast hne
    · simp [← hf]
    · simp [hf, Ne.symm hf]
  constructor
  · rintro ⟨⟨s₁, hrun₁, -, hall⟩, -⟩
    cases hrun.symm.trans hrun₁
    -- every descriptor is the last one
    have hsame : ∀ f ∈ s.live, f = order.getLast hne := by
      intro f hf
      by_contra hother
      have := hall f hf
      rw [hcount f hf, if_neg hother] at this
      cases this
    have hnodup := h.nodup
    rw [List.eq_replicate_of_mem hsame, List.nodup_replicate] at hnodup
    omega
  · intro hone
    obtain ⟨x, hx⟩ := List.length_eq_one_iff.mp hone
    obtain rfl : order = [x] := List.perm_singleton.mp (hx ▸ hperm)
    have hbx : x ≠ b := fun heq => h.apart (by simp [hx, heq])
    constructor
    case once =>
      refine ⟨s', hrun, ?_, ?_⟩
      · have hzero := List.count_eq_zero.mpr (hunfreed b List.mem_cons_self)
        simp [hfrees, hzero, hbx]
      · intro f hf
        rw [hcount f hf, if_pos]
        simpa [hx] using hf
    case not_earlier =>
      intro before hprefix hbefore
      have hnil : before = [] := by
        rcases List.prefix_cons_iff.mp hprefix with hnil | ⟨t, rfl, ht⟩
        · exact hnil
        · exact absurd (by rw [List.prefix_nil.mp ht]) hbefore
      subst hnil
      exact ⟨s, rfl, hunfreed b List.mem_cons_self⟩

/-- A descriptor of the group may be copied any number of times. -/
theorem Sharers.meets_copies (h : Sharers s b p c) (hf : f ∈ s.live)
    (hoom : ∀ k, s.mem.heap.oom k = false) (n : Nat) :
    Runs.Meets frameStep (fun s op => op.Admissible s) s
      ((List.replicate n f).map .copy ++ [f].map .discard) := by
  induction n generalizing s c with
  | zero => exact ⟨hf, fun _ _ => trivial⟩
  | succ n ih =>
      refine ⟨hf, ?_⟩
      intro s' hstep
      obtain ⟨s₁, hstep₁, h₁, hlive₁, -, hoom₁, -⟩ := h.copy hf (hoom _)
      cases hstep₁.symm.trans hstep
      apply ih h₁
      · rw [hlive₁]
        exact List.mem_append_left _ hf
      · rw [hoom₁]
        exact hoom

end

end

/-! ## A frame of eight bytes -/

/-- The descriptor `1` has the payload `2`, with the counter 1 behind it. -/
def oneFrame : FrameRun where
  mem :=
    { heap := { brk := 3 }
      frame := fun _ =>
        { len := 8
          data := { block := some 2 }
          usageCount := { block := some 2, offset := 8 } }
      byte := fun _ _ => 1 }
  live := [1]

theorem oneFrame_sole : SoleHolder oneFrame 1 2 { block := some 2, offset := 8 } where
  live := rfl
  sharers := {
    nodup := by decide
    data := fun _ _ => rfl
    usageCount := fun _ _ => rfl
    block := rfl
    counter := rfl
    older := by decide
    payload_older := by decide
    apart := by decide }
  unfreed := by decide

/-- One copy, one discard. -/
theorem payload_survives_iff_one_copy :
    ∃ s', Runs.run frameStep oneFrame ([1].map .copy ++ [1].map .discard) = some s' ∧
      (2 ∉ s'.mem.heap.frees ↔
        ∀ k, [1].length + 1 - [1].length ≤ k → k ≤ [1].length → ¬ 256 ∣ k) :=
  have hle : [1].length ≤ [1].length := Nat.le_refl 1
  payload_survives_iff oneFrame_sole hle (fun _ _ => rfl)
    (oneFrame_sole.sharers.meets_copies (by decide) (fun _ => rfl) 1)

/-- 256 copies bring the counter back to 1, and the first discard frees the
payload of the 256 descriptors that are left. -/
theorem payload_freed_after_wrap :
    SoleHolder oneFrame 1 2 { block := some 2, offset := 8 } ∧
      (∀ k, oneFrame.mem.heap.oom k = false) ∧
      Runs.Meets frameStep (fun s op => op.Admissible s) oneFrame
        ((List.replicate 256 1).map .copy ++ [1].map .discard) ∧
      ∃ s', Runs.run frameStep oneFrame
          ((List.replicate 256 1).map .copy ++ [1].map .discard) = some s' ∧
        2 ∈ s'.mem.heap.frees := by
  have hadm := oneFrame_sole.sharers.meets_copies (f := 1) (by decide) (fun _ => rfl) 256
  refine ⟨oneFrame_sole, fun _ => rfl, hadm, ?_⟩
  obtain ⟨s₁, hrun₁, h₁, hadm₁, -⟩ :=
    oneFrame_sole.sharers.run_copies hadm (fun _ _ => rfl)
  rw [List.length_replicate] at h₁
  have hle : [1].length ≤ 1 + 256 := by decide
  obtain ⟨s', hrun, hiff⟩ := h₁.run_discards hle hadm₁
  refine ⟨s', hrun₁.trans hrun, ?_⟩
  by_contra hfreed
  exact (hiff.mp hfreed).2 256 (by decide) (by decide) (Nat.dvd_refl 256)

/-- The frame and a copy of it. -/
def twoDescriptors : FrameRun :=
  { oneFrame with
    mem := { oneFrame.mem with byte := fun _ _ => 2 }
    live := [1, 0] }

theorem twoDescriptors_sharers :
    Sharers twoDescriptors 2 { block := some 2, offset := 8 } 2 where
  nodup := by decide
  data := fun _ _ => rfl
  usageCount := fun _ _ => rfl
  block := rfl
  counter := rfl
  older := by decide
  payload_older := by decide
  apart := by decide

/-- Both are discarded. -/
theorem sharers_released_iff_two :
    ReleasesEachOnce twoDescriptors 2 [0, 1] ↔ twoDescriptors.live.length = 1 :=
  sharers_released_iff twoDescriptors_sharers (by decide) (by decide) (by decide)
    (List.Perm.swap 1 0 [])

/-- The descriptor that is discarded first is not freed. -/
theorem first_descriptor_not_freed :
    Sharers twoDescriptors 2 { block := some 2, offset := 8 } 2 ∧
      ∃ s', Runs.run frameStep twoDescriptors ([0, 1].map .discard) = some s' ∧
        s'.mem.heap.frees = [2, 1] ∧ ¬ ReleasesEachOnce twoDescriptors 2 [0, 1] := by
  refine ⟨twoDescriptors_sharers, _, rfl, by decide, ?_⟩
  rintro ⟨⟨s', hrun, -, hall⟩, -⟩
  cases hrun
  have := hall 0 (by decide)
  revert this
  decide

end XcanRouter
