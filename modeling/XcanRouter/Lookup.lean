import XcanRouter.Registry

/-!
# Lookup of devices (xcan_device.c)

`xcan_get_device` reads the number of the device in every slot up to the wanted
one. The device loops look whether a slot is empty before they use it; the
lookup does not.
-/

namespace XcanRouter

open Slots

variable {W : Type}

/-- `for(int i = 0 ; i < XCAN_MAX_DEVICES ; i++) if(devices[i]->id == id) return
devices[i];`, on the slots that are left. -/
def getDeviceFor (id : UInt8) : List Nat → Prog (Stack W) (Option Ptr)
  | [] => return none
  | i :: is => do
    -- an empty slot is dereferenced like any other
    if (← load (← deviceSlot i) DeviceField.id) = id then
      deviceSlot i
    else
      getDeviceFor id is

/-- `xcan_get_device` -/
def xcanGetDevice (id : UInt8) : Prog (Stack W) (Option Ptr) :=
  getDeviceFor id (List.range xcanMaxDevices)

/-- The lookup returns the registered device with the number `id`, or `NULL`
when there is none, and reads through no `NULL`. -/
def LooksUp (s : Stack W) (id : UInt8) : Prop :=
  ∃ (r : Option Ptr) (s' : Stack W) (new : List Access),
    xcanGetDevice id s = some (r, s') ∧ s'.mem.log = s.mem.log ++ new ∧
    (∀ a ∈ new, a.block ≠ none) ∧
    ∀ d, r = some d ↔
      (∃ i < xcanMaxDevices, s.devices i = some d) ∧ (s.mem.device d).id = id

/-- A read of the number in a slot, whatever is in the slot. -/
theorem load_id_log (p : Option Ptr) (m : Mem) :
    ∃ a, a.block = p ∧ (load p DeviceField.id m).2.log = m.log ++ [a] ∧
      (load p DeviceField.id m).2.device = m.device :=
  ⟨_, rfl, rfl, rfl⟩

theorem getDeviceFor_cons (id : UInt8) (i : Nat) (is : List Nat) (s : Stack W) (m : Mem) :
    getDeviceFor id (i :: is) { s with mem := m } =
      if (load (s.devices i) DeviceField.id m).1 = id then
        some (s.devices i, { s with mem := (load (s.devices i) DeviceField.id m).2 })
      else getDeviceFor id is { s with mem := (load (s.devices i) DeviceField.id m).2 } := by
  simp [getDeviceFor]

/-- The scan returns, and starts with a read through the first slot. -/
theorem getDeviceFor_first (id : UInt8) (s : Stack W) :
    ∀ (is : List Nat) (i : Nat) (m : Mem),
      ∃ (r : Option Ptr) (m' : Mem) (a : Access) (new : List Access),
        getDeviceFor id (i :: is) { s with mem := m } = some (r, { s with mem := m' }) ∧
          m'.log = m.log ++ a :: new ∧ a.block = s.devices i := by
  intro is
  induction is with
  | nil =>
      intro i m
      obtain ⟨a, hblock, hlog, -⟩ := load_id_log (s.devices i) m
      rw [getDeviceFor_cons]
      split
      · exact ⟨_, _, a, [], rfl, hlog, hblock⟩
      · exact ⟨none, _, a, [], rfl, hlog, hblock⟩
  | cons j is ih =>
      intro i m
      obtain ⟨a, hblock, hlog, -⟩ := load_id_log (s.devices i) m
      rw [getDeviceFor_cons]
      split
      · exact ⟨_, _, a, [], rfl, hlog, hblock⟩
      · obtain ⟨r, m', a', new, hrun, hlog', -⟩ := ih j (load (s.devices i) DeviceField.id m).2
        refine ⟨r, m', a, a' :: new, hrun, ?_, hblock⟩
        rw [hlog', hlog, List.append_assoc, List.singleton_append]

/-- A scan of the `n` slots from `a` on returns; with no empty slot up to the
wanted one it finds what is in that slot, with one it reads through `NULL`. -/
def ScansSlots (id : UInt8) (s : Stack W) (a n : Nat) (m : Mem) : Prop :=
  ∃ (r : Option Ptr) (m' : Mem) (new : List Access),
    getDeviceFor id (List.range' a n) { s with mem := m } = some (r, { s with mem := m' }) ∧
    m'.log = m.log ++ new ∧
    ((∀ x ∈ new, x.block ≠ none) ↔
      ∀ i, a ≤ i → i < a + n → i ≤ id.toNat → s.devices i ≠ none) ∧
    ((∀ x ∈ new, x.block ≠ none) →
      ∀ d, r = some d ↔ id.toNat < a + n ∧ s.devices id.toNat = some d)

section
variable {id : UInt8} {s : Stack W} {a n : Nat} {m : Mem} {d : Ptr}

theorem scansSlots_end (ha : a ≤ id.toNat) : ScansSlots id s a 0 m := by
  refine ⟨none, m, [], rfl, by simp, ?_, ?_⟩
  · simp only [List.not_mem_nil, false_implies, implies_true, true_iff]
    intro i hi hlt
    omega
  · intro _ d
    simp only [reduceCtorEq, false_iff]
    omega

theorem scansSlots_empty (ha : a ≤ id.toNat) (hslot : s.devices a = none) :
    ScansSlots id s a (n + 1) m := by
  obtain ⟨r, m', x, new, hrun, hlog, hblock⟩ :=
    getDeviceFor_first id s (List.range' (a + 1) n) a m
  have hnull : ¬ ∀ y ∈ x :: new, y.block ≠ none := by
    intro h
    exact h x List.mem_cons_self (hblock.trans hslot)
  have hgap : ¬ ∀ i, a ≤ i → i < a + (n + 1) → i ≤ id.toNat → s.devices i ≠ none := by
    intro h
    exact h a (Nat.le_refl a) (by omega) ha hslot
  refine ⟨r, m', x :: new, hrun, hlog, iff_of_false hnull hgap, ?_⟩
  intro h
  exact absurd h hnull

theorem scansSlots_found (hslot : s.devices a = some d) (hid : id.toNat = a)
    (heq : (load (s.devices a) DeviceField.id m).1 = id) : ScansSlots id s a (n + 1) m := by
  obtain ⟨x, hblock, hlog, -⟩ := load_id_log (s.devices a) m
  have hrun := getDeviceFor_cons id a (List.range' (a + 1) n) s m
  rw [if_pos heq] at hrun
  have hx : x.block ≠ none := by simp [hblock, hslot]
  refine ⟨_, _, [x], hrun, hlog, ?_, ?_⟩
  · simp only [List.mem_singleton, forall_eq, hx, ne_eq, not_false_eq_true, true_iff]
    intro i hi _ hle
    obtain rfl : i = a := by omega
    simp [hslot]
  · intro _ d'
    rw [hid]
    constructor
    · intro h
      exact ⟨by omega, h⟩
    · intro h
      exact h.2

theorem scansSlots_next (hslot : s.devices a = some d)
    (hne : (load (s.devices a) DeviceField.id m).1 ≠ id)
    (hrest : ScansSlots id s (a + 1) n (load (s.devices a) DeviceField.id m).2) :
    ScansSlots id s a (n + 1) m := by
  obtain ⟨x, hblock, hlog, -⟩ := load_id_log (s.devices a) m
  obtain ⟨r, m', new, hrest, hlog', hiff, hfound⟩ := hrest
  have hrun := getDeviceFor_cons id a (List.range' (a + 1) n) s m
  rw [if_neg hne, hrest] at hrun
  have hx : x.block ≠ none := by simp [hblock, hslot]
  have hcons : (∀ y ∈ x :: new, y.block ≠ none) ↔ ∀ y ∈ new, y.block ≠ none := by
    simp [hx]
  refine ⟨r, m', x :: new, hrun, ?_, ?_, ?_⟩
  · rw [hlog', hlog, List.append_assoc, List.singleton_append]
  · rw [hcons, hiff]
    constructor
    · intro h i hi hin hle
      rcases Nat.eq_or_lt_of_le hi with rfl | hi
      · simp [hslot]
      · exact h i hi (by omega) hle
    · intro h i hi hin hle
      exact h i (by omega) (by omega) hle
  · intro h d'
    rw [hfound (hcons.mp h) d', Nat.add_right_comm, Nat.add_assoc]

/-- **The scan of the slots of a labelled pool.** -/
theorem getDeviceFor_spec (hlabel : ∀ i d, s.devices i = some d → (s.mem.device d).id.toNat = i)
    (hdev : m.device = s.mem.device) (ha : a ≤ id.toNat) : ScansSlots id s a n m := by
  induction n generalizing a m with
  | zero => exact scansSlots_end ha
  | succ n ih =>
      cases hslot : s.devices a with
      | none => exact scansSlots_empty ha hslot
      | some d =>
          obtain ⟨-, -, -, hdev'⟩ := load_id_log (s.devices a) m
          have hid : (load (s.devices a) DeviceField.id m).1.toNat = a := by
            rw [hslot]
            show (m.device d).id.toNat = a
            rw [hdev, hlabel a d hslot]
          by_cases heq : (load (s.devices a) DeviceField.id m).1 = id
          · rw [heq] at hid
            exact scansSlots_found hslot hid heq
          · have hlt : a < id.toNat := by
              rcases Nat.lt_or_eq_of_le ha with hlt | ha
              · exact hlt
              · exact absurd (UInt8.toNat_inj.mp (hid.trans ha)) heq
            exact scansSlots_next hslot heq (ih (hdev'.trans hdev) hlt)

end

/-- **The lookup in a labelled pool** is right, and reads through no `NULL`,
exactly when no slot up to the wanted one is empty. -/
theorem looksUp_iff {id : UInt8} {s : Stack W}
    (hlabel : ∀ i d, s.devices i = some d → (s.mem.device d).id.toNat = i) :
    LooksUp s id ↔ ∀ i < xcanMaxDevices, i ≤ id.toNat → s.devices i ≠ none := by
  obtain ⟨r, m', new, hrun, hlog, hiff, hfound⟩ :=
    getDeviceFor_spec (a := 0) (n := xcanMaxDevices) hlabel rfl (Nat.zero_le id.toNat)
  rw [← List.range_eq_range'] at hrun
  rw [Nat.zero_add] at hiff hfound
  have hiff' : (∀ x ∈ new, x.block ≠ none) ↔
      ∀ i < xcanMaxDevices, i ≤ id.toNat → s.devices i ≠ none :=
    hiff.trans ⟨fun h i => h i (Nat.zero_le i), fun h i _ => h i⟩
  rw [← hiff']
  constructor
  · rintro ⟨r₁, s₁, new₁, hrun₁, hlog₁, hnull, -⟩
    obtain ⟨-, rfl⟩ := Prod.mk.inj (Option.some.inj (hrun₁.symm.trans hrun))
    rwa [List.append_cancel_left (hlog.symm.trans hlog₁)]
  · intro hnull
    refine ⟨r, _, new, hrun, hlog, hnull, ?_⟩
    intro d
    rw [hfound hnull d]
    constructor
    · rintro ⟨hlt, hd⟩
      exact ⟨⟨_, hlt, hd⟩, UInt8.toNat_inj.mp (hlabel _ d hd)⟩
    · rintro ⟨⟨i, hi, hd⟩, rfl⟩
      rw [hlabel i d hd]
      exact ⟨hi, hd⟩

/-! ## Runs of registrations -/

/-- Two inits are of different devices with different numbers. -/
def RegistryEvent.Apart : RegistryEvent → RegistryEvent → Prop
  | .init d i _, .init d' i' _ => d ≠ d' ∧ i ≠ i'
  | _, _ => True

/-- Device `d` in slot `i` is not concerned by an init. -/
def RegistryEvent.Spares (i : Nat) (d : Ptr) : RegistryEvent → Prop
  | .init dev id _ => d ≠ dev ∧ i ≠ id.toNat
  | .destroy _ => True

section
variable {drv : Drivers W} {s s' s₀ : Registry W} {e : RegistryEvent}
  {es : List RegistryEvent}

/-- What is in a slot after a step was there before, or was initialised into
it. -/
theorem registryStep_slot (hdrv : DestroyLeaves drv) (hadm : e.Admissible s)
    (hstep : registryStep drv s e = some s') {i : Nat} {d : Ptr}
    (hi : s'.stack.devices i = some d) :
    s.stack.devices i = some d ∨ ∃ id name, e = .init d id name ∧ i = id.toNat := by
  cases e with
  | init dev id name =>
      by_cases hid : id.toNat < xcanMaxDevices
      · obtain ⟨s₁, hstep₁, hdevices, -⟩ := registryStep_init drv hid hadm
        cases hstep₁.symm.trans hstep
        rw [hdevices] at hi
        rcases update_eq_some hi with ⟨rfl, hd⟩ | ⟨-, hi⟩
        · exact .inr ⟨id, name, by rw [Option.some.inj hd], rfl⟩
        · exact .inl hi
      · rw [registryStep, xcanDeviceInit_rejected (Nat.le_of_not_lt hid)] at hstep
        cases hstep
        exact .inl hi
  | destroy dev =>
      obtain ⟨r, hrun, rfl⟩ := Option.map_eq_some_iff.mp hstep
      obtain ⟨hdevices, -⟩ := xcanDeviceDestroy_removes hdrv hrun
      change r.2.devices i = some d at hi
      rw [hdevices] at hi
      rcases update_eq_some hi with ⟨-, hd⟩ | ⟨-, hi⟩
      · cases hd
      · exact .inl hi

/-- Inits of different devices with different numbers find their slots free. -/
theorem meets_freeSlot (hdrv : DestroyLeaves drv) (hapart : es.Pairwise RegistryEvent.Apart)
    (hspares : ∀ i d, s.stack.devices i = some d → ∀ e ∈ es, e.Spares i d)
    (hadm : Runs.Meets (registryStep drv) (fun s e => e.Admissible s) s es) :
    Runs.Meets (registryStep drv) FreeSlot s es := by
  induction es generalizing s with
  | nil => trivial
  | cons e es ih =>
      obtain ⟨hhead, htail⟩ := List.pairwise_cons.mp hapart
      constructor
      · cases e with
        | destroy dev => trivial
        | init dev id name =>
            intro _
            constructor
            · intro d hd
              exact absurd rfl (hspares _ d hd _ List.mem_cons_self).2
            · intro j _ hj
              exact absurd rfl (hspares j dev hj _ List.mem_cons_self).1
      · intro s₁ hstep
        apply ih htail _ (hadm.2 s₁ hstep)
        intro i d hi e' he'
        rcases registryStep_slot hdrv hadm.1 hstep hi with hold | ⟨id, name, rfl, rfl⟩
        · exact hspares i d hold e' (List.mem_cons_of_mem e he')
        · have hne := hhead e' he'
          cases e' with
          | destroy dev => trivial
          | init dev id' name' => exact ⟨hne.1, fun h => hne.2 (UInt8.toNat_inj.mp h)⟩

/-- **The lookup is right in exactly the pools without a gap before the wanted
slot**, whatever devices with different numbers were initialised and destroyed
before. -/
theorem lookup_iff_no_gap (hdrv : DestroyLeaves drv) (h₀ : s₀.Start)
    (hapart : es.Pairwise RegistryEvent.Apart)
    (hadm : Runs.Meets (registryStep drv) (fun s e => e.Admissible s) s₀ es)
    (hrun : Runs.run (registryStep drv) s₀ es = some s) (id : UInt8) :
    LooksUp s.stack id ↔
      ∀ i < xcanMaxDevices, i ≤ id.toNat → s.stack.devices i ≠ none := by
  have hfree := meets_freeSlot hdrv hapart (fun i d hi => by simp [h₀.devices] at hi) hadm
  have hinv : RegistryInv s :=
    Runs.inv_of_run (fun s e s' h hG hstep => (h.step hdrv hG.1 hG.2 hstep).1) h₀.inv
      (hadm.and hfree) hrun
  exact looksUp_iff hinv.labelled

end

theorem one_init_admissible :
    Runs.Meets (registryStep (socketcanDrivers noOtherDrivers)) (fun s e => e.Admissible s)
      emptyRegistry [.init 1 1 []] :=
  ⟨⟨rfl, rfl⟩, fun _ _ => trivial⟩

/-- The pool with one device, in slot 1. -/
def secondSlotOnly : Registry Bus :=
  ((Runs.run (registryStep (socketcanDrivers noOtherDrivers)) emptyRegistry
    [.init 1 1 []]).getD emptyRegistry)

/-- A lookup of the device in slot 1 behind the empty slot 0. -/
theorem lookup_iff_no_gap_second_slot :
    LooksUp secondSlotOnly.stack 1 ↔
      ∀ i < xcanMaxDevices, i ≤ (1 : UInt8).toNat → secondSlotOnly.stack.devices i ≠ none :=
  lookup_iff_no_gap (socketcanDrivers_leaves fun _ _ _ _ _ _ => rfl) emptyRegistry_start
    (List.pairwise_singleton _ _) one_init_admissible rfl 1

/-- It reads the number of the device that is not there. -/
theorem lookup_reads_through_null :
    emptyRegistry.Start ∧ [RegistryEvent.init 1 1 []].Pairwise RegistryEvent.Apart ∧
      Runs.Meets (registryStep (socketcanDrivers noOtherDrivers))
        (fun s e => e.Admissible s) emptyRegistry [.init 1 1 []] ∧
      Runs.run (registryStep (socketcanDrivers noOtherDrivers)) emptyRegistry
        [.init 1 1 []] = some secondSlotOnly ∧
      ¬ LooksUp secondSlotOnly.stack 1 := by
  refine ⟨emptyRegistry_start, List.pairwise_singleton _ _, one_init_admissible, rfl, ?_⟩
  rintro ⟨r, s', new, hrun, hlog, hnull, -⟩
  obtain ⟨r₁, m', a, new₁, hrun₁, hlog₁, hblock⟩ :=
    getDeviceFor_first 1 secondSlotOnly.stack [1, 2, 3] 0 secondSlotOnly.stack.mem
  obtain ⟨-, rfl⟩ := Prod.mk.inj (Option.some.inj (hrun₁.symm.trans hrun))
  have hnew := List.append_cancel_left (hlog₁.symm.trans hlog)
  exact hnull a (hnew ▸ List.mem_cons_self) (hblock.trans rfl)

end XcanRouter
