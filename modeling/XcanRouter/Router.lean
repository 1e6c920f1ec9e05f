import XcanRouter.Base.Prog
import Mathlib.Algebra.Ring.Nat
import Mathlib.Data.List.Range
import Mathlib.Data.List.Infix
import Mathlib.Data.Nat.Find

/-!
# The router (xcan_router.c)

`route_frame` does not compile as it stands; here its unnamed parameter is the
frame `f` of its body, `xcan_enqueue` takes the number of an interface and puts
the frame on the output queue of that interface, and the stray identifier
`xcan_device_send` is left out.

The loop over the interfaces of an entry declares an `i` of its own, which
hides the `i` of the loop over the entries. So it walks down the diagonal of
the table, whatever the entry that matched.
-/

namespace XcanRouter

/-- `struct xcan_routing_entry` (xcan_router.h). -/
structure XcanRoutingEntry where
  canId : UInt32 := 0
  interfaceId : Nat → UInt8 := fun _ => 0
  noInterfaces : UInt8 := 0

/-- `struct xcan_routing_table` (xcan_router.h). What lies behind the last
entry, or behind the last interface of an entry, is arbitrary. -/
structure XcanRoutingTable where
  entry : Nat → XcanRoutingEntry
  noEntries : UInt32

/-- What `route_frame` does to the table and to the interfaces. -/
inductive RouteEvent where
  /-- A field of `entry[i]` is read. -/
  | entry (i : Nat)
  /-- `entry[i].interface_id[j]` is read. -/
  | interface (i j : Nat)
  /-- The frame is enqueued to an interface. -/
  | enqueue (interface : UInt8) (rc : Int)
  /-- The loop counter passes `INT_MAX`. -/
  | overflow
deriving DecidableEq, Repr

/-- The state of the router: its table, the output queues, and the events. -/
structure Router (W : Type) where
  tbl : XcanRoutingTable
  queues : W
  trace : List RouteEvent := []

def intMax : Nat := 2 ^ 31 - 1

namespace Router

variable {W : Type}

def note (e : RouteEvent) : Prog (Router W) Unit :=
  Prog.modify fun s => { s with trace := s.trace ++ [e] }

/-- `m_tbl->no_entries` -/
def noEntries : Prog (Router W) UInt32 := fun s => some (s.tbl.noEntries, s)

/-- `m_tbl->entry[i]` -/
def entry (i : Nat) : Prog (Router W) XcanRoutingEntry := do
  note (.entry i)
  return (← Prog.state).tbl.entry i

/-- `m_tbl->entry[i].interface_id[j]` -/
def interfaceId (i j : Nat) : Prog (Router W) UInt8 := do
  let e ← entry i
  note (.interface i j)
  return e.interfaceId j

/-- `xcan_enqueue(interface)`, for any behaviour `enq` of the queues. -/
def enqueue (enq : UInt8 → W → Int × W) (interface : UInt8) : Prog (Router W) Int := do
  let s ← Prog.state
  let r := enq interface s.queues
  Prog.modify fun s => { s with queues := r.2 }
  note (.enqueue interface r.1)
  return r.1

/-- The inner loop of `route_frame`. -/
def forInterfaces (enq : UInt8 → W → Int × W) : Nat → Nat → Int → Prog (Router W) Int
  | 0, _, _ => Prog.diverge
  | fuel + 1, i, loopScore => do
    if i < (← entry i).noInterfaces.toNat then
      -- both indices are the inner `i`
      let rc ← enqueue enq (← interfaceId i i)
      forInterfaces enq fuel (i + 1) (if rc = 0 then loopScore - 1 else loopScore)
    else
      return loopScore

/-- The `if` in the outer loop of `route_frame`. -/
def routeEntry (enq : UInt8 → W → Int × W) (f : UInt32) (fuel i : Nat) (loopScore : Int) :
    Prog (Router W) Int := do
  if (← entry i).canId = f then
    forInterfaces enq fuel 0 loopScore
  else
    return loopScore

/-- The outer loop of `route_frame`; `fuel₁` is for the inner loop. -/
def forEntries (enq : UInt8 → W → Int × W) (f : UInt32) (fuel₁ : Nat) :
    Nat → Nat → Int → Prog (Router W) Int
  | 0, _, _ => Prog.diverge
  | fuel + 1, i, loopScore => do
    if i < (← noEntries).toNat then
      let loopScore ← routeEntry enq f fuel₁ i loopScore
      if i = intMax then
        -- `i++` on an `int`
        note .overflow
        return loopScore
      forEntries enq f fuel₁ fuel (i + 1) loopScore
    else
      return loopScore

/-- `route_frame`, for a frame with the identifier `f`. -/
def routeFrame (enq : UInt8 → W → Int × W) (fuel : Nat) (f : UInt32) (loopScore : Int) :
    Prog (Router W) Int := do
  return (← forEntries enq f fuel fuel 0 loopScore) - 1

end Router

/-! ## What routing should do -/

/-- The interfaces of an entry. -/
def XcanRoutingEntry.interfaces (e : XcanRoutingEntry) : List UInt8 :=
  (List.range e.noInterfaces.toNat).map e.interfaceId

namespace XcanRoutingTable

/-- The entries from `i` on for the identifier `f`, `n` of them looked at. -/
def matching (tbl : XcanRoutingTable) (f : UInt32) (i n : Nat) : List Nat :=
  (List.range' i n).filter fun i => (tbl.entry i).canId = f

/-- The interfaces that the table lists for `f`, in table order. -/
def listed (tbl : XcanRoutingTable) (f : UInt32) : List UInt8 :=
  (tbl.matching f 0 tbl.noEntries.toNat).flatMap fun i => (tbl.entry i).interfaces

/-- Entry `i`, for `i` below `m`, has more than `i` interfaces, and entry `m`
has not. -/
def DiagonalEnd (tbl : XcanRoutingTable) (m : Nat) : Prop :=
  (∀ i < m, i < (tbl.entry i).noInterfaces.toNat) ∧ (tbl.entry m).noInterfaces.toNat ≤ m

/-- The interfaces on the diagonal of the table, from `i` on, `n` of them. -/
def diagonal (tbl : XcanRoutingTable) (i n : Nat) : List UInt8 :=
  (List.range' i n).map fun i => (tbl.entry i).interfaceId i

end XcanRoutingTable

/-- The access is inside the table, and inside the list of the entry. -/
def RouteEvent.InRange (tbl : XcanRoutingTable) : RouteEvent → Prop
  | .entry i => i < tbl.noEntries.toNat
  | .interface i j => i < tbl.noEntries.toNat ∧ j < (tbl.entry i).noInterfaces.toNat
  | .enqueue _ _ => True
  | .overflow => False

/-- The interfaces to which a frame was enqueued. -/
def enqueued (trace : List RouteEvent) : List UInt8 :=
  trace.filterMap fun
    | .enqueue interface _ => some interface
    | _ => none

/-! ## What it does -/

section
variable {W : Type} {s s' s'' : Router W} {out out' : List UInt8} {ok ok' : Prop}

/-- From `s` to `s'` the frame was enqueued to the interfaces `out`, with all
accesses in range exactly when `ok`. -/
structure Routed (out : List UInt8) (ok : Prop) (s s' : Router W) : Prop where
  tbl : s'.tbl = s.tbl
  trace : ∃ events, s'.trace = s.trace ++ events ∧ enqueued events = out ∧
    ((∀ e ∈ events, e.InRange s.tbl) ↔ ok)

theorem enqueued_append (xs ys : List RouteEvent) :
    enqueued (xs ++ ys) = enqueued xs ++ enqueued ys := List.filterMap_append

theorem Routed.refl : Routed [] True s s := ⟨rfl, [], by simp, rfl, by simp⟩

theorem Routed.trans (h : Routed out ok s s') (h' : Routed out' ok' s' s'') :
    Routed (out ++ out') (ok ∧ ok') s s'' := by
  obtain ⟨events, hevents, hout, hok⟩ := h.trace
  obtain ⟨events', hevents', hout', hok'⟩ := h'.trace
  refine ⟨h'.tbl.trans h.tbl, events ++ events', ?_, ?_, ?_⟩
  · rw [hevents', hevents, List.append_assoc]
  · rw [enqueued_append, hout, hout']
  · rw [h.tbl] at hok'
    rw [← hok, ← hok', List.forall_mem_append]

theorem Routed.congr (h : Routed out ok s s') (hok : ok ↔ ok') : Routed out ok' s s' :=
  propext hok ▸ h

/-- Events that enqueue nothing. -/
theorem Routed.access {events : List RouteEvent} (hout : enqueued events = []) :
    Routed [] (∀ e ∈ events, e.InRange s.tbl) s { s with trace := s.trace ++ events } :=
  ⟨rfl, events, rfl, hout, Iff.rfl⟩

variable (enq : UInt8 → W → Int × W) {f : UInt32} {m : Nat}

/-- One turn of the inner loop, up to its next. -/
theorem forInterfaces_next {i : Nat} (fuel : Nat) (score : Int)
    (hi : i < (s.tbl.entry i).noInterfaces.toNat) :
    ∃ score' s', Router.forInterfaces enq (fuel + 1) i score s =
        Router.forInterfaces enq fuel (i + 1) score' s' ∧
      Routed [(s.tbl.entry i).interfaceId i] (i < s.tbl.noEntries.toNat) s s' := by
  let r := enq ((s.tbl.entry i).interfaceId i) s.queues
  refine ⟨if r.1 = 0 then score - 1 else score,
    { s with
      queues := r.2
      trace := s.trace ++ [.entry i, .entry i, .interface i i,
        .enqueue ((s.tbl.entry i).interfaceId i) r.1] }, ?_, rfl, _, rfl, rfl, ?_⟩
  · simp [Router.forInterfaces, Router.entry, Router.note, Router.interfaceId,
      Router.enqueue, hi, r]
  · simp [RouteEvent.InRange, hi]

/-- The last turn of the inner loop. -/
theorem forInterfaces_end {i : Nat} (fuel : Nat) (score : Int)
    (hi : (s.tbl.entry i).noInterfaces.toNat ≤ i) :
    ∃ s', Router.forInterfaces enq (fuel + 1) i score s = some (score, s') ∧
      Routed [] (i < s.tbl.noEntries.toNat) s s' := by
  refine ⟨{ s with trace := s.trace ++ [.entry i] }, ?_, rfl, _, rfl, rfl, ?_⟩
  · simp [Router.forInterfaces, Router.entry, Router.note, Nat.not_lt_of_le hi]
  · simp [RouteEvent.InRange]

/-- **The inner loop** walks down the diagonal to its end. -/
theorem forInterfaces_spec (tbl : XcanRoutingTable) (hm : tbl.DiagonalEnd m) :
    ∀ (n i fuel : Nat) (score : Int) (s : Router W), s.tbl = tbl → i + n = m → n < fuel →
      ∃ score' s', Router.forInterfaces enq fuel i score s = some (score', s') ∧
        Routed (tbl.diagonal i n) (m < tbl.noEntries.toNat) s s' := by
  intro n
  induction n with
  | zero =>
      rintro i fuel score s rfl rfl hfuel
      obtain ⟨fuel, rfl⟩ : ∃ k, fuel = k + 1 := ⟨fuel - 1, by omega⟩
      obtain ⟨s', hrun, hr⟩ := forInterfaces_end enq fuel score hm.2
      exact ⟨score, s', hrun, hr⟩
  | succ n ih =>
      rintro i fuel score s rfl hin hfuel
      obtain ⟨fuel, rfl⟩ : ∃ k, fuel = k + 1 := ⟨fuel - 1, by omega⟩
      obtain ⟨score₁, s₁, hrun₁, hr₁⟩ :=
        forInterfaces_next enq fuel score (hm.1 i (by omega))
      obtain ⟨score', s', hrun, hr⟩ :=
        ih (i + 1) fuel score₁ s₁ hr₁.tbl (by omega) (by omega)
      refine ⟨score', s', hrun₁.trans hrun, ?_⟩
      have hlist : s.tbl.diagonal i (n + 1) =
          [(s.tbl.entry i).interfaceId i] ++ s.tbl.diagonal (i + 1) n := by
        simp [XcanRoutingTable.diagonal, List.range'_succ]
      rw [hlist]
      exact (hr₁.trans hr).congr ⟨And.right, fun h => ⟨by omega, h⟩⟩

/-- An entry is looked at, and routed when it matches. -/
theorem routeEntry_spec (tbl : XcanRoutingTable) (hm : tbl.DiagonalEnd m) {i fuel : Nat}
    (score : Int) (hs : s.tbl = tbl) (hi : i < tbl.noEntries.toNat) (hfuel : m < fuel) :
    ∃ score' s', Router.routeEntry enq f fuel i score s = some (score', s') ∧
      Routed ((tbl.matching f i 1).flatMap fun _ => tbl.diagonal 0 m)
        (tbl.matching f i 1 = [] ∨ m < tbl.noEntries.toNat) s s' := by
  subst hs
  have hread : Routed [] (∀ e ∈ [RouteEvent.entry i], e.InRange s.tbl) s
      { s with trace := s.trace ++ [.entry i] } := .access rfl
  have hin : (∀ e ∈ [RouteEvent.entry i], e.InRange s.tbl) ↔ True := by
    simp [RouteEvent.InRange, hi]
  by_cases hid : (s.tbl.entry i).canId = f
  · obtain ⟨score', s', hrun, hr⟩ := forInterfaces_spec enq s.tbl hm m 0 fuel score
      { s with trace := s.trace ++ [.entry i] } rfl (Nat.zero_add m) hfuel
    refine ⟨score', s', ?_, ?_⟩
    · simpa [Router.routeEntry, Router.entry, Router.note, hid] using hrun
    · have hmatch : s.tbl.matching f i 1 = [i] := by
        simp [XcanRoutingTable.matching, hid]
      rw [hmatch]
      simpa using ((hread.congr hin).trans hr)
  · refine ⟨score, { s with trace := s.trace ++ [.entry i] }, ?_, ?_⟩
    · simp [Router.routeEntry, Router.entry, Router.note, hid]
    · have hmatch : s.tbl.matching f i 1 = [] := by
        simp [XcanRoutingTable.matching, hid]
      rw [hmatch]
      exact hread.congr (hin.trans (by simp))

theorem XcanRoutingTable.matching_succ (tbl : XcanRoutingTable) (i n : Nat) :
    tbl.matching f i (n + 1) = tbl.matching f i 1 ++ tbl.matching f (i + 1) n := by
  rw [matching, matching, matching, ← List.filter_append, List.range'_append_1, Nat.add_comm]

/-- **The outer loop** repeats the diagonal for every entry that matches, until
its counter overflows. -/
theorem forEntries_spec (tbl : XcanRoutingTable) (hm : tbl.DiagonalEnd m) {fuel₁ : Nat}
    (hfuel₁ : m < fuel₁) :
    ∀ (n i fuel : Nat) (score : Int) (s : Router W), s.tbl = tbl → i ≤ intMax →
      i + n = min tbl.noEntries.toNat (intMax + 1) → n < fuel →
      ∃ score' s', Router.forEntries enq f fuel₁ fuel i score s = some (score', s') ∧
        Routed ((tbl.matching f i n).flatMap fun _ => tbl.diagonal 0 m)
          ((tbl.matching f i n = [] ∨ m < tbl.noEntries.toNat) ∧
            tbl.noEntries.toNat ≤ intMax) s s' := by
  intro n
  induction n with
  | zero =>
      rintro i fuel score s rfl hi hend hfuel
      obtain ⟨fuel, rfl⟩ : ∃ k, fuel = k + 1 := ⟨fuel - 1, by omega⟩
      have hstop : ¬ i < s.tbl.noEntries.toNat := by omega
      refine ⟨score, s, ?_, ?_⟩
      · simp [Router.forEntries, Router.noEntries, hstop]
      · exact Routed.refl.congr ⟨fun _ => ⟨.inl rfl, by omega⟩, fun _ => trivial⟩
  | succ n ih =>
      rintro i fuel score s rfl hi hend hfuel
      obtain ⟨fuel, rfl⟩ : ∃ k, fuel = k + 1 := ⟨fuel - 1, by omega⟩
      have hlt : i < s.tbl.noEntries.toNat := by omega
      obtain ⟨score₁, s₁, hrun₁, hr₁⟩ :=
        routeEntry_spec enq (f := f) s.tbl hm score rfl hlt hfuel₁
      rw [s.tbl.matching_succ, List.flatMap_append]
      by_cases hmax : i = intMax
      · -- the counter is incremented past `INT_MAX`
        obtain rfl : n = 0 := by omega
        have hover : Routed [] (∀ e ∈ [RouteEvent.overflow], e.InRange s₁.tbl) s₁
            { s₁ with trace := s₁.trace ++ [.overflow] } := .access rfl
        refine ⟨score₁, { s₁ with trace := s₁.trace ++ [.overflow] }, ?_, ?_⟩
        · simp only [Router.forEntries, Router.noEntries, Prog.bind_apply,
            Option.bind_some, Prog.ite_apply, hlt, if_true, hrun₁, if_pos hmax]
          rfl
        · refine (hr₁.trans hover).congr ⟨fun h => ?_, fun h => by omega⟩
          exact absurd (h.2 _ (List.mem_singleton.mpr rfl)) id
      · obtain ⟨score', s', hrun, hr⟩ :=
          ih (i + 1) fuel score₁ s₁ hr₁.tbl (by omega) (by omega) (by omega)
        refine ⟨score', s', ?_, ?_⟩
        · simp only [Router.forEntries, Router.noEntries, Prog.bind_apply, Option.bind_some,
            Prog.ite_apply, hlt, if_true, hrun₁, hmax, if_false, hrun]
        · refine (hr₁.trans hr).congr ?_
          rw [List.append_eq_nil_iff]
          tauto

theorem XcanRoutingTable.DiagonalEnd.unique {tbl : XcanRoutingTable} {m' : Nat}
    (h : tbl.DiagonalEnd m) (h' : tbl.DiagonalEnd m') : m = m' := by
  -- the smaller end would be inside the diagonal of the other
  rcases Nat.lt_trichotomy m m' with hlt | heq | hlt
  · exact absurd (h'.1 m hlt) (Nat.not_lt_of_le h.2)
  · exact heq
  · exact absurd (h.1 m' hlt) (Nat.not_lt_of_le h'.2)

/-- The diagonal ends after 255 entries at most. -/
theorem XcanRoutingTable.exists_diagonalEnd (tbl : XcanRoutingTable) :
    ∃ m, m < 256 ∧ tbl.DiagonalEnd m := by
  have hlast : (tbl.entry 255).noInterfaces.toNat ≤ 255 :=
    Nat.le_of_lt_succ (UInt8.toNat_lt _)
  have hex : ∃ m, (tbl.entry m).noInterfaces.toNat ≤ m := ⟨255, hlast⟩
  refine ⟨Nat.find hex, Nat.lt_succ_of_le (Nat.find_min' hex hlast), ?_, Nat.find_spec hex⟩
  exact fun i hi => Nat.lt_of_not_le (Nat.find_min hex hi)

/-- The tables that are routed as listed: no entry is for `f`, or the diagonal
ends inside the table and, repeated for every entry for `f`, it is what these
entries list; and the number of entries fits an `int`. -/
def XcanRoutingTable.Routable (tbl : XcanRoutingTable) (f : UInt32) : Prop :=
  tbl.noEntries.toNat ≤ intMax ∧
    (tbl.matching f 0 tbl.noEntries.toNat = [] ∨
      ∃ m, tbl.DiagonalEnd m ∧ m < tbl.noEntries.toNat ∧
        (tbl.matching f 0 tbl.noEntries.toNat).flatMap (fun _ => tbl.diagonal 0 m) =
          tbl.listed f)

/-- **Routing is exact for the routable tables only.** For every table, every
identifier and every behaviour of the queues, `route_frame` returns, and it
enqueues the frame to the listed interfaces with all accesses in range if and
only if the table is routable. -/
theorem routes_listed_iff {fuel : Nat} (hfuel : s.tbl.noEntries.toNat < fuel)
    (hfuel₁ : 256 < fuel) (f : UInt32) (score : Int) :
    ∃ score' s' events, Router.routeFrame enq fuel f score s = some (score', s') ∧
      s'.trace = s.trace ++ events ∧
      ((enqueued events = s.tbl.listed f ∧ ∀ e ∈ events, e.InRange s.tbl) ↔
        s.tbl.Routable f) := by
  obtain ⟨m, hlt, hm⟩ := s.tbl.exists_diagonalEnd
  obtain ⟨score', s', hrun, hr⟩ := forEntries_spec enq (f := f) s.tbl hm
    (Nat.lt_trans hlt hfuel₁) (min s.tbl.noEntries.toNat (intMax + 1)) 0 fuel score s rfl
    (Nat.zero_le _) (Nat.zero_add _) (by omega)
  obtain ⟨events, hevents, hout, hok⟩ := hr.trace
  refine ⟨score' - 1, s', events, ?_, hevents, ?_⟩
  · simp [Router.routeFrame, hrun]
  rw [hout, hok, XcanRoutingTable.Routable]
  by_cases hmax : s.tbl.noEntries.toNat ≤ intMax
  · rw [Nat.min_eq_left (by omega)]
    constructor
    · rintro ⟨hlisted, hnone | hin, -⟩
      · exact ⟨hmax, .inl hnone⟩
      · exact ⟨hmax, .inr ⟨m, hm, hin, hlisted⟩⟩
    · rintro ⟨-, hnone | ⟨m', hm', hin, hlisted⟩⟩
      · exact ⟨by simp [XcanRoutingTable.listed, hnone], .inl hnone, hmax⟩
      · obtain rfl := hm'.unique hm
        exact ⟨hlisted, .inr hin, hmax⟩
  · exact ⟨fun h => absurd h.2.2 hmax, fun h => absurd h.1 hmax⟩

end

/-- The table of the Linux example: identifiers 0, 1 and 2, for the interfaces
1 and 2, 0 and 1, 0 and 2. -/
def routingTable : XcanRoutingTable where
  entry
    | 0 => { canId := 0, noInterfaces := 2, interfaceId := fun j => if j = 0 then 1 else 2 }
    | 1 => { canId := 1, noInterfaces := 2, interfaceId := fun j => if j = 0 then 0 else 1 }
    | 2 => { canId := 2, noInterfaces := 2, interfaceId := fun j => if j = 0 then 0 else 2 }
    | _ => {}
  noEntries := 3

/-- A frame with identifier 1. -/
theorem routes_listed_iff_example_table :
    ∃ score' s' events,
      Router.routeFrame (fun _ w => (0, w)) 300 1 20 ⟨routingTable, (), []⟩ =
        some (score', s') ∧
      s'.trace = [] ++ events ∧
      ((enqueued events = routingTable.listed 1 ∧ ∀ e ∈ events, e.InRange routingTable) ↔
        routingTable.Routable 1) :=
  routes_listed_iff (s := ⟨routingTable, (), []⟩) (fun _ w => (0, w))
    (by decide : routingTable.noEntries.toNat < 300) (by decide) 1 20

/-- A frame with identifier 0 is for the interfaces 1 and 2, and is put on
interface 1 twice. -/
theorem frame_misrouted :
    ∃ score' s', Router.routeFrame (fun _ w => (0, w)) 300 0 20 ⟨routingTable, (), []⟩ =
        some (score', s') ∧
      enqueued s'.trace = [1, 1] ∧ routingTable.listed 0 = [1, 2] := by
  have henqueued : (Router.routeFrame (fun _ w => (0, w)) 300 0 20
      ⟨routingTable, (), []⟩).map (fun r => enqueued r.2.trace) = some [1, 1] := by
    decide +kernel
  obtain ⟨⟨score', s'⟩, hrun, htrace⟩ := Option.map_eq_some_iff.mp henqueued
  exact ⟨score', s', hrun, htrace, by decide⟩

end XcanRouter
