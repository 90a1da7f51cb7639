import VlanSwitch.Lib.Reordering
import VlanSwitch.Switch.Accounting
import VlanSwitch.Switch.Noninterference

/-!
# The order of VLAN streams does not matter

The daemon merges what its ports receive into one queue, in whatever order it comes.
For ordinary frames the order matters within a VLAN only: two merges of the same
streams, one stream a VLAN, with rejected frames anywhere, give every call the same
result and end in the same state, counters and learned table included
(`VlanSwitch.interleaving_irrelevant`).

What a call does to the state is a list of entries for the books
(`VlanSwitch.Switch.effect`): what it adds to counters, and what it writes into the
learned table. Additions commute, and entries of different VLANs are written under
different keys, so the bookings of two calls commute (`VlanSwitch.Switch.book_comm`);
and what a call books does not depend on calls of other VLANs
(`VlanSwitch.Switch.effect_next`), by the agreement that noninterference rests on.
-/

namespace VlanSwitch

/-- A call of `forward`. -/
structure Call where
  ingress : PortId
  frame : EthernetFrame
  now : Instant
  deriving DecidableEq

/-- The switch as a machine that takes calls of `forward`, given by their labels. -/
def forwarding {ι : Type*} (call : ι → Call) : Machine Switch ι ForwardResult where
  step s i := s.forward (call i).ingress (call i).frame (call i).now

/-- What a call books: what it adds to the counters, and the entry it learns. -/
structure Effect where
  portGains : List (PortId × Counters) := []
  vlanGains : List (Vlan × Counters) := []
  learns : Option ((Vlan × Mac) × Entry) := none

/-- Adding to the counters of a key. -/
def addTo {α : Type*} [DecidableEq α] (m : Finmap fun _ : α => Counters) (e : α × Counters) :
    Finmap fun _ : α => Counters :=
  m.entryOrDefault e.1 fun c => c + e.2

/-- The order of additions does not matter. -/
instance {α : Type*} [DecidableEq α] : RightCommutative (addTo (α := α)) where
  right_comm m e e' := Finmap.entryOrDefault_comm e.1 e'.1 (fun c => add_right_comm c e.2 e'.2) m

/-- Two lists of additions, in either order. -/
theorem foldl_addTo_comm {α : Type*} [DecidableEq α] (m : Finmap fun _ : α => Counters)
    (es es' : List (α × Counters)) :
    es'.foldl addTo (es.foldl addTo m) = es.foldl addTo (es'.foldl addTo m) := by
  rw [← List.foldl_append, ← List.foldl_append]
  exact List.perm_append_comm.foldl_eq m

/-- The learned table with one more entry. -/
def MacTable.write (t : MacTable) : Option ((Vlan × Mac) × Entry) → MacTable
  | some (key, e) => { entries := t.entries.insert key e }
  | none => t

theorem MacTable.write_comm (t : MacTable) {o o' : Option ((Vlan × Mac) × Entry)}
    (h : ∀ e e', o = some e → o' = some e' → e.1 ≠ e'.1) :
    (t.write o).write o' = (t.write o').write o := by
  rcases o with _ | ⟨key, e⟩
  · rfl
  · rcases o' with _ | ⟨key', e'⟩
    · rfl
    · have hne : key ≠ key' := h (key, e) (key', e') rfl rfl
      exact congrArg MacTable.mk (Finmap.insert_insert_of_ne t.entries hne)

namespace Switch

/-- The switch with a call booked. -/
def book (s : Switch) (e : Effect) : Switch :=
  { s with
    portCounters := e.portGains.foldl addTo s.portCounters
    vlanCounters := e.vlanGains.foldl addTo s.vlanCounters
    macTable := s.macTable.write e.learns }

/-- **Bookings commute**, unless they write the same entry. -/
theorem book_comm (s : Switch) {e e' : Effect}
    (h : ∀ x x', e.learns = some x → e'.learns = some x' → x.1 ≠ x'.1) :
    (s.book e).book e' = (s.book e').book e := by
  simp only [book, MacTable.write_comm s.macTable h, foldl_addTo_comm _ e.portGains,
    foldl_addTo_comm _ e.vlanGains]

/-- What a call of an ordinary frame books. -/
def effect (s : Switch) (c : Call) : Effect :=
  match s.verdict c.ingress c.frame with
  | .rejected _ => { portGains := [(c.ingress, Counters.dropOne)] }
  | .accepted vlan =>
    let ds := s.deliveries c.ingress vlan c.frame c.now
    { portGains := (c.ingress, Counters.inOne c.frame.wireLen) ::
        ds.map fun d => (d.port, Counters.outOne d.bytes.length)
      vlanGains := (vlan, Counters.inOne c.frame.wireLen) ::
        ds.map fun d => (vlan, Counters.outOne d.bytes.length)
      learns := if isGroupAddress c.frame.src then none
        else some ((vlan, c.frame.src), ⟨c.ingress, c.now⟩) }
  | _ => {}

/-- Counting deliveries is booking them. -/
theorem foldl_countOut_eq_foldl_addTo (s : Switch) (vlan : Vlan) (ds : List Delivery) :
    (ds.foldl (fun s d => s.countOut vlan d) s).portCounters =
        (ds.map fun d => (d.port, Counters.outOne d.bytes.length)).foldl addTo s.portCounters ∧
      (ds.foldl (fun s d => s.countOut vlan d) s).vlanCounters =
        (ds.map fun d => (vlan, Counters.outOne d.bytes.length)).foldl addTo s.vlanCounters := by
  induction ds generalizing s with
  | nil => exact ⟨rfl, rfl⟩
  | cons d ds ih => exact ih (s.countOut vlan d)

/-- **What a call does to the state is what it books.** -/
theorem snd_forward_eq_book (s : Switch) {c : Call} (hprobe : ¬LoopGuard.isAnyProbe c.frame) :
    (s.forward c.ingress c.frame c.now).2 = s.book (s.effect c) := by
  rw [forward_eq, effect]
  rcases hv : s.verdict c.ingress c.frame with _ | _ | _ | e | vlan
  · rfl
  · exact absurd (verdict_eq_ownProbe.mp hv).2.isAnyProbe hprobe
  · rfl
  · rfl
  · have hcount := foldl_countOut_eq_foldl_addTo (s.letIn c.ingress vlan c.frame c.now) vlan
      (s.deliveries c.ingress vlan c.frame c.now)
    rw [portCounters_letIn, vlanCounters_letIn] at hcount
    refine eq_of_fields (s.ports_accept ..) ?_ hcount.1 hcount.2 (s.probeId_accept ..)
    refine (s.macTable_accept ..).trans ?_
    dsimp only [book]
    split <;> rfl

/-- The VLAN of a call, if it is accepted. -/
def lane (s : Switch) (c : Call) : Option Vlan :=
  match s.verdict c.ingress c.frame with
  | .accepted vlan => some vlan
  | _ => none

theorem lane_eq_some {s : Switch} {c : Call} {vlan : Vlan} :
    s.lane c = some vlan ↔ s.Resolves c.ingress c.frame vlan := by
  rw [lane, ← verdict_eq_accepted]
  cases s.verdict c.ingress c.frame <;> simp

/-- The port table decides on the stream of a call. -/
theorem lane_congr {s t : Switch} (hports : s.ports = t.ports) (hprobeId : s.probeId = t.probeId) :
    s.lane = t.lane := by
  funext c
  rw [lane, lane, verdict_congr hports hprobeId]

/-- A call learns an entry of its own VLAN only. -/
theorem lane_of_learns {s : Switch} {c : Call} {x : (Vlan × Mac) × Entry}
    (h : (s.effect c).learns = some x) : s.lane c = some x.1.1 := by
  rcases hv : s.verdict c.ingress c.frame with _ | _ | _ | e | vlan
  · simp [effect, hv] at h
  · simp [effect, hv] at h
  · simp [effect, hv] at h
  · simp [effect, hv] at h
  · simp only [effect, hv] at h
    split at h
    · cases h
    · obtain rfl := Option.some.inj h
      rw [lane, hv]

section Calls

variable {s : Switch} {c c' : Call} (hprobe : ¬LoopGuard.isAnyProbe c.frame)

include hprobe

/-- An ordinary frame leaves the port table alone. -/
theorem ports_forward_of_not_probe : (s.forward c.ingress c.frame c.now).2.ports = s.ports := by
  rw [ports_forward, if_neg fun hv => hprobe (verdict_eq_ownProbe.mp hv).2.isAnyProbe]

/-- A call leaves the verdict on other calls alone. -/
theorem verdict_next :
    (s.forward c.ingress c.frame c.now).2.verdict c'.ingress c'.frame =
      s.verdict c'.ingress c'.frame :=
  verdict_congr (ports_forward_of_not_probe hprobe)
    (s.probeId_next (.forward c.ingress c.frame c.now)) _ _

/-- A call is not noticed in the VLAN of a call of another stream. -/
theorem deliveries_next (h : Reordering.Apart s.lane c c') {vlan : Vlan}
    (hvlan : s.lane c' = some vlan) :
    (s.forward c.ingress c.frame c.now).2.deliveries c'.ingress vlan c'.frame c'.now =
      s.deliveries c'.ingress vlan c'.frame c'.now := by
  have hhidden : sees vlan s (.forward c.ingress c.frame c.now) = false := by
    refine decide_eq_false fun hsees => ?_
    rcases hsees with hany | hr
    · exact hprobe hany
    · exact h vlan (lane_eq_some.mpr hr) hvlan
  exact AgreeOn.deliveries (AgreeOn.hidden hhidden) c'.ingress c'.frame c'.now

/-- **What a call books does not depend on the calls of other streams.** -/
theorem effect_next (h : Reordering.Apart s.lane c c') :
    (s.forward c.ingress c.frame c.now).2.effect c' = s.effect c' := by
  rw [effect, effect, verdict_next hprobe]
  rcases hv : s.verdict c'.ingress c'.frame with _ | _ | _ | e | vlan
  · rfl
  · rfl
  · rfl
  · rfl
  · have hvlan : s.lane c' = some vlan := lane_eq_some.mpr (verdict_eq_accepted.mp hv)
    simp only [deliveries_next hprobe h hvlan]

/-- **Nor does what it returns.** -/
theorem fst_forward_next (h : Reordering.Apart s.lane c c') :
    ((s.forward c.ingress c.frame c.now).2.forward c'.ingress c'.frame c'.now).1 =
      (s.forward c'.ingress c'.frame c'.now).1 := by
  rw [forward_eq _ c'.ingress c'.frame, forward_eq s c'.ingress c'.frame, verdict_next hprobe]
  rcases hv : s.verdict c'.ingress c'.frame with _ | _ | _ | e | vlan
  · rfl
  · rfl
  · rfl
  · rfl
  · have hvlan : s.lane c' = some vlan := lane_eq_some.mpr (verdict_eq_accepted.mp hv)
    exact congrArg Except.ok (deliveries_next hprobe h hvlan)

end Calls

/-- **Calls of different streams commute.** -/
theorem snd_forward_comm {s : Switch} {c c' : Call} (hprobe : ¬LoopGuard.isAnyProbe c.frame)
    (hprobe' : ¬LoopGuard.isAnyProbe c'.frame) (h : Reordering.Apart s.lane c c') :
    ((s.forward c.ingress c.frame c.now).2.forward c'.ingress c'.frame c'.now).2 =
      ((s.forward c'.ingress c'.frame c'.now).2.forward c.ingress c.frame c.now).2 := by
  have hleft : ((s.forward c.ingress c.frame c.now).2.forward c'.ingress c'.frame c'.now).2 =
      (s.book (s.effect c)).book (s.effect c') := by
    rw [snd_forward_eq_book _ hprobe', effect_next hprobe h, snd_forward_eq_book _ hprobe]
  have hright : ((s.forward c'.ingress c'.frame c'.now).2.forward c.ingress c.frame c.now).2 =
      (s.book (s.effect c')).book (s.effect c) := by
    rw [snd_forward_eq_book _ hprobe, effect_next hprobe' h.symm, snd_forward_eq_book _ hprobe']
  rw [hleft, hright]
  refine s.book_comm fun x x' hx hx' hkey => ?_
  exact h x.1.1 (lane_of_learns hx) (hkey ▸ lane_of_learns hx')

/-- **Calls of ordinary frames are independent across streams**, as long as the port
table is what it was. -/
theorem commuting {ι : Type*} (call : ι → Call) (s₀ : Switch) :
    (forwarding call).Commuting (fun s => s.ports = s₀.ports ∧ s.probeId = s₀.probeId)
      (fun i => ¬LoopGuard.isAnyProbe (call i).frame)
      (Reordering.Apart fun i => s₀.lane (call i)) where
  keeps {s i} hs hi :=
    ⟨(ports_forward_of_not_probe hi).trans hs.1,
      (s.probeId_next (.forward (call i).ingress (call i).frame (call i).now)).trans hs.2⟩
  symm h := h.symm
  next_comm hs hi hj hij := snd_forward_comm hi hj fun k => lane_congr hs.1 hs.2 ▸ hij k
  out_comm hs hi _ hij := fst_forward_next hi fun k => lane_congr hs.1 hs.2 ▸ hij k

end Switch

open Switch

/-- **The interleaving of VLAN streams does not matter.** Two lists of the same calls of
`forward`, none of a probe, keep the order of the calls of each VLAN, the VLAN being
the one a call resolves to at the outset; rejected calls are anywhere. Then every call
returns the same in both, and the two end in the same state. -/
theorem interleaving_irrelevant {ι : Type*} (call : ι → Call) (s : Switch) {l l' : List ι}
    (hperm : l.Perm l') (hprobe : ∀ i ∈ l, ¬LoopGuard.isAnyProbe (call i).frame)
    (horder : ∀ vlan, (l.filter fun i => s.Resolves (call i).ingress (call i).frame vlan) =
      l'.filter fun i => s.Resolves (call i).ingress (call i).frame vlan) :
    ((forwarding call).outputs s l).Perm ((forwarding call).outputs s l') ∧
      (∀ i r, (i, r) ∈ (forwarding call).outputs s l ↔
        (i, r) ∈ (forwarding call).outputs s l') ∧
      (forwarding call).run s l = (forwarding call).run s l' := by
  have hstream : ∀ vlan, Reordering.stream (fun i => s.lane (call i)) vlan l =
      Reordering.stream (fun i => s.lane (call i)) vlan l' := fun vlan => by
    have hsame : (fun i => decide (s.lane (call i) = some vlan)) =
        fun i => decide (s.Resolves (call i).ingress (call i).frame vlan) :=
      funext fun i => decide_eq_decide.mpr lane_eq_some
    rw [Reordering.stream, Reordering.stream, hsame]
    exact horder vlan
  have hreordering := Reordering.of_lanes hperm hstream
  obtain ⟨hrun, houts⟩ := (commuting call s).run hreordering hprobe ⟨rfl, rfl⟩
  exact ⟨houts, fun _ _ => houts.mem_iff, hrun⟩

/-- Two frames of two VLANs from one address, on one trunk. -/
theorem interleaving_irrelevant_trunk :
    (forwarding id).run (machine.run (withProbeId 7) [.addPort ⟨1⟩ (.trunk none {10, 20})])
        [⟨⟨1⟩, { hostFrame 1 9 with tag := some ⟨0, false, 10⟩ }, 0⟩,
          ⟨⟨1⟩, { hostFrame 1 9 with tag := some ⟨0, false, 20⟩ }, 1⟩] =
      (forwarding id).run (machine.run (withProbeId 7) [.addPort ⟨1⟩ (.trunk none {10, 20})])
        [⟨⟨1⟩, { hostFrame 1 9 with tag := some ⟨0, false, 20⟩ }, 1⟩,
          ⟨⟨1⟩, { hostFrame 1 9 with tag := some ⟨0, false, 10⟩ }, 0⟩] := by
  refine (interleaving_irrelevant id _ (List.Perm.swap ..) (by decide) fun vlan => ?_).2.2
  -- no VLAN has both
  have hten : ∀ v, (machine.run (withProbeId 7) [.addPort ⟨1⟩ (.trunk none {10, 20})]).Resolves ⟨1⟩
      { hostFrame 1 9 with tag := some ⟨0, false, 10⟩ } v → v = 10 :=
    fun v h => h.unique (by decide)
  have htwenty : ∀ v, (machine.run (withProbeId 7)
      [.addPort ⟨1⟩ (.trunk none {10, 20})]).Resolves ⟨1⟩
      { hostFrame 1 9 with tag := some ⟨0, false, 20⟩ } v → v = 20 :=
    fun v h => h.unique (by decide)
  simp only [id, List.filter_cons, List.filter_nil, decide_eq_true_eq]
  split
  · next h =>
    obtain rfl := hten vlan h
    rfl
  · rfl

end VlanSwitch
