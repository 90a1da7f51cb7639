import VlanSwitch.Switch.Run

/-!
# What is counted

The counters of a port and of a VLAN after each step of forwarding, as functions of
what they were before. An accepted frame adds one frame and its length on the way in,
for its ingress port and for its VLAN, and on the way out what its deliveries add up
to: all of them for the VLAN, those of a port for that port.
-/

namespace VlanSwitch

/-- The bytes of a list of deliveries. -/
def totalBytes (ds : List Delivery) : ℕ := (ds.map fun d => d.bytes.length).sum

/-- The counters after a list of deliveries. -/
def Counters.addOuts (c : Counters) (ds : List Delivery) : Counters :=
  { c with framesOut := c.framesOut + ds.length, bytesOut := c.bytesOut + totalBytes ds }

@[simp] theorem Counters.addOuts_nil (c : Counters) : c.addOuts [] = c := rfl

theorem Counters.addOuts_cons (c : Counters) (d : Delivery) (ds : List Delivery) :
    c.addOuts (d :: ds) = (c.addOut d.bytes.length).addOuts ds := by
  simp only [addOuts, addOut, totalBytes, List.length_cons, List.map_cons, List.sum_cons, mk.injEq,
    true_and, and_true]
  omega

/-- The deliveries for one port. -/
def deliveriesFor (port : PortId) (ds : List Delivery) : List Delivery :=
  ds.filter fun d => d.port = port

namespace Switch

theorem vlanCounter_foldl_countOut (s : Switch) (vlan w : Vlan) (ds : List Delivery) :
    (ds.foldl (fun s d => s.countOut vlan d) s).vlanCounter w =
      if w = vlan then (s.vlanCounter w).addOuts ds else s.vlanCounter w := by
  induction ds generalizing s with
  | nil => simp
  | cons d ds ih =>
    rw [List.foldl_cons, ih]
    by_cases hw : w = vlan
    · have hd : (s.countOut vlan d).vlanCounter w = (s.vlanCounter w).addOut d.bytes.length := by
        rw [hw]
        exact Finmap.getOrDefault_entryOrDefault_self vlan _ s.vlanCounters
      rw [if_pos hw, if_pos hw, hd, Counters.addOuts_cons]
    · rw [if_neg hw, if_neg hw]
      exact Finmap.getOrDefault_entryOrDefault_ne hw _ s.vlanCounters

theorem portCounter_foldl_countOut (s : Switch) (vlan : Vlan) (p : PortId)
    (ds : List Delivery) :
    (ds.foldl (fun s d => s.countOut vlan d) s).portCounter p =
      (s.portCounter p).addOuts (deliveriesFor p ds) := by
  induction ds generalizing s with
  | nil => rfl
  | cons d ds ih =>
    rw [List.foldl_cons, ih]
    by_cases hd : d.port = p
    · have hc : (s.countOut vlan d).portCounter p = (s.portCounter p).addOut d.bytes.length := by
        rw [← hd]
        exact Finmap.getOrDefault_entryOrDefault_self d.port _ s.portCounters
      rw [hc, deliveriesFor, deliveriesFor, List.filter_cons_of_pos (by simpa using hd),
        Counters.addOuts_cons]
    · have hc : (s.countOut vlan d).portCounter p = s.portCounter p :=
        Finmap.getOrDefault_entryOrDefault_ne (Ne.symm hd) _ s.portCounters
      rw [hc, deliveriesFor, deliveriesFor, List.filter_cons_of_neg (by simpa using hd)]

section Accept

variable (s : Switch) (ingress : PortId) (vlan : Vlan) (frame : EthernetFrame) (now : Instant)

/-- **What an accepted frame adds to the counters of a VLAN.** -/
theorem vlanCounter_accept (w : Vlan) :
    (s.accept ingress vlan frame now).vlanCounter w =
      if w = vlan then
        ((s.vlanCounter w).addIn frame.wireLen).addOuts (s.deliveries ingress vlan frame now)
      else s.vlanCounter w := by
  rw [accept, vlanCounter_foldl_countOut]
  have hletIn : (s.letIn ingress vlan frame now).vlanCounter w =
      (s.countIn ingress vlan frame.wireLen).vlanCounter w := by
    rw [vlanCounter, vlanCounters_letIn, vlanCounter]
  rw [hletIn]
  by_cases hw : w = vlan
  · rw [if_pos hw, if_pos hw, hw]
    exact congrArg (Counters.addOuts · (s.deliveries ingress vlan frame now))
      (Finmap.getOrDefault_entryOrDefault_self vlan _ s.vlanCounters)
  · rw [if_neg hw, if_neg hw]
    exact Finmap.getOrDefault_entryOrDefault_ne hw _ s.vlanCounters

/-- **What an accepted frame adds to the counters of a port.** -/
theorem portCounter_accept (p : PortId) :
    (s.accept ingress vlan frame now).portCounter p =
      (if p = ingress then (s.portCounter p).addIn frame.wireLen else s.portCounter p).addOuts
        (deliveriesFor p (s.deliveries ingress vlan frame now)) := by
  rw [accept, portCounter_foldl_countOut]
  have hletIn : (s.letIn ingress vlan frame now).portCounter p =
      (s.countIn ingress vlan frame.wireLen).portCounter p := by
    rw [portCounter, portCounters_letIn, portCounter]
  rw [hletIn]
  refine congrArg (Counters.addOuts · (deliveriesFor p (s.deliveries ingress vlan frame now))) ?_
  by_cases hp : p = ingress
  · rw [if_pos hp, hp]
    exact Finmap.getOrDefault_entryOrDefault_self ingress _ s.portCounters
  · rw [if_neg hp]
    exact Finmap.getOrDefault_entryOrDefault_ne hp _ s.portCounters

end Accept

theorem portCounter_countDrop (s : Switch) (ingress p : PortId) :
    (s.countDrop ingress).portCounter p =
      if p = ingress then (s.portCounter p).addDrop else s.portCounter p := by
  by_cases hp : p = ingress
  · rw [if_pos hp, hp]
    exact Finmap.getOrDefault_entryOrDefault_self ingress _ s.portCounters
  · rw [if_neg hp]
    exact Finmap.getOrDefault_entryOrDefault_ne hp _ s.portCounters

end Switch

end VlanSwitch
