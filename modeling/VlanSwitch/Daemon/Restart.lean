import VlanSwitch.Daemon.Stale
import VlanSwitch.Switch.Renaming

/-!
# A reload is as good as a restart

A reload keeps the process and its port numbers go on, so the ports it spawns get later
numbers than they would after a restart, and events of the ports before it may still come
in. Neither matters. Take any two daemons and let both load the same configuration: one may
have just been started, and the other may have run for days. From there on, as long as
neither loads another one, they hand the same frames to their writers and hold the same
tables and counters, but for the port numbers, which are shifted
(`VlanSwitch.reload_forgets`). So whatever the daemon did before a reload is forgotten, and
what the one with the past is told about the ports of its past makes no difference.
-/

namespace VlanSwitch

/-- Numbers of which `n` from `first` on are handed out `k` later. -/
def Renaming.shift (first k n : ℕ) (h : first + k + n < 2 ^ 32) : Renaming where
  number p := ⟨UInt32.ofNat (p.id.toNat + k)⟩
  domain := {p | first ≤ p.id.toNat ∧ p.id.toNat < first + n}
  mono p hp q hq hlt := by
    have hp' : p.id.toNat + k < 2 ^ 32 := by have hlt' := hp.2; omega
    have hq' : q.id.toNat + k < 2 ^ 32 := by have hlt' := hq.2; omega
    have hlt' : p.id.toNat < q.id.toNat := hlt
    change (UInt32.ofNat (p.id.toNat + k)).toNat < (UInt32.ofNat (q.id.toNat + k)).toNat
    rw [UInt32.toNat_ofNat_of_lt' hp', UInt32.toNat_ofNat_of_lt' hq']
    omega

namespace Daemon

/-- **The same daemon under other port numbers**: the handles of the one are those of the
other, and there are no more. -/
structure Renamed (r : Renaming) (d e : Daemon) : Prop where
  switch : r.Relates d.switch e.switch
  handles : e.handles = d.handles.image r.number
  mem_domain : ∀ p ∈ d.handles, p ∈ r.domain

namespace Renamed

variable {r : Renaming} {d e : Daemon} {p : PortId}

theorem mem_handles_iff (h : Renamed r d e) (hp : p ∈ r.domain) :
    r.number p ∈ e.handles ↔ p ∈ d.handles := by
  rw [h.handles]
  exact Finset.mem_image_of_injOn r.injOn h.mem_domain hp

/-- **The probe** is the same, and it goes to the same ports. -/
theorem loopProbes (h : Renamed r d e) :
    e.loopProbes = d.loopProbes.map (Delivery.rename r) := by
  have hprobe : e.switch.buildLoopProbe = d.switch.buildLoopProbe := by
    rw [Switch.buildLoopProbe, Switch.buildLoopProbe, h.switch.probeId]
  have hmono : StrictMonoOn r.number d.handles := fun p hp q hq hlt =>
    r.mono (h.mem_domain p hp) (h.mem_domain q hq) hlt
  rw [Daemon.loopProbes, Daemon.loopProbes, h.handles, Finset.sortedList_image hmono, hprobe,
    List.map_map, List.map_map]
  rfl

/-- What is handed to the writers. -/
theorem deliver (h : Renamed r d e) {delivery : Delivery} (hport : delivery.port ∈ r.domain) :
    e.deliver (delivery.rename r) = (d.deliver delivery).map (Delivery.rename r) := by
  rw [Daemon.deliver, Daemon.deliver]
  have hiff : (delivery.rename r).port ∈ e.handles ↔ delivery.port ∈ d.handles :=
    h.mem_handles_iff hport
  rw [if_congr hiff rfl rfl]
  split <;> rfl

/-- **An event of a port has the same effect under the other number.** -/
theorem handleFrameEvent (h : Renamed r d e) (hp : p ∈ r.domain) (event : PortEvent)
    (now : Instant) :
    (e.handleFrameEvent (r.number p) event now).1 =
        (d.handleFrameEvent p event now).1.map (Delivery.rename r) ∧
      Renamed r (d.handleFrameEvent p event now).2
        (e.handleFrameEvent (r.number p) event now).2 := by
  rcases event with bytes | _
  · rw [Daemon.handleFrameEvent, Daemon.handleFrameEvent]
    rcases EthernetFrame.parse bytes with err | frame
    · exact ⟨rfl, h⟩
    · obtain ⟨hresult, hswitch⟩ := h.switch.forward hp frame now
      dsimp only
      rcases hd : d.switch.forward p frame now with ⟨err | ds, switch⟩
      · rcases he : e.switch.forward (r.number p) frame now with ⟨result, switch'⟩
        rw [hd, he] at hresult hswitch
        obtain rfl : result = .error (err.rename r) := hresult
        exact ⟨rfl, hswitch, h.handles, h.mem_domain⟩
      · rcases he : e.switch.forward (r.number p) frame now with ⟨result, switch'⟩
        rw [hd, he] at hresult hswitch
        obtain rfl : result = .ok (ds.map (Delivery.rename r)) := hresult
        refine ⟨?_, hswitch, h.handles, h.mem_domain⟩
        change (ds.map (Delivery.rename r)).filterMap e.deliver =
          (ds.filterMap d.deliver).map (Delivery.rename r)
        rw [List.filterMap_map, List.map_filterMap]
        refine List.filterMap_congr fun delivery hmem => h.deliver ?_
        have hds : (d.switch.forward p frame now).1 = .ok ds := by rw [hd]
        obtain ⟨vlan, -, rfl⟩ := Switch.exists_resolves_of_mem hds hmem
        exact h.switch.mem_deliveries hp hmem
  · refine ⟨rfl, h.switch.removePort hp, ?_, fun q hq => ?_⟩
    · change e.handles.erase (r.number p) = (d.handles.erase p).image r.number
      rw [h.handles, Finset.image_erase_of_injOn r.injOn h.mem_domain hp]
    · exact h.mem_domain q (Finset.mem_of_mem_erase hq)

/-- Spawning a port under the two numbers, successfully or not. -/
theorem afterAttempt (h : Renamed r d e) (hp : p ∈ r.domain) (spec : Spec) (tap : Tap)
    (portIds portIds' : PortIdAllocator) :
    Renamed r (d.afterAttempt ⟨p, spec, tap⟩ portIds)
      (e.afterAttempt ⟨r.number p, spec, tap⟩ portIds') := by
  refine ⟨?_, ?_, fun q hq => ?_⟩
  · change r.Relates (Attempt.spawn d.switch _) (Attempt.spawn e.switch _)
    rw [Attempt.spawn_eq, Attempt.spawn_eq]
    dsimp only
    split
    · exact h.switch.addPort hp spec.mode
    · exact h.switch
  · change Attempt.enlist e.handles _ = (Attempt.enlist d.handles _).image r.number
    rw [Attempt.enlist, Attempt.enlist]
    -- whether it succeeds is up to the operating system, not to the number
    have hsame : (⟨r.number p, spec, tap⟩ : Attempt).Succeeds ↔
        (⟨p, spec, tap⟩ : Attempt).Succeeds := Iff.rfl
    rw [if_congr hsame rfl rfl, h.handles]
    split
    · exact (Finset.image_insert _ _ _).symm
    · rfl
  · change q ∈ Attempt.enlist d.handles _ at hq
    rw [Attempt.enlist] at hq
    split at hq
    · rcases Finset.mem_insert.mp hq with rfl | hq
      · exact hp
      · exact h.mem_domain q hq
    · exact h.mem_domain q hq

end Renamed

/-- There is a number, unless it is the last one. -/
theorem exists_next {a : PortIdAllocator} (h : a.id.toNat + 1 < 2 ^ 32) :
    ∃ a', a.next = .ok (⟨a.id⟩, a') ∧ a'.id.toNat = a.id.toNat + 1 := by
  rcases hnext : a.next with err | ⟨port, a'⟩
  · rw [PortIdAllocator.next_eq_error.mp hnext] at h
    exact absurd h (by decide)
  · obtain ⟨hport, hsucc⟩ := PortIdAllocator.next_eq_ok hnext
    exact ⟨a', by rw [← hport], hsucc⟩

/-- **Respawning under shifted numbers** gives the same daemon under shifted numbers. -/
theorem Renamed.respawnAll {first k n : ℕ} (hroom : first + k + n < 2 ^ 32) {d e : Daemon}
    (h : Renamed (Renaming.shift first k n hroom) d e) (specs : List (Spec × Tap))
    (hfirst : first ≤ d.portIds.id.toNat) (hlast : d.portIds.id.toNat + specs.length ≤ first + n)
    (hshift : e.portIds.id.toNat = d.portIds.id.toNat + k) :
    Renamed (Renaming.shift first k n hroom) (d.respawnAll specs) (e.respawnAll specs) := by
  induction specs generalizing d e with
  | nil => exact h
  | cons s specs ih =>
    rw [List.length_cons] at hlast
    obtain ⟨a, hd, ha⟩ := exists_next (a := d.portIds) (by omega)
    obtain ⟨b, he, hb⟩ := exists_next (a := e.portIds) (by omega)
    have hp : (⟨d.portIds.id⟩ : PortId) ∈ (Renaming.shift first k n hroom).domain :=
      ⟨hfirst, by change d.portIds.id.toNat < first + n; omega⟩
    have hnumber : (Renaming.shift first k n hroom).number ⟨d.portIds.id⟩ = ⟨e.portIds.id⟩ := by
      refine congrArg PortId.mk (UInt32.toNat_inj.mp ?_)
      have hlt : d.portIds.id.toNat + k < 2 ^ 32 := by omega
      change (UInt32.ofNat (d.portIds.id.toNat + k)).toNat = _
      rw [UInt32.toNat_ofNat_of_lt' hlt, hshift]
    rw [respawnAll_cons hd, respawnAll_cons he, ← hnumber]
    refine ih (h.afterAttempt hp s.1 s.2 a b) ?_ ?_ ?_
    · change first ≤ a.id.toNat
      omega
    · change a.id.toNat + specs.length ≤ first + n
      omega
    · change b.id.toNat = a.id.toNat + k
      omega

end Daemon

/-- A turn of the loop, as it would have been with the numbers handed out earlier: an event
of a port of the past has no counterpart. -/
def Wake.earlier (first k : ℕ) : Wake → Option Wake
  | .event port reported now =>
    if port.id.toNat < first then none
    else some (.event ⟨UInt32.ofNat (port.id.toNat - k)⟩ reported now)
  | wake => some wake

/-- No further configuration is loaded, and no port is heard of that never was. -/
def Wake.Plain (next : ℕ) : Wake → Prop
  | .event port _ _ => port.id.toNat < next
  | .sighup (.loaded _ _) => False
  | _ => True

/-- **One turn does the same**, or nothing if it is about a port of the past. -/
theorem Daemon.Renamed.turn {first k n : ℕ} (hroom : first + k + n < 2 ^ 32) {d e : Daemon}
    (h : Renamed (Renaming.shift first k n hroom) d e) {wake wake' : Wake}
    (hplain : wake'.Plain (first + k + n)) (hback : wake'.earlier (first + k) k = some wake) :
    daemonMachine.out e wake' =
        (daemonMachine.out d wake).map (Delivery.rename (Renaming.shift first k n hroom)) ∧
      Renamed (Renaming.shift first k n hroom) (daemonMachine.next d wake)
        (daemonMachine.next e wake') := by
  rcases wake' with ⟨port, event, now⟩ | load | now
  · rw [Wake.earlier] at hback
    split at hback
    · cases hback
    · next hge =>
      obtain rfl := Option.some.inj hback
      have hlt : port.id.toNat < first + k + n := hplain
      have hsub : port.id.toNat - k < 2 ^ 32 := by omega
      have hp : (⟨UInt32.ofNat (port.id.toNat - k)⟩ : PortId) ∈
          (Renaming.shift first k n hroom).domain := by
        change first ≤ (UInt32.ofNat (port.id.toNat - k)).toNat ∧
          (UInt32.ofNat (port.id.toNat - k)).toNat < first + n
        rw [UInt32.toNat_ofNat_of_lt' hsub]
        omega
      have hnumber : (Renaming.shift first k n hroom).number
          ⟨UInt32.ofNat (port.id.toNat - k)⟩ = port := by
        refine congrArg PortId.mk (UInt32.toNat_inj.mp ?_)
        have hback : port.id.toNat - k + k = port.id.toNat := by omega
        change (UInt32.ofNat ((UInt32.ofNat (port.id.toNat - k)).toNat + k)).toNat = _
        rw [UInt32.toNat_ofNat_of_lt' hsub, hback, UInt32.ofNat_toNat]
      have hevent := h.handleFrameEvent hp event now
      rw [hnumber] at hevent
      exact hevent
  · obtain rfl := Option.some.inj hback
    rcases load with _ | _ | ⟨probeId, specs⟩
    · exact ⟨rfl, h⟩
    · exact ⟨rfl, h⟩
    · exact absurd hplain id
  · obtain rfl := Option.some.inj hback
    exact ⟨rfl, h.switch.ageOut macMaxAge now, h.handles, h.mem_domain⟩

/-- **The same daemon under shifted numbers, with a past**: the numbers handed out before are
retired. -/
structure Daemon.Outlives (first k n : ℕ) (hroom : first + k + n < 2 ^ 32) (d e : Daemon) :
    Prop where
  renamed : Renamed (Renaming.shift first k n hroom) d e
  reachable : Reachable e.switch
  retired : ∀ p : PortId, p.id.toNat < first + k → e.Retired p

/-- The past stays retired. -/
theorem Daemon.Outlives.next {first k n : ℕ} {hroom : first + k + n < 2 ^ 32} {d d' e : Daemon}
    (h : Outlives first k n hroom d e) (wake : Wake)
    (hnext : Renamed (Renaming.shift first k n hroom) d' (daemonMachine.next e wake)) :
    Outlives first k n hroom d' (daemonMachine.next e wake) :=
  ⟨hnext, reachable_next h.reachable wake, fun p hp => (h.retired p hp).next wake⟩

/-- **What a daemon hears of the ports of its past** makes no difference. -/
theorem Daemon.Outlives.skip {first k n : ℕ} {hroom : first + k + n < 2 ^ 32} {d e : Daemon}
    (h : Outlives first k n hroom d e) {wake : Wake} (hnone : wake.earlier (first + k) k = none) :
    daemonMachine.out e wake = [] ∧ daemonMachine.next e wake = e := by
  rcases wake with ⟨port, event, now⟩ | load | now
  · rw [Wake.earlier] at hnone
    split at hnone
    · next hpast =>
      have hnothing := (h.retired port hpast).handleFrameEvent h.reachable event now
      exact ⟨congrArg Prod.fst hnothing, congrArg Prod.snd hnothing⟩
    · cases hnone
  · cases hnone
  · cases hnone

/-- **After a reload with a past** everything is as it is without. -/
theorem Daemon.outlives_reload {d e : Daemon} (probeId : UInt64) (specs : List (Spec × Tap)) {k : ℕ}
    (hk : e.portIds.id.toNat = d.portIds.id.toNat + k)
    (hroom : d.portIds.id.toNat + k + specs.length < 2 ^ 32) :
    Outlives d.portIds.id.toNat k specs.length hroom (d.reload (.loaded probeId specs))
      (e.reload (.loaded probeId specs)) := by
  refine ⟨?_, reachable_reload e probeId specs, fun p hp => ?_⟩
  · refine Renamed.respawnAll hroom ⟨?_, rfl, ?_⟩ specs le_rfl le_rfl hk
    · exact Renaming.relates_withProbeId _ probeId
    · exact fun p hp => absurd hp (Finset.notMem_empty p)
  · exact retired_reload (hk ▸ hp) probeId specs

/-- **A reload forgets all that was before it.** Let two daemons load the same
configuration, with the same answers of the operating system and the same probe id, and
let the second have handed out more port numbers before, but not so many that they run
out. Then in any run of turns that change the state, without a further reload and with
events of numbers that were handed out only – frames, ports that go down, sweeps, and what
the second still hears of the ports it had before – the second hands to its writers what
the first does in the run without the latter, and at the end they hold the same ports,
handles, learned addresses and counters, no less and no more, and would send the same
probe out of the same ports: everything under port numbers that differ by the same amount.
In particular the first daemon may just have been started. -/
theorem reload_forgets (d e : Daemon) (probeId : UInt64) (specs : List (Spec × Tap)) {k : ℕ}
    (hk : e.portIds.id.toNat = d.portIds.id.toNat + k)
    (hroom : d.portIds.id.toNat + k + specs.length < 2 ^ 32) {wakes : List Wake}
    (hplain : ∀ wake ∈ wakes, wake.Plain (d.portIds.id.toNat + k + specs.length))
    {r : Renaming} (hr : r = Renaming.shift d.portIds.id.toNat k specs.length hroom)
    {wakes' : List Wake}
    (hwakes' : wakes' = wakes.filterMap (Wake.earlier (d.portIds.id.toNat + k) k))
    {d' e' : Daemon} (hd' : d' = daemonMachine.run (d.reload (.loaded probeId specs)) wakes')
    (he' : e' = daemonMachine.run (e.reload (.loaded probeId specs)) wakes) :
    daemonMachine.history (e.reload (.loaded probeId specs)) wakes =
        (daemonMachine.history (d.reload (.loaded probeId specs)) wakes').map
          (Delivery.rename r) ∧
      r.Relates d'.switch e'.switch ∧ e'.handles = d'.handles.image r.number ∧
      e'.loopProbes = d'.loopProbes.map (Delivery.rename r) := by
  subst hr hwakes' hd' he'
  have hrun := Machine.history_filterMap (M := daemonMachine) (N := daemonMachine)
    (R := Daemon.Outlives d.portIds.id.toNat k specs.length hroom)
    (f := Delivery.rename (Renaming.shift d.portIds.id.toNat k specs.length hroom))
    (fun s t wake hst _ hnone => by
      obtain ⟨hout, hnext⟩ := hst.skip hnone
      exact ⟨hout, hnext.symm ▸ hst⟩)
    (fun s t wake' wake hst hwake hback => by
      obtain ⟨hout, hnext⟩ := hst.renamed.turn hroom hwake hback
      exact ⟨hout, hst.next wake' hnext⟩)
    (Daemon.outlives_reload probeId specs hk hroom) hplain
  have hrenamed := hrun.2.renamed
  exact ⟨hrun.1, hrenamed.switch, hrenamed.handles, hrenamed.loopProbes⟩

/-- A daemon with three ports loads a configuration of two: from there on it does what one
does that was just started with it, and what port 1 reports too late is ignored. -/
theorem reload_forgets_restart :
    ∃ d₀ e₀ d' e', Daemon.startUp 7 [(⟨"tap0", .access 10⟩, ⟨true, true⟩),
        (⟨"tap1", .access 10⟩, ⟨true, true⟩)] = .ok d₀ ∧
      Daemon.startUp 9 [(⟨"tap0", .access 10⟩, ⟨true, true⟩),
        (⟨"tap1", .access 20⟩, ⟨true, true⟩), (⟨"tap2", .access 20⟩, ⟨true, true⟩)] = .ok e₀ ∧
      d' = daemonMachine.run d₀ [.event ⟨0⟩ (.frame (hostFrame 1 9).wireBytes) 0] ∧
      e' = daemonMachine.run (e₀.reload (.loaded 7 [(⟨"tap0", .access 10⟩, ⟨true, true⟩),
        (⟨"tap1", .access 10⟩, ⟨true, true⟩)])) [.event ⟨1⟩ .down 0,
          .event ⟨3⟩ (.frame (hostFrame 1 9).wireBytes) 0] ∧
      e'.handles = d'.handles.image fun p => ⟨UInt32.ofNat (p.id.toNat + 3)⟩ := by
  refine ⟨_, _, _, _, rfl, rfl, rfl, rfl, (@reload_forgets ⟨Switch.withProbeId 7, ∅, ⟨0⟩⟩ _ 7 _ _
    rfl (by decide) [.event ⟨1⟩ .down 0, .event ⟨3⟩ (.frame (hostFrame 1 9).wireBytes) 0]
    (fun wake hwake => ?_) _ rfl _ rfl _ _ rfl rfl).2.2.1⟩
  simp only [List.mem_cons, List.not_mem_nil, or_false] at hwake
  rcases hwake with rfl | rfl
  · exact (by decide : (1 : ℕ) < 0 + 3 + 2)
  · exact (by decide : (3 : ℕ) < 0 + 3 + 2)

end VlanSwitch
