import VlanSwitch.Daemon.Loop

/-!
# Two tables in one loop

The switch knows its ports, the daemon the handles on their devices, and the loop
updates both. They stay in step (`VlanSwitch.Daemon.InStep`) through start-up, events
and sweeps. In a reload they need not: a device that opens and then fails to give its
name has been registered with the switch when spawning it fails, and the reload logs
the failure and carries on, which leaves a port without a handle
(`VlanSwitch.phantom_port`). That is the only way: the tables are in step all along a
run exactly if no reload of it meets such a device (`VlanSwitch.tables_in_step_iff`).
-/

namespace VlanSwitch

namespace Daemon

/-- **The two tables are in step**: the ports registered in the switch are those with a
handle. -/
def InStep (d : Daemon) : Prop := d.switch.ports.keys = d.handles

instance (d : Daemon) : Decidable d.InStep := inferInstanceAs (Decidable (_ = _))

theorem inStep_iff {d : Daemon} : d.InStep ↔ ∀ p, p ∈ d.switch.ports ↔ p ∈ d.handles := by
  rw [InStep, Finset.ext_iff]
  simp only [Finmap.mem_keys]

end Daemon

/-! ### Spawning -/

/-- A port that is to be spawned, under the number it got. -/
structure Attempt where
  port : PortId
  spec : Spec
  tap : Tap
  deriving DecidableEq

namespace Attempt

/-- The call of `spawnPort`. -/
def run (s : Switch) (a : Attempt) : Except SpawnError Unit × Switch :=
  spawnPort a.port a.spec.mode s a.tap

/-- The switch after it. -/
def spawn (s : Switch) (a : Attempt) : Switch := (a.run s).2

/-- Spawning the port succeeds. -/
def Succeeds (a : Attempt) : Prop := a.tap.opened = true ∧ a.tap.named = true

instance (a : Attempt) : Decidable a.Succeeds := inferInstanceAs (Decidable (_ ∧ _))

/-- A device that gives its name, if it opens. -/
def Clean (a : Attempt) : Prop := a.tap.opened = true → a.tap.named = true

instance (a : Attempt) : Decidable a.Clean := inferInstanceAs (Decidable (_ → _))

/-- Whether spawning succeeds is up to the operating system alone. -/
theorem succeeds_iff {a : Attempt} (s : Switch) :
    (a.run s).1 = .ok () ↔ a.Succeeds := by
  obtain ⟨port, spec, opened, named⟩ := a
  rcases opened with _ | _ <;> rcases named with _ | _ <;> simp [run, spawnPort, Succeeds]

/-- The port is registered as soon as its device opens. -/
theorem spawn_eq (s : Switch) (a : Attempt) :
    spawn s a = if a.tap.opened then s.addPort a.port a.spec.mode else s := by
  obtain ⟨port, spec, opened, named⟩ := a
  rcases opened with _ | _ <;> rcases named with _ | _ <;> rfl

/-- **A failure leaves the switch alone** unless the device opened. -/
theorem spawn_of_clean {s : Switch} {a : Attempt} (h : a.Clean) (hfail : ¬a.Succeeds) :
    spawn s a = s := by
  rw [spawn_eq, if_neg]
  exact fun hopen => hfail ⟨hopen, h hopen⟩

theorem mem_foldl_spawn {s : Switch} {attempts : List Attempt} {p : PortId} :
    p ∈ (attempts.foldl spawn s).ports ↔
      p ∈ s.ports ∨ ∃ a ∈ attempts, a.port = p ∧ a.tap.opened = true := by
  induction attempts generalizing s with
  | nil => simp
  | cons a attempts ih =>
    have hspawn : p ∈ (spawn s a).ports ↔ p ∈ s.ports ∨ a.port = p ∧ a.tap.opened = true := by
      rw [spawn_eq]
      split
      · next hopen =>
        rw [and_iff_left hopen, or_comm, eq_comm]
        exact Finmap.mem_insert
      · next hopen => exact (or_iff_left fun h => hopen h.2).symm
    rw [List.foldl_cons, ih, hspawn]
    simp only [List.mem_cons, exists_eq_or_imp, or_assoc]

/-- The mode of a port is that of an attempt, if it is a new one. -/
theorem portMode_foldl_spawn {s : Switch} {attempts : List Attempt} {p : PortId}
    {mode : PortMode} (h : (attempts.foldl spawn s).portMode p = some mode) :
    s.portMode p = some mode ∨
      ∃ a ∈ attempts, a.port = p ∧ a.tap.opened = true ∧ a.spec.mode = mode := by
  induction attempts generalizing s with
  | nil => exact Or.inl h
  | cons a attempts ih =>
    rcases ih h with h | ⟨b, hb, hrest⟩
    · rw [spawn_eq] at h
      split at h
      · next hopen =>
        rw [Switch.portMode, Switch.lookup_ports_addPort] at h
        split at h
        · next hp =>
          exact Or.inr ⟨a, List.mem_cons_self, hp.symm, hopen, Option.some.inj h⟩
        · exact Or.inl h
      · exact Or.inl h
    · exact Or.inr ⟨b, List.mem_cons_of_mem a hb, hrest⟩

/-- The handles after an attempt. -/
def enlist (handles : Finset PortId) (a : Attempt) : Finset PortId :=
  if a.Succeeds then insert a.port handles else handles

theorem mem_foldl_enlist {handles : Finset PortId} {attempts : List Attempt} {p : PortId} :
    p ∈ attempts.foldl enlist handles ↔
      p ∈ handles ∨ ∃ a ∈ attempts, a.port = p ∧ a.Succeeds := by
  induction attempts generalizing handles with
  | nil => simp
  | cons a attempts ih =>
    have henlist : p ∈ enlist handles a ↔ p ∈ handles ∨ a.port = p ∧ a.Succeeds := by
      rw [enlist]
      split
      · next hok => rw [and_iff_left hok, Finset.mem_insert, or_comm, eq_comm]
      · next hok => exact (or_iff_left fun h => hok h.2).symm
    rw [List.foldl_cons, ih, henlist]
    simp only [List.mem_cons, exists_eq_or_imp, or_assoc]

end Attempt

/-- The attempts a list of ports leads to, as long as there are numbers. -/
def attempts (portIds : PortIdAllocator) : List (Spec × Tap) → List Attempt
  | [] => []
  | (spec, tap) :: specs =>
    match portIds.next with
    | .error _ => []
    | .ok (port, portIds) => ⟨port, spec, tap⟩ :: attempts portIds specs

/-- Numbers are handed out in ascending order. -/
theorem PortIdAllocator.next_eq_ok {a a' : PortIdAllocator} {port : PortId}
    (h : a.next = .ok (port, a')) : port.id = a.id ∧ a'.id.toNat = a.id.toNat + 1 := by
  rw [next] at h
  split at h
  · cases h
  · next hne =>
    obtain ⟨rfl, rfl⟩ := Prod.mk.inj (Except.ok.inj h)
    refine ⟨rfl, ?_⟩
    have hlt : a.id.toNat + 1 < 2 ^ 32 := by
      have hle := UInt32.toNat_lt a.id
      have hne' : a.id.toNat ≠ 4294967295 := fun hc => hne (UInt32.toNat_inj.mp hc)
      omega
    change (a.id + 1).toNat = _
    rw [UInt32.toNat_add]
    exact Nat.mod_eq_of_lt hlt

theorem attempts_of_error {portIds : PortIdAllocator} {e : AllocError}
    (h : portIds.next = .error e) (specs : List (Spec × Tap)) : attempts portIds specs = [] := by
  rcases specs with _ | ⟨s, specs⟩
  · rfl
  · rw [attempts, h]

theorem attempts_cons {portIds portIds' : PortIdAllocator} {port : PortId}
    (h : portIds.next = .ok (port, portIds')) (s : Spec × Tap) (specs : List (Spec × Tap)) :
    attempts portIds (s :: specs) = ⟨port, s.1, s.2⟩ :: attempts portIds' specs := by
  rw [attempts, h]

theorem le_of_mem_attempts {portIds : PortIdAllocator} {specs : List (Spec × Tap)}
    {a : Attempt} (h : a ∈ attempts portIds specs) : portIds.id.toNat ≤ a.port.id.toNat := by
  induction specs generalizing portIds with
  | nil => exact absurd h List.not_mem_nil
  | cons s specs ih =>
    rcases hnext : portIds.next with e | ⟨port, portIds'⟩
    · rw [attempts_of_error hnext] at h
      exact absurd h List.not_mem_nil
    · obtain ⟨hport, hsucc⟩ := PortIdAllocator.next_eq_ok hnext
      rw [attempts_cons hnext] at h
      rcases List.mem_cons.mp h with rfl | h
      · exact (congrArg UInt32.toNat hport).ge
      · have hle := ih h
        omega

/-- **No number is handed out twice.** -/
theorem eq_of_mem_attempts {portIds : PortIdAllocator} {specs : List (Spec × Tap)}
    {a b : Attempt} (ha : a ∈ attempts portIds specs) (hb : b ∈ attempts portIds specs)
    (hport : a.port = b.port) : a = b := by
  induction specs generalizing portIds with
  | nil => exact absurd ha List.not_mem_nil
  | cons s specs ih =>
    rcases hnext : portIds.next with e | ⟨port, portIds'⟩
    · rw [attempts_of_error hnext] at ha
      exact absurd ha List.not_mem_nil
    · -- the first number is below all that follow
      obtain ⟨hfirst, hsucc⟩ := PortIdAllocator.next_eq_ok hnext
      have hlate : ∀ c ∈ attempts portIds' specs, c.port ≠ port := fun c hc heq => by
        have hle := le_of_mem_attempts hc
        rw [heq, hfirst] at hle
        omega
      rw [attempts_cons hnext] at ha hb
      rcases List.mem_cons.mp ha with rfl | ha'
      · rcases List.mem_cons.mp hb with rfl | hb'
        · rfl
        · exact absurd hport.symm (hlate b hb')
      · rcases List.mem_cons.mp hb with rfl | hb'
        · exact absurd hport (hlate a ha')
        · exact ih ha' hb'

namespace Daemon

/-! ### A reload -/

/-- The daemon after an attempt, successful or not. -/
def afterAttempt (d : Daemon) (a : Attempt) (portIds : PortIdAllocator) : Daemon where
  switch := Attempt.spawn d.switch a
  handles := Attempt.enlist d.handles a
  portIds := portIds

/-- Without a number nothing is respawned. -/
theorem respawnAll_of_error {d : Daemon} {e : AllocError} (h : d.portIds.next = .error e)
    (specs : List (Spec × Tap)) : d.respawnAll specs = d := by
  rcases specs with _ | ⟨⟨spec, tap⟩, specs⟩
  · rfl
  · rw [respawnAll, h]

/-- **A failure to respawn a port does not keep the others from being tried.** -/
theorem respawnAll_cons {d : Daemon} {port : PortId} {portIds : PortIdAllocator}
    (h : d.portIds.next = .ok (port, portIds)) (s : Spec × Tap) (specs : List (Spec × Tap)) :
    d.respawnAll (s :: specs) = (d.afterAttempt ⟨port, s.1, s.2⟩ portIds).respawnAll specs := by
  obtain ⟨spec, opened, named⟩ := s
  rw [respawnAll, h]
  rcases opened with _ | _ <;> rcases named with _ | _ <;> rfl

/-- **Respawning is one attempt after the other.** -/
theorem respawnAll_eq (d : Daemon) (specs : List (Spec × Tap)) :
    (d.respawnAll specs).switch = (attempts d.portIds specs).foldl Attempt.spawn d.switch ∧
      (d.respawnAll specs).handles =
        (attempts d.portIds specs).foldl Attempt.enlist d.handles := by
  induction specs generalizing d with
  | nil => exact ⟨rfl, rfl⟩
  | cons s specs ih =>
    rcases hnext : d.portIds.next with e | ⟨port, portIds⟩
    · rw [attempts_of_error hnext, respawnAll_of_error hnext]
      exact ⟨rfl, rfl⟩
    · rw [attempts_cons hnext, respawnAll_cons hnext]
      exact ih _

section Reload

variable {d : Daemon} {probeId : UInt64} {specs : List (Spec × Tap)}

/-- What is registered after a reload: the ports whose device opened. -/
theorem mem_ports_reload {p : PortId} :
    p ∈ (d.reload (.loaded probeId specs)).switch.ports ↔
      ∃ a ∈ attempts d.portIds specs, a.port = p ∧ a.tap.opened = true := by
  rw [reload, (respawnAll_eq _ specs).1, Attempt.mem_foldl_spawn]
  exact or_iff_right Finmap.notMem_empty

/-- What has a handle after a reload: the ports that were spawned. -/
theorem mem_handles_reload {p : PortId} :
    p ∈ (d.reload (.loaded probeId specs)).handles ↔
      ∃ a ∈ attempts d.portIds specs, a.port = p ∧ a.Succeeds := by
  rw [reload, (respawnAll_eq _ specs).2, Attempt.mem_foldl_enlist]
  exact or_iff_right (Finset.notMem_empty p)

/-- **After a reload the tables are in step exactly if no device opened and then failed
to give its name**: the number of such a port is nobody else's. -/
theorem inStep_reload_iff :
    (d.reload (.loaded probeId specs)).InStep ↔ ∀ a ∈ attempts d.portIds specs, a.Clean := by
  rw [inStep_iff]
  constructor
  · intro h a ha hopen
    -- whoever got the port's handle has its number, and so is the same attempt
    have hhandle := (h a.port).mp (mem_ports_reload.mpr ⟨a, ha, rfl, hopen⟩)
    obtain ⟨b, hb, hport, hok⟩ := mem_handles_reload.mp hhandle
    rw [← eq_of_mem_attempts hb ha hport]
    exact hok.2
  · intro h p
    rw [mem_ports_reload, mem_handles_reload]
    refine exists_congr fun a => and_congr_right fun ha => and_congr_right fun _ => ?_
    exact ⟨fun hopen => ⟨hopen, h a ha hopen⟩, fun hok => hok.1⟩

/-- The mode of a port after a reload is that of the attempt whose device opened. -/
theorem portMode_reload {p : PortId} {mode : PortMode} :
    (d.reload (.loaded probeId specs)).switch.portMode p = some mode ↔
      ∃ a ∈ attempts d.portIds specs, a.port = p ∧ a.tap.opened = true ∧ a.spec.mode = mode := by
  constructor
  · intro h
    rw [reload, (respawnAll_eq _ specs).1] at h
    rcases Attempt.portMode_foldl_spawn h with hnone | ha
    · exact absurd hnone (by simp [Switch.portMode, Switch.withProbeId])
    · exact ha
  · rintro ⟨a, ha, rfl, hopen, rfl⟩
    have hmem : a.port ∈ (d.reload (.loaded probeId specs)).switch.ports :=
      mem_ports_reload.mpr ⟨a, ha, rfl, hopen⟩
    obtain ⟨entry, hentry⟩ := Finmap.mem_iff.mp hmem
    have hmode : (d.reload (.loaded probeId specs)).switch.portMode a.port = some entry.mode := by
      rw [Switch.portMode, hentry, Option.map_some]
    have hback := hmode
    rw [reload, (respawnAll_eq _ specs).1] at hback
    rcases Attempt.portMode_foldl_spawn hback with hnone | ⟨b, hb, hport, -, hmode'⟩
    · exact absurd hnone (by simp [Switch.portMode, Switch.withProbeId])
    · rw [hmode, ← hmode', eq_of_mem_attempts hb ha hport]

end Reload

/-! ### The other turns -/

theorem InStep.handleFrameEvent {d : Daemon} (h : d.InStep) (ingress : PortId)
    (event : PortEvent) (now : Instant) : (d.handleFrameEvent ingress event now).2.InStep := by
  rw [inStep_iff] at h ⊢
  intro p
  rcases event with bytes | _
  · rw [Daemon.handleFrameEvent]
    rcases EthernetFrame.parse bytes with e | frame
    · exact h p
    · have hports : p ∈ (d.switch.forward ingress frame now).2.ports ↔ p ∈ d.switch.ports :=
        Switch.mem_ports_forward
      dsimp only
      rcases hforward : d.switch.forward ingress frame now with ⟨e | ds, switch⟩
      · rw [hforward] at hports
        exact hports.trans (h p)
      · rw [hforward] at hports
        exact hports.trans (h p)
  · exact Finmap.mem_erase.trans ((and_congr_right fun _ => h p).trans Finset.mem_erase.symm)

/-- A port that is spawned at start-up is followed by the next. -/
theorem spawnAll_cons_of_succeeds {d : Daemon} {port : PortId} {portIds : PortIdAllocator}
    (hnext : d.portIds.next = .ok (port, portIds)) {s : Spec × Tap}
    (hok : (⟨port, s.1, s.2⟩ : Attempt).Succeeds) (specs : List (Spec × Tap)) :
    d.spawnAll (s :: specs) = (d.afterAttempt ⟨port, s.1, s.2⟩ portIds).spawnAll specs := by
  obtain ⟨spec, opened, named⟩ := s
  obtain ⟨rfl, rfl⟩ : opened = true ∧ named = true := hok
  rw [Daemon.spawnAll, hnext]
  rfl

/-- **A failure to spawn a port ends start-up.** -/
theorem exists_of_spawnAll_cons {d d' : Daemon} {s : Spec × Tap} {specs : List (Spec × Tap)}
    (h : d.spawnAll (s :: specs) = .ok d') :
    ∃ port portIds, d.portIds.next = .ok (port, portIds) ∧
      (⟨port, s.1, s.2⟩ : Attempt).Succeeds ∧
        (d.afterAttempt ⟨port, s.1, s.2⟩ portIds).spawnAll specs = .ok d' := by
  rcases hnext : d.portIds.next with e | ⟨port, portIds⟩
  · rw [Daemon.spawnAll, hnext] at h
    cases h
  · have hok : (⟨port, s.1, s.2⟩ : Attempt).Succeeds := by
      obtain ⟨spec, opened, named⟩ := s
      rw [Daemon.spawnAll, hnext] at h
      rcases opened with _ | _
      · cases h
      · rcases named with _ | _
        · cases h
        · exact ⟨rfl, rfl⟩
    refine ⟨port, portIds, rfl, hok, ?_⟩
    rwa [spawnAll_cons_of_succeeds hnext hok] at h

/-- A port that is spawned is put into both tables. -/
theorem InStep.afterAttempt {d : Daemon} (h : d.InStep) {a : Attempt} (ha : a.Succeeds)
    (portIds : PortIdAllocator) : (d.afterAttempt a portIds).InStep := by
  rw [inStep_iff] at h ⊢
  intro p
  rw [Daemon.afterAttempt, Attempt.spawn_eq, if_pos ha.1, Attempt.enlist, if_pos ha]
  exact Finmap.mem_insert.trans ((or_congr_right (h p)).trans Finset.mem_insert.symm)

/-- Start-up ends with the tables in step, if it does not end the process. -/
theorem InStep.spawnAll {d d' : Daemon} (h : d.InStep) {specs : List (Spec × Tap)}
    (hd' : d.spawnAll specs = .ok d') : d'.InStep := by
  induction specs generalizing d with
  | nil => exact Except.ok.inj hd' ▸ h
  | cons s specs ih =>
    obtain ⟨port, portIds, -, hok, hrest⟩ := exists_of_spawnAll_cons hd'
    exact ih (h.afterAttempt hok portIds) hrest

end Daemon

/-- A turn that does not meet a device that opens and then fails to give its name,
except at start-up, where it would end the process. -/
def Wake.Clean (d : Daemon) : Wake → Prop
  | .sighup (.loaded _ specs) => ∀ a ∈ attempts d.portIds specs, a.Clean
  | _ => True

/-- **A turn keeps the tables in step exactly if it is clean.** -/
theorem Daemon.InStep.next_iff {d : Daemon} (h : d.InStep) (wake : Wake) :
    (daemonMachine.next d wake).InStep ↔ wake.Clean d := by
  rcases wake with ⟨ingress, event, now⟩ | load | now
  · exact ⟨fun _ => trivial, fun _ => h.handleFrameEvent ingress event now⟩
  · rcases load with _ | _ | ⟨probeId, specs⟩
    · exact ⟨fun _ => trivial, fun _ => h⟩
    · exact ⟨fun _ => trivial, fun _ => h⟩
    · exact Daemon.inStep_reload_iff
  · exact ⟨fun _ => trivial, fun _ => h⟩

/-- **A phantom port.** The configuration asks for one port; its device opens and then
fails to give its name. The reload carries on, with the port registered in the switch
and no handle on its device, although spawning it failed. -/
theorem phantom_port :
    ∃ d₀ d, Daemon.startUp 7 [] = .ok d₀ ∧
      d = daemonMachine.run d₀ [.sighup (.loaded 8 [(⟨"tap0", .access 10⟩, ⟨true, false⟩)])] ∧
      d.switch.ports.keys = {⟨0⟩} ∧ d.handles = ∅ ∧ ¬d.InStep ∧
      spawnPort ⟨0⟩ (.access 10) (Switch.withProbeId 8) ⟨true, false⟩ =
        (.error .nameFailed, (Switch.withProbeId 8).addPort ⟨0⟩ (.access 10)) ∧
      (Switch.withProbeId 8).addPort ⟨0⟩ (.access 10) ≠ Switch.withProbeId 8 :=
  ⟨_, _, rfl, rfl, by decide, by decide, by decide, rfl, by decide⟩

/-- **When the tables are in step.** In a run of the loop from a start-up that
succeeded, the ports registered in the switch are those with a handle in every state
reached, a call of `spawnPort` that fails leaves the switch as it was, and after a
reload the ports registered are those whose spawning succeeded, each in the mode it
was given, exactly if no reload of the run meets a device that opens and then fails to
give its name. -/
theorem tables_in_step_iff {probeId : UInt64} {specs : List (Spec × Tap)} {d₀ : Daemon}
    (h₀ : Daemon.startUp probeId specs = .ok d₀) (wakes : List Wake) :
    ((∀ pre, pre <+: wakes → (daemonMachine.run d₀ pre).InStep) ∧
      ∀ d probeId' specs', (d, Wake.sighup (.loaded probeId' specs')) ∈
          daemonMachine.trace d₀ wakes →
        (∀ a ∈ attempts d.portIds specs', ∀ s, (a.run s).1 ≠ .ok () → (a.run s).2 = s) ∧
        ∀ p mode, (d.reload (.loaded probeId' specs')).switch.portMode p = some mode ↔
          ∃ a ∈ attempts d.portIds specs', a.port = p ∧ (∀ s, (a.run s).1 = .ok ()) ∧
            a.spec.mode = mode) ↔
      ∀ e ∈ daemonMachine.trace d₀ wakes, e.2.Clean e.1 := by
  have hstart : d₀.InStep := by
    refine Daemon.InStep.spawnAll ?_ h₀
    rfl
  constructor
  · -- the state after a turn is reached, and in step, so the turn was clean
    rintro ⟨hinStep, -⟩ ⟨d, wake⟩ he
    obtain ⟨pre, post, rfl, rfl⟩ := daemonMachine.mem_trace.mp he
    have hbefore := hinStep pre (List.prefix_append _ _)
    have hafter := hinStep (pre ++ [wake]) ⟨post, by simp⟩
    rw [Machine.run_concat] at hafter
    exact (hbefore.next_iff wake).mp hafter
  · intro hclean
    refine ⟨?_, fun d probeId' specs' he => ⟨?_, ?_⟩⟩
    · -- by induction on the run, one clean turn at a time
      intro pre hpre
      induction pre using List.reverseRecOn with
      | nil => exact hstart
      | append_singleton pre wake ih =>
        obtain ⟨post, rfl⟩ := hpre
        rw [Machine.run_concat]
        refine ((ih ⟨wake :: post, by simp⟩).next_iff wake).mpr (hclean (_, wake) ?_)
        exact daemonMachine.mem_trace.mpr ⟨pre, post, by simp, rfl⟩
    · intro a ha s hfail
      exact Attempt.spawn_of_clean (hclean _ he a ha) (mt (Attempt.succeeds_iff s).mpr hfail)
    · intro p mode
      rw [Daemon.portMode_reload]
      refine exists_congr fun a => and_congr_right fun ha => and_congr_right fun _ => ?_
      refine and_congr_left fun _ => ?_
      constructor
      · exact fun hopen s => (Attempt.succeeds_iff s).mpr ⟨hopen, hclean _ he a ha hopen⟩
      · exact fun hok => ((Attempt.succeeds_iff (Switch.withProbeId 0)).mp (hok _)).1

/-- A reload whose only device fails to open leaves no port and no handle. -/
theorem tables_in_step_openFailed :
    (daemonMachine.run ⟨Switch.withProbeId 7, ∅, ⟨0⟩⟩
      [.sighup (.loaded 8 [(⟨"tap0", .access 10⟩, ⟨false, true⟩)])]).InStep := by
  have hrun := (@tables_in_step_iff 7 [] ⟨Switch.withProbeId 7, ∅, ⟨0⟩⟩ rfl
    [.sighup (.loaded 8 [(⟨"tap0", .access 10⟩, ⟨false, true⟩)])]).mpr fun e he => by
      obtain rfl := List.mem_singleton.mp he
      exact fun a ha => by
        obtain rfl := List.mem_singleton.mp ha
        decide
  exact hrun.1 _ List.prefix_rfl

end VlanSwitch
