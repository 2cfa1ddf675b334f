/- module: LinuxAgent/Backup/Accounting
   source: backup/backup_builder.cc, device_synchronizer/device_synchronizer.cc,
           unsynced_sector_manager/unsynced_sector_store.cc, tracing/trace_handler.cc
   digest: From the end of a seed on, every sector in use is accounted for. -/

import LinuxAgent.Backup.Chain

/-!
What a chain of backups keeps from the end of a seed on: every sector in use is the
same in the image, or in the store, or in flight, or still to be written. The steps
of `DoSync` and the writes keep it sector by sector; a call that clears the store
starts the account again.
-/

set_option autoImplicit false
set_option relaxedAutoImplicit false

namespace LinuxAgent.Backup

open LinuxAgent.Lib.Run LinuxAgent.Lib.Segments LinuxAgent.UnsyncedSectors
open LinuxAgent.Tracing LinuxAgent.Synchronizer

section Views

variable {β : Type*} {chain : Chain β} {device : DevT}

private theorem step_frozen (source : Device β) (frozen : Bool) (e : DeviceEvent β) :
    { source with frozen := frozen }.step e =
      (source.step e).map fun after => { after with frozen := frozen } := by
  cases e with
  | write trace contents =>
      simp only [Device.step]
      split_ifs <;> rfl
  | deliver index now =>
      simp only [Device.step]
      cases source.inFlight[index]? with
      | none => rfl
      | some trace => cases added : addTrace source.store trace now <;> simp [added]

/-- A device event of the call is one of the view. -/
private theorem view_device (chain : Chain β) {after : CreationCall β} {e : DeviceEvent β}
    {moved : Device β} (taken : (chain.call.device device).step e = some moved)
    (here : after.device device = moved) :
    (chain.view device).step (.device e) =
      some (Chain.view device { chain with call := after }) := by
  subst here
  refine Option.map_eq_some_iff.mpr ⟨{ after.device device with frozen := chain.frozen }, ?_, rfl⟩
  exact (step_frozen _ _ e).trans (by rw [taken, Option.map_some])

private theorem view_of_device {after : CreationCall β}
    (here : after.device device = chain.call.device device) :
    Chain.view device { chain with call := after } = chain.view device := by
  simp only [Chain.view, here]

private theorem view_put {after : SyncState β}
    (sectors : after.device.sectors = (chain.view device).device.sectors)
    (inFlight : after.device.inFlight = (chain.view device).device.inFlight) :
    (chain.put device after).view device = after := by
  have store : (chain.put device after).call.builder.sectorManager.storeOf device =
      after.device.store := by
    simp [Chain.put, UnsyncedSectorManager.storeOf_changeStore]
  obtain ⟨coordinator, ⟨held, stored, flying, frozen⟩, sync⟩ := after
  simp only [Chain.view, CreationCall.device, store] at *
  obtain rfl := sectors
  obtain rfl := inFlight
  rfl

private theorem device_doSync {s t : SyncState β} {e : SyncEvent} (moved : s.DoSyncStep e t) :
    t.device.sectors = s.device.sectors ∧ t.device.inFlight = s.device.inFlight := by
  cases moved with
  | counted now flushed pc => rw [(s.unsyncedSectorCount_frame now flushed).1]; exact ⟨rfl, rfl⟩
  | tested pc => rw [s.testComplete_frame.1]; exact ⟨rfl, rfl⟩
  | _ => exact ⟨rfl, rfl⟩

/-- A synchronizer at rest takes no step. -/
private theorem working_of_doSync {s t : SyncState β} {e : SyncEvent}
    (moved : s.DoSyncStep e t) : atRest s.sync.pc = false := by
  cases moved <;> rw [‹s.sync.pc = _›] <;> rfl

private theorem sound_atRest {s : SyncState β} (forward : 0 ≤ s.device.store.volatileSeconds)
    (rest : atRest s.sync.pc = true) : s.Sound := by
  cases pc : s.sync.pc with
  | unstarted | done =>
      refine ⟨forward, ?_, ?_⟩
      all_goals
        rw [pc]
        trivial
  | _ => simp [pc, atRest] at rest

private theorem notYetWritten_atRest {sync : DeviceSynchronizer β}
    (rest : atRest sync.pc = true) (sector : ℕ) : sector ∉ sync.notYetWritten := by
  intro pending
  rw [DeviceSynchronizer.notYetWritten] at pending
  cases pc : sync.pc with
  | unstarted | done =>
      rw [pc] at pending
      exact absurd pending.2 (Nat.not_lt_zero sector)
  | _ => simp [pc, atRest] at rest

end Views

/-- The invariant of the chain. While a snapshot is being added, a sector in use may still
be one of its intervals; from the end of the seed on there is nothing but `Known`. -/
structure Accounted {β : Type*} (device : DevT) (chain : Chain β) : Prop where
  sound : (chain.view device).Sound
  traced : ∀ source remote, chain.call.point = .traced source remote →
    chain.isTracing source.devT = true
  filling : chain.call.point.Fills device →
    chain.isTracing device = true ∧ atRest chain.sync.pc = true
  running : ∀ taken, snapshot (chain.history device) = some taken → chain.isTracing device = true
  busy : atRest chain.sync.pc = false → SnapshotAdded (chain.history device)
  added : ∀ taken, snapshot (chain.history device) = some taken →
    ∀ interval ∈ taken.2, ∀ sector ∈ interval, (chain.view device).Known sector
  owed : ∀ taken, snapshot (chain.history device) = some taken →
    ∀ sector, chain.InUse device sector →
      (chain.view device).Known sector ∨ ∃ interval ∈ taken.1, sector ∈ interval

section Steps

variable {β : Type*} {chain after : Chain β} {device : DevT}

/-- A device that is not traced has no snapshot and no running `DoSync`. -/
private theorem untraced (inv : Accounted device chain) (idle : chain.isTracing device = false) :
    snapshot (chain.history device) = none ∧ atRest chain.sync.pc = true := by
  have nothing : snapshot (chain.history device) = none := by
    cases taken : snapshot (chain.history device) with
    | none => rfl
    | some both => simp [inv.running both taken] at idle
  refine ⟨nothing, ?_⟩
  by_contra working
  obtain ⟨intervals, found⟩ := inv.busy (by simpa using working)
  simp [nothing] at found

/-- A step that leaves the account of the snapshot alone keeps the invariant when it keeps
what is known, and when what comes into use is known or in the snapshot. -/
private theorem accounted_of_known (inv : Accounted device chain)
    (sound : (after.view device).Sound)
    (snapshots : snapshot (after.history device) = snapshot (chain.history device))
    (tracing : ∀ other, chain.isTracing other = true → after.isTracing other = true)
    (traced : ∀ source remote, after.call.point = .traced source remote →
      after.isTracing source.devT = true)
    (filling : after.call.point.Fills device → chain.call.point.Fills device)
    (rest : atRest chain.sync.pc = true → atRest after.sync.pc = true)
    (known : ∀ taken, snapshot (chain.history device) = some taken →
      ∀ sector, (chain.view device).Known sector → (after.view device).Known sector)
    (used : ∀ taken, snapshot (chain.history device) = some taken →
      ∀ sector, after.InUse device sector →
        chain.InUse device sector ∨ (after.view device).Known sector ∨
          ∃ interval ∈ taken.1, sector ∈ interval) : Accounted device after := by
  refine ⟨sound, traced, fun fills => ?_, ?_, fun working => ?_, ?_, ?_⟩
  · obtain ⟨running, resting⟩ := inv.filling (filling fills)
    exact ⟨tracing device running, rest resting⟩
  · intro taken found
    rw [snapshots] at found
    exact tracing device (inv.running taken found)
  · rw [SnapshotAdded, snapshots]
    refine inv.busy ?_
    by_contra resting
    simp [rest (by simpa using resting)] at working
  · intro taken found interval member sector inside
    rw [snapshots] at found
    exact known taken found sector (inv.added taken found interval member sector inside)
  · intro taken found sector now
    rw [snapshots] at found
    rcases used taken found sector now with before | fresh | listed
    · exact (inv.owed taken found sector before).imp_left (known taken found sector)
    · exact Or.inl fresh
    · exact Or.inr listed

/-- A step that the device does not see. -/
private theorem accounted_elsewhere (inv : Accounted device chain)
    (view : after.view device = chain.view device)
    (snapshots : snapshot (after.history device) = snapshot (chain.history device))
    (tracing : ∀ other, chain.isTracing other = true → after.isTracing other = true)
    (traced : ∀ source remote, after.call.point = .traced source remote →
      after.isTracing source.devT = true)
    (filling : after.call.point.Fills device → chain.call.point.Fills device)
    (used : ∀ sector, after.InUse device sector → chain.InUse device sector) :
    Accounted device after := by
  have sync : after.sync = chain.sync := congrArg SyncState.sync view
  exact accounted_of_known inv (view ▸ inv.sound) snapshots tracing traced filling
    (by rw [sync]; exact id) (fun _ _ sector before => view ▸ before)
    fun _ _ sector now => Or.inl (used sector now)

/-- A step of the device that the synchronizer would see as well. -/
private theorem accounted_device {call : CreationCall β} {e : DeviceEvent β}
    (inv : Accounted device chain)
    (moved : (chain.view device).step (.device e) =
      some (Chain.view device { chain with call := call }))
    (point : call.point = chain.call.point)
    (tracing : ∀ other, call.builder.sectorManager.isTracing other = chain.isTracing other)
    (history : call.builder.history = chain.call.builder.history)
    (used : ∀ sector, (call.disks device).InUse sector → chain.InUse device sector ∨
      (Chain.view device { chain with call := call }).Known sector) :
    Accounted device { chain with call := call } := by
  refine accounted_of_known inv (syncSound_step inv.sound moved) ?_ ?_ ?_ ?_ id ?_ ?_
  · simp only [Chain.history, history]
  · exact fun other before => (tracing other).trans before
  · intro source remote here
    exact (tracing _).trans (inv.traced source remote (point ▸ here))
  · exact fun fills => point ▸ fills
  · exact fun _ _ sector =>
      sectorKnown_step inv.sound (fun interrupted => absurd interrupted id) moved
  · exact fun _ _ sector now => (used sector now).imp_right Or.inl

private theorem accounted_write {call : CreationCall β} {written : DevT} {trace : BlkIoTrace}
    {contents : ℕ → β} {allocated : List SectorInterval} (inv : Accounted device chain)
    (taken : chain.call.write written trace contents allocated = some call) :
    Accounted device { chain with call := call } := by
  obtain ⟨_, result, moved, rest⟩ := CreationCall.write_cases taken
  have point : call.point = chain.call.point := by rw [rest]
  have builder : call.builder = chain.call.builder := by rw [rest]
  by_cases same : device = written
  · subst same
    cases tracing : chain.isTracing device with
    | true =>
        have step := view_device chain moved
          (CreationCall.device_write tracing moved taken)
        refine accounted_device inv step point (by simp [builder, Chain.isTracing])
          (by rw [builder]) fun sector now => ?_
        refine (inUse_write tracing taken now).imp_right fun covered => Or.inr (Or.inl ?_)
        exact covered
    | false =>
        -- nothing reports the write, and nothing is promised about the device
        obtain ⟨nothing, resting⟩ := untraced inv tracing
        have unseen : ∀ taken, snapshot (chain.history device) ≠ some taken := by simp [nothing]
        refine accounted_of_known inv (sound_atRest ?_ resting) ?_ ?_ ?_ ?_ id
          (fun taken found => absurd found (unseen taken))
          fun taken found => absurd found (unseen taken)
        · simpa only [Chain.view, CreationCall.device, builder] using inv.sound.forward
        · simp only [Chain.history, builder]
        · simp [Chain.isTracing, builder]
        · simpa only [Chain.isTracing, builder, point] using inv.traced
        · simp [point]
  · have elsewhere : call.device device = chain.call.device device := by
      rw [rest]
      exact CreationCall.device_of_ne same _
    refine accounted_elsewhere inv (view_of_device elsewhere) ?_ ?_ ?_ ?_ ?_
    · simp only [Chain.history, builder]
    · simp [Chain.isTracing, builder]
    · simpa only [Chain.isTracing, builder, point] using inv.traced
    · simp [point]
    · simp [Chain.InUse, rest, Function.update_of_ne same]

private theorem accounted_change {changed : DevT} {inUse : SectorSet}
    (inv : Accounted device chain)
    (careful : chain.Careful device (.call (.change changed inUse))) :
    Accounted device { chain with call := chain.call.change changed inUse } := by
  have view : Chain.view device { chain with call := chain.call.change changed inUse } =
      chain.view device := by
    refine view_of_device ?_
    by_cases same : device = changed
    · simp [CreationCall.change, CreationCall.device, same]
    · exact CreationCall.device_of_ne same _
  refine accounted_of_known inv (view ▸ inv.sound) rfl (fun _ => id) inv.traced id id
    (fun _ _ sector before => view ▸ before) fun taken found sector now => ?_
  by_cases same : changed = device
  · subst same
    have member : (inUse.lookup sector).isSome = true := by
      simpa [Chain.InUse, CreationCall.change, Disk.InUse] using now
    obtain ⟨value, recorded⟩ := Option.isSome_iff_exists.mp member
    obtain ⟨interval, segment, inside⟩ := inUse.exists_segment recorded
    exact (careful rfl taken found _ segment sector inside).imp_right Or.inr
  · simp only [Chain.InUse, CreationCall.change, Function.update_of_ne (Ne.symm same)] at now
    exact Or.inl now

private theorem accounted_deliver {call : CreationCall β} {reported : DevT} {index : ℕ}
    {now : TimeT} (inv : Accounted device chain)
    (taken : chain.call.deliver reported index now = some call) :
    Accounted device { chain with call := call } := by
  obtain ⟨handed, moved, rest⟩ := CreationCall.deliver_cases taken
  have point : call.point = chain.call.point := by rw [rest]
  have history : call.builder.history = chain.call.builder.history := by rw [rest]
  have tracing (other : DevT) :
      call.builder.sectorManager.isTracing other = chain.isTracing other := by
    rw [rest, UnsyncedSectorManager.isTracing_changeStore, Chain.isTracing]
  have used (sector : ℕ) : (call.disks device).InUse sector ↔ chain.InUse device sector := by
    rw [rest]
    by_cases same : device = reported
    · simp [Chain.InUse, Disk.InUse, same]
    · simp [Chain.InUse, Function.update_of_ne same]
  by_cases same : device = reported
  · subst same
    have step := view_device chain moved (CreationCall.device_deliver moved taken)
    exact accounted_device inv step point tracing history
      fun sector now => Or.inl ((used sector).mp now)
  · refine accounted_elsewhere inv (view_of_device
      (CreationCall.device_deliver_of_ne same taken)) ?_ ?_ ?_ ?_ fun sector => (used sector).mp
    · simp only [Chain.history, history]
    · exact fun other before => (tracing other).trans before
    · intro source remote here
      exact (tracing _).trans (inv.traced source remote (point ▸ here))
    · simp [point]

/-- The store of the device is cleared, and the account begins again. -/
private theorem accounted_cleared {source remote : BlockDevice} (inv : Accounted device chain)
    (here : chain.call.point = .traced source remote)
    (careful : source.devT = device → atRest chain.sync.pc = true) :
    Accounted device { chain with call := { chain.call with
      builder := chain.call.builder.clearIntervals source.devT
      point := .cleared source remote } } := by
  have tracing := inv.traced source remote here
  by_cases own : source.devT = device
  · subst own
    have nothing : snapshot ((chain.call.builder.clearIntervals source.devT).history
        source.devT) = none := by
      simp [BackupBuilder.clearIntervals, BackupBuilder.record, noteAction]
    have running : (chain.call.builder.clearIntervals source.devT).sectorManager.isTracing
        source.devT = true := by
      simpa [BackupBuilder.clearIntervals, BackupBuilder.record, Chain.isTracing] using tracing
    have resting := careful rfl
    refine ⟨sound_atRest ?_ resting, by simp, fun _ => ⟨running, resting⟩, ?_, ?_, ?_, ?_⟩
    · have forward := inv.sound.forward
      simpa [Chain.view, CreationCall.device, BackupBuilder.clearIntervals,
        BackupBuilder.record, UnsyncedSectorManager.storeOf_changeStore,
        UnsyncedSectorStore.clearIntervals] using forward
    · exact fun taken found => by simp [Chain.history, nothing] at found
    · exact fun working => by simp [resting] at working
    · exact fun taken found => by simp [Chain.history, nothing] at found
    · exact fun taken found => by simp [Chain.history, nothing] at found
  · have other : device ≠ source.devT := Ne.symm own
    refine accounted_elsewhere inv (view_of_device ?_) ?_ ?_ (by simp) ?_ fun _ => id
    · simp [CreationCall.device, BackupBuilder.clearIntervals, BackupBuilder.record,
        UnsyncedSectorManager.storeOf_changeStore, other]
    · simp [Chain.history, BackupBuilder.clearIntervals, BackupBuilder.record,
        Function.update_of_ne other]
    · simp [Chain.isTracing, BackupBuilder.clearIntervals, BackupBuilder.record]
    · exact fun fills => absurd fills own

/-- The snapshot is taken: everything in use is listed in it. -/
private theorem accounted_answered {source remote : BlockDevice} (inv : Accounted device chain)
    (here : chain.call.point = .cleared source remote) :
    Accounted device { chain with call := { chain.call with
      builder := chain.call.builder.record source.devT
        [.inUse (chain.call.disks source.devT).intervals]
      point := .seeding source remote (chain.call.disks source.devT).intervals
        (chain.call.disks source.devT).intervals } } := by
  by_cases own : source.devT = device
  · subst own
    have fills := inv.filling (by rw [here]; rfl)
    have fresh : snapshot ((chain.call.builder.record source.devT
        [.inUse (chain.call.disks source.devT).intervals]).history source.devT) =
        some ((chain.call.disks source.devT).intervals, []) := by
      simp [BackupBuilder.record, noteAction]
    refine ⟨⟨inv.sound.forward, inv.sound.placed, inv.sound.buffered⟩, by simp, fun _ => fills,
      fun _ _ => fills.1, fun working => ?_, ?_, ?_⟩
    · exact absurd fills.2 (by simpa using working)
    · intro taken found
      obtain rfl := Option.some.inj (fresh.symm.trans found)
      simp
    · intro taken found sector now
      obtain rfl := Option.some.inj (fresh.symm.trans found)
      obtain ⟨value, recorded⟩ := Option.isSome_iff_exists.mp now
      obtain ⟨interval, segment, inside⟩ :=
        (chain.call.disks source.devT).inUse.exists_segment recorded
      exact Or.inr ⟨interval, List.mem_map.mpr ⟨_, segment, rfl⟩, inside⟩
  · have other : device ≠ source.devT := Ne.symm own
    refine accounted_elsewhere inv (view_of_device rfl) ?_ (fun _ => id) (by simp) ?_ fun _ => id
    · simp [Chain.history, BackupBuilder.record, Function.update_of_ne other]
    · exact fun fills => absurd fills own

/-- One more interval of the snapshot is in the store. -/
private theorem accounted_grown {call : CreationCall β} {interval : SectorInterval}
    (inv : Accounted device chain) (resting : atRest chain.sync.pc = true)
    (store : call.builder.sectorManager.storeOf device =
      (chain.call.builder.sectorManager.storeOf device).addNonVolatileInterval interval)
    (disks : call.disks = chain.call.disks)
    (untraced : ∀ source remote, call.point ≠ .traced source remote)
    (history : snapshot (call.builder.history device) =
      (snapshot (chain.history device)).map fun both => (both.1, both.2 ++ [interval]))
    (tracing : call.builder.sectorManager.isTracing device = true) :
    Accounted device { chain with call := call } := by
  have known (sector : ℕ) (before : (chain.view device).Known sector) :
      (Chain.view device { chain with call := call }).Known sector := by
    rcases before with equal | covered | pending
    · left
      simpa only [Chain.view, CreationCall.device, disks] using equal
    · refine Or.inr (Or.inl (covered.imp (fun unsynced => ?_) fun flying => ?_))
      · simp only [Chain.view, CreationCall.device, store]
        exact (epochsGrow_addNonVolatileInterval _ interval).unsynced unsynced
      · simpa only [Chain.view, CreationCall.device, disks] using flying
    · exact absurd pending (notYetWritten_atRest resting sector)
  have fresh (sector : ℕ) (inside : sector ∈ interval) :
      (Chain.view device { chain with call := call }).Known sector := by
    refine Or.inr (Or.inl (Or.inl ?_))
    simp [Chain.view, CreationCall.device, store, UnsyncedSectorStore.Unsynced, inside]
  have split {taken : List SectorInterval × List SectorInterval}
      (found : snapshot (call.builder.history device) = some taken) :
      ∃ added, snapshot (chain.history device) = some (taken.1, added) ∧
        taken.2 = added ++ [interval] := by
    rw [history] at found
    obtain ⟨before, earlier, rfl⟩ := Option.map_eq_some_iff.mp found
    exact ⟨before.2, earlier, rfl⟩
  refine ⟨sound_atRest ?_ resting, fun source remote here => absurd here (untraced source remote),
    fun _ => ⟨tracing, resting⟩, fun _ _ => tracing, fun working => ?_, ?_, ?_⟩
  · simp only [Chain.view, CreationCall.device, store]
    exact inv.sound.forward
  · exact absurd resting (by simpa using working)
  · intro taken found member listed sector inside
    obtain ⟨added, earlier, grown⟩ := split found
    rw [grown] at listed
    rcases List.mem_append.mp listed with old | new
    · exact known sector (inv.added _ earlier member old sector inside)
    · rw [List.mem_singleton.mp new] at inside
      exact fresh sector inside
  · intro taken found sector now
    obtain ⟨added, earlier, _⟩ := split found
    rw [Chain.InUse, disks] at now
    exact (inv.owed _ earlier sector now).imp_left (known sector)

private theorem accounted_added {source remote : BlockDevice}
    {inUseSet remaining : List SectorInterval} {interval : SectorInterval}
    (inv : Accounted device chain)
    (here : chain.call.point = .seeding source remote inUseSet (interval :: remaining)) :
    Accounted device { chain with call := { chain.call with
      builder := chain.call.builder.addNonVolatileInterval source.devT interval
      point := .seeding source remote inUseSet remaining } } := by
  by_cases own : source.devT = device
  · subst own
    obtain ⟨running, resting⟩ := inv.filling (by rw [here]; rfl)
    have store : (chain.call.builder.addNonVolatileInterval source.devT
        interval).sectorManager.storeOf source.devT =
        (chain.call.builder.sectorManager.storeOf source.devT).addNonVolatileInterval
          interval := by
      simp [BackupBuilder.addNonVolatileInterval, BackupBuilder.record,
        UnsyncedSectorManager.storeOf_changeStore]
    have history : snapshot ((chain.call.builder.addNonVolatileInterval source.devT
        interval).history source.devT) = (snapshot (chain.history source.devT)).map
          fun both => (both.1, both.2 ++ [interval]) := by
      simp [BackupBuilder.addNonVolatileInterval, BackupBuilder.record, noteAction,
        Chain.history]
    have tracing : (chain.call.builder.addNonVolatileInterval source.devT
        interval).sectorManager.isTracing source.devT = true := by
      simpa [BackupBuilder.addNonVolatileInterval, BackupBuilder.record, Chain.isTracing]
        using running
    exact accounted_grown inv resting store rfl (by simp) history tracing
  · have other : device ≠ source.devT := Ne.symm own
    refine accounted_elsewhere inv (view_of_device ?_) ?_ ?_ (by simp) ?_ fun _ => id
    · simp [CreationCall.device, BackupBuilder.addNonVolatileInterval, BackupBuilder.record,
        UnsyncedSectorManager.storeOf_changeStore, other]
    · simp [Chain.history, BackupBuilder.addNonVolatileInterval, BackupBuilder.record,
        Function.update_of_ne other]
    · simp [Chain.isTracing, BackupBuilder.addNonVolatileInterval, BackupBuilder.record]
    · exact fun fills => absurd fills own

private theorem accounted_proceed {call : CreationCall β} {world : Surroundings}
    (inv : Accounted device chain)
    (careful : chain.Careful device (.call (.proceed world)))
    (taken : chain.call.proceed chain.request.1 chain.request.2 world = some call) :
    Accounted device { chain with call := call } := by
  cases callEffect_of_proceed taken with
  | passed spared traced elsewhere =>
      refine accounted_elsewhere inv (view_of_device ?_) (spared.snapshots device)
        spared.tracing traced (fun fills => absurd fills (elsewhere device)) fun _ => id
      simp only [CreationCall.device, spared.stores]
  | cleared full here =>
      refine accounted_cleared inv here fun own => careful ?_
      simp only [Chain.clears, here]
      exact ⟨full, own⟩
  | answered here => exact accounted_answered inv here
  | added here => exact accounted_added inv here

private theorem accounted_start {blockSize : BlockSize} {coordinator : BackupCoordinator}
    {synchronizer : NewSynchronizer} (inv : Accounted device chain)
    (here : chain.call.point = .returned (.ok synchronizer))
    (resting : atRest chain.sync.pc = true) (whole : SnapshotAdded (chain.history device)) :
    Accounted device { chain with
      fresh := false
      coordinator := coordinator
      sync := .new blockSize chain.sync.destination } := by
  have known (sector : ℕ) (before : (chain.view device).Known sector) :
      (Chain.view device { chain with
        fresh := false
        coordinator := coordinator
        sync := .new blockSize chain.sync.destination }).Known sector :=
    before.imp id fun rest => rest.imp id fun pending =>
      absurd pending (notYetWritten_atRest resting sector)
  refine ⟨⟨inv.sound.forward, trivial, trivial⟩, inv.traced, ?_, inv.running, fun _ => whole,
    ?_, ?_⟩
  · intro fills
    rw [here] at fills
    exact absurd fills id
  · intro taken found interval member sector inside
    exact known sector (inv.added taken found interval member sector inside)
  · intro taken found sector now
    exact (inv.owed taken found sector now).imp_left (known sector)

/-- A step of `DoSync`, or of the thread that it started. -/
private theorem accounted_put {t : SyncState β} {e : Event β} (inv : Accounted device chain)
    (keeps : (chain.view device).ForgetsNothing e) (taken : (chain.view device).step e = some t)
    (view : (chain.put device t).view device = t)
    (rest : atRest chain.sync.pc = true → atRest t.sync.pc = true) :
    Accounted device (chain.put device t) := by
  have tracing (other : DevT) :
      (chain.put device t).isTracing other = chain.isTracing other := by
    simp [Chain.put, Chain.isTracing]
  have sound : ((chain.put device t).view device).Sound := by
    rw [view]
    exact syncSound_step inv.sound taken
  refine accounted_of_known inv sound rfl ?_ ?_ id rest ?_ fun _ _ sector now => Or.inl now
  · exact fun other before => (tracing other).trans before
  · exact fun source remote here => (tracing _).trans (inv.traced source remote here)
  · intro _ _ sector before
    rw [view]
    exact sectorKnown_step inv.sound keeps taken before

/-- One step keeps the invariant. -/
theorem accounted_step {e : ChainEvent β} (inv : Accounted device chain)
    (careful : chain.Careful device e) (taken : chain.step device e = some after) :
    Accounted device after := by
  cases e with
  | enter vector isFull =>
      cases here : chain.call.point with
      | returned result =>
          simp only [Chain.step, here, Option.some.injEq] at taken
          subst taken
          exact accounted_elsewhere inv rfl rfl (fun _ => id) (by simp)
            (fun fills => absurd fills id) fun _ => id
      | _ => simp [Chain.step, here] at taken
  | call e =>
      obtain ⟨call, moved, rfl⟩ := Option.map_eq_some_iff.mp taken
      cases e with
      | write written trace contents allocated => exact accounted_write inv moved
      | change changed inUse =>
          obtain rfl := Option.some.inj moved
          exact accounted_change inv careful
      | deliver reported index now => exact accounted_deliver inv moved
      | proceed world => exact accounted_proceed inv careful moved
  | start blockSize coordinator =>
      cases here : chain.call.point with
      | returned result =>
          cases result with
          | error what => simp [Chain.step, here] at taken
          | ok synchronizer =>
              simp only [Chain.step, here] at taken
              split_ifs at taken with permitted
              obtain rfl := Option.some.inj taken
              exact accounted_start inv here permitted.2.2 careful
      | _ => simp [Chain.step, here] at taken
  | sync e =>
      obtain ⟨t, moved, rfl⟩ := Option.map_eq_some_iff.mp taken
      have cases := SyncState.doSync_cases moved
      obtain ⟨sectors, inFlight⟩ := device_doSync cases
      have working : atRest chain.sync.pc = false := working_of_doSync cases
      exact accounted_put inv careful moved (view_put sectors inFlight)
        fun resting => by simp [resting] at working
  | unfreeze e =>
      obtain ⟨t, moved, rfl⟩ := Option.map_eq_some_iff.mp taken
      obtain ⟨frozen, thread, same⟩ := SyncState.unfreeze_cases moved
      refine accounted_put (e := .unfreeze e) inv (fun interrupted => absurd interrupted id) moved
        (view_put ?_ ?_) ?_
      all_goals rw [same]
      exact id
  | others coordinator =>
      obtain rfl := Option.some.inj taken
      exact ⟨⟨inv.sound.forward, inv.sound.placed, inv.sound.buffered⟩, inv.traced, inv.filling,
        inv.running, inv.busy, inv.added, inv.owed⟩

end Steps

section Runs

variable {β : Type*} (device : DevT) (vector : Vector) (isFull : Bool) (disks : DevT → Disk β)
  (blockSize : BlockSize) (image : ℕ → β)

theorem accounted_new : Accounted device (Chain.new vector isFull disks blockSize image) := by
  have nothing : snapshot ((Chain.new vector isFull disks blockSize image).history device) =
      none := rfl
  refine ⟨sound_atRest ?_ rfl, nofun, fun fills => absurd fills id, ?_, fun working => ?_, ?_, ?_⟩
  · change (0 : ℤ) ≤ UnsyncedSectorManager.volatileSeconds
    decide
  · exact fun taken found => by simp [nothing] at found
  · cases working
  · exact fun taken found => by simp [nothing] at found
  · exact fun taken found => by simp [nothing] at found

end Runs

section Example

/-- Three sectors of the disk are in use. -/
def threeInUse : DevT → Disk ℕ := fun _ =>
  ⟨fun sector => if sector < 3 then 1 else 0, SectorSet.add .empty ⟨0, 3⟩, []⟩

private def asked : ChainEvent ℕ := .call (.proceed (diskWorld (.ok [⟨0, 3⟩])))

/-- A full call with a write to sector 2 before its interval is added. -/
def seedWithWrite : List (ChainEvent ℕ) :=
  [asked, asked, asked, asked,
    .call (.write 8 ⟨2, 512, blkTcAct blkTcWrite⟩ (fun _ => 7) []), asked, asked,
    .call (.deliver 8 0 900)]

/-- The first rounds of a sync, up to the copy of the second of two blocks. -/
def firstBlock : List (ChainEvent ℕ) :=
  [.start twoSectors (.new 1), .sync (.openDevices none), .sync .isCancelled,
    .sync (.unsyncedSectorCount 1000 1000), .sync (.beginRequiredFreezeBlock (.froze true)),
    .unfreeze .setFrozen, .sync .recount, .sync .endRequiredFreezeBlock, .sync .testComplete,
    .unfreeze .clearFrozen, .unfreeze (.thaw false), .sync (.getInterval 1003),
    .sync .removeInterval, .sync (.pread .full), .sync (.pwrite .full)]

/-- Steps that are careful because nothing goes wrong in them. -/
def Chain.calm {β : Type*} (device : DevT) (chain : Chain β) : ChainEvent β → Bool
  | .call (.change _ _) => false
  | .call (.proceed _) => atRest chain.sync.pc
  | .start _ _ => decide (SnapshotAdded (chain.history device))
  | .sync e => ((chain.view device).doSync e).any fun t => !t.sync.pc.failed
  | _ => true

theorem careful_of_calm {β : Type*} {device : DevT} (chain : Chain β) (e : ChainEvent β)
    (calm : chain.calm device e = true) : chain.Careful device e := by
  cases e with
  | call e =>
      cases e with
      | change => cases calm
      | proceed => exact fun _ => calm
      | _ => trivial
  | start blockSize coordinator =>
      have whole : SnapshotAdded (chain.history device) := of_decide_eq_true calm
      exact whole
  | sync e =>
      obtain ⟨t, taken, working⟩ := (Option.any_eq_true _ _).mp calm
      exact fun interrupted => absurd interrupted
        (working_step (e := .sync e) taken (by simpa using working)).2
  | _ => trivial

end Example

end LinuxAgent.Backup
