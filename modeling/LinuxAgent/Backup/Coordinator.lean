/- module: LinuxAgent/Backup/Coordinator
   source: backup/backup_coordinator.{h,cc}, backup_status_tracker/backup_error.h
   digest: The coordinator's calls, and its counter under clients that keep the contract. -/

import LinuxAgent.Lib.Run

/-!
The coordinator counts the workers that still have something to synchronize.
Its calls hold its mutex, so a call is one step. `WaitUntilFinished` is the step
in which it returns: `wait_for` answers the condition as it is at that moment.

The second half states the contract of the header for any number of clients. A
client signals that it is finished while it is active, and `SignalMoreWorkToDo`
undoes a prior `SignalFinished`, so it is called by a client that is not active
and makes it active again when it returns true.
-/

set_option autoImplicit false
set_option relaxedAutoImplicit false

namespace LinuxAgent.Backup

open LinuxAgent.Lib.Run

structure BackupError where
  errorText : String
  errorSource : String := ""
  deriving DecidableEq

/-- `count_` is an unsigned int, so it wraps. -/
structure BackupCoordinator where
  count : UInt32
  cancelled : Bool
  fatalErrors : List BackupError
  deriving DecidableEq

namespace BackupCoordinator

def new (numWorkers : ℕ) : BackupCoordinator := ⟨UInt32.ofNat numWorkers, false, []⟩

def signalFinished (coordinator : BackupCoordinator) : BackupCoordinator :=
  { coordinator with count := coordinator.count - 1 }

/-- The answer and the coordinator after the call. -/
def signalMoreWorkToDo (coordinator : BackupCoordinator) : Bool × BackupCoordinator :=
  if coordinator.cancelled || coordinator.count == 0 then (false, coordinator)
  else (true, { coordinator with count := coordinator.count + 1 })

def addFatalError (coordinator : BackupCoordinator) (backupError : BackupError) :
    BackupCoordinator :=
  { coordinator with
    fatalErrors := coordinator.fatalErrors ++ [backupError]
    cancelled := true }

def getFatalErrors (coordinator : BackupCoordinator) : List BackupError :=
  coordinator.fatalErrors

def cancel (coordinator : BackupCoordinator) : BackupCoordinator :=
  { coordinator with cancelled := true }

def isCancelled (coordinator : BackupCoordinator) : Bool := coordinator.cancelled

/-- The condition that `WaitUntilFinished` waits for. -/
def condition (coordinator : BackupCoordinator) : Bool :=
  coordinator.count == 0 || coordinator.cancelled

/-- Only positive timeouts are permitted; the check aborts on others. -/
def waitUntilFinished (coordinator : BackupCoordinator) (timeoutMillis : ℤ) : Option Bool :=
  if timeoutMillis > 0 then some coordinator.condition else none

section Calls

variable (coordinator : BackupCoordinator)

theorem toNat_count_new {numWorkers : ℕ} (fits : numWorkers < 2 ^ 31) :
    (new numWorkers).count.toNat = numWorkers := by
  simp only [new, UInt32.toNat_ofNat']
  omega

theorem count_signalFinished (positive : 0 < coordinator.count.toNat) :
    coordinator.signalFinished.count.toNat + 1 = coordinator.count.toNat := by
  have wide := coordinator.count.toNat_lt
  simp only [signalFinished, UInt32.toNat_sub, UInt32.toNat_one]
  omega

theorem signalMoreWorkToDo_fst :
    coordinator.signalMoreWorkToDo.1 = true ↔
      coordinator.cancelled = false ∧ 0 < coordinator.count.toNat := by
  have zero : (coordinator.count == 0) = true ↔ coordinator.count.toNat = 0 := by
    rw [beq_iff_eq, ← UInt32.toNat_inj, UInt32.toNat_zero]
  unfold signalMoreWorkToDo
  split_ifs with refused
  · simp only [Bool.or_eq_true, zero] at refused
    simp only [false_iff, not_and]
    intro going
    simp only [going, Bool.false_eq_true, false_or] at refused
    omega
  · simp only [Bool.or_eq_true, zero, not_or, Bool.not_eq_true] at refused
    simp only [refused.1, true_and, true_iff]
    omega

/-- A refused client leaves the coordinator as it is. -/
theorem signalMoreWorkToDo_refused (refused : coordinator.signalMoreWorkToDo.1 = false) :
    coordinator.signalMoreWorkToDo.2 = coordinator := by
  unfold signalMoreWorkToDo at refused ⊢
  split_ifs at refused ⊢
  rfl

theorem signalMoreWorkToDo_granted (granted : coordinator.signalMoreWorkToDo.1 = true) :
    coordinator.signalMoreWorkToDo.2 = { coordinator with count := coordinator.count + 1 } := by
  unfold signalMoreWorkToDo at granted ⊢
  split_ifs at granted ⊢
  rfl

theorem condition_iff :
    coordinator.condition = true ↔
      coordinator.count.toNat = 0 ∨ coordinator.cancelled = true := by
  rw [condition, Bool.or_eq_true, beq_iff_eq, ← UInt32.toNat_inj, UInt32.toNat_zero]

end Calls

end BackupCoordinator

section Contract

/-- A coordinator with its clients, each active or not. -/
structure Clients (n : ℕ) where
  coordinator : BackupCoordinator
  active : Fin n → Bool

/-- A call that some client makes. -/
inductive ClientCall (n : ℕ) where
  | signalFinished (client : Fin n)
  | signalMoreWorkToDo (client : Fin n)
  | addFatalError (client : Fin n) (backupError : BackupError)
  | cancel (client : Fin n)
  | waitUntilFinished (client : Fin n) (timeoutMillis : ℤ)
  deriving DecidableEq

variable {n : ℕ}

namespace Clients

def start (n : ℕ) : Clients n := ⟨.new n, fun _ => true⟩

/-- The calls that the contract permits, with their effect on the calling client. -/
def call (clients : Clients n) : ClientCall n → Option (Clients n)
  | .signalFinished client =>
      if clients.active client then
        some ⟨clients.coordinator.signalFinished, Function.update clients.active client false⟩
      else none
  | .signalMoreWorkToDo client =>
      if clients.active client then none
      else
        let (granted, coordinator) := clients.coordinator.signalMoreWorkToDo
        some ⟨coordinator, Function.update clients.active client granted⟩
  | .addFatalError _ backupError =>
      some { clients with coordinator := clients.coordinator.addFatalError backupError }
  | .cancel _ => some { clients with coordinator := clients.coordinator.cancel }
  | .waitUntilFinished _ timeoutMillis =>
      (clients.coordinator.waitUntilFinished timeoutMillis).map fun _ => clients

/-- The counter is the number of active clients. -/
def Counted (clients : Clients n) : Prop :=
  clients.coordinator.count.toNat = tally id clients.active

section Steps

variable {clients after : Clients n} {client : Fin n} {c : ClientCall n}

theorem counted_start (fits : n < 2 ^ 31) : (start n).Counted := by
  simp only [Counted, start, BackupCoordinator.toNat_count_new fits]
  rw [tally_const_true _ _ fun _ => rfl, Fintype.card_fin]

private theorem signalFinished_eq_some :
    clients.call (.signalFinished client) = some after ↔
      clients.active client = true ∧
        after = ⟨clients.coordinator.signalFinished,
          Function.update clients.active client false⟩ := by
  simp only [call]
  split_ifs with active <;> simp [active, eq_comm]

private theorem signalMoreWorkToDo_eq_some :
    clients.call (.signalMoreWorkToDo client) = some after ↔
      clients.active client = false ∧
        after = ⟨clients.coordinator.signalMoreWorkToDo.2,
          Function.update clients.active client clients.coordinator.signalMoreWorkToDo.1⟩ := by
  simp only [call]
  split_ifs with active <;> simp [active, eq_comm]

private theorem count_finished (counted : clients.Counted)
    (taken : clients.call (.signalFinished client) = some after) :
    after.coordinator.count.toNat + 1 = clients.coordinator.count.toNat := by
  obtain ⟨active, rfl⟩ := signalFinished_eq_some.mp taken
  apply BackupCoordinator.count_signalFinished
  rw [counted]
  exact tally_pos active

private theorem count_granted (fits : n < 2 ^ 31) (counted : clients.Counted)
    (taken : clients.call (.signalMoreWorkToDo client) = some after)
    (granted : clients.coordinator.signalMoreWorkToDo.1 = true) :
    after.coordinator.count.toNat = clients.coordinator.count.toNat + 1 := by
  obtain ⟨_, rfl⟩ := signalMoreWorkToDo_eq_some.mp taken
  have few := tally_le_card id clients.active
  rw [Fintype.card_fin, ← counted] at few
  rw [BackupCoordinator.signalMoreWorkToDo_granted _ granted]
  simp only [UInt32.toNat_add, UInt32.toNat_one]
  omega

/-- Each permitted call keeps the counter equal to the number of active clients. -/
theorem counted_call (fits : n < 2 ^ 31) (counted : clients.Counted)
    (taken : clients.call c = some after) : after.Counted := by
  cases c with
  | signalFinished client =>
      have fewer := count_finished counted taken
      obtain ⟨active, rfl⟩ := signalFinished_eq_some.mp taken
      have members := tally_update id clients.active client false
      simp only [id_eq, active, Bool.toNat_true, Bool.toNat_false] at members
      unfold Counted at counted ⊢
      dsimp only at fewer ⊢
      omega
  | signalMoreWorkToDo client =>
      cases granted : clients.coordinator.signalMoreWorkToDo.1 with
      | false =>
          obtain ⟨inactive, rfl⟩ := signalMoreWorkToDo_eq_some.mp taken
          rw [granted, BackupCoordinator.signalMoreWorkToDo_refused _ granted, ← inactive,
            Function.update_eq_self]
          exact counted
      | true =>
          have more := count_granted fits counted taken granted
          obtain ⟨inactive, rfl⟩ := signalMoreWorkToDo_eq_some.mp taken
          have members := tally_update id clients.active client true
          simp only [id_eq, inactive, Bool.toNat_true, Bool.toNat_false] at members
          unfold Counted at counted ⊢
          rw [granted] at more ⊢
          dsimp only at more ⊢
          omega
  | addFatalError client backupError =>
      obtain rfl := Option.some.inj taken
      exact counted
  | cancel client =>
      obtain rfl := Option.some.inj taken
      exact counted
  | waitUntilFinished client timeoutMillis =>
      obtain ⟨_, _, rfl⟩ := Option.map_eq_some_iff.mp taken
      exact counted

private theorem grants_iff (counted : clients.Counted) :
    clients.coordinator.signalMoreWorkToDo.1 = true ↔
      clients.coordinator.cancelled = false ∧ ∃ client, clients.active client = true := by
  rw [BackupCoordinator.signalMoreWorkToDo_fst, counted]
  exact and_congr_right fun _ =>
    ⟨fun positive => exists_of_tally_pos positive, fun ⟨_, active⟩ => tally_pos active⟩

/-- Once the backup is over, a call neither reopens it nor makes a client active. -/
theorem over_call (counted : clients.Counted)
    (isOver : clients.coordinator.condition = true) (taken : clients.call c = some after) :
    after.coordinator.condition = true ∧
      ∀ client, after.active client = true → clients.active client = true := by
  rw [BackupCoordinator.condition_iff] at isOver ⊢
  cases c with
  | signalFinished client =>
      obtain ⟨active, rfl⟩ := signalFinished_eq_some.mp taken
      have positive := tally_pos (p := id) active
      rw [counted] at isOver
      refine ⟨Or.inr (isOver.resolve_left (by omega)), fun other remains => ?_⟩
      by_cases same : other = client
      · exact same ▸ active
      · simpa [same] using remains
  | signalMoreWorkToDo client =>
      obtain ⟨inactive, rfl⟩ := signalMoreWorkToDo_eq_some.mp taken
      have refused : clients.coordinator.signalMoreWorkToDo.1 = false := by
        rw [Bool.eq_false_iff, Ne, BackupCoordinator.signalMoreWorkToDo_fst]
        rintro ⟨going, positive⟩
        rcases isOver with zero | cancelled
        · omega
        · simp [going] at cancelled
      rw [refused, BackupCoordinator.signalMoreWorkToDo_refused _ refused, ← inactive,
        Function.update_eq_self]
      exact ⟨isOver, fun _ active => active⟩
  | addFatalError client backupError =>
      obtain rfl := Option.some.inj taken
      exact ⟨Or.inr rfl, fun _ active => active⟩
  | cancel client =>
      obtain rfl := Option.some.inj taken
      exact ⟨Or.inr rfl, fun _ active => active⟩
  | waitUntilFinished client timeoutMillis =>
      obtain ⟨_, _, rfl⟩ := Option.map_eq_some_iff.mp taken
      exact ⟨isOver, fun _ active => active⟩

end Steps

end Clients

/-- The documented contract, for any number of clients that an int can count and
any sequence of permitted calls: the counter is the number of active clients and
no call wraps it, more work is granted exactly while nothing is cancelled and
some client is active, and the condition of `WaitUntilFinished` never becomes
false again, so every waiter sees it and no client becomes active again. -/
theorem coordinator_contract (n : ℕ) (fits : n < 2 ^ 31) (calls : List (ClientCall n))
    (clients : Clients n) (reached : run Clients.call (Clients.start n) calls = some clients) :
    clients.coordinator.count.toNat = tally id clients.active ∧
    (∀ client after, clients.call (.signalFinished client) = some after →
      after.coordinator.count.toNat + 1 = clients.coordinator.count.toNat) ∧
    (∀ client after, clients.call (.signalMoreWorkToDo client) = some after →
      clients.coordinator.signalMoreWorkToDo.1 = true →
      after.coordinator.count.toNat = clients.coordinator.count.toNat + 1) ∧
    (clients.coordinator.signalMoreWorkToDo.1 = true ↔
      clients.coordinator.cancelled = false ∧ ∃ client, clients.active client = true) ∧
    (clients.coordinator.condition = true →
      ∀ more later, run Clients.call clients more = some later →
        later.coordinator.condition = true ∧
        (∀ timeoutMillis > 0, later.coordinator.waitUntilFinished timeoutMillis = some true) ∧
        ∀ client, later.active client = true → clients.active client = true) := by
  have counted : clients.Counted :=
    invariant (fun _ _ _ => Clients.counted_call fits) (Clients.counted_start fits) reached
  refine ⟨counted, fun _ _ => Clients.count_finished counted,
    fun _ _ => Clients.count_granted fits counted, Clients.grants_iff counted, ?_⟩
  intro isOver more later continued
  have carried := invariant
    (I := fun t : Clients n => t.Counted ∧ t.coordinator.condition = true ∧
      ∀ client, t.active client = true → clients.active client = true)
    (fun _ _ _ inv taken =>
      have next := Clients.over_call inv.1 inv.2.1 taken
      ⟨Clients.counted_call fits inv.1 taken, next.1,
        fun client active => inv.2.2 client (next.2 client active)⟩)
    ⟨counted, isOver, fun _ active => active⟩ continued
  refine ⟨carried.2.1, fun timeoutMillis positive => ?_, carried.2.2⟩
  rw [BackupCoordinator.waitUntilFinished, if_pos positive, carried.2.1]

/-- The three clients of `SignalTest`, up to the last refused request for more work. -/
def signalTest : List (ClientCall 3) :=
  [.signalFinished 0, .signalFinished 1, .signalMoreWorkToDo 1, .signalFinished 1,
    .waitUntilFinished 2 100, .signalFinished 2, .signalMoreWorkToDo 0]

theorem coordinator_contract_signalTest :
    ∃ clients, run Clients.call (Clients.start 3) signalTest = some clients ∧
      clients.coordinator.count.toNat = tally id clients.active ∧
      clients.coordinator.condition = true := by
  cases reached : run Clients.call (Clients.start 3) signalTest with
  | none => exact absurd reached (by decide)
  | some clients =>
      have counted := (coordinator_contract 3 (by decide) signalTest clients reached).1
      have isOver : (run Clients.call (Clients.start 3) signalTest).all
          (fun clients => clients.coordinator.condition) = true := by decide
      rw [reached] at isOver
      exact ⟨clients, rfl, counted, isOver⟩

end Contract

end LinuxAgent.Backup
