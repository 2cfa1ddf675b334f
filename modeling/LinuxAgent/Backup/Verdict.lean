/- module: LinuxAgent/Backup/Verdict
   source: backup/backup.cc, backup/backup_coordinator.cc
   digest: The single terminal call of DoBackup, and what it says about the synchronizers. -/

import LinuxAgent.Backup.DoBackup

/-!
The errors in the coordinator are the exceptions that the sync threads have caught,
in the order of the catches. When the threads have been joined, every synchronizer
has left `DoSync` and every exception has been caught, so what `DoBackup` collects is
final. Its cancelled flag says whether somebody cancelled or something failed.
-/

set_option autoImplicit false
set_option relaxedAutoImplicit false

namespace LinuxAgent.Backup

open LinuxAgent.Lib.Run LinuxAgent.Synchronizer

section ErrorText

/-- The line that an error adds to the message. -/
def BackupError.entry (error : BackupError) : String :=
  error.errorSource ++ " : " ++ error.errorText

private theorem entry_ne_empty (error : BackupError) : error.entry ≠ "" := by
  simp [BackupError.entry, String.append_eq_empty_iff]

private theorem intercalate_append_cons (separator first second : String) (rest : List String) :
    separator.intercalate ((first ++ second) :: rest) =
      first ++ separator.intercalate (second :: rest) := by
  cases rest with
  | nil => simp
  | cons third rest =>
      simp only [String.intercalate_cons_of_ne_nil (List.cons_ne_nil third rest),
        String.append_assoc]

private theorem addErrorText_eq {text : String} {error : BackupError}
    (sourced : error.errorSource ≠ "") :
    addErrorText text error = if text = "" then error.entry else text ++ "\n" ++ error.entry := by
  unfold addErrorText BackupError.entry
  by_cases first : text = ""
  · simp [first, sourced]
  · simp [first, sourced, String.append_assoc]

private theorem foldl_addErrorText {text : String} (started : text ≠ "")
    (errors : List BackupError) (sourced : ∀ error ∈ errors, error.errorSource ≠ "") :
    errors.foldl addErrorText text = "\n".intercalate (text :: errors.map BackupError.entry) := by
  induction errors generalizing text with
  | nil => simp
  | cons error errors ih =>
      have here := sourced error List.mem_cons_self
      rw [List.foldl_cons, addErrorText_eq here, if_neg started,
        ih (by simp [String.append_eq_empty_iff, started])
          fun other member => sourced other (List.mem_cons_of_mem _ member),
        intercalate_append_cons, List.map_cons,
        String.intercalate_cons_of_ne_nil (List.cons_ne_nil _ _)]

/-- The message has one line per error, in order. -/
theorem errorText_eq (errors : List BackupError)
    (sourced : ∀ error ∈ errors, error.errorSource ≠ "") :
    errorText errors = "\n".intercalate (errors.map BackupError.entry) := by
  cases errors with
  | nil => simp [errorText]
  | cons error errors =>
      have here := sourced error List.mem_cons_self
      rw [errorText, List.foldl_cons, addErrorText_eq here, if_pos rfl, List.map_cons]
      exact foldl_addErrorText (entry_ne_empty error) errors
        fun other member => sourced other (List.mem_cons_of_mem _ member)

/-- The message is empty only without an error. -/
theorem errorText_eq_empty_iff (errors : List BackupError)
    (sourced : ∀ error ∈ errors, error.errorSource ≠ "") :
    errorText errors = "" ↔ errors = [] := by
  rw [errorText_eq errors sourced]
  cases errors with
  | nil => simp
  | cons error errors =>
      simp only [List.map_cons, List.cons_ne_nil, iff_false]
      cases errors with
      | nil => simpa using entry_ne_empty error
      | cons other errors =>
          rw [String.intercalate_cons_of_ne_nil (by simp)]
          simp [String.append_eq_empty_iff, entry_ne_empty error]

end ErrorText

section Account

variable {β : Type*} {n m : ℕ}

/-- The exception with which a synchronizer left `DoSync`. -/
def thrown : Pc β → Option String
  | .done (.threw what) => some what
  | _ => none

/-- The catches of a run in order, each with the source it reports. -/
def caught (events : List (BackupEvent β n m)) : List (Fin n × String) :=
  events.filterMap fun
    | .catchError i sourceUuid => some (i, sourceUuid.getD "uuid_error")
    | _ => none

/-- The error that a catch adds. -/
def BackupRun.errorOf (s : BackupRun β n m) (entry : Fin n × String) : BackupError where
  errorText := (thrown (s.syncs entry.1).pc).getD ""
  errorSource := entry.2

/-- The synchronizer leaves or has left because the backup was cancelled. -/
def quits : Pc β → Bool
  | .leaving .cancelled | .done .cancelled => true
  | _ => false

/-- What the coordinator holds after the events `past`. -/
structure Account (past : List (BackupEvent β n m)) (s : BackupRun β n m) : Prop where
  threads : s.Threads
  errors : s.coordinator.fatalErrors = (caught past).map s.errorOf
  once : ((caught past).map Prod.fst).Nodup
  throwers : ∀ j, j ∈ (caught past).map Prod.fst ↔
    s.exited j = true ∧ (thrown (s.syncs j).pc).isSome
  flag : s.coordinator.cancelled = true ↔ .cancel ∈ past ∨ caught past ≠ []
  quits : ∀ j, quits (s.syncs j).pc = true → s.coordinator.cancelled = true

section Steps

variable {source : Fin n → Fin m} {s t : BackupRun β n m} {past : List (BackupEvent β n m)}
  {e : BackupEvent β n m}

private theorem quits_of_plain {pc : Pc β} (plain : pc.plain = true) : quits pc = false := by
  cases pc <;> first | rfl | cases plain

private theorem quits_doSync {s t : SyncState β} {e : SyncEvent} (taken : s.DoSyncStep e t)
    (quit : quits t.sync.pc = true) : quits s.sync.pc = true ∨ s.coordinator.cancelled = true := by
  cases SyncState.arrival taken with
  | passing plain => exact absurd (quit.symm.trans (quits_of_plain plain)) (by simp)
  | writing block attempts here => cases here ▸ quit
  | recounted attempts pc own here => cases here ▸ quit
  | testing attempts pc here => cases here ▸ quit
  | leaving outcome here flag =>
      rw [here] at quit
      cases outcome <;> first | exact Or.inr (flag rfl) | cases quit
  | done outcome pc here =>
      subst here
      rw [pc]
      cases outcome <;> exact Or.inl quit
  | _ =>
      rw [‹t.sync.pc = _›] at quit
      cases quit

private theorem caught_concat :
    caught (past ++ [e]) = caught past ++ caught [e] := List.filterMap_append

/-- Apart from a cancellation and a catch, nothing touches the flag or the errors. -/
private theorem coordinator_step (taken : s.BackupStep source e t) :
    e = .cancel ∨ (∃ i sourceUuid, e = .catchError i sourceUuid) ∨
      (e ≠ .cancel ∧ caught [e] = [] ∧ t.coordinator.cancelled = s.coordinator.cancelled ∧
        t.coordinator.fatalErrors = s.coordinator.fatalErrors) := by
  cases taken with
  | synced i own u taken =>
      have frame := SyncState.coordinator_doSync (SyncState.doSync_cases taken)
      exact Or.inr (Or.inr ⟨by simp, rfl, frame.1, frame.2⟩)
  | unfroze i own u taken =>
      obtain ⟨frozen, thread, rfl⟩ := SyncState.unfreeze_cases taken
      exact Or.inr (Or.inr ⟨by simp, rfl, rfl, rfl⟩)
  | caught i what sourceUuid running pc => exact Or.inr (Or.inl ⟨i, sourceUuid, rfl⟩)
  | cancelled => exact Or.inl rfl
  | _ => exact Or.inr (Or.inr ⟨by simp, rfl, rfl, rfl⟩)

/-- The flag is never taken back. -/
private theorem cancelled_step (taken : s.BackupStep source e t)
    (cancelled : s.coordinator.cancelled = true) : t.coordinator.cancelled = true := by
  rcases coordinator_step taken with rfl | ⟨i, sourceUuid, rfl⟩ | ⟨_, _, same, _⟩
  · cases taken
    rfl
  · cases taken
    rfl
  · rw [same, cancelled]

/-- The exception of a thread that has ended does not change. -/
private theorem thrown_step (threads : s.Threads) (taken : s.BackupStep source e t) {j : Fin n}
    (exited : s.exited j = true) : thrown (t.syncs j).pc = thrown (s.syncs j).pc := by
  obtain ⟨outcome, pc⟩ := threads.exits j exited
  rw [pc, BackupRun.done_step threads taken pc]

private theorem exited_step (taken : s.BackupStep source e t) {j : Fin n}
    (exited : s.exited j = true) : t.exited j = true := by
  cases taken with
  | caught i what sourceUuid running pc =>
      by_cases same : j = i <;> simp [BackupRun.catchError, same, exited]
  | left i outcome running pc quiet => by_cases same : j = i <;> simp [same, exited]
  | _ => exact exited

/-- Only a catch ends a thread whose `DoSync` has thrown. -/
private theorem thrower_step (threads : s.Threads) (taken : s.BackupStep source e t)
    (quiet : caught [e] = []) (j : Fin n) :
    (t.exited j = true ∧ (thrown (t.syncs j).pc).isSome) ↔
      (s.exited j = true ∧ (thrown (s.syncs j).pc).isSome) := by
  cases before : s.exited j with
  | true => simp [exited_step taken before, thrown_step threads taken before]
  | false =>
      simp only [Bool.false_eq_true, false_and, iff_false, not_and]
      intro exited
      cases taken with
      | caught i what sourceUuid running pc => simp [caught] at quiet
      | left i outcome running pc quiet =>
          by_cases same : j = i
          · subst same
            cases outcome with
            | threw what => exact absurd rfl (quiet what)
            | _ => simp [pc, thrown]
          · simp [same, before] at exited
      | _ => exact absurd (exited.symm.trans before) (by simp)

/-- The errors stay what the threads have thrown. -/
private theorem errors_step (account : Account past s) (taken : s.BackupStep source e t) :
    (caught past).map t.errorOf = (caught past).map s.errorOf := by
  refine List.map_congr_left fun entry member => ?_
  have exited := ((account.throwers entry.1).mp (List.mem_map_of_mem member)).1
  simp only [BackupRun.errorOf, thrown_step account.threads taken exited]

private theorem quits_step (account : Account past s) (taken : s.BackupStep source e t)
    (j : Fin n) (quit : quits (t.syncs j).pc = true) : t.coordinator.cancelled = true := by
  refine cancelled_step taken ?_
  rcases BackupRun.pc_cases taken j with same | ⟨own, u, _, moved, rfl⟩ | ⟨_, _, opening⟩
  · exact account.quits j (same ▸ quit)
  · have left : quits u.sync.pc = true := by simpa [BackupRun.put] using quit
    exact (quits_doSync moved left).elim (account.quits j) id
  · rw [opening] at quit
    cases quit

private theorem account_catch (account : Account past s) {i : Fin n} {sourceUuid : Option String}
    (taken : s.BackupStep source (.catchError i sourceUuid) t) :
    Account (past ++ [.catchError i sourceUuid]) t := by
  have quits := quits_step account taken
  have threads := BackupRun.threads_step account.threads taken
  have earlier := errors_step account taken
  have entry : caught [(.catchError i sourceUuid : BackupEvent β n m)] =
      [(i, sourceUuid.getD "uuid_error")] := rfl
  cases taken with
  | caught _ what _ running pc =>
      have fresh : i ∉ (caught past).map Prod.fst := fun member =>
        absurd (((account.throwers i).mp member).1.symm.trans running) (by simp)
      refine ⟨threads, ?_, ?_, fun j => ?_, ?_, quits⟩
      · rw [caught_concat, entry, List.map_append, earlier, ← account.errors]
        simp [BackupRun.catchError, BackupCoordinator.addFatalError, BackupRun.errorOf, pc, thrown]
      · rw [caught_concat, entry, List.map_append]
        exact account.once.append (List.nodup_singleton i) (List.disjoint_singleton.mpr fresh)
      · rw [caught_concat, entry, List.map_append, List.mem_append, account.throwers j]
        by_cases same : j = i
        · subst same
          simp [BackupRun.catchError, pc, thrown]
        · simp [BackupRun.catchError, same]
      · simp [caught_concat, entry, BackupRun.catchError, BackupCoordinator.addFatalError]

private theorem account_step (account : Account past s) (taken : s.BackupStep source e t) :
    Account (past ++ [e]) t := by
  have quits := quits_step account taken
  have threads := BackupRun.threads_step account.threads taken
  rcases coordinator_step taken with rfl | ⟨i, sourceUuid, rfl⟩ | ⟨other, quiet, flag, errors⟩
  · have list : caught (past ++ [.cancel]) = caught past := by
      rw [caught_concat]
      exact List.append_nil _
    have earlier := errors_step account taken
    cases taken with
    | cancelled =>
        refine ⟨threads, ?_, ?_, fun j => ?_, ?_, quits⟩
        · rw [list, earlier]
          exact account.errors
        · rw [list]
          exact account.once
        · rw [list]
          exact account.throwers j
        · simp [BackupCoordinator.cancel]
  · exact account_catch account taken
  · have list : caught (past ++ [e]) = caught past := by rw [caught_concat, quiet, List.append_nil]
    refine ⟨threads, ?_, ?_, fun j => ?_, ?_, quits⟩
    · rw [list, errors, errors_step account taken]
      exact account.errors
    · rw [list]
      exact account.once
    · rw [list, thrower_step account.threads taken quiet]
      exact account.throwers j
    · rw [flag, account.flag, list]
      simp [List.mem_append, other.symm]

/-- Once all threads have ended, the errors and the outcomes are final. -/
private theorem final_step (threads : s.Threads) (ended : ∀ j, s.exited j = true)
    (taken : s.BackupStep source e t) :
    t.coordinator.fatalErrors = s.coordinator.fatalErrors ∧ caught [e] = [] ∧
      ∀ j, (t.syncs j).pc = (s.syncs j).pc := by
  refine ⟨?_, ?_, fun j => ?_⟩
  · rcases coordinator_step taken with rfl | ⟨i, sourceUuid, rfl⟩ | ⟨_, _, _, same⟩
    · cases taken
      rfl
    · cases taken with
      | caught _ _ _ running => exact absurd ((ended i).symm.trans running) (by simp)
    · exact same
  · rcases coordinator_step taken with rfl | ⟨i, sourceUuid, rfl⟩ | ⟨_, quiet, _⟩
    · rfl
    · cases taken with
      | caught _ _ _ running => exact absurd ((ended i).symm.trans running) (by simp)
    · exact quiet
  · obtain ⟨outcome, pc⟩ := threads.exits j (ended j)
    rw [pc, BackupRun.done_step threads taken pc]

/-- What the event handler has been told after the events `past`. -/
structure Reported (past : List (BackupEvent β n m)) (s : BackupRun β n m) : Prop where
  entry : s.main = .entry → s.calls = []
  between : s.main ≠ .entry → s.main ≠ .returned → s.calls = [.backupInProgress]
  text : ∀ text, s.main = .reporting text → text = errorText s.coordinator.fatalErrors
  returned : s.main = .returned → ∃ before after coordinator,
    past = before ++ .report :: after ∧
    s.calls = [.backupInProgress, verdict (errorText s.coordinator.fatalErrors) coordinator] ∧
    (coordinator.cancelled = true ↔ .cancel ∈ before ∨ caught past ≠ []) ∧
    ∀ j, quits (s.syncs j).pc = true → coordinator.cancelled = true

private theorem reported_between (main : t.main ≠ .entry) (unreturned : t.main ≠ .returned)
    (calls : t.calls = [.backupInProgress]) (silent : ∀ text, t.main ≠ .reporting text) :
    Reported past t :=
  ⟨fun here => absurd here main, fun _ _ => calls, fun text here => absurd here (silent text),
    fun here => absurd here unreturned⟩

/-- The sync threads, the devices and a cancellation leave the caller of `DoBackup` alone. -/
private theorem reported_other (account : Account past s) (reported : Reported past s)
    (taken : s.BackupStep source e t) (main : t.main = s.main) (calls : t.calls = s.calls) :
    Reported (past ++ [e]) t := by
  refine ⟨fun here => ?_, fun started running => ?_, fun text here => ?_, fun here => ?_⟩
  · rw [calls]
    exact reported.entry (main ▸ here)
  · rw [calls]
    exact reported.between (main ▸ started) (main ▸ running)
  · rw [main] at here
    have ended j := account.threads.joined j (by simp [here, BackupRun.Joined])
    rw [(final_step account.threads ended taken).1]
    exact reported.text text here
  · rw [main] at here
    have ended j := account.threads.joined j (by simp [here, BackupRun.Joined])
    obtain ⟨errors, quiet, pcs⟩ := final_step account.threads ended taken
    obtain ⟨before, after, coordinator, split, told, flag, left⟩ := reported.returned here
    refine ⟨before, after ++ [e], coordinator, by simp [split], ?_, ?_, fun j => ?_⟩
    · rw [calls, errors]
      exact told
    · rw [caught_concat, quiet, List.append_nil]
      exact flag
    · rw [pcs]
      exact left j

private theorem reported_step (account : Account past s) (reported : Reported past s)
    (taken : s.BackupStep source e t) : Reported (past ++ [e]) t := by
  cases step : taken with
  | entered main =>
      have calls := reported.entry main
      apply reported_between <;> unfold BackupRun.startNext <;> split_ifs <;> simp [calls]
  | created next inside main =>
      have calls := reported.between (by simp [main]) (by simp [main])
      apply reported_between <;> unfold BackupRun.startNext <;> split_ifs <;> simp [calls]
  | waited main =>
      have calls := reported.between (by simp [main]) (by simp [main])
      apply reported_between <;> unfold BackupRun.joinNext <;> split_ifs <;> simp [calls]
  | joined next inside main exited =>
      have calls := reported.between (by simp [main]) (by simp [main])
      apply reported_between <;> unfold BackupRun.joinNext <;> split_ifs <;> simp [calls]
  | collected main =>
      have calls := reported.between (by simp [main]) (by simp [main])
      exact ⟨by simp, fun _ _ => calls, by simp, by simp⟩
  | reported text main =>
      have calls := reported.between (by simp [main]) (by simp [main])
      refine ⟨by simp, by simp, by simp, fun _ => ?_⟩
      refine ⟨past, [], s.coordinator, rfl, ?_, ?_, account.quits⟩
      · simp [calls, reported.text text main]
      · rw [account.flag, caught_concat]
        simp [caught]
  | _ => exact reported_other account reported taken rfl rfl

end Steps

private theorem account_start (devices : Fin m → Device β) (blockSize : Fin n → BlockSize)
    (destination : Fin n → ℕ → β) :
    Account [] (BackupRun.start devices blockSize destination) where
  threads := BackupRun.threads_start devices blockSize destination
  errors := rfl
  once := List.nodup_nil
  throwers := by simp [caught, BackupRun.start]
  flag := by simp [caught, BackupRun.start, BackupCoordinator.new]
  quits := fun _ quit => by cases quit

private theorem reported_start (devices : Fin m → Device β) (blockSize : Fin n → BlockSize)
    (destination : Fin n → ℕ → β) :
    Reported [] (BackupRun.start devices blockSize destination) :=
  ⟨fun _ => rfl, fun started => absurd rfl started, fun _ main => (nomatch main),
    fun main => (nomatch main)⟩

/-- The account and the calls after a whole run. -/
theorem account_run {source : Fin n → Fin m} {devices : Fin m → Device β}
    {blockSize : Fin n → BlockSize} {destination : Fin n → ℕ → β}
    {events : List (BackupEvent β n m)} {s : BackupRun β n m}
    (reached : run (BackupRun.step source) (.start devices blockSize destination) events =
      some s) : Account events s ∧ Reported events s :=
  history (I := fun past s => Account past s ∧ Reported past s)
    (fun _ _ _ _ inv taken =>
      have moved := BackupRun.step_cases taken
      ⟨account_step inv.1 moved, reported_step inv.1 inv.2 moved⟩)
    ⟨account_start devices blockSize destination, reported_start devices blockSize destination⟩
    reached

/-- Threads that have all ended, with no exception and no cancellation, have finished. -/
theorem finished_of_quiet {past : List (BackupEvent β n m)} {s : BackupRun β n m}
    (account : Account past s) (ended : ∀ j, s.exited j = true) (quiet : caught past = [])
    (stayed : ∀ j, quits (s.syncs j).pc ≠ true) (j : Fin n) :
    (s.syncs j).pc = .done .finished := by
  obtain ⟨outcome, pc⟩ := account.threads.exits j (ended j)
  cases outcome with
  | finished => exact pc
  | cancelled => exact absurd (by rw [pc]; rfl) (stayed j)
  | threw what =>
      have member := (account.throwers j).mpr ⟨ended j, by rw [pc]; rfl⟩
      simp [quiet] at member

private theorem thrown_isSome {pc : Pc β} :
    (thrown pc).isSome ↔ ∃ what, pc = .done (.threw what) := by
  constructor
  · intro some
    cases pc with
    | done outcome =>
        cases outcome with
        | threw what => exact ⟨what, rfl⟩
        | _ => cases some
    | _ => cases some
  · rintro ⟨what, rfl⟩
    rfl

/-- The sources of the collected errors are not empty when `GetUuid` returns none that is. -/
private theorem sourced_errorOf (events : List (BackupEvent β n m)) (s : BackupRun β n m)
    (named : ∀ i sourceUuid, .catchError i (some sourceUuid) ∈ events → sourceUuid ≠ "") :
    ∀ error ∈ (caught events).map s.errorOf, error.errorSource ≠ "" := by
  intro error member
  obtain ⟨entry, caughtEntry, rfl⟩ := List.mem_map.mp member
  obtain ⟨e, happened, matched⟩ := List.mem_filterMap.mp caughtEntry
  cases e with
  | catchError i sourceUuid =>
      obtain rfl := Option.some.inj matched
      cases sourceUuid with
      | none => simp [BackupRun.errorOf]
      | some sourceUuid => exact named i sourceUuid happened
  | _ => cases matched

private theorem verdict_failed {text : String} {coordinator : BackupCoordinator} :
    (∃ message, verdict text coordinator = .backupFailed message) ↔ text ≠ "" := by
  unfold verdict
  split_ifs with empty cancelled <;> simp [empty]

private theorem verdict_message {text message : String} {coordinator : BackupCoordinator}
    (failed : verdict text coordinator = .backupFailed message) : message = text := by
  unfold verdict at failed
  split_ifs at failed
  exact (HandlerCall.backupFailed.inj failed).symm

theorem verdict_succeeded {text : String} {coordinator : BackupCoordinator} :
    verdict text coordinator = .backupSucceeded ↔
      text = "" ∧ coordinator.cancelled = false := by
  unfold verdict BackupCoordinator.isCancelled
  by_cases empty : text = "" <;> cases coordinator.cancelled <;> simp [empty]

private theorem verdict_cancelled {text : String} {coordinator : BackupCoordinator}
    (empty : text = "") (other : verdict text coordinator ≠ .backupSucceeded) :
    verdict text coordinator = .backupCancelled := by
  unfold verdict at other ⊢
  simp only [empty, ne_eq, not_true_eq_false, if_false] at other ⊢
  split_ifs at other ⊢
  · rfl
  · exact absurd rfl other

/-- The reported outcome, for every run in which `DoBackup` returns: one terminal
call. It is `BackupFailed` exactly when some `DoSync` threw, with one line per failed
synchronizer in the order of the catches; it is `BackupSucceeded` exactly when every
`DoSync` left through its finished branch and nobody cancelled before the final
check; otherwise it is `BackupCancelled`. -/
theorem reported_outcome (source : Fin n → Fin m) (devices : Fin m → Device β)
    (blockSize : Fin n → BlockSize) (destination : Fin n → ℕ → β)
    (events : List (BackupEvent β n m)) (s : BackupRun β n m)
    (reached : run (BackupRun.step source) (.start devices blockSize destination) events = some s)
    (named : ∀ i sourceUuid, .catchError i (some sourceUuid) ∈ events → sourceUuid ≠ "")
    (returned : s.main = .returned) :
    ∃ before after terminal,
      events = before ++ .report :: after ∧ s.calls = [.backupInProgress, terminal] ∧
      ((∃ message, terminal = .backupFailed message) ↔
        ∃ j what, (s.syncs j).pc = .done (.threw what)) ∧
      (∀ message, terminal = .backupFailed message →
        message = "\n".intercalate ((caught events).map fun entry =>
          entry.2 ++ " : " ++ (thrown (s.syncs entry.1).pc).getD "") ∧
        ((caught events).map Prod.fst).Nodup ∧
        ∀ j, j ∈ (caught events).map Prod.fst ↔ ∃ what, (s.syncs j).pc = .done (.threw what)) ∧
      (terminal = .backupSucceeded ↔
        (∀ j, (s.syncs j).pc = .done .finished) ∧ .cancel ∉ before) ∧
      (¬ (∃ j what, (s.syncs j).pc = .done (.threw what)) → terminal ≠ .backupSucceeded →
        terminal = .backupCancelled) := by
  obtain ⟨account, reported⟩ := account_run reached
  obtain ⟨before, after, coordinator, split, calls, flag, left⟩ := reported.returned returned
  have ended j : s.exited j = true :=
    account.threads.joined j (by simp [returned, BackupRun.Joined])
  have sourced := sourced_errorOf events s named
  have throwers j : j ∈ (caught events).map Prod.fst ↔
      ∃ what, (s.syncs j).pc = .done (.threw what) := by
    rw [account.throwers j, thrown_isSome]
    exact and_iff_right (ended j)
  have empty : errorText s.coordinator.fatalErrors = "" ↔ caught events = [] := by
    rw [account.errors, errorText_eq_empty_iff _ sourced, List.map_eq_nil_iff]
  have some_thrower : caught events ≠ [] ↔ ∃ j what, (s.syncs j).pc = .done (.threw what) := by
    simp only [← throwers]
    constructor
    · intro some
      obtain ⟨entry, member⟩ := List.exists_mem_of_ne_nil _ some
      exact ⟨entry.1, List.mem_map_of_mem member⟩
    · rintro ⟨j, member⟩ none
      simp [none] at member
  refine ⟨before, after, _, split, calls, ?_, fun message failed => ?_, ?_, fun quiet => ?_⟩
  · rw [verdict_failed, ← some_thrower, Ne, empty]
  · refine ⟨?_, account.once, throwers⟩
    rw [verdict_message failed, account.errors, errorText_eq _ sourced, List.map_map]
    rfl
  · rw [verdict_succeeded, empty]
    constructor
    · rintro ⟨quiet, going⟩
      simp only [going, Bool.false_eq_true, quiet, ne_eq, not_true_eq_false, or_false,
        false_iff] at flag
      refine ⟨finished_of_quiet account ended quiet fun j quit => ?_, flag⟩
      exact absurd ((left j quit).symm.trans going) (by simp)
    · rintro ⟨finished, uncancelled⟩
      have quiet : caught events = [] := by
        by_contra some
        obtain ⟨j, what, pc⟩ := some_thrower.mp some
        exact absurd (pc.symm.trans (finished j)) (by simp)
      exact ⟨quiet, Bool.eq_false_iff.mpr (mt flag.mp (by simp [uncancelled, quiet]))⟩
  · refine verdict_cancelled (empty.mpr ?_)
    exact not_not.mp (mt some_thrower.mp quiet)

/-- One of two synchronizers cannot open its device, and the other one sees the
cancellation. -/
def oneFailure (failing other : Fin 2) : List (BackupEvent ℕ 2 2) :=
  [.backupInProgress, .createSyncCountHandler, .createSyncCountHandler,
    .sync failing (.openDevices (some "Error opening block device")),
    .sync other (.openDevices none), .sync failing .leave, .waitUntilFinished,
    .catchError failing none, .sync other .isCancelled, .waitUntilFinished, .sync other .leave,
    .join, .returnFromThread other, .join, .getFatalErrors, .report]

theorem reported_outcome_oneFailure :
    ∃ s, run (BackupRun.step id) (.start (fun _ => seededDevice) (fun _ => twoSectors)
        fun _ => blankDestination) (oneFailure 0 1) = some s ∧
      ∃ message, s.calls = [.backupInProgress, .backupFailed message] ∧
        message = "\n".intercalate ((caught (oneFailure 0 1)).map fun entry =>
          entry.2 ++ " : " ++ (thrown (s.syncs entry.1).pc).getD "") := by
  have evaluated : (run (BackupRun.step id) (.start (fun _ => seededDevice) (fun _ => twoSectors)
      fun _ => blankDestination) (oneFailure 0 1)).any (fun s => decide (s.main = .returned ∧
        (thrown (s.syncs 0).pc).isSome)) = true := by decide +kernel
  obtain ⟨s, reached, facts⟩ := (Option.any_eq_true _ _).mp evaluated
  obtain ⟨returned, threw⟩ := of_decide_eq_true facts
  obtain ⟨_, _, terminal, _, calls, failed, message, _⟩ := reported_outcome id
    (fun _ => seededDevice) (fun _ => twoSectors) (fun _ => blankDestination) (oneFailure 0 1)
    s reached (by simp [oneFailure]) returned
  obtain ⟨text, rfl⟩ := failed.mpr ⟨0, thrown_isSome.mp threw⟩
  exact ⟨s, reached, text, calls, (message text rfl).1⟩

end Account

end LinuxAgent.Backup
