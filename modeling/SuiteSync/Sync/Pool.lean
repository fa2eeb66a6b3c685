import SuiteSync.Adaptation.Basic
import SuiteSync.Sync.Error

set_option autoImplicit false

/- Fetching and adapting many files, a bounded number of them at a time. Files are started and handed on
in their order; which of the started ones gets on next is up to the network. -/

namespace SuiteSync

structure AdaptedFile where
  name : String
  url : String
  text : String
  skipped : Nat
deriving DecidableEq, Repr

structure Job where
  name : String
  excluded : List String
deriving DecidableEq, Repr

def Config.jobs (config : Config) : List Job := config.files.entries.map fun (name, excluded) => ⟨name, excluded⟩

inductive Slot where
  | running (job : Job) (extra : Nat)
  | finished (result : Except SyncError AdaptedFile)

namespace Slot

def weight : Slot → Nat
  | .running _ extra => extra + 2
  | .finished _ => 1

def isRunning : Slot → Bool
  | .running .. => true
  | .finished _ => false

@[simp] theorem running_runs (job : Job) (extra : Nat) : (running job extra).isRunning = true := rfl

@[simp] theorem finished_rests (result : Except SyncError AdaptedFile) : (finished result).isRunning = false := rfl

end Slot

structure Task where
  config : Config
  resolved : Resolved
  attempts : Nat

namespace Task

def settle (task : Task) (job : Job) (raw : String) : Except SyncError AdaptedFile :=
  let url := task.resolved.fileUrl task.config job.name
  match adapt task.config url job.name raw job.excluded with
  | .error e => .error (.adapt e)
  | .ok text => .ok ⟨job.name, url, text, job.excluded.length⟩

def work (task : Task) (job : Job) (extra : Nat) (link : Link) : Slot × Link :=
  let url := task.resolved.fileUrl task.config job.name
  let link := if extra + 1 = attemptsFor task.attempts then link.note (.fetching url) else link
  match Attempt.make url link, extra with
  | (.page raw, link), _ =>
      (.finished (task.settle job raw), link.noteAll (Adaptation.events task.config url job.name raw job.excluded))
  | (.failed true error, link), extra + 1 =>
      (.running job extra, link.note (.retrying error.message retryPause))
  | (.failed _ error, link), _ => (.finished (.error (.fetch error)), link)

theorem work_weight (task : Task) (job : Job) (extra : Nat) (link : Link) :
    (task.work job extra link).1.weight < (Slot.running job extra).weight := by
  unfold work
  dsimp only
  split <;> simp only [Slot.weight] <;> omega

def advance (task : Task) : Nat → List Slot → Link → List Slot × Link
  | _, [], link => ([], link)
  | n, .finished result :: rest, link =>
      let (rest, link) := task.advance n rest link
      (.finished result :: rest, link)
  | 0, .running job extra :: rest, link =>
      let (slot, link) := task.work job extra link
      (slot :: rest, link)
  | n + 1, .running job extra :: rest, link =>
      let (rest, link) := task.advance n rest link
      (.running job extra :: rest, link)

@[simp] def totalWeight : List Slot → Nat
  | [] => 0
  | slot :: rest => slot.weight + totalWeight rest

@[simp] theorem total_weight_append (front back : List Slot) :
    totalWeight (front ++ back) = totalWeight front + totalWeight back := by
  induction front with
  | nil => simp
  | cons slot rest ih => simp [ih, Nat.add_assoc]

theorem advance_weight (task : Task) (n : Nat) (slots : List Slot) (link : Link)
    (inside : n < slots.countP Slot.isRunning) :
    totalWeight (task.advance n slots link).1 < totalWeight slots := by
  fun_induction advance task n slots link with
  | case1 => simp at inside
  | case2 n link result rest later link' same ih =>
      have := ih (by simpa using inside)
      simp only [same, totalWeight] at this ⊢
      omega
  | case3 job extra rest link slot link' same =>
      have := task.work_weight job extra link
      simp only [same, totalWeight] at this ⊢
      omega
  | case4 n job extra rest link later link' same ih =>
      have := ih (by simpa [List.countP_cons] using inside)
      simp only [same, totalWeight] at this ⊢
      omega

def start (task : Task) (job : Job) : Slot := .running job (attemptsFor task.attempts - 1)

def room (limit : Nat) (slots : List Slot) : Nat := limit - slots.length

def filled (task : Task) (limit : Nat) (waiting : List Job) (slots : List Slot) : List Slot :=
  slots ++ (waiting.take (room limit slots)).map task.start

def remaining (task : Task) (waiting : List Job) (slots : List Slot) : Nat :=
  totalWeight (waiting.map task.start) + totalWeight slots

theorem remaining_filled (task : Task) (limit : Nat) (waiting : List Job) (slots : List Slot) :
    task.remaining (waiting.drop (room limit slots)) (task.filled limit waiting slots) =
      task.remaining waiting slots := by
  have parts := congrArg (fun jobs : List Job => totalWeight (jobs.map task.start))
    (List.take_append_drop (room limit slots) waiting)
  simp only [remaining, filled, List.map_append, total_weight_append] at parts ⊢
  omega

-- Runs jobs with up to `limit` of them started and not yet handed on. `timing` says, step by step, which of the
-- running ones gets on next. The first failure, in the order of the files, ends the run.
def run (task : Task) (limit : Nat) (timing : Nat → Nat) (step : Nat) (waiting : List Job) (slots : List Slot)
    (link : Link) : Except SyncError (List AdaptedFile) × Link :=
  match _started : task.filled limit waiting slots with
  | [] => (.ok [], link)
  | .finished (.error e) :: _ => (.error e, link)
  | .finished (.ok file) :: rest =>
      match run task limit timing step (waiting.drop (room limit slots)) rest link with
      | (.error e, link) => (.error e, link)
      | (.ok files, link) => (.ok (file :: files), link)
  | .running job extra :: rest =>
      let busy := Slot.running job extra :: rest
      let turn := timing step % busy.countP Slot.isRunning
      let moved := task.advance turn busy link
      run task limit timing (step + 1) (waiting.drop (room limit slots)) moved.1 moved.2
termination_by task.remaining waiting slots
decreasing_by
  · rw [← task.remaining_filled limit waiting slots, _started]
    simp only [remaining, totalWeight, Slot.weight]
    omega
  · rw [← task.remaining_filled limit waiting slots, _started]
    have inside : timing step % busy.countP Slot.isRunning < busy.countP Slot.isRunning :=
      Nat.mod_lt _ (by simp [busy])
    exact Nat.add_lt_add_left (task.advance_weight _ busy link inside) _

def adaptAll (task : Task) (parallel : Nat) (timing : Nat → Nat) (link : Link) :
    Except SyncError (List AdaptedFile) × Link :=
  task.run (max parallel 1) timing 0 task.config.jobs [] link

end Task

end SuiteSync
