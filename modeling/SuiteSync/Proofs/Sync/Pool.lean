import Mathlib.Data.List.Forall2
import SuiteSync.Proofs.Fetch
import SuiteSync.Sync.Pool

set_option autoImplicit false

namespace SuiteSync

def Slot.Holds (may : Job → Except SyncError AdaptedFile → Prop) (job : Job) : Slot → Prop
  | .running other _ => other = job
  | .finished result => may job result

namespace Task

structure Steady (task : Task) (jobs : List Job) (keeps : Link → Prop)
    (may : Job → Except SyncError AdaptedFile → Prop) : Prop where
  link : ∀ job ∈ jobs, ∀ extra link, keeps link → keeps (task.work job extra link).2
  slot : ∀ job ∈ jobs, ∀ extra link, keeps link → (task.work job extra link).1.Holds may job

def Ends (jobs : List Job) (keeps : Link → Prop) (may : Job → Except SyncError AdaptedFile → Prop) :
    Except SyncError (List AdaptedFile) × Link → Prop
  | (.ok files, link) => keeps link ∧ List.Forall₂ (fun job file => may job (.ok file)) jobs files
  | (.error error, link) => keeps link ∧ ∃ job ∈ jobs, may job (.error error)

theorem advance_holds (task : Task) (jobs started : List Job) (keeps : Link → Prop)
    (may : Job → Except SyncError AdaptedFile → Prop) (steady : task.Steady jobs keeps may) (n : Nat) (slots : List Slot)
    (link : Link) (inside : ∀ job ∈ started, job ∈ jobs) (holds : List.Forall₂ (Slot.Holds may) started slots)
    (kept : keeps link) :
    List.Forall₂ (Slot.Holds may) started (task.advance n slots link).1 ∧ keeps (task.advance n slots link).2 := by
  -- Along the slots: one running slot gets on, and the others keep their jobs.
  fun_induction advance task n slots link generalizing started with
  | case1 => exact ⟨holds, kept⟩
  | case2 n link result rest left link' made ih =>
      cases holds with
      | cons first later =>
          rw [List.forall_mem_cons] at inside
          obtain ⟨tail, after⟩ := ih _ inside.2 later kept
          rw [made] at tail after
          exact ⟨.cons first tail, after⟩
  | case3 job extra rest link slot link' made =>
      cases holds with
      | cons first later =>
          cases first
          have member := inside _ List.mem_cons_self
          have worked := steady.slot _ member extra link kept
          have after := steady.link _ member extra link kept
          rw [made] at worked after
          exact ⟨.cons worked later, after⟩
  | case4 n job extra rest link left link' made ih =>
      cases holds with
      | cons first later =>
          rw [List.forall_mem_cons] at inside
          obtain ⟨tail, after⟩ := ih _ inside.2 later kept
          rw [made] at tail after
          exact ⟨.cons first tail, after⟩

theorem filled_front (task : Task) (limit : Nat) (started waiting : List Job)
    (may : Job → Except SyncError AdaptedFile → Prop) (slots : List Slot)
    (holds : List.Forall₂ (Slot.Holds may) started slots) :
    ∃ front, started ++ waiting = front ++ waiting.drop (room limit slots) ∧
      List.Forall₂ (Slot.Holds may) front (task.filled limit waiting slots) := by
  refine ⟨started ++ waiting.take (room limit slots), ?_, List.rel_append holds ?_⟩
  · rw [List.append_assoc, List.take_append_drop]
  · rw [List.forall₂_map_right_iff]
    exact List.forall₂_same.mpr fun job _ => rfl

theorem run_ends (task : Task) (jobs started : List Job) (keeps : Link → Prop)
    (may : Job → Except SyncError AdaptedFile → Prop) (steady : task.Steady jobs keeps may) (limit : Nat)
    (timing : Nat → Nat) (step : Nat) (waiting : List Job) (slots : List Slot) (link : Link) (some : 0 < limit)
    (inside : ∀ job ∈ started ++ waiting, job ∈ jobs) (holds : List.Forall₂ (Slot.Holds may) started slots)
    (kept : keeps link) : Ends (started ++ waiting) keeps may (task.run limit timing step waiting slots link) := by
  fun_induction run task limit timing step waiting slots link generalizing started with
  | case1 step waiting slots link none =>
      obtain ⟨rfl, none⟩ := List.append_eq_nil_iff.mp none
      cases holds
      have empty : waiting = [] := by
        rcases List.take_eq_nil_iff.mp (List.map_eq_nil_iff.mp none) with full | empty
        · rw [room, List.length_nil] at full
          omega
        · exact empty
      rw [empty]
      exact ⟨kept, .nil⟩
  | case2 step waiting slots link error later begun =>
      obtain ⟨front, whole, filled⟩ := task.filled_front limit started waiting may slots holds
      rw [begun] at filled
      rw [whole] at inside ⊢
      cases filled with
      | cons first tail => exact ⟨kept, _, List.mem_cons_self, first⟩
  | case3 step waiting slots link file later begun error left made ih =>
      obtain ⟨front, whole, filled⟩ := task.filled_front limit started waiting may slots holds
      rw [begun] at filled
      rw [whole] at inside ⊢
      cases filled with
      | cons first tail =>
          have ended := ih _ (List.forall_mem_cons.mp inside).2 tail kept
          rw [made] at ended
          obtain ⟨after, job, member, failed⟩ := ended
          exact ⟨after, job, List.mem_cons_of_mem _ member, failed⟩
  | case4 step waiting slots link file later begun files left made ih =>
      obtain ⟨front, whole, filled⟩ := task.filled_front limit started waiting may slots holds
      rw [begun] at filled
      rw [whole] at inside ⊢
      cases filled with
      | cons first tail =>
          have ended := ih _ (List.forall_mem_cons.mp inside).2 tail kept
          rw [made] at ended
          exact ⟨ended.1, .cons first ended.2⟩
  | case5 step waiting slots link job extra later begun busy turn moved ih =>
      obtain ⟨front, whole, filled⟩ := task.filled_front limit started waiting may slots holds
      rw [begun] at filled
      rw [whole] at inside ⊢
      obtain ⟨worked, after⟩ := task.advance_holds jobs front keeps may steady turn busy link
        (fun job member => inside job (List.mem_append_left _ member)) filled kept
      exact ih front inside worked after

theorem adapt_all_ends (task : Task) (keeps : Link → Prop) (may : Job → Except SyncError AdaptedFile → Prop)
    (steady : task.Steady task.config.jobs keeps may) (parallel : Nat) (timing : Nat → Nat) (link : Link)
    (kept : keeps link) : Ends task.config.jobs keeps may (task.adaptAll parallel timing link) :=
  task.run_ends task.config.jobs [] keeps may steady _ timing 0 _ [] link (by omega) (fun _ => id) .nil kept

def answer (task : Task) (reply : Reply) (job : Job) : Except SyncError AdaptedFile :=
  let url := task.resolved.fileUrl task.config job.name
  match Attempt.ending url reply with
  | .page raw => task.settle job raw
  | .failed _ error => .error (.fetch error)

def Answered (task : Task) (replies : String → Reply) (link : Link) : Prop :=
  ∀ job ∈ task.config.jobs, link.host.Gives (task.resolved.fileUrl task.config job.name) (replies job.name)

theorem fetching_host (task : Task) (extra : Nat) (link : Link) (event : Event) :
    (if extra + 1 = attemptsFor task.attempts then link.note event else link).host = link.host := by
  split <;> rfl

theorem steady_of_attempts (task : Task) (jobs : List Job) (keeps : Host → Prop)
    (may : Job → Except SyncError AdaptedFile → Prop) (stable : Host.Stable keeps)
    (page : ∀ job ∈ jobs, ∀ link raw, keeps link.host →
      (Attempt.make (task.resolved.fileUrl task.config job.name) link).1 = .page raw → may job (task.settle job raw))
    (lost : ∀ job ∈ jobs, ∀ link transient error, keeps link.host →
      (Attempt.make (task.resolved.fileUrl task.config job.name) link).1 = .failed transient error →
      may job (.error (.fetch error))) :
    task.Steady jobs (fun link => keeps link.host) may := by
  constructor
  · intro job _ extra link kept
    have after := stable (task.resolved.fileUrl task.config job.name)
      (if extra + 1 = attemptsFor task.attempts then
        link.note (.fetching (task.resolved.fileUrl task.config job.name)) else link) (by rwa [fetching_host])
    fun_cases work task job extra link with
    | case1 extra url link' raw left made => rwa [made] at after
    | case2 url error left extra link' made => rwa [made] at after
    | case3 extra url link' transient error left made last => rwa [made] at after
  · intro job member extra link kept
    fun_cases work task job extra link with
    | case1 extra url link' raw left made =>
        exact page job member link' raw (by rwa [fetching_host]) (congrArg Prod.fst made)
    | case2 url error left extra link' made => rfl
    | case3 extra url link' transient error left made last =>
        exact lost job member link' transient error (by rwa [fetching_host]) (congrArg Prod.fst made)

theorem answered_steady (task : Task) (replies : String → Reply) :
    task.Steady task.config.jobs (task.Answered replies) fun job result => result = task.answer (replies job.name) job := by
  apply task.steady_of_attempts task.config.jobs fun host => ∀ job ∈ task.config.jobs,
    host.Gives (task.resolved.fileUrl task.config job.name) (replies job.name)
  · intro url link answered job member
    exact Host.gives_stable _ _ url link (answered job member)
  · intro job member link raw answered made
    rw [answer, ← attempt_ending _ _ link (answered job member), made]
  · intro job member link transient error answered made
    rw [answer, ← attempt_ending _ _ link (answered job member), made]

theorem settle_name (task : Task) (job : Job) (raw : String) (file : AdaptedFile) (done : task.settle job raw = .ok file) :
    file.name = job.name := by
  rw [settle] at done
  split at done
  · cases done
  · cases done
    rfl

theorem adapt_all_named (task : Task) (parallel : Nat) (timing : Nat → Nat) (link left : Link) (files : List AdaptedFile)
    (run : task.adaptAll parallel timing link = (.ok files, left)) :
    List.Forall₂ (fun job file => file.name = job.name) task.config.jobs files := by
  have steady := task.steady_of_attempts task.config.jobs (fun _ => True)
    (fun job result => ∀ file, result = .ok file → file.name = job.name) (fun _ _ _ => trivial)
    (fun job _ _ raw _ _ file done => task.settle_name job raw file done) (fun _ _ _ _ _ _ _ _ done => nomatch done)
  have ended := task.adapt_all_ends _ _ steady parallel timing link trivial
  rw [run] at ended
  exact ended.2.imp fun _ file named => named file rfl

end Task

end SuiteSync
