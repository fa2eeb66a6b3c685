import SuiteSync.Proofs.Interference
import SuiteSync.Proofs.Settings
import SuiteSync.Proofs.Sync.Pool

set_option autoImplicit false

/- The files in flight. Every slot, running or waiting, is due what it would end in if it were the only one, and no
step of a run changes what is due. So a run ends in what is due, in the order of the files, whatever its timing. -/

namespace SuiteSync

def inOrder : List (Except SyncError AdaptedFile) → Except SyncError (List AdaptedFile)
  | [] => .ok []
  | .error error :: _ => .error error
  | .ok file :: later =>
      match inOrder later with
      | .error error => .error error
      | .ok files => .ok (file :: files)

theorem in_order_error (results : List (Except SyncError AdaptedFile)) (error : SyncError)
    (failed : inOrder results = .error error) :
    ∃ (done : List AdaptedFile) (behind : _), results = done.map .ok ++ .error error :: behind := by
  fun_induction inOrder results with
  | case1 => cases failed
  | case2 => exact ⟨[], _, by cases failed; rfl⟩
  | case3 file later failure below ih =>
      cases failed
      obtain ⟨done, behind, same⟩ := ih below
      exact ⟨file :: done, behind, congrArg _ same⟩
  | case4 => cases failed

namespace Task

abbrev url (task : Task) (job : Job) : String := task.resolved.fileUrl task.config job.name

def rest (task : Task) (job : Job) (extra : Nat) (link : Link) : Except SyncError AdaptedFile :=
  match (fetchWithin (task.url job) extra link).1 with
  | .ok raw => task.settle job raw
  | .error error => .error (.fetch error)

def due (task : Task) (link : Link) : Slot → Except SyncError AdaptedFile
  | .running job extra => task.rest job extra link
  | .finished result => result

def alone (task : Task) (link : Link) (job : Job) : Except SyncError AdaptedFile := task.due link (task.start job)

def url? (task : Task) : Slot → Option String
  | .running job _ => some (task.url job)
  | .finished _ => none

def Clear (task : Task) (host : Host) (slot other : Slot) : Prop :=
  ∀ url, task.url? slot = some url → ∀ url', task.url? other = some url' → host.Apart url url'

theorem due_running (task : Task) (link : Link) (job : Job) (extra : Nat) :
    task.due link (.running job extra) = task.rest job extra link := rfl

theorem due_finished (task : Task) (link : Link) (result : Except SyncError AdaptedFile) :
    task.due link (.finished result) = result := rfl

theorem rest_agree (task : Task) (job : Job) (extra : Nat) (link link' : Link)
    (agree : Host.Agree (task.url job) link.host link'.host) : task.rest job extra link = task.rest job extra link' := by
  rw [rest, rest, fetch_agree _ extra link link' agree]

theorem work_host (task : Task) (job : Job) (extra : Nat) (link : Link) :
    ∃ start, start.host = link.host ∧ (task.work job extra link).2.host = (Attempt.make (task.url job) start).2.host := by
  refine ⟨if extra + 1 = attemptsFor task.attempts then link.note (.fetching (task.url job)) else link,
    fetching_host task extra link _, ?_⟩
  fun_cases work task job extra link with
  | case1 extra url start raw left made => rw [made, Link.note_all_host]
  | case2 url error left extra start made => rw [made, Link.note_host]
  | case3 extra url start transient error left made last => rw [made]

theorem work_due (task : Task) (job : Job) (extra : Nat) (link : Link) :
    task.due (task.work job extra link).2 (task.work job extra link).1 = task.rest job extra link := by
  have same := fun start (noted : start.host = link.host) =>
    task.rest_agree job extra link start (Host.agree_same _ _ _ noted.symm)
  fun_cases work task job extra link with
  | case1 extra url start raw left made =>
      rw [same start (fetching_host task extra link _), rest, fetch_step, made]
      rfl
  | case2 url error left extra start made =>
      rw [same start (fetching_host task (extra + 1) link _), rest, fetch_step, made]
      simp only [due, rest]
  | case3 extra url start transient error left made last =>
      rw [same start (fetching_host task extra link _), rest, fetch_step, made]
      cases transient with
      | false => rfl
      | true =>
          cases extra with
          | zero => rfl
          | succ extra => exact (last extra rfl rfl).elim

theorem work_url (task : Task) (job : Job) (extra : Nat) (link : Link) :
    ∀ url, task.url? (task.work job extra link).1 = some url → task.url job = url := by
  fun_cases work task job extra link with
  | case1 | case3 =>
      intro url asks
      cases asks
  | case2 =>
      intro url asks
      exact Option.some.inj asks

theorem clear_symm (task : Task) (host : Host) (slot other : Slot) (clear : task.Clear host slot other) :
    task.Clear host other slot :=
  fun url asks url' asks' => host.apart_symm _ _ (clear url' asks' url asks)

theorem clear_stable (task : Task) (slot other : Slot) : Host.Stable fun host => task.Clear host slot other :=
  fun requested link clear url asks url' asks' => Host.apart_stable url url' requested link (clear url asks url' asks')

theorem work_clear (task : Task) (job : Job) (extra : Nat) (link : Link) (host : Host) (slot : Slot)
    (clear : task.Clear host (.running job extra) slot) : task.Clear host (task.work job extra link).1 slot := by
  intro url asks
  exact clear url (congrArg some (task.work_url job extra link url asks))

theorem work_others (task : Task) (job : Job) (extra : Nat) (link : Link) (slot : Slot)
    (clear : task.Clear link.host (.running job extra) slot) :
    task.due (task.work job extra link).2 slot = task.due link slot := by
  cases slot with
  | finished result => rw [due_finished, due_finished]
  | running other more =>
      obtain ⟨start, noted, after⟩ := task.work_host job extra link
      have agree : Host.Agree (task.url other) (task.work job extra link).2.host link.host := by
        rw [after, ← noted]
        exact make_apart _ _ start (noted ▸ clear _ rfl _ rfl)
      rw [due_running, due_running]
      exact task.rest_agree other more _ link agree

section Step

variable (task : Task) (front back : List Slot) (job : Job) (extra : Nat) (link : Link)
  (clear : (front ++ .running job extra :: back).Pairwise (task.Clear link.host))

include clear

theorem step_due : (front ++ (task.work job extra link).1 :: back).map (task.due (task.work job extra link).2) =
    (front ++ .running job extra :: back).map (task.due link) := by
  obtain ⟨_, tail, before⟩ := List.pairwise_append.mp clear
  have after := (List.pairwise_cons.mp tail).1
  rw [List.map_append, List.map_append, List.map_cons, List.map_cons, work_due]
  have early : front.map (task.due (task.work job extra link).2) = front.map (task.due link) :=
    List.map_congr_left fun slot member =>
      task.work_others job extra link slot (task.clear_symm _ _ _ (before slot member _ List.mem_cons_self))
  have late : back.map (task.due (task.work job extra link).2) = back.map (task.due link) :=
    List.map_congr_left fun slot member => task.work_others job extra link slot (after slot member)
  rw [early, late, due_running]

theorem step_clear :
    (front ++ (task.work job extra link).1 :: back).Pairwise (task.Clear (task.work job extra link).2.host) := by
  obtain ⟨inner, tail, before⟩ := List.pairwise_append.mp clear
  obtain ⟨after, outer⟩ := List.pairwise_cons.mp tail
  have moved : (front ++ (task.work job extra link).1 :: back).Pairwise (task.Clear link.host) := by
    refine List.pairwise_append.mpr ⟨inner, List.pairwise_cons.mpr ⟨fun slot member => ?_, outer⟩,
      fun slot member other inside => ?_⟩
    · exact task.work_clear job extra link _ slot (after slot member)
    · rcases List.mem_cons.mp inside with rfl | later
      · exact task.clear_symm _ _ _ (task.work_clear job extra link _ slot
          (task.clear_symm _ _ _ (before slot member _ List.mem_cons_self)))
      · exact before slot member other (List.mem_cons_of_mem _ later)
  obtain ⟨start, noted, same⟩ := task.work_host job extra link
  refine moved.imp fun {slot other} kept => ?_
  rw [same]
  exact task.clear_stable slot other _ start (noted ▸ kept)

end Step

theorem advance_step (task : Task) (n : Nat) (slots : List Slot) (link : Link)
    (inside : n < slots.countP Slot.isRunning) :
    ∃ front job extra back, slots = front ++ .running job extra :: back ∧
      task.advance n slots link = (front ++ (task.work job extra link).1 :: back, (task.work job extra link).2) := by
  fun_induction advance task n slots link with
  | case1 => simp at inside
  | case2 n result rest link left link' made ih =>
      obtain ⟨front, job, extra, back, same, moved⟩ := ih (by simpa using inside)
      rw [made] at moved
      obtain ⟨rfl, rfl⟩ := Prod.mk.inj moved
      exact ⟨.finished result :: front, job, extra, back, congrArg _ same, rfl⟩
  | case3 job extra rest link slot link' made => exact ⟨[], job, extra, rest, rfl, by rw [made]; rfl⟩
  | case4 n job extra rest link left link' made ih =>
      obtain ⟨front, other, more, back, same, moved⟩ := ih (by simpa [List.countP_cons] using inside)
      rw [made] at moved
      obtain ⟨rfl, rfl⟩ := Prod.mk.inj moved
      exact ⟨.running job extra :: front, other, more, back, congrArg _ same, rfl⟩

theorem filled_whole (task : Task) (limit : Nat) (waiting : List Job) (slots : List Slot) :
    slots ++ waiting.map task.start =
      task.filled limit waiting slots ++ (waiting.drop (room limit slots)).map task.start := by
  rw [filled, List.append_assoc, ← List.map_append, List.take_append_drop]

theorem run_due (task : Task) (limit : Nat) (timing : Nat → Nat) (step : Nat) (waiting : List Job) (slots : List Slot)
    (link : Link) (some : 0 < limit) (clear : (slots ++ waiting.map task.start).Pairwise (task.Clear link.host)) :
    (task.run limit timing step waiting slots link).1 = inOrder ((slots ++ waiting.map task.start).map (task.due link)) := by
  fun_induction run task limit timing step waiting slots link with
  | case1 step waiting slots link none =>
      obtain ⟨rfl, none⟩ := List.append_eq_nil_iff.mp none
      -- Nothing is in flight although there is room, so nothing waits.
      have empty : waiting = [] := by
        rcases List.take_eq_nil_iff.mp (List.map_eq_nil_iff.mp none) with full | empty
        · rw [room, List.length_nil] at full
          omega
        · exact empty
      rw [empty]
      rfl
  | case2 step waiting slots link error later begun =>
      rw [filled_whole, begun]
      rfl
  | case3 step waiting slots link file later begun _ left made ih
  | case4 step waiting slots link file later begun _ left made ih =>
      rw [filled_whole, begun] at clear ⊢
      have ended := ih (List.pairwise_cons.mp clear).2
      rw [made] at ended
      rw [List.cons_append, List.map_cons, due, inOrder, ← ended]
  | case5 step waiting slots link job extra later begun busy turn moved ih =>
      have inside : turn < busy.countP Slot.isRunning := Nat.mod_lt _ (by simp [busy])
      obtain ⟨front, other, more, back, same, worked⟩ := task.advance_step turn busy link inside
      rw [filled_whole, begun] at clear ⊢
      change (busy ++ _).Pairwise _ at clear
      change _ = inOrder ((busy ++ _).map _)
      rw [same, List.append_assoc, List.cons_append] at clear ⊢
      rw [← task.step_due front _ other more link clear]
      simp only [moved, worked, List.append_assoc, List.cons_append] at ih ⊢
      exact ih (task.step_clear front _ other more link clear)

theorem due_start (task : Task) (link : Link) (jobs : List Job) :
    (jobs.map task.start).map (task.due link) = jobs.map (task.alone link) := by
  induction jobs with
  | nil => rfl
  | cons job later ih => rw [List.map_cons, List.map_cons, List.map_cons, ih, alone]

def Separate (task : Task) (host : Host) : Prop := (task.config.jobs.map task.url).Pairwise host.Apart

def twins : Task :=
  ⟨{ Config.sample with files := ⟨[("./a.ts", []), ("a.ts", [])], by decide⟩ }, .pinned Config.sample "1", 1⟩

def twinLink : Link :=
  ⟨(Host.empty true).serve "http://h/1/t/a.ts"
    [.answered 200 none "it".toUTF8 false, .answered 200 none "it it".toUTF8 false], [], []⟩

theorem shared_address_shows_timing :
    (twins.adaptAll 2 (fun _ => 0) twinLink).1.toOption ≠ (twins.adaptAll 2 (fun _ => 1) twinLink).1.toOption := by
  decide +kernel

theorem separate_clear (task : Task) (host : Host) (separate : task.Separate host) :
    (task.config.jobs.map task.start).Pairwise (task.Clear host) := by
  refine List.pairwise_map.mpr ((List.pairwise_map.mp separate).imp ?_)
  rintro job other apart _ ⟨⟩ _ ⟨⟩
  exact apart

theorem adapt_all_due (task : Task) (parallel : Nat) (timing : Nat → Nat) (link : Link) (separate : task.Separate link.host) :
    (task.adaptAll parallel timing link).1 = inOrder (task.config.jobs.map (task.alone link)) := by
  rw [adaptAll, task.run_due _ timing 0 _ [] link (by omega) (task.separate_clear _ separate), List.nil_append, due_start]

end Task

end SuiteSync
