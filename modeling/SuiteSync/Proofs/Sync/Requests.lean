import SuiteSync.Proofs.Sync.Window

set_option autoImplicit false

namespace SuiteSync

structure Link.Asked (urls : List String) (link left : Link) : Prop where
  events : ∃ more, left.events = link.events ++ more ∧ ∀ url, Event.requested url ∈ more → url ∈ urls
  requests : ∃ more, left.requests = link.requests ++ more ∧
    ∀ sent ∈ more, ∃ url ∈ urls, (Address.parse? url).map Address.sent = some sent

namespace Link

theorem asked_refl (urls : List String) (link : Link) : Asked urls link link :=
  ⟨⟨[], (List.append_nil _).symm, nofun⟩, [], (List.append_nil _).symm, nofun⟩

theorem asked_trans (urls : List String) (first second third : Link) (one : Asked urls first second)
    (two : Asked urls second third) : Asked urls first third := by
  obtain ⟨⟨events, said, known⟩, requests, asked, sent⟩ := one
  obtain ⟨⟨events', said', known'⟩, requests', asked', sent'⟩ := two
  refine ⟨⟨events ++ events', ?_, fun url member => ?_⟩, requests ++ requests', ?_, fun address member => ?_⟩
  · rw [said', said, List.append_assoc]
  · exact (List.mem_append.mp member).elim (known url) (known' url)
  · rw [asked', asked, List.append_assoc]
  · exact (List.mem_append.mp member).elim (sent address) (sent' address)

theorem asked_mono (urls wider : List String) (link left : Link) (asked : Asked urls link left)
    (wide : ∀ url ∈ urls, url ∈ wider) : Asked wider link left := by
  obtain ⟨⟨events, said, known⟩, requests, more, sent⟩ := asked
  refine ⟨⟨events, said, fun url member => wide url (known url member)⟩, requests, more, fun address member => ?_⟩
  obtain ⟨url, inside, same⟩ := sent address member
  exact ⟨url, wide url inside, same⟩

theorem asked_note_all (urls : List String) (link : Link) (events : List Event)
    (quiet : ∀ url, Event.requested url ∉ events) : Asked urls link (link.noteAll events) :=
  ⟨⟨events, rfl, fun url member => absurd member (quiet url)⟩, [], (List.append_nil _).symm, nofun⟩

theorem asked_note (urls : List String) (link : Link) (event : Event) (quiet : ∀ url, Event.requested url ≠ event) :
    Asked urls link (link.note event) :=
  asked_note_all urls link [event] fun url member => quiet url (List.mem_singleton.mp member)

end Link

theorem make_asked (url : String) (link : Link) : Link.Asked [url] link (Attempt.make url link).2 := by
  rw [attempt_made]
  refine ⟨⟨_, rfl, fun other member => ?_⟩, _, rfl, fun sent member => ⟨url, List.mem_singleton_self _, ?_⟩⟩
  · exact List.mem_singleton.mpr (Event.requested.inj (List.mem_singleton.mp member))
  · exact Host.reached_sent _ _ _ (Option.mem_toList.mp member)

theorem skip_events_quiet (file : String) (excluded : List String) (text : List Char) (url : String) :
    Event.requested url ∉ Adaptation.skipEvents file excluded text := by
  fun_induction Adaptation.skipEvents file excluded text with
  | case1 => exact List.not_mem_nil
  | case2 => exact nofun
  | case3 text test later edited done ih =>
      intro member
      rcases List.mem_cons.mp member with same | inside
      · cases same
      · exact ih inside

theorem adaptation_quiet (config : Config) (url file source : String) (excluded : List String) (other : String) :
    Event.requested other ∉ Adaptation.events config url file source excluded := by
  have skipping := fun text => skip_events_quiet file excluded text other
  unfold Adaptation.events
  split
  · exact nofun
  · dsimp only
    split
    · split <;> split <;> simp [skipping]
    · split <;> simp

namespace Task

theorem work_asked (task : Task) (job : Job) (extra : Nat) (link : Link) :
    Link.Asked [task.url job] link (task.work job extra link).2 := by
  have begun : Link.Asked [task.url job] link
      (if extra + 1 = attemptsFor task.attempts then link.note (.fetching (task.url job)) else link) := by
    split
    · exact Link.asked_note _ _ _ fun _ same => Event.noConfusion same
    · exact Link.asked_refl _ _
  have asked := Link.asked_trans _ _ _ _ begun (make_asked (task.url job) _)
  fun_cases work task job extra link with
  | case1 extra url start raw left made =>
      rw [made] at asked
      exact Link.asked_trans _ _ _ _ asked (Link.asked_note_all _ _ _ (adaptation_quiet _ _ _ _ _))
  | case2 url error left extra start made =>
      rw [made] at asked
      exact Link.asked_trans _ _ _ _ asked (Link.asked_note _ _ _ fun _ same => Event.noConfusion same)
  | case3 extra url start transient error left made last =>
      rw [made] at asked
      exact asked

def urls (task : Task) (slots : List Slot) : List String := slots.filterMap task.url?

theorem urls_step (task : Task) (front back : List Slot) (job : Job) (extra : Nat) (link : Link) (count : Nat) (url : String)
    (member : url ∈ task.urls ((front ++ (task.work job extra link).1 :: back).take count)) :
    url ∈ task.urls ((front ++ .running job extra :: back).take count) := by
  rw [urls, List.take_append, List.filterMap_append, List.mem_append] at member ⊢
  refine member.imp id fun later => ?_
  cases shape : count - front.length with
  | zero =>
      rw [shape] at later
      exact later
  | succ n =>
      rw [shape, List.take_succ_cons, List.mem_filterMap] at later
      rw [List.take_succ_cons, List.mem_filterMap]
      obtain ⟨slot, inside, asks⟩ := later
      rcases List.mem_cons.mp inside with rfl | inside
      · exact ⟨_, List.mem_cons_self, congrArg some (task.work_url job extra link url asks)⟩
      · exact ⟨slot, List.mem_cons_of_mem _ inside, asks⟩

theorem urls_running (task : Task) (front back : List Slot) (job : Job) (extra count : Nat) (inside : front.length < count) :
    task.url job ∈ task.urls ((front ++ .running job extra :: back).take count) := by
  refine List.mem_filterMap.mpr ⟨.running job extra, ?_, rfl⟩
  rw [List.take_append]
  refine List.mem_append_right _ ?_
  cases shape : count - front.length with
  | zero => omega
  | succ n => exact List.mem_cons_self

theorem filled_length (task : Task) (limit : Nat) (waiting : List Job) (slots : List Slot) (full : slots.length ≤ limit) :
    (task.filled limit waiting slots).length ≤ limit := by
  rw [filled, List.length_append, List.length_map, List.length_take, room]
  omega

theorem run_asked (task : Task) (limit : Nat) (timing : Nat → Nat) (step : Nat) (waiting : List Job) (slots : List Slot)
    (link : Link) (full : slots.length ≤ limit) (clear : (slots ++ waiting.map task.start).Pairwise (task.Clear link.host))
    (done : List AdaptedFile) (error : SyncError) (behind : List (Except SyncError AdaptedFile))
    (dues : (slots ++ waiting.map task.start).map (task.due link) = done.map .ok ++ .error error :: behind) :
    Link.Asked (task.urls ((slots ++ waiting.map task.start).take (done.length + limit))) link
      (task.run limit timing step waiting slots link).2 := by
  fun_induction run task limit timing step waiting slots link generalizing done with
  | case1 | case2 => exact Link.asked_refl _ _
  | case3 step waiting slots link file later begun _ left made ih
  | case4 step waiting slots link file later begun _ left made ih =>
      have short := task.filled_length limit waiting slots full
      rw [filled_whole, begun] at clear dues ⊢
      rw [begun] at short
      cases done with
      | nil => cases dues
      | cons first done =>
          have asked := ih (Nat.le_of_succ_le short) (List.pairwise_cons.mp clear).2 done (List.cons.inj dues).2
          rw [made] at asked
          rw [List.length_cons, Nat.succ_add, List.cons_append, List.take_succ_cons]
          exact asked
  | case5 step waiting slots link job extra later begun busy turn moved ih =>
      have short := task.filled_length limit waiting slots full
      have inside : turn < busy.countP Slot.isRunning := Nat.mod_lt _ (by simp [busy])
      obtain ⟨front, other, more, back, same, worked⟩ := task.advance_step turn busy link inside
      rw [filled_whole, begun] at clear dues ⊢
      rw [begun] at short
      change busy.length ≤ _ at short
      change (busy ++ _).Pairwise _ at clear
      change (busy ++ _).map _ = _ at dues
      change Link.Asked (task.urls ((busy ++ _).take _)) _ _
      rw [same] at short
      rw [same, List.append_assoc, List.cons_append] at clear dues ⊢
      rw [← task.step_due front _ other more link clear] at dues
      simp only [moved, worked, List.append_assoc, List.cons_append] at ih ⊢
      rw [List.length_append, List.length_cons] at short
      have after := ih (by rw [List.length_append, List.length_cons]; exact short)
        (task.step_clear front _ other more link clear) done dues
      have flying := task.urls_running front (back ++ (waiting.drop (room limit slots)).map task.start) other more
        (done.length + limit) (by omega)
      refine Link.asked_trans _ _ _ _ (Link.asked_mono _ _ _ _ (task.work_asked other more link) ?_)
        (Link.asked_mono _ _ _ _ after fun url member => task.urls_step _ _ _ _ _ _ _ member)
      exact List.forall_mem_singleton.mpr flying

def FailsFirst (task : Task) (limit : Nat) (link left : Link) (error : SyncError) : Prop :=
  ∃ front job back, task.config.jobs = front ++ job :: back ∧ (∀ earlier ∈ front, ∃ file, task.alone link earlier = .ok file) ∧
    task.alone link job = .error error ∧
    Link.Asked ((task.config.jobs.take (front.length + limit)).map task.url) link left

theorem urls_start (task : Task) (jobs : List Job) : task.urls (jobs.map task.start) = jobs.map task.url := by
  rw [urls, List.filterMap_map]
  exact congrFun (List.filterMap_eq_map' (f := task.url)) jobs

theorem adapt_all_fails (task : Task) (parallel : Nat) (timing : Nat → Nat) (link left : Link) (error : SyncError)
    (separate : task.Separate link.host) (run : task.adaptAll parallel timing link = (.error error, left)) :
    task.FailsFirst (max parallel 1) link left error := by
  have failed := task.adapt_all_due parallel timing link separate
  rw [run] at failed
  obtain ⟨done, behind, dues⟩ := in_order_error _ error failed.symm
  obtain ⟨front, tail, split, early, late⟩ := List.map_eq_append_iff.mp dues
  obtain ⟨job, back, rfl, due, _⟩ := List.map_eq_cons_iff.mp late
  have count : front.length = done.length := by simpa using congrArg List.length early
  refine ⟨front, job, back, split, fun earlier member => ?_, due, ?_⟩
  · have fine : task.alone link earlier ∈ done.map .ok := early ▸ List.mem_map_of_mem member
    obtain ⟨file, _, same⟩ := List.mem_map.mp fine
    exact ⟨file, same.symm⟩
  · have asked := task.run_asked (max parallel 1) timing 0 task.config.jobs [] link (Nat.zero_le _)
      (task.separate_clear _ separate) done error behind (by rw [List.nil_append, due_start, dues])
    rw [← adaptAll, run, List.nil_append, ← List.map_take, urls_start, ← count] at asked
    exact asked

end Task

end SuiteSync
