import Mathlib.Order.Bounds.Basic
import SuiteSync.Fetch.Attempts
import SuiteSync.Proofs.Fetch

set_option autoImplicit false

namespace SuiteSync

def Reply.mayPass : Reply → Bool
  | .dropped => true
  | .answered status _ _ truncated =>
      status / 100 == 5 || status == 429 || (status / 100 == 2 && status != 204 && truncated)

theorem Status.success_iff (status : Nat) : Status.isSuccess status = true ↔ status / 100 = 2 := by
  simp only [Status.isSuccess, Bool.and_eq_true, decide_eq_true_eq]
  omega

theorem Status.transient_iff (status : Nat) : Status.isTransient status = true ↔ status / 100 = 5 ∨ status = 429 := by
  simp only [Status.isTransient, Bool.or_eq_true, Bool.and_eq_true, decide_eq_true_eq, beq_iff_eq]
  omega

namespace Attempt

theorem of_reply_transient (url address : String) (reply : Reply) :
    (ofReply url address reply).isTransient = reply.mayPass := by
  cases reply with
  | dropped => rfl
  | answered status contentType body truncated =>
      rw [Bool.eq_iff_iff, ofReply, Reply.mayPass]
      simp only [Bool.or_eq_true, Bool.and_eq_true, beq_iff_eq, bne_iff_ne]
      by_cases success : status / 100 = 2
      · have served : status / 100 ≠ 5 ∧ status ≠ 429 := by omega
        have bodyless : Status.isBodyless status = true ↔ status = 204 := by
          simp only [Status.isBodyless, Bool.or_eq_true, beq_iff_eq]
          omega
        rw [(Status.success_iff status).mpr success]
        by_cases empty : status = 204
        · rw [bodyless.mpr empty]
          simp [empty]
        · rw [(Bool.not_eq_true _).mp (mt bodyless.mp empty)]
          cases truncated <;> simp [success, served, empty]
      · rw [(Bool.not_eq_true _).mp (mt (Status.success_iff status).mp success), Bool.not_false, if_pos rfl, failed_transient,
          Status.transient_iff]
        simp [success]

end Attempt

theorem ending_transient (host : Host) (url : String) (turn : Nat) :
    (Attempt.ending url (host.deals url turn)).isTransient = (host.deals url turn).mayPass := by
  rw [Attempt.ending, Host.deals, Host.reached?]
  cases read : Address.parse? url with
  | none => rfl
  | some address =>
      cases request : Address.isRequestScheme address.scheme with
      | false => simp [request, Reply.mayPass]
      | true => simp [request, Attempt.of_reply_transient]

def pausedLink (url : String) (error : FetchError) (link : Link) : Link :=
  (Attempt.make url link).2.note (.retrying error.message retryPause)

theorem paused_reached (url : String) (error : FetchError) (link : Link) :
    (pausedLink url error link).host.reached? url = link.host.reached? url := by
  rw [pausedLink, attempt_made]
  cases reached : link.host.reached? url with
  | none => exact reached
  | some address =>
      have kept := Host.answer_reachable link.host address
      simp only [Host.reached?, Link.note_host, Option.elim, kept]
      exact reached

theorem paused_deals (url : String) (error : FetchError) (link : Link) (turn : Nat) :
    (pausedLink url error link).host.deals url turn = link.host.deals url (turn + 1) := by
  rw [Host.deals, Host.deals, paused_reached, pausedLink, attempt_made]
  cases reached : link.host.reached? url with
  | none => rfl
  | some address => exact Host.answer_next_turn link.host address turn

theorem fetch_settled (url : String) (extra : Nat) (link : Link)
    (settled : extra = 0 ∨ (link.host.deals url 0).mayPass = false) :
    fetchWithin url extra link = ((Attempt.ending url (link.host.deals url 0)).result, (Attempt.make url link).2) := by
  have made := attempt_made url link
  rw [← ending_transient] at settled
  unfold fetchWithin
  cases ended : Attempt.ending url (link.host.deals url 0) with
  | page text =>
      rw [ended] at made
      simp [made]
  | failed transient error =>
      rw [ended] at made settled
      rcases settled with rfl | rfl
      · simp [made]
      · simp [made]

theorem fetch_again (url : String) (extra : Nat) (link : Link) (passing : (link.host.deals url 0).mayPass = true) :
    ∃ error, Attempt.ending url (link.host.deals url 0) = .failed true error ∧
      fetchWithin url (extra + 1) link = fetchWithin url extra (pausedLink url error link) := by
  have made := attempt_made url link
  rw [← ending_transient] at passing
  cases ended : Attempt.ending url (link.host.deals url 0) with
  | page text =>
      rw [ended] at passing
      cases passing
  | failed transient error =>
      rw [ended] at made passing
      obtain rfl : transient = true := passing
      refine ⟨error, rfl, ?_⟩
      rw [pausedLink, fetchWithin.eq_def]
      simp only [made]

def decidingTurn : Nat → (Nat → Bool) → Nat
  | 0, _ => 0
  | extra + 1, passing => if passing 0 then decidingTurn extra (fun turn => passing (turn + 1)) + 1 else 0

theorem deciding_turn_least (extra : Nat) (passing : Nat → Bool) :
    IsLeast {turn | turn = extra ∨ passing turn = false} (decidingTurn extra passing) := by
  induction extra generalizing passing with
  | zero => exact ⟨.inl rfl, fun turn _ => Nat.zero_le turn⟩
  | succ extra ih =>
      rw [decidingTurn]
      split
      · rename_i passes
        obtain ⟨reached, least⟩ := ih fun turn => passing (turn + 1)
        refine ⟨reached.imp_left (congrArg (· + 1)), fun turn member => ?_⟩
        cases turn with
        | zero => exact absurd (member.resolve_left (Nat.succ_ne_zero extra).symm) (passes ▸ Bool.noConfusion)
        | succ turn => exact Nat.succ_le_succ (least (member.imp_left Nat.succ.inj))
      · rename_i fails
        exact ⟨.inr ((Bool.not_eq_true _).mp fails), fun turn _ => Nat.zero_le turn⟩

structure Attempted (url : String) (before after : Link) (attempts : Nat) : Prop where
  noted : after.events.count (.requested url) = before.events.count (.requested url) + attempts
  asked : after.requests = before.requests ++ (List.replicate attempts (before.host.reached? url).toList).flatten

theorem attempted_once (url : String) (link : Link) : Attempted url link (Attempt.make url link).2 1 := by
  rw [attempt_made]
  exact ⟨by simp, by simp⟩

theorem attempted_again (url : String) (error : FetchError) (link left : Link) (attempts : Nat)
    (more : Attempted url (pausedLink url error link) left attempts) : Attempted url link left (attempts + 1) := by
  obtain ⟨noted, asked⟩ := more
  rw [paused_reached] at asked
  rw [pausedLink, attempt_made] at noted asked
  refine ⟨?_, ?_⟩
  · rw [noted]
    simp [Nat.add_assoc, Nat.add_comm 1]
  · rw [asked, List.replicate_succ, List.flatten_cons]
    simp

def lastTurn (url : String) (extra : Nat) (link : Link) : Nat :=
  decidingTurn extra fun turn => (link.host.deals url turn).mayPass

theorem last_turn_settled (url : String) (extra : Nat) (link : Link)
    (settled : extra = 0 ∨ (link.host.deals url 0).mayPass = false) : lastTurn url extra link = 0 := by
  cases extra with
  | zero => rfl
  | succ extra =>
      have final := settled.resolve_left (Nat.succ_ne_zero extra)
      simp [lastTurn, decidingTurn, final]

theorem last_turn_again (url : String) (extra : Nat) (error : FetchError) (link : Link)
    (passing : (link.host.deals url 0).mayPass = true) :
    lastTurn url (extra + 1) link = lastTurn url extra (pausedLink url error link) + 1 := by
  simp only [lastTurn, decidingTurn, passing, if_true, paused_deals]

theorem fetch_within_last (url : String) (extra : Nat) (link : Link) :
    (fetchWithin url extra link).1 = (Attempt.ending url (link.host.deals url (lastTurn url extra link))).result ∧
      Attempted url link (fetchWithin url extra link).2 (lastTurn url extra link + 1) := by
  by_cases settled : extra = 0 ∨ (link.host.deals url 0).mayPass = false
  · rw [fetch_settled url extra link settled, last_turn_settled url extra link settled]
    exact ⟨rfl, attempted_once url link⟩
  · obtain ⟨extra, rfl⟩ := Nat.exists_eq_succ_of_ne_zero (mt .inl settled)
    have passing := (Bool.not_eq_false _).mp (mt .inr settled)
    obtain ⟨error, _, again⟩ := fetch_again url extra link passing
    obtain ⟨ended, attempted⟩ := fetch_within_last url extra (pausedLink url error link)
    rw [paused_deals] at ended
    rw [again, last_turn_again url extra error link passing]
    exact ⟨ended, attempted_again url error link _ _ attempted⟩

theorem counted_settled (url : String) (limit : UInt32) (tally : Tally)
    (settled : limit ≤ tally.attempts + 1 ∨ (tally.link.host.deals url 0).mayPass = false) :
    ∃ ended, countedAttempt url limit tally = (ended, ⟨tally.attempts + 1, (Attempt.make url tally.link).2⟩) ∧
      ended.isTransient = false ∧ ended.result = (Attempt.ending url (tally.link.host.deals url 0)).result := by
  have made := attempt_made url tally.link
  rw [← ending_transient] at settled
  cases ended : Attempt.ending url (tally.link.host.deals url 0) with
  | page text =>
      rw [ended] at made
      exact ⟨.page text, by simp only [countedAttempt, made], rfl, rfl⟩
  | failed transient error =>
      rw [ended] at made settled
      refine ⟨.failed false error, ?_, rfl, rfl⟩
      cases transient with
      | false => simp only [countedAttempt, made]
      | true =>
          have last : limit ≤ tally.attempts + 1 := settled.resolve_right Bool.noConfusion
          simp only [countedAttempt, made, last, decide_true, Bool.not_true]

theorem counted_again (url : String) (limit : UInt32) (tally : Tally) (error : FetchError)
    (early : tally.attempts + 1 < limit)
    (ended : Attempt.ending url (tally.link.host.deals url 0) = .failed true error) :
    countedAttempt url limit tally =
      (.failed true error, ⟨tally.attempts + 1, (Attempt.make url tally.link).2⟩) := by
  have made := attempt_made url tally.link
  rw [ended] at made
  simp only [countedAttempt, made, UInt32.not_le.mpr early, decide_false, Bool.not_false]

theorem retrier_fetches (retrier : Retrier) (persists : retrier.Persists) (url : String) (limit : UInt32) (extra : Nat)
    (tally : Tally) (room : tally.attempts.toNat + (extra + 1) = limit.toNat) :
    ∃ left, retrier (countedAttempt url limit) notePause tally = Part.some ((fetchWithin url extra tally.link).1, left) ∧
      left.link = (fetchWithin url extra tally.link).2 ∧
      left.attempts.toNat = tally.attempts.toNat + (lastTurn url extra tally.link + 1) := by
  -- The count stays within the limit, so it never leaves its 32 bits.
  have counted : (tally.attempts + 1).toNat = tally.attempts.toNat + 1 := by
    have bound := limit.toNat_lt
    rw [UInt32.toNat_add, UInt32.toNat_one]
    exact Nat.mod_eq_of_lt (by omega)
  by_cases settled : extra = 0 ∨ (tally.link.host.deals url 0).mayPass = false
  · have final : limit ≤ tally.attempts + 1 ∨ (tally.link.host.deals url 0).mayPass = false := by
      refine settled.imp_left fun none => UInt32.le_iff_toNat_le.mpr ?_
      omega
    obtain ⟨ended, run, ends, same⟩ := counted_settled url limit tally final
    rw [fetch_settled url extra tally.link settled, last_turn_settled url extra tally.link settled]
    exact ⟨_, same ▸ persists.settles _ _ _ _ _ run ends, rfl, counted⟩
  · obtain ⟨extra, rfl⟩ := Nat.exists_eq_succ_of_ne_zero (mt .inl settled)
    have passing := (Bool.not_eq_false _).mp (mt .inr settled)
    obtain ⟨error, ended, again⟩ := fetch_again url extra tally.link passing
    have early : tally.attempts + 1 < limit := UInt32.lt_iff_toNat_lt.mpr (by omega)
    have run := counted_again url limit tally error early ended
    obtain ⟨left, fetched, link, attempts⟩ :=
      retrier_fetches retrier persists url limit extra ⟨tally.attempts + 1, pausedLink url error tally.link⟩
        (by simp only [counted]; omega)
    refine ⟨left, ?_, ?_, ?_⟩
    · rw [persists.repeats _ _ _ _ _ run, again]
      exact fetched
    · rw [again, link]
    · simp only [counted] at attempts
      rw [attempts, last_turn_again url extra error tally.link passing]
      omega

theorem limit_at_least_one (limit : UInt32) : (max limit 1).toNat = max limit.toNat 1 := by
  simp only [UInt32.max_def, Nat.max_def, UInt32.le_iff_toNat_le, UInt32.toNat_one]
  split <;> rfl

theorem last_turn_least (url : String) (limit : Nat) (link : Link) (replies : Nat → Reply)
    (given : ∀ turn < max limit 1, link.host.deals url turn = replies turn) :
    IsLeast {turn | turn + 1 = max limit 1 ∨ (replies turn).mayPass = false}
        (lastTurn url (attemptsFor limit - 1) link) ∧
      link.host.deals url (lastTurn url (attemptsFor limit - 1) link) =
        replies (lastTurn url (attemptsFor limit - 1) link) := by
  obtain ⟨member, least⟩ := deciding_turn_least (attemptsFor limit - 1) fun turn => (link.host.deals url turn).mayPass
  have allowed : attemptsFor limit - 1 + 1 = max limit 1 := Nat.sub_add_cancel (Nat.le_max_right limit 1)
  have within : lastTurn url (attemptsFor limit - 1) link ≤ attemptsFor limit - 1 := least (.inl rfl)
  have dealt := given (lastTurn url (attemptsFor limit - 1) link) (by omega)
  refine ⟨⟨?_, fun turn stops => ?_⟩, dealt⟩
  · refine member.imp (fun last => ?_) fun final => dealt ▸ final
    exact (congrArg (· + 1) last).trans allowed
  · by_cases early : turn < max limit 1
    · exact least (stops.imp (fun last => by omega) fun final => given turn early ▸ final)
    · exact Nat.le_trans within (by omega)

/-- A fetch stops after the first attempt whose outcome is final, or else after the last one that the limit allows, which is
never less than one. It makes exactly the attempts up to that one and ends as that one ends, and every retrier does the
same. -/
theorem fetch_attempts_bounded (retrier : Retrier) (persists : retrier.Persists) (url : String) (limit : UInt32) (link : Link)
    (replies : Nat → Reply) (given : ∀ turn < max limit.toNat 1, link.host.deals url turn = replies turn) :
    ∃ last left, IsLeast {turn | turn + 1 = max limit.toNat 1 ∨ (replies turn).mayPass = false} last ∧
      retrier (countedAttempt url (max limit 1)) notePause ⟨0, link⟩ =
        Part.some ((Attempt.ending url (replies last)).result, left) ∧
      fetchText url limit.toNat link = ((Attempt.ending url (replies last)).result, left.link) ∧
      left.attempts.toNat = last + 1 ∧ Attempted url link left.link (last + 1) := by
  have room : (0 : UInt32).toNat + (attemptsFor limit.toNat - 1 + 1) = (max limit 1).toNat := by
    have least := Nat.le_max_right limit.toNat 1
    rw [limit_at_least_one, attemptsFor, UInt32.toNat_zero]
    omega
  obtain ⟨left, run, same, counted⟩ := retrier_fetches retrier persists url (max limit 1) _ ⟨0, link⟩ room
  obtain ⟨ended, attempted⟩ := fetch_within_last url (attemptsFor limit.toNat - 1) link
  obtain ⟨least, dealt⟩ := last_turn_least url limit.toNat link replies given
  rw [dealt] at ended
  refine ⟨_, left, least, ended ▸ run, Prod.ext ended same.symm, ?_, same ▸ attempted⟩
  rw [counted, UInt32.toNat_zero, Nat.zero_add]

namespace Host

theorem in_turn_of_get (replies : List Reply) (turn : Nat) (reply : Reply) (there : replies[turn]? = some reply) :
    inTurn replies turn = reply := by
  induction turn generalizing replies with
  | zero => simpa [inTurn, List.headD_eq_head?_getD, List.head?_eq_getElem?] using congrArg (Option.getD · unknown) there
  | succ turn ih =>
      cases replies with
      | nil => cases there
      | cons first later =>
          cases later with
          | nil => cases there
          | cons second rest => exact ih (second :: rest) there

theorem serve_deals (host : Host) (url : String) (address : Address) (replies : Nat → Reply) (count turn : Nat)
    (read : Address.parse? url = some address) (request : Address.isRequestScheme address.scheme = true)
    (reachable : host.reachable = true) (early : turn < count) :
    (host.serve address.sent ((List.range count).map replies)).deals url turn = replies turn := by
  have reached : (host.serve address.sent ((List.range count).map replies)).reached? url = some address.sent := by
    simp [reached?, serve, read, request, reachable]
  rw [deals, reached, serve]
  refine in_turn_of_get _ _ _ ?_
  simp [early]

end Host

def failingTwice (lasting : Reply) : Nat → Reply
  | 0 => .answered 503 none ByteArray.empty false
  | 1 => .answered 200 none "i".toUTF8 true
  | _ => lasting

def notFoundReply : Reply := .answered 404 none ByteArray.empty false

def fullReply : Reply := .answered 200 none "it".toUTF8 false

def failingLink (lasting : Reply) : Link :=
  ⟨(Host.empty true).serve "http://h/a" ((List.range 5).map (failingTwice lasting)), [], []⟩

theorem sample_attempts : untilSettled.Persists ∧
    (∀ lasting, ∀ turn < max (5 : UInt32).toNat 1,
      (failingLink lasting).host.deals "http://h/a" turn = failingTwice lasting turn) ∧
    (∃ left, untilSettled (countedAttempt "http://h/a" (max 5 1)) notePause ⟨0, failingLink fullReply⟩ =
        Part.some (.ok "it", left) ∧
      left.attempts.toNat = 3 ∧ left.link.requests = ["http://h/a", "http://h/a", "http://h/a"]) ∧
    ∃ left, untilSettled (countedAttempt "http://h/a" (max 5 1)) notePause ⟨0, failingLink notFoundReply⟩ =
        Part.some (.error (.status "http://h/a" "404 Not Found"), left) ∧
      left.attempts.toNat = 3 ∧ left.link.requests = ["http://h/a", "http://h/a", "http://h/a"] := by
  have read : Address.parse? "http://h/a" = some ⟨"http", some "h", "/a", none, none⟩ := by decide +kernel
  have given : ∀ lasting, ∀ turn < max (5 : UInt32).toNat 1,
      (failingLink lasting).host.deals "http://h/a" turn = failingTwice lasting turn :=
    fun lasting turn early => Host.serve_deals (Host.empty true) _ _ (failingTwice lasting) 5 turn read (by decide) rfl early
  have third : ∀ lasting, lasting.mayPass = false → ∃ left,
      untilSettled (countedAttempt "http://h/a" (max 5 1)) notePause ⟨0, failingLink lasting⟩ =
        Part.some ((Attempt.ending "http://h/a" lasting).result, left) ∧
      left.attempts.toNat = 3 ∧ left.link.requests = ["http://h/a", "http://h/a", "http://h/a"] := by
    intro lasting final
    obtain ⟨last, left, ⟨member, least⟩, run, _, counted, attempted⟩ :=
      fetch_attempts_bounded untilSettled until_settled_persists "http://h/a" 5 (failingLink lasting) (failingTwice lasting)
        (given lasting)
    have bound : last ≤ 2 := least (.inr final)
    have later : last ≠ 0 ∧ last ≠ 1 := by
      constructor
      all_goals
        rintro rfl
        rcases member with limited | passed
        · exact absurd limited (by decide)
        · exact Bool.noConfusion passed
    obtain rfl : last = 2 := by omega
    have reached : (failingLink lasting).host.reached? "http://h/a" = some "http://h/a" := by
      rw [Host.reached?, read]
      rfl
    have asked := attempted.asked
    rw [reached] at asked
    exact ⟨left, run, counted, asked⟩
  have text : Attempt.ending "http://h/a" fullReply = .page "it" := by
    rw [Attempt.ending, read]
    decide +kernel
  have refused : Attempt.ending "http://h/a" notFoundReply = .failed false (.status "http://h/a" "404 Not Found") := by
    rw [Attempt.ending, read]
    decide
  have success := third fullReply (by decide)
  have failure := third notFoundReply (by decide)
  rw [text] at success
  rw [refused] at failure
  exact ⟨until_settled_persists, given, success, failure⟩

end SuiteSync
