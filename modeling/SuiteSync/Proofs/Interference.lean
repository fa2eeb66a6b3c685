import SuiteSync.Proofs.Fetch

set_option autoImplicit false

namespace SuiteSync

namespace Host

def Agree (url : String) (host host' : Host) : Prop :=
  (host.reachable = host'.reachable ∧ ∀ address, Address.parse? url = some address →
    host.replies.lookup address.sent = host'.replies.lookup address.sent) ∨
    ∃ reply, host.Gives url reply ∧ host'.Gives url reply

theorem agree_same (url : String) (host host' : Host) (same : host = host') : Agree url host host' :=
  .inl ⟨congrArg reachable same, fun address _ => congrArg (fun side => side.replies.lookup address.sent) same⟩

def Apart (host : Host) (url other : String) : Prop :=
  (∀ address address', Address.parse? url = some address → Address.parse? other = some address' →
    address.sent ≠ address'.sent) ∨
    ((∃ reply, host.Gives url reply) ∧ ∃ reply, host.Gives other reply)

theorem apart_symm (host : Host) (url other : String) (apart : host.Apart url other) : host.Apart other url :=
  apart.imp (fun different address address' read read' same => different address' address read' read same.symm) And.symm

theorem apart_stable (url other : String) : Stable fun host => host.Apart url other := by
  intro requested link apart
  refine apart.imp id fun constant => ?_
  obtain ⟨⟨reply, gives⟩, reply', gives'⟩ := constant
  exact ⟨⟨reply, gives_stable url reply requested link gives⟩, reply', gives_stable other reply' requested link gives'⟩

end Host

theorem make_apart (url other : String) (link : Link) (apart : link.host.Apart url other) :
    Host.Agree other (Attempt.make url link).2.host link.host := by
  rcases apart with different | ⟨_, reply, gives⟩
  · rcases make_host url link with same | ⟨address, read, same⟩
    · exact Host.agree_same _ _ _ same
    · refine .inl ⟨by rw [same, Host.answer_reachable], fun address' read' => ?_⟩
      rw [same, Host.answer_lookup, if_neg (Ne.symm (different address address' read read'))]
  · exact .inr ⟨reply, Host.gives_stable other reply url link gives, gives⟩

theorem make_agree (url : String) (link link' : Link) (agree : Host.Agree url link.host link'.host) :
    (Attempt.make url link).1 = (Attempt.make url link').1 ∧
      Host.Agree url (Attempt.make url link).2.host (Attempt.make url link').2.host := by
  rcases agree with ⟨reachable, alike⟩ | ⟨reply, gives, gives'⟩
  · have same : link.host.reached? url = link'.host.reached? url := by
      rw [Host.reached?, Host.reached?, reachable]
    rw [attempt_made, attempt_made, Host.deals, Host.deals, same]
    cases reached : link'.host.reached? url with
    | none => exact ⟨rfl, .inl ⟨reachable, alike⟩⟩
    | some sent =>
        obtain ⟨address, read, rfl⟩ := Option.map_eq_some_iff.mp (Host.reached_sent _ _ _ reached)
        have held := alike address read
        refine ⟨by simp only [held], .inl ⟨?_, fun other parsed => ?_⟩⟩
        · exact (Host.answer_reachable _ _).trans (reachable.trans (Host.answer_reachable _ _).symm)
        · cases read.symm.trans parsed
          simp only [Option.elim, Host.answer_lookup, held]
  · constructor
    · rw [attempt_ending url reply link gives, attempt_ending url reply link' gives']
    · exact .inr ⟨reply, Host.gives_stable url reply url link gives, Host.gives_stable url reply url link' gives'⟩

theorem fetch_step (url : String) (extra : Nat) (link : Link) :
    (fetchWithin url extra link).1 =
      match (Attempt.make url link).1, extra with
      | .page text, _ => .ok text
      | .failed true error, extra + 1 =>
          (fetchWithin url extra ((Attempt.make url link).2.note (.retrying error.message retryPause))).1
      | .failed _ error, _ => .error error := by
  fun_cases fetchWithin url extra link with
  | case1 extra link text left made => rw [made]
  | case2 link error left extra made => rw [made]
  | case3 extra link transient error left made last =>
      rw [made]
      cases transient with
      | false => rfl
      | true =>
          cases extra with
          | zero => rfl
          | succ extra => exact (last extra rfl rfl).elim

theorem fetch_agree (url : String) (extra : Nat) (link link' : Link) (agree : Host.Agree url link.host link'.host) :
    (fetchWithin url extra link).1 = (fetchWithin url extra link').1 := by
  induction extra generalizing link link' with
  | zero =>
      rw [fetch_step, fetch_step url 0 link', (make_agree url link link' agree).1]
      cases (Attempt.make url link').1 with
      | page text => rfl
      | failed transient error => cases transient <;> rfl
  | succ extra ih =>
      obtain ⟨same, after⟩ := make_agree url link link' agree
      rw [fetch_step, fetch_step url (extra + 1) link', same]
      cases (Attempt.make url link').1 with
      | page text => rfl
      | failed transient error =>
          cases transient with
          | false => rfl
          | true =>
              apply ih
              simpa using after

end SuiteSync
