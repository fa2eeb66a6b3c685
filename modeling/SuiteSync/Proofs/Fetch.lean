import SuiteSync.Version.Resolution

set_option autoImplicit false

namespace SuiteSync

namespace Host

def Always (host : Host) (address : String) (reply : Reply) : Prop :=
  match host.replies.lookup address with
  | some (first :: later) => ∀ other ∈ first :: later, other = reply
  | _ => reply = unknown

def Gives (host : Host) (url : String) (reply : Reply) : Prop :=
  ∀ address, Address.parse? url = some address →
    if host.reachable then host.Always address.sent reply else reply = .dropped

def inTurn : List Reply → Nat → Reply
  | replies, 0 => replies.headD unknown
  | replies, turn + 1 => inTurn (useUp replies) turn

def reached? (host : Host) (url : String) : Option String :=
  match Address.parse? url with
  | none => none
  | some address => if Address.isRequestScheme address.scheme && host.reachable then some address.sent else none

def deals (host : Host) (url : String) (turn : Nat) : Reply :=
  match host.reached? url with
  | none => .dropped
  | some address => inTurn ((host.replies.lookup address).getD []) turn

theorem use_up_mem (replies : List Reply) (reply : Reply) (member : reply ∈ useUp replies) : reply ∈ replies := by
  cases replies with
  | nil => exact member
  | cons first later =>
      cases later with
      | nil => exact member
      | cons second rest => exact List.mem_cons_of_mem first member

theorem use_up_filled (first : Reply) (later : List Reply) : ∃ next rest, useUp (first :: later) = next :: rest := by
  cases later with
  | nil => exact ⟨first, [], rfl⟩
  | cons second rest => exact ⟨second, rest, rfl⟩

theorem lookup_replace (entries : List (String × List Reply)) (address other : String) (replies : List Reply) :
    (entries.map fun entry => if entry.1 = address then (entry.1, replies) else entry).lookup other =
      (entries.lookup other).map fun held => if other = address then replies else held := by
  induction entries with
  | nil => rfl
  | cons entry rest ih =>
      have key : (if entry.1 = address then (entry.1, replies) else entry).1 = entry.1 := by split <;> rfl
      rw [List.map_cons, List.lookup_cons, List.lookup_cons, key]
      by_cases here : other = entry.1
      · rw [beq_iff_eq.mpr here]
        by_cases same : entry.1 = address <;> simp [here, same]
      · rw [beq_eq_false_iff_ne.mpr here]
        exact ih

theorem answer_spec (host : Host) (address : String) :
    (host.answer address).1 = inTurn ((host.replies.lookup address).getD []) 0 ∧
      (host.answer address).2.reachable = host.reachable ∧
      ∀ other, (host.answer address).2.replies.lookup other =
        if other = address then (host.replies.lookup address).map useUp else host.replies.lookup other := by
  rw [answer]
  split
  · rename_i reply later found
    refine ⟨by rw [found]; rfl, rfl, fun other => ?_⟩
    rw [lookup_replace]
    by_cases same : other = address
    · simp only [same, found, Option.map_some, if_true]
    · simp only [if_neg same, Option.map_id']
  · rename_i none
    have empty : host.replies.lookup address = .none ∨ host.replies.lookup address = some [] := by
      cases held : host.replies.lookup address with
      | none => exact .inl rfl
      | some replies =>
          cases replies with
          | nil => exact .inr rfl
          | cons reply later => exact absurd held (none reply later)
    refine ⟨?_, rfl, fun other => ?_⟩
    · rcases empty with held | held <;> rw [held] <;> rfl
    · by_cases same : other = address
      · rw [if_pos same, same]
        rcases empty with held | held <;> rw [held] <;> rfl
      · rw [if_neg same]

theorem answer_reachable (host : Host) (address : String) : (host.answer address).2.reachable = host.reachable :=
  (answer_spec host address).2.1

theorem answer_lookup (host : Host) (address other : String) :
    (host.answer address).2.replies.lookup other =
      if other = address then (host.replies.lookup address).map useUp else host.replies.lookup other :=
  (answer_spec host address).2.2 other

theorem answer_next_turn (host : Host) (address : String) (turn : Nat) :
    inTurn (((host.answer address).2.replies.lookup address).getD []) turn =
      inTurn ((host.replies.lookup address).getD []) (turn + 1) := by
  rw [answer_lookup, if_pos rfl]
  cases host.replies.lookup address <;> rfl

theorem always_first (host : Host) (address : String) (reply : Reply) (always : host.Always address reply) :
    inTurn ((host.replies.lookup address).getD []) 0 = reply := by
  rw [Always] at always
  split at always
  · rename_i first later found
    rw [found]
    exact always first List.mem_cons_self
  · rename_i other
    cases found : host.replies.lookup address with
    | none => exact always.symm
    | some replies =>
        cases replies with
        | nil => exact always.symm
        | cons first later => exact absurd found (other first later)

theorem answer_keeps_always (host : Host) (address other : String) (reply : Reply) (always : host.Always other reply) :
    (host.answer address).2.Always other reply := by
  rw [Always] at always ⊢
  rw [answer_lookup]
  by_cases same : other = address
  · subst same
    rw [if_pos rfl]
    cases found : host.replies.lookup other with
    | none =>
        rw [found] at always
        exact always
    | some replies =>
        rw [found] at always
        cases replies with
        | nil => exact always
        | cons first later =>
            obtain ⟨next, rest, left⟩ := use_up_filled first later
            simp only [Option.map_some, left]
            exact fun held member => always held (use_up_mem _ _ (left ▸ member))
  · rw [if_neg same]
    exact always

theorem answer_keeps_gives (host : Host) (address url : String) (reply : Reply) (gives : host.Gives url reply) :
    (host.answer address).2.Gives url reply := by
  intro parsed read
  have before := gives parsed read
  rw [answer_reachable]
  split
  · rename_i reached
    rw [if_pos reached] at before
    exact answer_keeps_always host address _ reply before
  · rename_i lost
    rw [if_neg lost] at before
    exact before

end Host

def Attempt.ending (url : String) (reply : Reply) : Attempt :=
  match Address.parse? url with
  | none => .failed true (.network url "builder error")
  | some address =>
      if !Address.isRequestScheme address.scheme then
        .failed true (.network url ("builder error for url (" ++ address.text ++ ")"))
      else .ofReply url address.text reply

theorem attempt_made (url : String) (link : Link) :
    Attempt.make url link = (Attempt.ending url (link.host.deals url 0),
      { host := (link.host.reached? url).elim link.host fun address => (link.host.answer address).2
        requests := link.requests ++ (link.host.reached? url).toList
        events := link.events ++ [.requested url] }) := by
  have noted : link.note (.requested url) = ⟨link.host, link.requests, link.events ++ [.requested url]⟩ := rfl
  rw [Attempt.make, Attempt.ending, Host.deals, Host.reached?, noted]
  cases read : Address.parse? url with
  | none => simp
  | some address =>
      cases request : Address.isRequestScheme address.scheme with
      | false => simp [request]
      | true =>
          cases reached : link.host.reachable with
          | false => simp [request]
          | true => simp [request, (Host.answer_spec link.host address.sent).1]

theorem Host.reached_sent (host : Host) (url address : String) (reached : host.reached? url = some address) :
    (Address.parse? url).map Address.sent = some address := by
  rw [reached?] at reached
  split at reached
  · cases reached
  · rename_i parsed read
    split at reached
    · rw [read]
      exact reached
    · cases reached

theorem make_host (url : String) (link : Link) : (Attempt.make url link).2.host = link.host ∨
    ∃ address, Address.parse? url = some address ∧ (Attempt.make url link).2.host = (link.host.answer address.sent).2 := by
  rw [attempt_made]
  cases reached : link.host.reached? url with
  | none => exact .inl rfl
  | some sent =>
      obtain ⟨address, read, rfl⟩ := Option.map_eq_some_iff.mp (Host.reached_sent _ _ _ reached)
      exact .inr ⟨address, read, rfl⟩

theorem Host.deals_given (host : Host) (url : String) (address : Address) (reply : Reply) (gives : host.Gives url reply)
    (read : Address.parse? url = some address) (request : Address.isRequestScheme address.scheme = true) :
    host.deals url 0 = reply := by
  have given := gives address read
  cases reached : host.reachable with
  | false =>
      rw [reached, if_neg Bool.false_ne_true] at given
      simp [deals, reached?, read, reached, given]
  | true =>
      rw [reached, if_pos rfl] at given
      simp [deals, reached?, read, reached, request, always_first host _ reply given]

theorem attempt_ending (url : String) (reply : Reply) (link : Link) (gives : link.host.Gives url reply) :
    (Attempt.make url link).1 = Attempt.ending url reply := by
  rw [attempt_made]
  cases read : Address.parse? url with
  | none => simp [Attempt.ending, read]
  | some address =>
      cases request : Address.isRequestScheme address.scheme with
      | false => simp [Attempt.ending, read, request]
      | true => rw [Host.deals_given link.host url address reply gives read request]

def Host.Stable (keeps : Host → Prop) : Prop := ∀ url link, keeps link.host → keeps (Attempt.make url link).2.host

theorem Host.stable_of_answer (keeps : Host → Prop)
    (kept : ∀ host address, keeps host → keeps (Host.answer host address).2) : Host.Stable keeps := by
  intro url link before
  rcases make_host url link with same | ⟨address, _, same⟩
  · rwa [same]
  · rw [same]
    exact kept _ _ before

theorem Host.gives_stable (url : String) (reply : Reply) : Host.Stable fun host => host.Gives url reply :=
  stable_of_answer _ fun host address => answer_keeps_gives host address url reply

def Host.Offers (host : Host) (url raw : String) : Prop :=
  ∃ address replies reply, Address.parse? url = some address ∧ host.replies.lookup address.sent = some replies ∧
    reply ∈ replies ∧ Attempt.ofReply url address.text reply = .page raw

theorem Host.answer_offers (host : Host) (address url raw : String) (offers : (host.answer address).2.Offers url raw) :
    host.Offers url raw := by
  obtain ⟨parsed, replies, reply, read, held, member, page⟩ := offers
  rw [answer_lookup] at held
  by_cases here : parsed.sent = address
  · rw [if_pos here] at held
    obtain ⟨before, there, rfl⟩ := Option.map_eq_some_iff.mp held
    exact ⟨parsed, before, reply, read, here ▸ there, use_up_mem _ _ member, page⟩
  · rw [if_neg here] at held
    exact ⟨parsed, replies, reply, read, held, member, page⟩

theorem Host.offers_stable (first : Host) : Host.Stable fun host => ∀ url raw, host.Offers url raw → first.Offers url raw :=
  stable_of_answer _ fun host address offered url raw later => offered url raw (answer_offers host address url raw later)

theorem Host.answer_mem (host : Host) (address : String) :
    (host.answer address).1 = unknown ∨
      ∃ replies, host.replies.lookup address = some replies ∧ (host.answer address).1 ∈ replies := by
  rw [answer]
  split
  · rename_i first later found
    exact .inr ⟨_, found, List.mem_cons_self⟩
  · exact .inl rfl

theorem attempt_page (url raw : String) (link : Link) (page : (Attempt.make url link).1 = .page raw) :
    link.host.Offers url raw := by
  rw [Attempt.make] at page
  split at page
  · cases page
  · rename_i address read
    split at page
    · cases page
    · split at page
      · cases page
      · rcases Host.answer_mem link.host address.sent with missing | ⟨replies, found, member⟩
        · change Attempt.ofReply url address.text (link.host.answer address.sent).1 = _ at page
          rw [missing] at page
          cases page
        · exact ⟨address, replies, _, read, found, member, page⟩

theorem fetch_page (url text : String) (extra : Nat) (link : Link) (made : (Attempt.make url link).1 = .page text) :
    (fetchWithin url extra link).1 = .ok text := by
  unfold fetchWithin
  cases attempt : Attempt.make url link with
  | mk result left =>
      rw [attempt] at made
      cases made
      rfl

section Stable

variable (keeps : Host → Prop) (stable : Host.Stable keeps)

include stable

theorem fetch_within_keeps (url : String) (extra : Nat) (link : Link) (kept : keeps link.host) :
    keeps (fetchWithin url extra link).2.host := by
  have attempt := stable url
  fun_induction fetchWithin url extra link with
  | case1 extra link text left made =>
      have after := attempt link kept
      rwa [made] at after
  | case2 link error left extra made ih =>
      have after := attempt link kept
      rw [made] at after
      exact ih after
  | case3 extra link transient error left made last =>
      have after := attempt link kept
      rwa [made] at after

theorem fetch_tags_keeps (url : String) (attempts : Nat) (link : Link) (kept : keeps link.host) :
    keeps (fetchTags url attempts link).2.host := by
  have after := fetch_within_keeps keeps stable url (attemptsFor attempts - 1) link kept
  rw [← fetchText] at after
  fun_cases fetchTags url attempts link with
  | case1 error left made => rwa [made] at after
  | case2 text left made unread => rwa [made] at after
  | case3 text left made names read => rwa [made] at after

theorem resolve_keeps (config : Config) (attempts : Nat) (asked : Option String) (link : Link) (kept : keeps link.host) :
    keeps (resolve config attempts asked link).2.host := by
  fun_cases resolve config attempts asked link with
  | case1 version settled => exact kept
  | case2 unasked =>
      have after := fun listing => fetch_tags_keeps keeps stable listing attempts (link.note (.listingTags listing)) kept
      fun_cases resolveLatest config attempts link with
      | case1 none => exact kept
      | case2 listing source error left made =>
          have after := after listing
          rwa [made] at after
      | case3 listing source names left made empty =>
          have after := after listing
          rwa [made] at after
      | case4 listing source names left made tag newest =>
          have after := after listing
          rwa [made] at after

end Stable

theorem resolve_pinned (config : Config) (attempts : Nat) (asked : Option String) (link left : Link)
    (resolved : Resolved) (run : resolve config attempts asked link = (.ok resolved, left)) :
    resolved = Resolved.pinned config resolved.version := by
  fun_cases resolve config attempts asked link with
  | case1 version settled =>
      rw [resolve, settled] at run
      cases run
      rfl
  | case2 unasked =>
      rw [resolve, unasked] at run
      fun_cases resolveLatest config attempts link with
      | case1 none => rw [resolveLatest, none] at run; cases run
      | case2 listing source error left made => simp [resolveLatest, source, made] at run
      | case3 listing source names left made empty => simp [resolveLatest, source, made, empty] at run
      | case4 listing source names left made tag newest =>
          simp [resolveLatest, source, made, newest] at run
          rw [← run.1]
          rfl

theorem resolve_asked (config : Config) (attempts : Nat) (version : String) (link : Link) :
    resolve config attempts (some version) link = (.ok (Resolved.pinned config version), link.note (.versionPinned version)) :=
  rfl

end SuiteSync
