import SuiteSync.CommandLine.Run
import SuiteSync.Proofs.Disk.Writing
import SuiteSync.Proofs.Sync.Agreement
import SuiteSync.Proofs.Sync.Window
import SuiteSync.Proofs.Text.Decoding

set_option autoImplicit false

namespace SuiteSync

open Text

theorem unmarked_plain (text : List Char) (noMark : text.head? ≠ some '\uFEFF') : unmarked text = text := by
  unfold unmarked
  split
  · exact absurd rfl noMark
  · rfl

theorem to_utf8_from_utf8 (bytes : ByteArray) (text : String) (valid : String.fromUTF8? bytes = some text) :
    text.toUTF8 = bytes := by
  rw [String.fromUTF8?] at valid
  split at valid
  · cases valid
    rfl
  · cases valid

structure Host.Sends (host : Host) (url : String) (contentType : Option String) (bytes : ByteArray) : Prop where
  address : ∃ address, Address.parse? url = some address ∧ Address.isRequestScheme address.scheme = true
  reply : host.Gives url (.answered 200 contentType bytes false)

def Config.adapted (config : Config) (version name source : String) : Except AdaptError String :=
  adapt config ((Resolved.pinned config version).fileUrl config name) name source (config.files.excluded name)

def Config.job (config : Config) (name : String) : Job := ⟨name, config.files.excluded name⟩

theorem job_configured (config : Config) (name : String) (listed : name ∈ config.files.names) :
    config.job name ∈ config.jobs := by
  obtain ⟨entry, member, same⟩ := List.mem_map.mp listed
  obtain ⟨tests, found⟩ : ∃ tests, config.files.entries.lookup name = some tests := by
    rw [← Option.isSome_iff_exists, List.lookup_isSome_iff]
    exact ⟨entry, member, beq_iff_eq.mpr same.symm⟩
  obtain ⟨front, back, split, _⟩ := List.lookup_eq_some_iff.mp found
  refine List.mem_map.mpr ⟨(name, tests), ?_, ?_⟩
  · rw [split]
    exact List.mem_append_right front List.mem_cons_self
  · rw [Config.job, FileTable.excluded, found]
    rfl

theorem sent_ending (host : Host) (url source : String) (bytes : ByteArray) (contentType : Option String)
    (valid : String.fromUTF8? bytes = some source) (declared : Reply.charset contentType = .utf8)
    (sends : host.Sends url contentType bytes) :
    Attempt.ending url (.answered 200 contentType bytes false) = .page (String.ofList (unmarked source.toList)) := by
  obtain rfl := to_utf8_from_utf8 bytes source valid
  obtain ⟨address, parsed, web⟩ := sends.address
  rw [Attempt.ending, parsed]
  dsimp only
  rw [if_neg (by rw [web]; exact Bool.false_ne_true), ← body_text_unmarked contentType source declared]
  rfl

namespace Task

theorem alone_sent (task : Task) (job : Job) (link : Link) (source : String) (bytes : ByteArray)
    (contentType : Option String) (valid : String.fromUTF8? bytes = some source)
    (declared : Reply.charset contentType = .utf8) (sends : link.host.Sends (task.url job) contentType bytes) :
    task.alone link job = task.settle job (String.ofList (unmarked source.toList)) := by
  have made := attempt_ending (task.url job) _ link sends.reply
  rw [sent_ending _ _ source bytes contentType valid declared sends] at made
  rw [alone, start, due, rest, fetch_page _ _ _ link made]

theorem adapt_all_sent (task : Task) (job : Job) (parallel : Nat) (timing : Nat → Nat) (link left : Link) (source : String)
    (bytes : ByteArray) (contentType : Option String) (files : List AdaptedFile) (member : job ∈ task.config.jobs)
    (valid : String.fromUTF8? bytes = some source) (declared : Reply.charset contentType = .utf8)
    (sends : link.host.Sends (task.url job) contentType bytes)
    (run : task.adaptAll parallel timing link = (.ok files, left)) :
    ∃ file ∈ files, file.name = job.name ∧ task.alone link job = .ok file := by
  have ending := sent_ending _ _ source bytes contentType valid declared sends
  have steady := task.steady_of_attempts task.config.jobs
    (fun host => host.Gives (task.url job) (.answered 200 contentType bytes false))
    (fun other result => other = job → result = task.settle job (String.ofList (unmarked source.toList)))
    (Host.gives_stable _ _) ?_ ?_
  · have ended := task.adapt_all_ends _ _ steady parallel timing link sends.reply
    rw [run] at ended
    obtain ⟨file, inside, settled⟩ := forall₂_partner _ _ _ ended.2 job member
    have done := settled rfl
    have alone := task.alone_sent job link source bytes contentType valid declared sends
    exact ⟨file, inside, task.settle_name job _ file done.symm, alone.trans done.symm⟩
  · rintro other _ link raw gives made rfl
    have same := (attempt_ending _ _ link gives).symm.trans made
    rw [ending] at same
    cases same
    rfl
  · rintro other _ link transient error gives made rfl
    have same := (attempt_ending _ _ link gives).symm.trans made
    rw [ending] at same
    cases same

end Task

namespace CommandLine

-- An invocation that ended as a fetch did: it left the text of the file under a path, or it failed for the same
-- reason and left the disk alone.
def SameOutcome (fetched : Except SyncError AdaptedFile) (path : String) (before : Disk) (ended : Ending × Session) : Prop :=
  match fetched with
  | .ok file => ended.1.fault = none ∧ ended.2.disk.node path = .ok (.file file.text.toUTF8)
  | .error error => ended.1.fault = some (.failed error) ∧ ended.2.disk = before

def settleLocal (adapted : Except AdaptError String) (output : String) (session : Session) : Ending × Session :=
  match adapted with
  | .error e => ({ fault := some (.failed (.adapt e)) }, session)
  | .ok text => deliver text (some output) session

theorem run_adapt_read (config : Config) (file name version output source : String) (bytes : ByteArray) (session : Session)
    (valid : String.fromUTF8? bytes = some source) (held : session.disk.node file = .ok (.file bytes)) :
    ∃ link, runAdapt config file (some name) (some version) (some output) session =
      settleLocal (config.adapted version name source) output ⟨session.disk, link⟩ := by
  have read := session.disk.read_text file source bytes held valid
  have given : runAdapt config file (some name) (some version) (some output) session =
      adaptLocal config file name version (some output) session := rfl
  rw [given, adaptLocal, read, Config.adapted]
  dsimp only
  generalize adapt config ((Resolved.pinned config version).fileUrl config name) name source
    (config.files.excluded name) = adapted
  cases adapted with
  | error e => exact ⟨_, rfl⟩
  | ok text => exact ⟨_, rfl⟩

theorem deliver_fails (text path : String) (session : Session) (error : AdaptError) :
    (deliver text (some path) session).1.fault ≠ some (.failed (.adapt error)) := by
  rw [deliver]
  split <;> exact nofun

theorem deliver_succeeds_iff (text path : String) (session : Session) :
    (deliver text (some path) session).1.fault = none ↔ (session.disk.writeText path text).1 = .ok () := by
  rw [deliver]
  split
  · rename_i written
    rw [written]
    exact ⟨nofun, nofun⟩
  · rename_i written
    rw [written]
    exact ⟨fun _ => rfl, fun _ => rfl⟩

theorem delivered_text (text path : String) (session : Session) (succeeds : (session.disk.writeText path text).1 = .ok ()) :
    (deliver text (some path) session).2.disk.node path = .ok (.file text.toUTF8) := by
  cases written : session.disk.writeText path text with
  | mk result disk =>
      rw [written] at succeeds
      cases succeeds
      rw [deliver]
      simp only [written]
      exact session.disk.write_text_reads disk path text written

theorem same_outcome_iff (task : Task) (job : Job) (raw path : String) (adapted : Except AdaptError String) (session : Session) :
    SameOutcome (task.settle job raw) path session.disk (settleLocal adapted path session) ↔
      adapted = adapt task.config (task.url job) job.name raw job.excluded ∧
        ∀ text, adapted = .ok text → (session.disk.writeText path text).1 = .ok () := by
  rw [Task.settle, Task.url]
  generalize adapt task.config (task.resolved.fileUrl task.config job.name) job.name raw job.excluded = fetched
  cases adapted with
  | error e =>
      cases fetched with
      | error e' => simp [SameOutcome, settleLocal]
      | ok text' => simp [SameOutcome, settleLocal]
  | ok text =>
      cases fetched with
      | error e' =>
          constructor
          · intro same
            exact absurd same.1 (deliver_fails text path session e')
          · rintro ⟨same, _⟩
            cases same
      | ok text' =>
          rw [SameOutcome, settleLocal, deliver_succeeds_iff]
          constructor
          · rintro ⟨succeeds, there⟩
            rw [delivered_text text path session succeeds] at there
            injection there with there
            injection there with there
            have same : text = text' := String.toByteArray_inj.mp there
            exact ⟨congrArg Except.ok same, fun _ written => Except.ok.inj written ▸ succeeds⟩
          · rintro ⟨same, succeeds⟩
            have succeeds := succeeds text rfl
            exact ⟨succeeds, Except.ok.inj same ▸ delivered_text text path session succeeds⟩

theorem offline_outcome (config : Config) (file name version output source : String) (bytes : ByteArray)
    (contentType : Option String) (attempts : Nat) (session : Session) (link : Link)
    (valid : String.fromUTF8? bytes = some source) (declared : Reply.charset contentType = .utf8)
    (held : session.disk.node file = .ok (.file bytes))
    (sends : link.host.Sends ((Resolved.pinned config version).fileUrl config name) contentType bytes) :
    SameOutcome ((Task.mk config (Resolved.pinned config version) attempts).alone link (config.job name)) output session.disk
        (runAdapt config file (some name) (some version) (some output) session) ↔
      config.adapted version name source = config.adapted version name (String.ofList (unmarked source.toList)) ∧
      ∀ text, config.adapted version name source = .ok text → (session.disk.writeText output text).1 = .ok () := by
  obtain ⟨left, run⟩ := run_adapt_read config file name version output source bytes session valid held
  have fetched := (Task.mk config (Resolved.pinned config version) attempts).alone_sent (config.job name) link source
    bytes contentType valid declared sends
  rw [run, fetched]
  exact same_outcome_iff ⟨config, Resolved.pinned config version, attempts⟩ (config.job name) _ output _ ⟨session.disk, left⟩

/-- For bytes that are UTF-8, adapting a file offline ends as fetching it does exactly when a byte order mark at the
start makes no difference to the adapted text and that text can be written. What was fetched alone is what a whole
sync has for the file. -/
theorem offline_matches_sync_iff (config : Config) (file name version output source : String) (bytes : ByteArray)
    (contentType : Option String) (attempts : Nat) (session : Session) (link : Link)
    (listed : name ∈ config.files.names) (valid : String.fromUTF8? bytes = some source)
    (declared : Reply.charset contentType = .utf8) (held : session.disk.node file = .ok (.file bytes))
    (sends : link.host.Sends ((Resolved.pinned config version).fileUrl config name) contentType bytes) :
    (SameOutcome ((Task.mk config (Resolved.pinned config version) attempts).alone link (config.job name)) output session.disk
        (runAdapt config file (some name) (some version) (some output) session) ↔
      config.adapted version name source = config.adapted version name (String.ofList (unmarked source.toList)) ∧
      ∀ text, config.adapted version name source = .ok text → (session.disk.writeText output text).1 = .ok ()) ∧
    (source.toList.head? ≠ some '\uFEFF' → String.ofList (unmarked source.toList) = source) ∧
    ∀ parallel timing files left,
      (Task.mk config (Resolved.pinned config version) attempts).adaptAll parallel timing link = (.ok files, left) →
      ∃ copy ∈ files, copy.name = name ∧
        (Task.mk config (Resolved.pinned config version) attempts).alone link (config.job name) = .ok copy := by
  refine ⟨?_, fun noMark => ?_, fun parallel timing files left run => ?_⟩
  · exact offline_outcome config file name version output source bytes contentType attempts session link valid declared held sends
  · rw [unmarked_plain _ noMark, String.ofList_toList]
  · exact (Task.mk config (Resolved.pinned config version) attempts).adapt_all_sent (config.job name) parallel timing link
      left source bytes contentType files (job_configured config name listed) valid declared sends run

def localDisk (bytes : ByteArray) : Disk :=
  ⟨[(["l.ts"], .file bytes)], [], ⟨by simp, by simp, by simp⟩⟩

def sendingLink (bytes : ByteArray) : Link :=
  ⟨(Host.empty true).serve "http://h/1/t/a.ts" [.answered 200 none bytes false], [], []⟩

theorem sample_sends (bytes : ByteArray) :
    (sendingLink bytes).host.Sends ((Resolved.pinned Config.sample "1").fileUrl Config.sample "a.ts") none bytes := by
  have parsed : (Address.parse? ((Resolved.pinned Config.sample "1").fileUrl Config.sample "a.ts")).map
      (fun address => (address.sent, Address.isRequestScheme address.scheme)) = some ("http://h/1/t/a.ts", true) := by
    decide +kernel
  obtain ⟨address, read, same⟩ := Option.map_eq_some_iff.mp parsed
  obtain ⟨sent, web⟩ := Prod.mk.inj same
  refine ⟨⟨address, read, web⟩, fun other also => ?_⟩
  cases read.symm.trans also
  have reached : (sendingLink bytes).host.reachable = true := rfl
  rw [if_pos reached, sent]
  intro reply held
  exact List.mem_singleton.mp held

theorem sample_offline_matches : Config.sample.Accepted ∧ "a.ts" ∈ Config.sample.files.names ∧
    SameOutcome ((Task.mk Config.sample (Resolved.pinned Config.sample "1") 1).alone (sendingLink "it".toUTF8)
      (Config.sample.job "a.ts")) "o.ts" (localDisk "it".toUTF8)
      (runAdapt Config.sample "l.ts" (some "a.ts") (some "1") (some "o.ts") ⟨localDisk "it".toUTF8, sampleLink⟩) := by
  have listed : "a.ts" ∈ Config.sample.files.names := by decide
  have adapted : Config.sample.adapted "1" "a.ts" "it" = .ok "// H\n// http://r/1/t/a.ts\n\nit" := rfl
  have written : ((localDisk "it".toUTF8).writeText "o.ts" "// H\n// http://r/1/t/a.ts\n\nit").1.toOption = some () := by
    decide +kernel
  have outcome := (offline_matches_sync_iff Config.sample "l.ts" "a.ts" "1" "o.ts" "it" "it".toUTF8 none 1
    ⟨localDisk "it".toUTF8, sampleLink⟩ (sendingLink "it".toUTF8) listed (from_utf8_to_utf8 "it") (by decide)
    rfl (sample_sends _)).1
  refine ⟨Config.sample_accepted, listed, outcome.mpr ⟨by decide +kernel, fun text made => ?_⟩⟩
  rw [adapted] at made
  cases made
  exact except_of_option _ _ written

theorem offline_keeps_mark : ¬ ∀ (config : Config) (file name version output source : String) (bytes : ByteArray)
    (contentType : Option String) (attempts : Nat) (session : Session) (link : Link), config.Accepted →
    name ∈ config.files.names → String.fromUTF8? bytes = some source → Reply.charset contentType = .utf8 →
    session.disk.node file = .ok (.file bytes) →
    link.host.Sends ((Resolved.pinned config version).fileUrl config name) contentType bytes →
    (∀ text, config.adapted version name source = .ok text → (session.disk.writeText output text).1 = .ok ()) →
    SameOutcome ((Task.mk config (Resolved.pinned config version) attempts).alone link (config.job name)) output session.disk
      (runAdapt config file (some name) (some version) (some output) session) := by
  intro general
  have kept : Config.sample.adapted "1" "a.ts" "\uFEFFit" = .ok "// H\n// http://r/1/t/a.ts\n\n\uFEFFit" := rfl
  have written : ((localDisk "\uFEFFit".toUTF8).writeText "o.ts" "// H\n// http://r/1/t/a.ts\n\n\uFEFFit").1.toOption =
      some () := by decide +kernel
  have same := general Config.sample "l.ts" "a.ts" "1" "o.ts" "\uFEFFit" "\uFEFFit".toUTF8 none 1
    ⟨localDisk "\uFEFFit".toUTF8, sampleLink⟩ (sendingLink "\uFEFFit".toUTF8) Config.sample_accepted (by decide)
    (from_utf8_to_utf8 _) (by decide) rfl (sample_sends _) fun text made => by
      rw [kept] at made
      cases made
      exact except_of_option _ _ written
  obtain ⟨equal, _⟩ := (offline_outcome Config.sample "l.ts" "a.ts" "1" "o.ts" "\uFEFFit" "\uFEFFit".toUTF8 none 1
    ⟨localDisk "\uFEFFit".toUTF8, sampleLink⟩ (sendingLink "\uFEFFit".toUTF8) (from_utf8_to_utf8 _) (by decide) rfl
    (sample_sends _)).mp same
  have differ : Config.sample.adapted "1" "a.ts" "\uFEFFit" ≠
      Config.sample.adapted "1" "a.ts" (String.ofList (unmarked "\uFEFFit".toList)) := by decide +kernel
  exact differ equal

end CommandLine

end SuiteSync
