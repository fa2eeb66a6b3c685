import SuiteSync.Adaptation.Basic
import SuiteSync.Marker
import SuiteSync.Proofs.Adaptation.Suites
import SuiteSync.Proofs.Settings
import SuiteSync.Proofs.UrlTemplate
import SuiteSync.Version.Resolution

set_option autoImplicit false

namespace SuiteSync

open UrlTemplate

def NamesVersion (config : Config) (version file text : String) : Prop :=
  ∃ body, text = config.harness.header ++ "\n// " ++ config.origin.refUrl.render version ++ config.origin.testDir ++
    file ++ "\n\n" ++ body

-- A version fills its segment in the address of a file when it ends no segment itself and the path after it leaves
-- no doubt where it ends.
def FillsSegment (config : Config) (version file : String) : Prop :=
  (∀ c ∈ version.toList, isDelimiter c = false) ∧
    config.origin.rawUrl.Definite (config.origin.testDir ++ file).toList

theorem file_url_rendered (config : Config) (version file : String) :
    (Resolved.pinned config version).fileUrl config file =
      config.origin.rawUrl.render version ++ (config.origin.testDir ++ file) := by
  rw [Resolved.fileUrl, Resolved.pinned, String.append_assoc]

theorem version_of_file_url (config : Config) (version file : String) (named : version ≠ "") :
    config.origin.rawUrl.version? ((Resolved.pinned config version).fileUrl config file) = some version ↔
      FillsSegment config version file := by
  rw [file_url_rendered]
  exact version_read_iff config.origin.rawUrl version _ named

theorem adapted_header (config : Config) (url file source text : String) (excluded : List String)
    (adapted : adapt config url file source excluded = .ok text) :
    ∃ version, config.origin.rawUrl.version? url = some version ∧ NamesVersion config version file text := by
  unfold adapt at adapted
  split at adapted
  · cases adapted
  · rename_i head headed
    split at adapted
    · cases adapted
    · cases adapted
      unfold Adaptation.header at headed
      split at headed
      · cases headed
      · rename_i version read
        cases headed
        exact ⟨version, read, _, rfl⟩

theorem skip_tests_error (file : String) (tests : List String) (text : List Char) (error : AdaptError)
    (failed : Adaptation.skipTests file tests text = .error error) :
    ∃ test, error = .testNotFound test file ∨ error = .testStartNotFound test file := by
  induction tests generalizing text with
  | nil => cases failed
  | cons test later ih =>
      rw [Adaptation.skipTests] at failed
      split at failed
      · rename_i fault skipped
        cases failed
        exact ⟨test, Adaptation.skip_test_error file test text error skipped⟩
      · exact ih _ failed

theorem adapt_finds_version (config : Config) (url file source version : String) (excluded : List String)
    (found : config.origin.rawUrl.version? url = some version) (asked template : String) :
    adapt config url file source excluded ≠ .error (.versionNotInUrl asked template) := by
  intro failed
  rw [adapt, Adaptation.header, found] at failed
  dsimp only at failed
  split at failed
  · rename_i error run
    cases failed
    rw [Adaptation.body] at run
    split at run
    · rename_i hookError hooking
      cases run
      rw [Adaptation.hookSuites] at hooking
      dsimp only at hooking
      split at hooking
      · cases hooking
        obtain ⟨_, _, _, _, _, _, same⟩ := Adaptation.hook_pieces_fails _ _ _ _ _ ‹_›
        cases same
      · cases hooking
    · obtain ⟨test, same | same⟩ := skip_tests_error _ _ _ _ run <;> cases same
  · cases failed

theorem read_version_overlaps (config : Config) (version file other : String)
    (read : config.origin.rawUrl.version? ((Resolved.pinned config version).fileUrl config file) = some other) :
    (∀ c ∈ other.toList, isDelimiter c = false) ∧
      (other.toList <+: version.toList ∨ version.toList <+: other.toList) := by
  rw [file_url_rendered, version_of_rendered] at read
  obtain ⟨segment, found, rfl⟩ := Option.map_eq_some_iff.mp read
  obtain ⟨part, _⟩ := (segment_before_longest _ _ _).mp found
  rw [String.toList_ofList]
  refine ⟨part.inside, ?_⟩
  have front := (List.prefix_append segment config.origin.rawUrl.after).trans part.followed
  exact List.prefix_or_prefix_of_prefix front (List.prefix_append _ _)

def headerTail (config : Config) (file : String) : List Char :=
  config.origin.refUrl.after ++ config.origin.testDir.toList ++ file.toList ++ "\n\n".toList

theorem names_version_chars (config : Config) (version file text : String) :
    NamesVersion config version file text ↔ ∃ body, text.toList =
      (config.harness.header ++ "\n// ").toList ++ (config.origin.refUrl.before ++
        (version.toList ++ (headerTail config file ++ body))) := by
  constructor
  · rintro ⟨body, rfl⟩
    exact ⟨body.toList, by simp [headerTail, render, String.toList_append, List.append_assoc]⟩
  · rintro ⟨body, same⟩
    refine ⟨String.ofList body, String.toList_inj.mp ?_⟩
    rw [same]
    simp [headerTail, render, String.toList_append, List.append_assoc]

theorem header_version_unique (config : Config) (accepted : config.Accepted) (version other file text : String)
    (oneLine : '\n' ∉ version.toList) (free : ∀ c ∈ other.toList, isDelimiter c = false)
    (overlaps : other.toList <+: version.toList ∨ version.toList <+: other.toList)
    (first : NamesVersion config version file text) (second : NamesVersion config other file text) :
    other = version := by
  obtain ⟨body, same⟩ := (names_version_chars _ _ _ _).mp first
  obtain ⟨body', same'⟩ := (names_version_chars _ _ _ _).mp second
  have equal := List.append_cancel_left (List.append_cancel_left (same'.symm.trans same))
  obtain ⟨front, slash⟩ := Config.accepted_test_dir config accepted
  have delimiter : '/' ∈ headerTail config file := by simp [headerTail, slash]
  have lineFeed : '\n' ∈ headerTail config file := by simp [headerTail]
  rcases overlaps with ⟨extra, longer⟩ | ⟨extra, longer⟩
  · -- The version goes on after what was read: the tail is found again after a shift without a line feed.
    cases extra with
    | nil => exact String.toList_inj.mp ((List.append_nil _).symm.trans longer)
    | cons c more =>
        rw [← longer, List.append_assoc] at equal
        have again : (c :: more) ++ headerTail config file <+: headerTail config file ++ body' :=
          ⟨body, by simpa [List.append_assoc] using (List.append_cancel_left equal).symm⟩
        have inside := shifted_chars _ _ [] (List.cons_ne_nil c more) (prefix_of_shifted _ _ _ again) '\n' lineFeed
        exact absurd (longer ▸ List.mem_append_right _ inside) oneLine
  · -- More was read than the version: the tail is found again after a shift without a delimiter.
    cases extra with
    | nil => exact String.toList_inj.mp (longer.symm.trans (List.append_nil _))
    | cons c more =>
        rw [← longer, List.append_assoc] at equal
        have again : headerTail config file <+: (c :: more) ++ headerTail config file ++ body' :=
          ⟨body, by simpa [List.append_assoc] using (List.append_cancel_left equal).symm⟩
        have inside := shifted_chars _ _ _ (List.cons_ne_nil c more) again '/' delimiter
        have excluded := free '/' (longer ▸ List.mem_append_right _ inside)
        exact absurd excluded (by decide)

theorem provenance_names_version_iff (config : Config) (accepted : config.Accepted) (version file : String)
    (named : version ≠ "") :
    (config.origin.rawUrl.version? ((Resolved.pinned config version).fileUrl config file) = some version ↔
      FillsSegment config version file) ∧
    (Marker.ofVersion config version).version = version ∧
    ∀ source excluded text,
      adapt config ((Resolved.pinned config version).fileUrl config file) file source excluded = .ok text →
        (FillsSegment config version file → NamesVersion config version file text) ∧
        ('\n' ∉ version.toList → NamesVersion config version file text → FillsSegment config version file) := by
  have readBack := version_of_file_url config version file named
  refine ⟨readBack, rfl, fun source excluded text adapted => ?_⟩
  obtain ⟨other, read, header⟩ := adapted_header _ _ _ _ _ _ adapted
  constructor
  · intro fills
    have same := Option.some.inj (read.symm.trans (readBack.mpr fills))
    exact same ▸ header
  · intro oneLine names
    obtain ⟨free, overlaps⟩ := read_version_overlaps config version file other read
    have same := header_version_unique config accepted version other file text oneLine free overlaps names header
    exact readBack.mp (same ▸ read)

theorem sample_provenance :
    Config.sample.Accepted ∧ "1" ≠ "" ∧ '\n' ∉ "1".toList ∧ FillsSegment Config.sample "1" "a.ts" ∧
      adapt Config.sample ((Resolved.pinned Config.sample "1").fileUrl Config.sample "a.ts") "a.ts" "it" [] =
        .ok "// H\n// http://r/1/t/a.ts\n\nit" ∧
      NamesVersion Config.sample "1" "a.ts" "// H\n// http://r/1/t/a.ts\n\nit" := by
  have fills : FillsSegment Config.sample "1" "a.ts" := by
    refine ⟨fun c member => ?_, definite_of_delimiter Config.sample.origin.rawUrl _ '/' (by decide) (by decide)⟩
    obtain rfl : c = '1' := List.mem_singleton.mp member
    decide
  have adapted : adapt Config.sample ((Resolved.pinned Config.sample "1").fileUrl Config.sample "a.ts") "a.ts" "it" [] =
      .ok "// H\n// http://r/1/t/a.ts\n\nit" := rfl
  have facts := (provenance_names_version_iff Config.sample Config.sample_accepted "1" "a.ts" (by decide)).2.2
  exact ⟨Config.sample_accepted, by decide, by decide, fills, adapted, (facts _ _ _ adapted).1 fills⟩

theorem slashed_version_misnamed :
    ¬ ∀ (config : Config) (version file source text : String) (excluded : List String), config.Accepted → version ≠ "" →
      adapt config ((Resolved.pinned config version).fileUrl config file) file source excluded = .ok text →
        NamesVersion config version file text := by
  intro general
  have adapted : adapt Config.sample ((Resolved.pinned Config.sample "a/b").fileUrl Config.sample "a.ts") "a.ts" "" [] =
      .ok "// H\n// http://r/a/t/a.ts\n\n" := rfl
  obtain ⟨body, same⟩ := (names_version_chars _ _ _ _).mp
    (general Config.sample "a/b" "a.ts" "" _ [] Config.sample_accepted (by decide) adapted)
  have start : "// H\n// http://r/a/b".toList <+: "// H\n// http://r/a/t/a.ts\n\n".toList :=
    ⟨headerTail Config.sample "a.ts" ++ body, same.symm⟩
  exact absurd start (by decide)

end SuiteSync
