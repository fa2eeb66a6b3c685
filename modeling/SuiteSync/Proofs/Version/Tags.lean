import SuiteSync.Proofs.Marker
import SuiteSync.Proofs.Provenance
import SuiteSync.Proofs.Version.Latest

set_option autoImplicit false

namespace SuiteSync

open Text UrlTemplate

namespace Version

def isVersionChar (c : Char) : Bool := isIdentifierChar c || c == '.' || c == '+'

def Written (text : List Char) : Prop := ∀ c ∈ text, isVersionChar c = true

theorem digit_version_char (c : Char) (digit : c.isDigit = true) : isVersionChar c = true := by
  simp [isVersionChar, isIdentifierChar, Char.isAlphanum, digit]

theorem dotted_chars (text : List Char) (c : Char) (member : c ∈ text) : c = '.' ∨ ∃ piece ∈ dotted text, c ∈ piece := by
  fun_induction dotted text with
  | case1 => cases member
  | case2 rest ih =>
      rcases List.mem_cons.mp member with here | later
      · exact .inl here
      · exact (ih later).imp_right fun ⟨piece, inside, part⟩ => ⟨piece, List.mem_cons_of_mem _ inside, part⟩
  | case3 d rest other empty ih =>
      rcases List.mem_cons.mp member with here | later
      · exact .inr ⟨[d], List.mem_cons_self, List.mem_singleton.mpr here⟩
      · refine .inl ((ih later).resolve_right fun ⟨piece, inside, _⟩ => ?_)
        rw [empty] at inside
        cases inside
  | case4 d rest other piece pieces same ih =>
      rcases List.mem_cons.mp member with here | later
      · exact .inr ⟨d :: piece, List.mem_cons_self, List.mem_cons.mpr (.inl here)⟩
      · refine (ih later).imp_right fun ⟨found, inside, part⟩ => ?_
        rw [same] at inside
        rcases List.mem_cons.mp inside with rfl | further
        · exact ⟨d :: found, List.mem_cons_self, List.mem_cons_of_mem d part⟩
        · exact ⟨found, List.mem_cons_of_mem _ further, part⟩

theorem written_of_pieces (text : List Char) (pieces : ∀ piece ∈ dotted text, Written piece) : Written text := by
  intro c member
  rcases dotted_chars text c member with rfl | ⟨piece, inside, part⟩
  · decide
  · exact pieces piece inside c part

theorem identifiers_written (zeros : Bool) (text : List Char) (identifiers : List String)
    (read : identifiers? zeros text = some identifiers) : Written text := by
  rw [identifiers?] at read
  split at read
  · rename_i sound
    refine written_of_pieces text fun piece member c part => ?_
    have whole := List.all_eq_true.mp sound piece member
    simp only [Bool.and_eq_true] at whole
    rw [isVersionChar, List.all_eq_true.mp whole.1.2 c part]
    rfl
  · cases read

theorem number_written (digits : List Char) (n : Nat) (read : number? digits = some n) : Written digits := by
  unfold number? at read
  split at read
  · cases read
  · cases read
  · split at read
    · rename_i sound
      rw [Bool.and_eq_true] at sound
      exact fun c member => digit_version_char c (List.all_eq_true.mp sound.1 c member)
    · cases read

theorem core_written (text : List Char) (core : Nat × Nat × Nat) (read : core? text = some core) :
    text ≠ [] ∧ Written text := by
  rw [core?] at read
  split at read
  · rename_i major minor patch numbers
    have pieces : ∀ piece ∈ dotted text, ∃ n, number? piece = some n := by
      intro piece member
      have image : number? piece ∈ [some major, some minor, some patch] := numbers ▸ List.mem_map_of_mem member
      simp only [List.mem_cons, List.not_mem_nil, or_false] at image
      rcases image with same | same | same <;> exact ⟨_, same⟩
    refine ⟨?_, written_of_pieces text fun piece member => ?_⟩
    · rintro rfl
      cases numbers
    · obtain ⟨n, number⟩ := pieces piece member
      exact number_written piece n number
  · cases read

theorem cut_written (zeros : Bool) (mark : Char) (text : List Char) (identifiers : List String)
    (fits : isVersionChar mark = true) (front : Written (cut (· == mark) text).1)
    (read : tail? zeros (cut (· == mark) text).2 = some identifiers) : Written text := by
  have whole : (cut (· == mark) text).1 ++ (cut (· == mark) text).2 = text := List.takeWhile_append_dropWhile
  have back : Written (cut (· == mark) text).2 := by
    cases shape : (cut (· == mark) text).2 with
    | nil => exact List.forall_mem_nil _
    | cons c rest =>
        have first := List.head?_dropWhile_not (fun d => !(d == mark)) text
        rw [shape] at read
        have starts : c = mark := by
          have held : text.dropWhile (fun d => !(d == mark)) = c :: rest := shape
          rw [held] at first
          simpa using first
        exact List.forall_mem_cons.mpr ⟨starts ▸ fits, identifiers_written zeros rest identifiers read⟩
  rw [← whole]
  exact List.forall_mem_append.mpr ⟨front, back⟩

theorem parse_written (text : String) (version : Version) (read : parse? text = some version) :
    text.toList ≠ [] ∧ Written text.toList := by
  rw [parse?] at read
  dsimp only at read
  split at read
  · rename_i major minor patch pre build core preRead buildRead
    obtain ⟨filled, numbers⟩ := core_written _ _ core
    have front := cut_written false '-' _ _ (by decide) numbers preRead
    have whole := cut_written true '+' _ _ (by decide) front buildRead
    refine ⟨fun empty => filled ?_, whole⟩
    rw [empty]
    rfl
  · cases read

end Version

theorem tag_written (tag : String) (version : Version) (read : tagVersion? tag = some version) :
    tag ≠ "" ∧ Version.Written tag.toList := by
  rw [tagVersion?] at read
  split at read
  · rename_i rest starts
    obtain ⟨_, written⟩ := Version.parse_written _ _ read
    rw [String.toList_ofList] at written
    refine ⟨fun empty => ?_, ?_⟩
    · rw [empty] at starts
      cases starts
    · rw [starts]
      exact List.forall_mem_cons.mpr ⟨by decide, written⟩
  · obtain ⟨filled, written⟩ := Version.parse_written _ _ read
    exact ⟨fun empty => filled (by rw [empty]; rfl), written⟩

theorem version_char_range (c : Char) (part : Version.isVersionChar c = true) : 0x2b ≤ c.toNat ∧ c.toNat ≤ 0x7a := by
  have ranges : c.isAlphanum = (decide ('A'.val ≤ c.val ∧ c.val ≤ 'Z'.val) ||
      (decide ('a'.val ≤ c.val) && decide (c.val ≤ 'z'.val)) || (decide ('0'.val ≤ c.val) && decide (c.val ≤ '9'.val))) := rfl
  simp only [Version.isVersionChar, Version.isIdentifierChar, ranges, Bool.or_eq_true, Bool.and_eq_true,
    decide_eq_true_eq, beq_iff_eq] at part
  rcases part with ((letter | rfl) | rfl) | rfl
  · simp only [UInt32.le_iff_toNat_le, Char.reduceVal, UInt32.reduceToNat] at letter
    have value : c.val.toNat = c.toNat := rfl
    omega
  all_goals decide

theorem version_char_inside (c : Char) (part : Version.isVersionChar c = true) : isDelimiter c = false := by
  cases delimits : isDelimiter c with
  | false => rfl
  | true =>
      simp only [isDelimiter, Bool.or_eq_true, beq_iff_eq] at delimits
      rcases delimits with (rfl | rfl) | rfl <;> exact absurd part (by decide)

theorem version_char_visible (c : Char) (part : Version.isVersionChar c = true) : isBlank c = false := by
  have range := version_char_range c part
  cases blank : isBlank c with
  | false => rfl
  | true =>
      simp only [isBlank, Bool.or_eq_true, Bool.and_eq_true, decide_eq_true_eq, beq_iff_eq] at blank
      omega

theorem trim_visible (text : List Char) (visible : ∀ c ∈ text, isBlank c = false) : trim text = text := by
  have start : ∀ part : List Char, (∀ c ∈ part, isBlank c = false) → part.dropWhile isBlank = part := by
    intro part shown
    cases part with
    | nil => rfl
    | cons c rest =>
        refine List.dropWhile_cons_of_neg ?_
        rw [shown c List.mem_cons_self]
        exact Bool.false_ne_true
  rw [trim, trimStart, start text visible, trimEnd, start _ fun c member => visible c (List.mem_reverse.mp member),
    List.reverse_reverse]

theorem tag_nameable (tag : String) (version : Version) (read : tagVersion? tag = some version) : Marker.Nameable tag := by
  obtain ⟨named, written⟩ := tag_written tag version read
  have visible : ∀ c ∈ tag.toList, isBlank c = false := fun c member => version_char_visible c (written c member)
  refine ⟨named, fun feed => ?_, trim_visible _ visible⟩
  exact absurd (visible _ feed) (by decide)

theorem latest_tag_listed (names : List String) (readable : ∃ name ∈ names, (tagVersion? name).isSome = true) :
    ∃ tag ∈ names, ∃ version, tagVersion? tag = some version ∧ latestTag? names = some tag := by
  obtain ⟨name, listed, parses⟩ := readable
  cases latest : latestTag? names with
  | none =>
      rw [(latest_tag_none names).mp latest name listed] at parses
      cases parses
  | some tag =>
      obtain ⟨version, newest⟩ := latest_tag_newest names tag latest
      exact ⟨tag, newest_listed names tag version newest, version, newest.reads, rfl⟩

theorem resolve_listed (config : Config) (attempts : Nat) (link left : Link) (listing tag : String) (names : List String)
    (unpinned : config.origin.version = none) (listed : config.origin.tagsUrl = some listing)
    (read : fetchTags listing attempts (link.note (.listingTags listing)) = (.ok names, left))
    (latest : latestTag? names = some tag) :
    resolve config attempts none link = (.ok (Resolved.pinned config tag), left.note (.latestTag tag)) := by
  simp only [resolve, unpinned, Option.or_none, resolveLatest, listed, read, latest]

theorem accepted_listing (config : Config) (accepted : config.Accepted) (unpinned : config.origin.version = none) :
    ∃ listing, config.origin.tagsUrl = some listing := by
  obtain ⟨draft, checked⟩ := Config.accepted_checked config accepted
  exact Config.checked_listing draft config checked unpinned

theorem latest_tag_survives (config : Config) (names : List String) (mark : Char) (accepted : config.Accepted)
    (unpinned : config.origin.version = none) (within : mark ∈ config.origin.rawUrl.after)
    (delimits : isDelimiter mark = true) (plain : Marker.Plain config.harness.versionLabel)
    (readable : ∃ name ∈ names, (tagVersion? name).isSome = true) :
    ∃ tag ∈ names, ∃ listing, config.origin.tagsUrl = some listing ∧
      (∀ attempts link left, fetchTags listing attempts (link.note (.listingTags listing)) = (.ok names, left) →
        resolve config attempts none link = (.ok (Resolved.pinned config tag), left.note (.latestTag tag))) ∧
      (∀ file, config.origin.rawUrl.version? ((Resolved.pinned config tag).fileUrl config file) = some tag ∧
        ∀ source excluded url template,
          adapt config ((Resolved.pinned config tag).fileUrl config file) file source excluded ≠
            .error (.versionNotInUrl url template)) ∧
      ∃ read, Marker.parse? (Marker.ofVersion config tag).render = some read ∧ read.version = tag := by
  obtain ⟨tag, listed, version, parsed, latest⟩ := latest_tag_listed names readable
  obtain ⟨listing, source⟩ := accepted_listing config accepted unpinned
  obtain ⟨named, written⟩ := tag_written tag version parsed
  refine ⟨tag, listed, listing, source, fun attempts link left read => ?_, fun file => ?_, ?_⟩
  · exact resolve_listed config attempts link left listing tag names unpinned source read latest
  · have fills : FillsSegment config tag file :=
      ⟨fun c member => version_char_inside c (written c member), definite_of_delimiter _ _ mark within delimits⟩
    have found := (version_of_file_url config tag file named).mpr fills
    exact ⟨found, fun source excluded => adapt_finds_version config _ file source tag excluded found⟩
  · exact Marker.parse_render (Marker.ofVersion config tag) plain (tag_nameable tag version parsed)
      (Marker.tree_named config tag)

namespace Config

def unpinned : Config :=
  { sample with origin := { sample.origin with version := none, tagsUrl := some "http://h/tags" } }

def unpinnedText : String :=
  "download_dir='new/../out'\ncustom_setup_module='./s.js'\n[upstream]\npackage='p'\ntags_url='http://h/tags'\n" ++
  "test_dir='t'\nraw_url='http://h/\x7bversion\x7d/'\nref_url='http://r/\x7bversion\x7d/'\n" ++
  "tree_url='http://g/\x7bversion\x7d'\n" ++
  "[harness]\nheader='// H'\nhook_function='hook'\nversion_file='_v'\n[files]\n'a.ts'=[]\n"

theorem unpinned_accepted : unpinned.Accepted := accepted_of_text unpinned unpinnedText (by decide +kernel)

end Config

def listingHost : Host :=
  ⟨true, [("http://h/tags", [.answered 200 none "[\x7b\x22name\x22:\x22a/b\x22\x7d,[\x22v1.2.0-a.1+b\x22]]".toUTF8 false])]⟩

theorem listed_tag_survives : ∃ left tag, Config.unpinned.Accepted ∧ Config.unpinned.origin.version = none ∧
    '/' ∈ Config.unpinned.origin.rawUrl.after ∧ isDelimiter '/' = true ∧
    Marker.Plain Config.unpinned.harness.versionLabel ∧
    (∃ name ∈ ["a/b", "v1.2.0-a.1+b"], (tagVersion? name).isSome = true) ∧ tag = "v1.2.0-a.1+b" ∧
    resolve Config.unpinned 1 none ⟨listingHost, [], []⟩ = (.ok (Resolved.pinned Config.unpinned tag), left) ∧
    Config.unpinned.origin.rawUrl.version? ((Resolved.pinned Config.unpinned tag).fileUrl Config.unpinned "a.ts") =
      some tag ∧
    ∃ read, Marker.parse? (Marker.ofVersion Config.unpinned tag).render = some read ∧ read.version = tag := by
  have plain : Marker.Plain Config.unpinned.harness.versionLabel := ⟨by decide, split_first_none _ _ (by decide)⟩
  have parses : ∃ name ∈ ["a/b", "v1.2.0-a.1+b"], (tagVersion? name).isSome = true :=
    ⟨"v1.2.0-a.1+b", List.mem_cons_of_mem _ List.mem_cons_self, by decide +kernel⟩
  obtain ⟨tag, _, listing, source, resolved, files, marker⟩ := latest_tag_survives Config.unpinned _ '/'
    Config.unpinned_accepted rfl (by decide) (by decide) plain parses
  cases source
  have names : (fetchTags "http://h/tags" 1 ((⟨listingHost, [], []⟩ : Link).note (.listingTags "http://h/tags"))).1.toOption =
      some ["a/b", "v1.2.0-a.1+b"] := by decide +kernel
  have run := resolved 1 ⟨listingHost, [], []⟩ _ (Prod.ext (except_of_option _ _ names) rfl)
  have version : (resolve Config.unpinned 1 none ⟨listingHost, [], []⟩).1.toOption.map Resolved.version =
      some "v1.2.0-a.1+b" := by decide +kernel
  rw [run] at version
  exact ⟨_, tag, Config.unpinned_accepted, rfl, by decide, by decide, plain, parses, Option.some.inj version, run,
    (files "a.ts").1, marker⟩

end SuiteSync
