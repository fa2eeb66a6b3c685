import Mathlib.Data.List.DropRight
import SuiteSync.Proofs.Disk.Access
import SuiteSync.Proofs.Text.Search
import SuiteSync.Sync.Drift

set_option autoImplicit false

namespace SuiteSync

open Text

namespace Text

theorem lines_first (front : List Char) (noFeed : '\n' ∉ front) :
    ∃ line, (∀ rest, lines (front ++ '\n' :: rest) = line :: lines rest) ∧ (front.getLast? ≠ some '\r' → line = front) := by
  induction front with
  | nil => exact ⟨[], fun _ => rfl, fun _ => rfl⟩
  | cons c more ih =>
      have other : c ≠ '\n' := fun same => noFeed (same ▸ List.mem_cons_self)
      have later : '\n' ∉ more := fun member => noFeed (List.mem_cons_of_mem c member)
      by_cases ending : c = '\r' ∧ more = []
      · obtain ⟨rfl, rfl⟩ := ending
        exact ⟨[], fun _ => rfl, fun noReturn => absurd rfl noReturn⟩
      · obtain ⟨line, cut, whole⟩ := ih later
        refine ⟨c :: line, fun rest => ?_, fun noReturn => ?_⟩
        · have together : ∀ after, c = '\r' → more ++ '\n' :: rest = '\n' :: after → False := by
            intro after same next
            cases more with
            | nil => exact ending ⟨same, rfl⟩
            | cons d tail => exact later ((List.cons.inj next).1 ▸ List.mem_cons_self)
          rw [List.cons_append, lines.eq_4 _ _ other together, cut]
        · refine congrArg (c :: ·) (whole ?_)
          cases more with
          | nil => exact nofun
          | cons d tail => rwa [List.getLast?_cons_cons] at noReturn

theorem lines_line (line rest : List Char) (noFeed : '\n' ∉ line) (noReturn : line.getLast? ≠ some '\r') :
    lines (line ++ '\n' :: rest) = line :: lines rest := by
  obtain ⟨first, cut, whole⟩ := lines_first line noFeed
  rw [cut, whole noReturn]

theorem lines_filled (text : List Char) (filled : text ≠ []) : ∃ line later, lines text = line :: later := by
  fun_cases lines text with
  | case1 => exact absurd rfl filled
  | case2 rest => exact ⟨_, _, rfl⟩
  | case3 rest => exact ⟨_, _, rfl⟩
  | case4 c rest other together none => exact ⟨_, _, rfl⟩
  | case5 c rest other together line later same => exact ⟨_, _, rfl⟩

theorem trimmed_last (text : List Char) (tight : trim text = text) (front : List Char) (last : Char)
    (split : text = front ++ [last]) : isBlank last = false := by
  have start : (trimStart text).length ≤ text.length := (List.dropWhile_sublist _).length_le
  have ending : (trim text).length ≤ (trimStart text).length := by
    rw [trim, trimEnd, List.length_reverse]
    exact Nat.le_trans (List.dropWhile_sublist _).length_le (Nat.le_of_eq List.length_reverse)
  rw [tight] at ending
  have whole : trimStart text = text := (List.dropWhile_suffix _).eq_of_length (Nat.le_antisymm start ending)
  cases blank : isBlank last with
  | false => rfl
  | true =>
      rw [trim, whole, trimEnd, split, List.reverse_append, List.reverse_singleton, List.singleton_append,
        List.dropWhile_cons_of_pos blank] at tight
      have lengths := congrArg List.length tight
      have shorter := (List.dropWhile_sublist (p := isBlank) (l := front.reverse)).length_le
      simp only [List.length_reverse, List.length_append, List.length_singleton] at lengths shorter
      omega

theorem trim_around (front inner : List Char) (first last : Char) (start : isBlank first = false)
    (ending : isBlank last = false) :
    ∃ kept, trim (front ++ first :: (inner ++ [last])) = kept ++ first :: (inner ++ [last]) := by
  have shown : ¬ isBlank first = true := by
    rw [start]
    exact Bool.false_ne_true
  have cut : ∃ kept, trimStart (front ++ first :: (inner ++ [last])) = kept ++ first :: (inner ++ [last]) := by
    rw [trimStart, List.dropWhile_append, List.dropWhile_cons_of_neg shown]
    split
    · exact ⟨[], rfl⟩
    · exact ⟨_, rfl⟩
  obtain ⟨kept, same⟩ := cut
  refine ⟨kept, ?_⟩
  rw [trim, same, ← List.cons_append, ← List.append_assoc, trimEnd, List.reverse_append, List.reverse_singleton,
    List.singleton_append, List.dropWhile_cons_of_neg (by rw [ending]; exact Bool.false_ne_true), List.reverse_cons,
    List.reverse_reverse]

theorem first_line_starts (text line : List Char) (later : List (List Char)) (cut : lines text = line :: later) :
    line <+: text := by
  fun_induction lines text generalizing line later with
  | case1 => cases cut
  | case2 rest =>
      cases cut
      exact List.nil_prefix
  | case3 rest =>
      cases cut
      exact List.nil_prefix
  | case4 c rest other together none ih =>
      cases cut
      exact List.prefix_append [c] rest
  | case5 c rest other together first more same ih =>
      cases cut
      exact List.cons_prefix_cons.mpr ⟨rfl, ih first more same⟩

theorem lines_no_feed (text line : List Char) (member : line ∈ lines text) : '\n' ∉ line := by
  fun_induction lines text generalizing line with
  | case1 => cases member
  | case2 rest ih =>
      rcases List.mem_cons.mp member with rfl | later
      · exact List.not_mem_nil
      · exact ih line later
  | case3 rest ih =>
      rcases List.mem_cons.mp member with rfl | later
      · exact List.not_mem_nil
      · exact ih line later
  | case4 c rest other together none ih =>
      obtain rfl := List.mem_singleton.mp member
      exact fun feed => other (List.mem_singleton.mp feed).symm
  | case5 c rest other together first more same ih =>
      rw [same, List.forall_mem_cons] at ih
      rcases List.mem_cons.mp member with rfl | later
      · exact fun feed => (List.mem_cons.mp feed).elim (Ne.symm other) ih.1
      · exact ih.2 line later

theorem lines_whole (text : List Char) (filled : text ≠ []) (noFeed : '\n' ∉ text) : lines text = [text] := by
  fun_induction lines text with
  | case1 => exact absurd rfl filled
  | case2 rest => exact absurd List.mem_cons_self noFeed
  | case3 rest => exact absurd (List.mem_cons_of_mem _ List.mem_cons_self) noFeed
  | case4 c rest other together none ih =>
      cases rest with
      | nil => rfl
      | cons d more =>
          rw [ih (List.cons_ne_nil d more) (List.not_mem_of_not_mem_cons noFeed)] at none
          cases none
  | case5 c rest other together first more same ih =>
      cases rest with
      | nil => cases same
      | cons d tail =>
          rw [ih (List.cons_ne_nil d tail) (List.not_mem_of_not_mem_cons noFeed)] at same
          cases same
          rfl

theorem trim_end_cons (c : Char) (rest : List Char) (shown : isBlank c = false) : trimEnd (c :: rest) = c :: trimEnd rest := by
  have kept : ¬ isBlank c = true := by
    rw [shown]
    exact Bool.false_ne_true
  rw [trimEnd, trimEnd, List.reverse_cons, List.dropWhile_append, List.dropWhile_cons_of_neg kept]
  split
  · rename_i empty
    rw [List.isEmpty_iff.mp empty]
    rfl
  · rw [List.reverse_append]
    rfl

theorem trim_trim (text : List Char) : trim (trim text) = trim text := by
  rw [trim, trim]
  cases shape : trimStart text with
  | nil => rfl
  | cons c rest =>
      have shown : isBlank c = false := by
        have first := List.head?_dropWhile_not isBlank text
        rw [trimStart] at shape
        rwa [shape] at first
      have start : trimStart (c :: trimEnd rest) = c :: trimEnd rest := by
        refine List.dropWhile_cons_of_neg ?_
        rw [shown]
        exact Bool.false_ne_true
      have ending : trimEnd (trimEnd rest) = trimEnd rest := List.rdropWhile_idempotent isBlank rest
      rw [trim_end_cons c rest shown, start, trim_end_cons c _ shown, ending]

end Text

namespace Marker

structure Nameable (version : String) : Prop where
  named : version ≠ ""
  oneLine : '\n' ∉ version.toList
  tight : trim version.toList = version.toList

structure Plain (label : String) : Prop where
  oneLine : '\n' ∉ label.toList
  whole : ∀ front back, label.toList ≠ front ++ separator ++ back

theorem split_label (label version : List Char) (whole : ∀ front back, label ≠ front ++ separator ++ back) :
    splitFirst? separator (label ++ separator ++ version) = some (label, version) := by
  refine split_first_at separator label version fun front back same => ?_
  refine Nat.le_of_not_lt fun early => ?_
  have mark : separator = [':', ' '] := by decide
  rw [mark, List.append_assoc, List.append_assoc] at same
  -- An earlier separator would lie in the label or overlap with the one that follows it.
  rcases List.append_eq_append_iff.mp same with ⟨more, longer, _⟩ | ⟨more, longer, rest⟩
  · rw [longer, List.length_append] at early
    omega
  · cases more with
    | nil =>
        rw [longer, List.append_nil] at early
        exact Nat.lt_irrefl _ early
    | cons c later =>
        cases later with
        | nil =>
            have first := (List.cons.inj rest).2
            exact absurd (List.cons.inj first).1 (by decide)
        | cons d later =>
            obtain ⟨rfl, tail⟩ := List.cons.inj rest
            obtain ⟨rfl, _⟩ := List.cons.inj tail
            refine whole front later ?_
            rw [longer, mark, List.append_assoc]
            rfl

-- A label behind which the version is read back, or whose own first line happens to read as that version.
def Legible (label version : String) : Prop :=
  Plain label ∨ '\n' ∈ label.toList ∧ ∃ line later front back, lines label.toList = line :: later ∧
    splitFirst? separator line = some (front, back) ∧ trim back = version.toList

theorem parse_first_line (text version : String) (line second : List Char) (later : List (List Char))
    (named : version ≠ "") (cut : lines text.toList = line :: second :: later) :
    (parse? text).map Marker.version = some version ↔
      ∃ front back, splitFirst? separator line = some (front, back) ∧ trim back = version.toList := by
  rw [parse?, cut]
  dsimp only
  cases found : splitFirst? separator line with
  | none => exact ⟨nofun, fun ⟨_, _, missing, _⟩ => nomatch missing⟩
  | some parts =>
      obtain ⟨front, back⟩ := parts
      have read : (∃ front' back', some (front, back) = some (front', back') ∧ trim back' = version.toList) ↔
          trim back = version.toList :=
        ⟨fun ⟨_, _, same, tight⟩ => by cases same; exact tight, fun tight => ⟨front, back, rfl, tight⟩⟩
      rw [read]
      dsimp only
      split
      · rename_i empty
        refine ⟨nofun, fun tight => absurd ?_ named⟩
        rw [tight, List.isEmpty_iff] at empty
        exact String.toList_inj.mp empty
      · rw [Option.map_some, Option.some.injEq]
        constructor
        · rintro rfl
          rw [String.toList_ofList]
        · intro tight
          rw [tight, String.ofList_toList]

theorem separator_before_version (label version : List Char) (tight : trim version = version) (filled : version ≠ [])
    (front back : List Char) (found : splitFirst? separator (label ++ separator ++ version) = some (front, back))
    (read : trim back = version) (before after : List Char) : label ≠ before ++ separator ++ after := by
  rintro rfl
  have joined := split_first_join _ _ _ _ found
  have leftmost := split_first_leftmost _ _ _ _ before (after ++ separator ++ version) found
    (by simp only [List.append_assoc])
  have mark : separator = [':', ' '] := by decide
  have longer : ∃ more, back = more ++ ':' :: ' ' :: version := by
    have whole : front ++ separator <+: before ++ separator ++ after ++ separator ++ version :=
      joined ▸ List.prefix_append _ _
    have inside : before ++ separator ++ after <+: before ++ separator ++ after ++ separator ++ version :=
      (List.prefix_append _ separator).trans (List.prefix_append _ version)
    have short : (front ++ separator).length ≤ (before ++ separator ++ after).length := by
      simp only [List.length_append]
      omega
    have earlier := List.prefix_of_prefix_length_le whole inside short
    obtain ⟨more, same⟩ := earlier
    rw [← same, List.append_assoc, List.append_assoc] at joined
    refine ⟨more, ?_⟩
    rw [← List.append_cancel_left joined, mark]
    rfl
  obtain ⟨more, rfl⟩ := longer
  rcases List.eq_nil_or_concat version with empty | ⟨start, last, split⟩
  · exact filled empty
  · rw [List.concat_eq_append] at split
    obtain ⟨kept, whole⟩ := trim_around more (' ' :: start) ':' last (by decide) (trimmed_last version tight start last split)
    rw [List.cons_append, ← split, read] at whole
    have lengths := congrArg List.length whole
    simp only [List.length_append, List.length_cons] at lengths
    omega

theorem render_text (marker : Marker) : marker.render.toList =
    marker.label.toList ++ separator ++ marker.version.toList ++ '\n' :: marker.treeUrl.toList := by
  simp [render, separator]

theorem lines_of_render (marker : Marker) (nameable : Nameable marker.version) (oneLine : '\n' ∉ marker.label.toList) :
    lines marker.render.toList =
      (marker.label.toList ++ separator ++ marker.version.toList) :: lines marker.treeUrl.toList := by
  have filled : marker.version.toList ≠ [] := by simpa using nameable.named
  rw [render_text]
  refine lines_line _ _ ?_ ?_
  · have mark : '\n' ∉ separator := by decide
    simp [oneLine, nameable.oneLine, mark]
  · rcases List.eq_nil_or_concat marker.version.toList with empty | ⟨front, last, split⟩
    · exact absurd empty filled
    · rw [List.concat_eq_append] at split
      have ends := trimmed_last _ nameable.tight front last split
      rw [split, ← List.append_assoc, List.getLast?_concat]
      intro same
      rw [Option.some.inj same] at ends
      exact absurd ends (by decide)

theorem lines_of_label (marker : Marker) (feed : '\n' ∈ marker.label.toList) :
    ∃ line rest second later, lines marker.label.toList = line :: rest ∧
      lines marker.render.toList = line :: second :: later := by
  obtain ⟨first, rest, split, noFeed⟩ := List.eq_append_cons_of_mem feed
  obtain ⟨line, cut, _⟩ := lines_first first noFeed
  have after : rest ++ separator ++ marker.version.toList ++ '\n' :: marker.treeUrl.toList ≠ [] :=
    List.append_ne_nil_of_right_ne_nil _ (List.cons_ne_nil _ _)
  obtain ⟨second, later, more⟩ := lines_filled _ after
  refine ⟨line, lines rest, second, later, by rw [split, cut], ?_⟩
  rw [render_text, split, ← more, ← cut]
  simp only [List.append_assoc, List.cons_append]

theorem read_back_iff (marker : Marker) (nameable : Nameable marker.version) (tree : marker.treeUrl ≠ "") :
    (parse? marker.render).map Marker.version = some marker.version ↔ Legible marker.label marker.version := by
  have filled : marker.version.toList ≠ [] := by simpa using nameable.named
  by_cases feed : '\n' ∈ marker.label.toList
  · obtain ⟨line, rest, second, later, cut, whole⟩ := lines_of_label marker feed
    rw [parse_first_line _ _ line second later nameable.named whole]
    constructor
    · rintro ⟨front, back, found, read⟩
      exact .inr ⟨feed, line, rest, front, back, cut, found, read⟩
    · rintro (plain | ⟨_, line', rest', front, back, cut', found, read⟩)
      · exact absurd feed plain.oneLine
      · cases cut.symm.trans cut'
        exact ⟨front, back, found, read⟩
  · obtain ⟨second, later, more⟩ := lines_filled marker.treeUrl.toList (by simpa using tree)
    have whole := lines_of_render marker nameable feed
    rw [more] at whole
    rw [parse_first_line _ _ _ second later nameable.named whole]
    constructor
    · rintro ⟨front, back, found, read⟩
      exact .inl ⟨feed, separator_before_version _ _ nameable.tight filled front back found read⟩
    · rintro (plain | ⟨inside, _⟩)
      · exact ⟨_, _, split_label _ _ plain.whole, nameable.tight⟩
      · exact absurd inside feed

theorem parse_render (marker : Marker) (plain : Plain marker.label) (version : Nameable marker.version)
    (tree : marker.treeUrl ≠ "") : ∃ read, parse? marker.render = some read ∧ read.version = marker.version :=
  Option.map_eq_some_iff.mp ((read_back_iff marker version tree).mpr (.inl plain))

theorem tree_named (config : Config) (version : String) : (ofVersion config version).treeUrl ≠ "" := by
  intro empty
  have chars := congrArg String.toList empty
  simp only [ofVersion, UrlTemplate.render, String.toList_ofList] at chars
  simp [config.origin.treeUrl.anchored] at chars

theorem parse_steps (text : String) (marker : Marker) (read : parse? text = some marker) :
    ∃ first second later label version, lines text.toList = first :: second :: later ∧
      splitFirst? separator first = some (label, version) ∧ trim version ≠ [] ∧
      marker = ⟨String.ofList label, String.ofList (trim version), String.ofList (trim second)⟩ := by
  rw [parse?] at read
  split at read
  · rename_i first second later cut
    split at read
    · rename_i label version found
      split at read
      · cases read
      · rename_i filled
        cases read
        exact ⟨first, second, later, label, version, cut, found, fun empty => filled (List.isEmpty_iff.mpr empty), rfl⟩
    · cases read
  · cases read

theorem nameable_trimmed (line : List Char) (filled : trim line ≠ []) (noFeed : '\n' ∉ line) :
    Nameable (String.ofList (trim line)) := by
  have within : ∀ c ∈ trim line, c ∈ line := fun c member =>
    ((List.rdropWhile_prefix isBlank _).sublist.trans (List.dropWhile_sublist isBlank)).mem member
  constructor
  · intro empty
    exact filled (String.ofList_eq_empty_iff.mp empty)
  · rw [String.toList_ofList]
    exact fun feed => noFeed (within _ feed)
  · rw [String.toList_ofList, trim_trim]

theorem label_of_line (marker : Marker) (label version : List Char) (first : List Char) (later : List (List Char))
    (cut : lines marker.render.toList = first :: later) (found : splitFirst? separator first = some (label, version))
    (same : marker.label.toList = label) : '\n' ∉ marker.label.toList := by
  intro feed
  obtain ⟨line, rest, second, more, labelCut, whole⟩ := lines_of_label marker feed
  obtain ⟨rfl, _⟩ := List.cons.inj (whole.symm.trans cut)
  -- The first line lies within the label, and the label that is read ends before the separator on it.
  have long := (first_line_starts _ _ _ labelCut).length_le
  have joined := congrArg List.length (split_first_join _ _ _ _ found)
  have mark : separator.length = 2 := by decide
  rw [List.length_append, List.length_append, mark] at joined
  rw [same] at long
  omega

theorem round_trip_fields (marker : Marker) (read : parse? marker.render = some marker) :
    Plain marker.label ∧ Nameable marker.version ∧ Nameable marker.treeUrl := by
  obtain ⟨first, second, later, label, version, cut, found, filled, same⟩ := parse_steps _ _ read
  have labelled : marker.label.toList = label := by rw [same, String.toList_ofList]
  have firstNoFeed := lines_no_feed _ _ (cut ▸ List.mem_cons_self)
  have secondNoFeed := lines_no_feed _ _ (cut ▸ List.mem_cons_of_mem _ List.mem_cons_self)
  have joined := split_first_join _ _ _ _ found
  have nameable : Nameable marker.version := by
    rw [same]
    exact nameable_trimmed version filled fun feed => firstNoFeed (joined ▸ List.mem_append_right _ feed)
  have noFeed := label_of_line marker label version first _ cut found labelled
  have whole := lines_of_render marker nameable noFeed
  obtain ⟨firstSame, rest⟩ := List.cons.inj (whole.symm.trans cut)
  refine ⟨⟨noFeed, fun front back split => ?_⟩, nameable, ?_⟩
  · have early := split_first_leftmost _ _ _ _ front (back ++ separator ++ marker.version.toList) found
      (by rw [← firstSame, split]; simp only [List.append_assoc])
    have mark : separator.length = 2 := by decide
    have lengths := congrArg List.length split
    rw [labelled, List.length_append, List.length_append, mark] at lengths
    omega
  · rw [same]
    refine nameable_trimmed second (fun empty => ?_) secondNoFeed
    have none : marker.treeUrl.toList = [] := by rw [same, String.toList_ofList, empty]
    rw [none] at rest
    cases rest

theorem fields_round_trip (marker : Marker) (plain : Plain marker.label) (version : Nameable marker.version)
    (tree : Nameable marker.treeUrl) : parse? marker.render = some marker := by
  have filled : marker.treeUrl.toList ≠ [] := by simpa using tree.named
  have named : ¬ marker.version.toList.isEmpty = true := by simpa using version.named
  have whole := lines_of_render marker version plain.oneLine
  rw [lines_whole _ filled tree.oneLine] at whole
  rw [parse?, whole]
  simp only [split_label _ _ plain.whole, version.tight, tree.tight, String.ofList_toList]
  rw [if_neg named]

theorem round_trip_iff (marker : Marker) :
    parse? marker.render = some marker ↔ Plain marker.label ∧ Nameable marker.version ∧ Nameable marker.treeUrl :=
  ⟨round_trip_fields marker, fun ⟨plain, version, tree⟩ => fields_round_trip marker plain version tree⟩

end Marker

theorem from_utf8_to_utf8 (text : String) : String.fromUTF8? text.toUTF8 = some text := by
  rw [String.fromUTF8?, dif_pos (String.toUTF8_eq_toByteArray ▸ text.isValidUTF8)]
  rfl

theorem recorded_of_text (disk : Disk) (config : Config) (text : String)
    (there : disk.node (Path.join config.downloadDir config.harness.versionFile) = .ok (.file text.toUTF8)) :
    recordedVersion? disk config = (Marker.parse? text).map Marker.version := by
  have read := disk.read_text _ text _ there (from_utf8_to_utf8 text)
  unfold recordedVersion?
  rw [read]

theorem recorded_version (disk : Disk) (config : Config) (version : String) (plain : Marker.Plain config.harness.versionLabel)
    (nameable : Marker.Nameable version)
    (there : disk.node (Path.join config.downloadDir config.harness.versionFile) =
      .ok (.file (Marker.ofVersion config version).render.toUTF8)) :
    recordedVersion? disk config = some version := by
  rw [recorded_of_text disk config _ there]
  exact (Marker.read_back_iff (Marker.ofVersion config version) nameable (Marker.tree_named config version)).mpr (.inl plain)

end SuiteSync
