import Mathlib.Logic.ExistsUnique
import SuiteSync.Proofs.Text.Search
import SuiteSync.UrlTemplate

set_option autoImplicit false

namespace SuiteSync

open Text

theorem shifted_chars (shift text tail : List Char) (moved : shift ≠ [])
    (again : text <+: shift ++ text ++ tail) : ∀ c ∈ text, c ∈ shift := by
  have within : shift <+: shift ++ text ++ tail := by
    rw [List.append_assoc]
    exact List.prefix_append shift _
  rcases Nat.le_total text.length shift.length with short | long
  · intro c member
    exact (List.prefix_of_prefix_length_le again within short).subset member
  · obtain ⟨rest, same⟩ := List.prefix_of_prefix_length_le within again long
    subst same
    have shorter : rest.length < (shift ++ rest).length := by
      have := List.length_pos_iff.mpr moved
      rw [List.length_append]
      omega
    have again' : rest <+: shift ++ rest ++ tail := by
      rw [List.append_assoc shift (shift ++ rest) tail] at again
      exact (List.prefix_append_right_inj shift).mp again
    intro c member
    rcases List.mem_append.mp member with first | later
    · exact first
    · exact shifted_chars shift rest tail moved again' c later
termination_by text.length

theorem prefix_of_shifted (shift text tail : List Char) (again : shift ++ text <+: text ++ tail) :
    text <+: shift ++ text ++ [] := by
  rw [List.append_nil]
  refine List.prefix_of_prefix_length_le (List.prefix_append text tail) again ?_
  rw [List.length_append]
  omega

namespace UrlTemplate

structure Segment (after text segment : List Char) : Prop where
  named : segment ≠ []
  inside : ∀ c ∈ segment, isDelimiter c = false
  followed : segment ++ after <+: text

theorem segment_cons (after cs segment : List Char) (c d : Char) (read : Segment after (c :: cs) (d :: segment)) :
    d = c ∧ isDelimiter c = false ∧ (segment = [] ∧ after <+: cs ∨ Segment after cs segment) := by
  obtain ⟨same, rest⟩ := List.cons_prefix_cons.mp read.followed
  subst same
  refine ⟨rfl, read.inside d List.mem_cons_self, ?_⟩
  cases segment with
  | nil => exact .inl ⟨rfl, rest⟩
  | cons e more =>
      exact .inr ⟨List.cons_ne_nil _ _, fun x member => read.inside x (List.mem_cons_of_mem _ member), rest⟩

theorem segment_before_spec (after text : List Char) :
    match segmentBefore after text with
    | none => ∀ segment, ¬ Segment after text segment
    | some segment => Segment after text segment ∧ ∀ other, Segment after text other → other.length ≤ segment.length := by
  fun_induction segmentBefore after text with
  | case1 =>
      intro segment read
      have empty := List.prefix_nil.mp read.followed
      exact read.named (List.append_eq_nil_iff.mp empty).1
  | case2 c cs delimits =>
      intro segment read
      cases segment with
      | nil => exact read.named rfl
      | cons d rest =>
          obtain ⟨_, free, _⟩ := segment_cons after cs rest c d read
          exact Bool.false_ne_true (free.symm.trans delimits)
  | case3 c cs free longer found ih =>
      rw [found] at ih
      obtain ⟨read, longest⟩ := ih
      refine ⟨⟨List.cons_ne_nil _ _, ?_, (List.prefix_cons_inj c).mpr read.followed⟩, ?_⟩
      · intro x member
        rcases List.mem_cons.mp member with same | later
        · exact same ▸ Bool.eq_false_iff.mpr free
        · exact read.inside x later
      · intro other also
        cases other with
        | nil => exact Nat.zero_le _
        | cons d rest =>
            obtain ⟨_, _, ending | going⟩ := segment_cons after cs rest c d also
            · simp [ending.1]
            · exact Nat.succ_le_succ (longest rest going)
  | case4 c cs free missing follows ih =>
      rw [missing] at ih
      refine ⟨⟨List.cons_ne_nil _ _, ?_, ?_⟩, ?_⟩
      · intro x member
        exact List.mem_singleton.mp member ▸ Bool.eq_false_iff.mpr free
      · exact (List.prefix_cons_inj c).mpr (List.isPrefixOf_iff_prefix.mp follows)
      · intro other also
        cases other with
        | nil => exact Nat.zero_le _
        | cons d rest =>
            obtain ⟨_, _, ending | going⟩ := segment_cons after cs rest c d also
            · simp [ending.1]
            · exact absurd going (ih rest)
  | case5 c cs free missing apart ih =>
      rw [missing] at ih
      intro segment read
      cases segment with
      | nil => exact read.named rfl
      | cons d rest =>
          obtain ⟨_, _, ending | going⟩ := segment_cons after cs rest c d read
          · exact apart (List.isPrefixOf_iff_prefix.mpr ending.2)
          · exact ih rest going

theorem segment_before_longest (after text segment : List Char) :
    segmentBefore after text = some segment ↔
      Segment after text segment ∧ ∀ other, Segment after text other → other.length ≤ segment.length := by
  have spec := segment_before_spec after text
  cases found : segmentBefore after text with
  | none =>
      rw [found] at spec
      exact ⟨nofun, fun read => absurd read.1 (spec segment)⟩
  | some longest =>
      rw [found] at spec
      constructor
      · rintro ⟨⟩
        exact spec
      · intro read
        have first := (List.prefix_append longest after).trans spec.1.followed
        have second := (List.prefix_append segment after).trans read.1.followed
        have equal := Nat.le_antisymm (read.2 longest spec.1) (spec.2 segment read.1)
        exact congrArg some ((List.prefix_of_prefix_length_le first second (Nat.le_of_eq equal)).eq_of_length equal)

-- A path leaves no doubt where the version ends when nothing more of the segment could be read with it.
def Definite (t : UrlTemplate) (path : List Char) : Prop :=
  ∀ extra, extra ≠ [] → (∀ c ∈ extra, isDelimiter c = false) → ¬ extra ++ t.after <+: t.after ++ path

theorem definite_of_delimiter (t : UrlTemplate) (path : List Char) (mark : Char) (member : mark ∈ t.after)
    (delimits : isDelimiter mark) : t.Definite path := by
  intro extra more free again
  have inExtra := shifted_chars extra t.after [] more (prefix_of_shifted _ _ _ again) mark member
  exact Bool.false_ne_true ((free mark inExtra).symm.trans delimits)

theorem version_of_rendered (t : UrlTemplate) (version path : String) :
    t.version? (t.render version ++ path) =
      (segmentBefore t.after (version.toList ++ (t.after ++ path.toList))).map String.ofList := by
  have whole : (t.render version ++ path).toList = t.before ++ (version.toList ++ (t.after ++ path.toList)) := by
    simp [render, String.toList_append, List.append_assoc]
  rw [version?, whole, strip_append, Option.bind_some]

theorem version_read_iff (t : UrlTemplate) (version path : String) (named : version ≠ "") :
    t.version? (t.render version ++ path) = some version ↔
      (∀ c ∈ version.toList, isDelimiter c = false) ∧ t.Definite path.toList := by
  have filled : version.toList ≠ [] := fun empty => named (String.toList_inj.mp (empty.trans rfl))
  have read : t.version? (t.render version ++ path) = some version ↔
      segmentBefore t.after (version.toList ++ (t.after ++ path.toList)) = some version.toList := by
    rw [version_of_rendered, Option.map_eq_some_iff]
    constructor
    · rintro ⟨segment, found, rfl⟩
      rw [found, String.toList_ofList]
    · exact fun found => ⟨version.toList, found, String.ofList_toList⟩
  rw [read, segment_before_longest]
  constructor
  · rintro ⟨segment, longest⟩
    refine ⟨segment.inside, fun extra more free again => ?_⟩
    -- What could be read beyond the version would make a longer segment.
    have longer : Segment t.after (version.toList ++ (t.after ++ path.toList)) (version.toList ++ extra) := by
      refine ⟨fun empty => more (List.append_eq_nil_iff.mp empty).2, ?_, ?_⟩
      · intro c member
        exact (List.mem_append.mp member).elim (segment.inside c) (free c)
      · rw [List.append_assoc]
        exact (List.prefix_append_right_inj _).mpr again
    have bound := longest _ longer
    have positive := List.length_pos_iff.mpr more
    rw [List.length_append] at bound
    omega
  · rintro ⟨free, definite⟩
    refine ⟨⟨filled, free, ?_⟩, fun other also => ?_⟩
    · exact (List.prefix_append_right_inj _).mpr (List.prefix_append _ _)
    · rcases Nat.le_total other.length version.toList.length with short | long
      · exact short
      -- A longer segment goes on with something that the path was said not to allow.
      · have front := (List.prefix_append other t.after).trans also.followed
        obtain ⟨extra, same⟩ := List.prefix_of_prefix_length_le (List.prefix_append _ _) front long
        have again : extra ++ t.after <+: t.after ++ path.toList := by
          have followed := also.followed
          rw [← same, List.append_assoc] at followed
          exact (List.prefix_append_right_inj _).mp followed
        have none : extra = [] := Classical.byContradiction fun more =>
          definite extra more (fun c member => also.inside c (same ▸ List.mem_append_right _ member)) again
        exact Nat.le_of_eq (by rw [← same, none, List.append_nil])

theorem placeholder_unlapped (front rest tail : List Char) (short : front.length < versionPlaceholder.length)
    (same : versionPlaceholder ++ rest = front ++ (versionPlaceholder ++ tail)) : front = [] := by
  have letters : versionPlaceholder = '\x7b' :: ['v', 'e', 'r', 's', 'i', 'o', 'n', '\x7d'] := by decide
  rw [letters] at same short
  refine Classical.byContradiction fun filled => ?_
  have inside : '\x7b' ∈ ['v', 'e', 'r', 's', 'i', 'o', 'n', '\x7d'] :=
    char_within ['\x7b'] _ rest front _ '\x7b' same (List.length_pos_iff.mpr filled) (Nat.lt_of_lt_of_eq short (Nat.add_comm 8 1))
  exact absurd inside (by decide)

theorem split_once_unique (before after before' after' : List Char)
    (first : splitFirst? versionPlaceholder (before ++ versionPlaceholder ++ after) = some (before, after))
    (once : splitFirst? versionPlaceholder after = none)
    (split : before ++ versionPlaceholder ++ after = before' ++ versionPlaceholder ++ after') :
    before' = before ∧ after' = after := by
  have early := split_first_leftmost _ _ _ _ before' after' first split
  rw [List.append_assoc, List.append_assoc] at split
  obtain ⟨middle, rfl⟩ : before <+: before' :=
    List.prefix_of_prefix_length_le ⟨_, rfl⟩ (split ▸ List.prefix_append before' _) early
  rw [List.append_assoc] at split
  have rest := List.append_cancel_left split
  rcases Nat.lt_or_ge middle.length versionPlaceholder.length with short | long
  · obtain rfl := placeholder_unlapped middle _ _ short rest
    exact ⟨List.append_nil _, (List.append_cancel_left rest).symm⟩
  · obtain ⟨more, rfl⟩ := List.prefix_of_prefix_length_le (List.prefix_append _ _) (rest ▸ List.prefix_append middle _) long
    rw [List.append_assoc] at rest
    have again := List.append_cancel_left rest
    rw [← List.append_assoc] at again
    exact absurd again (split_first_none _ _ once more after')

theorem split_unique (t : UrlTemplate) (before after : List Char)
    (split : t.before ++ versionPlaceholder ++ t.after = before ++ versionPlaceholder ++ after) :
    before = t.before ∧ after = t.after :=
  split_once_unique t.before t.after before after t.first t.once split

def Single (text : String) : Prop := ∃! front, front ++ versionPlaceholder <+: text.toList

theorem single_iff (text : String) (before after : List Char)
    (cut : splitFirst? versionPlaceholder text.toList = some (before, after)) :
    Single text ↔ splitFirst? versionPlaceholder after = none := by
  have joined := split_first_join _ _ _ _ cut
  have here : before ++ versionPlaceholder <+: text.toList := ⟨after, joined.symm⟩
  constructor
  · rintro ⟨only, _, unique⟩
    cases again : splitFirst? versionPlaceholder after with
    | none => rfl
    | some parts =>
        obtain ⟨between, later⟩ := parts
        have second : before ++ versionPlaceholder ++ between ++ versionPlaceholder <+: text.toList := by
          rw [joined, split_first_join _ _ _ _ again]
          exact ⟨later, by simp only [List.append_assoc]⟩
        have same := (unique _ second).trans (unique _ here).symm
        have lengths := congrArg List.length same
        have letters : versionPlaceholder.length = 9 := by decide
        simp only [List.length_append, letters] at lengths
        omega
  · intro once
    refine ⟨before, here, ?_⟩
    rintro front ⟨back, split⟩
    exact (split_once_unique before after front back (joined ▸ cut) once (joined.symm.trans split.symm)).1

def Told (text : String) : Except TemplateFault UrlTemplate → Prop
  | .ok _ => Single text ∧ ¬ versionPlaceholder <+: text.toList
  | .error .notOnePlaceholder => ¬ Single text
  | .error .nothingBefore => Single text ∧ versionPlaceholder <+: text.toList
  | .error (.notCompiled _) => False

theorem cut_told (text : String) : Told text (cut text) := by
  fun_cases cut text with
  | case1 missing =>
      rintro ⟨front, ⟨back, split⟩, _⟩
      exact split_first_none _ _ missing front back split.symm
  | case2 before after cut once anchored =>
      refine ⟨(single_iff text before after cut).mpr once, ?_⟩
      rintro ⟨back, starts⟩
      have early := split_first_leftmost _ _ _ _ [] back cut starts.symm
      exact anchored (List.length_eq_zero_iff.mp (Nat.le_zero.mp early))
  | case3 before after cut once unanchored =>
      refine ⟨(single_iff text before after cut).mpr once, after, ?_⟩
      rw [split_first_join _ _ _ _ cut, Classical.not_not.mp unanchored]
      rfl
  | case4 before after cut again =>
      exact fun single => again ((single_iff text before after cut).mp single)

theorem version_starts (t : UrlTemplate) (url version : String) (read : t.version? url = some version) :
    version ≠ "" ∧ (∀ c ∈ version.toList, isDelimiter c = false) ∧ ∃ rest, url = t.render version ++ rest := by
  obtain ⟨segment, found, rfl⟩ := Option.map_eq_some_iff.mp read
  obtain ⟨tail, stripped, longest⟩ := Option.bind_eq_some_iff.mp found
  obtain ⟨segment_read, _⟩ := (segment_before_longest _ _ _).mp longest
  obtain ⟨rest, followed⟩ := segment_read.followed
  have whole := (strip_eq_some_iff _ _ _).mp stripped
  rw [String.toList_ofList]
  refine ⟨fun empty => segment_read.named ?_, segment_read.inside, String.ofList rest, String.toList_inj.mp ?_⟩
  · rw [← String.toList_ofList (l := segment), empty]
    rfl
  · rw [whole, ← followed]
    simp [render]

theorem render_then_read (text : String) (t : UrlTemplate) (parsed : parse text = .ok t) :
    ∃ before after : String, before ≠ "" ∧
      (∀ before' after', text = before' ++ String.ofList versionPlaceholder ++ after' ↔ before' = before ∧ after' = after) ∧
      (∀ version, t.render version = before ++ version ++ after) ∧
      (∀ url version, t.version? url = some version → version ≠ "" ∧ (∀ c ∈ version.toList, isDelimiter c = false) ∧
        ∃ rest, url = before ++ version ++ after ++ rest) ∧
      ((∃ c ∈ after.toList, isDelimiter c = true) → ∀ version rest, version ≠ "" →
        (∀ c ∈ version.toList, isDelimiter c = false) →
        t.version? (before ++ version ++ after ++ rest) = some version) := by
  have render : ∀ version, t.render version = String.ofList t.before ++ version ++ String.ofList t.after := by
    intro version
    rw [UrlTemplate.render, String.ofList_append, String.ofList_append, String.ofList_toList]
  refine ⟨String.ofList t.before, String.ofList t.after, ?_, ?_, render, ?_, ?_⟩
  · intro empty
    exact t.anchored (by simpa using congrArg String.toList empty)
  · intro before' after'
    rw [← parse_text text t parsed, UrlTemplate.text]
    constructor
    · intro split
      have chars := congrArg String.toList split
      simp only [String.toList_append, String.toList_ofList] at chars
      obtain ⟨first, last⟩ := split_unique t _ _ chars
      rw [← first, ← last, String.ofList_toList, String.ofList_toList]
      exact ⟨rfl, rfl⟩
    · rintro ⟨rfl, rfl⟩
      rw [String.ofList_append, String.ofList_append]
  · intro url version read
    rw [← render]
    exact version_starts t url version read
  · rintro ⟨mark, member, delimits⟩ version rest named free
    rw [String.toList_ofList] at member
    rw [← render, version_read_iff t version rest named]
    exact ⟨free, definite_of_delimiter t _ mark member delimits⟩

theorem sample_template : ∃ t, parse "a.b/\x7bversion\x7d+c/" = .ok t ∧
    t.render "\x7bversion\x7d" = "a.b/\x7bversion\x7d+c/" ∧ t.version? "a.b/1+c+c/+c/d" = some "1+c" := by
  have parsed : parse "a.b/\x7bversion\x7d+c/" =
      .ok ⟨"a.b/".toList, "+c/".toList, by decide, by decide, by decide⟩ := rfl
  obtain ⟨before, after, _, split, render, _, reads⟩ := render_then_read _ _ parsed
  obtain ⟨rfl, rfl⟩ := (split "a.b/" "+c/").mp (by decide)
  have slash : ∃ c ∈ "+c/".toList, isDelimiter c = true := ⟨'/', by decide, by decide⟩
  have free : ∀ c ∈ "1+c".toList, isDelimiter c = false := by simp [isDelimiter]
  exact ⟨_, parsed, render _, reads slash "1+c" "+c/d" (by decide) free⟩

end UrlTemplate

end SuiteSync
