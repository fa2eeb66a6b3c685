import SuiteSync.Proofs.Version.Order
import SuiteSync.Version.Tag

set_option autoImplicit false

namespace SuiteSync

open Std

def LastGreatest (tagged : List (Version × String)) : Option (Version × String) → Prop
  | none => tagged = []
  | some best => ∃ front back, tagged = front ++ best :: back ∧
      (∀ other ∈ front, (compare other.1 best.1).isLE = true) ∧ ∀ other ∈ back, compare other.1 best.1 = .lt

theorem later_tag_last (seen : List (Version × String)) (best : Option (Version × String)) (next : Version × String)
    (last : LastGreatest seen best) : LastGreatest (seen ++ [next]) (laterTag best next) := by
  cases best with
  | none =>
      obtain rfl : seen = [] := last
      exact ⟨[], [], rfl, List.forall_mem_nil _, List.forall_mem_nil _⟩
  | some held =>
      obtain ⟨front, back, rfl, upTo, below⟩ := last
      rw [laterTag]
      by_cases less : compare next.1 held.1 = .lt
      · rw [if_pos less]
        refine ⟨front, back ++ [next], by simp, upTo, ?_⟩
        exact List.forall_mem_append.mpr ⟨below, List.forall_mem_singleton.mpr less⟩
      · rw [if_neg less]
        have bound : (compare held.1 next.1).isLE = true := by
          rw [Ordering.isLE_iff_ne_gt]
          exact fun greater => less (OrientedCmp.gt_iff_lt.mp greater)
        refine ⟨front ++ held :: back, [], rfl, ?_, List.forall_mem_nil _⟩
        intro other member
        rcases List.mem_append.mp member with earlier | later
        · exact TransOrd.isLE_trans (upTo other earlier) bound
        · rcases List.mem_cons.mp later with rfl | further
          · exact bound
          · have low : (compare other.1 held.1).isLE = true := by rw [below other further]; rfl
            exact TransOrd.isLE_trans low bound

theorem later_tags_last (seen tagged : List (Version × String)) (best : Option (Version × String))
    (last : LastGreatest seen best) : LastGreatest (seen ++ tagged) (tagged.foldl laterTag best) := by
  induction tagged generalizing seen best with
  | nil => rwa [List.append_nil]
  | cons next later ih =>
      have whole := ih (seen ++ [next]) (laterTag best next) (later_tag_last seen best next last)
      rwa [List.append_assoc] at whole

theorem greatest_tag_last (tagged : List (Version × String)) : LastGreatest tagged (greatestTag tagged) :=
  later_tags_last [] tagged none rfl

theorem last_greatest_bound (tagged : List (Version × String)) (best other : Version × String)
    (last : LastGreatest tagged (some best)) (member : other ∈ tagged) : compare other.1 best.1 ≠ .gt := by
  obtain ⟨front, back, rfl, upTo, below⟩ := last
  rcases List.mem_append.mp member with earlier | later
  · exact Ordering.isLE_iff_ne_gt.mp (upTo other earlier)
  · rcases List.mem_cons.mp later with rfl | further
    · rw [ReflOrd.compare_self]
      exact nofun
    · rw [below other further]
      exact nofun

theorem last_greatest_mem (tagged : List (Version × String)) (best : Version × String)
    (last : LastGreatest tagged (some best)) : best ∈ tagged := by
  obtain ⟨front, back, rfl, _⟩ := last
  exact List.mem_append_right front List.mem_cons_self

theorem mem_version_tags (names : List String) (version : Version) (tag : String) :
    (version, tag) ∈ versionTags names ↔ tag ∈ names ∧ tagVersion? tag = some version := by
  rw [versionTags, List.mem_filterMap]
  constructor
  · rintro ⟨other, member, made⟩
    obtain ⟨found, read, same⟩ := Option.map_eq_some_iff.mp made
    cases same
    exact ⟨member, read⟩
  · rintro ⟨member, read⟩
    exact ⟨tag, member, by rw [read, Option.map_some]⟩

theorem version_tags_cut (names : List String) (keeps : Version × String → Bool) (front back : List (Version × String))
    (best : Version × String) (cut : (versionTags names).filter keeps = front ++ best :: back) :
    ∃ earlier later, names = earlier ++ best.2 :: later ∧ (versionTags later).filter keeps = back := by
  obtain ⟨before, after, whole, _, rest⟩ := List.filter_eq_append_iff.mp cut
  obtain ⟨passed, left, rfl, _, _, last⟩ := List.filter_eq_cons_iff.mp rest
  rw [versionTags, ← List.append_assoc] at whole
  obtain ⟨first, second, rfl, _, tail⟩ := List.filterMap_eq_append_iff.mp whole
  obtain ⟨skipped, tag, later, rfl, _, made, rfl⟩ := List.filterMap_eq_cons_iff.mp tail
  obtain ⟨version, _, rfl⟩ := Option.map_eq_some_iff.mp made
  exact ⟨first ++ skipped, later, by simp, last⟩

structure Newest (names : List String) (tag : String) (version : Version) : Prop where
  reads : tagVersion? tag = some version
  release : ∀ other ∈ names, ∀ found, tagVersion? other = some found → found.isRelease = true → version.isRelease = true
  greatest : ∀ other ∈ names, ∀ found, tagVersion? other = some found → found.isRelease = version.isRelease →
    compare found version ≠ .gt
  last : ∃ earlier later, names = earlier ++ tag :: later ∧
    ∀ other ∈ later, ∀ found, tagVersion? other = some found → compare found version ≠ .eq

theorem newest_of_greatest (names : List String) (keeps : Version × String → Bool) (best : Version × String)
    (kind : ∀ entry, keeps entry = true ↔ entry.1.isRelease = best.1.isRelease)
    (found : greatestTag ((versionTags names).filter keeps) = some best)
    (release : ∀ other ∈ names, ∀ found, tagVersion? other = some found → found.isRelease = true →
      best.1.isRelease = true) : Newest names best.2 best.1 := by
  have last := greatest_tag_last ((versionTags names).filter keeps)
  rw [found] at last
  have member := last_greatest_mem _ best last
  refine ⟨((mem_version_tags names _ _).mp (List.mem_filter.mp member).1).2, release, ?_, ?_⟩
  · intro other listed version read same
    refine last_greatest_bound _ best (version, other) last (List.mem_filter.mpr ⟨?_, (kind _).mpr same⟩)
    exact (mem_version_tags names version other).mpr ⟨listed, read⟩
  · obtain ⟨front, back, whole, _, below⟩ := last
    obtain ⟨earlier, later, split, rest⟩ := version_tags_cut names keeps front back best whole
    refine ⟨earlier, later, split, fun other listed version read equal => ?_⟩
    obtain rfl : version = best.1 := LawfulEqOrd.eq_of_compare equal
    have kept : (best.1, other) ∈ back := by
      rw [← rest]
      exact List.mem_filter.mpr ⟨(mem_version_tags later _ _).mpr ⟨listed, read⟩, (kind _).mpr rfl⟩
    have less := below _ kept
    rw [equal] at less
    cases less

theorem greatest_tag_none (tagged : List (Version × String)) : greatestTag tagged = none ↔ tagged = [] := by
  have last := greatest_tag_last tagged
  constructor
  · intro none
    rwa [none] at last
  · rintro rfl
    rfl

theorem latest_tag_newest (names : List String) (tag : String) (latest : latestTag? names = some tag) :
    ∃ version, Newest names tag version := by
  rw [latestTag?] at latest
  obtain ⟨best, found, rfl⟩ := Option.map_eq_some_iff.mp latest
  have tagged : ∀ other ∈ names, ∀ version, tagVersion? other = some version → (version, other) ∈ versionTags names :=
    fun other listed version read => (mem_version_tags names version other).mpr ⟨listed, read⟩
  have kept : ∀ keeps, greatestTag ((versionTags names).filter keeps) = some best → keeps best = true := by
    intro keeps greatest
    have last := greatest_tag_last ((versionTags names).filter keeps)
    rw [greatest] at last
    exact (List.mem_filter.mp (last_greatest_mem _ best last)).2
  refine ⟨best.1, ?_⟩
  rcases Option.or_eq_some_iff.mp found with greatest | ⟨none, greatest⟩
  · have release : best.1.isRelease = true := kept _ greatest
    exact newest_of_greatest names _ best (by simp [release]) greatest fun _ _ _ _ _ => release
  · have preview : best.1.isRelease = false := by simpa using kept _ greatest
    have noRelease := List.filter_eq_nil_iff.mp ((greatest_tag_none _).mp none)
    refine newest_of_greatest names _ best (by simp [preview]) greatest fun other listed version read release => ?_
    exact absurd release (noRelease _ (tagged other listed version read))

theorem latest_tag_none (names : List String) :
    latestTag? names = none ↔ ∀ tag ∈ names, tagVersion? tag = none := by
  rw [latestTag?, Option.map_eq_none_iff, Option.or_eq_none_iff, greatest_tag_none, greatest_tag_none]
  constructor
  · rintro ⟨noRelease, noPreview⟩ tag listed
    cases read : tagVersion? tag with
    | none => rfl
    | some version =>
        have member := (mem_version_tags names version tag).mpr ⟨listed, read⟩
        have release := List.filter_eq_nil_iff.mp noRelease _ member
        have preview := List.filter_eq_nil_iff.mp noPreview _ member
        simp_all
  · intro unread
    have empty : versionTags names = [] := List.filterMap_eq_nil_iff.mpr fun tag listed => by
      rw [unread tag listed, Option.map_none]
    rw [empty]
    exact ⟨rfl, rfl⟩

theorem newest_listed (names : List String) (tag : String) (version : Version) (newest : Newest names tag version) :
    tag ∈ names := by
  obtain ⟨earlier, later, rfl, _⟩ := newest.last
  exact List.mem_append_right earlier List.mem_cons_self

theorem newest_version_unique (names names' : List String) (tag tag' : String) (version version' : Version)
    (members : ∀ other, other ∈ names ↔ other ∈ names') (newest : Newest names tag version)
    (newest' : Newest names' tag' version') : version = version' := by
  have listed := (members tag).mp (newest_listed names tag version newest)
  have listed' := (members tag').mpr (newest_listed names' tag' version' newest')
  have kind : version.isRelease = version'.isRelease := by
    rw [Bool.eq_iff_iff]
    exact ⟨newest'.release tag listed version newest.reads, newest.release tag' listed' version' newest'.reads⟩
  have upTo := Ordering.isLE_iff_ne_gt.mpr (newest'.greatest tag listed version newest.reads kind)
  have upTo' := Ordering.isLE_iff_ne_gt.mpr (newest.greatest tag' listed' version' newest'.reads kind.symm)
  exact LawfulEqOrd.eq_of_compare (OrientedCmp.isLE_antisymm upTo upTo')

theorem newest_unique (names : List String) (tag tag' : String) (version version' : Version)
    (newest : Newest names tag version) (newest' : Newest names tag' version') : tag = tag' := by
  obtain rfl := newest_version_unique names names tag tag' version version' (fun _ => Iff.rfl) newest newest'
  obtain ⟨earlier, later, split, last⟩ := newest.last
  obtain ⟨earlier', later', split', last'⟩ := newest'.last
  have reflexive : compare version version = .eq := ReflOrd.compare_self
  -- Were the places different, one of the two tags would come after the other.
  rcases List.append_eq_append_iff.mp (split.symm.trans split') with ⟨more, _, rest⟩ | ⟨more, _, rest⟩
  · cases more with
    | nil => exact (List.cons.inj rest).1
    | cons c between =>
        have listed : tag' ∈ later := by
          rw [(List.cons.inj rest).2]
          exact List.mem_append_right between List.mem_cons_self
        exact absurd reflexive (last tag' listed version newest'.reads)
  · cases more with
    | nil => exact (List.cons.inj rest).1.symm
    | cons c between =>
        have listed : tag ∈ later' := by
          rw [(List.cons.inj rest).2]
          exact List.mem_append_right between List.mem_cons_self
        exact absurd reflexive (last' tag listed version newest.reads)

theorem latest_tag_iff (names : List String) (tag : String) :
    latestTag? names = some tag ↔ ∃ version, Newest names tag version := by
  constructor
  · exact latest_tag_newest names tag
  · rintro ⟨version, newest⟩
    cases latest : latestTag? names with
    | none =>
        have unread := (latest_tag_none names).mp latest tag (newest_listed names tag version newest)
        exact nomatch unread.symm.trans newest.reads
    | some other =>
        obtain ⟨version', newest'⟩ := latest_tag_newest names other latest
        rw [newest_unique names other tag version' version newest' newest]

theorem latest_version_iff (names : List String) (version : Version) :
    (latestTag? names).bind tagVersion? = some version ↔ ∃ tag, Newest names tag version := by
  rw [Option.bind_eq_some_iff]
  constructor
  · rintro ⟨tag, latest, read⟩
    obtain ⟨version', newest⟩ := latest_tag_newest names tag latest
    cases newest.reads.symm.trans read
    exact ⟨tag, newest⟩
  · rintro ⟨tag, newest⟩
    exact ⟨tag, (latest_tag_iff names tag).mpr ⟨version, newest⟩, newest.reads⟩

theorem newest_elsewhere (names names' : List String) (tag : String) (version : Version)
    (members : ∀ other, other ∈ names ↔ other ∈ names') (newest : Newest names tag version) :
    ∃ tag', Newest names' tag' version := by
  cases latest : latestTag? names' with
  | none =>
      have listed := (members tag).mp (newest_listed names tag version newest)
      exact nomatch ((latest_tag_none names').mp latest tag listed).symm.trans newest.reads
  | some tag' =>
      obtain ⟨version', newest'⟩ := latest_tag_newest names' tag' latest
      obtain rfl := newest_version_unique names names' tag tag' version version' members newest newest'
      exact ⟨tag', newest'⟩

theorem latest_tag_greatest (names : List String) :
    (latestTag? names = none ↔ ∀ tag ∈ names, tagVersion? tag = none) ∧
    (∀ tag, latestTag? names = some tag ↔ ∃ version, Newest names tag version) ∧
    ∀ names', names.Perm names' → (latestTag? names').bind tagVersion? = (latestTag? names).bind tagVersion? := by
  refine ⟨latest_tag_none names, latest_tag_iff names, fun names' perm => ?_⟩
  refine Option.ext fun version => ?_
  rw [latest_version_iff, latest_version_iff]
  constructor
  · rintro ⟨tag, newest⟩
    exact newest_elsewhere names' names tag version (fun _ => perm.mem_iff.symm) newest
  · rintro ⟨tag, newest⟩
    exact newest_elsewhere names names' tag version (fun _ => perm.mem_iff) newest

theorem sample_latest : latestTag? ["v1.2.0+a", "nightly", "2.0.0-rc.1", "1.2.0+a"] = some "1.2.0+a" ∧
    ["v1.2.0+a", "nightly", "2.0.0-rc.1", "1.2.0+a"].Perm ["1.2.0+a", "2.0.0-rc.1", "nightly", "v1.2.0+a"] ∧
    (latestTag? ["1.2.0+a", "2.0.0-rc.1", "nightly", "v1.2.0+a"]).bind tagVersion? =
      some ⟨1, 2, 0, [], ["a"]⟩ := by
  have found : latestTag? ["v1.2.0+a", "nightly", "2.0.0-rc.1", "1.2.0+a"] = some "1.2.0+a" := by decide +kernel
  have perm : ["v1.2.0+a", "nightly", "2.0.0-rc.1", "1.2.0+a"].Perm ["1.2.0+a", "2.0.0-rc.1", "nightly", "v1.2.0+a"] := by
    decide
  refine ⟨found, perm, ?_⟩
  rw [(latest_tag_greatest _).2.2 _ perm, found]
  decide +kernel

end SuiteSync
