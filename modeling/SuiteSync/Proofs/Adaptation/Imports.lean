import SuiteSync.Adaptation.Basic
import SuiteSync.Proofs.Adaptation.Skips
import SuiteSync.Proofs.Settings

set_option autoImplicit false

namespace SuiteSync

open Text Adaptation

namespace Adaptation

def ParentClause (text : List Char) : Prop :=
  ∃ mark path, isSpecifierMark mark = true ∧ (∀ c ∈ path, isParentPath c = true) ∧
    text = clause mark ('.' :: '.' :: path)

def ParentFree (text : List Char) : Prop := ∀ part, ParentClause part → ¬ part <:+: text

def isClausePart (c : Char) : Bool :=
  c == 'f' || c == 'r' || c == 'o' || c == 'm' || c == ' ' || isSpecifierMark c || isParentPath c

def Unmarked (text : List Char) : Prop := ∀ c ∈ text, isSpecifierMark c = false

instance (text : List Char) : Decidable (Unmarked text) :=
  decidable_of_iff (text.all fun c => !isSpecifierMark c) (by simp [Unmarked])

@[simp] theorem unmarked_cons (c : Char) (rest : List Char) :
    Unmarked (c :: rest) ↔ isSpecifierMark c = false ∧ Unmarked rest :=
  List.forall_mem_cons

@[simp] theorem unmarked_append (front back : List Char) : Unmarked (front ++ back) ↔ Unmarked front ∧ Unmarked back :=
  List.forall_mem_append

theorem clause_letters (mark : Char) (specifier : List Char) :
    clause mark specifier = 'f' :: 'r' :: 'o' :: 'm' :: ' ' :: mark :: (specifier ++ [mark]) := by
  have letters : fromKeyword = ['f', 'r', 'o', 'm', ' '] := by decide
  rw [clause, letters]
  rfl

@[simp] theorem clause_length (mark : Char) (specifier : List Char) :
    (clause mark specifier).length = fromKeyword.length + specifier.length + 2 := by
  simp [clause]
  omega

theorem parent_clause_parts (part : List Char) (names : ParentClause part) : ∀ c ∈ part, isClausePart c = true := by
  obtain ⟨mark, path, marks, parent, rfl⟩ := names
  have ends : isClausePart mark = true := by simp [isClausePart, marks]
  have inside : ∀ c ∈ path, isClausePart c = true := fun c member => by simp [isClausePart, parent c member]
  have letters : ∀ c ∈ ['f', 'r', 'o', 'm', ' ', '.'], isClausePart c = true := List.all_eq_true.mp (by decide)
  intro c member
  rw [clause_letters] at member
  simp only [List.cons_append, List.mem_cons, List.mem_append, List.not_mem_nil, or_false] at member
  by_cases letter : c ∈ ['f', 'r', 'o', 'm', ' ', '.']
  · exact letters c letter
  · simp only [List.mem_cons, List.not_mem_nil, or_false, not_or] at letter
    simp only [letter, false_or] at member
    rcases member with rfl | member | rfl
    · exact ends
    · exact inside c member
    · exact ends

theorem parent_clause_ends (part : List Char) (names : ParentClause part) :
    ∃ front mark, part = front ++ [mark] ∧ isSpecifierMark mark = true ∧ 8 ≤ front.length := by
  obtain ⟨mark, path, marks, _, rfl⟩ := names
  refine ⟨'f' :: 'r' :: 'o' :: 'm' :: ' ' :: mark :: '.' :: '.' :: path, mark, clause_letters _ _, marks, ?_⟩
  simp only [List.length_cons]
  omega

theorem parent_free_part (part text : List Char) (free : ParentFree text) (inside : part <:+: text) : ParentFree part :=
  fun found names within => free found names (within.trans inside)

theorem parent_free_cons (c : Char) (rest : List Char) (free : ParentFree rest)
    (here : ∀ part, ParentClause part → ¬ part <+: c :: rest) : ParentFree (c :: rest) := by
  intro part names within
  rcases List.infix_cons_iff.mp within with starts | later
  · exact here part names starts
  · exact free part names later

theorem parent_free_other (c : Char) (rest : List Char) (other : c ≠ 'f') (free : ParentFree rest) :
    ParentFree (c :: rest) := by
  refine parent_free_cons c rest free fun part names starts => ?_
  obtain ⟨mark, path, _, _, rfl⟩ := names
  rw [clause_letters] at starts
  exact other (List.cons_prefix_cons.mp starts).1.symm

theorem parent_free_short (text : List Char) (short : text.length ≤ 8) : ParentFree text := by
  intro part names within
  obtain ⟨front, mark, rfl, _, long⟩ := parent_clause_ends part names
  have bound := within.length_le
  rw [List.length_append, List.length_singleton] at bound
  omega

theorem parent_free_stop (front back : List Char) (stop : Char) (foreign : isClausePart stop = false) :
    ParentFree (front ++ stop :: back) ↔ ParentFree front ∧ ParentFree back := by
  constructor
  · intro free
    refine ⟨parent_free_part _ _ free (List.prefix_append _ _).isInfix, parent_free_part _ _ free ?_⟩
    exact ((List.suffix_cons _ _).trans (List.suffix_append _ _)).isInfix
  · rintro ⟨freeFront, freeBack⟩
    induction front with
    | nil =>
        refine parent_free_other stop back ?_ freeBack
        rintro rfl
        exact absurd foreign (by decide)
    | cons c rest ih =>
        have later := ih (parent_free_part _ _ freeFront (List.suffix_cons c rest).isInfix)
        refine parent_free_cons c _ later fun part names starts => ?_
        have noStop : stop ∉ part := fun member => by
          rw [parent_clause_parts part names stop member] at foreign
          cases foreign
        exact freeFront part names ((prefix_before_stop part (c :: rest) back stop noStop).mp starts).isInfix

theorem parent_free_unmarked (front back : List Char) (free : ParentFree front) (unmarked : Unmarked back) :
    ParentFree (front ++ back) := by
  induction back generalizing front with
  | nil => rwa [List.append_nil]
  | cons c later ih =>
      rw [unmarked_cons] at unmarked
      rw [List.append_cons]
      refine ih (front ++ [c]) (fun part names within => ?_) unmarked.2
      obtain ⟨start, mark, rfl, marks, _⟩ := parent_clause_ends part names
      rcases List.infix_concat_iff.mp within with ending | inside
      -- A clause that ends with the text ends in a mark.
      · rcases List.suffix_concat_iff.mp ending with empty | ⟨other, same, _⟩
        · exact absurd empty (List.append_ne_nil_of_right_ne_nil start (List.cons_ne_nil mark []))
        · obtain ⟨_, last⟩ := List.append_inj' same rfl
          rw [(List.cons.inj last).1, unmarked.1] at marks
          cases marks
      · exact free _ names inside

theorem parent_free_line (front line back : List Char) (free : ParentFree (front ++ '\n' :: back)) (unmarked : Unmarked line) :
    ParentFree (front ++ '\n' :: (line ++ '\n' :: back)) := by
  have foreign : isClausePart '\n' = false := by decide
  rw [parent_free_stop _ _ _ foreign] at free ⊢
  rw [parent_free_stop _ _ _ foreign]
  exact ⟨free.1, parent_free_unmarked [] line (parent_free_short [] (Nat.zero_le 8)) unmarked, free.2⟩

theorem split_at_mark (mark : Char) (a b x y : List Char) (inA : mark ∉ a) (inB : mark ∉ b)
    (same : a ++ mark :: x = b ++ mark :: y) : a = b := by
  have whole : ∀ text : List Char, mark ∉ text → ∀ c ∈ text, (c != mark) = true := fun text free c member =>
    bne_iff_ne.mpr fun equal => free (equal ▸ member)
  have parts := congrArg (List.takeWhile (· != mark)) same
  rw [List.takeWhile_append_of_pos (whole a inA), List.takeWhile_append_of_pos (whole b inB)] at parts
  simpa using parts

structure PackageName (package : List Char) : Prop where
  unmarked : Unmarked package
  noSpace : ' ' ∉ package
  outside : ∀ path, (∀ c ∈ path, isParentPath c = true) → package ≠ '.' :: '.' :: path

theorem parent_free_spaceless (mark : Char) (front tail : List Char) (marks : isSpecifierMark mark = true)
    (noSpace : ' ' ∉ front) (free : ParentFree tail) : ParentFree (front ++ mark :: tail) := by
  have noLetter : mark ∉ fromKeyword := by
    intro member
    have letters : (fromKeyword.all fun c => !isSpecifierMark c) = true := by decide
    have letter := List.all_eq_true.mp letters mark member
    rw [marks] at letter
    cases letter
  induction front with
  | nil =>
      refine parent_free_other mark tail ?_ free
      rintro rfl
      exact absurd marks (by decide)
  | cons c rest ih =>
      refine parent_free_cons c _ (ih fun member => noSpace (List.mem_cons_of_mem c member)) fun part names starts => ?_
      obtain ⟨mark', path, _, _, rfl⟩ := names
      have keyword : fromKeyword <+: (c :: rest) ++ mark :: tail := (List.prefix_append _ _).trans starts
      have inside := (prefix_before_stop _ _ _ _ noLetter).mp keyword
      exact noSpace (inside.subset (by decide))

theorem parent_path_unmarked (path : List Char) (parent : ∀ c ∈ path, isParentPath c = true) :
    Unmarked ('.' :: '.' :: path) := by
  have dot : isSpecifierMark '.' = false := by decide
  refine List.forall_mem_cons.mpr ⟨dot, List.forall_mem_cons.mpr ⟨dot, fun c member => ?_⟩⟩
  have part := parent c member
  rw [isParentPath, Bool.or_eq_true, beq_iff_eq, beq_iff_eq] at part
  rcases part with rfl | rfl <;> decide

theorem clause_parent_free (mark : Char) (package tail : List Char) (marks : isSpecifierMark mark = true)
    (name : PackageName package) (free : ParentFree tail) : ParentFree (clause mark package ++ tail) := by
  have inner := parent_free_spaceless mark package tail marks name.noSpace free
  have other : mark ≠ 'f' := by
    rintro rfl
    exact absurd marks (by decide)
  have whole : clause mark package ++ tail = 'f' :: 'r' :: 'o' :: 'm' :: ' ' :: mark :: (package ++ mark :: tail) := by
    rw [clause_letters]
    simp only [List.cons_append, List.append_assoc, List.nil_append]
  rw [whole]
  refine parent_free_cons _ _ ?_ fun part names starts => ?_
  · exact parent_free_other _ _ (by decide) (parent_free_other _ _ (by decide) (parent_free_other _ _ (by decide)
      (parent_free_other _ _ (by decide) (parent_free_other _ _ other inner))))
  · obtain ⟨mark', path, _, parent, rfl⟩ := names
    rw [clause_letters] at starts
    simp only [List.cons_prefix_cons, true_and] at starts
    obtain ⟨rfl, after, same⟩ := starts
    rw [List.append_assoc, List.singleton_append] at same
    have noMark : ∀ text, Unmarked text → mark' ∉ text := fun text unmarked member => by
      rw [unmarked mark' member] at marks
      cases marks
    have equal := split_at_mark mark' _ _ _ _ (noMark _ (parent_path_unmarked path parent)) (noMark _ name.unmarked) same
    exact name.outside path parent equal.symm

theorem mark_stops (mark : Char) (marks : isSpecifierMark mark = true) : isParentPath mark = false := by
  rw [isSpecifierMark, Bool.or_eq_true, beq_iff_eq, beq_iff_eq] at marks
  rcases marks with rfl | rfl <;> decide

theorem parent_clause_read (mark : Char) (path after : List Char) (marks : isSpecifierMark mark = true)
    (parent : ∀ c ∈ path, isParentPath c = true) :
    parentClause? (clause mark ('.' :: '.' :: path) ++ after) =
      some (mark, (clause mark ('.' :: '.' :: path)).length) := by
  have stripped : strip fromKeyword (clause mark ('.' :: '.' :: path) ++ after) =
      some (mark :: '.' :: '.' :: (path ++ mark :: after)) := by
    rw [strip_eq_some_iff, clause]
    simp
  have taken : (path ++ mark :: after).takeWhile isParentPath = path := by
    rw [List.takeWhile_append_of_pos parent, List.takeWhile_cons_of_neg (by simp [mark_stops mark marks]), List.append_nil]
  rw [parentClause?, stripped]
  simp [taken, marks, Nat.add_assoc]

theorem parent_clause_found (text : List Char) (mark : Char) (size : Nat) (found : parentClause? text = some (mark, size)) :
    isSpecifierMark mark = true ∧ ∃ path after, (∀ c ∈ path, isParentPath c = true) ∧
      text = clause mark ('.' :: '.' :: path) ++ after ∧ size = (clause mark ('.' :: '.' :: path)).length := by
  rw [parentClause?] at found
  split at found
  · rename_i quote rest stripped
    dsimp only at found
    split at found
    · rename_i fits
      cases found
      obtain ⟨after, ending⟩ := List.head?_eq_some_iff.mp fits.2
      refine ⟨fits.1, rest.takeWhile isParentPath, after, List.all_eq_true.mp List.all_takeWhile, ?_,
        by simp [Nat.add_assoc]⟩
      have whole := List.take_append_drop (rest.takeWhile isParentPath).length rest
      rw [ending, ← List.prefix_iff_eq_take.mp (List.takeWhile_prefix isParentPath)] at whole
      rw [(strip_eq_some_iff _ _ _).mp stripped, clause]
      simp [whole]
    · cases found
  · cases found

theorem parent_clause_missing (text : List Char) (missing : parentClause? text = none) (part : List Char)
    (names : ParentClause part) : ¬ part <+: text := by
  rintro ⟨after, rfl⟩
  obtain ⟨mark, path, marks, parent, rfl⟩ := names
  rw [parent_clause_read mark path after marks parent] at missing
  cases missing

theorem substitute_kept (edit : List Char → Option (List Char × Nat)) (word text : List Char) (letter : Char)
    (edits : ∀ rest new size, edit rest = some (new, size) → ∃ more, new = letter :: more) (foreign : letter ∉ word)
    (starts : word <+: substitute edit 0 text) : word <+: text := by
  induction text generalizing word with
  | nil =>
      rw [substitute] at starts
      cases found : edit [] with
      | none =>
          rw [found] at starts
          exact starts
      | some result =>
          obtain ⟨new, size⟩ := result
          obtain ⟨more, rfl⟩ := edits _ _ _ found
          rw [found] at starts
          cases word with
          | nil => exact List.prefix_rfl
          | cons d later => exact absurd ((List.cons_prefix_cons.mp starts).1 ▸ List.mem_cons_self) foreign
  | cons c cs ih =>
      cases word with
      | nil => exact List.nil_prefix
      | cons d later =>
          cases found : edit (c :: cs) with
          | none =>
              simp only [substitute, found] at starts
              obtain ⟨rfl, rest⟩ := List.cons_prefix_cons.mp starts
              exact (List.prefix_cons_inj d).mpr (ih later (fun member => foreign (List.mem_cons_of_mem d member)) rest)
          | some result =>
              obtain ⟨new, size⟩ := result
              obtain ⟨more, rfl⟩ := edits _ _ _ found
              have first : ∃ tail, substitute edit 0 (c :: cs) = letter :: tail := by
                cases size <;> simp [substitute, found]
              obtain ⟨tail, same⟩ := first
              rw [same] at starts
              exact absurd ((List.cons_prefix_cons.mp starts).1 ▸ List.mem_cons_self) foreign

theorem parent_clause_letter (mark : Char) (path : List Char) (marks : isSpecifierMark mark = true)
    (parent : ∀ c ∈ path, isParentPath c = true) :
    'f' ∉ 'r' :: 'o' :: 'm' :: ' ' :: mark :: ('.' :: '.' :: path ++ [mark]) := by
  have other : 'f' ≠ mark := by
    rintro rfl
    exact absurd marks (by decide)
  have outside : 'f' ∉ path := fun member => absurd (parent 'f' member) (by decide)
  simp [other, outside]

theorem clauses_replaced (package text : List Char) (edit : List Char → Option (List Char × Nat)) (n : Nat)
    (name : PackageName package)
    (found : ∀ rest new size, edit rest = some (new, size) →
      0 < size ∧ ∃ mark, isSpecifierMark mark = true ∧ new = clause mark package)
    (missing : ∀ rest, edit rest = none → ∀ part, ParentClause part → ¬ part <+: rest) :
    ParentFree (substitute edit n text) := by
  have letter : ∀ rest new size, edit rest = some (new, size) → ∃ more, new = 'f' :: more := by
    intro rest new size same
    obtain ⟨_, mark, _, rfl⟩ := found rest new size same
    exact ⟨_, clause_letters mark package⟩
  fun_induction substitute edit n text with
  | case1 =>
      cases same : edit [] with
      | none => exact parent_free_short [] (Nat.zero_le 8)
      | some result =>
          obtain ⟨new, size⟩ := result
          obtain ⟨_, mark, marks, rfl⟩ := found [] new size same
          have alone := clause_parent_free mark package [] marks name (parent_free_short [] (Nat.zero_le 8))
          rwa [List.append_nil] at alone
  | case2 => exact parent_free_short [] (Nat.zero_le 8)
  | case3 n c cs ih => exact ih
  | case4 c cs kept ih =>
      refine parent_free_cons c _ ih fun part names starts => ?_
      obtain ⟨mark, path, marks, parent, same⟩ := names
      rw [same, clause_letters] at starts
      obtain ⟨rfl, rest⟩ := List.cons_prefix_cons.mp starts
      -- After its first letter a clause holds that letter no more, so all of it was kept from the text.
      have foreign := parent_clause_letter mark path marks parent
      have before := substitute_kept edit _ cs 'f' letter foreign rest
      refine missing _ kept part ⟨mark, path, marks, parent, same⟩ ?_
      rw [same, clause_letters]
      exact (List.prefix_cons_inj 'f').mpr before
  | case5 c cs new same ih => exact absurd (found _ _ _ same).1 (Nat.lt_irrefl 0)
  | case6 c cs new n same ih =>
      obtain ⟨_, mark, marks, rfl⟩ := found _ _ _ same
      exact clause_parent_free mark package _ marks name ih

theorem normalize_parent_free (package text : List Char) (name : PackageName package) :
    ParentFree (normalizeImports package text) := by
  apply clauses_replaced package text _ 0 name
  · intro rest new size same
    obtain ⟨⟨mark, length⟩, found, made⟩ := Option.map_eq_some_iff.mp same
    cases made
    obtain ⟨marks, path, after, _, _, rfl⟩ := parent_clause_found rest mark size found
    exact ⟨by simp, mark, marks, rfl⟩
  · intro rest same
    exact parent_clause_missing rest (Option.map_eq_none_iff.mp same)

structure Sealed (new : List Char) : Prop where
  unmarked : Unmarked new
  ends : ∃ front stop, new = front ++ [stop] ∧ isClausePart stop = false

theorem sealed_parent_free (front new tail : List Char) (closed : Sealed new) (freeFront : ParentFree front)
    (freeTail : ParentFree tail) : ParentFree (front ++ (new ++ tail)) := by
  obtain ⟨unmarked, inner, stop, rfl, foreign⟩ := closed
  rw [unmarked_append] at unmarked
  have start := parent_free_unmarked front inner freeFront unmarked.1
  have whole := (parent_free_stop (front ++ inner) tail stop foreign).mpr ⟨start, freeTail⟩
  simpa only [List.append_assoc, List.singleton_append] using whole

theorem substitute_sealed (edit : List Char → Option (List Char × Nat)) (n : Nat) (front text : List Char)
    (closed : ∀ rest new size, edit rest = some (new, size) → Sealed new) (fresh : n = 0 ∨ front = [])
    (free : ParentFree (front ++ text)) : ParentFree (front ++ substitute edit n text) := by
  fun_induction substitute edit n text generalizing front with
  | case1 =>
      cases same : edit [] with
      | none => exact free
      | some result =>
          obtain ⟨new, size⟩ := result
          have whole := sealed_parent_free front new [] (closed _ _ _ same) (by simpa using free)
            (parent_free_short [] (Nat.zero_le 8))
          rwa [List.append_nil] at whole
  | case2 => exact parent_free_part _ _ free (by simp)
  | case3 n c cs ih =>
      obtain rfl := fresh.resolve_left (Nat.succ_ne_zero n)
      exact ih [] (.inr rfl) (parent_free_part _ _ free (List.suffix_cons c cs).isInfix)
  | case4 c cs kept ih =>
      rw [List.append_cons] at free ⊢
      exact ih (front ++ [c]) (.inl rfl) free
  | case5 c cs new same ih =>
      have start := parent_free_part _ _ free (List.prefix_append front (c :: cs)).isInfix
      have rest := parent_free_part _ _ free (List.suffix_append front (c :: cs)).isInfix
      exact sealed_parent_free front new _ (closed _ _ _ same) start (ih [c] (.inl rfl) rest)
  | case6 c cs new n same ih =>
      have start := parent_free_part _ _ free (List.prefix_append front (c :: cs)).isInfix
      have rest := parent_free_part cs _ free ((List.suffix_cons c cs).trans (List.suffix_append front _)).isInfix
      exact sealed_parent_free front new _ (closed _ _ _ same) start (ih [] (.inr rfl) rest)

theorem replace_parent_free (pattern new text : List Char) (closed : Sealed new) (free : ParentFree text) :
    ParentFree (replaceAll pattern new text) := by
  refine substitute_sealed _ 0 [] text (fun rest other size same => ?_) (.inl rfl) free
  split at same
  · cases same
    exact closed
  · cases same

theorem regroup_import (hook module a b c front brace clause ending : List Char) (first : a = front)
    (second : b = brace ++ clause) (third : c = ending) :
    a ++ hook ++ b ++ module ++ c = (front ++ hook ++ brace) ++ (clause ++ (module ++ ending)) := by
  subst first second third
  simp only [List.append_assoc]

theorem hook_import_parts (hook module : List Char) :
    hookImport hook module =
      (['i', 'm', 'p', 'o', 'r', 't', ' ', '\x7b', ' '] ++ hook ++ [' ', '\x7d']) ++
        ([' ', 'f', 'r', 'o', 'm', ' ', '\x27'] ++ (module ++ ['\x27', ';', '\n'])) :=
  regroup_import hook module _ _ _ _ _ _ _ (by decide) (by decide) (by decide)

theorem hook_names_sealed (hook : List Char) (unmarked : Unmarked hook) :
    Sealed (['i', 'm', 'p', 'o', 'r', 't', ' ', '\x7b', ' '] ++ hook ++ [' ', '\x7d']) := by
  constructor
  · rw [unmarked_append, unmarked_append]
    exact ⟨⟨by decide, unmarked⟩, by decide⟩
  · refine ⟨['i', 'm', 'p', 'o', 'r', 't', ' ', '\x7b', ' '] ++ hook ++ [' '], '\x7d', ?_, by decide⟩
    rw [List.append_assoc _ [' ']]
    rfl

theorem import_hook_parent_free (hook module text : List Char) (unmarked : Unmarked hook) (closed : Sealed module)
    (free : ParentFree text) : ParentFree (importHook hook module text) := by
  rw [importHook]
  split
  · exact free
  · rename_i before after found
    rw [split_first_join _ _ _ _ found, List.append_assoc] at free
    have freeBefore := parent_free_part _ _ free (List.prefix_append before (importKeyword ++ after)).isInfix
    have freeAfter := parent_free_part _ _ free (List.suffix_append before (importKeyword ++ after)).isInfix
    have ending : ParentFree (['\x27', ';', '\n'] ++ (importKeyword ++ after)) :=
      parent_free_other _ _ (by decide) (parent_free_other _ _ (by decide) (parent_free_other _ _ (by decide) freeAfter))
    have clause : ParentFree [' ', 'f', 'r', 'o', 'm', ' ', '\x27'] := parent_free_short _ (by decide)
    have line := sealed_parent_free _ module _ closed clause ending
    have whole := sealed_parent_free before _ _ (hook_names_sealed hook unmarked) freeBefore line
    rw [hook_import_parts]
    simpa only [List.append_assoc] using whole

theorem indent_unmarked (indent : List Char) (blank : ∀ c ∈ indent, isIndent c = true) : Unmarked indent := by
  intro c member
  have indents := blank c member
  rw [isIndent, Bool.or_eq_true, beq_iff_eq, beq_iff_eq] at indents
  rcases indents with rfl | rfl <;> decide

theorem hook_block_line (indent hook : List Char) (blank : ∀ c ∈ indent, isIndent c = true) (unmarked : Unmarked hook) :
    ∃ line, hookBlock indent hook = line ++ ['\n'] ∧ Unmarked line := by
  have clear := indent_unmarked indent blank
  refine ⟨blockLines indent hook, hook_block_lines indent hook, ?_⟩
  have opening : Unmarked (blockOpening indent) := by
    rw [blockOpening, unmarked_append, unmarked_append, unmarked_append]
    exact ⟨⟨⟨clear, by decide⟩, clear⟩, by decide⟩
  have ending : Unmarked (['t', 'h', 'i', 's', ')', ';', '\n'] ++ indent ++ [' ', ' ', '\x7d', ')', ';', '\n']) := by
    rw [unmarked_append, unmarked_append]
    exact ⟨⟨by decide, clear⟩, by decide⟩
  rw [blockLines, unmarked_append, unmarked_append, unmarked_cons]
  exact ⟨opening, unmarked, by decide, ending⟩

theorem hook_pieces_parent_free (hook front before : List Char) (file : String) (pieces settled : List (List Char))
    (unmarked : Unmarked hook) (run : hookPieces hook file before pieces = .ok settled)
    (free : ParentFree (front ++ pieces.flatten)) : ParentFree (front ++ settled.flatten) := by
  induction pieces generalizing before front settled with
  | nil =>
      cases run
      exact free
  | cons piece later ih =>
      rw [hookPieces] at run
      split at run
      · cases run
      · rename_i rest hooked
        split at run
        · cases run
        · rename_i declaration body found
          rw [List.flatten_cons, ← List.append_assoc] at free
          have settledFree := ih _ _ _ hooked free
          dsimp only at run
          split at run
          · cases run
            rwa [List.flatten_cons, ← List.append_assoc]
          · cases run
            obtain ⟨line, block, clear⟩ := hook_block_line _ hook (last_indent_blank before) unmarked
            have opening : bodyOpening = ['\x7b'] ++ ['\n'] := by decide
            have lines := parent_free_line (front ++ declaration ++ ['\x7b']) line (body ++ rest.flatten)
            rw [split_first_join _ _ _ _ found, opening] at settledFree
            rw [List.flatten_cons, block, opening]
            simp only [List.append_assoc, List.singleton_append] at settledFree lines ⊢
            exact lines settledFree clear

theorem skip_test_parent_free (file test : String) (text edited : List Char) (run : skipTest file test text = .ok edited)
    (free : ParentFree text) : ParentFree edited := by
  obtain ⟨above, d, after, rfl, _, _, rfl⟩ := skip_test_spec file test text edited run
  have keyword : testKeyword = ['i', 't'] := by decide
  have mark : skipMark = ['.', 's', 'k', 'i', 'p'] := by decide
  have letter : isClausePart 't' = false := by decide
  have bracket : isClausePart 'p' = false := by decide
  rw [keyword_letters, List.append_assoc (above ++ ['i']), List.singleton_append, parent_free_stop _ _ _ letter] at free
  have skipped : ParentFree (['.', 's', 'k', 'i'] ++ 'p' :: '(' :: d :: after) :=
    (parent_free_stop _ _ _ bracket).mpr ⟨parent_free_short _ (by decide), free.2⟩
  have whole := (parent_free_stop (above ++ ['i']) _ 't' letter).mpr ⟨free.1, skipped⟩
  rw [keyword_letters, mark]
  simpa only [List.append_assoc, List.cons_append, List.nil_append] using whole

theorem skip_tests_parent_free (file : String) (tests : List String) (text edited : List Char)
    (run : skipTests file tests text = .ok edited) (free : ParentFree text) : ParentFree edited := by
  induction tests generalizing text with
  | nil =>
      cases run
      exact free
  | cons test later ih =>
      rw [skipTests] at run
      split at run
      · cases run
      · rename_i skipped first
        exact ih skipped run (skip_test_parent_free file test text skipped first free)

theorem identifier_unmarked (name : List Char) (parts : ∀ c ∈ name, isIdentifierPart c = true) : Unmarked name := by
  intro c member
  have single := identifier_part_ne c '\x27' (parts c member) (by decide) (by decide)
  have double := identifier_part_ne c '\x22' (parts c member) (by decide) (by decide)
  simp [isSpecifierMark, single, double]

theorem script_sealed (module : List Char) (unmarked : Unmarked module) (script : ".js".toList <:+ module) :
    Sealed module := by
  obtain ⟨front, rfl⟩ := script
  have letters : ".js".toList = ['.', 'j'] ++ ['s'] := by decide
  exact ⟨unmarked, front ++ ['.', 'j'], 's', by rw [letters, List.append_assoc], by decide⟩

theorem body_parent_free (config : Config) (file : String) (source text : List Char) (excluded : List String)
    (package : PackageName config.origin.package.toList) (module : Sealed config.setupModule.toList)
    (hook : Unmarked config.harness.hookFunction.toList) (run : body config file source excluded = .ok text) :
    ParentFree text := by
  have redirectedFree : ParentFree (redirected config source) :=
    replace_parent_free _ _ _ module (normalize_parent_free _ _ package)
  have importedFree : ParentFree (imported config source) := import_hook_parent_free _ _ _ hook module redirectedFree
  rw [body] at run
  split at run
  · cases run
  · rename_i hooked hooking
    rw [hookSuites] at hooking
    dsimp only at hooking
    split at hooking
    · cases hooking
    · rename_i settled settles
      cases hooking
      refine skip_tests_parent_free file excluded _ text run ?_
      refine hook_pieces_parent_free _ _ _ _ _ _ hook settles ?_
      rwa [cut_suites_join]

end Adaptation

theorem no_parent_import_survives (config : Config) (url file source out : String) (excluded : List String)
    (package : PackageName config.origin.package.toList)
    (clear : Unmarked config.setupModule.toList) (script : ".js".toList <:+ config.setupModule.toList)
    (hook : ∀ c ∈ config.harness.hookFunction.toList, isIdentifierPart c = true)
    (adapted : adapt config url file source excluded = .ok out) :
    ∃ head text, header config url file = .ok head ∧ out = head ++ String.ofList text ∧ ParentFree text := by
  rw [adapt] at adapted
  split at adapted
  · cases adapted
  · rename_i head headed
    split at adapted
    · cases adapted
    · rename_i text run
      cases adapted
      have free := body_parent_free config file source.toList text excluded package (script_sealed _ clear script)
        (identifier_unmarked _ hook) run
      exact ⟨head, text, headed, rfl, free⟩

theorem sample_imports_no_parent : PackageName Config.sample.origin.package.toList ∧
    Unmarked Config.sample.setupModule.toList ∧ ".js".toList <:+ Config.sample.setupModule.toList ∧
    (∀ c ∈ Config.sample.harness.hookFunction.toList, isIdentifierPart c = true) ∧
    ¬ ParentFree "import a from '../..'\n".toList ∧
    adapt Config.sample "http://h/1/t/a.ts" "a.ts" "import a from '../..'\n" [] =
      .ok "// H\n// http://r/1/t/a.ts\n\nimport \x7b hook \x7d from './s.js';\nimport a from 'p'\n" ∧
    ∃ head text, header Config.sample "http://h/1/t/a.ts" "a.ts" = .ok head ∧
      "// H\n// http://r/1/t/a.ts\n\nimport \x7b hook \x7d from './s.js';\nimport a from 'p'\n" =
        head ++ String.ofList text ∧ ParentFree text := by
  have letters : Config.sample.origin.package.toList = ['p'] ∧
      Config.sample.setupModule.toList = ['.', '/', 's', '.', 'j', 's'] := by decide
  have package : PackageName Config.sample.origin.package.toList := by
    rw [letters.1]
    exact ⟨by decide, by decide, fun _ _ same => absurd (List.cons.inj same).1 (by decide)⟩
  have clear : Unmarked Config.sample.setupModule.toList := by
    rw [letters.2]
    decide
  have script : ".js".toList <:+ Config.sample.setupModule.toList := ⟨['.', '/', 's'], by decide⟩
  have hook : ∀ c ∈ Config.sample.harness.hookFunction.toList, isIdentifierPart c = true :=
    List.all_eq_true.mp (by decide)
  have before : ¬ ParentFree "import a from '../..'\n".toList := fun free =>
    free (clause '\x27' ['.', '.', '/', '.', '.']) ⟨'\x27', ['/', '.', '.'], by decide, by simp [isParentPath], rfl⟩
      ⟨"import a ".toList, ['\n'], by decide⟩
  have adapted : (adapt Config.sample "http://h/1/t/a.ts" "a.ts" "import a from '../..'\n" []).toOption =
      some "// H\n// http://r/1/t/a.ts\n\nimport \x7b hook \x7d from './s.js';\nimport a from 'p'\n" := by
    decide +kernel
  have run := except_of_option _ _ adapted
  exact ⟨package, clear, script, hook, before, run, no_parent_import_survives _ _ _ _ _ _ package clear script hook run⟩

end SuiteSync
