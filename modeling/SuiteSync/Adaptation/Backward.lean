import SuiteSync.Adaptation.Exclusions

set_option autoImplicit false

namespace SuiteSync.Adaptation

open Text

def testOpening : List Char := testKeyword ++ ['(']

@[simp] theorem test_opening_length : testOpening.length = 3 := rfl

def lastStart? (pattern text : List Char) : Option Nat :=
  (splitFirst? pattern.reverse text.reverse).map fun place => place.2.length

inductive Turn where
  | settled (start : Option Nat)
  | back (stop : Nat)

def turnAt (before : List Char) (stop : Nat) : Turn :=
  match lastStart? testOpening (before.take stop) with
  | none => .settled none
  | some start => if standsAlone (before.take start).reverse then .settled (some start) else .back start

theorem last_start_split (pattern text : List Char) (start : Nat) (found : lastStart? pattern text = some start) :
    ∃ above below, text = above ++ pattern ++ below ∧ above.length = start := by
  obtain ⟨⟨below, above⟩, split, same⟩ := Option.map_eq_some_iff.mp found
  have joined := congrArg List.reverse (split_first_join _ _ _ _ split)
  refine ⟨above.reverse, below.reverse, by simpa using joined, ?_⟩
  rw [List.length_reverse]
  exact same

theorem turn_back_less (before : List Char) (stop earlier : Nat) (back : turnAt before stop = .back earlier) :
    earlier < stop := by
  rw [turnAt] at back
  split at back
  · cases back
  · rename_i start found
    split at back
    · cases back
    · cases back
      obtain ⟨above, below, split, rfl⟩ := last_start_split _ _ _ found
      have long := congrArg List.length split
      simp only [List.length_take, List.length_append, test_opening_length] at long
      omega

def startAbove? (before : List Char) (stop : Nat) : Option Nat :=
  match _turned : turnAt before stop with
  | .settled start => start
  | .back earlier => startAbove? before earlier
termination_by stop
decreasing_by
  exact turn_back_less before stop earlier _turned

def markerBefore? (text : List Char) (place length : Nat) : Option Nat :=
  let before := text.take place
  match startAbove? before before.length with
  | none => none
  | some start =>
      let gap := before.drop (start + testOpening.length)
      if leadsToName gap && closesName gap (text.drop (place + length)) then some start else none

end SuiteSync.Adaptation
