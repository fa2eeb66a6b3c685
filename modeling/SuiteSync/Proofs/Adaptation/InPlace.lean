import SuiteSync.Adaptation.Suites
import SuiteSync.Proofs.Text.Search

set_option autoImplicit false

/- Hooking in place. The offsets of all suites are collected first and then used from the last to the first, on a text
that grows behind them; that comes to the same as settling the pieces of the text one by one. -/

namespace SuiteSync.Adaptation

open Text

def suiteOffsets : Bool → Nat → List Char → List Nat
  | _, _, [] => []
  | separated, position, c :: rest =>
      let later := suiteOffsets (separatesSuite c) (position + 1) rest
      if separated && suiteStart.isPrefixOf (c :: rest) then position :: later else later

def hookBetween (hook : List Char) (file : String) (start limit : Nat) (text : List Char) :
    Except AdaptError (List Char) :=
  match splitFirst? bodyOpening ((text.take limit).drop start) with
  | none => .error (.suiteBodyNotFound file (1 + lineFeeds (text.take start)))
  | some (declaration, _) =>
      let bodyStart := start + declaration.length + bodyOpening.length
      let block := hookBlock (lastIndent (text.take start)) hook
      if block.isPrefixOf (text.drop bodyStart) then .ok text
      else .ok (text.take bodyStart ++ block ++ text.drop bodyStart)

def hookBackwards (hook : List Char) (file : String) : List Nat → List Char → Except AdaptError (List Char)
  | [], text => .ok text
  | start :: later, text =>
      match hookBackwards hook file later text with
      | .error e => .error e
      | .ok edited => hookBetween hook file start (later.head?.getD edited.length) edited

def hookInPlace (hook : List Char) (file : String) (text : List Char) : Except AdaptError (List Char) :=
  hookBackwards hook file (suiteOffsets false 0 text) text

def pieceOffsets : Nat → List (List Char) → List Nat
  | _, [] => []
  | position, piece :: later => position :: pieceOffsets (position + piece.length) later

theorem suite_offsets_cut (separated : Bool) (position : Nat) (text : List Char) :
    suiteOffsets separated position text =
      pieceOffsets (position + (cutSuites separated text).1.length) (cutSuites separated text).2 := by
  induction text generalizing separated position with
  | nil => rfl
  | cons c rest ih =>
      have later := ih (separatesSuite c) (position + 1)
      simp only [suiteOffsets, cutSuites]
      by_cases declared : (separated && suiteStart.isPrefixOf (c :: rest)) = true
      · rw [if_pos declared, if_pos declared, later]
        simp only [pieceOffsets, List.length_nil, List.length_cons, Nat.add_zero, Nat.add_assoc, Nat.add_comm 1]
      · rw [if_neg declared, if_neg declared, later]
        simp only [List.length_cons, Nat.add_assoc, Nat.add_comm 1]

theorem next_offset (position : Nat) (pieces settled : List (List Char)) (hook before : List Char) (file : String)
    (run : hookPieces hook file before pieces = .ok settled) :
    (pieceOffsets position pieces).head?.getD (position + settled.flatten.length) = position := by
  cases pieces with
  | nil =>
      cases run
      rfl
  | cons piece later => rfl

theorem hook_between_piece (hook before piece after : List Char) (file : String) :
    hookBetween hook file before.length (before ++ piece).length (before ++ piece ++ after) =
      match splitFirst? bodyOpening piece with
      | none => .error (.suiteBodyNotFound file (1 + lineFeeds before))
      | some (declaration, body) =>
          let block := hookBlock (lastIndent before) hook
          if block.isPrefixOf (body ++ after) then .ok (before ++ piece ++ after)
          else .ok (before ++ (declaration ++ bodyOpening ++ block ++ body) ++ after) := by
  have own : ((before ++ piece ++ after).take (before ++ piece).length).drop before.length = piece := by
    rw [List.take_left, List.drop_left]
  have front : (before ++ piece ++ after).take before.length = before := by
    rw [List.append_assoc, List.take_left]
  rw [hookBetween, own, front]
  cases found : splitFirst? bodyOpening piece with
  | none => rfl
  | some place =>
      obtain ⟨declaration, body⟩ := place
      have whole : before ++ piece ++ after = (before ++ declaration ++ bodyOpening) ++ (body ++ after) := by
        rw [split_first_join _ _ _ _ found]
        simp only [List.append_assoc]
      have position : before.length + declaration.length + bodyOpening.length =
          (before ++ declaration ++ bodyOpening).length := by
        rw [List.length_append, List.length_append]
      simp only [position]
      rw [whole, List.take_left, List.drop_left]
      simp only [List.append_assoc]

theorem hook_backwards_pieces (hook before : List Char) (file : String) (pieces : List (List Char)) :
    hookBackwards hook file (pieceOffsets before.length pieces) (before ++ pieces.flatten) =
      (hookPieces hook file before pieces).map fun settled => before ++ settled.flatten := by
  induction pieces generalizing before with
  | nil => rfl
  | cons piece later ih =>
      have tail := ih (before ++ piece)
      rw [List.append_assoc, List.length_append] at tail
      rw [pieceOffsets, hookBackwards, List.flatten_cons, tail, hookPieces]
      cases run : hookPieces hook file (before ++ piece) later with
      | error e => rfl
      | ok settled =>
          -- The suites behind this piece have been hooked, and none of those edits lies before its end.
          have limit := next_offset (before.length + piece.length) later settled hook _ file run
          have long : (before ++ piece ++ settled.flatten).length = before.length + piece.length + settled.flatten.length := by
            rw [List.length_append, List.length_append]
          simp only [Except.map, long, limit]
          rw [← List.length_append, hook_between_piece]
          cases splitFirst? bodyOpening piece with
          | none => rfl
          | some place =>
              obtain ⟨declaration, body⟩ := place
              simp only
              split
              · simp only [List.flatten_cons, List.append_assoc]
              · simp only [List.flatten_cons, List.append_assoc]

theorem hook_in_place_settles (hook text : List Char) (file : String) :
    hookInPlace hook file text = hookSuites hook file text := by
  have whole := cut_suites_join false text
  have backwards := hook_backwards_pieces hook (cutSuites false text).1 file (cutSuites false text).2
  rw [whole] at backwards
  rw [hookInPlace, suite_offsets_cut, Nat.zero_add, backwards, hook_suites_pieces]

end SuiteSync.Adaptation
