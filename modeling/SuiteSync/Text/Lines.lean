set_option autoImplicit false

namespace SuiteSync.Text

def lines : List Char → List (List Char)
  | [] => []
  | '\n' :: rest => [] :: lines rest
  | '\r' :: '\n' :: rest => [] :: lines rest
  | c :: rest =>
      match lines rest with
      | [] => [[c]]
      | line :: later => (c :: line) :: later

def lineFeeds (text : List Char) : Nat := text.count '\n'

def lastLine (text : List Char) : List Char := (text.reverse.takeWhile (· != '\n')).reverse

@[simp] theorem last_line_after_feed (front back : List Char) : lastLine (front ++ '\n' :: back) = lastLine back := by
  rw [lastLine, lastLine, List.reverse_append, List.reverse_cons, List.append_assoc, List.singleton_append,
    List.takeWhile_append, List.takeWhile_cons_of_neg (by decide)]
  split
  · rename_i whole
    rw [List.append_nil, (List.takeWhile_prefix _).eq_of_length whole]
  · rfl

end SuiteSync.Text
